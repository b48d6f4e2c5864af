import DirectiveBinding.Proofs.Matching.Report
import DirectiveBinding.Proofs.Resolution.Selection

/-! What a resolution rests on.

The targets of a binding come from the directives of the catalog that match what the kind of
the binding looks at: the implicit template for a star attribute, the element for any other
(`Node.queryFor?`). A member that a target carries is stored in its directive under the name
of the binding (`Target.Stored`). Both are shown target by target (`resolve_sound`). What
is kept apart by kind is said of the whole list: star attributes reach structural directives
alone, plain attributes none of them but on a template, and references name what is exported
(`Resolver.Grounded`). -/
namespace DirectiveBinding

open Text

variable {r : Resolver} {n : Node} {q : Query} {m : Match} {name : String} {t : Target}

/-! ### Matched directives -/

/-- Some alternative of the selector fits the element. -/
def Directive.Fits (d : Directive) (compare : Bool) (q : Query) : Prop :=
  ∃ a ∈ d.selector.alternatives, a.Fits compare q

instance (d : Directive) (compare : Bool) (q : Query) : Decidable (d.Fits compare q) :=
  inferInstanceAs (Decidable (∃ a ∈ d.selector.alternatives, a.Fits compare q))

namespace Resolver

/-- The directives of the catalog that match an element, in order. -/
def matched (r : Resolver) (q : Query) : List Directive :=
  r.catalog.entries.filter fun d => d.Fits r.settings.matchAttributeValues q

theorem map_directive_eq_matched : (r.matching q).map Match.directive = r.matched q := by
  rw [map_directive_matching, matched]
  apply List.filter_congr
  intro d _
  rw [Bool.eq_iff_iff, Selector.isSome_firstHolding?_iff, decide_eq_true_eq]
  rfl

theorem mem_matched_of_mem (hm : m ∈ r.matching q) : m.directive ∈ r.matched q := by
  rw [← map_directive_eq_matched]
  exact List.mem_map_of_mem hm

end Resolver

/-! ### Targets -/

namespace Target

def isInput : Target → Bool
  | input _ _ => true
  | _ => false

/-- Whether the target belongs to a structural directive. -/
def isStructural (t : Target) : Bool := t.directive?.any Directive.isTemplate

/-- The members that the target carries are those its directive has under the name of a binding. -/
def Stored (name : String) : Target → Prop
  | input d p => d.inputs.find? name = some p
  | output d p => d.outputs.find? name = some p
  | twoWay d i o => d.inputs.find? name = some i ∧ d.outputs.find? (name ++ "Change") = some o
  | directive _ | exported _ | element _ => True

/-- The target belongs to a match, and carries what is stored under the name. -/
structure Of (t : Target) (m : Match) (name : String) : Prop where
  directive : t.directive? = some m.directive
  stored : t.Stored name

end Target

namespace Match

theorem of_input? (h : m.input? name = some t) : t.Of m name := by
  obtain ⟨p, found, rfl⟩ := Option.map_eq_some_iff.1 h
  exact ⟨rfl, found⟩

theorem of_output? (h : m.output? name = some t) : t.Of m name := by
  obtain ⟨p, found, rfl⟩ := Option.map_eq_some_iff.1 h
  exact ⟨rfl, found⟩

theorem of_twoWay? (h : m.twoWay? name = some t) : t.Of m name := by
  obtain ⟨⟨i, o⟩, found, rfl⟩ := Option.map_eq_some_iff.1 h
  obtain ⟨input, hinput, rest⟩ := Option.bind_eq_some_iff.1 found
  obtain ⟨output, houtput, same⟩ := Option.bind_eq_some_iff.1 rest
  cases same
  rw [Directive.changeName_eq] at houtput
  exact ⟨rfl, hinput, houtput⟩

theorem isInput_of_input? (h : m.input? name = some t) : t.isInput = true := by
  obtain ⟨p, -, rfl⟩ := Option.map_eq_some_iff.1 h
  rfl

end Match

/-! ### Resolutions, target by target -/

/-- What a binding of a kind is resolved against. -/
def Node.queryFor? (n : Node) : BindingKind → Option Query
  | .structural => n.templateQuery?
  | _ => some n.query

namespace Resolver

/-- The target rests on a match on the element, or is an element and rests on nothing. -/
def Sound (r : Resolver) (q : Query) (name : String) (t : Target) : Prop :=
  t.Stored name ∧ ∀ d, t.directive? = some d → d ∈ r.matched q

theorem sound_of_match (hm : m ∈ r.matching q) (of : t.Of m name) : r.Sound q name t := by
  refine ⟨of.stored, ?_⟩
  intro d found
  rw [of.directive] at found
  cases found
  exact mem_matched_of_mem hm

theorem sound_of_mem_filterMap {f : Match → Option Target}
    (of : ∀ m t, f m = some t → t.Of m name) (ht : t ∈ (r.matching q).filterMap f) :
    r.Sound q name t := by
  obtain ⟨m, hm, found⟩ := List.mem_filterMap.1 ht
  exact sound_of_match hm (of m t found)

theorem mem_structuralMatching_iff : m ∈ r.structuralMatching q name ↔
    m ∈ r.matching q ∧ m.isThrough name = true ∧ m.directive.isTemplate = true := by
  rw [structuralMatching, List.mem_filter, mem_matchingThrough_iff, and_assoc]

/-- A star attribute denotes the structural directives it selects, and the inputs of its name. -/
theorem mem_resolveStructural (ht : t ∈ (r.resolveStructural n name).targets) :
    ∃ q m, n.templateQuery? = some q ∧ m ∈ r.structuralMatching q name ∧ t.Of m name := by
  unfold resolveStructural at ht
  split at ht
  · cases ht
  · next q seen =>
    rw [Resolution.targets_ofTargets] at ht
    rcases List.mem_append.1 ht with selected | input
    · obtain ⟨m, hm, rfl⟩ := List.mem_map.1 selected
      exact ⟨q, m, seen, hm, rfl, trivial⟩
    · obtain ⟨m, hm, found⟩ := List.mem_filterMap.1 input
      exact ⟨q, m, seen, hm, Match.of_input? found⟩

theorem mem_resolvePlain (ht : t ∈ (r.resolvePlain n name).targets) :
    ∃ m ∈ r.plainMatching n, t.Of m name := by
  obtain ⟨m, hm, ⟨rfl, -⟩ | input⟩ := mem_resolvePlain_iff.1 ht
  · exact ⟨m, hm, rfl, trivial⟩
  · exact ⟨m, hm, Match.of_input? input⟩

theorem mem_resolveReference {value : Option String}
    (ht : t ∈ (r.resolveReference n value).targets) : r.Sound n.query name t := by
  simp only [resolveReference, Resolution.targets_ofTargets, referenceTargets] at ht
  split at ht
  · obtain ⟨m, hm, rfl⟩ := List.mem_map.1 ht
    exact sound_of_match (List.mem_filter.1 hm).1 ⟨rfl, trivial⟩
  · split at ht
    · next m found =>
      obtain rfl := List.mem_singleton.1 ht
      exact sound_of_match (List.mem_of_find?_eq_some found) ⟨rfl, trivial⟩
    · obtain rfl := List.mem_singleton.1 ht
      refine ⟨trivial, ?_⟩
      intro d found
      cases found

/-- Every target of a binding rests on what its kind looks at. -/
theorem resolve_sound {b : Binding} {value : Option String}
    (ht : t ∈ (r.resolve n b value).targets) :
    ∃ q, n.queryFor? b.kind = some q ∧ r.Sound q b.name t := by
  obtain ⟨kind, name⟩ := b
  cases kind with
  | plain =>
    obtain ⟨m, hm, of⟩ := mem_resolvePlain ht
    exact ⟨n.query, rfl, sound_of_match (mem_plainMatching_iff.1 hm).1 of⟩
  | property =>
    simp only [resolve, resolveProperty, Resolution.targets_ofTargets] at ht
    exact ⟨n.query, rfl, sound_of_mem_filterMap (fun _ _ => Match.of_input?) ht⟩
  | event =>
    simp only [resolve, resolveEvent, Resolution.targets_ofTargets] at ht
    exact ⟨n.query, rfl, sound_of_mem_filterMap (fun _ _ => Match.of_output?) ht⟩
  | twoWay =>
    simp only [resolve, resolveTwoWay, Resolution.targets_ofTargets] at ht
    exact ⟨n.query, rfl, sound_of_mem_filterMap (fun _ _ => Match.of_twoWay?) ht⟩
  | structural =>
    obtain ⟨q, m, seen, hm, of⟩ := mem_resolveStructural ht
    exact ⟨q, seen, sound_of_match (mem_structuralMatching_iff.1 hm).1 of⟩
  | reference => exact ⟨n.query, rfl, mem_resolveReference ht⟩
  | letVariable => cases ht

/-! ### Plain attributes and references -/

/-- Off templates a plain attribute sets the inputs that a property binding sets, but for those of
structural directives. -/
theorem filter_isInput_resolvePlain (off : n.isTemplate r.settings = false) :
    (r.resolvePlain n name).targets.filter Target.isInput =
      (r.resolveProperty n.query name).targets.filter fun t => !t.isStructural := by
  have selected (ms : List Match) :
      (ms.map fun m => Target.directive m.directive).filter Target.isInput = [] := by
    refine List.filter_eq_nil_iff.2 ?_
    intro t ht
    obtain ⟨m, -, rfl⟩ := List.mem_map.1 ht
    exact Bool.false_ne_true
  have inputs (ms : List Match) : (ms.filterMap fun m => m.input? name).filter Target.isInput =
      ms.filterMap fun m => m.input? name := by
    refine List.filter_eq_self.2 ?_
    intro t ht
    obtain ⟨m, -, found⟩ := List.mem_filterMap.1 ht
    exact Match.isInput_of_input? found
  rw [resolvePlain, Resolution.targets_ofTargets, attributeTargets, List.filter_append, selected,
    inputs, List.nil_append, resolveProperty, Resolution.targets_ofTargets, plainMatching, off,
    List.filterMap_filter, List.filter_filterMap]
  refine List.filterMap_congr fun m _ => ?_
  cases found : m.input? name with
  | none => simp
  | some t => simp [Option.filter_some, Target.isStructural, (Match.of_input? found).directive]

theorem isStructural_of_mem_resolvePlain (off : n.isTemplate r.settings = false)
    (ht : t ∈ (r.resolvePlain n name).targets) : t.isStructural = false := by
  obtain ⟨m, hm, of⟩ := mem_resolvePlain ht
  have reached := (mem_plainMatching_iff.1 hm).2
  rw [off, Bool.false_or, Bool.not_eq_true'] at reached
  rw [Target.isStructural, of.directive, Option.any_some, reached]

/-- The first component that matches, or the element itself. -/
def host (r : Resolver) (n : Node) : Target :=
  match (r.matched n.query).find? Directive.isComponent with
  | some d => .directive d
  | none => .element n.id

theorem targets_resolveReference_some {value : Option String} {exportName : String}
    (named : value.bind nonblank? = some exportName) :
    (r.resolveReference n value).targets =
      ((r.matched n.query).filter fun d => d.isExportedAs exportName).map .exported := by
  simp only [resolveReference, Resolution.targets_ofTargets, referenceTargets, named]
  rw [← map_directive_eq_matched, List.filter_map, List.map_map]
  rfl

theorem targets_resolveReference_none {value : Option String}
    (unnamed : value.bind nonblank? = none) :
    (r.resolveReference n value).targets = [r.host n] := by
  have first : (r.matched n.query).find? Directive.isComponent =
      ((r.matching n.query).find? fun m => m.directive.isComponent).map Match.directive := by
    rw [← map_directive_eq_matched, List.find?_map]
    rfl
  simp only [resolveReference, Resolution.targets_ofTargets, referenceTargets, unnamed, host, first]
  cases (r.matching n.query).find? fun m => m.directive.isComponent with
  | none => rfl
  | some m => rfl

/-! ### Grounded resolutions -/

/-- Whatever its kind, a binding is left unresolved if it has no targets. -/
theorem exists_resolve_eq (r : Resolver) (n : Node) (b : Binding) (value : Option String) :
    ∃ targets, r.resolve n b value = .ofTargets targets := by
  obtain ⟨kind, name⟩ := b
  cases kind with
  | structural =>
    simp only [resolve, resolveStructural]
    split
    · exact ⟨[], rfl⟩
    · exact ⟨_, rfl⟩
  | letVariable => exact ⟨[], rfl⟩
  | plain | property | event | twoWay | reference => exact ⟨_, rfl⟩

/-- What the resolution `res` of a binding rests on. -/
structure Grounded (r : Resolver) (n : Node) (b : Binding) (value : Option String)
    (res : Resolution) : Prop where
  resolved : res.isResolved = true ↔ res.targets ≠ []
  nonempty : ∀ targets, res = .resolved targets → targets ≠ []
  matched : ∀ t ∈ res.targets, ∀ d, t.directive? = some d →
    d ∈ r.catalog.entries ∧ ∃ q, n.queryFor? b.kind = some q ∧
      d.Fits r.settings.matchAttributeValues q
  stored : ∀ t ∈ res.targets, t.Stored b.name
  /-- A star attribute reaches structural directives, each by an alternative that names it. -/
  star : b.kind = .structural → ∀ t ∈ res.targets, ∃ q m, n.templateQuery? = some q ∧
    m ∈ r.matching q ∧ t.directive? = some m.directive ∧ m.directive.isTemplate = true ∧
    b.name ∈ m.attributes
  /-- Off templates a plain attribute reaches no structural directive. -/
  plain : b.kind = .plain → n.isTemplate r.settings = false →
    (∀ t ∈ res.targets, t.isStructural = false) ∧
    res.targets.filter Target.isInput =
      (r.resolveProperty n.query b.name).targets.filter fun t => !t.isStructural
  exported : b.kind = .reference → ∀ v, value = some v → trimmed v ≠ "" →
    res.targets = ((r.matched n.query).filter fun d => d.isExportedAs (trimmed v)).map .exported
  host : b.kind = .reference → (∀ v, value = some v → trimmed v = "") →
    res.targets = [r.host n]
  /-- Variables are found through scopes. -/
  unresolved : b.kind = .letVariable → res.targets = []

theorem resolve_grounded (r : Resolver) (n : Node) (kind : BindingKind) (name : String)
    (value : Option String) :
    r.Grounded n ⟨kind, name⟩ value (r.resolve n ⟨kind, name⟩ value) where
  resolved := by
    obtain ⟨targets, made⟩ := r.exists_resolve_eq n ⟨kind, name⟩ value
    rw [made, Resolution.isResolved_ofTargets, Resolution.targets_ofTargets]
  nonempty := by
    intro targets resolved
    obtain ⟨_, made⟩ := r.exists_resolve_eq n ⟨kind, name⟩ value
    rw [made, Resolution.ofTargets_eq_resolved_iff] at resolved
    exact resolved.2
  matched := by
    intro t ht d found
    obtain ⟨q, seen, -, matched⟩ := resolve_sound ht
    obtain ⟨known, fits⟩ := List.mem_filter.1 (matched d found)
    exact ⟨known, q, seen, of_decide_eq_true fits⟩
  stored := by
    intro t ht
    obtain ⟨q, -, stored, -⟩ := resolve_sound ht
    exact stored
  star := by
    rintro rfl t ht
    obtain ⟨q, m, seen, hm, of⟩ := mem_resolveStructural ht
    obtain ⟨matched, through, structural⟩ := mem_structuralMatching_iff.1 hm
    exact ⟨q, m, seen, matched, of.directive, structural, List.contains_iff_mem.1 through⟩
  plain := by
    rintro rfl off
    exact ⟨fun t ht => isStructural_of_mem_resolvePlain off ht, filter_isInput_resolvePlain off⟩
  exported := by
    rintro rfl v rfl named
    apply targets_resolveReference_some
    rw [Option.bind_some, nonblank?, if_neg named]
  host := by
    rintro rfl unnamed
    apply targets_resolveReference_none
    rw [Option.bind_eq_none_iff]
    intro v hv
    rw [nonblank?, if_pos (unnamed v hv)]
  unresolved := by
    rintro rfl
    rfl

end Resolver

/-- **Every resolution is grounded**: what a raw attribute name denotes on an element comes from
directives of the catalog that match, with members that they have under the name, and the boundary
between structural directives and the others is kept. -/
theorem resolveAttribute_grounded (r : Resolver) (n : Node) (raw : String) :
    r.Grounded n (Binding.read raw) ((n.attribute? raw).bind Attribute.value)
      (r.resolveAttribute n raw) :=
  r.resolve_grounded n _ _ _

/-- A structural directive. -/
def shownDirective : Directive :=
  { id := 0
    name := "Shown"
    selector := ⟨"[shown]", [⟨[{ predicates := [{ name := "shown" }] }]⟩]⟩
    inputs := .ofList [⟨"shown", "_condition"⟩]
    isTemplate := true }

def namedDirective : Directive :=
  { id := 1
    name := "Named"
    selector := ⟨"[name]", [⟨[{ predicates := [{ name := "name" }] }]⟩]⟩
    exportAs := some "field, named"
    inputs := .ofList [.unaliased "name"] }

/-- A structural directive for the same elements as the one before. -/
def repeatedDirective : Directive :=
  { namedDirective with id := 2, name := "Repeated", isTemplate := true }

def fieldResolver : Resolver :=
  { catalog := .ofList [shownDirective, namedDirective, repeatedDirective] }

def shownField : Node :=
  { id := 7
    tag := "input"
    attributes :=
      [⟨"*shown", some "open"⟩, ⟨"name", some "n"⟩, ⟨"#f", some " field "⟩, ⟨"#g", none⟩] }

/-- The star attribute reaches the structural directive that it names, the plain one the only other
directive of its name that is not structural, and the reference both that are exported. -/
theorem resolveAttribute_grounded_shownField :
    fieldResolver.resolveAttribute shownField "*shown" =
      .resolved [.directive shownDirective, .input shownDirective ⟨"shown", "_condition"⟩] ∧
    fieldResolver.resolveAttribute shownField "name" =
      .resolved [.directive namedDirective, .input namedDirective (.unaliased "name")] ∧
    fieldResolver.resolveAttribute shownField "#f" =
      .resolved [.exported namedDirective, .exported repeatedDirective] ∧
    fieldResolver.resolveAttribute shownField "#g" = .resolved [.element 7] ∧
    fieldResolver.resolveAttribute shownField "(name)" = .unresolved ∧
    fieldResolver.Grounded shownField ⟨.structural, "shown"⟩ (some "open")
      (.resolved [.directive shownDirective, .input shownDirective ⟨"shown", "_condition"⟩]) ∧
    fieldResolver.Grounded shownField ⟨.plain, "name"⟩ (some "n")
      (.resolved [.directive namedDirective, .input namedDirective (.unaliased "name")]) ∧
    fieldResolver.Grounded shownField ⟨.reference, "f"⟩ (some " field ")
      (.resolved [.exported namedDirective, .exported repeatedDirective]) := by
  have grounded {raw : String} {b : Binding} {value : Option String} {res : Resolution}
      (read : Binding.read raw = b) (written : (shownField.attribute? raw).bind Attribute.value = value)
      (outcome : fieldResolver.resolveAttribute shownField raw = res) :
      fieldResolver.Grounded shownField b value res := by
    rw [← read, ← written, ← outcome]
    exact resolveAttribute_grounded fieldResolver shownField raw
  have star : fieldResolver.resolveAttribute shownField "*shown" =
      .resolved [.directive shownDirective, .input shownDirective ⟨"shown", "_condition"⟩] := by
    decide +kernel
  have plain : fieldResolver.resolveAttribute shownField "name" =
      .resolved [.directive namedDirective, .input namedDirective (.unaliased "name")] := by
    decide +kernel
  have reference : fieldResolver.resolveAttribute shownField "#f" =
      .resolved [.exported namedDirective, .exported repeatedDirective] := by
    decide +kernel
  exact ⟨star, plain, reference, by decide +kernel, by decide +kernel,
    grounded (by decide +kernel) (by decide +kernel) star,
    grounded (by decide +kernel) (by decide +kernel) plain,
    grounded (by decide +kernel) (by decide +kernel) reference⟩

end DirectiveBinding
