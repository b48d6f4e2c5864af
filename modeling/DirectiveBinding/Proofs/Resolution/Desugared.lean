import DirectiveBinding.Proofs.Matching.Holding
import DirectiveBinding.Proofs.Microsyntax.Keys
import DirectiveBinding.Proofs.Template.Spelling
import DirectiveBinding.Resolution

/-! A star attribute and the template written out for it.

`<li *ngFor="let x of xs">` stands for a template element with the attributes `[ngFor]`
and `[ngForOf]`. Matching sees the same of both (`query_desugared`), since no key but the
star attribute's own can look like a two-way binding. The star attribute reaches only
structural directives selected through its key; with the other targets left out, the
written template reaches the same ones in the same order (`resolve_desugared`). -/
namespace DirectiveBinding

open Text

/-! ### What matching sees -/

/-- A key with a keyword after it ends as an identifier does. -/
theorem not_parenthesized_prefixedKey {keyword : List Char} (h : isIdentifier keyword = true)
    (key : String) : ¬ Parenthesized (prefixedKey key (String.ofList keyword)) := by
  rintro ⟨inner, spelled⟩
  obtain ⟨c, s, rfl, start, others⟩ := isIdentifier_iff.1 h
  obtain ⟨d, capital, start'⟩ := upper_of_isIdentifierStart start
  have chars : ∀ a ∈ d :: s, isIdentifierPart a = true := by
    intro a ha
    rcases List.mem_cons.1 ha with rfl | ha
    · exact isIdentifierPart_of_isIdentifierStart start'
    · exact others a ha
  have last : (key.toList ++ d :: s).getLast? = some ')' := by
    rw [prefixedKey, String.toList_ofList, String.toList_ofList, capitalized, capital] at spelled
    rw [show key.toList ++ d :: s = '(' :: inner ++ [')'] from spelled]
    exact List.getLast?_concat
  rw [List.getLast?_append_of_ne_nil _ (List.cons_ne_nil d s)] at last
  exact absurd (chars ')' (List.mem_of_getLast? last)) (by decide)

/-- A template element whose attributes bind the keys of a star attribute, in order. -/
structure Node.WritesOut (d : Node) (star : Attribute) : Prop where
  tag : d.tag = templateTag
  attributes : d.attributes.map Attribute.name = (Node.starBindings star).keyNames.map bracketed

theorem Attribute.seen?_of_bracketed {a : Attribute} {name : String} (h : a.name = bracketed name)
    (bare : ¬ Parenthesized name) : a.seen? = some { name := name } := by
  have binding : a.binding = ⟨.property, name⟩ := by
    rw [Attribute.binding, h]
    exact Binding.read_bracketed bare
  simp only [seen?, binding]

theorem filterMap_seen?_bracketed {as : List Attribute} {names : List String}
    (h : as.map Attribute.name = names.map bracketed) (bare : ∀ name ∈ names, ¬ Parenthesized name) :
    as.filterMap Attribute.seen? = names.map fun name => { name := name } := by
  induction names generalizing as with
  | nil => simp_all
  | cons name names ih =>
    obtain ⟨a, as, rfl⟩ := List.exists_cons_of_ne_nil (l := as) (by rintro rfl; simp at h)
    obtain ⟨first, others⟩ := List.cons.inj h
    rw [List.filterMap_cons_some
      (Attribute.seen?_of_bracketed first (bare name List.mem_cons_self)), List.map_cons,
      ih others fun n hn => bare n (List.mem_cons_of_mem name hn)]

theorem Node.query_desugared {e d : Node} {star : Attribute} (first : e.star? = some star)
    (bare : ¬ Parenthesized star.binding.name) (written : d.WritesOut star) :
    e.templateQuery? = some d.query := by
  have names : ∀ name ∈ (starBindings star).keyNames, ¬ Parenthesized name := by
    intro name hname
    rcases TemplateBindings.mem_keyNames_read hname with rfl | ⟨keyword, identifier, rfl⟩
    · exact bare
    · exact not_parenthesized_prefixedKey identifier star.binding.name
  rw [templateQuery?, templateBindings?, first, Option.map_some, Option.map_some, query, written.tag,
    filterMap_seen?_bracketed written.attributes names]

/-! ### What bindings denote -/

/-- Whether a target belongs to a structural directive that is selected on an element through an
attribute. -/
def Resolver.isStructuralThrough (r : Resolver) (q : Query) (name : String) (t : Target) : Bool :=
  t.directive?.any fun d => d.isTemplate &&
    (d.match? r.settings.matchAttributeValues q).any fun m => m.isThrough name

namespace Resolver

variable {r : Resolver} {q : Query} {name : String}

theorem structuralMatching_eq : r.structuralMatching q name =
    (r.matching q).filter fun m => m.directive.isTemplate && m.isThrough name := by
  rw [structuralMatching, matchingThrough, List.filter_filter]

/-- A target tells its match. -/
theorem isStructuralThrough_of_mem {m : Match} (hm : m ∈ r.matching q) {t : Target}
    (ht : t.directive? = some m.directive) :
    r.isStructuralThrough q name t = (m.directive.isTemplate && m.isThrough name) := by
  simp [isStructuralThrough, ht, (mem_matching_iff.1 hm).2]

/-- Targets that come from matches can be left out by leaving out matches. -/
theorem filter_isStructuralThrough {f : Match → Option Target}
    (own : ∀ m t, f m = some t → t.directive? = some m.directive) :
    ((r.matching q).filterMap f).filter (r.isStructuralThrough q name) =
      (r.structuralMatching q name).filterMap f := by
  rw [structuralMatching_eq, List.filter_filterMap, List.filterMap_filter]
  refine List.filterMap_congr fun m hm => ?_
  cases found : f m with
  | none => simp
  | some t =>
    rw [Option.filter_some, isStructuralThrough_of_mem hm (own m t found)]

theorem directive?_of_input? {m : Match} {t : Target} (h : m.input? name = some t) :
    t.directive? = some m.directive := by
  obtain ⟨p, -, rfl⟩ := Option.map_eq_some_iff.1 h
  rfl

/-- On a template element no directive is out of reach of a plain attribute. -/
theorem plainMatching_of_isTemplate {n : Node} (h : n.isTemplate r.settings = true) :
    r.plainMatching n = r.matching n.query := by
  simp [plainMatching, h]

end Resolver

/-- **The star form and the written form agree**: the template that is written out looks to matching
as the implicit one does, and of what its attributes denote the star attribute denotes, key by key
and in order, what belongs to structural directives selected through the star attribute's key. -/
theorem resolve_desugared {r : Resolver} (hosts : r.settings.isTemplateTag templateTag = true)
    {e d : Node} {star : Attribute} (first : e.star? = some star)
    (bare : ¬ Parenthesized star.binding.name) (written : d.WritesOut star) :
    e.templateQuery? = some d.query ∧
    (∀ keyword, (r.resolveKeyword e keyword).targets =
      (r.resolveProperty d.query (prefixedKey star.binding.name keyword)).targets.filter
        (r.isStructuralThrough d.query star.binding.name)) ∧
    (r.resolveStructural e star.binding.name).targets =
      (r.resolvePlain d star.binding.name).targets.filter
        (r.isStructuralThrough d.query star.binding.name) := by
  have seen := Node.query_desugared first bare written
  refine ⟨seen, ?_, ?_⟩
  · intro keyword
    simp only [Resolver.resolveKeyword, first, seen, Resolver.resolveProperty,
      Resolution.targets_ofTargets]
    rw [Resolver.filter_isStructuralThrough fun m t => Resolver.directive?_of_input?]
  · have template : d.isTemplate r.settings = true := by
      rw [Node.isTemplate, written.tag]
      exact hosts
    simp only [Resolver.resolveStructural, seen, Resolver.resolvePlain,
      Resolver.plainMatching_of_isTemplate template, Resolution.targets_ofTargets,
      Resolver.attributeTargets, List.filter_append]
    congr 1
    · rw [List.filter_map, List.filter_filter, Resolver.structuralMatching_eq]
      congr 1
      refine List.filter_congr fun m hm => ?_
      rw [Function.comp_apply, Resolver.isStructuralThrough_of_mem hm rfl, Bool.and_assoc,
        Bool.and_self]
    · rw [Resolver.filter_isStructuralThrough fun m t => Resolver.directive?_of_input?]

def loopStar : Attribute := ⟨"*ngFor", some "let item of items; trackBy: byId"⟩

/-- A loop over items. -/
def starredLoop : Node := { id := 1, tag := "li", attributes := [loopStar] }

/-- The template that it stands for. -/
def writtenLoop : Node :=
  { id := 2, tag := "ng-template",
    attributes := [⟨"[ngFor]", none⟩, ⟨"[ngForOf]", some "items"⟩, ⟨"[ngForTrackBy]", some "byId"⟩] }

/-- A structural directive, and another directive with an input of the same name. -/
def loopResolver : Resolver :=
  { catalog := .ofList
      [{ id := 0
         name := "NgForOf"
         selector := ⟨"[ngFor][ngForOf]",
           [⟨[{ predicates := [{ name := "ngFor" }, { name := "ngForOf" }] }]⟩]⟩
         inputs := .ofList [.unaliased "ngForOf", .unaliased "ngForTrackBy"]
         isTemplate := true },
       { id := 1
         name := "Other"
         selector := ⟨"[ngForOf]", [⟨[{ predicates := [{ name := "ngForOf" }] }]⟩]⟩
         inputs := .ofList [.unaliased "ngForOf"] }] }

theorem resolve_writtenLoop :
    loopResolver.settings.isTemplateTag templateTag = true ∧ starredLoop.star? = some loopStar ∧
      ¬ Parenthesized loopStar.binding.name ∧ writtenLoop.WritesOut loopStar ∧
      starredLoop.templateQuery? = some writtenLoop.query ∧
      (loopResolver.resolveKeyword starredLoop "of").targets =
        (loopResolver.resolveProperty writtenLoop.query
            (prefixedKey loopStar.binding.name "of")).targets.filter
          (loopResolver.isStructuralThrough writtenLoop.query loopStar.binding.name) ∧
      (loopResolver.resolveKeyword starredLoop "of").targets.length = 1 := by
  have first : starredLoop.star? = some loopStar := by decide +kernel
  have bare : ¬ Parenthesized loopStar.binding.name := by
    have key : loopStar.binding.name = "ngFor" := by decide +kernel
    rintro ⟨inner, spelled⟩
    have start : loopStar.binding.name.toList.head? = some '(' := by
      rw [spelled]
      rfl
    rw [key] at start
    exact absurd start (by decide)
  have written : writtenLoop.WritesOut loopStar := ⟨rfl, by decide +kernel⟩
  obtain ⟨seen, keyword, -⟩ := resolve_desugared (r := loopResolver) (by decide) first bare written
  exact ⟨by decide, first, bare, written, seen, keyword "of", by decide +kernel⟩

end DirectiveBinding
