import DirectiveBinding.Proofs.Resolution.Grounded

/-! Inputs and outputs in pairs.

A pair is found in two ways. The list of a directive goes through its outputs, takes the
ending off each and looks for the input; the lookup by name puts the ending on and looks
for both. They agree because the two endings undo each other (`changedInput?_eq_some_iff`)
and a property is stored under its own name, so that both come to the same condition on an
input and an output (`mem_twoWayPairs_iff`). A two-way binding on an element is such a lookup
in every directive that matches, so it denotes what the property binding and the event
binding do, taken together directive by directive (`twoWay_agree`). -/
namespace DirectiveBinding

/-! ### Lists with some members left out -/

section Lists

variable {α β γ : Type} {f : α → Option β}

/-- What is made of some members, one by one, stands in the order of the members. -/
theorem map_filterMap_sublist {g : β → γ} {h : α → γ} (back : ∀ a b, f a = some b → g b = h a)
    (l : List α) : ((l.filterMap f).map g).Sublist (l.map h) := by
  induction l with
  | nil => exact List.Sublist.slnil
  | cons a l ih =>
    rw [List.map_cons]
    cases made : f a with
    | none =>
      rw [List.filterMap_cons_none made]
      exact ih.cons (h a)
    | some b =>
      rw [List.filterMap_cons_some made, List.map_cons, back a b made]
      exact ih.cons_cons (h a)

/-- What is made of a member together with what it gives tells both. -/
theorem mem_filterMap_iff {c : α → β → γ}
    (apart : ∀ a b a' b', c a b = c a' b' → a = a' ∧ b = b') {l : List α} {a : α} {b : β} :
    c a b ∈ l.filterMap (fun a => (f a).map (c a)) ↔ a ∈ l ∧ f a = some b := by
  rw [List.mem_filterMap]
  constructor
  · rintro ⟨a', ha', made⟩
    obtain ⟨b', given, same⟩ := Option.map_eq_some_iff.1 made
    obtain ⟨rfl, rfl⟩ := apart a' b' a b same
    exact ⟨ha', given⟩
  · rintro ⟨ha, given⟩
    exact ⟨a, ha, by rw [given, Option.map_some]⟩

end Lists

/-! ### Pairs of a directive -/

namespace Directive

variable {d : Directive} {name : String} {i o : Property}

theorem changedInput?_eq_some_iff {output input : String} :
    changedInput? output = some input ↔ output = input ++ "Change" := by
  rw [← changeName_eq, changedInput?, Option.map_eq_some_iff]
  simp only [List.isSuffixOf?_eq_some_iff_append_eq]
  constructor
  · rintro ⟨chars, whole, rfl⟩
    rw [changeName, String.toList_ofList, whole, String.ofList_toList]
  · rintro rfl
    exact ⟨input.toList, by rw [changeName, String.toList_ofList], String.ofList_toList⟩

theorem twoWay?_eq_some_iff :
    d.twoWay? name = some (i, o) ↔
      d.inputs.find? name = some i ∧ d.outputs.find? (name ++ "Change") = some o := by
  simp only [twoWay?, changeName_eq, bind, Option.bind_eq_some_iff, pure, Option.some_inj,
    Prod.mk.injEq]
  constructor
  · rintro ⟨i, hi, o, ho, rfl, rfl⟩
    exact ⟨hi, ho⟩
  · rintro ⟨hi, ho⟩
    exact ⟨i, hi, o, ho, rfl, rfl⟩

/-- The pair that an output is listed in. -/
def pairOf? (d : Directive) (output : Property) : Option (Property × Property) := do
  let input ← d.inputs.find? (← changedInput? output.name)
  return (input, output)

theorem twoWayPairs_eq (d : Directive) : d.twoWayPairs = d.outputs.entries.filterMap d.pairOf? :=
  rfl

theorem pairOf?_eq_some_iff {p : Property × Property} :
    d.pairOf? o = some p ↔ p.2 = o ∧ p.1 ∈ d.inputs.entries ∧ o.name = p.1.name ++ "Change" := by
  obtain ⟨i, o'⟩ := p
  simp only [pairOf?, bind, Option.bind_eq_some_iff, pure, Option.some_inj, Prod.mk.injEq,
    changedInput?_eq_some_iff, Roster.find?_eq_some_iff]
  constructor
  · rintro ⟨name, ending, i, ⟨hi, rfl⟩, rfl, rfl⟩
    exact ⟨rfl, hi, ending⟩
  · rintro ⟨rfl, hi, ending⟩
    exact ⟨i.name, ending, i, ⟨hi, rfl⟩, rfl, rfl⟩

theorem mem_twoWayPairs_iff :
    (i, o) ∈ d.twoWayPairs ↔
      i ∈ d.inputs.entries ∧ o ∈ d.outputs.entries ∧ o.name = i.name ++ "Change" := by
  rw [twoWayPairs_eq, List.mem_filterMap]
  simp only [pairOf?_eq_some_iff]
  constructor
  · rintro ⟨o, ho, rfl, hi, ending⟩
    exact ⟨hi, ho, ending⟩
  · rintro ⟨hi, ho, ending⟩
    exact ⟨o, ho, rfl, hi, ending⟩

/-- What a directive lists as pairs, and what it has under a name. -/
structure PairsAgree (d : Directive) : Prop where
  pairs : ∀ i o, (i, o) ∈ d.twoWayPairs ↔
    i ∈ d.inputs.entries ∧ o ∈ d.outputs.entries ∧ o.name = i.name ++ "Change"
  lookup : ∀ name i o, d.twoWay? name = some (i, o) ↔ (i, o) ∈ d.twoWayPairs ∧ i.name = name
  /-- Every input is in one pair at most. -/
  inputs : (d.twoWayPairs.map fun p => p.1.name).Nodup
  /-- Every output is in one pair at most. -/
  outputs : (d.twoWayPairs.map fun p => p.2.name).Nodup
  order : (d.twoWayPairs.map Prod.snd).Sublist d.outputs.entries

theorem twoWay?_eq_some_iff_mem :
    d.twoWay? name = some (i, o) ↔ (i, o) ∈ d.twoWayPairs ∧ i.name = name := by
  rw [twoWay?_eq_some_iff, mem_twoWayPairs_iff, Roster.find?_eq_some_iff, Roster.find?_eq_some_iff]
  constructor
  · rintro ⟨⟨hi, rfl⟩, ho, ending⟩
    exact ⟨⟨hi, ho, ending⟩, rfl⟩
  · rintro ⟨⟨hi, ho, ending⟩, rfl⟩
    exact ⟨⟨hi, rfl⟩, ho, ending⟩

theorem twoWayPairs_sublist (d : Directive) :
    (d.twoWayPairs.map Prod.snd).Sublist d.outputs.entries := by
  have own : ∀ o p, d.pairOf? o = some p → p.2 = o := by
    intro o p listed
    exact (pairOf?_eq_some_iff.1 listed).1
  have listed := map_filterMap_sublist (h := fun o => o) own d.outputs.entries
  rwa [List.map_id'] at listed

theorem pairsAgree (d : Directive) : d.PairsAgree := by
  have outputs : (d.twoWayPairs.map fun p => p.2.name).Nodup := by
    have names := (d.twoWayPairs_sublist.map Property.name).nodup d.outputs.distinct
    rwa [List.map_map] at names
  -- The names of the outputs are those of the inputs with the ending, so these differ as well.
  have inputs : (d.twoWayPairs.map fun p => p.1.name).Nodup := by
    have endings : (d.twoWayPairs.map fun p => p.2.name) =
        (d.twoWayPairs.map fun p => p.1.name).map (· ++ "Change") := by
      rw [List.map_map]
      apply List.map_congr_left
      intro p hp
      exact (mem_twoWayPairs_iff.1 hp).2.2
    rw [endings] at outputs
    exact outputs.of_map _
  exact ⟨fun _ _ => mem_twoWayPairs_iff, fun _ _ _ => twoWay?_eq_some_iff_mem, inputs, outputs,
    d.twoWayPairs_sublist⟩

end Directive

/-! ### Two-way bindings -/

namespace Resolver

variable {r : Resolver} {q : Query} {name : String} {d : Directive} {i o : Property}

/-- What is made of the matches by their directives is made of the directives that match. -/
theorem filterMap_matching (f : Directive → Option Target) :
    (r.matching q).filterMap (fun m => f m.directive) = (r.matched q).filterMap f := by
  rw [← map_directive_eq_matched, List.filterMap_map]
  rfl

theorem targets_resolveProperty : (r.resolveProperty q name).targets =
    (r.matched q).filterMap fun d => (d.inputs.find? name).map (.input d) := by
  rw [resolveProperty, Resolution.targets_ofTargets]
  exact filterMap_matching fun d => (d.inputs.find? name).map (.input d)

theorem targets_resolveEvent : (r.resolveEvent q name).targets =
    (r.matched q).filterMap fun d => (d.outputs.find? name).map (.output d) := by
  rw [resolveEvent, Resolution.targets_ofTargets]
  exact filterMap_matching fun d => (d.outputs.find? name).map (.output d)

theorem targets_resolveTwoWay : (r.resolveTwoWay q name).targets =
    (r.matched q).filterMap fun d => (d.twoWay? name).map fun p => .twoWay d p.1 p.2 := by
  have made (m : Match) : m.twoWay? name =
      (m.directive.twoWay? name).map fun p => .twoWay m.directive p.1 p.2 := rfl
  simp only [resolveTwoWay, Resolution.targets_ofTargets, made]
  exact filterMap_matching fun d => (d.twoWay? name).map fun p => .twoWay d p.1 p.2

theorem input_mem_resolveProperty : .input d i ∈ (r.resolveProperty q name).targets ↔
    d ∈ r.matched q ∧ d.inputs.find? name = some i := by
  rw [targets_resolveProperty]
  exact mem_filterMap_iff fun _ _ _ _ same => Target.input.inj same

theorem output_mem_resolveEvent : .output d o ∈ (r.resolveEvent q name).targets ↔
    d ∈ r.matched q ∧ d.outputs.find? name = some o := by
  rw [targets_resolveEvent]
  exact mem_filterMap_iff fun _ _ _ _ same => Target.output.inj same

theorem twoWay_mem_resolveTwoWay : .twoWay d i o ∈ (r.resolveTwoWay q name).targets ↔
    d ∈ r.matched q ∧ d.twoWay? name = some (i, o) := by
  rw [targets_resolveTwoWay]
  refine mem_filterMap_iff (c := fun d p => Target.twoWay d p.1 p.2) (b := (i, o)) ?_
  intro d p d' p' same
  obtain ⟨directive, input, output⟩ := Target.twoWay.inj same
  exact ⟨directive, Prod.ext input output⟩

/-- A two-way binding denotes what the property binding and the event binding denote together, in
catalog order. -/
structure TwoWayAgrees (r : Resolver) (q : Query) (name : String) : Prop where
  paired : ∀ t ∈ (r.resolveTwoWay q name).targets, ∃ d i o, t = .twoWay d i o
  joined : ∀ d i o, .twoWay d i o ∈ (r.resolveTwoWay q name).targets ↔
    .input d i ∈ (r.resolveProperty q name).targets ∧
      .output d o ∈ (r.resolveEvent q (name ++ "Change")).targets
  order : ((r.resolveTwoWay q name).targets.map Target.directive?).Sublist
    (r.catalog.entries.map some)
  /-- No directive has two targets. -/
  once : ((r.resolveTwoWay q name).targets.map fun t => t.directive?.map Directive.id).Nodup

theorem sublist_resolveTwoWay (r : Resolver) (q : Query) (name : String) :
    ((r.resolveTwoWay q name).targets.map Target.directive?).Sublist
      (r.catalog.entries.map some) := by
  rw [targets_resolveTwoWay]
  refine (map_filterMap_sublist ?_ (r.matched q)).trans (List.filter_sublist.map some)
  intro d t made
  obtain ⟨p, -, rfl⟩ := Option.map_eq_some_iff.1 made
  rfl

theorem twoWayAgrees (r : Resolver) (q : Query) (name : String) : r.TwoWayAgrees q name where
  paired := by
    intro t ht
    rw [targets_resolveTwoWay] at ht
    obtain ⟨d, -, made⟩ := List.mem_filterMap.1 ht
    obtain ⟨p, -, rfl⟩ := Option.map_eq_some_iff.1 made
    exact ⟨d, p.1, p.2, rfl⟩
  joined := by
    intro d i o
    rw [twoWay_mem_resolveTwoWay, input_mem_resolveProperty, output_mem_resolveEvent,
      Directive.twoWay?_eq_some_iff, and_and_left]
  order := sublist_resolveTwoWay r q name
  once := by
    have numbers : (r.catalog.entries.map fun d => some d.id).Nodup := by
      have distinct := r.catalog.distinct.map fun _ _ => Option.some.inj
      rwa [List.map_map] at distinct
    have listed := (sublist_resolveTwoWay r q name).map (Option.map Directive.id)
    rw [List.map_map, List.map_map] at listed
    exact listed.nodup numbers

end Resolver

/-- **The ways to a two-way binding agree.** Looking for a name in a directive finds the pair that
the directive lists for the input of this name, and each input and output is listed once at most, in
the order of the outputs. On an element, the targets of a two-way binding are those directives that
are targets of the property binding and of the event binding, in catalog order and each with the two
properties found there. -/
theorem twoWay_agree :
    (∀ d : Directive, d.PairsAgree) ∧
      ∀ (r : Resolver) (q : Query) (name : String), r.TwoWayAgrees q name :=
  ⟨Directive.pairsAgree, Resolver.twoWayAgrees⟩

/-- The ending alone is an output as well, and an input may have it. -/
def endingDirective : Directive :=
  { id := 0
    name := "Ending"
    selector := ⟨"x", [⟨[{ tag := "x" }]⟩]⟩
    inputs := .ofList [.unaliased "", ⟨"xChange", "a"⟩, ⟨"x", "b"⟩]
    outputs := .ofList [⟨"xChange", "c"⟩, .unaliased "Change", .unaliased "xChangeChange"] }

def endingResolver : Resolver := { catalog := .ofList [endingDirective] }

theorem twoWay_agree_ending :
    endingDirective.twoWayPairs =
      [(⟨"x", "b"⟩, ⟨"xChange", "c"⟩), (.unaliased "", .unaliased "Change"),
        (⟨"xChange", "a"⟩, .unaliased "xChangeChange")] ∧
    endingDirective.twoWay? "xChange" = some (⟨"xChange", "a"⟩, .unaliased "xChangeChange") ∧
    endingDirective.twoWay? "Change" = none ∧
    endingResolver.resolveTwoWay { tag := "x" } "x" =
      .resolved [.twoWay endingDirective ⟨"x", "b"⟩ ⟨"xChange", "c"⟩] ∧
    .input endingDirective ⟨"x", "b"⟩ ∈
      (endingResolver.resolveProperty { tag := "x" } "x").targets ∧
    .output endingDirective ⟨"xChange", "c"⟩ ∈
      (endingResolver.resolveEvent { tag := "x" } "xChange").targets := by
  obtain ⟨pairs, bindings⟩ := twoWay_agree
  have listed : endingDirective.twoWayPairs =
      [(⟨"x", "b"⟩, ⟨"xChange", "c"⟩), (.unaliased "", .unaliased "Change"),
        (⟨"xChange", "a"⟩, .unaliased "xChangeChange")] := by
    decide +kernel
  have found : endingDirective.twoWay? "xChange" =
      some (⟨"xChange", "a"⟩, .unaliased "xChangeChange") := by
    rw [(pairs endingDirective).lookup, listed]
    decide
  have resolved : endingResolver.resolveTwoWay { tag := "x" } "x" =
      .resolved [.twoWay endingDirective ⟨"x", "b"⟩ ⟨"xChange", "c"⟩] := by
    decide +kernel
  obtain ⟨input, output⟩ := ((bindings endingResolver { tag := "x" } "x").joined
    endingDirective ⟨"x", "b"⟩ ⟨"xChange", "c"⟩).1 (by rw [resolved]; exact List.mem_cons_self)
  exact ⟨listed, found, by decide +kernel, resolved, input, output⟩

end DirectiveBinding
