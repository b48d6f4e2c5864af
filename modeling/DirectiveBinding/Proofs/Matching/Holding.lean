import DirectiveBinding.Catalog.Matching
import Mathlib.Data.List.Basic

/-! When tests hold, and which matches a catalog gives.

Everything is said through `Query.value?`: a test that is not negated asks for its
attribute, and for more only when values are compared, the test asks for one and the
element's is known (`positiveHolds_iff`). A directive matches by the first of its
alternatives that holds (`match?_eq_some_iff`), so the directives that match are those
of the catalog for which some alternative holds, in catalog order
(`map_directive_matching`). -/
namespace DirectiveBinding

open Text

variable {compare : Bool} {q : Query}

/-! ### Tests -/

theorem Predicate.positiveHolds_iff {p : Predicate} :
    p.positiveHolds compare q = true ↔
      ∃ actual, q.value? p.name = some actual ∧
        (compare = true →
          ∀ required ∈ p.value, ∀ known ∈ actual, p.accepts required known = true) := by
  unfold positiveHolds
  cases q.value? p.name with
  | none => simp
  | some actual => cases compare <;> cases p.value <;> cases actual <;> simp

theorem Predicate.holds_of_not_negated {p : Predicate} (h : p.negated = false) :
    p.holds compare q = p.positiveHolds compare q := by
  simp [holds, h]

theorem Compound.tagHolds_iff {k : Compound} :
    k.tagHolds q = true ↔ ∀ tag ∈ k.requiredTag?, sameCaseless tag q.tag = true := by
  simp [tagHolds, Option.all_eq_true]

theorem Alternative.holds_iff {a : Alternative} :
    a.holds compare q = true ↔
      (∀ k ∈ a.compounds, k.tagHolds q = true) ∧
        ∀ p ∈ a.predicates, p.holds compare q = true := by
  simp only [holds, Compound.holds, predicates, List.all_eq_true, Bool.and_eq_true,
    List.mem_flatMap]
  constructor
  · intro h
    refine ⟨fun k hk => (h k hk).1, ?_⟩
    rintro p ⟨k, hk, hp⟩
    exact (h k hk).2 p hp
  · intro h k hk
    exact ⟨h.1 k hk, fun p hp => h.2 p ⟨k, hk, hp⟩⟩

/-- The case of an element's tag does not matter. -/
theorem Compound.tagHolds_congr {k : Compound} {q' : Query}
    (tag : sameCaseless q.tag q'.tag = true) : k.tagHolds q = k.tagHolds q' := by
  simp only [tagHolds, sameCaseless, sameCaseless_iff.1 tag]

/-- An alternative depends on the known values and the tag of an element alone. -/
theorem Alternative.holds_congr {a : Alternative} {q' : Query}
    (tag : sameCaseless q.tag q'.tag = true)
    (values : ∀ p ∈ a.predicates, q.value? p.name = q'.value? p.name) :
    a.holds compare q = a.holds compare q' := by
  have tests : ∀ p ∈ a.predicates, p.holds compare q = p.holds compare q' := by
    intro p hp
    simp only [Predicate.holds, Predicate.positiveHolds, values p hp]
  rw [Bool.eq_iff_iff, holds_iff, holds_iff]
  refine and_congr ?_ ?_
  · simp only [Compound.tagHolds_congr tag]
  · exact forall₂_congr fun p hp => by rw [tests p hp]

/-! ### Matches -/

/-- What is found depends on what the test says of the members alone. -/
theorem findIdx?_congr {α : Type} {l : List α} {p p' : α → Bool} (same : ∀ a ∈ l, p a = p' a) :
    l.findIdx? p = l.findIdx? p' := by
  have answers (f : α → Bool) : l.findIdx? f = (l.map f).findIdx? id := by
    rw [List.findIdx?_map, Function.id_comp]
  rw [answers, answers, List.map_congr_left same]

/-- The alternative at an index holds, and none before it does. -/
theorem Selector.firstHolding?_eq_some_iff {s : Selector} {i : Nat} :
    s.firstHolding? compare q = some i ↔
      ∃ h : i < s.alternatives.length, s.alternatives[i].holds compare q = true ∧
        ∀ (j : Nat) (hj : j < i), ¬ s.alternatives[j].holds compare q = true :=
  List.findIdx?_eq_some_iff_getElem

theorem Directive.match?_eq_some_iff {d : Directive} {m : Match} :
    d.match? compare q = some m ↔
      m.directive = d ∧ d.selector.firstHolding? compare q = some m.index ∧
        d.selector.alternatives[m.index]? = some m.alternative := by
  obtain ⟨d', i, a⟩ := m
  simp only [match?, bind, Option.bind_eq_some_iff, pure, Option.some_inj, Match.mk.injEq]
  constructor
  · rintro ⟨i, first, a, at_i, rfl, rfl, rfl⟩
    exact ⟨rfl, first, at_i⟩
  · rintro ⟨rfl, first, at_i⟩
    exact ⟨i, first, a, at_i, rfl, rfl, rfl⟩

theorem Directive.directive_of_match? {d : Directive} {m : Match}
    (h : d.match? compare q = some m) : m.directive = d :=
  (match?_eq_some_iff.1 h).1

/-- The alternative of a match holds. -/
theorem Directive.holds_of_match? {d : Directive} {m : Match}
    (h : d.match? compare q = some m) : m.alternative.holds compare q = true := by
  obtain ⟨-, first, found⟩ := match?_eq_some_iff.1 h
  obtain ⟨inside, holds, -⟩ := Selector.firstHolding?_eq_some_iff.1 first
  rw [List.getElem?_eq_getElem inside, Option.some_inj] at found
  exact found ▸ holds

theorem Directive.exists_match? {d : Directive} {i : Nat}
    (h : d.selector.firstHolding? compare q = some i) :
    ∃ m, d.match? compare q = some m ∧ m.index = i := by
  obtain ⟨inside, -, -⟩ := Selector.firstHolding?_eq_some_iff.1 h
  exact ⟨⟨d, i, d.selector.alternatives[i]⟩,
    match?_eq_some_iff.2 ⟨rfl, h, List.getElem?_eq_getElem inside⟩, rfl⟩

theorem Directive.isSome_match? (d : Directive) :
    (d.match? compare q).isSome = (d.selector.firstHolding? compare q).isSome := by
  cases first : d.selector.firstHolding? compare q with
  | none => simp [match?, first]
  | some i =>
    obtain ⟨m, found, -⟩ := exists_match? first
    rw [found]
    rfl

namespace Resolver

variable {r : Resolver} {m : Match}

theorem mem_matching_iff :
    m ∈ r.matching q ↔ m.directive ∈ r.catalog.entries ∧
      m.directive.match? r.settings.matchAttributeValues q = some m := by
  rw [matching, List.mem_filterMap]
  constructor
  · rintro ⟨d, hd, found⟩
    obtain rfl := Directive.directive_of_match? found
    exact ⟨hd, found⟩
  · rintro ⟨hd, found⟩
    exact ⟨m.directive, hd, found⟩

theorem mem_matchingThrough_iff {name : String} :
    m ∈ r.matchingThrough q name ↔ m ∈ r.matching q ∧ m.isThrough name = true :=
  List.mem_filter

/-- The directives that match are those for which some alternative holds, in catalog order. -/
theorem map_directive_matching :
    (r.matching q).map Match.directive = r.catalog.entries.filter fun d =>
      (d.selector.firstHolding? r.settings.matchAttributeValues q).isSome := by
  rw [matching, List.map_filterMap, ← List.filterMap_eq_filter]
  refine List.filterMap_congr fun d _ => ?_
  cases found : d.match? r.settings.matchAttributeValues q with
  | none => simp [Option.guard, ← Directive.isSome_match?, found]
  | some m =>
    simp [Option.guard, ← Directive.isSome_match?, found, Directive.directive_of_match? found]

end Resolver

end DirectiveBinding
