import DirectiveBinding.Proofs.Matching.Holding

/-! Matching by presence alone.

There are three ways to keep values out of matching: not to compare them, to know none of
those on the element, and to ask for none in the selector. All three leave presence to
decide, and a test then holds when its attribute is there, or when it is not if the test is
negated (`Predicate.holds_of_incomparable`). So they come to the same, compound by compound
(`matching_presence`). Only the attributes of a match can differ where none is asked for: a
test on one class word is not one that bindings can set, a test for the presence of `class`
is. -/
namespace DirectiveBinding

/-! ### Entries that keep their keys -/

namespace Roster

variable {κ α : Type} {key : α → κ}

/-- The roster with its entries changed, each under its old key. -/
def mapEntries (r : Roster key) (f : α → α) (same : ∀ a, key (f a) = key a) : Roster key where
  entries := r.entries.map f
  distinct := by
    have keys : (r.entries.map f).map key = r.entries.map key := by
      rw [List.map_map]
      exact List.map_congr_left fun a _ => same a
    rw [keys]
    exact r.distinct

theorem find?_mapEntries [DecidableEq κ] (r : Roster key) {f : α → α}
    (same : ∀ a, key (f a) = key a) (k : κ) :
    (r.mapEntries f same).find? k = (r.find? k).map f := by
  rw [find?, mapEntries, List.find?_map, find?]
  congr 2
  funext a
  rw [Function.comp_apply, same]

end Roster

/-! ### Values left out -/

/-- The attributes of a query with no value known. -/
def Query.withoutValues (q : Query) : Query :=
  { q with attributes := q.attributes.mapEntries (fun a => { a with value := none }) fun _ => rfl }

/-- The test for presence alone. -/
def Predicate.withoutValue (p : Predicate) : Predicate := { p with value := none }

def Compound.withoutValues (k : Compound) : Compound :=
  { k with predicates := k.predicates.map Predicate.withoutValue }

def Alternative.withoutValues (a : Alternative) : Alternative :=
  ⟨a.compounds.map Compound.withoutValues⟩

def Selector.withoutValues (s : Selector) : Selector :=
  { s with alternatives := s.alternatives.map Alternative.withoutValues }

def Directive.withoutValues (d : Directive) : Directive :=
  { d with selector := d.selector.withoutValues }

/-- The directives of a catalog, none of which asks for a value. -/
def Catalog.withoutValues (c : Catalog) : Catalog :=
  c.mapEntries Directive.withoutValues fun _ => rfl

theorem Catalog.entries_withoutValues (c : Catalog) :
    c.withoutValues.entries = c.entries.map Directive.withoutValues := rfl

theorem Query.value?_withoutValues (q : Query) (name : String) :
    q.withoutValues.value? name = (q.value? name).map fun _ => none := by
  rw [value?, withoutValues, Roster.find?_mapEntries, Option.map_map, value?, Option.map_map]
  rfl

theorem Query.has_withoutValues (q : Query) (name : String) :
    q.withoutValues.has name = q.has name := by
  rw [has_eq_isSome, value?_withoutValues, Option.isSome_map, has_eq_isSome]

/-! ### Tests -/

namespace Predicate

variable {compare : Bool} {q : Query}

/-- Where there are no two values to compare, presence decides. -/
theorem holds_of_incomparable {p : Predicate}
    (incomparable : compare = true → p.value = none ∨ ∀ v, q.value? p.name ≠ some (some v)) :
    p.holds compare q = (q.has p.name != p.negated) := by
  have positive : p.positiveHolds compare q = q.has p.name := by
    rw [Bool.eq_iff_iff, positiveHolds_iff, Query.has_eq_isSome, Option.isSome_iff_exists]
    refine exists_congr fun actual => and_iff_left_of_imp ?_
    intro present on required asked known given
    rcases incomparable on with unasked | unknown
    · rw [unasked] at asked
      cases asked
    · rw [given] at present
      exact absurd present (unknown known)
  rw [holds, positive]

theorem holds_uncompared (p : Predicate) (q : Query) :
    p.holds false q = (q.has p.name != p.negated) :=
  holds_of_incomparable fun on => absurd on Bool.false_ne_true

theorem holds_of_unknown (p : Predicate) (q : Query) :
    p.holds true q.withoutValues = p.holds false q := by
  have unknown : ∀ v, q.withoutValues.value? p.name ≠ some (some v) := by
    intro v
    rw [Query.value?_withoutValues]
    cases q.value? p.name <;> simp
  rw [holds_of_incomparable fun _ => .inr unknown, Query.has_withoutValues, holds_uncompared]

theorem holds_withoutValue (p : Predicate) (q : Query) :
    p.withoutValue.holds true q = p.holds false q := by
  rw [holds_of_incomparable fun _ => .inl rfl, holds_uncompared]
  rfl

end Predicate

/-! ### From tests to selectors -/

/-- What each compound of a selector comes to on an element, alternative by alternative. -/
def Selector.compoundResults (s : Selector) (compare : Bool) (q : Query) : List (List Bool) :=
  s.alternatives.map fun a => a.compounds.map fun k => k.holds compare q

theorem Compound.holds_of_unknown (k : Compound) (q : Query) :
    k.holds true q.withoutValues = k.holds false q := by
  simp only [holds, Predicate.holds_of_unknown]
  rfl

theorem Compound.holds_withoutValues (k : Compound) (q : Query) :
    k.withoutValues.holds true q = k.holds false q := by
  simp only [holds, withoutValues, List.all_map, Function.comp_def, Predicate.holds_withoutValue]
  rfl

theorem Alternative.holds_of_unknown (a : Alternative) (q : Query) :
    a.holds true q.withoutValues = a.holds false q := by
  simp only [holds, Compound.holds_of_unknown]

theorem Alternative.holds_withoutValues (a : Alternative) (q : Query) :
    a.withoutValues.holds true q = a.holds false q := by
  simp only [holds, withoutValues, List.all_map, Function.comp_def, Compound.holds_withoutValues]

namespace Selector

variable (s : Selector) (q : Query)

theorem firstHolding?_of_unknown :
    s.firstHolding? true q.withoutValues = s.firstHolding? false q := by
  simp only [firstHolding?, Alternative.holds_of_unknown]

theorem firstHolding?_withoutValues :
    s.withoutValues.firstHolding? true q = s.firstHolding? false q := by
  simp only [firstHolding?, withoutValues, List.findIdx?_map, Function.comp_def,
    Alternative.holds_withoutValues]

theorem compoundResults_of_unknown :
    s.compoundResults true q.withoutValues = s.compoundResults false q := by
  simp only [compoundResults, Compound.holds_of_unknown]

theorem compoundResults_withoutValues :
    s.withoutValues.compoundResults true q = s.compoundResults false q := by
  simp only [compoundResults, withoutValues, Alternative.withoutValues, List.map_map,
    Function.comp_def, Compound.holds_withoutValues]

end Selector

/-! ### Matches -/

/-- Which directive matches, by its number, and by which of its alternatives. -/
def Match.found (m : Match) : Nat × Nat := (m.directive.id, m.index)

theorem Directive.match?_of_unknown (d : Directive) (q : Query) :
    d.match? true q.withoutValues = d.match? false q := by
  simp only [match?, Selector.firstHolding?_of_unknown]

theorem Directive.map_found_match? (d : Directive) (compare : Bool) (q : Query) :
    (d.match? compare q).map Match.found =
      (d.selector.firstHolding? compare q).map fun i => (d.id, i) := by
  cases first : d.selector.firstHolding? compare q with
  | none =>
    rw [match?, first]
    rfl
  | some i =>
    obtain ⟨m, matched, rfl⟩ := exists_match? first
    rw [matched, Option.map_some, Match.found, directive_of_match? matched, Option.map_some]

/-- The settings, with the comparison of values on or off. -/
def Settings.comparing (s : Settings) (compare : Bool) : Settings :=
  { s with matchAttributeValues := compare }

theorem Resolver.map_found_matching (catalog : Catalog) (s : Settings) (compare : Bool) (q : Query) :
    (matching ⟨catalog, s.comparing compare⟩ q).map Match.found =
      catalog.entries.filterMap fun d =>
        (d.selector.firstHolding? compare q).map fun i => (d.id, i) := by
  rw [matching, List.map_filterMap]
  apply List.filterMap_congr
  intro d _
  exact d.map_found_match? compare q

/-- **Not to compare values is to know none, and to ask for none.** For every selector the same
alternative is found, and each compound comes to the same. For every catalog the matches are the same
if no value is known; if none is asked for, the same directives match by the same alternatives. -/
theorem matching_presence (q : Query) :
    (∀ s : Selector,
      (s.firstHolding? true q.withoutValues = s.firstHolding? false q ∧
        s.compoundResults true q.withoutValues = s.compoundResults false q) ∧
      s.withoutValues.firstHolding? true q = s.firstHolding? false q ∧
        s.withoutValues.compoundResults true q = s.compoundResults false q) ∧
    (∀ d : Directive, d.match? true q.withoutValues = d.match? false q) ∧
    ∀ (catalog : Catalog) (s : Settings),
      Resolver.matching ⟨catalog, s.comparing true⟩ q.withoutValues =
        Resolver.matching ⟨catalog, s.comparing false⟩ q ∧
      (Resolver.matching ⟨catalog.withoutValues, s.comparing true⟩ q).map Match.found =
        (Resolver.matching ⟨catalog, s.comparing false⟩ q).map Match.found := by
  refine ⟨?_, fun d => d.match?_of_unknown q, ?_⟩
  · intro s
    exact ⟨⟨s.firstHolding?_of_unknown q, s.compoundResults_of_unknown q⟩,
      s.firstHolding?_withoutValues q, s.compoundResults_withoutValues q⟩
  · intro catalog s
    constructor
    · apply List.filterMap_congr
      intro d _
      exact d.match?_of_unknown q
    · rw [Resolver.map_found_matching, Resolver.map_found_matching, Catalog.entries_withoutValues,
        List.filterMap_map]
      apply List.filterMap_congr
      intro d _
      rw [Function.comp_apply, Directive.withoutValues, Selector.firstHolding?_withoutValues]

/-- An unknown value fails a negated test that the known one passes, and a test that bindings cannot
set becomes one that they can when its value is dropped. -/
example :
    let unchecked : Predicate := { name := "type", value := "checkbox", negated := true }
    let wide : Predicate := { name := "class", value := "wide" }
    let q : Query := .ofAttributes "input" [⟨"type", some "text"⟩]
    unchecked.holds true q = true ∧ unchecked.holds true q.withoutValues = false ∧
      wide.isBindable = false ∧ wide.withoutValue.isBindable = true := by
  decide

end DirectiveBinding
