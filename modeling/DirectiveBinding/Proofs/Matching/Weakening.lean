import DirectiveBinding.Proofs.Matching.Holding

/-! Matching an element of which less is known.

A query weakens another (`Query.Weakens`) when it has every attribute of the other, each
with the same value or with none known; it may have more. Without negated tests a
weaker query fits wherever the stronger one does: a test that holds goes on holding
(`Predicate.positiveHolds_of_weakens`), and so the first alternative that holds can only
move forward and no directive of a catalog is lost (`matching_monotone`). Comparing no
values any more is as good as knowing less. -/
namespace DirectiveBinding

open Text

/-! ### Weaker queries -/

/-- `weak` has the attributes of `q`, and maybe more; of none it knows another value. -/
structure Query.Weakens (weak q : Query) : Prop where
  tag : sameCaseless weak.tag q.tag = true
  attributes : ∀ name value, q.value? name = some value →
    weak.value? name = some value ∨ weak.value? name = some none

/-- It is enough to look at the attributes that are there. -/
theorem Query.weakens_of_entries {weak q : Query} (tag : sameCaseless weak.tag q.tag = true)
    (attributes : ∀ a ∈ q.attributes.entries,
      weak.value? a.name = some a.value ∨ weak.value? a.name = some none) : weak.Weakens q := by
  refine ⟨tag, ?_⟩
  intro name value present
  obtain ⟨a, found, rfl⟩ := Option.map_eq_some_iff.1 present
  obtain rfl := Roster.key_of_find? found
  exact attributes a (Roster.mem_of_find? found)

/-- An attribute that is there already keeps its value, so an insertion takes nothing back. -/
theorem Query.weakens_insert (q : Query) (a : Attribute) : (q.insert a).Weakens q := by
  refine ⟨sameCaseless_refl q.tag, ?_⟩
  intro name value present
  left
  rw [value?_insert, present]

/-! ### Negation -/

def Alternative.NegationFree (a : Alternative) : Prop := ∀ p ∈ a.predicates, p.negated = false

def Selector.NegationFree (s : Selector) : Prop := ∀ a ∈ s.alternatives, a.NegationFree

/-- No selector of the catalog has a negated test. -/
def Catalog.NegationFree (c : Catalog) : Prop := ∀ d ∈ c.entries, d.selector.NegationFree

instance (a : Alternative) : Decidable a.NegationFree :=
  inferInstanceAs (Decidable (∀ p ∈ a.predicates, p.negated = false))

instance (s : Selector) : Decidable s.NegationFree :=
  inferInstanceAs (Decidable (∀ a ∈ s.alternatives, a.NegationFree))

instance (c : Catalog) : Decidable c.NegationFree :=
  inferInstanceAs (Decidable (∀ d ∈ c.entries, d.selector.NegationFree))

/-! ### From one test to a whole catalog

Values compared for the weaker query must have been compared for the stronger one. -/

section Monotone

variable {q₁ q₂ : Query} {c₁ c₂ : Bool}

theorem Predicate.positiveHolds_of_weakens (weaker : q₂.Weakens q₁)
    (compared : c₂ = true → c₁ = true) {p : Predicate} (h : p.positiveHolds c₁ q₁ = true) :
    p.positiveHolds c₂ q₂ = true := by
  obtain ⟨actual, present, accepted⟩ := positiveHolds_iff.1 h
  rcases weaker.attributes p.name actual present with same | unknown
  · refine positiveHolds_iff.2 ⟨actual, same, ?_⟩
    intro compare
    exact accepted (compared compare)
  · refine positiveHolds_iff.2 ⟨none, unknown, ?_⟩
    simp

theorem Compound.tagHolds_of_weakens (weaker : q₂.Weakens q₁) {k : Compound}
    (h : k.tagHolds q₁ = true) : k.tagHolds q₂ = true := by
  rw [tagHolds_congr weaker.tag]
  exact h

theorem Alternative.holds_of_weakens (weaker : q₂.Weakens q₁) (compared : c₂ = true → c₁ = true)
    {a : Alternative} (free : a.NegationFree) (h : a.holds c₁ q₁ = true) :
    a.holds c₂ q₂ = true := by
  obtain ⟨tags, tests⟩ := holds_iff.1 h
  refine holds_iff.2 ⟨?_, ?_⟩
  · intro k hk
    exact Compound.tagHolds_of_weakens weaker (tags k hk)
  · intro p hp
    have positive := tests p hp
    rw [Predicate.holds_of_not_negated (free p hp)] at positive ⊢
    exact Predicate.positiveHolds_of_weakens weaker compared positive

theorem Selector.firstHolding?_of_weakens (weaker : q₂.Weakens q₁)
    (compared : c₂ = true → c₁ = true) {s : Selector} (free : s.NegationFree) {i : Nat}
    (h : s.firstHolding? c₁ q₁ = some i) : ∃ j, s.firstHolding? c₂ q₂ = some j ∧ j ≤ i := by
  obtain ⟨inside, first⟩ := List.findIdx?_eq_some_iff_findIdx_eq.1 h
  have le : s.alternatives.findIdx (·.holds c₂ q₂) ≤ i := by
    rw [← first]
    exact List.findIdx_le_findIdx fun a ha => Alternative.holds_of_weakens weaker compared (free a ha)
  exact ⟨_, List.findIdx?_eq_some_iff_findIdx_eq.2 ⟨Nat.lt_of_le_of_lt le inside, rfl⟩, le⟩

/-- The directives that match stay in the list, and in their order. -/
theorem Resolver.matching_sublist_of_weakens (weaker : q₂.Weakens q₁) {r₁ r₂ : Resolver}
    (catalog : r₂.catalog = r₁.catalog)
    (compared : r₂.settings.matchAttributeValues = true → r₁.settings.matchAttributeValues = true)
    (free : r₁.catalog.NegationFree) :
    ((r₁.matching q₁).map Match.directive).Sublist ((r₂.matching q₂).map Match.directive) := by
  rw [map_directive_matching, map_directive_matching, catalog]
  -- A filter by the stronger test is one of the list that the weaker test leaves.
  have both : ∀ d ∈ r₁.catalog.entries,
      (d.selector.firstHolding? r₁.settings.matchAttributeValues q₁).isSome =
        ((d.selector.firstHolding? r₁.settings.matchAttributeValues q₁).isSome &&
          (d.selector.firstHolding? r₂.settings.matchAttributeValues q₂).isSome) := by
    intro d hd
    cases first : d.selector.firstHolding? r₁.settings.matchAttributeValues q₁ with
    | none => rfl
    | some i =>
      obtain ⟨j, found, -⟩ := Selector.firstHolding?_of_weakens weaker compared (free d hd) first
      rw [found]
      rfl
  rw [List.filter_congr both, ← List.filter_filter]
  exact List.filter_sublist

end Monotone

/-- **Knowing less, or having more attributes, never ends a match** without negation: the first
alternative that holds moves forward if at all, the directives of a catalog that matched still do,
and in the same order. Inserting an attribute is such a change. -/
theorem matching_monotone {q₁ q₂ : Query} (weaker : q₂.Weakens q₁) {c₁ c₂ : Bool}
    (compared : c₂ = true → c₁ = true) :
    (∀ s : Selector, s.NegationFree → ∀ i, s.firstHolding? c₁ q₁ = some i →
      ∃ j, s.firstHolding? c₂ q₂ = some j ∧ j ≤ i) ∧
    (∀ (catalog : Catalog) (s₁ s₂ : Settings), catalog.NegationFree →
      s₁.matchAttributeValues = c₁ → s₂.matchAttributeValues = c₂ →
      ((Resolver.matching ⟨catalog, s₁⟩ q₁).map Match.directive).Sublist
        ((Resolver.matching ⟨catalog, s₂⟩ q₂).map Match.directive)) ∧
    ∀ (q : Query) (a : Attribute), (q.insert a).Weakens q := by
  refine ⟨?_, ?_, Query.weakens_insert⟩
  · intro s free i first
    exact Selector.firstHolding?_of_weakens weaker compared free first
  · intro catalog s₁ s₂ free hs₁ hs₂
    refine Resolver.matching_sublist_of_weakens weaker rfl ?_ free
    rw [hs₁, hs₂]
    exact compared

/-- A check box all of whose values are known. -/
def knownBox : Query :=
  .ofAttributes "INPUT" [⟨"type", some "checkbox"⟩, ⟨"class", some "big red"⟩]

/-- The same check box when its classes are bound, with a model besides. -/
def boundBox : Query :=
  .ofAttributes "input" [⟨"ngModel", none⟩, ⟨"class", none⟩, ⟨"type", some "checkbox"⟩]

/-- A model, or a red check box. -/
def boxSelector : Selector :=
  ⟨"[ngModel], input[type=checkbox].red",
    [⟨[{ predicates := [{ name := "ngModel" }] }]⟩,
     ⟨[{ tag := "input"
         predicates := [{ name := "type", value := "checkbox" },
           { name := "class", value := "red" }] }]⟩]⟩

theorem weakens_boundBox : boundBox.Weakens knownBox :=
  Query.weakens_of_entries (by decide) (by decide)

theorem matching_monotone_box :
    boundBox.Weakens knownBox ∧ boxSelector.NegationFree ∧
      boxSelector.firstHolding? true knownBox = some 1 ∧
      ∃ j, boxSelector.firstHolding? true boundBox = some j ∧ j ≤ 1 :=
  ⟨weakens_boundBox, by decide, by decide,
    (matching_monotone weakens_boundBox id).1 boxSelector (by decide) 1 (by decide)⟩

end DirectiveBinding
