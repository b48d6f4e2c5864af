import DirectiveBinding.Proofs.Matching.Holding
import DirectiveBinding.Proofs.Roster.Arrival
import DirectiveBinding.Proofs.Text.Classes
import DirectiveBinding.Selector.Draft
import DirectiveBinding.Selector.Print

/-! An element that is spelled out of a compound.

It has the tag of the compound, and for each of its tests the attribute with the value that
the test asks for (`Compound.spelled`). One would expect the compound to hold of it. For
every attribute but `class` it does; a test on `class` is put to the words of the value,
and the value asked for is among its own words only when it is a single word
(`mem_words_self_iff`). So a compound holds of the element spelled out of it exactly
when its tests on `class` ask for single words (`holds_spelled_iff`), as those do that
are written with a dot. -/
namespace DirectiveBinding

open Text

/-! ### Words -/

namespace Text

/-- A text with no blank, and not empty. -/
structure IsSingleWord (v : String) : Prop where
  nonempty : v.toList ≠ []
  solid : ∀ c ∈ v.toList, isBlank c = false

instance (v : String) : Decidable (IsSingleWord v) :=
  decidable_of_iff (v.toList ≠ [] ∧ v.toList.any isBlank = false)
    ⟨fun h => ⟨h.1, fun c hc => by simpa using List.any_eq_false.1 h.2 c hc⟩,
      fun h => ⟨h.nonempty, List.any_eq_false.2 fun c hc => by simp [h.solid c hc]⟩⟩

/-- What is cut at the blanks has none left. -/
theorem isBlank_of_mem_splitOnP {s w : List Char} (h : w ∈ s.splitOnP isBlank) :
    ∀ c ∈ w, isBlank c = false := by
  induction s generalizing w with
  | nil =>
    obtain rfl := List.mem_singleton.1 h
    exact fun c hc => absurd hc List.not_mem_nil
  | cons a s ih =>
    obtain ⟨first, others, cut⟩ := List.exists_cons_of_ne_nil (List.splitOnP_ne_nil isBlank s)
    rw [List.splitOnP_cons_eq_if_modifyHead] at h
    split at h
    · rcases List.mem_cons.1 h with rfl | h
      · exact fun c hc => absurd hc List.not_mem_nil
      · exact ih h
    · next solid =>
      rw [cut, List.modifyHead_cons] at h
      rcases List.mem_cons.1 h with rfl | h
      · intro c hc
        rcases List.mem_cons.1 hc with rfl | hc
        · exact Bool.eq_false_iff.2 solid
        · exact ih (cut ▸ List.mem_cons_self) c hc
      · exact ih (cut ▸ List.mem_cons_of_mem first h)

theorem mem_words_self_iff {v : String} : v ∈ words v ↔ IsSingleWord v := by
  constructor
  · intro h
    obtain ⟨w, hw, rfl⟩ := List.mem_map.1 h
    obtain ⟨piece, nonempty⟩ := List.mem_filter.1 hw
    rw [String.toList_ofList] at piece
    refine ⟨?_, ?_⟩
    · rw [String.toList_ofList]
      simpa using nonempty
    · rw [String.toList_ofList]
      exact isBlank_of_mem_splitOnP piece
  · rintro ⟨nonempty, solid⟩
    have whole : v.toList ∈ (v.toList.splitOnP isBlank).filter fun w => !w.isEmpty := by
      rw [List.splitOnP_eq_singleton solid]
      simpa using nonempty
    have spelled := List.mem_map_of_mem (f := String.ofList) whole
    rwa [String.ofList_toList] at spelled

/-- Names are single words. -/
theorem isSingleWord_of_isName {v : String} (nonempty : v.toList ≠ [])
    (names : ∀ c ∈ v.toList, isName c = true) : IsSingleWord v := by
  refine ⟨nonempty, fun c hc => ?_⟩
  rw [Bool.eq_false_iff]
  intro blank
  exact Bool.false_ne_true ((isName_of_isBlank blank).symm.trans (names c hc))

end Text

/-! ### Tests -/

namespace Predicate

variable {p : Predicate} {v : String}

/-- A test accepts the value it asks for, unless it looks for a word and asks for something else. -/
theorem accepts_self_iff : p.accepts v v = true ↔ (p.name = classAttribute → IsSingleWord v) := by
  unfold accepts isClass
  by_cases named : p.name = classAttribute
  · simp [named, mem_words_self_iff]
  · simp [named]

/-- A test on `class` that is written with a dot asks for a single word. -/
theorem isSingleWord_of_mark? (h : p.mark? = some '.') (hv : p.value = some v) :
    IsSingleWord v := by
  simp only [mark?, hv] at h
  split at h
  · cases h
  · next written =>
    simp only [Bool.or_eq_true, not_or, List.isEmpty_iff, Bool.not_eq_true', Bool.not_eq_false,
      List.all_eq_true] at written
    exact isSingleWord_of_isName written.1 written.2

end Predicate

/-! ### Compounds -/

namespace Compound

variable {k : Compound} {tag : String} {p : Predicate}

/-- An element with the attributes that the tests of the compound name, each with the value that is
asked for; where only presence is, the value is unknown. -/
def spelled (k : Compound) (tag : String) : Query :=
  .ofAttributes tag (k.predicates.map fun p => { name := p.name, value := p.value })

theorem value?_spelled (distinct : (k.predicates.map Predicate.name).Nodup) (hp : p ∈ k.predicates) :
    (k.spelled tag).value? p.name = some p.value := by
  have names : ((k.predicates.map fun p => ({ name := p.name, value := p.value } : Attribute)).map
      Attribute.name).Nodup := by
    rw [List.map_map]
    exact distinct
  have entries :=
    Roster.entries_insertAll_of_nodup (r := (Roster.empty : Roster Attribute.name)) names
  have found : (k.spelled tag).attributes.find? p.name = some ⟨p.name, p.value⟩ := by
    refine Roster.find?_eq_some_iff.2 ⟨?_, rfl⟩
    rw [spelled, Query.ofAttributes, Roster.ofList, entries]
    exact List.mem_append_right _ (List.mem_map_of_mem hp)
  rw [Query.value?, found, Option.map_some]

theorem positiveHolds_spelled_iff (distinct : (k.predicates.map Predicate.name).Nodup)
    (hp : p ∈ k.predicates) :
    p.positiveHolds true (k.spelled tag) = true ↔ ∀ v ∈ p.value, p.accepts v v = true := by
  rw [Predicate.positiveHolds_iff, value?_spelled distinct hp]
  constructor
  · rintro ⟨actual, same, accepted⟩ v hv
    obtain rfl := Option.some.inj same
    exact accepted rfl v hv v hv
  · intro accepted
    refine ⟨p.value, rfl, fun _ required hrequired known hknown => ?_⟩
    obtain rfl := Option.some.inj (hrequired.symm.trans hknown)
    exact accepted required hrequired

theorem tagHolds_of_fits (fits : k.tag = none ∨ k.tag = some anyTag ∨ k.tag = some tag) :
    k.tagHolds (k.spelled tag) = true := by
  rw [tagHolds_iff]
  intro asked hasked
  obtain ⟨written, particular⟩ := Option.filter_eq_some_iff.1 hasked
  rcases fits with untagged | any | same
  · rw [untagged] at written
    cases written
  · obtain rfl := Option.some.inj (written.symm.trans any)
    exact absurd rfl (of_decide_eq_true particular)
  · obtain rfl := Option.some.inj (written.symm.trans same)
    exact sameCaseless_refl asked

end Compound

/-- **A compound and the element spelled out of it.** With no negated test and no attribute tested
twice, a compound holds of that element exactly when each value that is asked of `class` is a
single word. It is one where the test is written with a dot. -/
theorem Compound.holds_spelled_iff {k : Compound}
    (positive : ∀ p ∈ k.predicates, p.negated = false)
    (distinct : (k.predicates.map Predicate.name).Nodup) {tag : String}
    (fits : k.tag = none ∨ k.tag = some anyTag ∨ k.tag = some tag) :
    (k.holds true (k.spelled tag) = true ↔
      ∀ p ∈ k.predicates, p.name = "class" → ∀ v ∈ p.value, IsSingleWord v) ∧
    ((∀ p ∈ k.predicates, p.name = "class" → p.value = none ∨ p.mark? = some '.') →
      k.holds true (k.spelled tag) = true) := by
  have tests : k.holds true (k.spelled tag) = true ↔
      ∀ p ∈ k.predicates, p.name = "class" → ∀ v ∈ p.value, IsSingleWord v := by
    rw [holds, tagHolds_of_fits fits, Bool.true_and, List.all_eq_true]
    refine forall₂_congr fun p hp => ?_
    rw [Predicate.holds_of_not_negated (positive p hp), positiveHolds_spelled_iff distinct hp]
    simp only [Predicate.accepts_self_iff, classAttribute]
    exact ⟨fun h named v hv => h v hv named, fun h v hv named => h named v hv⟩
  refine ⟨tests, fun dotted => tests.2 fun p hp named v hv => ?_⟩
  rcases dotted p hp named with unasked | marked
  · rw [unasked] at hv
    cases hv
  · exact Predicate.isSingleWord_of_mark? marked hv

/-- `INPUT[id="a b"][title=""].wide[type]` -/
def spelledInput : Compound :=
  { tag := "INPUT"
    predicates := [{ name := "id", value := "a b" }, { name := "title", value := "" },
      { name := "class", value := "wide" }, { name := "type" }] }

/-- `[class="a b"]` -/
def twoClasses : Compound := { predicates := [{ name := "class", value := "a b" }] }

theorem Compound.holds_spelled_classes :
    (Selector.parse "INPUT[id='a b'][title=].wide[type], [class='a b']").toOption.map
        Selector.alternatives = some [⟨[spelledInput]⟩, ⟨[twoClasses]⟩] ∧
      spelledInput.holds true (spelledInput.spelled "INPUT") = true ∧
      ¬ twoClasses.holds true (twoClasses.spelled "div") = true := by
  refine ⟨by decide +kernel, ?_, ?_⟩
  · exact (holds_spelled_iff (by decide) (by decide) (.inr (.inr rfl))).1.2 (by decide +kernel)
  · intro holds
    have single := (holds_spelled_iff (by decide) (by decide) (.inl rfl)).1.1 holds
    exact absurd single (by decide +kernel)

end DirectiveBinding
