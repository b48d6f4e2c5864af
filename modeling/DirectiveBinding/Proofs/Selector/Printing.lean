import DirectiveBinding.Proofs.Selector.Grammar
import DirectiveBinding.Proofs.Selector.Tokens
import DirectiveBinding.Selector.Print

/-! The written form of a selector, as a text of the grammar.

`WellFormed` is what reading leaves (`wellFormed_of_selectorText`): names without
backslashes, values with one kind of quote at most, nothing empty but perhaps the name
of an attribute. When no attribute name is empty either, the grammar derives the
written form and gives back the selector (`selectorText_alternativesChars`). Every
phrase is written so that it ends where it should whatever text follows it, but for a
tag and a mark, which go on with the name after them; those are followed by a mark, a
blank or a comma. -/
namespace DirectiveBinding

open Text Grammar

/-! ### Well-formed selectors -/

/-- A character of an attribute name without its backslashes. -/
def isPlainName (c : Char) : Bool := isName c || c = '.' || c = '*' || c = '$'

theorem isAttributeName_iff {c : Char} :
    isAttributeName c = true ↔ isPlainName c = true ∨ c = '\\' := by
  simp only [isAttributeName, isPlainName, Bool.or_eq_true, decide_eq_true_eq]
  exact or_right_comm

theorem ne_backslash_of_isPlainName {c : Char} (h : isPlainName c = true) : c ≠ '\\' := by
  intro same
  subst same
  exact absurd h (by decide)

/-- A name of plain characters, and a value that one kind of quote can enclose. -/
structure Predicate.WellFormed (p : Predicate) : Prop where
  name_chars : ∀ c ∈ p.name.toList, isPlainName c = true
  value_quotable : ∀ v ∈ p.value, ¬ ('"' ∈ v.toList ∧ '\'' ∈ v.toList)

structure Compound.WellFormed (k : Compound) : Prop where
  nonempty : k.isEmpty = false
  tag_text : ∀ t ∈ k.tag, IsTagText t.toList
  predicates : ∀ p ∈ k.predicates, p.WellFormed

structure Alternative.WellFormed (a : Alternative) : Prop where
  nonempty : a.compounds ≠ []
  compounds : ∀ k ∈ a.compounds, k.WellFormed

/-- What every alternative of a selector satisfies, of which there is at least one. -/
structure AlternativesWellFormed (as : List Alternative) : Prop where
  nonempty : as ≠ []
  alternatives : ∀ a ∈ as, a.WellFormed

/-- Every attribute test has a name. -/
def Compound.Named (k : Compound) : Prop := ∀ p ∈ k.predicates, p.name ≠ ""

instance (w : List Char) : Decidable (IsNameText w) :=
  decidable_of_iff (w ≠ [] ∧ w.all isName = true)
    ⟨fun h => ⟨h.1, List.all_eq_true.1 h.2⟩, fun h => ⟨h.1, List.all_eq_true.2 h.2⟩⟩

instance (w : List Char) : Decidable (IsTagText w) :=
  inferInstanceAs (Decidable (w = ['*'] ∨ IsNameText w))

instance (p : Predicate) : Decidable p.WellFormed :=
  decidable_of_iff (p.name.toList.all isPlainName = true ∧
      ∀ v ∈ p.value, ¬ ('"' ∈ v.toList ∧ '\'' ∈ v.toList))
    ⟨fun h => ⟨List.all_eq_true.1 h.1, h.2⟩, fun h => ⟨List.all_eq_true.2 h.1, h.2⟩⟩

instance (k : Compound) : Decidable k.WellFormed :=
  decidable_of_iff (k.isEmpty = false ∧ (∀ t ∈ k.tag, IsTagText t.toList) ∧
      ∀ p ∈ k.predicates, p.WellFormed)
    ⟨fun h => ⟨h.1, h.2.1, h.2.2⟩, fun h => ⟨h.1, h.2, h.3⟩⟩

instance (k : Compound) : Decidable k.Named :=
  inferInstanceAs (Decidable (∀ p ∈ k.predicates, p.name ≠ ""))

instance (a : Alternative) : Decidable a.WellFormed :=
  decidable_of_iff (a.compounds ≠ [] ∧ ∀ k ∈ a.compounds, k.WellFormed)
    ⟨fun h => ⟨h.1, h.2⟩, fun h => ⟨h.1, h.2⟩⟩

instance (as : List Alternative) : Decidable (AlternativesWellFormed as) :=
  decidable_of_iff (as ≠ [] ∧ ∀ a ∈ as, a.WellFormed) ⟨fun h => ⟨h.1, h.2⟩, fun h => ⟨h.1, h.2⟩⟩

/-! ### Reading leaves a well-formed selector -/

theorem not_mem_of_isNameText {w : List Char} {c : Char} (h : IsNameText w)
    (hc : isName c = false) : c ∉ w := by
  intro inside
  rw [h.chars c inside] at hc
  exact absurd hc (by decide)

theorem isPlainName_of_isAttributeText {n : List Char} (h : IsAttributeText n) :
    ∀ c ∈ plainName n, isPlainName c = true := by
  intro c hc
  obtain ⟨inside, solid⟩ := List.mem_filter.1 hc
  exact (isAttributeName_iff.1 (h.chars c inside)).resolve_right (by simpa using solid)

theorem quotable_of_valueAt {s v r : List Char} (h : ValueAt s v r) :
    ¬ ('"' ∈ v ∧ '\'' ∈ v) := by
  cases h with
  | double outside => exact fun both => outside both.1
  | single outside => exact fun both => outside both.2
  | bare _ mixed => exact mixed

theorem wellFormed_of_simpleAt {s r : List Char} {p : Predicate} (h : SimpleAt s p r) :
    p.WellFormed := by
  cases h with
  | classMark name =>
    have plain : classAttribute.toList.all isPlainName = true := by decide
    refine ⟨List.all_eq_true.1 plain, ?_⟩
    simpa using fun inside _ => not_mem_of_isNameText name (by decide) inside
  | idMark name =>
    have plain : idAttribute.toList.all isPlainName = true := by decide
    refine ⟨List.all_eq_true.1 plain, ?_⟩
    simpa using fun inside _ => not_mem_of_isNameText name (by decide) inside
  | present name => exact ⟨by simpa using isPlainName_of_isAttributeText name, by simp⟩
  | valued name value =>
    exact ⟨by simpa using isPlainName_of_isAttributeText name,
      by simpa using quotable_of_valueAt value⟩

theorem wellFormed_of_testAt {s r : List Char} {p : Predicate} (h : TestAt s p r) :
    p.WellFormed := by
  cases h with
  | positive simple => exact wellFormed_of_simpleAt simple
  | negated _ simple =>
    obtain ⟨name, value⟩ := wellFormed_of_simpleAt simple
    exact ⟨name, value⟩

theorem wellFormed_of_testsAt {s r : List Char} {ps : List Predicate} (h : TestsAt s ps r) :
    ∀ p ∈ ps, p.WellFormed := by
  induction h with
  | nil => simp
  | cons test _ ih => exact List.forall_mem_cons.2 ⟨wellFormed_of_testAt test, ih⟩

theorem wellFormed_of_compoundAt {s r : List Char} {k : Compound} (h : CompoundAt s k r) :
    k.WellFormed := by
  cases h with
  | tagged tag tests => exact ⟨rfl, by simpa using tag, wellFormed_of_testsAt tests⟩
  | untagged tests nonempty =>
    exact ⟨by simpa [Compound.isEmpty] using nonempty, by simp, wellFormed_of_testsAt tests⟩

theorem wellFormed_of_compoundsAt {s r : List Char} {ks : List Compound} (h : CompoundsAt s ks r) :
    Alternative.WellFormed ⟨ks⟩ := by
  induction h with
  | one compound => exact ⟨by simp, by simpa using wellFormed_of_compoundAt compound⟩
  | more compound _ _ _ ih =>
    exact ⟨by simp, List.forall_mem_cons.2 ⟨wellFormed_of_compoundAt compound, ih.compounds⟩⟩

theorem wellFormed_of_alternativesAt {s r : List Char} {as : List Alternative}
    (h : AlternativesAt s as r) : AlternativesWellFormed as := by
  induction h with
  | one compounds => exact ⟨by simp, by simpa using wellFormed_of_compoundsAt compounds⟩
  | more compounds _ _ _ ih =>
    exact ⟨by simp, List.forall_mem_cons.2 ⟨wellFormed_of_compoundsAt compounds, ih.alternatives⟩⟩

theorem wellFormed_of_selectorText {s : List Char} {as : List Alternative}
    (h : SelectorText s as) : AlternativesWellFormed as := by
  obtain ⟨-, alternatives, -⟩ := h
  exact wellFormed_of_alternativesAt alternatives

/-! ### The written form is in the grammar -/

theorem plainName_escapeDollars {n : List Char} (h : ∀ c ∈ n, isPlainName c = true) :
    plainName (escapeDollars n) = n := by
  induction n with
  | nil => rfl
  | cons c n ih =>
    obtain ⟨first, others⟩ := List.forall_mem_cons.1 h
    have solid := ne_backslash_of_isPlainName first
    have rest : (escapeDollars n).filter (fun c => c ≠ '\\') = n := ih others
    by_cases dollar : c = '$'
    · simp [plainName, escapeDollars, dollar] at rest ⊢
      exact rest
    · simp [plainName, escapeDollars, dollar, solid] at rest ⊢
      exact rest

theorem dollarsEscaped_escapeDollars {n : List Char} (escaped : Bool) :
    DollarsEscaped escaped (escapeDollars n) := by
  induction n generalizing escaped with
  | nil => simp [DollarsEscaped, escapeDollars]
  | cons c n ih =>
    by_cases dollar : c = '$'
    · have : escapeDollars (c :: n) = '\\' :: '$' :: escapeDollars n := by
        simp [escapeDollars, dollar]
      rw [this, dollarsEscaped_cons, dollarsEscaped_cons]
      exact ⟨by simp, by simp, ih _⟩
    · have : escapeDollars (c :: n) = c :: escapeDollars n := by simp [escapeDollars, dollar]
      rw [this, dollarsEscaped_cons]
      exact ⟨fun same => absurd same dollar, ih _⟩

theorem isAttributeText_escapeDollars {n : List Char} (nonempty : n ≠ [])
    (h : ∀ c ∈ n, isPlainName c = true) : IsAttributeText (escapeDollars n) := by
  refine isAttributeText_iff.2 ⟨?_, ?_, ?_⟩
  · obtain ⟨c, n, rfl⟩ := List.exists_cons_of_ne_nil nonempty
    by_cases dollar : c = '$' <;> simp [escapeDollars, dollar]
  · intro c hc
    obtain ⟨d, hd, inside⟩ := List.mem_flatMap.1 hc
    split at inside
    · rcases List.mem_cons.1 inside with rfl | inside
      · decide
      · obtain rfl := List.mem_singleton.1 inside
        decide
    · obtain rfl := List.mem_singleton.1 inside
      exact isAttributeName_iff.2 (.inl (h c hd))
  · exact unescape?_eq_some_iff.2 ⟨dollarsEscaped_escapeDollars false, rfl⟩

theorem valueAt_quotedValue {v r : List Char} (h : ¬ ('"' ∈ v ∧ '\'' ∈ v)) :
    ValueAt (Predicate.quotedValue v ++ ']' :: r) v r := by
  unfold Predicate.quotedValue
  split
  · next double =>
    have single : '\'' ∉ v := fun inside => h ⟨by simpa using double, inside⟩
    simpa using ValueAt.single (r := r) single
  · next double =>
    have double : '"' ∉ v := by simpa using double
    simpa using ValueAt.double (r := r) double

namespace Predicate

/-- The three written forms of a test. -/
theorem positiveChars_cases (p : Predicate) :
    (∃ v, p.value = some v ∧ IsNameText v.toList ∧
      (p.name = classAttribute ∧ p.positiveChars = '.' :: v.toList ∨
        p.name = idAttribute ∧ p.positiveChars = '#' :: v.toList)) ∨
    (p.value = none ∧ p.positiveChars = '[' :: escapeDollars p.name.toList ++ [']']) ∨
    (∃ v, p.value = some v ∧ p.positiveChars =
      '[' :: escapeDollars p.name.toList ++ '=' :: quotedValue v.toList ++ [']']) := by
  cases hv : p.value with
  | none => exact .inr (.inl ⟨rfl, by simp [positiveChars, mark?, hv]⟩)
  | some v =>
    by_cases name : IsNameText v.toList
    · have marked : (v.toList.isEmpty || !v.toList.all isName) = false := by
        simpa [name.nonempty] using name.chars
      by_cases hc : p.name = classAttribute
      · exact .inl ⟨v, rfl, name, .inl ⟨hc, by simp [positiveChars, mark?, hv, marked, hc]⟩⟩
      · by_cases hi : p.name = idAttribute
        · have other : idAttribute ≠ classAttribute := by decide
          exact .inl ⟨v, rfl, name, .inr ⟨hi, by simp [positiveChars, mark?, hv, marked, hi, other]⟩⟩
        · exact .inr (.inr ⟨v, rfl, by simp [positiveChars, mark?, hv, marked, hc, hi]⟩)
    · have unmarked : (v.toList.isEmpty || !v.toList.all isName) = true := by
        by_contra marked
        simp only [Bool.or_eq_true, List.isEmpty_iff, Bool.not_eq_true', not_or,
          Bool.not_eq_false, List.all_eq_true] at marked
        exact name ⟨marked.1, marked.2⟩
      exact .inr (.inr ⟨v, rfl, by simp [positiveChars, mark?, hv, unmarked]⟩)

theorem simpleAt_positiveChars {p : Predicate} (h : p.WellFormed) (named : p.name ≠ "")
    (r : List Char) : SimpleAt (p.positiveChars ++ r) { p with negated := false } r := by
  obtain ⟨name, value, negated⟩ := p
  have spelled : IsAttributeText (escapeDollars name.toList) :=
    isAttributeText_escapeDollars (by simpa using named) h.name_chars
  have plain : String.ofList (plainName (escapeDollars name.toList)) = name := by
    rw [plainName_escapeDollars h.name_chars, String.ofList_toList]
  obtain ⟨v, rfl, hv, ⟨rfl, e⟩ | ⟨rfl, e⟩⟩ | ⟨rfl, e⟩ | ⟨v, rfl, e⟩ :=
    positiveChars_cases ⟨name, value, negated⟩
  · rw [e]
    simpa [classAttribute] using SimpleAt.classMark (r := r) hv
  · rw [e]
    simpa [idAttribute] using SimpleAt.idMark (r := r) hv
  · rw [e]
    simpa [plain] using SimpleAt.present (r := r) spelled
  · rw [e]
    have quoted := valueAt_quotedValue (r := r) (h.value_quotable v rfl)
    simpa [plain] using SimpleAt.valued spelled quoted

theorem testAt_chars {p : Predicate} (h : p.WellFormed) (named : p.name ≠ "") (r : List Char) :
    TestAt (p.chars ++ r) p r := by
  obtain ⟨name, value, negated⟩ := p
  cases negated with
  | false => exact .positive (simpleAt_positiveChars h named r)
  | true =>
    have simple := simpleAt_positiveChars h named (')' :: r)
    have test := @TestAt.negated [] _ _ [] r blanks_nil simple blanks_nil
    simpa [chars] using test

end Predicate

theorem testsAt_chars {ps : List Predicate} (h : ∀ p ∈ ps, p.WellFormed)
    (named : ∀ p ∈ ps, p.name ≠ "") (r : List Char) :
    TestsAt (ps.flatMap Predicate.chars ++ r) ps r := by
  induction ps with
  | nil => exact .nil
  | cons p ps ih =>
    obtain ⟨first, others⟩ := List.forall_mem_cons.1 h
    obtain ⟨firstNamed, othersNamed⟩ := List.forall_mem_cons.1 named
    rw [List.flatMap_cons, List.append_assoc]
    exact .cons (Predicate.testAt_chars first firstNamed _) (ih others othersNamed)

theorem Compound.compoundAt_chars {k : Compound} (h : k.WellFormed) (named : k.Named)
    (r : List Char) : CompoundAt (k.chars ++ r) k r := by
  obtain ⟨tag, predicates⟩ := k
  have tests := testsAt_chars h.predicates named r
  cases tag with
  | none => exact .untagged tests (by simpa [Compound.isEmpty] using h.nonempty)
  | some t =>
    have tagged := CompoundAt.tagged (h.tag_text t rfl) tests
    simpa [Compound.chars] using tagged

theorem compoundsAt_chars {ks : List Compound} (nonempty : ks ≠ []) (h : ∀ k ∈ ks, k.WellFormed)
    (named : ∀ k ∈ ks, k.Named) (r : List Char) :
    CompoundsAt ([' '].intercalate (ks.map Compound.chars) ++ r) ks r := by
  induction ks with
  | nil => exact absurd rfl nonempty
  | cons k ks ih =>
    obtain ⟨first, others⟩ := List.forall_mem_cons.1 h
    obtain ⟨firstNamed, othersNamed⟩ := List.forall_mem_cons.1 named
    cases ks with
    | nil => simpa using CompoundsAt.one (k.compoundAt_chars first firstNamed r)
    | cons l ls =>
      have compound := k.compoundAt_chars first firstNamed
        ([' '] ++ ([' '].intercalate ((l :: ls).map Compound.chars) ++ r))
      have compounds := ih (by simp) others othersNamed
      simpa using CompoundsAt.more compound (by simp) blanks_space compounds

theorem alternativesAt_chars {as : List Alternative} (h : AlternativesWellFormed as)
    (named : ∀ a ∈ as, ∀ k ∈ a.compounds, k.Named) (r : List Char) :
    AlternativesAt (alternativesChars as ++ r) as r := by
  induction as with
  | nil => exact absurd rfl h.nonempty
  | cons a as ih =>
    obtain ⟨first, others⟩ := List.forall_mem_cons.1 h.alternatives
    obtain ⟨firstNamed, othersNamed⟩ := List.forall_mem_cons.1 named
    have compounds := compoundsAt_chars first.nonempty first.compounds firstNamed
    cases as with
    | nil => simpa [alternativesChars, Alternative.chars] using AlternativesAt.one (compounds r)
    | cons b bs =>
      have alternatives := ih ⟨by simp, others⟩ othersNamed
      have := AlternativesAt.more (b := []) (compounds (',' :: ([' '] ++ _))) blanks_nil
        blanks_space alternatives
      simpa [alternativesChars, Alternative.chars] using this

/-- **What is written is in the grammar**: the written form of a well-formed selector whose
attribute tests have names derives the selector. -/
theorem selectorText_alternativesChars {as : List Alternative} (h : AlternativesWellFormed as)
    (named : ∀ a ∈ as, ∀ k ∈ a.compounds, k.Named) : SelectorText (alternativesChars as) as := by
  have alternatives := alternativesAt_chars h named []
  rw [List.append_nil] at alternatives
  exact .intro (b := []) blanks_nil alternatives blanks_nil

end DirectiveBinding
