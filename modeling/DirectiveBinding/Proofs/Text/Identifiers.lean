import DirectiveBinding.Proofs.Text.Classes
import DirectiveBinding.Text.Upper

/-! Identifiers at the start of a text.

An identifier is read to its end, so it is read back whole when what follows it cannot go
on with it (`leadingIdentifier?_of_isIdentifier`). It starts with an ASCII character, hence in
upper case it starts with one character still, which an identifier can start with
(`upper_of_isIdentifierStart`). -/
namespace DirectiveBinding.Text

variable {part : Char → Bool} {c : Char} {x r : List Char}

/-! ### Characters -/

theorem isIdentifierPart_of_isIdentifierStart (h : isIdentifierStart c = true) :
    isIdentifierPart c = true := by
  simp only [isIdentifierStart, isIdentifierPart, isWord, Char.isAlphanum, Bool.or_eq_true,
    decide_eq_true_eq] at h ⊢
  rcases h with (alpha | low) | dollar
  · exact .inl (.inl (.inl (.inl alpha)))
  · exact .inl (.inl (.inr low))
  · exact .inr dollar

theorem isIdentifierPart_of_isBlank (h : isBlank c = true) : isIdentifierPart c = false := by
  have : c ≠ '$' := by
    intro same
    subst same
    exact absurd h (by decide)
  simp [isIdentifierPart, isWord_of_isBlank h, this]

/-- Only ASCII characters start an identifier. -/
theorem toNat_of_isIdentifierStart (h : isIdentifierStart c = true) : c.toNat < 0x80 := by
  simp only [isIdentifierStart, Bool.or_eq_true, decide_eq_true_eq] at h
  rcases h with (alpha | rfl) | rfl
  · change (decide (c.val ≥ 65 ∧ c.val ≤ 90) ||
      decide (c.val ≥ 97) && decide (c.val ≤ 122)) = true at alpha
    simp only [Bool.or_eq_true, Bool.and_eq_true, decide_eq_true_eq, ge_iff_le,
      UInt32.le_iff_toNat_le] at alpha
    change (65 ≤ c.toNat ∧ c.toNat ≤ 90) ∨ (97 ≤ c.toNat ∧ c.toNat ≤ 122) at alpha
    omega
  · decide
  · decide

theorem upper_of_isIdentifierStart (h : isIdentifierStart c = true) :
    ∃ d, upper c = [d] ∧ isIdentifierStart d = true := by
  have ascii : ∀ n < 0x80, isIdentifierStart (Char.ofNat n) = true →
      isIdentifierStart (Char.ofNat n).toUpper = true := by
    decide +kernel
  have low := toNat_of_isIdentifierStart h
  refine ⟨c.toUpper, by rw [upper, if_pos low], ?_⟩
  have capital := ascii c.toNat low
  rw [Char.ofNat_toNat] at capital
  exact capital h

/-! ### Identifiers -/

theorem isIdentifier_iff : isIdentifier x = true ↔
    ∃ c s, x = c :: s ∧ isIdentifierStart c = true ∧ ∀ d ∈ s, isIdentifierPart d = true := by
  cases x with
  | nil => simp [isIdentifier]
  | cons c s =>
    simp only [isIdentifier, Bool.and_eq_true, List.all_eq_true]
    constructor
    · rintro ⟨start, others⟩
      exact ⟨c, s, rfl, start, others⟩
    · rintro ⟨c, s, spelled, start, others⟩
      obtain ⟨rfl, rfl⟩ := List.cons.inj spelled
      exact ⟨start, others⟩

theorem isIdentifierPart_of_mem (h : isIdentifier x = true) : ∀ d ∈ x, isIdentifierPart d = true := by
  obtain ⟨c, s, rfl, start, others⟩ := isIdentifier_iff.1 h
  intro d hd
  rcases List.mem_cons.1 hd with rfl | hd
  · exact isIdentifierPart_of_isIdentifierStart start
  · exact others d hd

theorem leadingIdentifier?_cons_append {s : List Char} (start : isIdentifierStart c = true)
    (chars : ∀ d ∈ s, part d = true) (stop : Stops part r) :
    leadingIdentifier? part (c :: s ++ r) = some (c :: s, r) := by
  rw [List.cons_append, leadingIdentifier?, if_pos start, takeWhile_append_of_stops chars stop,
    dropWhile_append_of_stops chars stop]

theorem leadingIdentifier?_of_isIdentifier (h : isIdentifier x = true) (stop : Stops isIdentifierPart r) :
    leadingIdentifier? isIdentifierPart (x ++ r) = some (x, r) := by
  obtain ⟨c, s, rfl, start, others⟩ := isIdentifier_iff.1 h
  exact leadingIdentifier?_cons_append start others stop

theorem isIdentifier_of_leadingIdentifier? {s : List Char}
    (h : leadingIdentifier? isIdentifierPart s = some (x, r)) : isIdentifier x = true := by
  cases s with
  | nil => simp [leadingIdentifier?] at h
  | cons c s =>
    simp only [leadingIdentifier?] at h
    split at h
    · next start =>
      obtain ⟨rfl, -⟩ := Prod.mk.inj (Option.some.inj h)
      exact isIdentifier_iff.2 ⟨c, _, rfl, start, fun d hd => List.mem_takeWhile_imp hd⟩
    · simp at h

end DirectiveBinding.Text
