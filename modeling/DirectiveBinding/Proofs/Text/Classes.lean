import DirectiveBinding.Text.Blank
import DirectiveBinding.Text.Word
import Mathlib.Data.List.TakeWhile

/-! Where a run of characters ends.

A run of one class is read to its end, so what is written after it must not start
with another character of the class (`Stops`). Then reading gives back exactly the
run (`takeWhile_append_of_stops`). That a blank ends a name rests on the tables: no
range of word characters meets a range of blanks. -/
namespace DirectiveBinding.Text

/-- A text of blanks only, maybe of none. -/
def Blanks (s : List Char) : Prop := ∀ c ∈ s, isBlank c = true

theorem blanks_nil : Blanks [] := by
  simp [Blanks]

theorem Blanks.append {s t : List Char} (hs : Blanks s) (ht : Blanks t) : Blanks (s ++ t) := by
  intro c hc
  rcases List.mem_append.1 hc with hc | hc
  · exact hs c hc
  · exact ht c hc

theorem blanks_cons {c : Char} {s : List Char} : Blanks (c :: s) ↔ isBlank c = true ∧ Blanks s := by
  simp [Blanks]

/-- The blank that separates compounds, and alternatives after their comma, when they are written. -/
theorem blanks_space : Blanks [' '] := blanks_cons.2 ⟨by decide, blanks_nil⟩

theorem blanks_takeWhile (s : List Char) : Blanks (s.takeWhile isBlank) :=
  fun _ hc => List.mem_takeWhile_imp hc

theorem all_isBlank_iff {s : List Char} : s.all isBlank = true ↔ Blanks s := by
  simp [Blanks]

/-! ### The end of a run -/

/-- The text does not start with a character of the class. -/
def Stops (p : Char → Bool) (s : List Char) : Prop := ∀ c ∈ s.head?, p c = false

theorem stops_nil (p : Char → Bool) : Stops p [] := by
  simp [Stops]

theorem stops_cons {p : Char → Bool} {c : Char} {s : List Char} :
    Stops p (c :: s) ↔ p c = false := by
  simp [Stops]

theorem takeWhile_append_of_stops {p : Char → Bool} {w r : List Char} (hw : ∀ c ∈ w, p c = true)
    (hr : Stops p r) : (w ++ r).takeWhile p = w := by
  rw [List.takeWhile_append_of_pos hw]
  cases r with
  | nil => simp
  | cons c r => simp [stops_cons.1 hr]

theorem dropWhile_append_of_stops {p : Char → Bool} {w r : List Char} (hw : ∀ c ∈ w, p c = true)
    (hr : Stops p r) : (w ++ r).dropWhile p = r := by
  rw [List.dropWhile_append_of_pos hw]
  cases r with
  | nil => rfl
  | cons c r => simp [stops_cons.1 hr]

theorem stops_dropWhile (p : Char → Bool) (s : List Char) : Stops p (s.dropWhile p) := by
  intro c hc
  have first := List.head?_dropWhile_not p s
  rw [Option.mem_def.1 hc] at first
  exact first

/-! ### Classes that exclude each other -/

theorem covers_eq_false_of_apart {rs qs : List (Nat × Nat)} {n : Nat}
    (apart : ∀ r ∈ rs, ∀ q ∈ qs, r.2 < q.1 ∨ q.2 < r.1) (h : covers rs n = true) :
    covers qs n = false := by
  obtain ⟨r, hr, low, high⟩ := covers_iff.1 h
  rw [Bool.eq_false_iff]
  intro hq
  obtain ⟨q, hq, low', high'⟩ := covers_iff.1 hq
  have := apart r hr q hq
  omega

theorem blanks_apart_from_words :
    ∀ qs ∈ WordTable.stretches, ∀ r ∈ blanks, ∀ q ∈ qs, r.2 < q.1 ∨ q.2 < r.1 := by
  decide +kernel

/-- The blanks of ASCII lie before the digits; the others lie beyond ASCII. -/
theorem toNat_of_isBlank {c : Char} (h : isBlank c = true) : c.toNat ≤ 32 ∨ 0x80 ≤ c.toNat := by
  obtain ⟨r, hr, low, high⟩ := covers_iff.1 h
  have : ∀ r ∈ blanks, r.2 ≤ 32 ∨ 0x80 ≤ r.1 := by decide
  have := this r hr
  omega

theorem isAlphanum_of_isBlank {c : Char} (h : isBlank c = true) : c.isAlphanum = false := by
  have place := toNat_of_isBlank h
  rw [Bool.eq_false_iff]
  intro letter
  change ((decide (c.val ≥ 65 ∧ c.val ≤ 90) ||
    decide (c.val ≥ 97) && decide (c.val ≤ 122)) ||
      decide (c.val ≥ 48) && decide (c.val ≤ 57)) = true at letter
  simp only [Bool.or_eq_true, Bool.and_eq_true, decide_eq_true_eq, ge_iff_le,
    UInt32.le_iff_toNat_le] at letter
  change ((65 ≤ c.toNat ∧ c.toNat ≤ 90) ∨ (97 ≤ c.toNat ∧ c.toNat ≤ 122)) ∨
    (48 ≤ c.toNat ∧ c.toNat ≤ 57) at letter
  omega

theorem isWord_of_isBlank {c : Char} (h : isBlank c = true) : isWord c = false := by
  have low : c ≠ '_' := by
    intro same
    subst same
    exact absurd h (by decide)
  have beyond : WordTable.stretches.any (covers · c.toNat) = false := by
    rw [List.any_eq_false]
    intro qs hqs
    rw [covers_eq_false_of_apart (blanks_apart_from_words qs hqs) h]
    decide
  simp [isWord, isAlphanum_of_isBlank h, low, beyond]

theorem isName_of_isBlank {c : Char} (h : isBlank c = true) : isName c = false := by
  have : c ≠ '-' := by
    intro same
    subst same
    exact absurd h (by decide)
  simp [isName, isWord_of_isBlank h, this]

end DirectiveBinding.Text
