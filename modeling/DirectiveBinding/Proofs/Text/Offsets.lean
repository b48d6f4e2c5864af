import DirectiveBinding.Text.Bytes
import Mathlib.Data.List.Basic

/-! Places in a text, given by the bytes before them.

A part stands in a text at an offset when this many bytes come before it (`StandsAt`), so an
offset lies within the text and between two characters when any part stands there, be it the
empty one. A slice is cut out by two such offsets, and by no others (`slice?_eq_some_iff`). -/
namespace DirectiveBinding.Text

variable {s t a a' b b' : List Char} {c d : Char} {n i j : Nat}

/-- The bytes of a string are counted as its characters are. -/
theorem bytes_toList (s : String) : bytes s.toList = s.utf8ByteSize := by
  have counted (l : List Char) : bytes l = (String.ofList l).utf8ByteSize := by
    induction l with
    | nil => rfl
    | cons c l ih =>
      rw [bytes_cons, ih, ← List.singleton_append, String.ofList_append,
        String.utf8ByteSize_append, ← String.singleton_eq_ofList, String.utf8ByteSize_singleton]
  rw [counted, String.ofList_toList]

theorem bytes_cons_ne_zero : bytes (c :: s) ≠ 0 := by
  have := c.utf8Size_pos
  rw [bytes_cons]
  omega

theorem bytes_eq_zero_iff : bytes s = 0 ↔ s = [] := by
  cases s with
  | nil => simp
  | cons c s => exact iff_of_false bytes_cons_ne_zero (List.cons_ne_nil c s)

/-- A text has one beginning of each length in bytes. -/
theorem eq_of_bytes_eq (same : a ++ b = a' ++ b') (size : bytes a = bytes a') : a = a' ∧ b = b' := by
  induction a generalizing a' with
  | nil =>
    cases a' with
    | nil => exact ⟨rfl, same⟩
    | cons d a' => exact absurd size.symm bytes_cons_ne_zero
  | cons c a ih =>
    cases a' with
    | nil => exact absurd size bytes_cons_ne_zero
    | cons d a' =>
      obtain ⟨rfl, same'⟩ := List.cons.inj same
      obtain ⟨rfl, rfl⟩ := ih same' (Nat.add_left_cancel size)
      exact ⟨rfl, rfl⟩

/-! ### Parts -/

/-- The part `p` stands in the text `s` with `n` bytes before it. -/
def StandsAt (s : List Char) (n : Nat) (p : List Char) : Prop :=
  ∃ before after, s = before ++ (p ++ after) ∧ bytes before = n

namespace StandsAt

variable {p q : List Char}

theorem left (h : StandsAt s n (p ++ q)) : StandsAt s n p := by
  obtain ⟨before, after, rfl, size⟩ := h
  exact ⟨before, q ++ after, by rw [List.append_assoc], size⟩

theorem nil (h : StandsAt s n p) : StandsAt s n [] := left (q := p) h

theorem right (h : StandsAt s n (p ++ q)) : StandsAt s (n + bytes p) q := by
  obtain ⟨before, after, rfl, rfl⟩ := h
  exact ⟨before ++ p, after, by simp only [List.append_assoc], bytes_append before p⟩

theorem le (h : StandsAt s n p) : n ≤ bytes s := by
  obtain ⟨before, after, rfl, rfl⟩ := h
  rw [bytes_append]
  exact Nat.le_add_right _ _

/-- One character only stands at an offset. -/
theorem head_eq (h : StandsAt s n (c :: p)) (h' : StandsAt s n (d :: q)) : c = d := by
  obtain ⟨before, after, rfl, size⟩ := h
  obtain ⟨before', after', same, size'⟩ := h'
  obtain ⟨-, rest⟩ := eq_of_bytes_eq same (size.trans size'.symm)
  exact (List.cons.inj rest).1

/-- The offset of a part is a position of the string. -/
theorem isValid {text : String} (h : StandsAt text.toList n p) :
    (⟨n⟩ : String.Pos.Raw).IsValid text := by
  obtain ⟨before, after, whole, rfl⟩ := h
  rw [String.Pos.Raw.isValid_iff_exists_append]
  refine ⟨String.ofList before, String.ofList (p ++ after), ?_, ?_⟩
  · rw [← String.ofList_append, ← whole, String.ofList_toList]
  · rw [String.Pos.Raw.ext_iff]
    change bytes before = (String.ofList before).utf8ByteSize
    rw [← bytes_toList, String.toList_ofList]

end StandsAt

/-! ### Slices -/

/-- A text as its first `n` bytes and the others, unless it is too short or a character would be
cut. -/
def splitBytes? (n : Nat) : List Char → Option (List Char × List Char)
  | [] => if n = 0 then some ([], []) else none
  | c :: s =>
    if n = 0 then some ([], c :: s)
    else if c.utf8Size ≤ n then
      (splitBytes? (n - c.utf8Size) s).map fun parts => (c :: parts.1, parts.2)
    else none

/-- The slice of a text from one offset to another. -/
def slice? (s : List Char) (i j : Nat) : Option (List Char) :=
  if i ≤ j then
    (splitBytes? i s).bind fun parts => (splitBytes? (j - i) parts.2).map Prod.fst
  else none

theorem splitBytes?_zero_eq_some_iff :
    splitBytes? 0 s = some (a, b) ↔ s = a ++ b ∧ bytes a = 0 := by
  have whole : splitBytes? 0 s = some ([], s) := by cases s <;> rfl
  rw [whole, Option.some_inj, Prod.mk.injEq, bytes_eq_zero_iff]
  constructor
  · rintro ⟨rfl, rfl⟩
    exact ⟨rfl, rfl⟩
  · rintro ⟨rfl, rfl⟩
    exact ⟨rfl, rfl⟩

theorem splitBytes?_eq_some_iff : splitBytes? n s = some (a, b) ↔ s = a ++ b ∧ bytes a = n := by
  induction s generalizing n a with
  | nil =>
    by_cases zero : n = 0
    · exact zero ▸ splitBytes?_zero_eq_some_iff
    · rw [splitBytes?, if_neg zero]
      refine iff_of_false (by simp) ?_
      rintro ⟨same, rfl⟩
      obtain ⟨rfl, -⟩ := List.append_eq_nil_iff.1 same.symm
      exact zero rfl
  | cons c s ih =>
    by_cases zero : n = 0
    · exact zero ▸ splitBytes?_zero_eq_some_iff
    by_cases fits : c.utf8Size ≤ n
    · rw [splitBytes?, if_neg zero, if_pos fits, Option.map_eq_some_iff]
      constructor
      · rintro ⟨⟨a', b'⟩, found, same⟩
        obtain ⟨rfl, rfl⟩ := Prod.mk.inj same
        obtain ⟨rfl, size⟩ := ih.1 found
        exact ⟨rfl, by rw [bytes_cons, size, Nat.add_sub_cancel' fits]⟩
      · rintro ⟨same, size⟩
        cases a with
        | nil => exact absurd size.symm zero
        | cons d a =>
          obtain ⟨rfl, rest⟩ := List.cons.inj same
          rw [bytes_cons] at size
          exact ⟨(a, b), ih.2 ⟨rest, by omega⟩, rfl⟩
    · rw [splitBytes?, if_neg zero, if_neg fits]
      refine iff_of_false (by simp) ?_
      rintro ⟨same, size⟩
      cases a with
      | nil => exact zero size.symm
      | cons d a =>
        obtain ⟨rfl, -⟩ := List.cons.inj same
        rw [bytes_cons] at size
        omega

/-- Two offsets cut out the part that stands between them; there is no slice if there is no such
part. -/
theorem slice?_eq_some_iff {p : List Char} :
    slice? s i j = some p ↔ StandsAt s i p ∧ j = i + bytes p := by
  unfold slice?
  by_cases le : i ≤ j
  · rw [if_pos le, Option.bind_eq_some_iff]
    simp only [Option.map_eq_some_iff, Prod.exists, splitBytes?_eq_some_iff]
    constructor
    · rintro ⟨before, rest, ⟨rfl, size⟩, q, after, ⟨rfl, size'⟩, rfl⟩
      exact ⟨⟨before, after, rfl, size⟩, by omega⟩
    · rintro ⟨⟨before, after, rfl, size⟩, rfl⟩
      exact ⟨before, p ++ after, ⟨rfl, size⟩, p, after, ⟨rfl, by omega⟩, rfl⟩
  · rw [if_neg le]
    refine ⟨fun found => (by cases found), ?_⟩
    rintro ⟨-, rfl⟩
    exact absurd (Nat.le_add_right i _) le

end DirectiveBinding.Text
