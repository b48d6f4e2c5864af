import DirectiveBinding.Text.Ranges

/-! Blank characters, and text with the blanks around it removed.

A blank is any character that Unicode calls white space: the ASCII blanks with
the vertical tab and the form feed, the next-line control, and the spaces and
separators beyond ASCII. A zero-width space is not one. -/
namespace DirectiveBinding.Text

/-- The code points of white space. -/
def blanks : List (Nat × Nat) :=
  [(0x9, 0xd), (0x20, 0x20), (0x85, 0x85), (0xa0, 0xa0), (0x1680, 0x1680), (0x2000, 0x200a),
   (0x2028, 0x2029), (0x202f, 0x202f), (0x205f, 0x205f), (0x3000, 0x3000)]

def isBlank (c : Char) : Bool := covers blanks c.toNat

example : isBlank ' ' ∧ isBlank '\n' ∧ isBlank '\u00a0' ∧ ¬ isBlank '\u200b' := by decide

def trimStart (s : List Char) : List Char := s.dropWhile isBlank

def trimEnd (s : List Char) : List Char := (s.reverse.dropWhile isBlank).reverse

def trim (s : List Char) : List Char := trimEnd (trimStart s)

/-- A string without the blanks at its two ends. -/
def trimmed (s : String) : String := String.ofList (trim s.toList)

/-- The trimmed text, or nothing when the text is blank. -/
def nonblank? (s : String) : Option String :=
  if trimmed s = "" then none else some (trimmed s)

/-- The maximal runs of characters that are not blank. -/
def words (s : String) : List String :=
  ((s.toList.splitOnP isBlank).filter fun w => !w.isEmpty).map String.ofList

/-! ### Trimming -/

theorem dropWhile_isBlank_eq_nil_iff {s : List Char} :
    s.dropWhile isBlank = [] ↔ ∀ c ∈ s, isBlank c = true := by
  induction s with
  | nil => simp
  | cons c s ih => by_cases h : isBlank c <;> simp [h, ih]

theorem trimStart_eq_nil_iff {s : List Char} : trimStart s = [] ↔ ∀ c ∈ s, isBlank c = true :=
  dropWhile_isBlank_eq_nil_iff

/-- What is left after the leading blanks starts with no blank. -/
theorem isBlank_of_trimStart {c : Char} {s r : List Char} (h : trimStart s = c :: r) :
    isBlank c = false := by
  have first := List.head_dropWhile_not isBlank (by rw [show s.dropWhile isBlank = c :: r from h]; simp)
  simpa [show s.dropWhile isBlank = c :: r from h] using first

theorem trim_eq_nil_iff {s : List Char} : trim s = [] ↔ ∀ c ∈ s, isBlank c = true := by
  rw [← trimStart_eq_nil_iff]
  constructor
  · intro h
    have all : ∀ c ∈ trimStart s, isBlank c = true := by
      simpa [trim, trimEnd, dropWhile_isBlank_eq_nil_iff] using h
    cases hs : trimStart s with
    | nil => rfl
    | cons c r => simpa [isBlank_of_trimStart hs] using all c (by simp [hs])
  · intro h
    simp [trim, trimEnd, h]

end DirectiveBinding.Text
