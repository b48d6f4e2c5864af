import DirectiveBinding.Text.Ranges
import DirectiveBinding.Text.WordTable

/-! Word characters and identifiers.

Names in selectors are made of word characters and hyphens. An identifier is
narrower at its start, where only ASCII letters, the low line and the dollar sign
stand, and admits word characters and dollar signs after it. -/
namespace DirectiveBinding.Text

/-- Letters, marks, decimal digits, connectors and joiners. -/
def isWord (c : Char) : Bool :=
  c.isAlphanum || c = '_' || (0x80 ≤ c.toNat && WordTable.stretches.any (covers · c.toNat))

/-- A character of a tag, class or id name. -/
def isName (c : Char) : Bool := c = '-' || isWord c

def isIdentifierStart (c : Char) : Bool := c.isAlpha || c = '_' || c = '$'

def isIdentifierPart (c : Char) : Bool := isWord c || c = '$'

/-- The longest identifier at the start of a text whose later characters pass `part`, and the
text after it. -/
def leadingIdentifier? (part : Char → Bool) : List Char → Option (List Char × List Char)
  | [] => none
  | c :: s =>
    if isIdentifierStart c then some (c :: s.takeWhile part, s.dropWhile part) else none

/-- Whether the whole text is an identifier. -/
def isIdentifier : List Char → Bool
  | [] => false
  | c :: s => isIdentifierStart c && s.all isIdentifierPart

example : isWord 'é' ∧ isWord '\u0301' ∧ isWord '٣' ∧ ¬ isWord '²' ∧ ¬ isWord '-' := by decide +kernel

theorem leadingIdentifier?_append {part : Char → Bool} {s x r : List Char}
    (h : leadingIdentifier? part s = some (x, r)) : x ++ r = s := by
  cases s with
  | nil => simp [leadingIdentifier?] at h
  | cons c s =>
    simp only [leadingIdentifier?] at h
    split at h
    · obtain ⟨rfl, rfl⟩ := by simpa using h
      simp
    · simp at h

end DirectiveBinding.Text
