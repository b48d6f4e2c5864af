import DirectiveBinding.Text.Blank

/-! The segments of a star attribute's value.

A semicolon or a comma separates segments unless it stands in brackets or quotes.
Brackets need not match in kind, and a closing bracket with nothing open is passed
over. Within quotes a backslash takes the next character with it. -/
namespace DirectiveBinding.Microsyntax

open Text

/-- How deep in brackets a place is, and in which quotes. -/
structure Nesting where
  depth : Nat := 0
  quote : Option Char := none
  /-- Whether a backslash in quotes was just passed. -/
  escaped : Bool := false
deriving DecidableEq, Repr

namespace Nesting

/-- The nesting after a character. -/
def next (n : Nesting) (c : Char) : Nesting :=
  match n.quote with
  | some q =>
    if n.escaped then { n with escaped := false }
    else if c = '\\' then { n with escaped := true }
    else if c = q then { n with quote := none }
    else n
  | none =>
    if c = '\'' ∨ c = '"' ∨ c = '\x60' then { n with quote := some c }
    else if c = '(' ∨ c = '[' ∨ c = '\x7b' then { n with depth := n.depth + 1 }
    else if c = ')' ∨ c = ']' ∨ c = '\x7d' then { n with depth := n.depth - 1 }
    else n

/-- Outside every bracket and quote. -/
def isTop (n : Nesting) : Bool := n.quote.isNone && n.depth = 0

def after (n : Nesting) (s : List Char) : Nesting := s.foldl next n

theorem after_append (n : Nesting) (s t : List Char) :
    n.after (s ++ t) = (n.after s).after t := by
  simp [after]

end Nesting

def isSeparator (c : Char) : Bool := c = ';' || c = ','

/-- The text cut at its top-level separators, when it starts at a nesting. -/
def pieces (n : Nesting) : List Char → List (List Char)
  | [] => [[]]
  | c :: s =>
    if n.isTop && isSeparator c then [] :: pieces n s
    else (pieces (n.next c) s).modifyHead (c :: ·)

theorem pieces_ne_nil (n : Nesting) (s : List Char) : pieces n s ≠ [] := by
  induction s generalizing n with
  | nil => simp [pieces]
  | cons c s ih =>
    rw [pieces]
    split
    · simp
    · cases h : pieces (n.next c) s with
      | nil => exact absurd h (ih _)
      | cons p ps => simp

/-- The pieces without the blanks around them; blank pieces are dropped. -/
def segments (s : List Char) : List (List Char) :=
  ((pieces {} s).map trim).filter fun piece => !piece.isEmpty

end DirectiveBinding.Microsyntax
