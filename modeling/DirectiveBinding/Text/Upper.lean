import DirectiveBinding.Text.UpperTable

/-! Upper case of a character, which may be several characters (`ß` is written `SS`). -/
namespace DirectiveBinding.Text

def upper (c : Char) : List Char :=
  if c.toNat < 0x80 then [c.toUpper]
  else
    match UpperTable.expansions.lookup c.toNat with
    | some capitals => capitals.map Char.ofNat
    | none =>
      match UpperTable.runs.findSome? (·.capital? c.toNat) with
      | some capital => [Char.ofNat capital]
      | none => [c]

/-- A text with its first character in upper case. -/
def capitalized : List Char → List Char
  | [] => []
  | c :: s => upper c ++ s

example : capitalized ['o', 'f'] = ['O', 'f'] ∧ capitalized ['ß'] = ['S', 'S'] ∧
    capitalized ['é', 'a'] = ['É', 'a'] := by decide +kernel

end DirectiveBinding.Text
