import DirectiveBinding.Text.EscapedTable
import DirectiveBinding.Text.Ranges

/-! Text between double quotes, as messages show it.

Quotes and backslashes are escaped, the usual controls by their letters; every other
character with no glyph of its own is written by its code point. -/
namespace DirectiveBinding.Text

/-- Whether quoted text shows the code point of a character instead of the character. -/
def isConcealed (c : Char) : Bool :=
  c.toNat < 0x20 || c.toNat = 0x7f ||
    (0x80 ≤ c.toNat && EscapedTable.stretches.any (covers · c.toNat))

example : isConcealed '\u0301' ∧ isConcealed '\u3164' ∧ ¬ isConcealed '\uff9e' := by decide +kernel

def escaped (c : Char) : List Char :=
  match c with
  | '"' => ['\\', '"']
  | '\\' => ['\\', '\\']
  | '\n' => ['\\', 'n']
  | '\r' => ['\\', 'r']
  | '\t' => ['\\', 't']
  | '\x00' => ['\\', '0']
  | c =>
    if isConcealed c then ['\\', 'u', '\x7b'] ++ Nat.toDigits 16 c.toNat ++ ['\x7d'] else [c]

def quoted (s : String) : String :=
  String.ofList (['"'] ++ s.toList.flatMap escaped ++ ['"'])

end DirectiveBinding.Text
