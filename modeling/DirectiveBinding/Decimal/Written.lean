import DirectiveBinding.Decimal.Shortest

/-! How a floating-point number is written.

A style says in which range of magnitudes the digits are written out around the
point; outside it the number has an exponent. -/
namespace DirectiveBinding.Decimal

/-- The exponents of the first digit for which the number is written out. -/
structure Style where
  least : Int
  greatest : Int
deriving DecidableEq, Repr

def zeros (n : Nat) : List Char := List.replicate n '0'

/-- The exponent with its sign, which is written also above zero. -/
def exponentChars (e : Int) : List Char :=
  (if e < 0 then '-' else '+') :: Nat.toDigits 10 e.natAbs

def Digits.chars (style : Style) (d : Digits) : List Char :=
  let ds := Nat.toDigits 10 d.digits
  let first := d.exponent + ds.length - 1
  if style.least ≤ first ∧ first ≤ style.greatest then
    if first < 0 then '0' :: '.' :: zeros ((-first).toNat - 1) ++ ds
    else
      let whole := first.toNat + 1
      let fraction := ds.drop whole
      ds.take whole ++ zeros (whole - ds.length) ++ '.' :: if fraction.isEmpty then ['0'] else fraction
  else
    let fraction := ds.drop 1
    ds.take 1 ++ (if fraction.isEmpty then [] else '.' :: fraction) ++
      'e' :: exponentChars first

/-- A finite number. -/
def floatText (style : Style) (x : Float) : String :=
  let (negative, magnitude) := ofFloat x
  let chars :=
    match magnitude with
    | none => ['0', '.', '0']
    | some b => b.shortest.chars style
  String.ofList (if negative then '-' :: chars else chars)

end DirectiveBinding.Decimal
