import DirectiveBinding.Decimal.Written

/-! JSON numerals and the numbers they stand for.

A numeral without a fraction or an exponent is an integer as far as 64 bits hold
it. Any other is a double: the digits are gathered into a 64-bit significand, and
the significand is scaled by a power of ten in double arithmetic. Digits for which
the significand has no room only move the point, or are dropped after it. A
numeral too large for a double has no number. -/
namespace DirectiveBinding.Json

/-- A numeral by its parts; digits are from 0 to 9. -/
structure Numeral where
  negative : Bool := false
  whole : List Nat
  fraction : Option (List Nat) := none
  /-- The sign of the exponent, true below zero, and its digits. -/
  exponent : Option (Bool × List Nat) := none
deriving DecidableEq, Repr

inductive Number where
  | integer (i : Int)
  | float (x : Float)
deriving Repr

/-- What a significand must stay below. -/
def significandLimit : Nat := Nat.pow 2 64

/-- Appends digits to a significand while there is room; the rest are left over. -/
def gather (significand : Nat) : List Nat → Nat × List Nat
  | [] => (significand, [])
  | d :: ds =>
    if significand * 10 + d < significandLimit then gather (significand * 10 + d) ds
    else (significand, d :: ds)

def digitsValue (ds : List Nat) : Nat := ds.foldl (fun n d => n * 10 + d) 0

/-- The greatest power of ten that a double is scaled by at once. -/
def greatestScale : Nat := 308

/-- `x · 10^e`, unless it is too large. -/
def scaleFloat (x : Float) (e : Int) : Option Float :=
  if e.natAbs ≤ greatestScale then
    let scale := Float.ofScientific 1 false e.natAbs
    if 0 ≤ e then
      let y := x * scale
      if y.isInf then none else some y
    else some (x / scale)
  else if x == 0 then some x
  else if 0 ≤ e then none
  else scaleFloat (x / Float.ofScientific 1 false greatestScale) (e + greatestScale)
termination_by e.natAbs
decreasing_by
  simp only [greatestScale] at *
  omega

namespace Numeral

/-- The significand, and the exponent of ten that goes with it. -/
def scaled (n : Numeral) : Nat × Int :=
  let (significand, left) := gather 0 n.whole
  let fraction := n.fraction.getD []
  let (significand, dropped) := gather significand fraction
  let exponent :=
    match n.exponent with
    | none => 0
    | some (negative, ds) => if negative then -(digitsValue ds : Int) else digitsValue ds
  (significand, exponent + left.length - (fraction.length - dropped.length : Nat))

def float? (n : Numeral) : Option Float :=
  let (significand, exponent) := n.scaled
  (scaleFloat (UInt64.ofNat significand).toFloat exponent).map fun x => if n.negative then -x else x

/-- The integer a numeral spells, if it is one that 64 bits hold. Minus zero is none. -/
def integer? (n : Numeral) : Option Int :=
  if n.fraction.isSome || n.exponent.isSome then none
  else
    let magnitude := digitsValue n.whole
    if n.negative then
      if magnitude = 0 ∨ Nat.pow 2 63 < magnitude then none else some (-(magnitude : Int))
    else if magnitude < significandLimit then some magnitude
    else none

/-- The number of a numeral; none when it is too large. -/
def number? (n : Numeral) : Option Number :=
  match n.integer? with
  | some i => some (.integer i)
  | none => n.float?.map .float

end Numeral

/-- Numbers from 0.00001 up to sixteen digits are written out; others have an exponent. -/
def numberStyle : Decimal.Style := { least := -5, greatest := 15 }

example : Decimal.Digits.chars numberStyle ⟨15, -6⟩ = "0.000015".toList := by decide
example : Decimal.Digits.chars numberStyle ⟨15, -7⟩ = "1.5e-6".toList := by decide
example : Decimal.Digits.chars numberStyle ⟨1, 16⟩ = "1e+16".toList := by decide

/-! ### Reading a numeral -/

def digit? (c : Char) : Option Nat := if c.isDigit then some (c.toNat - '0'.toNat) else none

/-- The digits a text starts with, and the text after them. -/
def leadingDigits (s : List Char) : List Nat × List Char :=
  ((s.takeWhile Char.isDigit).filterMap digit?, s.dropWhile Char.isDigit)

/-- One digit or more. -/
def digits? (s : List Char) : Option (List Nat × List Char) :=
  match leadingDigits s with
  | ([], _) => none
  | (d :: ds, rest) => some (d :: ds, rest)

/-- The digits before the point; a zero stands alone. -/
def whole? (s : List Char) : Option (List Nat × List Char) :=
  (digits? s).filter fun (ds, _) => ds.head? ≠ some 0 || ds.length = 1

def fraction? (s : List Char) : Option (Option (List Nat) × List Char) :=
  match s with
  | '.' :: rest => (digits? rest).map fun (ds, rest) => (some ds, rest)
  | _ => some (none, s)

def exponent? (s : List Char) : Option (Option (Bool × List Nat) × List Char) :=
  let signed (s : List Char) :=
    match s with
    | '-' :: rest => (digits? rest).map fun (ds, rest) => (some (true, ds), rest)
    | '+' :: rest => (digits? rest).map fun (ds, rest) => (some (false, ds), rest)
    | _ => (digits? s).map fun (ds, rest) => (some (false, ds), rest)
  match s with
  | 'e' :: rest => signed rest
  | 'E' :: rest => signed rest
  | _ => some (none, s)

/-- The numeral a text starts with, and the text after it. -/
def numeral? (s : List Char) : Option (Numeral × List Char) := do
  let (negative, s) :=
    match s with
    | '-' :: rest => (true, rest)
    | _ => (false, s)
  let (whole, s) ← whole? s
  let (fraction, s) ← fraction? s
  let (exponent, s) ← exponent? s
  return (⟨negative, whole, fraction, exponent⟩, s)

end DirectiveBinding.Json
