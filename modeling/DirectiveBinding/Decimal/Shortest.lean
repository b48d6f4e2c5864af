/-! The shortest decimal that reads back as a given binary floating-point number.

A number `m · 2^q` is read back from every decimal of its rounding interval, which
reaches half-way to its two neighbours and includes its ends when `m` is even. The
shortest decimal lies on the coarsest power-of-ten grid that has a point in the
interval; of two such points the nearer is taken. -/
namespace DirectiveBinding.Decimal

/-- A positive binary number `significand · 2^exponent`. -/
structure Binary where
  significand : Nat
  exponent : Int
  /-- The neighbour below is only half as far away as the one above. -/
  closeBelow : Bool := false
deriving DecidableEq, Repr

/-- `digits · 10^exponent`. -/
structure Digits where
  digits : Nat
  exponent : Int
deriving DecidableEq, Repr

/-- The place of a decimal among multiples of a quarter of the unit of `b`: both sides of the
comparison are scaled to naturals. -/
def scaled (b : Binary) (quarters : Nat) (d : Digits) : Nat × Nat :=
  let twos := b.exponent - 2
  (d.digits * Nat.pow 10 d.exponent.toNat * Nat.pow 2 (-twos).toNat,
    quarters * Nat.pow 2 twos.toNat * Nat.pow 10 (-d.exponent).toNat)

def Binary.lowerQuarters (b : Binary) : Nat :=
  4 * b.significand - if b.closeBelow then 1 else 2

def Binary.upperQuarters (b : Binary) : Nat := 4 * b.significand + 2

/-- Whether a decimal reads back as `b`. -/
def Binary.readsBack (b : Binary) (d : Digits) : Bool :=
  let (low, lowBound) := scaled b b.lowerQuarters d
  let (high, highBound) := scaled b b.upperQuarters d
  if b.significand % 2 = 0 then lowBound ≤ low && high ≤ highBound
  else lowBound < low && high < highBound

/-- The point of a grid at or below `b`. -/
def Binary.floorOn (b : Binary) (exponent : Int) : Digits :=
  let (unit, value) := scaled b (4 * b.significand) ⟨1, exponent⟩
  ⟨value / unit, exponent⟩

/-- The point of a grid that reads back as `b`, the nearer one if there are two. -/
def Binary.onGrid? (b : Binary) (exponent : Int) : Option Digits :=
  let below := b.floorOn exponent
  let above : Digits := ⟨below.digits + 1, exponent⟩
  match b.readsBack below, b.readsBack above with
  | true, false => some below
  | false, true => some above
  | false, false => none
  | true, true =>
    let (unit, value) := scaled b (4 * b.significand) ⟨1, exponent⟩
    let left := 2 * (value % unit)
    if left < unit ∨ left = unit ∧ below.digits % 2 = 0 then some below else some above

/-- The grids of double precision, coarsest first. -/
def grids : List Int := (List.range 640).map fun (i : Nat) => 310 - (i : Int)

def Binary.shortest (b : Binary) : Digits := (grids.findSome? b.onGrid?).getD ⟨0, 0⟩

/-- The sign and the magnitude of a finite double; zero has no magnitude. -/
def ofFloat (x : Float) : Bool × Option Binary :=
  let bits := x.toBits.toNat
  let fraction := bits % Nat.pow 2 52
  let biased := bits / Nat.pow 2 52 % Nat.pow 2 11
  let magnitude :=
    if biased = 0 then if fraction = 0 then none else some ⟨fraction, -1074, false⟩
    else some ⟨Nat.pow 2 52 + fraction, Int.ofNat biased - 1075, fraction = 0 && biased > 1⟩
  (bits / Nat.pow 2 63 = 1, magnitude)

example : (Binary.mk 1 (-1074) false).onGrid? (-324) = some ⟨5, -324⟩ ∧
    (Binary.mk 3 (-1) false).shortest = ⟨15, -1⟩ := by decide +kernel

end DirectiveBinding.Decimal
