/-
**The shortest decimal that names a binary number.**

A finite double is `mantissa · 2 ^ exponent`, and every real nearer to it than to its neighbours
rounds to it. `shortestDecimal` looks at the decimal grids with 1, 2, … 17 digits in turn: the first
grid with a point that rounds to the number gives the answer, and of two such points the nearer one.
All comparisons are exact (`compareScaled`).
-/

namespace PromptChain.Decimal

/-- A positive double: `mantissa · 2 ^ exponent`. `narrow` says that the neighbour below is only
half as far as the one above. -/
structure Binary where
  mantissa : Nat
  exponent : Int
  narrow : Bool

/-- A decimal number `digits · 10 ^ exponent`. -/
structure Scientific where
  digits : Nat
  exponent : Int

/-- What a double is, sign aside. -/
inductive Magnitude where
  | zero
  | finite (value : Binary)
  | infinite
  | undefined

/-- The number that the bits of a double encode, sign aside, as if all of them encoded one. -/
def Binary.ofBits (bits : Nat) : Binary :=
  let raised := bits / Nat.pow 2 52
  let fraction := bits % Nat.pow 2 52
  if raised = 0 then ⟨fraction, -1074, false⟩
  else ⟨fraction + Nat.pow 2 52, (raised : Int) - 1075, fraction = 0 && 1 < raised⟩

/-- The bits of the infinite double. Those of all numbers are smaller. -/
def infiniteBits : Nat := 2047 * Nat.pow 2 52

def magnitudeBits (value : Float) : Nat := value.toBits.toNat % Nat.pow 2 63

/-- The magnitude that the bits of a double encode. -/
def magnitudeOf (value : Float) : Magnitude :=
  let bits := magnitudeBits value
  if bits < infiniteBits then if bits = 0 then .zero else .finite (.ofBits bits)
  else if bits = infiniteBits then .infinite
  else .undefined

def isNegative (value : Float) : Bool := value.toBits.toNat / Nat.pow 2 63 = 1

/-- Compares `a · 10 ^ tens` with `b · 2 ^ twos`. -/
def compareScaled (a : Nat) (tens : Int) (b : Nat) (twos : Int) : Ordering :=
  compare (a * Nat.pow 10 tens.toNat * Nat.pow 2 (-twos).toNat)
    (b * Nat.pow 2 twos.toNat * Nat.pow 10 (-tens).toNat)

/-- The midpoint to the neighbour below, in quarters of a step. -/
def Binary.low (value : Binary) : Nat := 4 * value.mantissa - (if value.narrow then 1 else 2)

/-- The midpoint to the neighbour above, in quarters of a step. -/
def Binary.high (value : Binary) : Nat := 4 * value.mantissa + 2

/-- Whether a decimal rounds to a number: it lies between the midpoints to the two neighbours, which
count when the mantissa is even. -/
def roundsTo (value : Binary) (decimal : Scientific) : Bool :=
  let below := compareScaled decimal.digits decimal.exponent value.low (value.exponent - 2)
  let above := compareScaled decimal.digits decimal.exponent value.high (value.exponent - 2)
  if value.mantissa % 2 = 0 then below != .lt && above != .gt else below == .gt && above == .lt

/-- How often a number below one must be multiplied by ten to reach one. -/
def leadingPlaces (top bottom : Nat) : Nat → Nat
  | 0 => 0
  | fuel + 1 => if top ≥ bottom then 0 else leadingPlaces (top * 10) bottom fuel + 1

/-- The exponent `e` with `10 ^ (e - 1) ≤ value < 10 ^ e`. -/
def decimalExponent (value : Binary) : Int :=
  let top := value.mantissa * Nat.pow 2 value.exponent.toNat
  let bottom := Nat.pow 2 (-value.exponent).toNat
  if top ≥ bottom then (Nat.toDigits 10 (top / bottom)).length
  else 1 - (leadingPlaces top bottom 400 : Int)

/-- The largest multiple of `10 ^ exponent` that is not above the number. -/
def floorAt (value : Binary) (exponent : Int) : Nat :=
  (value.mantissa * Nat.pow 2 value.exponent.toNat * Nat.pow 10 (-exponent).toNat)
    / (Nat.pow 2 (-value.exponent).toNat * Nat.pow 10 exponent.toNat)

/-- The point of a decimal grid that names the number: of the two next to it one that rounds to it,
the nearer one first, the even one of two equally near. -/
def pointOnGrid? (value : Binary) (exponent : Int) : Option Scientific :=
  let digits := floorAt value exponent
  let lower : Scientific := ⟨digits, exponent⟩
  let upper : Scientific := ⟨digits + 1, exponent⟩
  match roundsTo value lower, roundsTo value upper with
  | true, true =>
    match compareScaled (2 * digits + 1) exponent (2 * value.mantissa) value.exponent with
    | .gt => some lower
    | .lt => some upper
    | .eq => if digits % 2 = 0 then some lower else some upper
  | true, false => some lower
  | false, true => some upper
  | false, false => none

/-- The decimal that is equal to a number. -/
def exactDecimal (value : Binary) : Scientific :=
  ⟨value.mantissa * Nat.pow 2 value.exponent.toNat * Nat.pow 5 (-value.exponent).toNat,
    -((-value.exponent).toNat : Int)⟩

/-- Tries the grids with `digits` digits and more, `more` of them. -/
def shortestFrom (value : Binary) (digits : Nat) : Nat → Scientific
  | 0 => exactDecimal value
  | more + 1 =>
    match pointOnGrid? value (decimalExponent value - digits) with
    | some point => point
    | none => shortestFrom value (digits + 1) more

def shortestDecimal (value : Binary) : Scientific := shortestFrom value 1 17

end PromptChain.Decimal
