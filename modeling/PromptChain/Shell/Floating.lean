/-
**Doubles as the tools read and print them.**

A number is read from the start of a text (`takeFloat?`). It is printed with a fixed number of places, which are
those of its exact value (`fixedText`).
-/

import PromptChain.Decimal.Format
import PromptChain.Shell.Arithmetic

namespace PromptChain.Shell

/-! ### Reading -/

/-- The double of a fraction with a power of ten. Powers beyond all doubles are cut. -/
def floatOfDecimal (digits : Nat) (exponent : Int) : Float :=
  let bounded := max (-5000) (min 5000 exponent)
  Float.ofScientific digits (decide (bounded < 0)) bounded.natAbs

/-- The exponent behind its letter, and what follows; zero if there are no digits. -/
def takeExponent (text : Raw) : Int × Raw :=
  match text with
  | letter :: rest =>
    if letter == 'e' || letter == 'E' then
      let (negative, digits) := Arithmetic.splitSign rest
      let own := digits.takeWhile Char.isDigit
      let value : Int := Arithmetic.ofDigits 10 own
      if own.isEmpty then (0, text) else (if negative then -value else value, digits.drop own.length)
    else (0, text)
  | [] => (0, [])

/-- A double without a sign at the start of a text. -/
def takeMagnitude? (text : Raw) : Option (Float × Raw) :=
  let whole := text.takeWhile Char.isDigit
  let (fraction, after) := match text.drop whole.length with
    | '.' :: rest =>
      let digits := rest.takeWhile Char.isDigit
      (digits, rest.drop digits.length)
    | rest => ([], rest)
  if (whole ++ fraction).isEmpty then none
  else
    let (exponent, rest) := takeExponent after
    some (floatOfDecimal (Arithmetic.ofDigits 10 (whole ++ fraction)) (exponent - fraction.length), rest)

/-- A double at the start of a text, perhaps behind blanks and a sign, and what follows. -/
def takeFloat? (text : Raw) : Option (Float × Raw) :=
  match text.dropWhile isSpaceChar with
  | '-' :: rest => (takeMagnitude? rest).map fun found => (-found.1, found.2)
  | '+' :: rest => takeMagnitude? rest
  | rest => takeMagnitude? rest

/-! ### Printing -/

/-- A quotient rounded to a whole number; a half goes to the even neighbour. -/
def roundedQuotient (top bottom : Nat) : Nat :=
  let floor := top / bottom
  let twice := 2 * (top % bottom)
  if bottom < twice || (twice == bottom && floor % 2 == 1) then floor + 1 else floor

/-- A positive double times a power of ten, rounded to a whole number. -/
def scaledBy (value : Decimal.Binary) (tens : Nat) : Nat :=
  roundedQuotient (value.mantissa * Nat.pow 2 value.exponent.toNat * Nat.pow 10 tens)
    (Nat.pow 2 (-value.exponent).toNat)

/-- Digits with a point in front of the last ones. The point stays behind whole numbers if asked for. -/
def withPoint (alternate : Bool) (places : Nat) (digits : Raw) : Raw :=
  let whole := digits.take (digits.length - places)
  if places = 0 then if alternate then whole ++ ['.'] else whole
  else whole ++ '.' :: digits.drop (digits.length - places)

/-- A double without its sign, with a number of places. -/
def fixedText (alternate : Bool) (places : Nat) (value : Float) : Raw :=
  let digits (scaled : Nat) : Raw := withPoint alternate places (Decimal.padded (places + 1) scaled)
  match Decimal.magnitudeOf value with
  | .zero => digits 0
  | .finite value => digits (scaledBy value places)
  | .infinite => "inf"
  | .undefined => "nan"

end PromptChain.Shell
