/-
**Decimal numbers as text.**

A `NumberStyle` holds the decisions of a number format: from where on the exponent is written, and
what stands for the values that are no numbers. `plainStyle` is the style of messages and of saved
files: positional between `1e-4` and `1e16`, always with a point, two digits of exponent at least.
-/

import PromptChain.Decimal.Shortest

namespace PromptChain.Decimal

structure NumberStyle where
  /-- Numbers below `10 ^ smallest` are written with an exponent. -/
  smallest : Int
  /-- Numbers from `10 ^ largest` on are written with an exponent. -/
  largest : Int
  /-- The least number of digits of an exponent. -/
  exponentWidth : Nat
  infinity : String
  undefined : String

/-- Positional between `1e-4` and `1e16`, two digits of exponent. -/
def plainStyle : NumberStyle where
  smallest := -4
  largest := 16
  exponentWidth := 2
  infinity := "inf"
  undefined := "nan"

/-- The digits of a decimal without the zeros at its end. -/
def significantDigits (digits : Nat) : List Char :=
  match ((Nat.toDigits 10 digits).reverse.dropWhile (· == '0')).reverse with
  | [] => ['0']
  | kept => kept

/-- A number with zeros in front up to a width. -/
def padded (width value : Nat) : List Char :=
  let digits := Nat.toDigits 10 value
  List.replicate (width - digits.length) '0' ++ digits

def Scientific.render (style : NumberStyle) (decimal : Scientific) : List Char :=
  let digits := significantDigits decimal.digits
  let point : Int := (Nat.toDigits 10 decimal.digits).length + decimal.exponent
  if point ≤ style.smallest || style.largest < point then
    let exponent := point - 1
    let fraction := if digits.length = 1 then [] else '.' :: digits.drop 1
    let sign := if exponent < 0 then '-' else '+'
    digits.take 1 ++ fraction ++ 'e' :: sign :: padded style.exponentWidth exponent.natAbs
  else if point ≤ 0 then '0' :: '.' :: List.replicate (-point).toNat '0' ++ digits
  else
    let whole := digits.take point.toNat
    let zeros := List.replicate (point.toNat - whole.length) '0'
    let fraction := digits.drop point.toNat
    whole ++ zeros ++ '.' :: (if fraction.isEmpty then ['0'] else fraction)

def render (style : NumberStyle) (value : Float) : String :=
  let sign := if isNegative value then ['-'] else []
  match magnitudeOf value with
  | .undefined => style.undefined
  | .infinite => String.ofList (sign ++ style.infinity.toList)
  | .zero => String.ofList (sign ++ ['0', '.', '0'])
  | .finite binary => String.ofList (sign ++ (shortestDecimal binary).render style)

/-- A double as messages show it. -/
def display (value : Float) : String := render plainStyle value

end PromptChain.Decimal
