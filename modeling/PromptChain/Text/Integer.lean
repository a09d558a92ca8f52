/-
**Whole numbers in decimal.**

A number may have blanks around it, a sign, digits of any script, and single low lines between
digits (`integerOf?`). It has at most `digitLimit` digits.
-/

import PromptChain.Text.Blank
import PromptChain.Text.Digits

namespace PromptChain.Text

/-- The most digits of a number. -/
def digitLimit : Nat := 4300

/-- What is said of a number with more digits. -/
def tooManyDigits (count : Nat) : String :=
  "Exceeds the limit (" ++ toString digitLimit ++ " digits) for integer string conversion: value has "
    ++ toString count ++ " digits; use sys.set_int_max_str_digits() to increase the limit"

/-- Digits of any script, with single low lines between them, read onto a value. -/
def digitsOnto? : Nat → List Char → Option Nat
  | value, [] => some value
  | value, '_' :: c :: rest =>
    match digitValue? c.toNat with
    | some digit => digitsOnto? (value * 10 + digit) rest
    | none => none
  | value, c :: rest =>
    match digitValue? c.toNat with
    | some digit => digitsOnto? (value * 10 + digit) rest
    | none => none

/-- A number without a sign. -/
def naturalOf? : List Char → Option Nat
  | [] => none
  | c :: rest =>
    match digitValue? c.toNat with
    | some digit => if rest.countP (· != '_') < digitLimit then digitsOnto? digit rest else none
    | none => none

/-- A number with blanks around it and an optional sign. -/
def integerOf? (text : List Char) : Option Int :=
  match trim text with
  | '-' :: digits => (naturalOf? digits).map fun value => -(value : Int)
  | '+' :: digits => (naturalOf? digits).map fun value => (value : Int)
  | digits => (naturalOf? digits).map fun value => (value : Int)

end PromptChain.Text
