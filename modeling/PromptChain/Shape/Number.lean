/-
**Numbers in texts.**

A number that is given as a text is read with blanks around it and with single low lines between its
digits (`floatOf?`, `wholeOfText`). A whole number may have leading zeros and a fraction of zeros.
-/

import PromptChain.Json.Reader
import PromptChain.Text.Blank

namespace PromptChain.Shape

def isSpace (c : Char) : Bool := Text.isBlank c && !(0x1c ≤ c.toNat && c.toNat ≤ 0x1f)

def trimSpace (text : List Char) : List Char :=
  Text.dropEndWhile isSpace (text.dropWhile isSpace)

def hasDoubleLowLine : List Char → Bool
  | '_' :: '_' :: _ => true
  | _ :: rest => hasDoubleLowLine rest
  | [] => false

/-- A text without its low lines, if it has some and each has a neighbour on either side. -/
def dropLowLines? (text : List Char) : Option (List Char) :=
  if text.head? == some '_' || text.getLast? == some '_' || !text.contains '_'
      || hasDoubleLowLine text then none
  else some (text.filter (· != '_'))

/-! ### Doubles -/

/-- The words for values that are no finite numbers, in small letters. -/
def floatWord? (text : List Char) : Option Float :=
  match String.ofList (text.map Char.toLower) with
  | "inf" | "infinity" => some (1.0 / 0.0)
  | "nan" => some (0.0 / 0.0)
  | _ => none

/-- A number without sign, in decimal, with a fraction and an exponent or without. -/
def decimalOf? (text : List Char) : Option Float :=
  let whole := text.takeWhile Json.isDigit
  let afterWhole := text.dropWhile Json.isDigit
  let (fraction, afterFraction) := match afterWhole with
    | '.' :: rest => (rest.takeWhile Json.isDigit, rest.dropWhile Json.isDigit)
    | rest => ([], rest)
  if whole.isEmpty && fraction.isEmpty then none
  else
    let value (exponent : Int) : Float :=
      Decimal.nearest false ⟨Json.numberOf (whole ++ fraction), exponent - fraction.length⟩
    match afterFraction with
    | [] => some (value 0)
    | _ =>
      match Json.readExponent afterFraction with
      | (some exponent, []) => some (value exponent)
      | _ => none

def signedFloat? (text : List Char) : Option Float :=
  let unsigned? (rest : List Char) : Option Float := (floatWord? rest).or (decimalOf? rest)
  match text with
  | '-' :: rest => (unsigned? rest).map fun value => -value
  | '+' :: rest => unsigned? rest
  | rest => unsigned? rest

def floatOf? (text : String) : Option Float :=
  let text := text.toList
  (signedFloat? (trimSpace text)).or ((dropLowLines? text).bind signedFloat?)

/-! ### Whole numbers -/

/-- Whether a whole number can start with a character, leading zeros apart. -/
def startsWhole (c : Char) : Bool := ('1' ≤ c && c ≤ '9') || c == '-'

/-- A number without its leading zeros, among which low lines may stand; the last of them is left before
a point or at the end. A sign may follow them. None if something else is there. -/
def dropZeros? : List Char → Option (List Char)
  | '0' :: rest =>
    let last := (rest.takeWhile fun c => c == '0' || c == '_').getLast?.getD '0'
    match rest.dropWhile fun c => c == '0' || c == '_' with
    | [] => some [last]
    | c :: more =>
      if c == '.' then some (last :: c :: more)
      else if startsWhole c then some (c :: more)
      else none
  | c :: rest => if startsWhole c then some (c :: rest) else none
  | [] => none

def dropZeroFraction (text : List Char) : List Char :=
  match text.dropWhile (· != '.') with
  | '.' :: fraction =>
    if !fraction.isEmpty && fraction.all (· == '0') then text.takeWhile (· != '.') else text
  | _ => text

/-- The text of a whole number without blanks, plus sign, leading zeros, a fraction of zeros and low
lines. -/
def cleanWhole? (text : String) : Option (List Char) :=
  let trimmed := trimSpace text.toList
  let unsigned := match trimmed with
    | '+' :: '-' :: _ => none
    | '+' :: rest => some rest
    | rest => some rest
  (unsigned.bind dropZeros?).map fun digits =>
    let digits := dropZeroFraction digits
    (dropLowLines? digits).getD digits

/-- How a text reads as a whole number. -/
inductive WholeText where
  | number (value : Int)
  | tooLong
  | noNumber

/-- The most characters that a whole number in a text may have. -/
def mostDigits : Nat := 4300

/-- Reads digits after a sign; a zero stands alone. -/
def wholeAfterSign (negative : Bool) (text : List Char) : WholeText :=
  let digits := text.takeWhile Json.isDigit
  match text with
  | ['0'] => .number 0
  | '0' :: _ => .noNumber
  | _ =>
    if digits.isEmpty then .noNumber
    else if mostDigits < digits.length + (if negative then 1 else 0) then .tooLong
    else if digits.length < text.length then .noNumber
    else
      let value : Int := Json.numberOf digits
      .number (if negative then -value else value)

def wholeOfText (text : String) : WholeText :=
  match cleanWhole? text with
  | none => .noNumber
  | some ('-' :: rest) => wholeAfterSign true rest
  | some digits => wholeAfterSign false digits

end PromptChain.Shape
