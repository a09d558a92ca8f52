/-
**Arithmetic.**

Expressions over whole numbers of 64 bits, with variables and assignments. Both sides of an operator are
worked out from left to right; `&&`, `||` and the question mark leave out what does not matter.
-/

import PromptChain.Shell.Word

namespace PromptChain.Shell.Arithmetic

/-- An arithmetic expression. -/
inductive Expression where
  | number (value : Int)
  | variableOf (name : Raw)
  | unary (operator : Char) (operand : Expression)
  | binary (operator : String) (left right : Expression)
  | choice (condition first second : Expression)
  /-- An assignment; the operator is empty if the old value does not matter. -/
  | assign (name : Raw) (operator : String) (value : Expression)

/-! ### Reading -/

/-- The binary operators by level, weakest first. -/
def levels : List (List String) :=
  [["||"], ["&&"], ["|"], ["^"], ["&"], ["==", "!="], ["<=", ">=", "<", ">"], ["<<", ">>"], ["+", "-"],
    ["*", "/", "%"]]

/-- All operators, longer ones first. -/
def symbols : List String :=
  ["<<=", ">>=", "||", "&&", "==", "!=", "<=", ">=", "<<", ">>", "+=", "-=", "*=", "/=", "%=", "&=",
    "|=", "^=", "|", "^", "&", "<", ">", "+", "-", "*", "/", "%", "=", "?", ":", "(", ")", "!", "~"]

/-- A text behind its first blanks. -/
def skipBlanks (text : Raw) : Raw := text.dropWhile fun c => c == ' ' || c == '\t' || c == '\n'

/-- The operator at the start of a text, and what follows. -/
def symbol? (text : Raw) : Option (String × Raw) :=
  let text := skipBlanks text
  symbols.findSome? fun symbol =>
    if symbol.toList.isPrefixOf text then some (symbol, text.drop symbol.length) else none

/-- The value of a digit of any base. -/
def digitOf (c : Char) : Nat :=
  if c.isDigit then c.toNat - 48 else (c.toLower.toNat - 97) + 10

/-- The value of digits of a base. -/
def ofDigits (base : Nat) (digits : Raw) : Nat :=
  digits.foldl (fun value c => value * base + digitOf c) 0

/-- Is it a hexadecimal digit? -/
def isHexDigit (c : Char) : Bool := c.isDigit || "abcdef".toList.contains c.toLower

/-- The digits of a number at the start of a text: decimal ones, octal ones after a zero, hexadecimal ones
after `0x`. -/
def numberStart (text : Raw) : Raw :=
  match text with
  | '0' :: x :: digits =>
    if (x == 'x' || x == 'X') && digits.head?.any isHexDigit then '0' :: x :: digits.takeWhile isHexDigit
    else '0' :: (x :: digits).takeWhile fun c => '0' ≤ c && c ≤ '7'
  | _ => text.takeWhile Char.isDigit

/-- The value of a number as it is written. -/
def valueOf (digits : Raw) : Nat :=
  match digits with
  | '0' :: x :: more =>
    if x == 'x' || x == 'X' then ofDigits 16 more else ofDigits 8 (x :: more)
  | _ => ofDigits 10 digits

/-- Whether a text starts with a minus, and what follows its sign. -/
def splitSign : Raw → Bool × Raw
  | '-' :: rest => (true, rest)
  | '+' :: rest => (false, rest)
  | text => (false, text)

/-- A number at the start of a text, perhaps behind blanks and a sign, and what follows; none if there is no
digit. -/
def takeNumber? (text : Raw) : Option (Int × Raw) :=
  let (negative, text) := splitSign (text.dropWhile isSpaceChar)
  let digits := numberStart text
  if digits.isEmpty then none
  else some (if negative then -(valueOf digits : Int) else valueOf digits, text.drop digits.length)

/-- The largest number of 64 bits. -/
def largest : Int := 9223372036854775807

/-- Does a number have 64 bits? -/
def fits (value : Int) : Bool := decide (-largest - 1 ≤ value) && decide (value ≤ largest)

/-- A number with a sign and blanks around it; a text of blanks is zero. -/
def signedOf? (text : Raw) : Option Int :=
  match takeNumber? text with
  | none => if text.all isSpaceChar then some 0 else none
  | some (value, rest) => if rest.all isSpaceChar && fits value then some value else none

/-- The operators that assign. -/
def assigning : List String := ["=", "+=", "-=", "*=", "/=", "%=", "&=", "|=", "^=", "<<=", ">>="]

mutual

/-- Reads an assignment, or what binds stronger. -/
def readAssign : Nat → Raw → Except String (Expression × Raw)
  | 0, _ => .error "expecting primary"
  | fuel + 1, text =>
    let start := skipBlanks text
    let name := start.takeWhile isNameChar
    match symbol? (start.drop name.length) with
    | some (symbol, after) =>
      if isName name && assigning.contains symbol then do
        let (value, rest) ← readAssign fuel after
        pure (.assign name (String.ofList symbol.toList.dropLast) value, rest)
      else readChoice fuel text
    | none => readChoice fuel text

/-- Reads a question mark with its two sides. -/
def readChoice : Nat → Raw → Except String (Expression × Raw)
  | 0, _ => .error "expecting primary"
  | fuel + 1, text => do
    let (first, rest) ← readLevel fuel levels text
    match symbol? rest with
    | some ("?", rest) =>
      let (second, rest) ← readAssign fuel rest
      match symbol? rest with
      | some (":", rest) =>
        let (third, rest) ← readChoice fuel rest
        pure (.choice first second third, rest)
      | _ => .error "expecting ':'"
    | _ => pure (first, rest)

/-- Reads binary operators of a level. -/
def readLevel : Nat → List (List String) → Raw → Except String (Expression × Raw)
  | 0, _, _ => .error "expecting primary"
  | fuel + 1, [], text => readUnary fuel text
  | fuel + 1, operators :: stronger, text => do
    let (first, rest) ← readLevel fuel stronger text
    readMore fuel operators stronger first rest

/-- Goes on behind the first operand of a level. -/
def readMore : Nat → List String → List (List String) → Expression → Raw → Except String (Expression × Raw)
  | 0, _, _, _, _ => .error "expecting primary"
  | fuel + 1, operators, stronger, first, rest =>
    match symbol? rest with
    | some (symbol, after) =>
      if operators.contains symbol then do
        let (second, rest) ← readLevel fuel stronger after
        readMore fuel operators stronger (.binary symbol first second) rest
      else .ok (first, rest)
    | none => .ok (first, rest)

/-- Reads a sign, brackets, a variable or a number. -/
def readUnary : Nat → Raw → Except String (Expression × Raw)
  | 0, _ => .error "expecting primary"
  | fuel + 1, text =>
    let signed (sign : Char) (rest : Raw) : Except String (Expression × Raw) := do
      let (operand, rest) ← readUnary fuel rest
      pure (.unary sign operand, rest)
    match symbol? text with
    | some ("(", rest) => do
      let (inner, rest) ← readAssign fuel rest
      match symbol? rest with
      | some (")", rest) => pure (inner, rest)
      | _ => .error "expecting ')'"
    | some ("-", rest) => signed '-' rest
    | some ("+", rest) => readUnary fuel rest
    | some ("!", rest) => signed '!' rest
    | some ("~", rest) => signed '~' rest
    | some _ => .error "expecting primary"
    | none =>
      let text := skipBlanks text
      let word := text.takeWhile isNameChar
      if isName word then .ok (.variableOf word, text.drop word.length)
      else
        let digits := numberStart text
        if digits.isEmpty then .error "expecting primary"
        else .ok (.number (min (valueOf digits) largest), text.drop digits.length)

end

/-- The expression of a text. -/
def read (text : Raw) : Except String Expression := do
  let (expression, rest) ← readAssign (16 * text.length + 32) text
  if (skipBlanks rest).isEmpty then pure expression else .error "expecting EOF"

/-! ### Working out -/

/-- How many words of 64 bits there are. -/
def wordSize : Nat := Nat.pow 2 64

/-- A number cut to 64 bits. -/
def wrap (value : Int) : Int := Int.bmod value wordSize

/-- A number as a word without a sign. -/
def bits (value : Int) : Nat := (value % wordSize).toNat

/-- A truth value as a number. -/
def truth (value : Bool) : Int := if value then 1 else 0

/-- What a shift multiplies by; only the last six bits of its width count. -/
def shiftBy (width : Int) : Nat := Nat.pow 2 (bits width % 64)

/-- Why an expression has no value. -/
inductive Fault where
  | divisionByZero
  /-- A quotient does not fit. -/
  | overflow
  | badNumber (text : Raw)

/-- A quotient or a remainder. -/
def divide (operation : Int → Int → Int) (left right : Int) : Except Fault Int :=
  if right = 0 then .error .divisionByZero
  else if right = -1 && left = -largest - 1 then .error .overflow
  else .ok (operation left right)

/-- The value of a binary operator. -/
def apply (operator : String) (left right : Int) : Except Fault Int :=
  match operator with
  | "|" => .ok (wrap (bits left ||| bits right))
  | "^" => .ok (wrap (bits left ^^^ bits right))
  | "&" => .ok (wrap (bits left &&& bits right))
  | "==" => .ok (truth (left == right))
  | "!=" => .ok (truth (left != right))
  | "<=" => .ok (truth (left ≤ right))
  | ">=" => .ok (truth (right ≤ left))
  | "<" => .ok (truth (left < right))
  | ">" => .ok (truth (right < left))
  | "<<" => .ok (wrap (left * shiftBy right))
  | ">>" => .ok (left.fdiv (shiftBy right))
  | "+" => .ok (wrap (left + right))
  | "-" => .ok (wrap (left - right))
  | "*" => .ok (wrap (left * right))
  | "/" => divide Int.tdiv left right
  | "%" => divide Int.tmod left right
  | _ => .ok right

/-- The variables with their texts. -/
abbrev Values := List (Raw × Raw)

/-- The number that a variable holds. -/
def numberIn (values : Values) (name : Raw) : Except Fault Int :=
  let text := (values.lookup name).getD []
  match signedOf? text with
  | some value => .ok value
  | none => .error (.badNumber text)

/-- Works out an expression; gives its value and the variables after it. -/
def evaluate (values : Values) : Expression → Except Fault (Int × Values)
  | .number value => .ok (wrap value, values)
  | .variableOf name =>
    (numberIn values name).map fun value => (value, values)
  | .unary operator operand => do
    let (value, values) ← evaluate values operand
    match operator with
    | '-' => pure (wrap (-value), values)
    | '!' => pure (truth (value == 0), values)
    | _ => pure (wrap (-value - 1), values)
  | .binary operator left right => do
    let (first, values) ← evaluate values left
    if operator == "&&" && first == 0 then pure (0, values)
    else if operator == "||" && first != 0 then pure (1, values)
    else
      let (second, values) ← evaluate values right
      if operator == "&&" || operator == "||" then pure (truth (second != 0), values)
      else
        let result ← apply operator first second
        pure (result, values)
  | .choice condition first second => do
    let (holds, values) ← evaluate values condition
    if holds != 0 then evaluate values first else evaluate values second
  | .assign name operator value => do
    let (right, values) ← evaluate values value
    let left ← if operator == "" then pure 0 else numberIn values name
    let result ← apply operator left right
    pure (result, (name, (toString result).toList) :: values.filter fun entry => entry.1 != name)

end PromptChain.Shell.Arithmetic
