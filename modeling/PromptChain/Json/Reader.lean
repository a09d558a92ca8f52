/-
**Reading JSON.**

`Json.read` reads a whole text, `Json.readAll` also keeps what is written twice. The reader accepts
`NaN`, `Infinity` and `-Infinity` beside the standard numbers, and refuses control characters inside
strings. A fault says what was expected, and how much of the text was left at the place (`Fault.message`
turns this into line and column).
-/

import PromptChain.Decimal.Nearest
import PromptChain.Json.Basic
import PromptChain.Text.Integer
import PromptChain.Text.Lines

namespace PromptChain.Json

/-- What is wrong with a text. -/
inductive Problem where
  | expectingValue
  | expectingName
  | expectingColon
  | expectingComma
  | unterminatedString
  | controlCharacter
  | badEscape
  | badUnicodeEscape
  | extraData
  | byteOrderMark
  | tooManyDigits (count : Nat)

/-- How that is told. -/
def Problem.message : Problem → String
  | .expectingValue => "Expecting value"
  | .expectingName => "Expecting property name enclosed in double quotes"
  | .expectingColon => "Expecting ':' delimiter"
  | .expectingComma => "Expecting ',' delimiter"
  | .unterminatedString => "Unterminated string starting at"
  | .controlCharacter => "Invalid control character at"
  | .badEscape => "Invalid \\escape"
  | .badUnicodeEscape => "Invalid \\uXXXX escape"
  | .extraData => "Extra data"
  | .byteOrderMark => "Unexpected UTF-8 BOM (decode using utf-8-sig)"
  | .tooManyDigits count => Text.tooManyDigits count

/-- A problem, and the number of characters from its place to the end of the text. -/
structure Fault where
  problem : Problem
  remaining : Nat

/-- A problem with its place in a text. -/
def Fault.message (text : List Char) (fault : Fault) : String :=
  match fault.problem with
  | .tooManyDigits _ => fault.problem.message
  | _ =>
    let position := text.length - fault.remaining
    let (line, column) := Text.lineAndColumn text position
    fault.problem.message ++ ": line " ++ toString line ++ " column " ++ toString column
      ++ " (char " ++ toString position ++ ")"

/-- The result of reading a part: a value and the rest of the text. -/
abbrev Step (α : Type) := Except Fault (α × List Char)

/-- A problem in front of a rest of the text. -/
def failAt {α : Type} (rest : List Char) (problem : Problem) : Except Fault α :=
  .error ⟨problem, rest.length⟩

/-- The blanks between the parts of a value. -/
def isSpace (c : Char) : Bool := c == ' ' || c == '\t' || c == '\n' || c == '\r'

/-- A text behind its first blanks. -/
def skipSpace (text : List Char) : List Char := text.dropWhile isSpace

/-! ### Strings -/

/-- The value of a hexadecimal digit. -/
def hexValue? (c : Char) : Option Nat :=
  if '0' ≤ c && c ≤ '9' then some (c.toNat - 0x30)
  else if 'a' ≤ c && c ≤ 'f' then some (c.toNat - 0x57)
  else if 'A' ≤ c && c ≤ 'F' then some (c.toNat - 0x37)
  else none

/-- The number that four hexadecimal digits write. -/
def fourHex? (a b c d : Char) : Option Nat :=
  match hexValue? a, hexValue? b, hexValue? c, hexValue? d with
  | some a, some b, some c, some d => some (((a * 16 + b) * 16 + c) * 16 + d)
  | _, _, _, _ => none

/-- The character that a letter behind a backslash means. -/
def shortEscape? : Char → Option Char
  | '"' => some '"'
  | '\\' => some '\\'
  | '/' => some '/'
  | 'b' => some '\x08'
  | 'f' => some '\x0c'
  | 'n' => some '\n'
  | 'r' => some '\r'
  | 't' => some '\t'
  | _ => none

/-- Is it the first half of a surrogate pair? -/
def isHighHalf (code : Nat) : Bool := 0xd800 ≤ code && code ≤ 0xdbff

/-- Is it the second half of a surrogate pair? -/
def isLowHalf (code : Nat) : Bool := 0xdc00 ≤ code && code ≤ 0xdfff

/-- The text of a string so far, in reverse; none once half of a pair stood alone. -/
abbrev Gathered := Option (List Char)

/-- Adds the character of a code. -/
def Gathered.push (gathered : Gathered) (code : Nat) : Gathered :=
  if isHighHalf code || isLowHalf code then none else gathered.map (Char.ofNat code :: ·)

/-- The string that was gathered. -/
def Gathered.value : Gathered → Json
  | some reversed => .str (String.ofList reversed.reverse)
  | none => .brokenStr

/-- Reads a string behind its opening quote; `whole` is the text from that quote on. -/
def readString (whole : List Char) : List Char → Gathered → Step Json
  | [], _ => failAt whole .unterminatedString
  | '"' :: rest, gathered => .ok (gathered.value, rest)
  | '\\' :: 'u' :: a :: b :: c :: d :: e :: f :: g :: h :: i :: j :: k :: rest, gathered =>
    match fourHex? a b c d with
    | none => failAt ('u' :: a :: b :: c :: d :: e :: f :: g :: h :: i :: j :: k :: rest)
        .badUnicodeEscape
    | some high =>
      if isHighHalf high && e == '\\' && f == 'u' then
        match fourHex? g h i j with
        | none => failAt ('u' :: g :: h :: i :: j :: k :: rest) .badUnicodeEscape
        | some low =>
          if isLowHalf low then
            readString whole (k :: rest)
              (gathered.push (0x10000 + (high - 0xd800) * 1024 + (low - 0xdc00)))
          else
            readString whole (e :: f :: g :: h :: i :: j :: k :: rest) (gathered.push high)
      else readString whole (e :: f :: g :: h :: i :: j :: k :: rest) (gathered.push high)
  | '\\' :: 'u' :: a :: b :: c :: d :: e :: rest, gathered =>
    match fourHex? a b c d with
    | none => failAt ('u' :: a :: b :: c :: d :: e :: rest) .badUnicodeEscape
    | some code => readString whole (e :: rest) (gathered.push code)
  | '\\' :: 'u' :: rest, _ => failAt ('u' :: rest) .badUnicodeEscape
  | '\\' :: c :: rest, gathered =>
    match shortEscape? c with
    | some plain => readString whole rest (gathered.push plain.toNat)
    | none => failAt ('\\' :: c :: rest) .badEscape
  | ['\\'], _ => failAt whole .unterminatedString
  | c :: rest, gathered =>
    if c.toNat < 0x20 then failAt (c :: rest) .controlCharacter
    else readString whole rest (gathered.push c.toNat)

/-! ### Numbers -/

/-- Is it a digit? -/
def isDigit (c : Char) : Bool := '0' ≤ c && c ≤ '9'

/-- The number that digits write. -/
def numberOf (digits : List Char) : Nat :=
  digits.foldl (fun value c => value * 10 + (c.toNat - 0x30)) 0

/-- The fraction of a number, if a point with digits follows. -/
def readFraction : List Char → List Char × List Char
  | '.' :: rest =>
    let digits := rest.takeWhile isDigit
    if digits.isEmpty then ([], '.' :: rest) else (digits, rest.dropWhile isDigit)
  | rest => ([], rest)

/-- The exponent behind its sign. -/
def readExponentDigits (negative : Bool) (rest whole : List Char) : Option Int × List Char :=
  let digits := rest.takeWhile isDigit
  if digits.isEmpty then (none, whole)
  else
    let value : Int := numberOf digits
    (some (if negative then -value else value), rest.dropWhile isDigit)

/-- The exponent of a number, if it has one. -/
def readExponent (text : List Char) : Option Int × List Char :=
  match text with
  | c :: rest =>
    if c == 'e' || c == 'E' then
      match rest with
      | '+' :: digits => readExponentDigits false digits text
      | '-' :: digits => readExponentDigits true digits text
      | digits => readExponentDigits false digits text
    else (none, text)
  | [] => (none, [])

/-- Whether a number is negative, and the text behind its sign. -/
def takeSign : List Char → Bool × List Char
  | '-' :: rest => (true, rest)
  | rest => (false, rest)

/-- The digits before the point. A zero stands alone. -/
def wholeDigits : List Char → List Char
  | '0' :: _ => ['0']
  | rest => rest.takeWhile isDigit

/-- Reads a number; `whole` is the text from its first character on. -/
def readNumber (whole : List Char) : Step Json :=
  let (negative, unsigned) := takeSign whole
  let digits := wholeDigits unsigned
  if digits.isEmpty then failAt whole .expectingValue
  else
    let (fraction, afterFraction) := readFraction (unsigned.drop digits.length)
    let (exponent, rest) := readExponent afterFraction
    if fraction.isEmpty && exponent.isNone then
      if digits.length > Text.digitLimit then failAt whole (.tooManyDigits digits.length)
      else
        let value : Int := numberOf digits
        .ok (.int (if negative then -value else value), rest)
    else
      let exponent := exponent.getD 0 - fraction.length
      .ok (.float (Decimal.nearest negative ⟨numberOf (digits ++ fraction), exponent⟩), rest)

/-- The values that are words. -/
def words : List (String × Json) :=
  [("null", .null), ("true", .bool true), ("false", .bool false), ("NaN", .float (0.0 / 0.0)),
   ("Infinity", .float (1.0 / 0.0)), ("-Infinity", .float (-1.0 / 0.0))]

/-- Reads a word. -/
def readWord? (text : List Char) : Option (Json × List Char) :=
  words.findSome? fun (word, value) =>
    (Text.dropPrefix? text word.toList).map fun rest => (value, rest)

/-! ### Values -/

mutual

/-- Reads a value, with fuel for what stands in it. -/
def readValue (fuel : Nat) (text : List Char) : Step Json :=
  match fuel with
  | 0 => failAt text .expectingValue
  | fuel + 1 =>
    match text with
    | '"' :: rest => readString text rest (some [])
    | '[' :: rest =>
      match skipSpace rest with
      | ']' :: after => .ok (.arr [], after)
      | inner => readItems fuel inner []
    | '{' :: rest =>
      match skipSpace rest with
      | '}' :: after => .ok (.obj [], after)
      | inner => readFields fuel inner []
    | _ =>
      match readWord? text with
      | some found => .ok found
      | none => readNumber text

/-- Reads the items of an array, of which the ones before are known. -/
def readItems (fuel : Nat) (text : List Char) (before : List Json) : Step Json :=
  match fuel with
  | 0 => failAt text .expectingValue
  | fuel + 1 =>
    match readValue fuel text with
    | .error fault => .error fault
    | .ok (item, rest) =>
      match skipSpace rest with
      | ']' :: after => .ok (.arr (before ++ [item]), after)
      | ',' :: after => readItems fuel (skipSpace after) (before ++ [item])
      | other => failAt other .expectingComma

/-- Reads the fields of an object, of which the ones before are known. A field whose name is no text is
no text either. -/
def readFields (fuel : Nat) (text : List Char) (before : List (String × Json)) : Step Json :=
  match fuel with
  | 0 => failAt text .expectingValue
  | fuel + 1 =>
    match text with
    | '"' :: rest =>
      match readString text rest (some []) with
      | .error fault => .error fault
      | .ok (key, afterKey) =>
        match skipSpace afterKey with
        | ':' :: afterColon =>
          match readValue fuel (skipSpace afterColon) with
          | .error fault => .error fault
          | .ok (value, afterValue) =>
            let field := match key with
              | .str name => (name, value)
              | _ => ("", .brokenStr)
            let fields := before ++ [field]
            match skipSpace afterValue with
            | '}' :: after => .ok (.obj fields, after)
            | ',' :: after => readFields fuel (skipSpace after) fields
            | other => failAt other .expectingComma
        | other => failAt other .expectingColon
    | _ => failAt text .expectingName

end

/-- Reads a whole text, with every field that is written. -/
def readAll (text : List Char) : Except Fault Json :=
  if text.head? == some '\ufeff' then failAt text .byteOrderMark
  else
    match readValue (2 * text.length + 2) (skipSpace text) with
    | .error fault => .error fault
    | .ok (value, rest) =>
      match skipSpace rest with
      | [] => .ok value
      | other => failAt other .extraData

/-- Reads a whole text, with every field once. -/
def read (text : List Char) : Except Fault Json :=
  match readAll text with
  | .error fault => .error fault
  | .ok value => .ok value.settled

end PromptChain.Json
