/-
**Escapes and formats of printed texts.**

`escaped` replaces the escapes of a text; `printed` fills a format with arguments, again and again until
all of them are used.
-/

import PromptChain.Shell.Floating

namespace PromptChain.Shell

/-- The character that a letter behind a backslash means. -/
def letterEscape? : Char → Option Char
  | 'a' => some '\x07'
  | 'b' => some '\x08'
  | 'e' => some '\x1b'
  | 'f' => some '\x0c'
  | 'n' => some '\n'
  | 'r' => some '\r'
  | 't' => some '\t'
  | 'v' => some '\x0b'
  | '\\' => some '\\'
  | _ => none

/-- Is it an octal digit? -/
def isOctal (c : Char) : Bool := '0' ≤ c && c ≤ '7'

/-- The character of octal digits. -/
def octalByte (digits : Raw) : Char := Char.ofNat (Arithmetic.ofDigits 8 digits % 256)

/-- The escape behind a backslash, and what follows; an unknown one stands for itself. -/
def takeEscape (text : Raw) : Raw × Raw :=
  match text with
  | [] => (['\\'], [])
  | c :: rest =>
    if isOctal c then
      let digits := (text.take 3).takeWhile isOctal
      ([octalByte digits], text.drop digits.length)
    else
      match letterEscape? c with
      | some meant => ([meant], rest)
      | none => (['\\'], text)

/-- A text with its escapes replaced, and whether an escape has ended it. A zero may stand before octal
digits. -/
def escapedFrom : Nat → Raw → Raw × Bool
  | 0, _ => ([], false)
  | _ + 1, [] => ([], false)
  | _ + 1, '\\' :: 'c' :: _ => ([], true)
  | fuel + 1, '\\' :: '0' :: rest =>
    let digits := (rest.take 3).takeWhile isOctal
    (escapedFrom fuel (rest.drop digits.length)).map (octalByte digits :: ·) id
  | fuel + 1, '\\' :: rest =>
    let (meant, after) := takeEscape rest
    (escapedFrom fuel after).map (meant ++ ·) id
  | fuel + 1, c :: rest => (escapedFrom fuel rest).map (c :: ·) id

/-- A text with its escapes replaced, and whether an escape has ended it. -/
def escaped (text : Raw) : Raw × Bool := escapedFrom (text.length + 1) text

/-- Words with blanks between them, up to an escape that ends them. -/
def echoed : List Raw → Raw × Bool
  | [] => ([], false)
  | [word] => escaped word
  | word :: rest =>
    let (first, ended) := escaped word
    if ended then (first, true) else (echoed rest).map (first ++ ' ' :: ·) id

/-- What the arguments of an echo give; a leading `-n` leaves out the line end. -/
def echoText (arguments : List Raw) : Raw :=
  let quiet := arguments.head? == some "-n"
  let (text, ended) := echoed (if quiet then arguments.drop 1 else arguments)
  if quiet || ended then text else text ++ ['\n']

/-! ### Formats -/

/-- How an argument is printed. -/
structure Layout where
  left : Bool := false
  zeros : Bool := false
  plus : Bool := false
  blank : Bool := false
  alternate : Bool := false
  width : Nat := 0
  precision : Option Nat := none

/-- A text brought to a width. -/
def Layout.pad (layout : Layout) (text : Raw) : Raw :=
  let blanks := List.replicate (layout.width - text.length) ' '
  if layout.left then text ++ blanks else blanks ++ text

/-- A number brought to a width, with its sign. Zero has no digits if none are asked for. -/
def Layout.padNumber (layout : Layout) (sign digits : Raw) : Raw :=
  let digits := if layout.precision == some 0 && digits == ['0'] then [] else digits
  let digits := List.replicate (layout.precision.getD 1 - digits.length) '0' ++ digits
  if layout.zeros && !layout.left && layout.precision.isNone then
    sign ++ List.replicate (layout.width - sign.length - digits.length) '0' ++ digits
  else layout.pad (sign ++ digits)

/-- The sign of a number. -/
def Layout.sign (layout : Layout) (value : Int) : Raw :=
  if value < 0 then ['-'] else if layout.plus then ['+'] else if layout.blank then [' '] else []

/-- A decimal text as a whole number over a power of ten. -/
def decimalOf? (text : Raw) : Option (Int × Nat) :=
  let (negative, digits) := Arithmetic.splitSign text
  let whole := digits.takeWhile Char.isDigit
  let fraction := match digits.drop whole.length with
    | '.' :: rest => some rest
    | [] => some []
    | _ => none
  match fraction with
  | some fraction =>
    if fraction.all Char.isDigit && !(whole ++ fraction).isEmpty then
      let value : Int := Arithmetic.ofDigits 10 (whole ++ fraction)
      some (if negative then -value else value, fraction.length)
    else none
  | none => none

/-- A decimal with a fixed number of places; a half goes to the even neighbour. -/
def fixedPlaces (value : Nat) (places wanted : Nat) : Raw :=
  withPoint false wanted
    (Decimal.padded (wanted + 1) (roundedQuotient (value * Nat.pow 10 wanted) (Nat.pow 10 places)))

/-- The result of filling a format: text, complaints, and whether it has ended. -/
structure Filled where
  text : Raw := []
  complaints : List String := []
  ended : Bool := false
  /-- The format itself is wrong. -/
  broken : Bool := false

/-- One result behind another. -/
def Filled.append (first second : Filled) : Filled :=
  ⟨first.text ++ second.text, first.complaints ++ second.complaints, first.ended || second.ended,
    first.broken || second.broken⟩

/-- A complaint about an argument. -/
def argumentProblem (argument : Raw) (problem : String) : List String :=
  ["printf: " ++ textOfRaw argument ++ ": " ++ problem]

/-- What is wrong with an argument that was read up to a rest. -/
def conversionProblem (argument rest : Raw) (inRange : Bool) : List String :=
  if !rest.isEmpty then argumentProblem argument "not completely converted"
  else if !inRange then argumentProblem argument "Numerical result out of range"
  else []

/-- The whole number of an argument between two bounds, with the complaint if it is none. A quote stands
before a character whose code is meant. -/
def wholeArgument (least most : Int) (argument : Raw) : Int × List String :=
  match argument with
  | [] => (0, [])
  | '\'' :: c :: _ | '"' :: c :: _ => (c.toNat, [])
  | _ =>
    match Arithmetic.takeNumber? argument with
    | none => (0, argumentProblem argument "expected numeric value")
    | some (value, rest) =>
      let bounded := max least (min most value)
      (bounded, conversionProblem argument rest (bounded == value))

/-- The number of an argument. -/
def numberArgument (argument : Raw) : Int × List String :=
  wholeArgument (-Arithmetic.largest - 1) Arithmetic.largest argument

/-- The number of an argument without a sign. -/
def bitsArgument (argument : Raw) : Nat × List String :=
  let most : Int := Arithmetic.wordSize - 1
  let (value, complaints) := wholeArgument (-most) most argument
  (Arithmetic.bits value, complaints)

/-- The double of an argument. -/
def floatArgument (argument : Raw) : Float × List String :=
  match argument with
  | [] => (0.0, [])
  | '\'' :: c :: _ | '"' :: c :: _ => (Float.ofNat c.toNat, [])
  | _ =>
    match takeFloat? argument with
    | none => (0.0, argumentProblem argument "expected numeric value")
    | some (value, rest) =>
      let finite := match Decimal.magnitudeOf value with
        | .infinite => false
        | _ => true
      (value, conversionProblem argument rest finite)

/-- A double as it is printed. -/
def Layout.floating (layout : Layout) (value : Float) : Raw :=
  let digits := fixedText layout.alternate (layout.precision.getD 6) value
  let sign := layout.sign (if Decimal.isNegative value then -1 else 0)
  let zeros := layout.zeros && digits.head?.any Char.isDigit
  { layout with precision := none, zeros }.padNumber sign digits

/-- An argument as a letter asks for it. -/
def directive (layout : Layout) (letter : Char) (argument : Raw) : Filled :=
  let cut (text : Raw) : Raw := layout.precision.elim text text.take
  match letter with
  | 's' => { text := layout.pad (cut argument) }
  | 'b' =>
    let (text, ended) := escaped argument
    { text := layout.pad (cut text), ended }
  | 'c' => { text := layout.pad [argument.head?.getD '\x00'] }
  | 'd' | 'i' =>
    let (value, complaints) := numberArgument argument
    { text := layout.padNumber (layout.sign value) (toString value.natAbs).toList, complaints }
  | 'u' =>
    let (value, complaints) := bitsArgument argument
    { text := layout.padNumber [] (toString value).toList, complaints }
  | 'o' =>
    let (value, complaints) := bitsArgument argument
    let digits := Nat.toDigits 8 value
    let digits := if layout.alternate && value != 0 then '0' :: digits else digits
    { text := layout.padNumber [] digits, complaints }
  | 'x' | 'X' =>
    let (value, complaints) := bitsArgument argument
    let digits := Nat.toDigits 16 value
    let start := if layout.alternate && value != 0 then ['0', 'x'] else []
    let text := layout.padNumber start digits
    { text := if letter == 'X' then text.map Char.toUpper else text, complaints }
  | _ =>
    let (value, complaints) := floatArgument argument
    { text := layout.floating value, complaints }

/-- The flags at the start of a directive. -/
def takeFlags (layout : Layout) : Raw → Layout × Raw
  | '-' :: rest => takeFlags { layout with left := true } rest
  | '0' :: rest => takeFlags { layout with zeros := true } rest
  | '+' :: rest => takeFlags { layout with plus := true } rest
  | ' ' :: rest => takeFlags { layout with blank := true } rest
  | '#' :: rest => takeFlags { layout with alternate := true } rest
  | rest => (layout, rest)

/-- A width or a precision: digits, or a star for an argument. -/
def takeCount (text : Raw) (arguments : List Raw) : Int × Raw × List Raw :=
  match text with
  | '*' :: rest => ((numberArgument (arguments.head?.getD [])).1, rest, arguments.drop 1)
  | _ =>
    let digits := text.takeWhile Char.isDigit
    (Arithmetic.ofDigits 10 digits, text.drop digits.length, arguments)

/-- Fills a format once; gives the arguments that are left. -/
def fillOnce : Nat → Raw → List Raw → Filled × List Raw
  | 0, _, arguments => ({}, arguments)
  | _ + 1, [], arguments => ({}, arguments)
  | fuel + 1, '\\' :: rest, arguments =>
    let (text, after) := takeEscape rest
    (fillOnce fuel after arguments).map (Filled.append { text }) id
  | fuel + 1, '%' :: '%' :: rest, arguments =>
    (fillOnce fuel rest arguments).map (Filled.append { text := ['%'] }) id
  | fuel + 1, '%' :: start, arguments =>
    let (layout, rest) := takeFlags {} start
    let (width, rest, arguments) := takeCount rest arguments
    let (precision, rest, arguments) := match rest with
      | '.' :: rest =>
        let (count, rest, arguments) := takeCount rest arguments
        (if count < 0 then none else some count.toNat, rest, arguments)
      | _ => (none, rest, arguments)
    let layout := { layout with left := layout.left || width < 0, width := width.natAbs, precision }
    match rest with
    | [] =>
      ({ complaints := ["printf: missing format character"], ended := true, broken := true }, arguments)
    | letter :: rest =>
      if "sbcdiuoxXf".toList.contains letter then
        let filled := directive layout letter (arguments.head?.getD [])
        if filled.ended then (filled, [])
        else (fillOnce fuel rest (arguments.drop 1)).map filled.append id
      else
        let written := textOfRaw ('%' :: start.take (start.length - rest.length))
        let problem := "printf: " ++ written ++ ": invalid directive"
        ({ complaints := [problem], ended := true, broken := true }, arguments)
  | fuel + 1, c :: rest, arguments =>
    (fillOnce fuel rest arguments).map (Filled.append { text := [c] }) id

/-- Fills a format until all arguments are used, with fuel for them. -/
def fillAll : Nat → Raw → List Raw → Filled
  | 0, _, _ => {}
  | fuel + 1, format, arguments =>
    let (filled, left) := fillOnce (format.length + 1) format arguments
    if filled.ended || left.isEmpty || left.length == arguments.length then filled
    else filled.append (fillAll fuel format left)

/-- A format filled with arguments. -/
def printed (format : Raw) (arguments : List Raw) : Filled :=
  fillAll (arguments.length + 1) format arguments

end PromptChain.Shell
