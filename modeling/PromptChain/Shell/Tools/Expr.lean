/-
**Expressions of separate words.**

From weak to strong: bars, ampersands, comparisons, sums, products, matches, and words with a meaning. A value is
a text; where numbers are wanted it has to be a whole one (`Expr.evaluate`).
-/

import PromptChain.Posix.Search
import PromptChain.Shell.Tools.Inputs

namespace PromptChain.Shell.Tools.Expr

/-- What is wrong with an expression. -/
inductive Fault where
  | missingAfter (word : Raw)
  | unexpected (word : Raw)
  | unclosed (last : Raw) (next : Option Raw)
  | notWhole
  | divisionByZero
  | badPattern (problem : Posix.Problem)

/-- How that is told. -/
def Fault.message : Fault → Raw
  | .missingAfter word => "syntax error: missing argument after " ++ quotedInText word
  | .unexpected word =>
    if word == [')'] then "syntax error: unexpected ')'"
    else "syntax error: unexpected argument " ++ quotedInText word
  | .unclosed last next =>
    match next with
    | some word => "syntax error: expecting ')' instead of " ++ quotedInText word
    | none => "syntax error: expecting ')' after " ++ quotedInText last
  | .notWhole => "non-integer argument"
  | .divisionByZero => "division by zero"
  | .badPattern problem => problem.message

/-- What is still to be read, and the word before it. -/
structure Cursor where
  words : List Raw
  last : Raw := []

/-- The whole number that a text is. -/
def whole? (text : Raw) : Option Int :=
  let (negative, digits) := match text with
    | '-' :: rest => (true, rest)
    | rest => (false, rest)
  if digits.isEmpty || !digits.all Char.isDigit then none
  else
    let size : Int := Arithmetic.ofDigits 10 digits
    some (if negative then -size else size)

/-- A number as a text. -/
def textOf (value : Int) : Raw := (toString value).toList

/-- Does a value count as false? -/
def isNull (text : Raw) : Bool := text.isEmpty || whole? text == some 0

/-- A truth value as a text. -/
def truth (holds : Bool) : Raw := if holds then ['1'] else ['0']

/-- Compares two values: as numbers if both are whole ones, else as texts. -/
def compareValues (operator : Raw) (left right : Raw) : Raw :=
  let order := match whole? left, whole? right with
    | some first, some second => compare first second
    | _, _ => if left == right then .eq else if lineBefore left right then .lt else .gt
  match String.ofList operator with
  | "<" => truth (order == .lt)
  | "<=" => truth (order != .gt)
  | "=" | "==" => truth (order == .eq)
  | "!=" => truth (order != .eq)
  | ">=" => truth (order != .lt)
  | _ => truth (order == .gt)

/-- The value of an operator on numbers. -/
def combine (operator : Raw) (left right : Raw) : Except Fault Raw :=
  match whole? left, whole? right with
  | some first, some second =>
    match String.ofList operator with
    | "+" => .ok (textOf (first + second))
    | "-" => .ok (textOf (first - second))
    | "*" => .ok (textOf (first * second))
    | "/" => if second = 0 then .error .divisionByZero else .ok (textOf (first.tdiv second))
    | _ => if second = 0 then .error .divisionByZero else .ok (textOf (first.tmod second))
  | _, _ => .error .notWhole

/-- Does a pattern have a group? -/
def hasGroup : Posix.Pattern → Bool
  | .group _ _ => true
  | .repeated _ _ inner => hasGroup inner
  | .both first second | .either first second => hasGroup first || hasGroup second
  | _ => false

/-- What a pattern matches at the start of a text: its group, or else how long it is. -/
def matchStart (text pattern : Raw) : Except Fault Raw :=
  match Posix.readPattern { lenient := true } pattern with
  | .error problem => .error (.badPattern problem)
  | .ok (read, _) =>
    let subject : Posix.Subject := { letters := (Posix.lettersOf text).toArray }
    let grouped := hasGroup read
    match Posix.matchAt? subject read 0 with
    | none => .ok (if grouped then [] else ['0'])
    | some found => .ok (if grouped then found.group subject 1 else textOf found.finish)

/-- The place of the first character of a text that is one of some, counted from one. -/
def indexOf (text chars : Raw) : Raw :=
  let wanted := Posix.lettersOf chars
  match (Posix.lettersOf text).findIdx? wanted.contains with
  | some index => textOf (index + 1)
  | none => ['0']

/-- A part of a text, from a place on. -/
def partOf (text start length : Raw) : Raw :=
  match whole? start, whole? length with
  | some first, some count =>
    if first ≤ 0 || count ≤ 0 then []
    else Posix.rawOf (((Posix.lettersOf text).drop (first.toNat - 1)).take count.toNat)
  | _, _ => []

/-- The operators by level, weakest first. -/
def levels : List (List String) :=
  [["|"], ["&"], ["<", "<=", "=", "==", "!=", ">=", ">"], ["+", "-"], ["*", "/", "%"], [":"]]

/-- The value of an operator. -/
def apply (operator left right : Raw) : Except Fault Raw :=
  match String.ofList operator with
  | "|" => .ok (if isNull left then (if isNull right then ['0'] else right) else left)
  | "&" => .ok (if isNull left || isNull right then ['0'] else left)
  | ":" => matchStart left right
  | text =>
    if ["+", "-", "*", "/", "%"].contains text then combine operator left right
    else .ok (compareValues operator left right)

/-- The next word. -/
def takeWord (cursor : Cursor) : Except Fault (Raw × Cursor) :=
  match cursor.words with
  | word :: rest => .ok (word, ⟨rest, word⟩)
  | [] => .error (.missingAfter cursor.last)

mutual

/-- Works out an expression of a level; what does not matter is only read. -/
def readLevel : Nat → Bool → List (List String) → Cursor → Except Fault (Raw × Cursor)
  | 0, _, _, cursor => .ok ([], cursor)
  | fuel + 1, live, [], cursor => readWordOf fuel live cursor
  | fuel + 1, live, operators :: stronger, cursor => do
    let (first, cursor) ← readLevel fuel live stronger cursor
    readMore fuel live operators stronger first cursor

/-- Goes on behind the first operand of a level. -/
def readMore : Nat → Bool → List String → List (List String) → Raw → Cursor → Except Fault (Raw × Cursor)
  | 0, _, _, _, first, cursor => .ok (first, cursor)
  | fuel + 1, live, operators, stronger, first, cursor =>
    match cursor.words with
    | word :: rest =>
      if operators.any (·.toList == word) then do
        let matters := live && !(word == ['|'] && !isNull first) && !(word == ['&'] && isNull first)
        let (second, cursor) ← readLevel fuel matters stronger ⟨rest, word⟩
        let value ← if live then apply word first second else pure []
        readMore fuel live operators stronger value cursor
      else .ok (first, cursor)
    | [] => .ok (first, cursor)

/-- Works out a word with a meaning, a text, or an expression in brackets. -/
def readWordOf : Nat → Bool → Cursor → Except Fault (Raw × Cursor)
  | 0, _, cursor => .ok ([], cursor)
  | fuel + 1, live, cursor => do
    let (word, next) ← takeWord cursor
    match String.ofList word with
    | "+" => takeWord next
    | "length" =>
      let (text, cursor) ← readWordOf fuel live next
      pure (textOf (Posix.lettersOf text).length, cursor)
    | "match" =>
      let (text, cursor) ← readWordOf fuel live next
      let (pattern, cursor) ← readWordOf fuel live cursor
      let value ← if live then matchStart text pattern else pure []
      pure (value, cursor)
    | "index" =>
      let (text, cursor) ← readWordOf fuel live next
      let (chars, cursor) ← readWordOf fuel live cursor
      pure (indexOf text chars, cursor)
    | "substr" =>
      let (text, cursor) ← readWordOf fuel live next
      let (start, cursor) ← readWordOf fuel live cursor
      let (length, cursor) ← readWordOf fuel live cursor
      pure (partOf text start length, cursor)
    | "(" =>
      let (value, cursor) ← readLevel fuel live levels next
      match cursor.words with
      | [')'] :: rest => pure (value, ⟨rest, [')']⟩)
      | other :: _ => throw (.unclosed cursor.last (some other))
      | [] => throw (.unclosed cursor.last none)
    | ")" => throw (.unexpected word)
    | _ => pure (word, next)

end

/-- The value of an expression. -/
def evaluate (words : List Raw) : Except Fault Raw := do
  let (value, cursor) ← readLevel (16 * words.length + 16) true levels { words }
  match cursor.words with
  | [] => pure value
  | word :: _ => throw (.unexpected word)

/-- The tool `expr`. -/
def run (arguments : List Raw) : Run Unit := do
  let words := if arguments.head? == some "--" then arguments.drop 1 else arguments
  if words.isEmpty then
    failsWith 2 "expr" "missing operand\nTry 'expr --help' for more information."
  else
    match evaluate words with
    | .ok value => do
      say (value ++ ['\n'])
      setStatus (if isNull value then 1 else 0)
    | .error fault => failsWith 2 "expr" fault.message

end PromptChain.Shell.Tools.Expr
