/-
**Conditions.**

The words of a condition are read from left to right: `-o` binds weaker than `-a`, and `!` stronger than both.
Three words with an operator in the middle are a comparison in any case. `Condition.holds` works one out, or
says what is wrong with it.
-/

import PromptChain.Shell.Arithmetic
import PromptChain.Shell.State

namespace PromptChain.Shell

namespace Condition

/-- What a word is in a condition. -/
inductive Lexeme where
  | finish
  | operand
  | unary (operator : String)
  | binary (operator : String)
  | negation
  | conjunction
  | disjunction
  | opening
  | closing
deriving DecidableEq

/-- The operators with one operand. -/
def unaryOperators : List String :=
  ["-r", "-w", "-x", "-e", "-f", "-d", "-c", "-b", "-p", "-u", "-g", "-k", "-s", "-t", "-z", "-n", "-h", "-O",
    "-G", "-L", "-S"]

/-- The operators with two operands. -/
def binaryOperators : List String :=
  ["=", "!=", "<", ">", "-eq", "-ne", "-ge", "-gt", "-le", "-lt", "-nt", "-ot", "-ef"]

/-- The operator that a word may be. -/
def operator? (word : Raw) : Option Lexeme :=
  match String.ofList word with
  | "!" => some .negation
  | "-a" => some .conjunction
  | "-o" => some .disjunction
  | "(" => some .opening
  | ")" => some .closing
  | text =>
    if unaryOperators.contains text then some (.unary text)
    else if binaryOperators.contains text then some (.binary text)
    else none

/-- Is it an operator with two operands? -/
def isBinary (word : Raw) : Bool := binaryOperators.contains (String.ofList word)

/-- What the first of some words is. One that could be an operator is an operand if no operand is left for it,
or if an operator with two operands comes next. -/
def lexeme : List Raw → Lexeme
  | [] => .finish
  | word :: rest =>
    match operator? word with
    | none => .operand
    | some (.unary operator) =>
      match rest with
      | [] => .operand
      | [_] => .unary operator
      | next :: _ => if isBinary next then .operand else .unary operator
    | some .opening => if rest.isEmpty then .operand else .opening
    | some other => other

/-! ### Tests -/

/-- The number that a word stands for. -/
def number (text : Raw) : Except String Int :=
  let (negative, digits) := Arithmetic.splitSign (text.dropWhile isSpaceChar)
  let own := digits.takeWhile Char.isDigit
  let size : Int := Arithmetic.ofDigits 10 own
  let value := if negative then -size else size
  if own.isEmpty || !(digits.drop own.length).all isSpaceChar || !Arithmetic.fits value then
    .error ("Illegal number: " ++ textOfRaw text)
  else .ok value

/-- Is it the path of a device? -/
def isDevice (path : Raw) : Bool :=
  ["/dev/null", "/dev/zero", "/dev/full", "/dev/random", "/dev/urandom", "/dev/tty"].any (·.toList == path)

variable (state : State)

/-- A test of one operand. -/
def unary (operator : String) (operand : Raw) : Except String Bool :=
  let isFile := state.namesFile operand && !isDevice operand
  let isDirectory := state.namesDirectory operand
  let isThere := isFile || isDirectory || isDevice operand
  match operator with
  | "-n" => .ok !operand.isEmpty
  | "-z" => .ok operand.isEmpty
  | "-f" => .ok isFile
  | "-d" | "-x" => .ok isDirectory
  | "-e" | "-r" | "-w" | "-O" | "-G" => .ok isThere
  | "-s" =>
    .ok (isDirectory || (isFile && (state.readFile operand).toOption.any fun content => !content.isEmpty))
  | "-c" => .ok (isDevice operand)
  | "-t" => (number operand).map fun _ => false
  | _ => .ok false

/-- When a file was last changed. -/
def changed? (path : Raw) : Option Int :=
  match state.locate path with
  | .ok place => (state.tree.entry? place).map (·.modified)
  | .error _ => none

/-- A test of two operands. -/
def binary (operator : String) (left right : Raw) : Except String Bool :=
  let numbers (holds : Int → Int → Bool) : Except String Bool := do
    let first ← number left
    let second ← number right
    pure (holds first second)
  let times (holds : Int → Int → Bool) : Except String Bool :=
    match changed? state left, changed? state right with
    | some first, some second => .ok (holds first second)
    | _, _ => .ok false
  match operator with
  | "=" => .ok (left == right)
  | "!=" => .ok (left != right)
  | "<" => .ok (lineBefore left right && left != right)
  | ">" => .ok (lineBefore right left && left != right)
  | "-eq" => numbers (· == ·)
  | "-ne" => numbers (· != ·)
  | "-lt" => numbers (· < ·)
  | "-le" => numbers (· ≤ ·)
  | "-gt" => numbers (· > ·)
  | "-ge" => numbers (· ≥ ·)
  | "-nt" => times (· > ·)
  | "-ot" => times (· < ·)
  | _ =>
    match state.locate left, state.locate right with
    | .ok first, .ok second => .ok (first == second && state.tree.has first)
    | _, _ => .ok false

/-! ### Reading -/

mutual

/-- Tests with `-o` between them, from the first word on; gives the words from the last one that was used. -/
def disjunction : Nat → Bool → Lexeme → List Raw → Except String (Bool × List Raw)
  | 0, before, _, words => .ok (before, words)
  | fuel + 1, before, first, words => do
    let (holds, words) ← conjunction fuel true first words
    if lexeme (words.drop 1) == .disjunction then
      disjunction fuel (before || holds) (lexeme (words.drop 2)) (words.drop 2)
    else pure (before || holds, words)

/-- Tests with `-a` between them. -/
def conjunction : Nat → Bool → Lexeme → List Raw → Except String (Bool × List Raw)
  | 0, before, _, words => .ok (before, words)
  | fuel + 1, before, first, words => do
    let (holds, words) ← negation fuel first words
    if lexeme (words.drop 1) == .conjunction then
      conjunction fuel (before && holds) (lexeme (words.drop 2)) (words.drop 2)
    else pure (before && holds, words)

/-- A test with `!` in front of it, or without. -/
def negation : Nat → Lexeme → List Raw → Except String (Bool × List Raw)
  | 0, _, words => .ok (false, words)
  | fuel + 1, first, words =>
    if first == .negation then do
      let next := lexeme (words.drop 1)
      let (holds, words) ← negation fuel next (if next == .finish then words else words.drop 1)
      pure (!holds, words)
    else primary fuel first words

/-- A single test, or one in brackets. -/
def primary : Nat → Lexeme → List Raw → Except String (Bool × List Raw)
  | 0, _, words => .ok (false, words)
  | fuel + 1, first, words =>
    match first with
    | .finish => .ok (false, words)
    | .opening =>
      let inner := words.drop 1
      if lexeme inner == .closing then .ok (false, inner)
      else do
        let (holds, words) ← disjunction fuel false (lexeme inner) inner
        if lexeme (words.drop 1) == .closing then pure (holds, words.drop 1)
        else .error "closing paren expected"
    | .unary operator =>
      match words.drop 1 with
      | [] => .error (operator ++ ": argument expected")
      | operand :: rest => do
        let holds ← unary state operator operand
        pure (holds, operand :: rest)
    | _ =>
      match words, lexeme (words.drop 1) with
      | left :: _, .binary operator =>
        match words.drop 2 with
        | [] => .error (operator ++ ": argument expected")
        | right :: rest => do
          let holds ← binary state operator left right
          pure (holds, right :: rest)
      | left :: _, _ => .ok (!left.isEmpty, words)
      | [], _ => .ok (false, [])

end

/-- Whether a condition holds, with fuel for its words. -/
def holdsFrom : Nat → List Raw → Except String Bool
  | 0, _ => .ok false
  | _ + 1, [] => .ok false
  | fuel + 1, words =>
    let full := 4 * words.length + 8
    let run (first : Lexeme) (words : List Raw) : Except String Bool := do
      let (holds, rest) ← disjunction state full false first words
      match rest with
      | word :: _ :: _ =>
        .error ((if word.isEmpty then "" else textOfRaw word ++ ": ") ++ "unexpected operator")
      | _ => pure holds
    let few := words.length == 3 || words.length == 4
    if words.length == 3 && (words[1]?).any isBinary then run .operand words
    else if few && words.head? == some ['('] && words.getLast? == some [')'] then
      let inner := (words.drop 1).dropLast
      run (lexeme inner) inner
    else if few && words.head? == some ['!'] then (holdsFrom fuel (words.drop 1)).map not
    else run (lexeme words) words

/-- Whether a condition holds. -/
def holds (words : List Raw) : Except String Bool :=
  holdsFrom state (words.length + 1) words

end Condition

/-- The command `test`. -/
def runTest (name : String) (words : List Raw) : Run Unit := do
  match Condition.holds (← get) words with
  | .ok holds => setStatus (if holds then 0 else 1)
  | .error problem => failWith 2 (name ++ ": " ++ problem)

/-- The command `[`. -/
def runBracket (words : List Raw) : Run Unit :=
  if words.getLast? == some [']'] then runTest "[" words.dropLast
  else failWith 2 "[: missing ]"

end PromptChain.Shell
