/-
**Patterns of the tools.**

A pattern is made of letters, sets of them, anchors, groups, repeats and choices. It can be written in a basic
and in an extended notation, which differ in what needs a backslash to have a meaning (`Dialect`).
-/

import PromptChain.Posix.Letters

namespace PromptChain.Posix

inductive Member where
  | range (first last : Char)
  | named (name : String)
deriving DecidableEq

inductive Anchor where
  | start
  | finish
  | wordStart
  | wordEnd
  | boundary
  | inside
  | textStart
  | textEnd
deriving DecidableEq

inductive Pattern where
  | empty
  | letter (letter : Letter)
  | any
  | set (inverted : Bool) (members : List Member)
  | anchor (anchor : Anchor)
  | group (index : Nat) (inner : Pattern)
  /-- What a group has matched. -/
  | again (index : Nat)
  | repeated (least : Nat) (most : Option Nat) (inner : Pattern)
  | both (first second : Pattern)
  | either (first second : Pattern)
deriving DecidableEq

structure Dialect where
  /-- Brackets, braces and bars have their meaning without a backslash. -/
  extended : Bool := false
  /-- A repeat without something to repeat is passed over. -/
  lenient : Bool := false
  /-- Whether numbers of repeats can be written. -/
  counted : Bool := true

inductive Problem where
  | badPattern
  | openBracket
  | openGroup
  | closedGroup
  | openCount
  | badCount
  | badRange
  | badClass
  | badReference
  | backslash
  | nothingToRepeat
  /-- A class without the brackets around it. -/
  | bareClass
deriving DecidableEq

def Problem.message : Problem → String
  | badPattern => "Invalid regular expression"
  | openBracket => "Unmatched [, [^, [:, [., or [="
  | openGroup => "Unmatched ( or \\("
  | closedGroup => "Unmatched ) or \\)"
  | openCount => "Unmatched \\\x7b"
  | badCount => "Invalid content of \\\x7b\\\x7d"
  | badRange => "Invalid range end"
  | badClass => "Invalid character class name"
  | badReference => "Invalid back reference"
  | backslash => "Trailing backslash"
  | nothingToRepeat => "Invalid preceding regular expression"
  | bareClass => "character class syntax is [[:space:]], not [:space:]"

end PromptChain.Posix
