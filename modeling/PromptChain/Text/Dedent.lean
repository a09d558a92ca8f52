/-
**Taking off a common indentation.**

`dedent` removes from every line the longest run of blanks and tabs with which all lines that are
not blank start. Lines of blanks and tabs alone become empty and do not count.
-/

import PromptChain.Text.Lines

namespace PromptChain.Text

def isIndent (c : Char) : Bool := c == ' ' || c == '\t'

/-- The longest common start of two texts. -/
def commonStart : List Char → List Char → List Char
  | a :: left, b :: right => if a = b then a :: commonStart left right else []
  | _, _ => []

/-- A line of blanks and tabs alone is empty. -/
def clearIndentOnly (line : List Char) : List Char := if line.all isIndent then [] else line

/-- The common indentation of lines, of which the empty ones do not count; none if all are empty. -/
def margin? : List (List Char) → Option (List Char)
  | [] => none
  | line :: rest =>
    if line.isEmpty then margin? rest
    else
      let indent := line.takeWhile isIndent
      match margin? rest with
      | none => some indent
      | some margin => some (commonStart indent margin)

def dedentLines (parts : List (List Char)) : List (List Char) :=
  let cleared := parts.map clearIndentOnly
  match margin? cleared with
  | none => cleared
  | some margin => cleared.map fun line => line.drop margin.length

def dedent (text : List Char) : List Char := unlines (dedentLines (lines text))

end PromptChain.Text
