/-
**Splitting a text at a character, and lines.**

`splitOnChar` cuts a text at every occurrence of a separator; `joinWith` is its inverse. Lines are the
parts between newlines.
-/

namespace PromptChain.Text

/-- The parts of a text between the occurrences of a separator; there is always at least one. -/
def splitOnChar (separator : Char) : List Char → List (List Char)
  | [] => [[]]
  | c :: rest =>
    if c = separator then [] :: splitOnChar separator rest
    else
      match splitOnChar separator rest with
      | [] => [[c]]
      | part :: parts => (c :: part) :: parts

def joinWith (separator : List Char) : List (List Char) → List Char
  | [] => []
  | [part] => part
  | part :: next :: parts => part ++ separator ++ joinWith separator (next :: parts)

/-- The lines of a text; only the newline ends a line. -/
def lines (text : List Char) : List (List Char) := splitOnChar '\n' text

def unlines (parts : List (List Char)) : List Char := joinWith ['\n'] parts

def lineAndColumn : List Char → Nat → Nat × Nat
  | _, 0 => (1, 1)
  | [], _ + 1 => (1, 1)
  | c :: rest, position + 1 =>
    let after := lineAndColumn rest position
    if c = '\n' then (after.1 + 1, after.2)
    else if after.1 = 1 then (1, after.2 + 1) else after

/-- Whether a text starts with another; gives what follows. -/
def dropPrefix? : List Char → List Char → Option (List Char)
  | text, [] => some text
  | [], _ :: _ => none
  | c :: text, p :: start => if c = p then dropPrefix? text start else none

/-- Every occurrence of a pair of characters replaced by a single one. -/
def replacePair (first second replacement : Char) : List Char → List Char
  | [] => []
  | [c] => [c]
  | c :: d :: rest =>
    if c = first ∧ d = second then replacement :: replacePair first second replacement rest
    else c :: replacePair first second replacement (d :: rest)

end PromptChain.Text
