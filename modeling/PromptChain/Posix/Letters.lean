/-
**Bytes as letters.**

The tools that match patterns see a line as letters: characters where its bytes write some, and single bytes
where they do not (`lettersOf`).
-/

import PromptChain.Shell.Wildcard
import PromptChain.Text.LetterCase
import PromptChain.Text.Letters

namespace PromptChain.Posix

open Shell (Raw)

/-- A letter of a line: a character, or a byte that is part of none. -/
inductive Letter where
  | char (c : Char)
  | byte (c : Char)
deriving DecidableEq

def lettersFrom : Nat → Text.Bytes → List Letter
  | 0, _ => []
  | _ + 1, [] => []
  | fuel + 1, first :: rest =>
    match Text.decodeStep first rest with
    | .ok (code, length) => .char (Char.ofNat code) :: lettersFrom fuel ((first :: rest).drop length)
    | .error _ => .byte (Char.ofNat first.toNat) :: lettersFrom fuel rest

def lettersOf (line : Raw) : List Letter :=
  if line.all fun c => c < '\x80' then line.map .char
  else lettersFrom line.length (Shell.bytesOfRaw line)

def Letter.raw : Letter → Raw
  | char c => if c < '\x80' then [c] else Shell.rawOfText (String.ofList [c])
  | byte c => [c]

def rawOf (letters : List Letter) : Raw := letters.flatMap Letter.raw

/-! ### Kinds of characters -/

def isAlphabetic (c : Char) : Bool := c.isAlpha || ('\x7f' < c && Text.isLetter c)

def isWordChar (c : Char) : Bool := isAlphabetic c || c.isDigit || c == '_'

def lowerOf (c : Char) : Char := Char.ofNat (Text.lowerCode c.toNat)

def upperOf (c : Char) : Char := Char.ofNat (Text.upperCode c.toNat)

def inClass (name : String) (c : Char) : Bool :=
  if c < '\x80' then (Shell.inClass? name c).getD false
  else
    match name with
    | "alpha" | "alnum" => isAlphabetic c
    | "lower" => Text.upperCode c.toNat != c.toNat
    | "upper" => Text.lowerCode c.toNat != c.toNat
    | "print" | "graph" => true
    | "punct" => !isAlphabetic c
    | _ => false

end PromptChain.Posix
