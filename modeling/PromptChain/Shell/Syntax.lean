/-
**Shell commands: what they are made of.**

A script is a list of commands; a word is a list of parts, some of which are still to be expanded. The
shell works on bytes, so a text is held as one character for each byte (`Raw`).
-/

import PromptChain.Text.Utf8

namespace PromptChain.Shell

/-- A text as the shell sees it: every character is the byte of its code. -/
abbrev Raw := List Char

/-- Bytes as characters. -/
def rawOfBytes (bytes : Text.Bytes) : Raw := bytes.map fun byte => Char.ofNat byte.toNat

/-- The bytes that characters stand for. -/
def bytesOfRaw (raw : Raw) : Text.Bytes := raw.map fun c => UInt8.ofNat c.toNat

/-- A text as the shell sees it. -/
def rawOfText (text : String) : Raw := rawOfBytes (Text.encode text)

/-- A text counts as its bytes. -/
instance : Coe String Raw := ⟨rawOfText⟩

/-- Bytes as text; what is no text becomes a replacement character. -/
def textOfRaw (raw : Raw) : String := Text.decodeLossy (bytesOfRaw raw)

/-- Whether one text comes before another, or is equal to it. -/
def lineBefore (first second : Raw) : Bool := decide (String.ofList first ≤ String.ofList second)

/-- Is it a blank of any kind? -/
def isSpaceChar (c : Char) : Bool := c.isWhitespace || c == '\x0b' || c == '\x0c'

/-! ### Words -/

/-- What an expansion in braces does with the value of a parameter. The flag says whether an empty value
counts as none. -/
inductive Operation where
  | value
  | length
  | otherwise (emptyToo : Bool)
  | assign (emptyToo : Bool)
  | demand (emptyToo : Bool)
  | instead (emptyToo : Bool)
  | dropStart (longest : Bool)
  | dropEnd (longest : Bool)
  | bad
deriving DecidableEq

/-- A part of a word. -/
inductive Part where
  | text (content : Raw) (quoted : Bool)
  | parameter (name : Raw) (operation : Operation) (word : Raw) (quoted : Bool)
  | arithmetic (source : Raw) (quoted : Bool)
  /-- The output of a script. -/
  | output (source : Raw) (quoted : Bool)
deriving DecidableEq

/-- A word before it is expanded. -/
abbrev Word := List Part

/-! ### Commands -/

/-- What a redirection does. -/
inductive RedirectKind where
  | read
  | write
  /-- A file that is there is replaced in any case. -/
  | overwrite
  | append
  | readWrite
  /-- The target is the number of another descriptor. -/
  | copy
  /-- The input is a text of the script itself. -/
  | here (content : Raw) (expands : Bool)
deriving DecidableEq

/-- A redirection of a descriptor. -/
structure Redirect where
  descriptor : Nat
  kind : RedirectKind
  target : Word
deriving DecidableEq

/-- A command of a script. -/
inductive Command where
  | nothing
  | simple (line : Nat) (assigns : List (Raw × Word)) (words : List Word) (redirects : List Redirect)
  | pipeline (commands : List Command)
  | negated (command : Command)
  | both (first second : Command)
  | either (first second : Command)
  | sequence (first second : Command)
  | background (command : Command)
  | subshell (body : Command)
  | redirected (body : Command) (redirects : List Redirect)
  | branch (condition body otherwise : Command)
  | loop (untilHolds : Bool) (condition body : Command)
  | each (name : Raw) (words : Option (List Word)) (body : Command)
  | select (subject : Word) (arms : List (List Word × Command))
  | define (name : Raw) (body : Command)

/-- Why a script cannot be read, with the line. -/
structure Problem where
  line : Nat
  message : String

end PromptChain.Shell
