/-
**Tokens and their places.**

`nextToken` skips blanks and comments and cuts off the next word of a kind that is allowed where it
stands; kinds are tried in a fixed order and the first that fits wins. Places are counted in lines and
columns from one, and only a newline starts a line.
-/

import PromptChain.Source.Terminal

namespace PromptChain.Source

/-- A line and a column, both counted from one. -/
structure Place where
  line : Nat
  column : Nat
deriving DecidableEq

def Place.first : Place := ⟨1, 1⟩

def Place.pass (place : Place) (c : Char) : Place :=
  if c = '\n' then ⟨place.line + 1, 1⟩ else ⟨place.line, place.column + 1⟩

def Place.after (place : Place) (text : List Char) : Place := text.foldl Place.pass place

/-- A word with its kind and its place. -/
structure Token where
  kind : Terminal
  text : List Char
  place : Place
deriving DecidableEq

/-- The text that is left, and the place where it starts. -/
structure Cursor where
  rest : List Char
  place : Place

def Terminal.order : List Terminal :=
  [.entry, .slashRegex, .subject, .parenRegex, .string, .name, .blank, .shell, .comment,
   .matchWord, .arrow, .comma, .openBrace, .closeBrace]

/-- Blanks and comments stand between words. -/
def Terminal.isIgnored : Terminal → Bool
  | .blank | .comment => true
  | _ => false

/-- The first word that fits among kinds. -/
def firstWord? (text : List Char) : List Terminal → Option (Terminal × List Char × List Char)
  | [] => none
  | kind :: kinds =>
    match kind.lexeme? text with
    | some (word, rest) => some (kind, word, rest)
    | none => firstWord? text kinds

def triedKinds (allowed : List Terminal) : List Terminal :=
  Terminal.order.filter fun kind => kind.isIgnored || allowed.contains kind

theorem firstWord?_length {text : List Char} {kinds : List Terminal} {kind : Terminal}
    {word rest : List Char} (found : firstWord? text kinds = some (kind, word, rest)) :
    rest.length < text.length := by
  induction kinds with
  | nil => simp [firstWord?] at found
  | cons first kinds ih =>
    unfold firstWord? at found
    split at found
    · rename_i taken
      simp only [Option.some.injEq, Prod.mk.injEq] at found
      rw [← found.2.2]
      exact Terminal.lexeme?_length taken
    · exact ih found

inductive Scan where
  /-- A word, and what follows it. -/
  | token (token : Token) (cursor : Cursor)
  /-- Nothing more. -/
  | finish
  /-- Something that no allowed word starts with. -/
  | stuck (cursor : Cursor)

def nextToken (allowed : List Terminal) (cursor : Cursor) : Scan :=
  if cursor.rest.isEmpty then .finish
  else
    match _found : firstWord? cursor.rest (triedKinds allowed) with
    | none => .stuck cursor
    | some (kind, word, rest) =>
      let next : Cursor := { rest, place := cursor.place.after word }
      if kind.isIgnored then nextToken allowed next
      else .token { kind, text := word, place := cursor.place } next
termination_by cursor.rest.length
decreasing_by exact firstWord?_length _found

/-- The word that stands at a place when every kind is allowed; there a name that is the keyword
counts as the keyword. -/
def anyToken? (cursor : Cursor) : Option Token :=
  (firstWord? cursor.rest (Terminal.order.filter (· != .matchWord))).map fun (kind, word, _) =>
    let kind := if kind = .name ∧ word = "match".toList then .matchWord else kind
    { kind, text := word, place := cursor.place }

end PromptChain.Source
