/-
**Patterns and what they bind.**

A literal is compared with the answer without the blanks around it; a regular expression is searched
for anywhere in the answer. A match binds `M0` to what was matched, `M1`, `M2`, … to the groups of a
regular expression, and each named group under its name (`Pattern.bindings?`).
-/

import PromptChain.Assoc
import PromptChain.Regex.Reader
import PromptChain.Regex.Search
import PromptChain.Text.Folding
import PromptChain.Variable

namespace PromptChain

/-- What stands around a regular expression in a source. -/
inductive Delimiter where
  | paren
  | slash
deriving DecidableEq

inductive Pattern where
  | literal (text : String) (ignoreCase : Bool)
  | regex (source flags : String) (delimiter : Delimiter)
deriving DecidableEq

def Pattern.source : Pattern → String
  | .literal text _ => text
  | .regex source _ _ => source

inductive PatternFailure where
  | unknownFlag (letter : Char)
  | regex (failure : Regex.Failure)

def outerFlag? : Char → Option Regex.Flags
  | 'i' => some { ignoreCase := true }
  | 'm' => some { multiline := true }
  | 's' => some { dotAll := true }
  | 'x' => some { verbose := true }
  | _ => none

def outerFlags : Regex.Flags → List Char → Except Char Regex.Flags
  | flags, [] => .ok flags
  | flags, letter :: rest =>
    match outerFlag? letter with
    | some flag => outerFlags (flags.union flag) rest
    | none => .error letter

/-- A regular expression of a pattern, ready to search. -/
def compileRegex (source flags : String) (dialect : Regex.Dialect := .standard) :
    Except PatternFailure Regex.Compiled :=
  match outerFlags {} flags.toList with
  | .error letter => .error (.unknownFlag letter)
  | .ok flags =>
    match Regex.compile source flags dialect with
    | .error failure => .error (.regex failure)
    | .ok compiled => .ok compiled

def Pattern.failure? : Pattern → Option PatternFailure
  | .literal _ _ => none
  | .regex source flags _ =>
    match compileRegex source flags with
    | .error failure => some failure
    | .ok _ => none

/-- The name of the variable that holds a group. -/
def captureName (index : Nat) : String := "M" ++ toString index

/-- The bindings of a match of a regular expression: the whole match, the groups by number, and the
groups by name. -/
def regexBindings (pattern : Regex.Compiled) (subject : Array Char) (found : Regex.Found) :
    Bindings :=
  let numbered := (List.range pattern.groupCount).map fun index =>
    (captureName (index + 1), found.group subject (index + 1))
  let named := pattern.groupNames.map fun (name, index) => (name, found.group subject index)
  Assoc.setAll ((captureName 0, found.text subject) :: numbered) named

def literalHolds (literal : String) (ignoreCase : Bool) (subject : String) : Bool :=
  if ignoreCase then Text.fold subject == Text.fold literal else subject == literal

/-- The bindings of a match of a pattern in an answer; none if there is no match. -/
def Pattern.bindings? (pattern : Pattern) (answer : String) (dialect : Regex.Dialect := .standard) :
    Except Regex.TornGroup (Option Bindings) :=
  match pattern with
  | .literal text ignoreCase =>
    let subject := Text.trimmed answer
    .ok (if literalHolds text ignoreCase subject then some [(captureName 0, subject)] else none)
  | .regex source flags _ =>
    match compileRegex source flags dialect with
    | .error _ => .ok none
    | .ok compiled =>
      let subject := answer.toList.toArray
      match compiled.find subject with
      | .error torn => .error torn
      | .ok found => .ok (found.map (regexBindings compiled subject))

end PromptChain
