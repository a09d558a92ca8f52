/-
**From a script to tokens.**

A token is a word, an operator or the end of a line. The text of a here-document stands behind the line
in which it is asked for; it is taken out of the script at once (`takeHere`).
-/

import PromptChain.Shell.Word

namespace PromptChain.Shell

/-- A token of a script. -/
inductive Token where
  | word (word : Word)
  /-- A number right in front of a redirection. -/
  | descriptor (number : Nat)
  | operator (text : String)
  | hereDocument (content : Raw) (expands : Bool)
  | newline
  | finish
  | problem (message : String)
deriving DecidableEq

/-- Tokens with their lines. -/
abbrev Tokens := List (Token × Nat)

/-! ### Here-documents -/

/-- Takes lines up to a mark; gives them and the rest. -/
def takeLines (mark : Raw) (dropTabs : Bool) : Nat → Raw → Raw × Raw
  | 0, rest => ([], rest)
  | _ + 1, [] => ([], [])
  | fuel + 1, text =>
    let line := text.takeWhile (· != '\n')
    let rest := text.drop (line.length + 1)
    let kept := if dropTabs then line.dropWhile (· == '\t') else line
    if kept = mark then ([], rest)
    else if line.length = text.length then (kept, [])
    else
      let (content, after) := takeLines mark dropTabs fuel rest
      (kept ++ '\n' :: content, after)

/-- Takes a here-document out of what follows its operator: gives its content, whether it is to be
expanded, and the rest. -/
def takeHere (dropTabs : Bool) (text : Raw) : Raw × Bool × Raw :=
  let text := text.dropWhile fun c => c == ' ' || c == '\t'
  let written := text.takeWhile fun c => !endsWord c
  let mark := written.filter fun c => c != '\'' && c != '"' && c != '\\'
  let rest := text.drop written.length
  let line := rest.takeWhile (· != '\n')
  let (content, after) := takeLines mark dropTabs (rest.length + 1) (rest.drop (line.length + 1))
  (content, mark == written, line ++ '\n' :: after)

/-! ### Tokens -/

/-- The operators, longer ones first. -/
def operators : List String :=
  ["&&", "||", ";;", "<&", ">&", ">>", ">|", "<>", ";", "&", "|", "(", ")", "<", ">"]

/-- An operator at the start of a text, and the rest. -/
def takeOperator? (text : Raw) : Option (String × Raw) :=
  operators.findSome? fun operator =>
    if operator.toList.isPrefixOf text then some (operator, text.drop operator.length) else none

/-- How many lines a text ends. -/
def countLines (text : Raw) : Nat := text.countP (· == '\n')

/-- The tokens of a script from a line on, with fuel for its characters. -/
def tokensFrom : Nat → Nat → Raw → Tokens
  | 0, line, _ => [(.finish, line)]
  | _ + 1, line, [] => [(.finish, line)]
  | fuel + 1, line, c :: rest =>
    if c = ' ' || c = '\t' then tokensFrom fuel line rest
    else if c = '\n' then (.newline, line) :: tokensFrom fuel (line + 1) rest
    else if c = '#' then tokensFrom fuel line (rest.dropWhile (· != '\n'))
    else if c = '\\' && rest.head? == some '\n' then tokensFrom fuel (line + 1) (rest.drop 1)
    else if "<<<".toList.isPrefixOf (c :: rest) then [(.problem "Syntax error: redirection unexpected", line)]
    else if "<<".toList.isPrefixOf (c :: rest) then
      let dropTabs := rest[1]? == some '-'
      let (content, expands, after) := takeHere dropTabs (rest.drop (if dropTabs then 2 else 1))
      (.hereDocument content expands, line) :: tokensFrom fuel line after
    else
      match takeOperator? (c :: rest) with
      | some (operator, after) => (.operator operator, line) :: tokensFrom fuel line after
      | none =>
        let digits := (c :: rest).takeWhile Char.isDigit
        let after := (c :: rest).drop digits.length
        if !digits.isEmpty && (after.head? == some '<' || after.head? == some '>') then
          (.descriptor ((String.ofList digits).toNat?.getD 0), line) :: tokensFrom fuel line after
        else
          match readParts (2 * (c :: rest).length + 1) .word (c :: rest) with
          | .error message => [(.problem message, line)]
          | .ok (word, after) =>
            let used := (c :: rest).take ((c :: rest).length - after.length)
            (.word word, line) :: tokensFrom fuel (line + countLines used) after

/-- The tokens of a script. -/
def tokens (script : Raw) : Tokens := tokensFrom (script.length + 1) 1 script

end PromptChain.Shell
