/-
**Variables in texts.**

A variable is written `$NAME` or `${NAME}`, and `$$` stands for a dollar sign. A text is a sequence
of pieces (`Piece.scan`), and a piece is inserted once and verbatim: what a value holds is not looked
at again (`interpolate`).
-/

import PromptChain.Assoc
import PromptChain.Fault

namespace PromptChain

/-- The values of variables. -/
abbrev Bindings := Assoc String

/-- A piece of a text with variables. -/
inductive Piece where
  /-- A character that stands for itself. -/
  | plain (c : Char)
  /-- An escaped dollar sign. -/
  | dollar
  /-- A reference to a variable. -/
  | reference (name : List Char) (braced : Bool)
deriving DecidableEq

def isVariableStart (c : Char) : Bool := ('A' ≤ c && c ≤ 'Z') || c == '_'

/-- Whether a character can go on in the name of a variable. -/
def isVariableChar (c : Char) : Bool := isVariableStart c || ('0' ≤ c && c ≤ '9')

/-- The name of a variable at the start of a text, and what follows it. -/
def takeVariable? : List Char → Option (List Char × List Char)
  | [] => none
  | c :: rest =>
    if isVariableStart c then
      some (c :: rest.takeWhile isVariableChar, rest.dropWhile isVariableChar)
    else none

/-- The piece behind a dollar sign, and what follows it; none if the dollar sign stands for itself. -/
def pieceAfterDollar? : List Char → Option (Piece × List Char)
  | '$' :: rest => some (.dollar, rest)
  | '{' :: rest =>
    match takeVariable? rest with
    | some (name, '}' :: after) => some (.reference name true, after)
    | _ => none
  | text =>
    match takeVariable? text with
    | some (name, after) => some (.reference name false, after)
    | none => none

theorem length_dropWhile_le {α : Type} (test : α → Bool) (list : List α) :
    (list.dropWhile test).length ≤ list.length :=
  (List.dropWhile_suffix test).length_le

theorem takeVariable?_length {text name rest : List Char}
    (taken : takeVariable? text = some (name, rest)) : rest.length < text.length := by
  cases text with
  | nil => simp [takeVariable?] at taken
  | cons c tail =>
    simp only [takeVariable?] at taken
    split at taken
    · simp only [Option.some.injEq, Prod.mk.injEq] at taken
      rw [← taken.2]
      exact Nat.lt_succ_of_le (length_dropWhile_le _ _)
    · simp at taken

theorem pieceAfterDollar?_length {text rest : List Char} {piece : Piece}
    (taken : pieceAfterDollar? text = some (piece, rest)) : rest.length < text.length := by
  unfold pieceAfterDollar? at taken
  split at taken
  · simp only [Option.some.injEq, Prod.mk.injEq] at taken
    simp [← taken.2]
  · split at taken
    · rename_i tail name after found
      simp only [Option.some.injEq, Prod.mk.injEq] at taken
      have shorter := takeVariable?_length found
      simp only [List.length_cons] at shorter ⊢
      rw [← taken.2]
      omega
    · simp at taken
  · split at taken
    · rename_i found
      simp only [Option.some.injEq, Prod.mk.injEq] at taken
      rw [← taken.2]
      exact takeVariable?_length found
    · simp at taken

/-- The pieces of a text, from left to right. -/
def Piece.scan (text : List Char) : List Piece :=
  match text with
  | [] => []
  | c :: rest =>
    if c = '$' then
      match _found : pieceAfterDollar? rest with
      | some (piece, after) => piece :: scan after
      | none => .plain c :: scan rest
    else .plain c :: scan rest
termination_by text.length
decreasing_by
  · have := pieceAfterDollar?_length _found
    simp only [List.length_cons]
    omega
  · simp
  · simp

/-- What a piece stands for; an unbound variable is given by its name. -/
def Piece.value (bindings : Bindings) : Piece → Except String (List Char)
  | .plain c => .ok [c]
  | .dollar => .ok ['$']
  | .reference name _ =>
    match bindings.get? (String.ofList name) with
    | some value => .ok value.toList
    | none => .error (String.ofList name)

/-- What pieces stand for, put together; else the first unbound variable. -/
def Piece.values (bindings : Bindings) : List Piece → Except String (List Char)
  | [] => .ok []
  | piece :: pieces =>
    match piece.value bindings with
    | .error name => .error name
    | .ok value =>
      match values bindings pieces with
      | .error name => .error name
      | .ok rest => .ok (value ++ rest)

/-- Inserts the values of all variables of a text. -/
def interpolate (bindings : Bindings) (unit : Option String) (text : String) :
    Except Fault String :=
  match Piece.values bindings (Piece.scan text.toList) with
  | .ok value => .ok (String.ofList value)
  | .error name => .error (.unresolvedVariable name unit)

/-- A text without one newline at its end, or without a carriage return and newline. -/
def trimOutput (text : String) : String :=
  match text.toList.reverse with
  | '\n' :: '\r' :: rest => String.ofList rest.reverse
  | '\n' :: rest => String.ofList rest.reverse
  | _ => text

/-- Whether a character can start the name of an environment variable. -/
def isExportStart (c : Char) : Bool :=
  ('A' ≤ c && c ≤ 'Z') || ('a' ≤ c && c ≤ 'z') || c == '_'

/-- Whether a character can go on in the name of an environment variable. -/
def isExportChar (c : Char) : Bool := isExportStart c || ('0' ≤ c && c ≤ '9')

/-- Whether a binding is exported: its name is one of an environment variable, where one newline at
the end does not count. -/
def isExported (name : List Char) : Bool :=
  match name with
  | [] => false
  | c :: rest =>
    isExportStart c && (rest.all isExportChar
      || (rest.getLast? == some '\n' && rest.dropLast.all isExportChar))

/-- The bindings that a command sees in its environment. -/
def exportEnv (bindings : Bindings) : Bindings :=
  bindings.filter fun entry => isExported entry.1.toList

end PromptChain
