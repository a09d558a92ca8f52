/-
**Paths.**

A path is a root and the steps from there. `Path.ofText` reads a path in normal form, without empty
steps and without single points; steps to the parent stay. `Path.ofRawText` keeps the points, and ends
with one where the text ends with a slash, so that what it names has to be a directory.
-/

import PromptChain.Text.Lines

namespace PromptChain.Files

/-- A path: the text of its root, which is empty for a relative path, and its steps. -/
structure Path where
  root : String
  steps : List String
deriving DecidableEq

namespace Path

/-- The root of a text, and what follows it. Two slashes are a root of their own, more are one. -/
def takeRoot (text : List Char) : String × List Char :=
  match text with
  | '/' :: '/' :: '/' :: rest => ("/", rest)
  | '/' :: '/' :: rest => ("//", rest)
  | '/' :: rest => ("/", rest)
  | rest => ("", rest)

/-- The steps of a text between its slashes, without the empty ones. -/
def stepsOf (text : List Char) : List String :=
  ((Text.splitOnChar '/' text).filter fun step => !step.isEmpty).map String.ofList

def ofText (text : String) : Path :=
  let (root, rest) := takeRoot text.toList
  ⟨root, (stepsOf rest).filter (· != ".")⟩

def ofRawText (text : String) : Path :=
  let (root, rest) := takeRoot text.toList
  ⟨root, stepsOf rest ++ (if rest.getLast? == some '/' then ["."] else [])⟩

def text (path : Path) : String :=
  if path.root == "" && path.steps.isEmpty then "."
  else path.root ++ String.intercalate "/" path.steps

def join (directory path : Path) : Path :=
  if path.root == "" then ⟨directory.root, directory.steps ++ path.steps⟩ else path

def parent (path : Path) : Path := ⟨path.root, path.steps.dropLast⟩

end Path

/-! ### Paths as texts -/

/-- The text of a path from a directory, as it stands: an absolute one alone, else the two with one
slash between them. -/
def joinText (directory path : String) : String :=
  if path.toList.head? == some '/' then path
  else if directory == "" || directory.toList.getLast? == some '/' then directory ++ path
  else directory ++ "/" ++ path

end PromptChain.Files
