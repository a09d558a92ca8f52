/-
**What tools read and complain about.**

Tools that read take the files they are given, or the input if there are none. What they say about a file
quotes its name: always, or only where a shell would take it for something else.
-/

import PromptChain.Shell.Arithmetic
import PromptChain.Shell.Tools.Options
import PromptChain.Shell.Wildcard

namespace PromptChain.Shell.Tools

/-! ### Quotes -/

/-- Would a shell take it for something else? -/
def needsQuotes (c : Char) : Bool := c ≤ ' ' || c == '\x7f' || "!\"$&()*;<=>[^\x60|'\\".toList.contains c

/-- A text as an argument for a shell would be written, with quotes in any case. -/
def quotedAlways (text : Raw) : Raw :=
  if text.contains '\'' then
    if text.any fun c => "\"$\x60\\!".toList.contains c || c < ' ' then
      '\'' :: (text.flatMap fun c => if c == '\'' then "'\\''" else [c]) ++ ['\'']
    else '"' :: text ++ ['"']
  else '\'' :: text ++ ['\'']

/-- A text as an argument for a shell would be written, with quotes where they are needed. -/
def quotedIfNeeded (text : Raw) : Raw :=
  let special := text.isEmpty || text.any needsQuotes || text.head? == some '#' || text.head? == some '~'
  if special then quotedAlways text else text

/-- A text between typographic quotes. -/
def quotedInText (text : Raw) : Raw := "‘" ++ text ++ "’"

/-- A byte as it is shown where each byte should be seen. -/
def visibleByte (c : Char) : Raw :=
  let plain (code : Nat) : Raw :=
    if code < 32 then ['^', Char.ofNat (code + 64)] else if code = 127 then "^?" else [Char.ofNat code]
  if c.toNat < 128 then plain c.toNat else "M-" ++ plain (c.toNat - 128)

/-! ### Complaints -/

/-- What is wrong with a file. -/
def issueText : Files.Issue → String
  | .notFound => "No such file or directory"
  | .exists => "File exists"
  | .notDirectory => "Not a directory"
  | .isDirectory => "Is a directory"
  | .nameTooLong => "File name too long"

/-- Complains in the name of a tool, with an exit status. -/
def failsWith (status : Nat) (tool : String) (message : Raw) : Run Unit := do
  complain (tool.toList ++ ": " ++ message ++ ['\n'])
  setStatus status

/-- Complains in the name of a tool. -/
def fails (tool : String) (message : Raw) : Run Unit := failsWith 1 tool message

/-! ### Inputs -/

/-- Takes all that is left of the input. -/
def takeInput : Run Raw := do
  let state ← get
  set (state.leaveInput [])
  pure state.input

/-- How a tool words that a file cannot be read, and with what status. -/
structure Wording where
  text : Raw → Files.Issue → Raw
  status : Nat := 1

/-- Just the name of the file and what is wrong. -/
def plainWording : Wording where
  text name issue := quotedIfNeeded name ++ ": " ++ issueText issue

/-- That the file cannot be opened or read. -/
def openWording : Wording where
  text name issue :=
    if issue == .isDirectory then "error reading " ++ quotedAlways name ++ ": Is a directory"
    else "cannot open " ++ quotedAlways name ++ " for reading: " ++ issueText issue

/-- A text with the name of its file. -/
structure Source where
  name : Raw
  text : Raw

/-- How a text is called. -/
def Source.title (source : Source) : Raw := if source.name == ['-'] then "standard input" else source.name

/-- What a file holds; a hyphen is the input. A file that cannot be read is left to somebody else. -/
def contentOf (name : Raw) (otherwise : Files.Issue → Run (Option Raw)) : Run (Option Raw) := do
  if name == ['-'] || name == "/dev/stdin" then some <$> takeInput
  else
    match (← get).readFile name with
    | .ok content => pure (some content)
    | .error issue => otherwise issue

/-- Reads files; a hyphen is the input. One that cannot be read is complained about. -/
def readFiles (tool : String) (wording : Wording) : List Raw → Run (List Source)
  | [] => pure []
  | name :: rest => do
    let content ← contentOf name fun issue => do
      failsWith wording.status tool (wording.text name issue)
      pure none
    let more ← readFiles tool wording rest
    pure (content.elim more fun text => ⟨name, text⟩ :: more)

/-- Reads the operands, or the input if there are none. -/
def sourcesOf (tool : String) (wording : Wording) (operands : List Raw) : Run (List Source) :=
  readFiles tool wording (if operands.isEmpty then [['-']] else operands)

/-- What the operands, or the input, hold together. -/
def wholeText (tool : String) (wording : Wording) (operands : List Raw) : Run Raw := do
  let sources ← sourcesOf tool wording operands
  pure (sources.flatMap Source.text)

/-! ### Lines -/

/-- The lines of a text; a line end at its end starts no further line. -/
def linesOf (text : Raw) : List Raw :=
  let parts := Text.lines text
  if parts.getLast? == some [] then parts.dropLast else parts

/-- Lines as a text. -/
def unlinesOf (lines : List Raw) : Raw := lines.flatMap fun line => line ++ ['\n']

/-- The parts of a text, each with the character that ends it; the last one may have none. -/
def pieces (ending : Char) : Raw → List Raw
  | [] => []
  | c :: rest =>
    if c == ending then [c] :: pieces ending rest
    else
      match pieces ending rest with
      | [] => [[c]]
      | piece :: more => (c :: piece) :: more

/-- The sum of numbers. -/
def total (numbers : List Nat) : Nat := numbers.foldr Nat.add 0

/-! ### Numbers -/

/-- How many a unit behind a number counts. -/
def unitOf? : Raw → Option Nat
  | [] => some 1
  | ['k'] | ['K'] => some 1024
  | ['M'] => some 1048576
  | _ => none

/-- What is wrong with a number. -/
inductive NumberIssue where
  | malformed
  | tooLarge

/-- A number without a sign, with a unit if that is allowed. -/
def countOf (units : Bool) (text : Raw) : Except NumberIssue Nat :=
  let text := text.dropWhile isSpaceChar
  let text := if text.head? == some '+' then text.drop 1 else text
  let digits := text.takeWhile Char.isDigit
  match digits.isEmpty, (unitOf? (text.drop digits.length)).filter fun _ => units || text == digits with
  | false, some unit =>
    let value := Arithmetic.ofDigits 10 digits * unit
    if Arithmetic.wordSize ≤ value then .error .tooLarge else .ok value
  | _, _ => .error .malformed

/-- How that is told. -/
def badNumber (what : String) (text : Raw) (issue : NumberIssue) : Raw :=
  let reason := match issue with
    | .malformed => ""
    | .tooLarge => ": Value too large for defined data type"
  what ++ ": " ++ quotedInText text ++ reason

/-! ### Files -/

/-- A tree with a file at a path. -/
def putFile (state : State) (path content : Raw) : Except Files.Issue Files.Tree :=
  match state.locate path with
  | .error issue => .error issue
  | .ok place =>
    if state.tree.isDirectory place then .error .isDirectory
    else if !state.tree.isDirectory place.dropLast then
      .error (if state.tree.isFile place.dropLast then .notDirectory else .notFound)
    else .ok (state.tree.put { place, content := some (bytesOfRaw content), modified := state.now })

/-- Writes a file; one that cannot be written is left to somebody else. -/
def saveFile (path content : Raw) (otherwise : Files.Issue → Run Unit) : Run Unit := do
  let state ← get
  match putFile state path content with
  | .ok tree => set { state with tree }
  | .error issue => otherwise issue

end PromptChain.Shell.Tools
