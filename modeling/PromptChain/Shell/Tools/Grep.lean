/-
**Finding lines.**

A line is found if a pattern matches in it, as a whole, or as a word (`Finder`). What is printed of the lines
that are found depends on the options: the lines, the matches, their number, or the names of the files.
-/

import PromptChain.Posix.Search
import PromptChain.Shell.Arithmetic
import PromptChain.Shell.Tools.Inputs

namespace PromptChain.Shell.Tools

open Posix (Subject)

/-! ### Finding -/

/-- Which matches count. -/
inductive Extent where
  | anywhere
  | words
  | lines
deriving DecidableEq

/-- How matches are found: from a place on, the start and the end of the first one. -/
structure Finder where
  ignoreCase : Bool := false
  find : Subject → Nat → Option (Nat × Nat)

/-- Does a match count? -/
def Extent.accepts (extent : Extent) (subject : Subject) (start finish : Nat) : Bool :=
  match extent with
  | .anywhere => true
  | .words =>
    !(decide (0 < start) && Posix.isWordAt subject (start - 1)) && !Posix.isWordAt subject finish
  | .lines => start == 0 && finish == subject.letters.size

/-- The longest of the matches at a place that count. -/
def longestAt? (extent : Extent) (pattern : Posix.Pattern) (subject : Subject) (start : Nat) :
    Option (Nat × Nat) :=
  let ends := (pattern.run subject { position := start }).map (·.position)
  ((ends.filter (extent.accepts subject start)).max?).map fun finish => (start, finish)

/-- The first match from a place on, with fuel for the places. -/
def firstFrom? (attempt : Nat → Option (Nat × Nat)) (size : Nat) : Nat → Nat → Option (Nat × Nat)
  | 0, _ => none
  | fuel + 1, start =>
    if size < start then none
    else
      match attempt start with
      | some found => some found
      | none => firstFrom? attempt size fuel (start + 1)

/-- Finds the first and longest match of a pattern. -/
def finderOf (extent : Extent) (ignoreCase : Bool) (pattern : Posix.Pattern) : Finder where
  ignoreCase
  find subject start :=
    let size := subject.letters.size
    if extent == .lines && 0 < start then none
    else firstFrom? (longestAt? extent pattern subject) size (size + 2 - start) start

/-- Finds nothing. -/
def nothingFinder : Finder where
  find _ _ := none

/-- The pattern of a text that stands for itself. -/
def literalPattern (text : Raw) : Posix.Pattern :=
  (Posix.lettersOf text).foldr (fun letter rest => .both (.letter letter) rest) .empty

/-! ### Lines -/

/-- A line with its number, and whether it is found. -/
structure GrepLine where
  text : Raw
  number : Nat
  subject : Subject
  found : Bool

/-- A line as a pattern sees it. -/
def subjectOf (finder : Finder) (line : Raw) : Subject :=
  { letters := (Posix.lettersOf line).toArray, ignoreCase := finder.ignoreCase }

/-- The lines of a text, and which of them are found. -/
def grepLines (finder : Finder) (inverted : Bool) (text : Raw) : List GrepLine :=
  (linesOf text).zipIdx.map fun (line, index) =>
    let subject := subjectOf finder line
    ⟨line, index + 1, subject, (finder.find subject 0).isSome != inverted⟩

/-- All matches in a line that are not empty, with fuel for its letters. -/
def allMatches (finder : Finder) (subject : Subject) : Nat → Nat → List Raw
  | 0, _ => []
  | fuel + 1, start =>
    match finder.find subject start with
    | none => []
    | some (first, last) =>
      if first = last then
        if subject.letters.size ≤ first then [] else allMatches finder subject fuel (first + 1)
      else subject.slice first last :: allMatches finder subject fuel last

/-- Are there bytes that are no text? -/
def isGarbled (text : Raw) : Bool :=
  (Posix.lettersOf text).any fun letter =>
    match letter with
    | .byte _ => true
    | .char _ => false

/-! ### Options -/

/-- The options of `grep`. -/
def grepGrammar : Grammar where
  tool := "grep"
  letters := "EFGHLace:hilm:noqsvwxy"
  failure := 2
  usage := some "Usage: grep [OPTION]... PATTERNS [FILE]...\nTry 'grep --help' for more information."

/-- A number of lines. -/
def lineCount? (text : Raw) : Option Nat :=
  if !text.isEmpty && text.all Char.isDigit then some (Arithmetic.ofDigits 10 text) else none

/-- The patterns that are given, behind an option or as the first operand, and the other operands. -/
def grepPatterns? (given : Given) : Option (List Raw × List Raw) :=
  match given.values 'e', given.operands with
  | [], [] => none
  | [], pattern :: rest => some (Text.lines pattern, rest)
  | written, operands => some (written.flatMap Text.lines, operands)

/-- The finder of patterns, and the repeats in them that are passed over. -/
def grepFinder (given : Given) (patterns : List Raw) : Except Raw (Finder × List Char) :=
  let extent := if given.has 'x' then Extent.lines else if given.has 'w' then .words else .anywhere
  let ignoreCase := given.has 'i' || given.has 'y'
  let kind := (given.last? ['E', 'F', 'G']).getD 'G'
  let dialect : Posix.Dialect := { extended := kind == 'E', lenient := true }
  let each (text : Raw) : Except Raw (Posix.Pattern × List Char) :=
    if kind == 'F' then .ok (literalPattern text, [])
    else
      match Posix.readPattern dialect text with
      | .ok found => .ok found
      | .error problem => .error problem.message
  do
    let read ← patterns.mapM each
    match read with
    | [] => pure (nothingFinder, [])
    | (first, stray) :: rest =>
      let pattern := rest.foldl (fun pattern entry => .either pattern entry.1) first
      pure (finderOf extent ignoreCase pattern, stray ++ rest.flatMap Prod.snd)

/-! ### Printing -/

/-- What is printed in front of a line: the name of its file and its number. -/
structure LineStart where
  name : Option Raw
  numbered : Bool

/-- What is printed in front of a line. -/
def LineStart.text (start : LineStart) (line : GrepLine) : Raw :=
  (start.name.elim [] fun name => name ++ [':'])
    ++ (if start.numbered then (toString line.number).toList ++ [':'] else [])

/-- The matches in lines. -/
def printMatches (finder : Finder) (start : LineStart) (lines : List GrepLine) : Raw :=
  lines.flatMap fun line =>
    (allMatches finder line.subject (line.text.length + 2) 0).flatMap fun text =>
        start.text line ++ text ++ ['\n']

/-! ### Files -/

/-- Prints what a file has; says whether a line was found. -/
def grepFile (finder : Finder) (given : Given) (named : Bool) (source : Source) : Run Bool := do
  let name : Raw := if source.name == ['-'] then "(standard input)" else source.name
  let found := (grepLines finder (given.has 'v') source.text).filter (·.found)
  let lines := ((given.value? 'm').bind lineCount?).elim found found.take
  let isFound := !lines.isEmpty
  let start : LineStart := ⟨if named then some name else none, given.has 'n'⟩
  let notice : Run Unit := say ("grep: " ++ name ++ ": binary file matches\n")
  if given.has 'q' then pure ()
  else if given.has 'L' then if !isFound then say (name ++ ['\n'])
  else if given.has 'l' then if isFound then say (name ++ ['\n'])
  else if given.has 'c' then
    say ((if named then name ++ [':'] else []) ++ (toString lines.length).toList ++ ['\n'])
  else if !given.has 'a' && source.text.contains '\x00' then if isFound then notice
  else if given.has 'o' then if !given.has 'v' then say (printMatches finder start lines)
  else
    let isShown (line : GrepLine) : Bool := given.has 'a' || !isGarbled line.text
    say ((lines.filter isShown).flatMap fun line => start.text line ++ line.text ++ ['\n'])
    if !lines.all isShown then notice
  pure isFound

/-- Finds lines in one file after the other; says whether any was found. -/
def grepEach (finder : Finder) (given : Given) (named : Bool) : List Raw → Run Bool
  | [] => pure false
  | path :: rest => do
    let content ← contentOf path fun issue => do
      if !given.has 's' then complain ("grep: " ++ plainWording.text path issue ++ ['\n'])
      setStatus 2
      pure (if issue == .isDirectory && given.has 'c' then some [] else none)
    let found ← content.elim (pure false) fun text => grepFile finder given named ⟨path, text⟩
    if found && given.has 'q' then
      setStatus 0
      throw .leave
    let more ← grepEach finder given named rest
    pure (found || more)

/-- The tool `grep`. -/
def runGrep (arguments : List Raw) : Run Unit :=
  grepGrammar.run arguments fun given => isolated do
    if (given.value? 'm').any fun text => (lineCount? text).isNone then
      failsWith 2 "grep" "invalid max count"
      return
    match grepPatterns? given with
    | none => do
      complain (rawOfText grepGrammar.hint)
      setStatus 2
    | some (patterns, operands) =>
      match grepFinder given patterns with
      | .error problem => failsWith 2 "grep" problem
      | .ok (finder, stray) =>
        stray.forM fun c => complain ("grep: warning: " ++ c :: " at start of expression\n")
        let named := match given.last? ['H', 'h'] with
          | some 'H' => true
          | some _ => false
          | none => 1 < operands.length
        let found ← grepEach finder given named (if operands.isEmpty then [['-']] else operands)
        if (← get).status == 0 then setStatus (if found then 0 else 1)

end PromptChain.Shell.Tools
