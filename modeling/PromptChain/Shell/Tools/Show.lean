/-
**Showing texts.**

Tools that print what they read: with numbers, with signs for what cannot be seen, from the last line to the
first, or with each line backwards.
-/

import PromptChain.Posix.Search
import PromptChain.Shell.Format
import PromptChain.Shell.Tools.Inputs

namespace PromptChain.Shell.Tools

/-! ### Whole texts -/

/-- How a text is shown. -/
structure ShowStyle where
  numbered : Bool
  /-- Whether only lines that are not empty get a number. -/
  onlyFilled : Bool
  ends : Bool
  tabs : Bool
  visible : Bool
  squeezed : Bool

/-- The style that options ask for. -/
def ShowStyle.ofGiven (given : Given) : ShowStyle where
  numbered := given.has 'n' || given.has 'b'
  onlyFilled := given.has 'b'
  ends := given.has 'E' || given.has 'A' || given.has 'e'
  tabs := given.has 'T' || given.has 'A' || given.has 't'
  visible := given.has 'v' || given.has 'A' || given.has 'e' || given.has 't'
  squeezed := given.has 's'

/-- The characters of a line in a style. -/
def ShowStyle.characters (style : ShowStyle) (line : Raw) : Raw :=
  line.flatMap fun c =>
    if c == '\n' then if style.ends then ['$', c] else [c]
    else if c == '\t' then if style.tabs then "^I" else [c]
    else if style.visible then visibleByte c
    else [c]

/-- The lines of a text in a style, from a number on; `blanks` tells whether an empty line is before them. -/
def ShowStyle.lines (style : ShowStyle) : Nat → Bool → List Raw → List Raw
  | _, _, [] => []
  | number, blank, line :: rest =>
    let empty := line == ['\n']
    if style.squeezed && empty && blank then style.lines number true rest
    else
      let counted := style.numbered && !(style.onlyFilled && empty)
      let shown := style.characters line
      let start := if counted then Layout.pad { width := 6 } (toString number).toList ++ ['\t'] else []
      (start ++ shown) :: style.lines (if counted then number + 1 else number) empty rest

/-- The options of `cat`. -/
def catGrammar : Grammar where
  tool := "cat"
  letters := "benstuvAET"

/-- The tool `cat`. -/
def runCat (arguments : List Raw) : Run Unit :=
  catGrammar.run arguments fun given => do
    let text ← wholeText "cat" plainWording given.operands
    let style := ShowStyle.ofGiven given
    if given.options.all fun entry => entry.1 == 'u' then say text
    else say (style.lines 1 false (pieces '\n' text)).flatten

/-- The tool `tac`. -/
def runTac (arguments : List Raw) : Run Unit :=
  let grammar : Grammar := { tool := "tac", letters := "" }
  grammar.run arguments fun given => do
    let wording : Wording :=
      { text := fun name issue =>
          if issue == .isDirectory then quotedIfNeeded name ++ ": read error: Is a directory"
          else
            "failed to open " ++ quotedAlways name ++ " for reading: " ++ issueText issue }
    let sources ← sourcesOf "tac" wording given.operands
    say (sources.flatMap fun source => (pieces '\n' source.text).reverse.flatten)

/-- The tool `rev`. -/
def runRev (arguments : List Raw) : Run Unit :=
  let grammar : Grammar := { tool := "rev", letters := "" }
  grammar.run arguments fun given => do
    let wording : Wording :=
      { text := fun name issue =>
          if issue == .isDirectory then name ++ ": Is a directory"
          else "cannot open " ++ name ++ ": " ++ issueText issue }
    let sources ← sourcesOf "rev" wording given.operands
    let backwards (line : Raw) : Raw := Posix.rawOf (Posix.lettersOf line).reverse
    say (sources.flatMap fun source => (pieces '\n' source.text).flatMap fun line =>
      if line.getLast? == some '\n' then backwards line.dropLast ++ ['\n'] else backwards line)

/-! ### Copies -/

/-- The options of `tee`. -/
def teeGrammar : Grammar where
  tool := "tee"
  letters := "a"

/-- The tool `tee`. -/
def runTee (arguments : List Raw) : Run Unit :=
  teeGrammar.run arguments fun given => do
    let text ← takeInput
    say text
    given.operands.forM fun path => do
      let state ← get
      let before := if given.has 'a' then (state.readFile path).toOption.getD [] else []
      if path == "/dev/null" then pure ()
      else if path == "/dev/stderr" then complain text
      else
        saveFile path (before ++ text) fun issue => fails "tee" (plainWording.text path issue)

/-- The tool `yes`, with more lines than anyone reads. -/
def runYes (arguments : List Raw) : Run Unit :=
  let grammar : Grammar := { tool := "yes", letters := "", strict := true }
  grammar.run arguments fun given =>
    let line := if given.operands.isEmpty then ['y'] else Text.joinWith [' '] given.operands
    say (List.replicate 150000 (line ++ ['\n'])).flatten

end PromptChain.Shell.Tools
