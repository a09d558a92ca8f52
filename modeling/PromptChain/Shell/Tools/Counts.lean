/-
**Counting.**

Lines, words, letters and bytes are counted (`Tally`), and lines that follow each other and are alike
(`Group`).
-/

import PromptChain.Posix.Letters
import PromptChain.Shell.Condition
import PromptChain.Shell.Format
import PromptChain.Shell.Tools.Inputs

namespace PromptChain.Shell.Tools

/-! ### Lines, words and bytes -/

/-- How much there is of what. -/
structure Tally where
  lines : Nat := 0
  words : Nat := 0
  letters : Nat := 0
  bytes : Nat := 0

/-- Does a letter divide words? -/
def dividesWords : Posix.Letter → Bool
  | .char c =>
    let code := c.toNat
    isSpaceChar c || (0x2000 ≤ code && code ≤ 0x200a)
      || [0xa0, 0x1680, 0x2028, 0x2029, 0x202f, 0x205f, 0x2060, 0x3000].contains code
  | .byte _ => false

/-- Counts what letters hold; `inside` tells whether a word is at hand. -/
def tallyFrom : Bool → Tally → List Posix.Letter → Tally
  | inside, tally, [] => { tally with words := tally.words + (if inside then 1 else 0) }
  | inside, tally, letter :: rest =>
    let divides := dividesWords letter
    let words := tally.words + (if inside && divides then 1 else 0)
    match letter with
    | .char c =>
      let starts := !divides && (inside || (' ' < c && c != '\x7f'))
      tallyFrom starts
        { words, lines := tally.lines + (if c == '\n' then 1 else 0), letters := tally.letters + 1
          bytes := tally.bytes + letter.raw.length } rest
    | .byte _ => tallyFrom inside { tally with words, bytes := tally.bytes + 1 } rest

/-- What a text holds. -/
def tallyOf (text : Raw) : Tally := tallyFrom false {} (Posix.lettersOf text)

/-- Two counts together. -/
def Tally.add (first second : Tally) : Tally where
  lines := first.lines + second.lines
  words := first.words + second.words
  letters := first.letters + second.letters
  bytes := first.bytes + second.bytes

/-- The options of `wc`. -/
def wcGrammar : Grammar where
  tool := "wc"
  letters := "clmw"

/-- The counts that are asked for, in their order. -/
def Tally.chosen (tally : Tally) (given : Given) : List Nat :=
  let all := given.options.isEmpty
  (if all || given.has 'l' then [tally.lines] else [])
    ++ (if all || given.has 'w' then [tally.words] else [])
    ++ (if given.has 'm' then [tally.letters] else [])
    ++ (if all || given.has 'c' then [tally.bytes] else [])

/-- The line of counts for a name. -/
def tallyLine (given : Given) (width : Nat) (name : Raw) (tally : Tally) : Raw :=
  let shown := (tally.chosen given).map fun number => Layout.pad { width } (toString number).toList
  Text.joinWith [' '] (shown ++ if name.isEmpty then [] else [name]) ++ ['\n']

/-- How wide counts are: as wide as the number of all bytes in files, and wider if there is something else. -/
def tallyWidth (state : State) (given : Given) (names : List Raw) : Nat :=
  let columns := (Tally.chosen {} given).length
  if names.length ≤ 1 && columns == 1 then 1
  else
    let sizes := (if names.isEmpty then [['-']] else names).map fun name =>
      if name == ['-'] then (state.streamOf 0).fileSize
      else
        match state.readFile name with
        | .ok text => if Condition.isDevice name then none else some text.length
        | .error .isDirectory => none
        | .error _ => some 0
    let least := if sizes.all Option.isSome then 1 else 7
    max least (toString (total (sizes.filterMap id))).length

/-- Counts what files hold, one after the other. -/
def countFiles (given : Given) (width : Nat) : List Raw → Run Tally
  | [] => pure {}
  | name :: rest => do
    let text ← contentOf name fun issue => do
      fails "wc" (plainWording.text name issue)
      pure (if issue == .isDirectory then some [] else none)
    match text with
    | some text => do
      let tally := tallyOf text
      say (tallyLine given width name tally)
      pure (tally.add (← countFiles given width rest))
    | none => countFiles given width rest

/-- The tool `wc`. -/
def runWc (arguments : List Raw) : Run Unit :=
  wcGrammar.run arguments fun given => do
    let width := tallyWidth (← get) given given.operands
    if given.operands.isEmpty then say (tallyLine given width [] (tallyOf (← takeInput)))
    else
      let sum ← countFiles given width given.operands
      if 1 < given.operands.length then say (tallyLine given width "total" sum)

/-! ### Lines that are alike -/

/-- Lines that follow each other and are alike: the first one, and how many there are. -/
structure Group where
  line : Raw
  size : Nat := 1

/-- The groups that lines make. -/
def groupsOf (ignoreCase : Bool) (lines : List Raw) : List Group :=
  let key (line : Raw) : Raw := if ignoreCase then line.map Char.toUpper else line
  (lines.foldl (fun (done : List Group) line =>
    match done with
    | group :: before =>
      if key group.line == key line then { group with size := group.size + 1 } :: before
      else { line } :: group :: before
    | [] => [{ line }]) []).reverse

/-- The options of `uniq`. -/
def uniqGrammar : Grammar where
  tool := "uniq"
  letters := "cdui"

/-- The lines of the groups that are asked for. -/
def shownGroups (given : Given) (groups : List Group) : List Raw :=
  let kept := groups.filter fun group =>
    (!given.has 'd' || 1 < group.size) && (!given.has 'u' || group.size == 1)
  kept.map fun group =>
    if given.has 'c' then Layout.pad { width := 7 } (toString group.size).toList ++ ' ' :: group.line
    else group.line

/-- The tool `uniq`. -/
def runUniq (arguments : List Raw) : Run Unit :=
  uniqGrammar.run arguments fun given =>
    match given.operands with
    | _ :: _ :: third :: _ => uniqGrammar.refuse ("extra operand " ++ quotedInText third)
    | operands => do
      let wording : Wording :=
        { text := fun name issue =>
            (if issue == .isDirectory then openWording else plainWording).text name issue }
      let sources ← sourcesOf "uniq" wording (operands.take 1)
      let lines := sources.flatMap fun source => linesOf source.text
      let shown := unlinesOf (shownGroups given (groupsOf (given.has 'i') lines))
      match operands, sources with
      | [_, output], [_] => saveFile output shown fun issue => fails "uniq" (plainWording.text output issue)
      | _, _ => say shown

end PromptChain.Shell.Tools
