/-
**Cutting lines.**

A list of ranges says which bytes or which fields of a line are kept (`Selection`).
-/

import PromptChain.Shell.Tools.Inputs

namespace PromptChain.Shell.Tools

/-- Positions from one to another, both counted from one; without an end all that follow. -/
structure Range where
  first : Nat
  last : Option Nat

/-- Is a position in a range? -/
def Range.contains (range : Range) (position : Nat) : Bool :=
  range.first ≤ position && range.last.all (position ≤ ·)

/-- What is wrong with a range. -/
inductive RangeIssue where
  | fromOne
  | decreasing
  | noEnd
  | notRange
  | notNumber (text : Raw)

/-- How that is told. -/
def RangeIssue.message (fields : Bool) : RangeIssue → Raw
  | fromOne =>
    (if fields then "fields are numbered from 1" else "byte/character positions are numbered from 1").toList
  | decreasing => "invalid decreasing range"
  | noEnd => "invalid range with no endpoint: -"
  | notRange => (if fields then "invalid field range" else "invalid byte or character range").toList
  | notNumber text =>
    (if fields then "invalid field value " else "invalid byte/character position ").toList ++ quotedInText text

/-- A position, if there is one. -/
def readPosition (text : Raw) : Except RangeIssue (Option Nat) :=
  if text.isEmpty then .ok none
  else if text.all Char.isDigit then .ok (some (Arithmetic.ofDigits 10 text))
  else .error (.notNumber (text.dropWhile Char.isDigit))

/-- A position or a range. -/
def readRange (text : Raw) : Except RangeIssue Range := do
  let start := text.takeWhile (· != '-')
  match text.drop start.length with
  | '-' :: rest =>
    let finish := rest.takeWhile (· != '-')
    let first ← readPosition start
    let last ← readPosition finish
    if finish.length < rest.length then .error .notRange
    else if first.isNone && last.isNone then .error .noEnd
    else if first == some 0 then .error .fromOne
    else if last.any fun last => decide (last < first.getD 1) then .error .decreasing
    else pure ⟨first.getD 1, last⟩
  | _ =>
    match ← readPosition start with
    | some (position + 1) => pure ⟨position + 1, some (position + 1)⟩
    | _ => .error .fromOne

/-- Ranges with commas or blanks between them. -/
def readRanges (text : Raw) : Except RangeIssue (List Range) :=
  let divided := text.map fun c => if c == ' ' || c == '\t' then ',' else c
  (Text.splitOnChar ',' divided).mapM readRange

/-- What is cut. -/
structure Selection where
  fields : Bool
  ranges : List Range
  separator : Char := '\t'
  /-- Whether lines without a separator are dropped. -/
  strict : Bool := false

/-- The items of a line whose positions are selected. -/
def Selection.kept {α : Type} (selection : Selection) (items : List α) : List α :=
  (items.zipIdx.filter fun (_, index) => selection.ranges.any (·.contains (index + 1))).map Prod.fst

/-- The selected fields of a line; none if it is dropped. -/
def Selection.cutFields? (selection : Selection) (line : Raw) : Option Raw :=
  if line.contains selection.separator then
    some (Text.joinWith [selection.separator] (selection.kept (Text.splitOnChar selection.separator line)))
  else if selection.strict then none
  else some line

/-- The options of `cut`. -/
def cutGrammar : Grammar where
  tool := "cut"
  letters := "b:c:d:f:s"

/-- The selection that options ask for, or what is wrong with them. -/
def selectionOf (given : Given) : Except Raw Selection := do
  let lists := given.options.filter fun entry => ['b', 'c', 'f'].contains entry.1
  let wrongSeparator := (given.value? 'd').any fun value => decide (1 < value.length)
  if wrongSeparator then .error "the delimiter must be a single character"
  match lists with
  | [] => .error "you must specify a list of bytes, characters, or fields"
  | _ :: _ :: _ => .error "only one list may be specified"
  | [(letter, list)] =>
    let fields := letter == 'f'
    if !fields && given.has 'd' then
      .error "an input delimiter may be specified only when operating on fields"
    if !fields && given.has 's' then
      .error "suppressing non-delimited lines makes sense\n\tonly when operating on fields"
    match readRanges list with
    | .error issue => throw (issue.message fields)
    | .ok ranges =>
      let separator := (given.value? 'd').elim '\t' fun value => value.head?.getD '\x00'
      pure { fields, ranges, separator, strict := given.has 's' }

/-- The tool `cut`. -/
def runCut (arguments : List Raw) : Run Unit :=
  cutGrammar.run arguments fun given =>
    match selectionOf given with
    | .error problem => cutGrammar.refuse problem
    | .ok selection => do
      let sources ← sourcesOf "cut" plainWording given.operands
      let lines := sources.flatMap fun source => linesOf source.text
      say (unlinesOf
        (if selection.fields then lines.filterMap selection.cutFields? else lines.map selection.kept))

end PromptChain.Shell.Tools
