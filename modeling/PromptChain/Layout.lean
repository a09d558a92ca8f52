/-
**Units in their canonical layout.**

`formatUnits` writes units one after the other; reading the result gives units with the same names,
metadata, patterns and actions. A metadata text stays on the line of its key unless it would read
back differently there (`needsBlock`).
-/

import PromptChain.PromptUnit
import PromptChain.Text.Blank
import PromptChain.Text.Lines

namespace PromptChain

open Text

def isTabOrSpace (c : Char) : Bool := c == ' ' || c == '\t'

def startsKnownKey (text : List Char) : Bool :=
  metadataKeys.any fun key =>
    match dropPrefix? text key.toList with
    | some rest => (rest.dropWhile isTabOrSpace).head? == some ':'
    | none => false

def isQuotedText (text : List Char) : Bool :=
  2 ≤ text.length && text.head? == some '"' && text.getLast? == some '"'

/-- Whether a metadata text has to be written as a block below its key: it has several lines, stands
between quotes, starts or ends with a blank, or would announce a block itself. -/
def needsBlock (text : List Char) : Bool :=
  1 < (lines text).length || isQuotedText text || trim text == ['|'] || trim text == ['>']
    || trim text != text

/-- A line of a block; blank lines are left empty. -/
def blockLine (line : List Char) : List Char :=
  if isBlankText line then [] else ' ' :: ' ' :: line

/-- A metadata entry as it is written. -/
def formatEntry (key : String) (text : String) : String :=
  if needsBlock text.toList then
    key ++ ": |\n" ++ String.ofList (unlines ((lines text.toList).map blockLine))
  else key ++ ": " ++ text

def escapeLiteralChar : Char → List Char
  | '\\' => ['\\', '\\']
  | '"' => ['\\', '"']
  | '\n' => ['\\', 'n']
  | '\t' => ['\\', 't']
  | '\r' => ['\\', 'r']
  | c => [c]

def formatPattern : Pattern → String
  | .literal text ignoreCase =>
    String.ofList ('"' :: text.toList.flatMap escapeLiteralChar
      ++ '"' :: (if ignoreCase then ['i'] else []))
  | .regex source flags .slash => "/" ++ source ++ "/" ++ flags
  | .regex source _ .paren => source

def formatAction : Action → String
  | .shell command => "`" ++ command ++ "`"
  | .call targets => String.intercalate ", " targets
  | .pipe command targets => "`" ++ command ++ "` => " ++ String.intercalate ", " targets

def formatArm (arm : Arm) : String :=
  "    " ++ formatPattern arm.pattern ++ " => " ++ formatAction arm.action

/-- The metadata entries of a unit, in the order of the known keys. -/
def formatEntries (unit : PromptUnit) : List String :=
  metadataKeys.filterMap fun key => (entryText? unit.entries key).map (formatEntry key)

def formatUnit (unit : PromptUnit) : String :=
  let block :=
    ["\x7b", "  match $" ++ unit.subject ++ " \x7b"] ++ unit.arms.map formatArm ++ ["  \x7d", "\x7d"]
  String.intercalate "\n" (unit.name :: formatEntries unit ++ block) ++ "\n"

/-- Units as they are written, an empty line between each two. -/
def formatUnits (units : List PromptUnit) : String :=
  String.intercalate "\n" (units.map formatUnit)

end PromptChain
