/-
**The metadata of a unit.**

A unit needs a direction; `eager` and `history` are `true` or `false`, and nothing else counts as
either. `Metadata.ofEntries` checks the entries of a unit, `Metadata.read` a value given as data.
-/

import PromptChain.Json.Display
import PromptChain.PromptUnit
import PromptChain.Shape.Reader

namespace PromptChain

open Shape

/-- Whether a text is `true` or `false` without the blanks around it. -/
def switchOf? (value : String) : Option Bool :=
  match Text.trimmed value with
  | "true" => some true
  | "false" => some false
  | _ => none

/-- Reads a switch: a truth value, or one as a text. -/
def switch : Reader Bool
  | .bool value => .ok value
  | .str value =>
    match switchOf? value with
    | some result => .ok result
    | none => refuse (.rule ("expected 'true' or 'false', got " ++ Text.quoted value))
  | value => refuse (.rule ("expected 'true' or 'false', got " ++ value.display))

/-- Reads the fields that a unit's metadata has beside the direction. -/
def Metadata.fields (direction : Checked Template) (fields : List (String × Json)) :
    Checked Metadata :=
  (((Checked.with (.ok Metadata.mk) (optional Shape.text "" fields "description")).with
    direction).with (optional switch false fields "eager")).with (optional switch true fields "history")

inductive MetadataFailure where
  | noDirection
  /-- A backtick in the direction is not closed. -/
  | unterminatedShell
  | problems (problems : List Problem)

/-! ### From the entries of a unit -/

def MetadataFailure.message (unit : String) : MetadataFailure → String
  | noDirection => "Unit '" ++ unit ++ "' has no direction"
  | unterminatedShell => Template.unterminated
  | problems found =>
    "Unit '" ++ unit ++ "' has invalid metadata: "
      ++ String.intercalate "; " (found.map Problem.text)

def Metadata.ofEntries (entries : List MetaEntry) : Except MetadataFailure Metadata :=
  match entryText? entries "direction" with
  | none => .error .noDirection
  | some direction =>
    match Template.parse? direction with
    | none => .error .unterminatedShell
    | some template =>
      match Metadata.fields (.ok template) (entries.map fun entry => (entry.key, .str entry.text)) with
      | .ok metadata => .ok metadata
      | .error problems => .error (.problems problems)

/-! ### From a value -/

/-- Reads a part of a template: a text or else a command. -/
def Segment.read : Reader Segment
  | .obj fields =>
    match required Shape.text fields "text", required Shape.text fields "command" with
    | .ok plain, _ => .ok (.text plain)
    | .error _, .ok command => .ok (.shell command)
    | .error first, .error second =>
      .error (within (.field "TextSegment") first ++ within (.field "ShellSegment") second)
  | _ =>
    .error [⟨[.field "TextSegment"], .notValueOf "TextSegment"⟩,
      ⟨[.field "ShellSegment"], .notValueOf "ShellSegment"⟩]

def Segment.readAll : Reader (List Segment)
  | .arr items => itemsFrom Segment.read 0 items
  | _ => refuse .notTuple

def Template.read : Reader Template
  | .obj fields => Checked.with (.ok Template.mk) (optional Segment.readAll [] fields "segments")
  | _ => refuse (.notValueOf "Template")

/-- The direction in a value: a text with shell substitutions, or a template by its parts. None if a
backtick is not closed. -/
def directionOf? (fields : List (String × Json)) : Option (Checked Template) :=
  match Assoc.get? fields "direction" with
  | some (.str text) => (Template.parse? text).map Except.ok
  | _ => some (required Template.read fields "direction")

def Metadata.read : Json → Except MetadataFailure Metadata
  | .obj fields =>
    match directionOf? fields with
    | none => .error .unterminatedShell
    | some direction =>
      match Metadata.fields direction fields with
      | .ok metadata => .ok metadata
      | .error problems => .error (.problems problems)
  | _ => .error (.problems [⟨[], .notRecord "Metadata"⟩])

end PromptChain
