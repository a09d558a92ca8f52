/-
**Transcripts of chains.**

A transcript is the record of a chain that has ended: the unit, the time, the session and the report. It
is written as JSON (`Transcript.text`) and read back (`Transcript.ofText?`). A file that holds a string
which is no text, too long a number, or too many values in one another is no transcript.
-/

import PromptChain.Chain.Report
import PromptChain.Json.Reader
import PromptChain.Json.Writer

namespace PromptChain

namespace Json

mutual

/-- Whether all strings in a value are texts. -/
def isWhole : Json → Bool
  | .brokenStr => false
  | .arr items => areWhole items
  | .obj fields => fieldsAreWhole fields
  | _ => true

/-- Whether all strings in items are texts. -/
def areWhole : List Json → Bool
  | [] => true
  | item :: rest => isWhole item && areWhole rest

/-- Whether all strings in the values of fields are texts. -/
def fieldsAreWhole : List (String × Json) → Bool
  | [] => true
  | (_, value) :: rest => isWhole value && fieldsAreWhole rest

end

end Json

/-! ### Long numbers -/

/-- Where a text is gone through: outside of numbers and strings, in the whole part of a number, behind
it, in a string, or behind a backslash in one. -/
inductive Json.Place where
  | between
  | whole (length : Nat)
  | behindWhole
  | string
  | escape

/-- The most characters that a number may have up to its fraction or exponent. -/
def Json.longestNumber : Nat := 4300

def Json.Place.next (place : Json.Place) (c : Char) : Json.Place :=
  match place with
  | .string => if c == '"' then .between else if c == '\\' then .escape else .string
  | .escape => .string
  | .between =>
    if c == '"' then .string else if c == '-' || Json.isDigit c then .whole 1 else .between
  | .whole length =>
    if Json.isDigit c then .whole (length + 1)
    else if c == '.' || c == 'e' || c == 'E' then .behindWhole
    else .between
  | .behindWhole =>
    if Json.isDigit c || c == 'e' || c == 'E' || c == '+' || c == '-' then .behindWhole
    else .between

/-- Whether no number is too long in a text that goes on at a place. -/
def Json.numbersFitFrom (place : Json.Place) : List Char → Bool
  | [] => true
  | c :: rest =>
    match place.next c with
    | .whole length =>
      length ≤ Json.longestNumber && Json.numbersFitFrom (.whole length) rest
    | next => Json.numbersFitFrom next rest

/-- The record of a chain that has ended. -/
structure Transcript where
  unit : String
  timestamp : String
  session : Session
  report : Report

namespace Transcript

def toRecord (transcript : Transcript) : Json :=
  .obj [("unit", .str transcript.unit), ("timestamp", .str transcript.timestamp),
    ("session", transcript.session.toRecord), ("report", transcript.report.toRecord)]

open Shape in
def read : Reader Transcript := record "Transcript" fun fields =>
  let first := (Checked.with (.ok Transcript.mk) (required Shape.text fields "unit")).with
    (required Shape.text fields "timestamp")
  (first.with (required Session.read fields "session")).with (required Report.read fields "report")

/-- How transcripts are written: all letters as they are, numbers positional between `1e-5` and
`1e16`. -/
def style : Json.Style where
  asciiOnly := false
  numbers := { Json.numberStyle with smallest := -5, exponentWidth := 1 }

def text (transcript : Transcript) : String := Json.pretty style transcript.toRecord

/-- The most values with content that may stand in one another. -/
def deepest : Nat := 200

def ofText? (text : String) : Option Transcript :=
  match Json.readAll text.toList with
  | .error _ => none
  | .ok value =>
    if value.isWhole && value.depth ≤ deepest && Json.numbersFitFrom .between text.toList then
      (read value).toOption
    else none

end Transcript

end PromptChain
