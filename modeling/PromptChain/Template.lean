/-
**Templates: texts with shell substitutions.**

Backticks divide a text into plain parts and shell commands, by turns. `Template.parse?` reads a text
and `Template.text` writes it back; a text with an odd number of backticks is refused.
-/

import PromptChain.Text.Lines

namespace PromptChain

inductive Segment where
  | text (plain : String)
  | shell (command : String)
deriving DecidableEq

/-- A text with shell substitutions. -/
structure Template where
  segments : List Segment
deriving DecidableEq

/-- The segment of a plain part; an empty one leaves none. -/
def Template.plainPart (plain : List Char) : List Segment :=
  if plain.isEmpty then [] else [.text (String.ofList plain)]

/-- The segments of parts that stand between backticks, plain ones first. None if the last backtick opens
a command. -/
def Template.segmentsOf? : List (List Char) → Option (List Segment)
  | [] => none
  | [plain] => some (plainPart plain)
  | [_, _] => none
  | plain :: command :: next :: rest =>
    (segmentsOf? (next :: rest)).map (plainPart plain ++ .shell (String.ofList command) :: ·)

/-- Reads a text; none if a backtick is not closed. -/
def Template.parse? (text : String) : Option Template :=
  (segmentsOf? (Text.splitOnChar '\x60' text.toList)).map fun segments => ⟨segments⟩

def Segment.source : Segment → String
  | .text plain => plain
  | .shell command => "`" ++ command ++ "`"

def Template.text (template : Template) : String :=
  String.join (template.segments.map Segment.source)

/-- The wording for a text with an odd number of backticks. -/
def Template.unterminated : String :=
  "unterminated shell substitution (missing closing '`')"

end PromptChain
