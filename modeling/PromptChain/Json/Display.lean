/-
**Values as messages show them.**

`Json.display` writes a value the way a message quotes it: texts in quotes of either kind, words
capitalised, and `None` for null.
-/

import PromptChain.Decimal.Format
import PromptChain.Json.Basic
import PromptChain.Text.Quoted

namespace PromptChain.Json

mutual

/-- A value as a message shows it. -/
def display : Json → String
  | .null => "None"
  | .bool value => if value then "True" else "False"
  | .int value => toString value
  | .float value => Decimal.display value
  | .str value => Text.quoted value
  | .brokenStr => "''"
  | .arr items => "[" ++ displayItems items ++ "]"
  | .obj fields => "\x7b" ++ displayFields fields ++ "\x7d"

/-- Items as a message shows them. -/
def displayItems : List Json → String
  | [] => ""
  | [item] => display item
  | item :: rest => display item ++ ", " ++ displayItems rest

/-- Fields as a message shows them. -/
def displayFields : List (String × Json) → String
  | [] => ""
  | [(key, value)] => Text.quoted key ++ ": " ++ display value
  | (key, value) :: rest => Text.quoted key ++ ": " ++ display value ++ ", " ++ displayFields rest

end

end PromptChain.Json
