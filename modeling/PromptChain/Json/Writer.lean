/-
**Writing JSON.**

A value is written on one line (`Json.compact`) or with one field or item per line (`Json.pretty`). A
`Json.Style` says which characters are escaped, what stands between the parts of a line, and how far a
level is indented.
-/

import PromptChain.Decimal.Format
import PromptChain.Json.Basic
import PromptChain.Text.Quoted

namespace PromptChain.Json

/-- How numbers are written. -/
def numberStyle : Decimal.NumberStyle :=
  { Decimal.plainStyle with infinity := "Infinity", undefined := "NaN" }

/-- Which characters are escaped, how numbers are written, and what separates the parts of a line. -/
structure Style where
  /-- Whether everything outside the printable part of the basic alphabet is escaped. -/
  asciiOnly : Bool
  numbers : Decimal.NumberStyle := numberStyle
  comma : String := ", "
  colon : String := ": "
  /-- How many blanks a level is indented when there is one field or item a line. -/
  indent : Nat := 2

/-- A code as an escape. -/
def unicodeEscape (code : Nat) : List Char := '\\' :: 'u' :: Text.hexDigits 4 code

/-- A character inside a string. -/
def writeChar (asciiOnly : Bool) (c : Char) : List Char :=
  match c with
  | '"' => ['\\', '"']
  | '\\' => ['\\', '\\']
  | '\n' => ['\\', 'n']
  | '\r' => ['\\', 'r']
  | '\t' => ['\\', 't']
  | '\x08' => ['\\', 'b']
  | '\x0c' => ['\\', 'f']
  | _ =>
    let code := c.toNat
    if code < 0x20 then unicodeEscape code
    else if !asciiOnly || code < 0x7f then [c]
    else if code < 0x10000 then unicodeEscape code
    else
      unicodeEscape (0xd800 + (code - 0x10000) / 1024)
        ++ unicodeEscape (0xdc00 + (code - 0x10000) % 1024)

/-- A string in its quotes. -/
def writeString (asciiOnly : Bool) (text : String) : List Char :=
  '"' :: text.toList.flatMap (writeChar asciiOnly) ++ ['"']

/-- A value without parts. -/
def writeLeaf (style : Style) : Json → List Char
  | .null => "null".toList
  | .bool true => "true".toList
  | .bool false => "false".toList
  | .int value => (toString value).toList
  | .float value => (Decimal.render style.numbers value).toList
  | .str text => writeString style.asciiOnly text
  | .brokenStr => writeString style.asciiOnly ""
  | .arr _ => "[]".toList
  | .obj _ => "\x7b\x7d".toList

mutual

/-- A value on one line. -/
def compactValue (style : Style) : Json → List Char
  | .arr [] => "[]".toList
  | .arr (item :: items) =>
    '[' :: compactValue style item ++ compactItems style items ++ [']']
  | .obj [] => "\x7b\x7d".toList
  | .obj ((key, value) :: fields) =>
    '{' :: writeString style.asciiOnly key ++ style.colon.toList ++ compactValue style value
      ++ compactFields style fields ++ ['}']
  | leaf => writeLeaf style leaf

/-- Further items on one line. -/
def compactItems (style : Style) : List Json → List Char
  | [] => []
  | item :: items => style.comma.toList ++ compactValue style item ++ compactItems style items

/-- Further fields on one line. -/
def compactFields (style : Style) : List (String × Json) → List Char
  | [] => []
  | (key, value) :: fields =>
    style.comma.toList ++ writeString style.asciiOnly key ++ style.colon.toList
      ++ compactValue style value ++ compactFields style fields

end

/-- A line break with the blanks of a level. -/
def newline (style : Style) (level : Nat) : List Char :=
  '\n' :: List.replicate (style.indent * level) ' '

mutual

/-- A value over several lines, at a level. -/
def prettyValue (style : Style) (level : Nat) : Json → List Char
  | .arr [] => "[]".toList
  | .arr (item :: items) =>
    '[' :: newline style (level + 1) ++ prettyValue style (level + 1) item
      ++ prettyItems style (level + 1) items ++ newline style level ++ [']']
  | .obj [] => "\x7b\x7d".toList
  | .obj ((key, value) :: fields) =>
    '{' :: newline style (level + 1) ++ writeString style.asciiOnly key ++ [':', ' ']
      ++ prettyValue style (level + 1) value
      ++ prettyFields style (level + 1) fields ++ newline style level ++ ['}']
  | leaf => writeLeaf style leaf

/-- Further items, one a line. -/
def prettyItems (style : Style) (level : Nat) : List Json → List Char
  | [] => []
  | item :: items =>
    ',' :: newline style level ++ prettyValue style level item ++ prettyItems style level items

/-- Further fields, one a line. -/
def prettyFields (style : Style) (level : Nat) : List (String × Json) → List Char
  | [] => []
  | (key, value) :: fields =>
    ',' :: newline style level ++ writeString style.asciiOnly key ++ [':', ' ']
      ++ prettyValue style level value ++ prettyFields style level fields

end

/-- A value on one line with blanks behind commas and colons, in the basic alphabet. -/
def compact (value : Json) : String :=
  String.ofList (compactValue { asciiOnly := true } value)

/-- A value over several lines. -/
def pretty (style : Style) (value : Json) : String :=
  String.ofList (prettyValue style 0 value)

end PromptChain.Json
