/-
**Blank characters and trimming.**

A character is blank when the standard calls it white space or when it is one of the four
separators below the space. Trimming removes blanks at the ends of a text and nothing inside it
(`trim`).
-/

import PromptChain.Text.CodeRanges

namespace PromptChain.Text

def blankRanges : CodeRanges :=
  [(0x9, 0xd), (0x1c, 0x20), (0x85, 0x85), (0xa0, 0xa0), (0x1680, 0x1680), (0x2000, 0x200a),
   (0x2028, 0x2029), (0x202f, 0x202f), (0x205f, 0x205f), (0x3000, 0x3000)]

def isBlankCode (code : Nat) : Bool := inRanges blankRanges code

def isBlank (c : Char) : Bool := isBlankCode c.toNat

def trimStart (text : List Char) : List Char := text.dropWhile isBlank

def dropEndWhile (test : Char → Bool) (text : List Char) : List Char :=
  (text.reverse.dropWhile test).reverse

def trimEnd (text : List Char) : List Char := dropEndWhile isBlank text

def trim (text : List Char) : List Char := trimEnd (trimStart text)

def trimmed (text : String) : String := String.ofList (trim text.toList)

def isBlankText (text : List Char) : Bool := text.all isBlank

end PromptChain.Text
