/-
**Texts in small letters.**
-/

import PromptChain.Text.LetterCase
import PromptChain.Text.WordEnd

namespace PromptChain.Text

/-- The small letters of a character, given the characters before it, nearest first, and behind it. A
sigma at the end of a word has a form of its own. -/
def lowerChar (before : List Char) (c : Char) (after : List Char) : List Char :=
  if c.toNat = 0x130 then ['i', '̇']
  else if c.toNat = 0x3a3 then if endsWord before after then ['ς'] else ['σ']
  else [Char.ofNat (lowerCode c.toNat)]

/-- Goes through a text from left to right. -/
def lowercaseFrom (before : List Char) : List Char → List Char
  | [] => []
  | c :: rest => lowerChar before c rest ++ lowercaseFrom (c :: before) rest

def lowercase (text : String) : String := String.ofList (lowercaseFrom [] text.toList)

end PromptChain.Text
