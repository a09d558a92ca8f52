/-
**Patterns with wildcards.**

A star stands for any text, a question mark for one character, brackets for one of a set; a character that is
quoted stands for itself. A pattern matches a whole text (`Wildcard.matchesAll`), byte by byte.
-/

import PromptChain.Shell.Syntax

namespace PromptChain.Shell

/-- A character of a pattern, and whether it is quoted. -/
abbrev PatternChar := Char × Bool

/-! ### Classes of characters -/

/-- Is it a character that leaves a mark? -/
def isGraphChar (c : Char) : Bool := ' ' < c && c < '\x7f'

/-- Whether a character belongs to the class of a name; none if there is no such class. -/
def inClass? (name : String) (c : Char) : Option Bool :=
  match name with
  | "alpha" => some c.isAlpha
  | "digit" => some c.isDigit
  | "alnum" => some c.isAlphanum
  | "upper" => some c.isUpper
  | "lower" => some c.isLower
  | "space" => some (isSpaceChar c)
  | "blank" => some (c == ' ' || c == '\t')
  | "punct" => some (isGraphChar c && !c.isAlphanum)
  | "print" => some (isGraphChar c || c == ' ')
  | "graph" => some (isGraphChar c)
  | "cntrl" => some (c < ' ' || c == '\x7f')
  | "xdigit" => some (c.isDigit || "abcdefABCDEF".toList.contains c)
  | _ => none

/-! ### Patterns -/

/-- A member of a set in brackets. -/
inductive SetMember where
  | range (first last : Char)
  | named (name : String)
deriving DecidableEq

/-- Does a member stand for a character? -/
def SetMember.accepts (c : Char) : SetMember → Bool
  | range first last => first ≤ c && c ≤ last
  | named name => (inClass? name c).getD false

/-- A part of a pattern. -/
inductive Wildcard where
  | char (c : Char)
  | one
  | many
  | set (inverted : Bool) (members : List SetMember)
deriving DecidableEq

namespace Wildcard

/-- The name of a class behind an opening bracket, and what follows it. -/
def takeClass? (text : List PatternChar) : Option (String × List PatternChar) :=
  match text with
  | (':', false) :: rest =>
    let name := rest.takeWhile fun entry => entry.1.isAlpha && !entry.2
    match rest.drop name.length with
    | (':', false) :: (']', false) :: after =>
      let word := String.ofList (name.map Prod.fst)
      (inClass? word 'a').map fun _ => (word, after)
    | _ => none
  | _ => none

/-- The members of a set up to the bracket that closes it, with fuel for the characters. A closing bracket
that comes first is a member. -/
def takeMembers? : Nat → Bool → List PatternChar → Option (List SetMember × List PatternChar)
  | 0, _, _ => none
  | _ + 1, _, [] => none
  | fuel + 1, first, (c, quoted) :: rest =>
    if c = ']' && !quoted && !first then some ([], rest)
    else
      match (if c = '[' && !quoted then takeClass? rest else none) with
      | some (name, after) =>
        (takeMembers? fuel false after).map fun found => (.named name :: found.1, found.2)
      | none =>
        match rest with
        | ('-', false) :: (last, lastQuoted) :: after =>
          if last = ']' && !lastQuoted then
            (takeMembers? fuel false rest).map fun found => (.range c c :: found.1, found.2)
          else (takeMembers? fuel false after).map fun found => (.range c last :: found.1, found.2)
        | _ => (takeMembers? fuel false rest).map fun found => (.range c c :: found.1, found.2)

/-- The pattern of characters, with fuel for them. A bracket that is not closed stands for itself. -/
def readFrom : Nat → List PatternChar → List Wildcard
  | 0, _ => []
  | _ + 1, [] => []
  | fuel + 1, (c, true) :: rest => .char c :: readFrom fuel rest
  | fuel + 1, (c, false) :: rest =>
    if c = '*' then .many :: readFrom fuel rest
    else if c = '?' then .one :: readFrom fuel rest
    else if c = '[' then
      let inverted := rest.head? == some ('!', false)
      let content := if inverted then rest.drop 1 else rest
      match takeMembers? (content.length + 1) true content with
      | some (members, after) => .set inverted members :: readFrom fuel after
      | none => .char c :: readFrom fuel rest
    else .char c :: readFrom fuel rest

/-- The pattern of characters. -/
def ofChars (text : List PatternChar) : List Wildcard := readFrom (text.length + 1) text

/-- Whether a part that stands for one character stands for this one. -/
def accepts (c : Char) : Wildcard → Bool
  | char own => own = c
  | one => true
  | many => false
  | set inverted members => members.any (SetMember.accepts c) != inverted

/-- The ends of a text, the longest first. -/
def endings : Raw → List Raw
  | [] => [[]]
  | c :: rest => (c :: rest) :: endings rest

/-- Does a pattern match a whole text? -/
def matchesAll : List Wildcard → Raw → Bool
  | [], text => text.isEmpty
  | many :: rest, text => (endings text).any (matchesAll rest)
  | part :: rest, c :: text => accepts c part && matchesAll rest text
  | _ :: _, [] => false

end Wildcard

end PromptChain.Shell
