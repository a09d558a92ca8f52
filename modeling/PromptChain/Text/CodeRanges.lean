/-
**Sets of characters given by their code points.**

The classes of characters that the language and its regular expressions know (letters, digits,
blanks, printable characters) are properties of a standard. A class of a few stretches is a list of
closed ranges (`inRanges`); one of several hundred is the lengths of the stretches, counted from the
first code point (`inRuns`), written as a text (`numbersOf`).
-/

namespace PromptChain.Text

/-- Closed ranges of code points, in ascending order and apart from each other. -/
abbrev CodeRanges := List (Nat × Nat)

def inRanges (ranges : CodeRanges) (code : Nat) : Bool :=
  ranges.any fun range => range.1 ≤ code && code ≤ range.2

/-- How many code points in a row are out of the class and then in it, over and over. -/
abbrev CodeRuns := List Nat

/-- The numbers of a text in base 26: capital letters, and a small letter that ends each number. -/
def numbersFrom (value : Nat) : List Char → List Nat
  | [] => []
  | c :: rest =>
    if c.isLower then (value * 26 + (c.toNat - 'a'.toNat)) :: numbersFrom 0 rest
    else if c.isUpper then numbersFrom (value * 26 + (c.toNat - 'A'.toNat)) rest
    else numbersFrom value rest

def numbersOf (text : String) : List Nat := numbersFrom 0 text.toList

/-- Whether a code point, counted from where the runs begin, lies in the class. -/
def inRuns : CodeRuns → Nat → Bool
  | out :: within :: rest, code =>
    if code < out then false
    else if code < out + within then true
    else inRuns rest (code - out - within)
  | _, _ => false

end PromptChain.Text
