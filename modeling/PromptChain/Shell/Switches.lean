/-
**The options of builtin commands.**

Options come first: letters behind a hyphen, some of them with a value. What follows them are operands
(`withSwitches`).
-/

import PromptChain.Shell.State

namespace PromptChain.Shell

/-- The letters that were given, each with its value, or an empty one. -/
abbrev Switches := List (Char × Raw)

/-- Whether a letter has a value, which a colon behind it says; none if it is not allowed. -/
def valued? (allowed : Raw) (letter : Char) : Option Bool :=
  match if letter == ':' then [] else allowed.dropWhile (· != letter) with
  | [] => none
  | _ :: rest => some (rest.head? == some ':')

/-- Reads the letters of one argument and what follows it. The complaint is about a letter that is not allowed,
or that lacks its value. -/
def readLetters (complaint : Bool → Char → Raw) (allowed : Raw) :
    Raw → List Raw → Except Raw (Switches × List Raw)
  | [], rest => .ok ([], rest)
  | letter :: more, rest =>
    match valued? allowed letter, more, rest with
    | none, _, _ => .error (complaint false letter)
    | some false, _, _ => do
      let (switches, rest) ← readLetters complaint allowed more rest
      pure ((letter, []) :: switches, rest)
    | some true, _ :: _, _ => .ok ([(letter, more)], rest)
    | some true, [], value :: rest => .ok ([(letter, value)], rest)
    | some true, [], [] => .error (complaint true letter)

/-- How the shell complains about a letter. -/
def switchComplaint (lacksValue : Bool) (letter : Char) : Raw :=
  if lacksValue then "No arg for -" ++ letter :: " option" else "Illegal option -" ++ [letter]

/-- Reads the options in front of operands, with fuel for the arguments. -/
def readSwitchesFrom (allowed : Raw) : Nat → List Raw → Except Raw (Switches × List Raw)
  | 0, arguments => .ok ([], arguments)
  | fuel + 1, arguments =>
    match arguments with
    | ['-', '-'] :: rest => .ok ([], rest)
    | ('-' :: letter :: more) :: rest => do
      let (first, rest) ← readLetters switchComplaint allowed (letter :: more) rest
      let (others, operands) ← readSwitchesFrom allowed fuel rest
      pure (first ++ others, operands)
    | _ => .ok ([], arguments)

/-- Was a letter given? -/
def Switches.has (switches : Switches) (letter : Char) : Bool := switches.any fun entry => entry.1 == letter

/-- Goes on with the options of a command; a wrong one ends the shell if the command is a special one. -/
def withSwitches (tool allowed : String) (special : Bool) (arguments : List Raw)
    (next : Switches → List Raw → Run Unit) : Run Unit :=
  match readSwitchesFrom allowed.toList (arguments.length + 1) arguments with
  | .ok (switches, operands) => next switches operands
  | .error problem =>
    let message := tool ++ ": " ++ textOfRaw problem
    if special then abort message else failWith 2 message

/-- Pieces of a text between single quotes, with fuel for its characters; single quotes stand between double
ones. -/
def quotedPieces : Nat → Raw → Raw
  | 0, _ => []
  | fuel + 1, text =>
    let plain := text.takeWhile (· != '\'')
    let after := text.drop plain.length
    let quotes := after.takeWhile (· == '\'')
    let start := '\'' :: plain ++ ['\'']
    if quotes.isEmpty then start
    else
      let rest := after.drop quotes.length
      start ++ '"' :: quotes ++ '"' :: (if rest.isEmpty then [] else quotedPieces fuel rest)

/-- A text between single quotes, as a script would have it. -/
def singleQuoted (text : Raw) : Raw := quotedPieces (text.length + 1) text

end PromptChain.Shell
