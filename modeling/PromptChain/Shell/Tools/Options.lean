/-
**The options of tools.**

Options and operands may stand in any order; two hyphens end the options. An option is a letter behind a
hyphen (`Grammar.read`); the longer names of options are not known.
-/

import PromptChain.Shell.Switches
import PromptChain.Text.Lines

namespace PromptChain.Shell.Tools

/-- The options of a tool. -/
structure Grammar where
  tool : String
  /-- The letters; a colon stands behind one with a value. -/
  letters : String
  /-- The status of the tool if it is called in a wrong way. -/
  failure : Nat := 1
  /-- What is said about the right way. -/
  usage : Option String := none
  /-- Whether options end at the first operand. -/
  strict : Bool := false

/-- What a tool was given. -/
structure Given where
  /-- The options in their order. -/
  options : Switches := []
  operands : List Raw := []

/-- Was an option given? -/
def Given.has (given : Given) (letter : Char) : Bool := given.options.has letter

/-- The value of an option, the last one if it was given several times. -/
def Given.value? (given : Given) (letter : Char) : Option Raw :=
  given.options.reverse.lookup letter

/-- The values of an option. -/
def Given.values (given : Given) (letter : Char) : List Raw :=
  given.options.filterMap fun entry => if entry.1 == letter then some entry.2 else none

/-- Which of some options came last. -/
def Given.last? (given : Given) (letters : List Char) : Option Char :=
  (given.options.reverse.find? fun entry => letters.contains entry.1).map Prod.fst

namespace Grammar

/-- How tools complain about a letter. -/
def complaint (lacksValue : Bool) (letter : Char) : Raw :=
  (if lacksValue then "option requires an argument -- '" else "invalid option -- '").toList ++ [letter, '\'']

/-- Reads arguments, with fuel for them. -/
def readFrom (grammar : Grammar) : Nat → Given → List Raw → Except Raw Given
  | 0, given, _ => .ok given
  | _ + 1, given, [] => .ok given
  | fuel + 1, given, argument :: rest =>
    match argument with
    | ['-', '-'] => .ok { given with operands := given.operands ++ rest }
    | '-' :: '-' :: name => .error ("unrecognized option '--" ++ name ++ ['\''])
    | '-' :: letter :: more => do
      let (options, rest) ← readLetters complaint grammar.letters.toList (letter :: more) rest
      readFrom grammar fuel { given with options := given.options ++ options } rest
    | _ =>
      if grammar.strict then .ok { given with operands := given.operands ++ argument :: rest }
      else readFrom grammar fuel { given with operands := given.operands ++ [argument] } rest

/-- Reads all arguments. -/
def read (grammar : Grammar) (arguments : List Raw) : Except Raw Given :=
  grammar.readFrom (arguments.length + 1) {} arguments

/-- What is said after a complaint. -/
def hint (grammar : Grammar) : String :=
  grammar.usage.getD ("Try '" ++ grammar.tool ++ " --help' for more information.") ++ "\n"

/-- Complains about a wrong call. -/
def refuse (grammar : Grammar) (problem : Raw) : Run Unit := do
  complain (grammar.tool ++ ": " ++ problem ++ '\n' :: rawOfText grammar.hint)
  setStatus grammar.failure

/-- Goes on with what a tool was given. -/
def run (grammar : Grammar) (arguments : List Raw) (next : Given → Run Unit) : Run Unit :=
  match grammar.read arguments with
  | .ok given => next given
  | .error problem => grammar.refuse problem

end Grammar

end PromptChain.Shell.Tools
