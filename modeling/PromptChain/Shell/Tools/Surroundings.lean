/-
**What is around commands.**

The variables that commands see, and the time that passes.
-/

import PromptChain.Shell.Format
import PromptChain.Shell.Tools.Inputs

namespace PromptChain.Shell.Tools

/-- A time in microseconds; a letter behind it is its unit. -/
def duration? (text : Raw) : Option Nat :=
  let unit := match text.getLast? with
    | some 's' => some 1
    | some 'm' => some 60
    | some 'h' => some 3600
    | some 'd' => some 86400
    | _ => none
  match decimalOf? (if unit.isSome then text.dropLast else text) with
  | some (value, places) =>
    if value < 0 then none else some (value.toNat * unit.getD 1 * 1000000 / Nat.pow 10 places)
  | none => if text == "infinity" || text == "inf" then some (Nat.pow 10 15) else none

/-- The tool `sleep`. -/
def runSleep (arguments : List Raw) : Run Unit :=
  let grammar : Grammar := { tool := "sleep", letters := "", strict := true }
  grammar.run arguments fun given =>
    match given.operands with
    | [] => grammar.refuse "missing operand"
    | operands =>
      match operands.filter fun operand => (duration? operand).isNone with
      | [] => spend (total (operands.filterMap duration?))
      | wrong => do
        wrong.forM fun operand =>
          complain ("sleep: invalid time interval " ++ quotedInText operand ++ ['\n'])
        complain (rawOfText grammar.hint)
        setStatus 1

/-- The tool `printenv`. -/
def runPrintenv (arguments : List Raw) : Run Unit :=
  let grammar : Grammar := { tool := "printenv", letters := "", failure := 2, strict := true }
  grammar.run arguments fun given => do
    let values := (← get).environment
    if given.operands.isEmpty then say (unlinesOf (values.map fun (name, value) => name ++ '=' :: value))
    else
      given.operands.forM fun name =>
        match values.lookup name with
        | some value => say (value ++ ['\n'])
        | none => setStatus 1

/-- A tool that does nothing but end with a status. -/
def runStatus (status : Nat) (_ : List Raw) : Run Unit := setStatus status

/-- The tool `echo`. -/
def runEcho (arguments : List Raw) : Run Unit :=
  let isOption (argument : Raw) : Bool :=
    match argument with
    | '-' :: letters => !letters.isEmpty && letters.all fun c => "neE".toList.contains c
    | _ => false
  let options := (arguments.takeWhile isOption).flatMap (·.drop 1)
  let words := Text.joinWith [' '] (arguments.dropWhile isOption)
  let interpreted := (options.filter fun c => c == 'e' || c == 'E').getLast? == some 'e'
  let (text, ended) := if interpreted then escaped words else (words, false)
  say (if ended || options.contains 'n' then text else text ++ ['\n'])

end PromptChain.Shell.Tools
