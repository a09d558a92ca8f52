/-
**The commands that a shell does itself.**

They change the shell's own state, or end what it does. `builtin?` finds one by name; a command that runs
a script of its own gets the way to do so.
-/

import PromptChain.Shell.Condition
import PromptChain.Shell.Format
import PromptChain.Shell.Signals
import PromptChain.Shell.Variables

namespace PromptChain.Shell

/-! ### Reading -/

/-- Takes a line of the input: its text, in which characters behind a backslash are marked, and whether a
line end was there. -/
def takeLine (plain : Bool) : Raw → List (Char × Bool) × Bool × Raw
  | [] => ([], false, [])
  | ['\\'] => ([('\\', !plain)], false, [])
  | '\\' :: c :: rest =>
    if plain then
      if c == '\n' then ([('\\', false)], true, rest)
      else
        let (more, ended, left) := takeLine plain rest
        (('\\', false) :: (c, false) :: more, ended, left)
    else
      let (more, ended, left) := takeLine plain rest
      ((if c == '\n' then more else (c, true) :: more), ended, left)
  | c :: rest =>
    if c == '\n' then ([], true, rest)
    else
      let (more, ended, left) := takeLine plain rest
      ((c, false) :: more, ended, left)

/-- Gives the fields of a line to variables; the last one gets all that is left. If that is one field, the
separator behind it goes. -/
def assignFields (separators : Raw) (state : State) : List Raw → List (Char × Bool) → State
  | [], _ => state
  | name :: names, text =>
    let blank (entry : Char × Bool) : Bool := !entry.2 && isBlankSeparator separators entry.1
    let separates (entry : Char × Bool) : Bool := !entry.2 && separators.contains entry.1
    let text := text.dropWhile blank
    let field := text.takeWhile fun entry => !separates entry
    let rest := (text.drop field.length).dropWhile blank
    let rest := if rest.head?.any separates then (rest.drop 1).dropWhile blank else rest
    if names.isEmpty then
      let value := if rest.isEmpty then field else (text.reverse.dropWhile blank).reverse
      state.set name (value.map Prod.fst)
    else assignFields separators (state.set name (field.map Prod.fst)) names rest

/-- The command `read`. -/
def runRead (arguments : List Raw) : Run Unit :=
  withSwitches "read" "p:r" false arguments fun switches names => do
    let state ← get
    if names.isEmpty then failWith 2 "read: arg count"
    else if let some bad := names.find? fun name => !isName name then
      failWith 2 ("read: " ++ textOfRaw bad ++ ": bad variable name")
    else if let some bad := names.find? state.frozen.contains then
      failWith 2 ("read: " ++ textOfRaw bad ++ ": is read only")
    else
      let (text, ended, left) := takeLine (switches.has 'r') state.input
      let text := text.filter fun entry => entry.1 != '\x00'
      set (assignFields state.separators (state.leaveInput left) names text)
      setStatus (if ended then 0 else 1)

/-! ### Leaving -/

/-- The command `exit`. -/
def runExit (arguments : List Raw) : Run Unit := do
  let state ← get
  numberOr "exit" state.status (fun number => leaveWith (number % 256)) arguments

/-- The command `return`. -/
def runReturn (arguments : List Raw) : Run Unit := do
  let state ← get
  numberOr "return" state.status (fun number => do setStatus (number % 256); throw .returned) arguments

/-- The commands `break` and `continue`. -/
def runLoopControl (tool : String) (stop : Nat → Stop) (arguments : List Raw) : Run Unit := do
  let state ← get
  numberOr tool 1 (fun loops =>
    if loops == 0 then abort (tool ++ ": Illegal number: " ++ textOfRaw (arguments.head?.getD []))
    else if state.loops == 0 then pure ()
    else throw (stop (min loops state.loops))) arguments

/-! ### Directories -/

/-- The directory that a path names. -/
def directoryOf? (state : State) (path : Raw) : Option Directory :=
  let absolute := if path.head? == some '/' then path else state.workingPath ++ '/' :: path
  match state.locate path with
  | .ok place => if state.tree.isDirectory place then some (.inside place) else none
  | .error _ =>
    let outer := State.plainPath absolute
    if (outer ++ ['/']).isPrefixOf state.base then some (.outside outer) else none

/-- Makes a directory the working one. -/
def enter (directory : Directory) : Run Unit := modify fun state =>
  let after := { state with directory }
  (after.set "OLDPWD" state.workingPath).set "PWD" after.workingPath

/-- Changes the working directory; going back tells the new one. -/
def runCd (arguments : List Raw) : Run Unit :=
  withSwitches "cd" "LP" false arguments fun _ operands => do
    let state ← get
    let (path, back) := match operands with
      | [] => ((state.value? "HOME").getD [], false)
      | ['-'] :: _ => ((state.value? "OLDPWD").getD [], true)
      | path :: _ => (path, false)
    if path.isEmpty then pure ()
    else
      match directoryOf? state path with
      | none => failWith 2 ("cd: can't cd to " ++ textOfRaw path)
      | some directory => do
        enter directory
        if back then say ((← get).workingPath ++ ['\n'])

/-- The command `pwd`. -/
def runPwd (arguments : List Raw) : Run Unit :=
  withSwitches "pwd" "LP" false arguments fun _ _ => do say ((← get).workingPath ++ ['\n'])

/-! ### Permissions and limits -/

/-- The command `umask`. -/
def runUmask (arguments : List Raw) : Run Unit :=
  withSwitches "umask" "" false arguments fun _ operands => do
    let mask := (← get).mask
    match operands with
    | [] =>
      let digits := Nat.toDigits 8 mask
      say (List.replicate (4 - digits.length) '0' ++ digits ++ ['\n'])
    | given :: _ =>
      if given.all fun c => '0' ≤ c && c ≤ '7' then
        modify fun state => { state with mask := Arithmetic.ofDigits 8 given &&& 511 }
      else failWith 2 ("umask: Illegal number: " ++ textOfRaw given)

/-! ### All of them -/

/-- The command `printf`. -/
def runPrintf (arguments : List Raw) : Run Unit :=
  withSwitches "printf" "" false arguments fun _ operands =>
    match operands with
    | [] => failWith 2 "printf: usage: printf format [arg ...]"
    | format :: rest => do
      let filled := printed format rest
      say filled.text
      filled.complaints.forM shellMessage
      if !filled.complaints.isEmpty then setStatus (if filled.broken then 2 else 1)

/-- Does something in the name of a command that made the shell read a script. -/
def speakingAs (name : Raw) (act : Run Unit) : Run Unit := do
  let before := (← get).speaker
  modify fun state => { state with speaker := some name }
  ensuring act (modify fun state => { state with speaker := before })

/-- Does something up to where it returns. -/
def untilReturn (act : Run Unit) : Run Unit :=
  tryCatch act fun stop =>
    match stop with
    | .returned => pure ()
    | other => throw other

/-- The command `.`, which runs the script in a file. -/
def runSource (run : Raw → Run Unit) (arguments : List Raw) : Run Unit := do
  match arguments with
  | [] => setStatus 0
  | path :: _ =>
    let state ← get
    if !path.contains '/' then abort (".: " ++ textOfRaw path ++ ": not found")
    match state.readFile path with
    | .ok content =>
      speakingAs path (untilReturn (run content))
      modify fun now => { now with line := state.line }
    | .error _ => abort (".: cannot open " ++ textOfRaw path ++ ": No such file")

/-- The names of the commands that the shell does itself. -/
def builtinNames : List String :=
  [".", ":", "[", "alias", "bg", "break", "cd", "chdir", "command", "continue", "echo", "eval", "exec", "exit",
    "export", "false", "fg", "getopts", "kill", "local", "printf", "pwd", "read", "readonly",
    "return", "set", "shift", "test", "times", "trap", "true", "type", "ulimit", "umask", "unalias", "unset",
    "wait"]

/-- The commands whose errors end the shell and whose assignments stay. -/
def isSpecial (name : Raw) : Bool :=
  [".", ":", "break", "continue", "eval", "exec", "exit", "export", "readonly", "return", "set", "shift",
    "times", "trap", "unset"].any (·.toList == name)

/-- What the shell does itself for a name. The status is zero unless it says otherwise. -/
def builtin? (run : Raw → Run Unit) (name : String) (arguments : List Raw) : Option (Run Unit) :=
  let fresh (act : Run Unit) : Option (Run Unit) := some do setStatus 0; act
  match name with
  | ":" | "true" => fresh (pure ())
  | "false" => fresh (setStatus 1)
  | "exit" => some (runExit arguments)
  | "return" => some (runReturn arguments)
  | "echo" => fresh (say (echoText arguments))
  | "printf" => fresh (runPrintf arguments)
  | "cd" | "chdir" => fresh (runCd arguments)
  | "pwd" => fresh (runPwd arguments)
  | "read" => fresh (runRead arguments)
  | "test" => fresh (runTest "test" arguments)
  | "[" => fresh (runBracket arguments)
  | "kill" => fresh (runKill run arguments)
  | "export" => fresh (runExport arguments)
  | "readonly" => fresh (runReadonly arguments)
  | "local" => fresh (runLocal arguments)
  | "unset" => fresh (runUnset arguments)
  | "set" => fresh (runSet arguments)
  | "shift" => fresh (runShift arguments)
  | "getopts" => fresh (runGetopts arguments)
  | "alias" => fresh (runAlias arguments)
  | "unalias" => fresh (runUnalias arguments)
  | "trap" => fresh (runTrap arguments)
  | "wait" => fresh (runWait arguments)
  | "bg" | "fg" => some (failWith 2 (name ++ ": job (null) not created under job control"))
  | "times" => fresh (say "0m0.000000s 0m0.000000s\n0m0.000000s 0m0.000000s\n")
  | "umask" => fresh (runUmask arguments)
  | "ulimit" => fresh (say "unlimited\n")
  | "eval" => some (speakingAs "eval" (run (Text.joinWith [' '] arguments)))
  | "break" => fresh (runLoopControl "break" .breakLoop arguments)
  | "continue" => fresh (runLoopControl "continue" .continueLoop arguments)
  | "." => some (runSource run arguments)
  | _ => none

end PromptChain.Shell
