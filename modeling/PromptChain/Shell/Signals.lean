/-
**Signals and commands in the background.**

A signal does to the shell what a trap says; without one it ends it, or does nothing. A command in the
background has a number, ends at a time, and can be waited for (`runWait`) or ended by a signal (`runKill`).
-/

import PromptChain.Shell.Expansion
import PromptChain.Shell.Switches

namespace PromptChain.Shell

/-! ### Names -/

/-- The signals with their numbers; zero stands for the end of the shell. -/
def signalNames : List (String × Nat) :=
  [("EXIT", 0), ("HUP", 1), ("INT", 2), ("QUIT", 3), ("ILL", 4), ("TRAP", 5), ("ABRT", 6), ("BUS", 7),
    ("FPE", 8), ("KILL", 9), ("USR1", 10), ("SEGV", 11), ("USR2", 12), ("PIPE", 13), ("ALRM", 14),
    ("TERM", 15), ("CHLD", 17), ("CONT", 18), ("STOP", 19), ("TSTP", 20)]

/-- The number of a signal, which is given by name or by number. -/
def signalOf? (text : Raw) : Option Nat :=
  if !text.isEmpty && text.all Char.isDigit then
    let number := Arithmetic.ofDigits 10 text
    if number ≤ 64 then some number else none
  else signalNames.lookup (String.ofList (text.map Char.toUpper))

/-- The name of a signal. -/
def signalName (signal : Nat) : String :=
  match signalNames.find? fun entry => entry.2 == signal with
  | some (name, _) => if signal = 0 then "0" else name
  | none => toString signal

/-- What is said about a process that a signal ended. -/
def signalText? (signal : Nat) : Option String :=
  [(1, "Hangup"), (3, "Quit"), (4, "Illegal instruction"), (5, "Trace/breakpoint trap"), (6, "Aborted"),
    (7, "Bus error"), (8, "Floating point exception"), (9, "Killed"), (10, "User defined signal 1"),
    (11, "Segmentation fault"), (12, "User defined signal 2"), (14, "Alarm clock"),
    (15, "Terminated")].lookup signal

/-- Tells which signal ended a process. -/
def reportSignal (signal : Nat) : Run Unit :=
  (signalText? signal).forM fun text => complain (text ++ "\n")

/-- The signals that do nothing unless they are caught. -/
def isHarmless (signal : Nat) : Bool := [0, 17, 18, 23, 28].contains signal

/-- The signals that make a process stop without an end. -/
def isStopping (signal : Nat) : Bool := [19, 20, 21, 22].contains signal

/-! ### Commands in the background -/

/-- Changes a command in the background. -/
def State.updateChild (state : State) (process : Nat) (change : Child → Child) : State :=
  { state with
    children := state.children.map fun child => if child.process == process then change child else child }

/-- Ends a child by a signal; what it was still to print is dropped. -/
def State.endChild (state : State) (process signal : Nat) : State :=
  let now := state.elapsed
  { state.updateChild process fun child =>
      { child with ends := now, status := 128 + signal, signal := some signal } with
    pending := state.pending.filter fun entry => entry.process != process }

/-- The command of a number, if it still runs. -/
def State.running? (state : State) (process : Nat) : Option Child :=
  state.children.find? fun child => child.process == process && decide (state.elapsed < child.ends)

/-- Waits for a child; its status becomes that of the command. -/
def awaitChild (child : Child) : Run Unit := do
  let state ← get
  spend (child.ends - state.elapsed)
  if !child.awaited then child.signal.forM reportSignal
  modify fun state => state.updateChild child.process fun child => { child with awaited := true }
  setStatus child.status

/-- Waits for the commands of some numbers. -/
def awaitEach : List Raw → Run Unit
  | [] => pure ()
  | argument :: rest => do
    let state ← get
    if argument.isEmpty || !argument.all Char.isDigit then
      failWith 2 ("wait: Illegal number: " ++ textOfRaw argument)
    else
      let process := Arithmetic.ofDigits 10 argument
      match state.children.find? fun child => child.process == process with
      | none => setStatus 127
      | some child => awaitChild child
      awaitEach rest

/-- The command `wait`. -/
def runWait (arguments : List Raw) : Run Unit :=
  withSwitches "wait" "" false arguments fun _ operands => do
    if operands.isEmpty then
      let state ← get
      spend (state.busyUntil - state.elapsed)
      modify fun state =>
        { state with children := state.children.map fun child => { child with awaited := true } }
      setStatus 0
    else awaitEach operands

/-! ### Sending signals -/

/-- What a signal does to the shell: a trap comes first; some are harmless, some stop it for good. The status
of the last command is as it was when the trap is done. -/
def receive (run : Raw → Run Unit) (signal : Nat) : Run Unit := do
  let state ← get
  match (if signal == 9 || signal == 19 then none else state.traps.lookup signal) with
  | some script => do
    if !script.isEmpty then
      run script
      setStatus state.status
  | none =>
    if isHarmless signal then pure ()
    else if isStopping signal then throw .stuck
    else throw (.killed signal)

/-- Sends a signal to processes: the shell's own, or those in the background. -/
def sendAll (run : Raw → Run Unit) (signal : Nat) : List Raw → Run Unit
  | [] => pure ()
  | process :: rest => do
    let state ← get
    let number? := Arithmetic.signedOf? process
    if process == ownProcess || process == ['0'] || process == '-' :: ownProcess then
      receive run signal
    else
      match number? with
      | none => failWith 2 ("kill: Illegal number: " ++ textOfRaw process)
      | some number =>
        match state.running? number.toNat with
        | some child =>
          if isHarmless signal then pure ()
          else if isStopping signal then
            modify fun state => state.updateChild child.process fun child => { child with ends := Nat.pow 10 18 }
          else modify fun state => state.endChild child.process signal
        | none => failWith 1 "kill: No such process\n"
    sendAll run signal rest

/-- The command `kill`. -/
def runKill (run : Raw → Run Unit) (arguments : List Raw) : Run Unit :=
  let usage : Run Unit := do
    shellMessage ("kill: Usage: kill [-s sigspec | -signum | -sigspec] [pid | job]... or\n"
      ++ "kill -l [exitstatus]")
    setStatus 2
  let send (signal : Nat) (processes : List Raw) : Run Unit :=
    if processes.isEmpty then usage else sendAll run signal processes
  let named (name : Raw) (processes : List Raw) : Run Unit :=
    match signalOf? name with
    | none => failWith 2 ("kill: invalid signal number or name: " ++ textOfRaw name)
    | some signal => send signal processes
  match arguments with
  | [] => usage
  | ('-' :: name) :: rest =>
    match signalOf? name, name, rest with
    | some signal, _, _ => send signal rest
    | none, ['-'], _ => send 15 rest
    | none, ['s'], [] => failWith 2 "kill: No arg for -s option"
    | none, ['s'], name :: processes => named name processes
    | none, 's' :: name, processes => named name processes
    | none, _, _ => failWith 2 ("kill: Illegal option -" ++ textOfRaw (name.take 1))
  | processes => send 15 processes

/-! ### Traps -/

/-- Sets what is done on signals, one after the other. -/
def setTraps (script : Option Raw) : List Raw → Run Unit
  | [] => pure ()
  | signal :: rest =>
    match signalOf? signal with
    | none => do
      complain ("trap: " ++ signal ++ ": bad trap\n")
      setStatus 1
    | some number => do
      modify fun state =>
        let others := state.traps.filter fun entry => entry.1 != number
        { state with traps := script.elim others fun script => (number, script) :: others }
      setTraps script rest

/-- The traps as a script would set them. -/
def listTraps (state : State) : Raw :=
  (List.range 65).flatMap fun signal =>
    match state.traps.lookup signal with
    | some script =>
      let name := if signal = 0 then "EXIT" else signalName signal
      "trap -- " ++ singleQuoted script ++ ' ' :: name.toList ++ ['\n']
    | none => []

/-- The command `trap`. -/
def runTrap (arguments : List Raw) : Run Unit :=
  withSwitches "trap" "" true arguments fun _ operands =>
    match operands with
    | [] => do say (listTraps (← get))
    | [signal] => setTraps none [signal]
    | script :: signals => setTraps (if script == ['-'] then none else some script) signals

end PromptChain.Shell
