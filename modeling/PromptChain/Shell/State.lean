/-
**The state of a shell.**

A shell has variables, arguments, functions, a working directory, and descriptors that lead to outputs or
files. A `Run` is a program on such a state that may stop early: a `Stop` says how far.
-/

import PromptChain.Files.Tree
import PromptChain.Shell.Syntax
import PromptChain.Text.Lines

namespace PromptChain.Shell

/-- The value of a variable, if it has one, and whether commands get to see it. -/
structure Variable where
  value : Option Raw
  exported : Bool := false

/-- The directory in which a shell works: inside the tree of files, or elsewhere. -/
inductive Directory where
  | inside (place : Files.Place)
  | outside (path : Raw)

/-- Where a descriptor leads. -/
inductive Target where
  /-- One of the outputs that are gathered. -/
  | sink (index : Nat)
  /-- One of the inputs that are open. -/
  | source (index : Nat)
  | file (place : Files.Place)
  | nowhere
  | closed
deriving DecidableEq

/-- What is still to be read from an input. -/
structure Stream where
  text : Raw := []
  fileSize : Option Nat := none

/-- A command in the background. -/
structure Child where
  process : Nat
  /-- When it ends, in microseconds of the shell. -/
  ends : Nat
  status : Nat
  /-- The signal that ended it. -/
  signal : Option Nat := none
  /-- Whether it holds an output. -/
  holds : Bool := true
  /-- Whether somebody has waited for it. -/
  awaited : Bool := false

/-- What a command in the background prints, with its time and the output's number. -/
structure Delayed where
  process : Nat
  time : Nat
  sink : Nat
  text : Raw

/-- Everything that a shell keeps. -/
structure State where
  /-- The name under which the shell complains. -/
  name : Raw := "/bin/sh"
  values : List (Raw × Variable) := []
  arguments : List Raw := []
  functions : List (Raw × Command) := []
  /-- What the variables of the function at hand were before it; none outside functions. -/
  locals : Option (List (Raw × Option Variable)) := none
  /-- How many loops there are around the command at hand. -/
  loops : Nat := 0
  /-- What is done on a signal, by its number; zero stands for the end of the shell. -/
  traps : List (Nat × Raw) := []
  /-- The exit status of the last command. -/
  status : Nat := 0
  line : Nat := 1
  directory : Directory := .inside []
  /-- The path of the tree's base directory. -/
  base : Raw := []
  tree : Files.Tree := {}
  /-- The time at which files are written, in nanoseconds. -/
  now : Int := 0
  /-- The inputs that are open. -/
  sources : List Stream := [{}]
  /-- The outputs that are gathered, each with its last character first. -/
  sinks : List Raw := [[], []]
  targets : List (Nat × Target) := [(0, .source 0), (1, .sink 0), (2, .sink 1)]
  /-- How long the shell has run, in microseconds. -/
  elapsed : Nat := 0
  /-- The commands in the background, the first one first. -/
  children : List Child := []
  nextProcess : Nat := 3
  lastProcess : Option Nat := none
  /-- When the last command that nobody waits for and that holds an output ends. -/
  heldUntil : Nat := 0
  pending : List Delayed := []
  /-- How long the shell may run. -/
  limit : Option Nat := none
  /-- The variables that keep their values for good. -/
  frozen : List Raw := []
  /-- The letters of the options that are on. -/
  switches : List Char := []
  /-- Whether the status of the command at hand is looked at, so that it may fail. -/
  guarded : Bool := false
  /-- The command in whose name the shell complains. -/
  speaker : Option Raw := none
  aliases : List (Raw × Raw) := []
  /-- The permissions that new files do not get. -/
  mask : Nat := 18
  /-- The argument at which options are taken next, counted from one. -/
  optionIndex : Nat := 1
  /-- How many characters of the argument before it are used, if it has more options. -/
  optionOffset : Option Nat := none

/-- How far a program stops. -/
inductive Stop where
  /-- The shell ends. -/
  | leave
  /-- The whole process is ended by a signal. -/
  | killed (signal : Nat)
  /-- It never ends. -/
  | stuck
  | breakLoop (loops : Nat)
  | continueLoop (loops : Nat)
  | returned

/-- A program of the shell; the state stays when it stops. -/
abbrev Run := ExceptT Stop (StateM State)

namespace State

/-! ### Variables -/

/-- The value of a variable, if it has one. -/
def value? (state : State) (name : Raw) : Option Raw := (state.values.lookup name).bind (·.value)

/-- What a new value of a variable changes: where options are taken. -/
def notice (state : State) (name value : Raw) : State :=
  if name == "OPTIND" then
    let index := (String.ofList value).toNat?.getD 1
    { state with optionIndex := max index 1, optionOffset := none }
  else state

/-- Sets a variable; it stays exported if it was. -/
def set (state : State) (name value : Raw) : State :=
  let exported := (state.values.lookup name).any (·.exported)
  let others := state.values.filter fun entry => entry.1 != name
  { state with values := (name, ⟨some value, exported || state.switches.contains 'a'⟩) :: others }.notice
    name value

/-- Shows a variable to commands. -/
def publish (state : State) (name : Raw) : State :=
  let value := state.value? name
  let others := state.values.filter fun entry => entry.1 != name
  { state with values := (name, ⟨value, true⟩) :: others }

/-- Forgets a variable. -/
def unset (state : State) (name : Raw) : State :=
  { state with values := state.values.filter fun entry => entry.1 != name }

/-- Is an option on? -/
def has (state : State) (letter : Char) : Bool := state.switches.contains letter

/-- The group in which a name is listed. -/
def groupOf (name : Raw) : Nat :=
  (((name.head?.map Char.toNat).getD 0) * 16 + name.foldl (fun sum c => sum + c.toNat) 0) % 39

/-- The variables that commands get to see, group by group. -/
def environment (state : State) : List (Raw × Raw) :=
  let seen := state.values.reverse.filterMap fun (name, entry) =>
    if entry.exported then entry.value.map fun value => (name, value) else none
  seen.mergeSort fun first second => groupOf first.1 ≤ groupOf second.1

/-! ### Files -/

/-- The full path of a place. -/
def pathOf (state : State) (place : Files.Place) : Raw :=
  match place with
  | ["/"] => ['/']
  | "/" :: steps => steps.flatMap fun step => '/' :: rawOfText step
  | steps => state.base ++ steps.flatMap fun step => '/' :: rawOfText step

/-- The full path of the working directory. -/
def workingPath (state : State) : Raw :=
  match state.directory with
  | .outside path => path
  | .inside place => state.pathOf place

/-- A path from the root without the steps that change nothing. -/
def plainPath (path : Raw) : Raw :=
  let steps := ((Text.splitOnChar '/' path).filter fun step => !step.isEmpty && step != ['.']).foldl
    (fun steps step => if step == ['.', '.'] then steps.dropLast else steps ++ [step]) []
  if steps.isEmpty then ['/'] else steps.flatMap fun step => '/' :: step

/-- Whether steps lead out of a directory that is some steps deep. -/
def leadsOut : Nat → List Raw → Bool
  | _, [] => false
  | depth, step :: rest =>
    if step.isEmpty || step == ['.'] then leadsOut depth rest
    else if step == ".." then
      match depth with
      | 0 => true
      | depth + 1 => leadsOut depth rest
    else leadsOut (depth + 1) rest

/-- The place that a full path names. -/
def locateRooted (state : State) (path : Raw) : Except Files.Issue Files.Place :=
  if !state.base.isEmpty && (state.base ++ ['/']).isPrefixOf path then
    state.tree.locate [] (.ofRawText (textOfRaw (path.drop (state.base.length + 1))))
  else if path == state.base then .ok []
  else state.tree.locate [] (.ofRawText (textOfRaw path))

/-- The place that a path names from the working directory. -/
def locate (state : State) (path : Raw) : Except Files.Issue Files.Place :=
  if path.isEmpty then .error .notFound
  else if path.head? == some '/' then state.locateRooted path
  else
    match state.directory with
    | .inside place =>
      let depth := if place.head? == some "/" then place.length - 1 else place.length
      if leadsOut depth (Text.splitOnChar '/' path) then
        state.locateRooted (plainPath (state.workingPath ++ '/' :: path))
      else state.tree.locate place (.ofRawText (textOfRaw path))
    | .outside here => state.locateRooted (plainPath (here ++ '/' :: path))

/-- The names of what a directory holds. -/
def namesIn (state : State) (place : Files.Place) : List String :=
  (state.tree.childrenOf place).filterMap fun entry => entry.place.getLast?.filter (· != "/")

/-- What a file holds; of the endless one, more than anyone reads. -/
def readFile (state : State) (path : Raw) : Except Files.Issue Raw :=
  if path == "/dev/null" then .ok []
  else if path == "/dev/zero" then .ok (List.replicate 300000 '\x00')
  else
    match state.locate path with
    | .error issue => .error issue
    | .ok place =>
      match state.tree.content? place with
      | some bytes => .ok (rawOfBytes bytes)
      | none => .error (if state.tree.isDirectory place then .isDirectory else .notFound)

/-- Does a path name a directory? -/
def namesDirectory (state : State) (path : Raw) : Bool :=
  match state.locate path with
  | .ok place => state.tree.isDirectory place
  | .error _ => false

/-- Does a path name a file that can be read? -/
def namesFile (state : State) (path : Raw) : Bool := (state.readFile path).toOption.isSome

/-! ### Outputs -/

/-- Adds to an output or to a file. -/
def writeTo (state : State) (target : Target) (text : Raw) : State :=
  match target with
  | .sink index =>
    { state with sinks := state.sinks.modify index fun sink => text.reverseAux sink }
  | .file place =>
    let before := (state.tree.content? place).getD []
    { state with
      tree := state.tree.put { place, content := some (before ++ bytesOfRaw text), modified := state.now } }
  | .source _ | .nowhere | .closed => state

/-- Where a descriptor leads; without an entry it is closed. -/
def targetOf (state : State) (descriptor : Nat) : Target :=
  (state.targets.lookup descriptor).getD .closed

/-- The input to which a descriptor leads. -/
def streamOf (state : State) (descriptor : Nat) : Stream :=
  match state.targetOf descriptor with
  | .source index => state.sources.getD index {}
  | _ => {}

/-- What is still to be read from the standard input. -/
def input (state : State) : Raw := (state.streamOf 0).text

/-- Leaves only a rest of the standard input to read. -/
def leaveInput (state : State) (text : Raw) : State :=
  match state.targetOf 0 with
  | .source index => { state with sources := state.sources.modify index fun stream => { stream with text } }
  | _ => state

/-- Makes a descriptor lead somewhere else. -/
def lead (state : State) (descriptor : Nat) (target : Target) : State :=
  { state with targets := (descriptor, target) :: state.targets.filter fun entry => entry.1 != descriptor }

/-- Makes a descriptor lead to a new input. -/
def leadStream (state : State) (descriptor : Nat) (stream : Stream) : State :=
  { state with sources := state.sources ++ [stream] }.lead descriptor (.source state.sources.length)

/-- When the last command in the background ends. -/
def busyUntil (state : State) : Nat :=
  state.children.foldl (fun time child => max time child.ends) 0

/-- When the last command in the background that holds an output ends. -/
def occupiedUntil (state : State) : Nat :=
  state.children.foldl (fun time child => if child.holds then max time child.ends else time) state.heldUntil

/-- Writes to a descriptor. -/
def write (state : State) (descriptor : Nat) (text : Raw) : State :=
  state.writeTo (state.targetOf descriptor) text

end State

/-! ### What is outside -/

/-- Directories that every system has. -/
def rootPlaces : List Files.Place :=
  [["/"], ["/", "usr", "bin"], ["/", "usr", "lib"], ["/", "usr", "local"], ["/", "var", "log"],
    ["/", "var", "tmp"]] ++
  ["tmp", "bin", "usr", "etc", "var", "home", "root", "dev", "lib", "opt", "proc", "sbin", "sys", "run",
    "mnt", "srv", "media", "boot"].map fun name => ["/", name]

/-- A tree with the directories of the root. -/
def withRoot (tree : Files.Tree) : Files.Tree :=
  let missing := rootPlaces.filter fun place => !tree.isDirectory place
  ⟨tree.entries ++ missing.map fun place => { place, content := none, modified := 0 }⟩

/-- A tree without the directories of the root that another one does not have. -/
def withoutRoot (before tree : Files.Tree) : Files.Tree :=
  ⟨tree.entries.filter fun entry => !rootPlaces.contains entry.place || before.isDirectory entry.place⟩

/-! ### Programs -/

/-- Prints to the standard output. -/
def say (text : Raw) : Run Unit := modify fun state => state.write 1 text

/-- Prints to the standard error. -/
def complain (text : Raw) : Run Unit := modify fun state => state.write 2 text

/-- Sets the exit status. -/
def setStatus (status : Nat) : Run Unit := modify fun state => { state with status }

/-- A complaint of a builtin command, with the shell's name and the line in front. -/
def shellMessage (message : String) : Run Unit := do
  let state ← get
  complain (state.name ++ rawOfText (": " ++ toString state.line ++ ": " ++ message ++ "\n"))

/-- A complaint of the shell itself, in the name of the command that made it read a script. -/
def ownMessage (message : String) : Run Unit := do
  let speaker := (← get).speaker.elim "" fun name => textOfRaw name ++ ": "
  shellMessage (speaker ++ message)

/-- Complains as a builtin command, with an exit status. -/
def failWith (status : Nat) (message : String) : Run Unit := do
  shellMessage message
  setStatus status

/-- Complains as the shell itself, with an exit status. -/
def failOwn (status : Nat) (message : String) : Run Unit := do
  ownMessage message
  setStatus status

/-- Ends the shell with an exit status. -/
def leaveWith {α : Type} (status : Nat) : Run α := do
  setStatus status
  throw .leave

/-- Prints what was to be printed up to a time. -/
def State.flush (time : Nat) (state : State) : State :=
  let due := (state.pending.filter fun entry => entry.time ≤ time).mergeSort fun first second =>
    first.time ≤ second.time
  let printed := due.foldl (fun state entry => state.writeTo (.sink entry.sink) entry.text) state
  { printed with pending := state.pending.filter fun entry => time < entry.time }

/-- Lets time pass; beyond the limit there is no way on. -/
def spend (duration : Nat) : Run Unit := do
  modify fun state =>
    { state with elapsed := state.elapsed + duration }.flush (state.elapsed + duration)
  let state ← get
  if state.limit.any fun limit => decide (limit < state.elapsed) then throw .stuck

/-- Complains as a builtin command and ends the shell. -/
def abort {α : Type} (message : String) : Run α := do
  shellMessage message
  leaveWith 2

/-- Complains as the shell itself and ends it. -/
def abortOwn {α : Type} (message : String) : Run α := do
  ownMessage message
  leaveWith 2

/-- Ends the shell if a variable keeps its value for good; the message starts as given. -/
def mayChange (start : String) (name : Raw) : Run Unit := do
  if (← get).frozen.contains name then
    let message := textOfRaw name ++ ": is read only"
    if start == "" then abortOwn message else abort (start ++ message)

/-- Does something and then something else, however the first ends. -/
def ensuring {α : Type} (act : Run α) (after : Run Unit) : Run α := do
  let result ← tryCatch (act.map Except.ok) fun stop => pure (Except.error stop)
  after
  match result with
  | .ok value => pure value
  | .error stop => throw stop

/-- Does something that may end the shell, but then only itself. -/
def contained (act : Run Unit) : Run Unit :=
  tryCatch act fun stop =>
    match stop with
    | .killed _ | .stuck => throw stop
    | _ => pure ()

/-- Does something in a shell of its own: of the state, only files, outputs, inputs, the time and the
exit status are kept. -/
def isolated (act : Run Unit) : Run Unit := do
  let before ← get
  let restore : Run Unit := modify fun state =>
    { before with
      tree := state.tree, sinks := state.sinks, sources := state.sources, elapsed := state.elapsed
      nextProcess := state.nextProcess, heldUntil := state.occupiedUntil, pending := state.pending
      status := state.status }
  ensuring (contained act) restore

/-- What something prints in a shell of its own. -/
def capture (act : Run Unit) : Run Raw := do
  let before ← get
  let index := before.sinks.length
  modify fun state =>
    { state with sinks := state.sinks ++ [[]], targets := (1, .sink index) :: state.targets }
  ensuring (isolated act) (modify fun state => { state with targets := before.targets })
  let after ← get
  modify fun state => { state with sinks := state.sinks.take index }
  pure ((after.sinks.getD index []).reverse)

/-- Does something with a text as its input. -/
def withInput (input : Raw) (act : Run Unit) : Run Unit := do
  let before ← get
  modify fun state => state.leadStream 0 { text := input }
  ensuring act (modify fun state => { state with targets := before.targets })

end PromptChain.Shell
