/-
**Processes.**

A command is run by a shell of its own, with no input, in a directory of a tree of files (`Job.run`). It
cannot start if its texts have NUL characters or are too long, or if there is no such directory; a time
limit ends it, and then what it printed is dropped.
-/

import PromptChain.Command
import PromptChain.Log
import PromptChain.Shell.Evaluate
import PromptChain.Variable

namespace PromptChain

/-- How long a command may take, with the wording for it. -/
structure TimeLimit where
  /-- In microseconds. -/
  duration : Int
  text : String

/-- A limit in seconds, cut to microseconds. -/
def TimeLimit.ofSeconds (seconds : Float) : TimeLimit :=
  let least := (seconds * 1000000.0).floor
  ⟨if 1.0e15 < least then 1000000000000000 else least.toInt64.toInt, Decimal.display seconds⟩

/-- A limit in whole seconds. -/
def TimeLimit.ofWhole (seconds : Int) : TimeLimit := ⟨seconds * 1000000, toString seconds⟩

/-- The surroundings of a command. -/
structure Site where
  tree : Files.Tree
  /-- The directory of the program itself. -/
  here : Files.Place
  /-- The path of the tree's base directory. -/
  base : String
  /-- The time at which files are written, in nanoseconds. -/
  now : Int

/-- The place that a path names; paths below the base directory may be written in full. -/
def Site.locate (site : Site) (path : String) : Except Files.Issue Files.Place :=
  let start := site.base.toList ++ ['/']
  if path == site.base then .ok []
  else if start.isPrefixOf path.toList then
    site.tree.locate [] (.ofRawText (String.ofList (path.toList.drop start.length)))
  else site.tree.locate site.here (.ofRawText path)

/-- A command to be run. -/
structure Job where
  command : String
  env : Bindings
  /-- The directory to run in; none for that of the program. -/
  directory : Option String := none
  limit : Option TimeLimit := none
  /-- When it is cancelled, in microseconds. -/
  cancelAfter : Option Int := none

/-- How a command ended. -/
inductive Ending where
  /-- It could not start, for a reason. -/
  | refused (reason : String)
  | timedOut (limit : TimeLimit)
  | cancelled
  | exited (code : Int) (stdout stderr : String)

namespace Job

/-! ### Starting -/

/-- The arguments and the environment as the system gets them. -/
def givenTexts (job : Job) : List String :=
  ["/bin/sh", "-c", job.command] ++ job.env.map fun (name, value) => name ++ "=" ++ value

/-- The directory to run in, or why there is none. -/
def workingPlace (job : Job) (site : Site) : Except String Files.Place :=
  match job.directory with
  | none => .ok site.here
  | some path =>
    match site.locate path with
    | .error issue => .error (issue.message path)
    | .ok found =>
      if site.tree.isDirectory found then .ok found
      else if site.tree.has found then .error (Files.Issue.notDirectory.message path)
      else .error (Files.Issue.notFound.message path)

/-- The shell at the start, or why there is none. -/
def start (job : Job) (site : Site) : Except String Shell.State := do
  if job.env.any fun entry => entry.1.toList.contains '=' then
    throw "illegal environment variable name"
  if (job.givenTexts ++ job.directory.toList).any (·.toList.contains '\x00') then throw "embedded null byte"
  let here ← job.workingPlace site
  let sizes := job.givenTexts.map fun text => text.utf8ByteSize + 1
  -- one text may have 128 KiB, all of them with their addresses 2 MiB
  if sizes.any (131072 < ·) || 2097152 < Shell.Tools.total (sizes.map (· + 8)) then
    throw "[Errno 7] Argument list too long: '/bin/sh'"
  let values := job.env.filterMap fun (name, value) =>
    if Shell.isName name.toList then some (name.toList, ⟨some (Shell.rawOfText value), true⟩) else none
  let limits := (job.limit.map TimeLimit.duration).toList ++ job.cancelAfter.toList
  let started : Shell.State :=
    { values, directory := .inside here, base := Shell.rawOfText site.base, tree := Shell.withRoot site.tree
      now := site.now, limit := limits.min?.map Int.toNat }
  pure (started.withDefaults.set "PWD" started.workingPath)

/-! ### Running -/

/-- How a shell that ended by itself did so. -/
def exitOf (result : Except Shell.Stop Unit) (after : Shell.State) : Ending :=
  let output (index : Nat) : String := Shell.textOfRaw (after.sinks.getD index []).reverse
  let code : Int := match result with
    | .error (.killed signal) => -signal
    | _ => after.status
  .exited code (output 0) (output 1)

/-- Runs a command; gives how it ended and the files after it. -/
def run (job : Job) (site : Site) : Ending × Files.Tree :=
  match job.start site with
  | .error reason => (.refused reason, site.tree)
  | .ok state =>
    let script := Shell.runScript 30000
    let act := Shell.asShell script (script (Shell.rawOfText job.command))
    let (result, after) := act.run.run state
    let endless := match result with
      | .error .stuck => true
      | _ => false
    let after := after.flush (max after.elapsed after.occupiedUntil)
    let after := { after with tree := Shell.withoutRoot site.tree after.tree }
    let time : Int := max after.elapsed after.occupiedUntil
    let beyond (limit : Int) : Bool := endless || limit < time || limit ≤ 0
    let ending :=
      if job.cancelAfter.any fun cancel => beyond cancel && job.limit.all (cancel < ·.duration) then
        .cancelled
      else
        match job.limit.filter (beyond ·.duration) with
        | some limit => .timedOut limit
        | none => exitOf result after
    (ending, after.tree)

/-- The result of a command that was not cancelled. -/
def resultOf? : Ending → Option CommandResult
  | .refused reason => some { stderr := reason, exitCode := 127 }
  | .timedOut limit =>
    some { stderr := "timed out after " ++ limit.text ++ "s", exitCode := -1, timedOut := true }
  | .exited exitCode stdout stderr => some { stdout, stderr, exitCode }
  | .cancelled => none

/-- What is said about a command: before it runs, and if it goes wrong. -/
def lines (job : Job) (ending : Ending) : List LogLine :=
  let began : LogLine := ⟨.debug, "[shell] $ " ++ job.command ++ " (cwd=" ++ job.directory.getD "." ++ ")"⟩
  let more : List LogLine := match ending with
    | .refused reason => [⟨.warning, "[shell] could not start command: " ++ reason⟩]
    | .timedOut limit =>
      [⟨.warning, "[shell] timed out after " ++ limit.text ++ "s: " ++ job.command⟩]
    | _ => []
  began :: more

end Job

end PromptChain
