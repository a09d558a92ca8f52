/-
**Carrying out what is asked.**

A request works on a `World`: files, a clock and the environment. What it prints and logs is gathered, and
it ends with an exit code or with an error that is nobody's to handle (`perform`). Only errors in sources,
in settings, in transcripts and missing files are reported and end with a code.
-/

import PromptChain.CallGraph.Record
import PromptChain.CommandLine.Request
import PromptChain.Layout
import PromptChain.Model.Service
import PromptChain.Run
import PromptChain.Shell.Process

namespace PromptChain.CommandLine

/-- What a request finds and may change. -/
structure World where
  tree : Files.Tree
  clock : Time.Clock
  /-- The time at which other files are written, in nanoseconds. -/
  now : Int
  env : Bindings
  home : Files.Path
  /-- The path of the working directory. -/
  base : String

/-- A world in which a request is carried out, with what was printed so far. -/
structure Stage where
  world : World
  /-- The least level that is logged. -/
  level : Level := .info
  model : Option Script := none
  dry : Bool := false
  commandLimit : Option TimeLimit := none
  stdout : String := ""
  stderr : String := ""

/-- How a request ends. -/
inductive Exit where
  | code (number : Nat)
  /-- An error that is not handled. -/
  | escaped (error : LoadError)
  /-- A unit was to be run, or resumed, without its name. -/
  | nameless (resumed : Bool)

/-- The error of a missing name. -/
def namelessMessage (resumed : Bool) : String :=
  if resumed then "can only concatenate list (not \"str\") to list"
  else "'list' object has no attribute 'casefold'"

/-- A piece of work that may end the request. -/
abbrev Work := ExceptT Exit (StateM Stage)

/-! ### Printing and leaving -/

/-- Prints a text. -/
def say (text : String) : Work Unit := modify fun stage => { stage with stdout := stage.stdout ++ text }

/-- Prints a line. -/
def sayLine (line : String) : Work Unit := say (line ++ "\n")

/-- Prints a line to the standard error. -/
def Stage.complain (stage : Stage) (line : String) : Stage :=
  { stage with stderr := stage.stderr ++ line ++ "\n" }

/-- Logs a line, if its level counts. -/
def Stage.log (line : LogLine) (stage : Stage) : Stage :=
  if stage.level.rank ≤ line.level.rank then stage.complain line.text else stage

/-- Logs lines. -/
def logAll (lines : List LogLine) : Work Unit := modify fun stage =>
  lines.foldl (fun stage line => stage.log line) stage

/-- The exit code of a request that is refused. -/
def errorCode : Nat := Outcome.exitCode .loadError

/-- Reports a problem and ends the request. -/
def refuse {α : Type} (line : String) : Work α := do
  modify fun stage => stage.complain line
  throw (.code errorCode)

/-- Ends the request with an error: some are reported, the others escape. -/
def raise {α : Type} (error : LoadError) : Work α :=
  match error with
  | .fault fault => refuse (fault.place ++ ": " ++ fault.message)
  | .unreadable _ .notFound | .notText _ | .unterminatedShell => refuse ("[Error] " ++ error.message)
  | _ => throw (.escaped error)

/-- Goes on unless the files refused. -/
def unlessRefused {α : Type} : Except Files.Refusal α → Work α
  | .ok value => pure value
  | .error refusal => raise (.unreadable refusal.path refusal.issue)

/-! ### Settings and transcripts -/

/-- The files at hand. -/
def tree : Work Files.Tree := do pure (← get).world.tree

/-- Changes the files. -/
def setTree (tree : Files.Tree) : Work Unit := modify fun stage =>
  { stage with world := { stage.world with tree } }

/-- A path that is given and not empty. -/
def givenPath (path : Option String) : Option Files.Path := (path.filter (· != "")).map .ofText

/-- The settings that count. -/
def loadSettings (config : Option String) : Work Settings := do
  let world := (← get).world
  match Settings.load ⟨world.tree, [], world.home, world.env⟩ (givenPath config) [] with
  | .ok settings => pure settings
  | .error failure => refuse ("[Error] " ++ failure.message)

/-- The archive, whose directory is made if need be. -/
def openArchive (settings : Settings) : Work Archive := do
  let archive : Archive := ⟨settings.stateDirectory⟩
  let world := (← get).world
  setTree (← unlessRefused (archive.create world.tree [] world.now))
  pure archive

/-- The latest transcript of a unit. -/
def latestTranscript (settings : Settings) (unit : String) : Work Transcript := do
  let archive ← openArchive settings
  match archive.latest? (← tree) [] unit with
  | none =>
    refuse ("[Error] No saved transcript for unit '" ++ unit ++ "' in " ++ settings.stateDirectory)
  | some path =>
    match Archive.load (← tree) [] path with
    | .ok transcript => pure transcript
    | .error (.unreadable error) => raise error
    | .error failure => refuse ("[Error] " ++ failure.message)

/-! ### Running units -/

/-- The paths at which a source is looked for. -/
def sourcePaths (target : String) : List Files.Path :=
  let examples := Files.Path.ofText "examples"
  let ended := Files.Path.ofText (target ++ ".pr")
  [.ofText target, ended, examples.join (.ofText target), examples.join ended]

/-- The first path at which there is a file. -/
def firstFile? (tree : Files.Tree) : List Files.Path → Except LoadError (Option Files.Path)
  | [] => .ok none
  | path :: rest =>
    match tree.locate [] path with
    | .error .nameTooLong => .error (.unreadable path.text .nameTooLong)
    | .error _ => firstFile? tree rest
    | .ok place => if tree.isFile place then .ok (some path) else firstFile? tree rest

/-- The source that an operand names. -/
def findSource (target : String) : Work SourceInput := do
  match firstFile? (← tree) (sourcePaths target) with
  | .error error => raise error
  | .ok (some path) => pure (.file path)
  | .ok none =>
    let checked := (sourcePaths target).map Files.Path.text
    refuse ("[Error] Could not find prompt file for '" ++ target ++ "' (checked: "
      ++ String.intercalate ", " checked ++ ")")

/-- The path of the directory in which a command runs. -/
def directoryFor (world : World) : Workplace → Option String
  | .default => none
  | .named path => some path
  | .ofSource source => (world.tree.directoryOf? [] (.ofText source)).map fun place =>
      String.intercalate "/" (world.base :: place)

/-- Runs a command, or only says so in a dry run. -/
def runCommand (request : CommandRequest) (stage : Stage) : CommandReply × Stage :=
  if stage.dry then
    (.finished {}, stage.log ⟨.info, "[dry_run] would run: " ++ request.command⟩)
  else
    let world := stage.world
    let job : Job :=
      { command := request.command, env := Assoc.setAll world.env request.env
        directory := directoryFor world request.workplace, limit := stage.commandLimit }
    let (ending, tree) := job.run ⟨world.tree, [], world.base, world.now⟩
    let after := (job.lines ending).foldl (fun stage line => stage.log line)
      { stage with world := { world with tree } }
    ((Job.resultOf? ending).elim .cancelled .finished, after)

/-- Asks the scripted model. -/
def askModel (request : ModelRequest) (stage : Stage) : Option ModelReply × Stage :=
  let (reply, script) := (stage.model.getD {}).ask request
  (some reply, { stage with model := some script })

/-- The host of the chains of a request. -/
def host : Query.Host Stage where
  say := Stage.log
  clock _ := 0.0
  ask := askModel
  run := runCommand

/-- Saves the transcript of a chain. -/
def keepTranscript (archive : Archive) (report : Report) (session : Session) (stage : Stage) :
    Except Files.Refusal String × Stage :=
  let world := stage.world
  let (result, storage) := archive.save ⟨world.tree, [], world.clock⟩ report.unit session report
  (result, { stage with world := { world with tree := storage.tree, clock := storage.clock } })

/-- Prints what a chain put out, and how it failed. -/
def printReport (report : Report) : Work Unit := do
  report.outputs.forM say
  if !report.ok then
    let detail := report.error.elim "" fun problem => if problem == "" then "" else ": " ++ problem
    modify fun stage => stage.complain ("[" ++ report.unit ++ "] " ++ report.outcome.name ++ detail)

/-- The session that a unit goes on with. -/
def resumedSession (settings : Settings) (unit : String) : Work Session := do
  let transcript ← latestTranscript settings unit
  logAll [⟨.info, "[chain] resuming " ++ unit ++ " from " ++ transcript.timestamp ++ " ("
    ++ toString transcript.session.turns.length ++ " turn(s))"⟩]
  pure transcript.session

/-- Runs an engine's chains: one by name, or all eager ones. -/
def runChains (engine : Engine Stage) (request : RunRequest) (session : Option Session) :
    Work (List Report) := do
  let stage ← get
  match request.unit with
  | .nameless => throw (.nameless false)
  | .eager =>
    let (result, after) := engine.runEager request.user stage
    set after
    unlessRefused result
  | .named name =>
    let (result, after) := engine.runNamed name request.user session stage
    set after
    let (report, _) ← unlessRefused result
    pure [report]

/-- Runs units of files. -/
def runUnits (request : RunRequest) : Work Nat := do
  let sources ← request.files.mapM findSource
  let settings ← loadSettings request.config
  let archive ← if request.save then some <$> openArchive settings else pure none
  let given := if request.answers.isEmpty then none else some { answers := request.answers : Script }
  let (provider, lines) :=
    providerFor settings (← get).world.env (fun _ => false) request.dry given
  logAll lines
  let model := match provider with
    | some (.script script) => some script
    | _ => none
  modify fun stage =>
    { stage with
      model, dry := request.dry
      commandLimit := settings.commandTimeout.map TimeLimit.ofSeconds }
  let (lines, loaded) := load (← tree) [] false sources
  logAll lines
  match loaded with
  | .error error => raise error
  | .ok program =>
    logAll program.loadLines
    if request.unit = .eager && program.eagerUnits.isEmpty then
      refuse "Error: no eager units loaded; pass --unit NAME"
    let session ← if request.resume then
        match request.unit with
        | .eager => refuse "Error: --resume needs --unit NAME"
        | .nameless => do
          let _ ← openArchive settings
          throw (.nameless true)
        | .named unit => some <$> resumedSession settings unit
      else pure none
    let engine : Engine Stage :=
      ⟨host, ⟨program, model.isSome, settings.modelTimeout⟩, archive.map keepTranscript⟩
    let reports ← runChains engine request session
    reports.forM printReport
    pure ((reports.find? fun report => !report.ok).elim 0 Report.exitCode)

/-! ### Other tasks -/

/-- Checks files. -/
def checkFiles (files : List String) (graph : Bool) : Work Nat := do
  let sources := files.map fun file => SourceInput.file (.ofText file)
  let (lines, loaded) := load (← tree) [] false sources
  logAll lines
  match loaded with
  | .error error => raise error
  | .ok program =>
    program.graph.forM fun calls => do
      if graph then sayLine (Json.pretty { asciiOnly := true } calls.toRecord)
    program.loadErrors.forM fun fault => sayLine (fault.place ++ ": " ++ fault.message)
    program.graph.forM fun calls => calls.cycles.forM fun cycle =>
      sayLine ("warning: possible call cycle: " ++ CallGraph.cycleText cycle)
    if program.loadErrors.isEmpty then
      sayLine ("ok: " ++ toString program.units.length ++ " unit(s)")
      pure 0
    else pure errorCode

/-- Prints a transcript. -/
def printHistory (unit : String) (config : Option String) : Work Nat := do
  let settings ← loadSettings config
  let transcript ← latestTranscript settings unit
  sayLine ("# " ++ transcript.unit ++ " at " ++ transcript.timestamp ++ ": "
    ++ transcript.report.outcome.name)
  sayLine (transcript.session.transcript none true)
  pure 0

/-- Formats a file. -/
def formatFile (file : String) (write : Bool) : Work Nat := do
  let path := Files.Path.ofText file
  match SourceInput.units (← tree) [] (.file path) with
  | .error error => raise error
  | .ok units =>
    let text := formatUnits units
    if write then
      let world := (← get).world
      match world.tree.write [] path (Text.encode text) world.now with
      | .error issue => raise (.unreadable path.text issue)
      | .ok tree =>
        setTree tree
        sayLine ("formatted " ++ path.text)
    else say text
    pure 0

/-- The settings file that is written at first. -/
def newConfig : String := textOfLines
  ["\x7b", "    \"api_key_openai\": \"\",", "    \"api_key_anthropic\": \"\",",
    "    \"api_key_cohere\": \"\"", "\x7d"]

/-- Writes a settings file, unless there is one. -/
def writeConfig (given : Option String) : Work Nat := do
  let world := (← get).world
  let path := (givenPath given).getD (Settings.homePath world.home)
  match world.tree.locate [] path with
  | .error .nameTooLong => raise (.unreadable path.text .nameTooLong)
  | _ =>
    if world.tree.names [] path then sayLine ("Config already exists: " ++ path.text)
    else
      let parent := path.parent.text
      match world.tree.makeDirectories [] parent world.now with
      | .error refusal => raise (.unreadable parent refusal.issue)
      | .ok tree =>
        match tree.write [] path (Text.encode newConfig) world.now with
        | .error issue => raise (.unreadable path.text issue)
        | .ok tree =>
          setTree tree
          sayLine ("Wrote default config to " ++ path.text)
    pure 0

/-- Does what a task asks for; gives the exit code. -/
def carryOut : Task → Work Nat
  | .run request => runUnits request
  | .history unit config => printHistory unit config
  | .check files graph => checkFiles files graph
  | .format file write => formatFile file write
  | .initConfig path => writeConfig path

/-! ### Requests -/

/-- What a request leaves. -/
structure Performed where
  exit : Exit
  stdout : String
  stderr : String
  world : World

/-- Carries out a request. -/
def perform (arguments : List String) (world : World) : Performed :=
  match readArguments arguments with
  | .error (.help grammar) => ⟨.code 0, grammar.help, "", world⟩
  | .error (.refused grammar message) =>
    ⟨.code 2, "", grammar.usage ++ grammar.program ++ ": error: " ++ message ++ "\n", world⟩
  | .ok .help => ⟨.code 0, wholeGrammar.help, "", world⟩
  | .ok (.task task verbose quiet) =>
    let level := if verbose then Level.debug else if quiet then Level.warning else Level.info
    let (result, stage) := (carryOut task).run.run { world, level }
    let exit := match result with
      | .ok code => .code code
      | .error exit => exit
    ⟨exit, stage.stdout, stage.stderr, stage.world⟩

end PromptChain.CommandLine
