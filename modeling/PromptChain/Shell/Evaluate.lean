/-
**Running commands.**

`eval` runs a command, with one fuel for all that happens inside it; a shell that runs out of it never
ends. Each part of a pipeline, each subshell and each command in the background gets a state of its own.
-/

import PromptChain.Shell.Builtins
import PromptChain.Shell.Reader
import PromptChain.Shell.Lookup

namespace PromptChain.Shell

open Tools (putFile takeInput)

/-! ### Around commands -/

/-- Ends the shell after a command that must not fail. -/
def checkFailure : Run Unit := do
  let state ← get
  if state.has 'e' && !state.guarded && state.status != 0 then throw .leave

/-- Runs something whose status is looked at. -/
def guarding (act : Run Unit) : Run Unit := do
  let before ← get
  modify fun state => { state with guarded := true }
  ensuring act (modify fun state => { state with guarded := before.guarded })

/-- Runs the body of a loop; says whether the loop goes on. -/
def stepLoop (act : Run Unit) : Run Bool := do
  modify fun state => { state with loops := state.loops + 1 }
  let inner := ensuring act (modify fun state => { state with loops := state.loops - 1 })
  tryCatch (do inner; pure true) fun stop =>
    match stop with
    | .breakLoop (loops + 2) => throw (.breakLoop (loops + 1))
    | .breakLoop _ => do
      setStatus 0
      pure false
    | .continueLoop (loops + 2) => throw (.continueLoop (loops + 1))
    | .continueLoop _ => pure true
    | other => throw other

/-- Gathers what a part of a pipeline prints. One that prints without an end is ended by what reads it. -/
def capturePiped (act : Run Unit) : Run Raw :=
  capture (tryCatch act fun stop => do
    let state ← get
    let late := state.limit.any fun limit => decide (limit < state.elapsed)
    match stop with
    | .stuck => if late || (state.sinks.getLast?.getD []).isEmpty then throw .stuck else pure ()
    | other => throw other)

/-- Whether a command in the background holds an output: it does unless both lead elsewhere. -/
def holdsOutput : Command → Bool
  | .simple _ _ _ redirects | .redirected _ redirects =>
    !(redirects.any (·.descriptor == 1) && redirects.any (·.descriptor == 2))
  | _ => true

/-- What was added to the outputs that are gathered, each with its number. -/
def addedOutputs (before after : List Raw) : List (Nat × Raw) :=
  (before.zip after).zipIdx.filterMap fun ((old, new), index) =>
    if old.length < new.length then some (index, (new.take (new.length - old.length)).reverse) else none

/-- Runs something in the background: it takes no time of its own. What it prints comes at its end if it
takes longer than what comes next. -/
def inBackground (holds : Bool) (act : Run Unit) : Run Unit := do
  let before ← get
  let process := before.nextProcess
  set { before with nextProcess := process + 1 }
  tryCatch (withInput [] (isolated act)) fun stop =>
    match stop with
    | .stuck => modify fun state => { state with elapsed := Nat.pow 10 18 }
    | other => throw other
  modify fun state =>
    let later := before.elapsed < state.elapsed
    let delayed := (addedOutputs before.sinks state.sinks).map fun (sink, text) =>
      { process, time := state.elapsed, sink, text : Delayed }
    let child : Child := { process, ends := state.elapsed, status := state.status, holds }
    { state with
      children := (state.children.filter fun child => !child.awaited) ++ [child]
      lastProcess := some process
      sinks := if later then before.sinks else state.sinks
      pending := if later then state.pending ++ delayed else state.pending
      elapsed := before.elapsed, status := 0 }

/-- Runs the body of a function with arguments. -/
def callFunction (body : Run Unit) (arguments : List Raw) : Run Unit := do
  let before ← get
  modify fun state =>
    { state with arguments, locals := some [], loops := 0, optionIndex := 1, optionOffset := none }
  let restored (state : State) : State := (state.locals.getD []).foldl (fun state (name, old) =>
    let others := state.values.filter fun entry => entry.1 != name
    { state with values := (old.elim [] fun kept => [(name, kept)]) ++ others }) state
  ensuring (untilReturn body) (modify fun state =>
    { restored state with
      arguments := before.arguments, locals := before.locals, loops := before.loops
      optionIndex := before.optionIndex, optionOffset := before.optionOffset })

/-! ### Redirections -/

/-- The descriptor that a path names. -/
def deviceDescriptor? (path : Raw) : Option Nat :=
  match textOfRaw path with
  | "/dev/stdin" => some 0
  | "/dev/stdout" => some 1
  | "/dev/stderr" => some 2
  | _ =>
    if "/dev/fd/".toList.isPrefixOf path && (path.drop 8).all Char.isDigit then
      some (Arithmetic.ofDigits 10 (path.drop 8))
    else none

/-- Complains that a file cannot be made. -/
def cannotCreate (path : Raw) (reason : String) : Run (Option Target) := do
  failOwn 2 ("cannot create " ++ textOfRaw path ++ ": " ++ reason)
  pure none

/-- Makes or empties a file that is written to. -/
def openTarget (path : Raw) (kind : RedirectKind) : Run (Option Target) := do
  let state ← get
  if Condition.isDevice path then pure (some .nowhere)
  else if let some descriptor := deviceDescriptor? path then pure (some (state.targetOf descriptor))
  else if kind == .write && state.has 'C' && state.namesFile path then cannotCreate path "File exists"
  else
    let empties := kind == .write || kind == .overwrite
    let before := if empties then [] else (state.readFile path).toOption.getD []
    match putFile state path before, state.locate path with
    | .ok tree, .ok place => do
      set { state with tree }
      pure (some (.file place))
    | .error .isDirectory, _ => cannotCreate path "Is a directory"
    | .error .nameTooLong, _ => cannotCreate path "File name too long"
    | _, _ => cannotCreate path "Directory nonexistent"

/-- Does a redirection; says whether it could be done. -/
def redirect (run : Raw → Run Unit) (one : Redirect) : Run Bool := do
  let path ← expandText run one.target
  let state ← get
  let leads (target : Target) : Run Bool := do
    modify fun state => state.lead one.descriptor target
    pure true
  let leadsTo (stream : Stream) : Run Bool := do
    modify fun state => state.leadStream one.descriptor stream
    pure true
  let refuse (message : String) : Run Bool := do
    failOwn 2 message
    pure false
  match one.kind with
  | .write | .overwrite | .append => (← openTarget path one.kind).elim (pure false) leads
  | .read | .readWrite =>
    match deviceDescriptor? path, state.readFile path with
    | some descriptor, _ => leads (state.targetOf descriptor)
    | none, .ok text =>
      if one.kind == .readWrite && one.descriptor != 0 then
        (← openTarget path one.kind).elim (pure true) leads
      else leadsTo { text, fileSize := if Condition.isDevice path then none else some text.length }
    | none, .error .isDirectory => leadsTo {}
    | none, .error _ =>
      if one.kind == .readWrite then (← openTarget path one.kind).elim (pure false) fun _ => leadsTo {}
      else refuse ("cannot open " ++ textOfRaw path ++ ": No such file")
  | .here content expands => leadsTo { text := ← if expands then expandHere run content else pure content }
  | .copy =>
    if path == ['-'] then leads .closed
    else if !path.isEmpty && path.all Char.isDigit then
      match state.targetOf (Arithmetic.ofDigits 10 path) with
      | .closed => refuse (textOfRaw path ++ ": Bad file descriptor")
      | target => leads target
    else abortOwn "Syntax error: Bad fd number"

/-- Does redirections up to the first that fails. -/
def redirectAll (run : Raw → Run Unit) : List Redirect → Run Bool
  | [] => pure true
  | one :: rest => do
    if ← redirect run one then redirectAll run rest else pure false

/-- Runs something under redirections; if they cannot be done, a special command ends the shell. -/
def withRedirects (run : Raw → Run Unit) (redirects : List Redirect) (special : Bool) (act : Run Unit) :
    Run Unit := do
  let before ← get
  let ready ← redirectAll run redirects
  let changed := redirects.map (·.descriptor)
  ensuring (if ready then act else if special then throw .leave else pure ()) (modify fun state =>
    let isChanged (entry : Nat × Target) : Bool := changed.contains entry.1
    { state with
      targets := before.targets.filter isChanged ++ state.targets.filter fun entry => !isChanged entry })

/-! ### Assignments -/

/-- Makes assignments one after the other; gives their texts. -/
def assignAll (run : Raw → Run Unit) (exported : Bool) : List (Raw × Word) → Run (List Raw)
  | [] => pure []
  | (name, word) :: rest => do
    let value ← expandValue run word
    mayChange "" name
    modify fun state => if exported then (state.set name value).publish name else state.set name value
    let more ← assignAll run exported rest
    pure ((name ++ '=' :: value) :: more)

/-- Shows a command before it runs, if that is asked for. -/
def trace (run : Raw → Run Unit) (words : List Raw) : Run Unit := do
  let state ← get
  if state.has 'x' && !words.isEmpty then
    let start ← match readWhole .quoted ((state.value? "PS4").getD []) with
      | .ok word => expandText run word
      | .error _ => pure []
    complain (start ++ Text.joinWith [' '] words ++ ['\n'])

/-- Runs something with assignments that hold only for it. -/
def withAssigns (run : Raw → Run Unit) (assigns : List (Raw × Word)) (act : List Raw → Run Unit) : Run Unit := do
  let before ← get
  let texts ← assignAll run true assigns
  ensuring (act texts) (modify fun state =>
    let names := assigns.map Prod.fst
    let kept := before.values.filter fun entry => names.contains entry.1
    { state with
      values := kept ++ state.values.filter fun entry => !names.contains entry.1 })

/-- Does a word run a script? -/
def runsScript (word : Word) : Bool :=
  word.any fun part =>
    match part with
    | .output _ _ => true
    | _ => false

/-! ### Names of commands -/

/-- Complains about a command that cannot be run. -/
def notFound (name : Raw) (refused : Bool) : Run Unit :=
  if name.isEmpty then failOwn 127 ": Permission denied"
  else if refused then failOwn 126 (textOfRaw name ++ ": Permission denied")
  else failOwn 127 (textOfRaw name ++ ": not found")

/-- Says what the name of a command stands for, in a sentence or in short. -/
def describe (verbose : Bool) (name : Raw) : Run Unit := do
  let state ← get
  let text := textOfRaw name
  let told (kind : String) : Run Unit := say ((if verbose then rawOfText (text ++ kind) else name) ++ ['\n'])
  if reservedWords.contains text then told " is a shell keyword"
  else if let some meaning := state.aliases.lookup name then
    if verbose then say (text ++ " is an alias for " ++ meaning ++ ['\n'])
    else say ("alias " ++ aliasLine (name, meaning))
  else if isSpecial name then told " is a special shell builtin"
  else if (state.functions.lookup name).isSome then told " is a shell function"
  else if builtinNames.contains text then told " is a shell builtin"
  else
    match findCommand state name with
    | .tool _ path => say ((if verbose then rawOfText (text ++ " is ") else []) ++ path ++ ['\n'])
    | _ => do
      if verbose then say (text ++ ": not found\n")
      setStatus 127

/-! ### Shells inside shells -/

/-- The variables with which a shell starts. -/
def State.withDefaults (state : State) : State :=
  let defaults : List (String × String) :=
    [("IFS", " \t\n"), ("OPTIND", "1"), ("PPID", "1"), ("PS1", "# "), ("PS2", "> "), ("PS4", "+ ")]
  let paths := "/usr/local/sbin:/usr/local/bin:/usr/sbin:/usr/bin:/sbin:/bin"
  let others := state.values.filter fun entry =>
    ["IFS", "OPTIND", "PPID"].all (·.toList != entry.1)
  let added := (defaults ++ [("PATH", paths)]).filterMap fun (name, value) =>
    if (others.lookup name.toList).isSome then none
    else some (name.toList, ⟨some value.toList, name == "PATH"⟩)
  { state with values := others ++ added, optionIndex := 1, optionOffset := none }

/-- The state of a shell inside a shell: it sees only what commands see. -/
def innerState (state : State) (name : Raw) (arguments : List Raw) (switches : List Char) : State :=
  { state with
    name, arguments, functions := [], locals := none, loops := 0, line := 1, status := 0
    traps := state.traps.filter fun entry => entry.2.isEmpty
    switches, guarded := false, speaker := none, aliases := [], children := [], lastProcess := none
    frozen := [], values := state.values.filter fun entry => entry.2.exported }.withDefaults

/-- Runs a script as a whole shell does, with what is done at its end. -/
def asShell (run : Raw → Run Unit) (act : Run Unit) : Run Unit := do
  contained act
  let state ← get
  match state.traps.lookup 0 with
  | some script => do
    set { state with traps := state.traps.filter fun entry => entry.1 != 0 }
    contained (do run script; setStatus state.status)
  | none => pure ()

/-- Runs a shell inside a shell. A signal ends only the inner one. -/
def innerShell (run : Raw → Run Unit) (name : Raw) (arguments : List Raw) (switches : List Char) (script : Raw) :
    Run Unit :=
  isolated do
    modify fun state => innerState state name arguments switches
    tryCatch (asShell run (run script)) fun stop =>
      match stop with
      | .killed signal => do
        reportSignal signal
        setStatus (128 + signal)
      | other => throw other

/-- What a shell is asked for. -/
structure ShellRequest where
  switches : List Char := []
  /-- Whether the script is an argument. -/
  given : Bool := false
  operands : List Raw := []

/-- Reads the letters of an argument of a shell. -/
def readShellLetters (value : Bool) (request : ShellRequest) : Raw → Except String ShellRequest
  | [] => .ok request
  | 'c' :: rest => readShellLetters value { request with given := true } rest
  | letter :: rest =>
    if optionNames.any fun entry => entry.2 == some letter then
      let others := request.switches.filter (· != letter)
      readShellLetters value { request with switches := if value then letter :: others else others } rest
    else .error ("Illegal option " ++ (if value then "-" else "+") ++ String.ofList [letter])

/-- Reads the arguments of a shell. -/
def readShell : Nat → ShellRequest → List Raw → Except String ShellRequest
  | 0, request, arguments => .ok { request with operands := arguments }
  | fuel + 1, request, arguments =>
    match arguments with
    | ['-'] :: rest | ['-', '-'] :: rest => .ok { request with operands := rest }
    | ('-' :: letters) :: rest => do readShell fuel (← readShellLetters true request letters) rest
    | ('+' :: letters) :: rest => do readShell fuel (← readShellLetters false request letters) rest
    | _ => .ok { request with operands := arguments }

/-! ### Commands -/

mutual

/-- Runs a command. -/
def eval : Nat → Command → Run Unit
  | 0, _ => throw .stuck
  | fuel + 1, command => do
    let run := runScript fuel
    let command := if (← get).has 'n' then .nothing else command
    match command with
    | .nothing => pure ()
    | .simple line assigns words redirects =>
      modify fun state => { state with line }
      let fields ← expandWords run words
      match fields with
      | [] =>
        withRedirects run redirects false do
          trace run (← assignAll run false assigns)
          if !(words ++ assigns.map Prod.snd).any runsScript then setStatus 0
      | name :: arguments =>
        if name == "exec" && arguments.isEmpty then
          let ready ← redirectAll run redirects
          if !ready then throw .leave
          trace run [name]
          setStatus 0
        else
          withRedirects run redirects (isSpecial name)
            (if isSpecial name then do
              let texts ← assignAll run false assigns
              trace run (texts ++ fields)
              launch fuel true name arguments
            else withAssigns run assigns fun texts => do
              trace run (texts ++ fields)
              launch fuel true name arguments)
      checkFailure
    | .pipeline commands =>
      let state ← get
      evalPipe fuel state.elapsed commands
      checkFailure
    | .negated command =>
      guarding (eval fuel command)
      modify fun state => { state with status := if state.status == 0 then 1 else 0 }
    | .both first second =>
      guarding (eval fuel first)
      if (← get).status == 0 then eval fuel second
    | .either first second =>
      guarding (eval fuel first)
      if (← get).status != 0 then eval fuel second
    | .sequence first second => do
      eval fuel first
      eval fuel second
    | .background command => inBackground (holdsOutput command) (eval fuel command)
    | .subshell body =>
      isolated (do
        modify fun state =>
          { state with traps := state.traps.filter fun entry => entry.2.isEmpty, children := [] }
        asShell run (eval fuel body))
      checkFailure
    | .redirected body redirects => withRedirects run redirects false (eval fuel body)
    | .branch condition body otherwise =>
      guarding (eval fuel condition)
      if (← get).status == 0 then eval fuel body
      else
        setStatus 0
        eval fuel otherwise
    | .loop untilHolds condition body => evalLoop fuel 0 untilHolds condition body
    | .each name words body =>
      let fields ← match words with
        | some words => expandWords run words
        | none => do pure (← get).arguments
      setStatus 0
      evalEach fuel name fields body
    | .select subject arms =>
      let text ← expandText run subject
      evalArms fuel text arms
    | .define name body => modify fun state =>
        { state with
          status := 0
          functions := (name, body) :: state.functions.filter fun entry => entry.1 != name }

/-- Runs a loop; the status is that of the body's last run. -/
def evalLoop : Nat → Nat → Bool → Command → Command → Run Unit
  | 0, _, _, _, _ => throw .stuck
  | fuel + 1, last, untilHolds, condition, body => do
    guarding (eval fuel condition)
    if ((← get).status == 0) != untilHolds then
      if ← stepLoop (eval fuel body) then
        evalLoop fuel (← get).status untilHolds condition body
    else setStatus last

/-- Runs a loop over values. -/
def evalEach : Nat → Raw → List Raw → Command → Run Unit
  | 0, _, _, _ => throw .stuck
  | _ + 1, _, [], _ => pure ()
  | fuel + 1, name, value :: rest, body => do
    mayChange "" name
    modify fun state => state.set name value
    if ← stepLoop (eval fuel body) then evalEach fuel name rest body

/-- Runs the first arm with a pattern that matches. -/
def evalArms : Nat → Raw → List (List Word × Command) → Run Unit
  | 0, _, _ => throw .stuck
  | _ + 1, _, [] => setStatus 0
  | fuel + 1, text, (patterns, body) :: rest => do
    if ← anyMatches fuel text patterns then
      setStatus 0
      eval fuel body
    else evalArms fuel text rest

/-- Does one of the patterns match? -/
def anyMatches : Nat → Raw → List Word → Run Bool
  | 0, _, _ => throw .stuck
  | _ + 1, _, [] => pure false
  | fuel + 1, text, pattern :: rest => do
    let items ← expandItems (runScript fuel) pattern
    if itemsMatch items text then pure true else anyMatches fuel text rest

/-- Runs the commands of a pipeline: all start at the same time. -/
def evalPipe : Nat → Nat → List Command → Run Unit
  | 0, _, _ => throw .stuck
  | _ + 1, _, [] => pure ()
  | fuel + 1, _, [last] => isolated (eval fuel last)
  | fuel + 1, start, first :: rest => do
    let output ← capturePiped (eval fuel first)
    let ended := (← get).elapsed
    modify fun state => { state with elapsed := start }
    withInput output (evalPipe fuel start rest)
    modify fun state => { state with elapsed := max state.elapsed ended }

/-- Runs what a name stands for; functions and builtin commands only if asked for. -/
def launch : Nat → Bool → Raw → List Raw → Run Unit
  | 0, _, _, _ => throw .stuck
  | fuel + 1, functions, name, arguments => do
    let state ← get
    match (if functions then state.functions.lookup name else none) with
    | some body => callFunction (eval fuel body) arguments
    | none =>
      let run := runScript fuel
      match builtin? run (textOfRaw name) arguments with
      | some act => act
      | none =>
        match textOfRaw name with
        | "exec" => do
          let name := arguments.head?.getD []
          match findCommand state name with
          | .tool _ _ => launchFile fuel name (arguments.drop 1)
          | .refused => failWith 126 ("exec: " ++ textOfRaw name ++ ": Permission denied")
          | .missing => failWith 127 ("exec: " ++ textOfRaw name ++ ": not found")
          throw .leave
        | "command" =>
          withSwitches "command" "pvV" false arguments fun switches operands =>
            match operands with
            | [] => setStatus 0
            | name :: rest =>
              if switches.has 'v' || switches.has 'V' then do
                setStatus 0
                describe (switches.has 'V') name
              else launch fuel false name rest
        | "type" => do
          setStatus 0
          arguments.forM (describe true)
        | _ => launchFile fuel name arguments

/-- Runs a tool. -/
def launchFile : Nat → Raw → List Raw → Run Unit
  | 0, _, _ => throw .stuck
  | fuel + 1, name, arguments => do
    let state ← get
    match findCommand state name with
    | .missing => notFound name false
    | .refused => notFound name true
    | .tool tool _ =>
      setStatus 0
      match utility? tool arguments with
      | some act => act
      | none =>
        match tool with
        | "sh" | "dash" => launchShell fuel name arguments
        | _ => (builtin? (runScript fuel) tool arguments).getD (pure ())

/-- Runs a shell of its own: for a script that is given, for a file, or for the input. -/
def launchShell : Nat → Raw → List Raw → Run Unit
  | 0, _, _ => throw .stuck
  | fuel + 1, name, arguments => do
    let run := runScript fuel
    let refuse (message : String) : Run Unit := do
      complain (name ++ rawOfText (": 0: " ++ message ++ "\n"))
      setStatus 2
    match readShell (arguments.length + 1) {} arguments with
    | .error problem => refuse problem
    | .ok request =>
      if request.given then
        match request.operands with
        | [] => refuse "-c requires an argument"
        | script :: rest => innerShell run (rest.head?.getD name) (rest.drop 1) request.switches script
      else
        match request.operands with
        | [] => do
          let script ← takeInput
          innerShell run name [] request.switches script
        | file :: rest =>
          if request.switches.contains 's' then do
            let script ← takeInput
            innerShell run name request.operands request.switches script
          else
            match (← get).readFile file with
            | .ok script => innerShell run file rest request.switches script
            | .error .isDirectory => setStatus 0
            | .error _ => refuse ("cannot open " ++ textOfRaw file ++ ": No such file")

/-- Runs a script. -/
def runScript : Nat → Raw → Run Unit
  | 0, _ => throw .stuck
  | fuel + 1, script => do
    let tokens := tokens script
    if tokens.all fun entry => entry.1 == .newline || entry.1 == .finish then setStatus 0
    else runTokens fuel tokens

/-- Runs the lines that tokens make; a problem ends the shell where it stands. -/
def runTokens : Nat → Tokens → Run Unit
  | 0, _ => throw .stuck
  | fuel + 1, tokens => do
    match readNext (← get).aliases tokens with
    | .error problem => do
      modify fun state => { state with line := problem.line }
      abortOwn problem.message
    | .ok none => pure ()
    | .ok (some (command, rest)) => do
      eval fuel command
      runTokens fuel rest

end

end PromptChain.Shell
