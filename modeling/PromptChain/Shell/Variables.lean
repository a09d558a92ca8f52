/-
**Variables, arguments and options of the shell.**

The commands here change what the shell knows: its variables, its arguments, its options, its aliases. A wrong
name or a wrong option ends the shell, as these commands are special ones.
-/

import PromptChain.Shell.Expansion
import PromptChain.Shell.Switches

namespace PromptChain.Shell

/-! ### Names and values -/

/-- An argument as a name and perhaps a value. -/
def splitArgument (argument : Raw) : Raw × Option Raw :=
  let name := argument.takeWhile (· != '=')
  (name, if name.length < argument.length then some (argument.drop (name.length + 1)) else none)

/-- Does something with names that may have values; a text that is no name ends the shell. -/
def eachName (tool : String) (act : Raw → Option Raw → Run Unit) : List Raw → Run Unit
  | [] => pure ()
  | argument :: rest => do
    let (name, value) := splitArgument argument
    if !isName name then abort (tool ++ ": " ++ textOfRaw name ++ ": bad variable name")
    if value.isSome then mayChange (tool ++ ": ") name
    act name value
    eachName tool act rest

/-- Variables in the order of their names, each as a line behind a word. -/
def listVariables (word : String) (chosen : List (Raw × Variable)) : Raw :=
  let sorted := chosen.mergeSort fun first second => lineBefore first.1 second.1
  sorted.flatMap fun (name, entry) =>
    word.toList ++ name ++ (entry.value.elim [] fun value => '=' :: singleQuoted value) ++ ['\n']

/-- The command `export`. -/
def runExport (arguments : List Raw) : Run Unit :=
  withSwitches "export" "p" true arguments fun switches operands => do
    if operands.isEmpty || switches.has 'p' then
      say (listVariables "export " ((← get).values.filter fun entry => entry.2.exported))
    else
      eachName "export" (fun name value => modify fun state =>
        (value.elim state (state.set name)).publish name) operands

/-- Makes variables keep their values for good, or lists those that do. -/
def runReadonly (arguments : List Raw) : Run Unit :=
  withSwitches "readonly" "p" true arguments fun switches operands => do
    if operands.isEmpty || switches.has 'p' then
      let state ← get
      let entries := state.frozen.map fun name => (name, (state.values.lookup name).getD ⟨none, false⟩)
      say (listVariables "readonly " entries)
    else
      eachName "readonly" (fun name value => modify fun state =>
        let changed := value.elim state (state.set name)
        if changed.frozen.contains name then changed
        else { changed with frozen := name :: changed.frozen }) operands

/-- The command `local`. -/
def runLocal (arguments : List Raw) : Run Unit := do
  if (← get).locals.isNone then abort "local: not in a function"
  eachName "local" (fun name value => modify fun state =>
    let before := state.values.lookup name
    let kept := { state with locals := state.locals.map fun others => (name, before) :: others }
    value.elim kept (kept.set name)) arguments

/-- The command `unset`. -/
def runUnset (arguments : List Raw) : Run Unit :=
  withSwitches "unset" "vf" true arguments fun switches operands =>
    operands.forM fun name =>
      if switches.has 'f' then modify fun state =>
        { state with functions := state.functions.filter fun entry => entry.1 != name }
      else if !isName name then abort ("unset: " ++ textOfRaw name ++ ": bad variable name")
      else do
        mayChange "unset: " name
        modify fun state => state.unset name

/-! ### Options -/

/-- The options with their letters. -/
def optionNames : List (String × Option Char) :=
  [("errexit", some 'e'), ("noglob", some 'f'), ("ignoreeof", some 'I'), ("interactive", some 'i'),
    ("monitor", some 'm'), ("noexec", some 'n'), ("stdin", some 's'), ("xtrace", some 'x'),
    ("verbose", some 'v'), ("vi", some 'V'), ("emacs", some 'E'), ("noclobber", some 'C'),
    ("allexport", some 'a'), ("notify", some 'b'), ("nounset", some 'u'), ("privileged", some 'p'),
    ("nolog", none), ("debug", none)]

/-- Turns an option on or off. -/
def State.turn (state : State) (value : Bool) (letter : Char) : State :=
  let others := state.switches.filter (· != letter)
  { state with switches := if value then letter :: others else others }

/-- Turns options on or off by their letters; an unknown one ends the shell with a complaint that starts as
given. -/
def setOptions (start : String) (value : Bool) (letters : Raw) : Run Unit :=
  letters.forM fun letter =>
    if optionNames.any fun entry => entry.2 == some letter then modify fun state => state.turn value letter
    else abort (start ++ "Illegal option " ++ (if value then "-" else "+") ++ String.ofList [letter])

/-- Turns an option on or off by its name. -/
def setNamed (start : String) (value : Bool) (name : String) : Run Unit :=
  match optionNames.lookup name with
  | some (some letter) => modify fun state => state.turn value letter
  | some none => pure ()
  | none => abort (start ++ "Illegal option " ++ (if value then "-o " else "+o ") ++ name)

/-- Sets the arguments of the shell; options are then taken from the first one on. -/
def State.withArguments (state : State) (arguments : List Raw) : State :=
  { state with arguments, optionIndex := 1, optionOffset := none }

/-- Sets options and arguments. -/
def setAll : List Raw → Run Unit
  | [] => pure ()
  | argument :: rest =>
    match argument with
    | ['-', '-'] => modify fun state => state.withArguments rest
    | ['-'] => modify fun state =>
        let plain := (state.turn false 'x').turn false 'v'
        if rest.isEmpty then plain else plain.withArguments rest
    | '-' :: 'o' :: [] | '+' :: 'o' :: [] =>
      let value := argument.head? == some '-'
      match rest with
      | [] => pure ()
      | name :: rest => do
        setNamed "set: " value (textOfRaw name)
        setAll rest
    | '-' :: letters => do setOptions "set: " true letters; setAll rest
    | '+' :: letters => do setOptions "set: " false letters; setAll rest
    | _ => modify fun state => state.withArguments (argument :: rest)

/-- The command `set`. -/
def runSet (arguments : List Raw) : Run Unit := do
  if arguments.isEmpty then
    say (listVariables "" ((← get).values.filter fun entry => entry.2.value.isSome))
  else setAll arguments

/-- The number of an argument, or another if there is none. -/
def numberOr {α : Type} (tool : String) (otherwise : Nat) (next : Nat → Run α) : List Raw → Run α
  | [] => next otherwise
  | argument :: _ =>
    if !argument.isEmpty && argument.all Char.isDigit then next (Arithmetic.ofDigits 10 argument)
    else abort (tool ++ ": Illegal number: " ++ textOfRaw argument)

/-- The command `shift`. -/
def runShift (arguments : List Raw) : Run Unit := do
  let state ← get
  numberOr "shift" 1 (fun number =>
    if state.arguments.length < number then abort "shift: can't shift that many"
    else set (state.withArguments (state.arguments.drop number))) arguments

/-! ### Options of scripts -/

/-- Where the next option is looked for: an argument's index, and what is left of the one before it. -/
structure OptionPlace where
  index : Nat
  left : Raw

/-- What was found: the letter, its value, a complaint, and whether there are no more options. -/
structure OptionFound where
  letter : Char := '?'
  /-- The value; none if there is none, which drops the old one. -/
  value : Option Raw := none
  /-- Whether the old value stays. -/
  keeps : Bool := false
  complaint : Raw := []
  finished : Bool := false

/-- Takes the next option of arguments. In the specification a colon stands behind a letter with a value; one
at its start makes wrong options known by a letter. -/
def takeOption (spec : Raw) (arguments : List Raw) (place : OptionPlace) : OptionFound × OptionPlace :=
  let argument := (arguments[place.index - 1]?).getD []
  let noOption := match argument with
    | '-' :: _ :: _ => false
    | _ => true
  if place.left.isEmpty && noOption then ({ keeps := true, finished := true }, { place with left := [] })
  else if place.left.isEmpty && argument == "--" then
    ({ keeps := true, finished := true }, ⟨place.index + 1, []⟩)
  else
    let (text, index) :=
      if place.left.isEmpty then (argument.drop 1, place.index + 1) else (place.left, place.index)
    let quiet := spec.head? == some ':'
    match text with
    | [] => ({ keeps := true, finished := true }, ⟨index, []⟩)
    | letter :: left =>
      let complains (lacksValue : Bool) : OptionFound :=
        if !quiet then { complaint := switchComplaint lacksValue letter ++ ['\n'] }
        else { letter := if lacksValue then ':' else '?', value := some [letter] }
      match valued? spec letter, left, arguments[index - 1]? with
      | none, _, _ => (complains false, ⟨index, left⟩)
      | some false, _, _ => ({ letter, value := some [] }, ⟨index, left⟩)
      | some true, _ :: _, _ => ({ letter, value := some left }, ⟨index, []⟩)
      | some true, [], some value => ({ letter, value := some value }, ⟨index + 1, []⟩)
      | some true, [], none => (complains true, ⟨index, []⟩)

/-- Takes the next option of the shell's arguments, or of those that are given. -/
def runGetopts (arguments : List Raw) : Run Unit := do
  match arguments with
  | spec :: name :: given => do
    let state ← get
    let own := if given.isEmpty then state.arguments else given
    let fresh := own.length + 1 < state.optionIndex
    let index := if fresh then 1 else max state.optionIndex 1
    let before := (own[index - 2]?).getD []
    let left := if fresh || index ≤ 1 then [] else state.optionOffset.elim [] before.drop
    if !isName name then failWith 2 ("getopts: " ++ textOfRaw name ++ ": bad variable name")
    else
      let (found, place) := takeOption spec own ⟨index, left⟩
      complain found.complaint
      modify fun state =>
        let state := if found.keeps then state
          else found.value.elim (state.unset "OPTARG") (state.set "OPTARG")
        let state := (state.set "OPTIND" (toString place.index).toList).set name [found.letter]
        let used := ((own[place.index - 2]?).getD []).length - place.left.length
        { state with
          optionIndex := place.index
          optionOffset := if place.left.isEmpty then none else some used }
      setStatus (if found.finished then 1 else 0)
  | _ => failWith 2 "getopts: Usage: getopts optstring var [arg...]"

/-! ### Aliases -/

/-- An alias as a script would set it. -/
def aliasLine (entry : Raw × Raw) : Raw := entry.1 ++ '=' :: singleQuoted entry.2 ++ ['\n']

/-- The command `alias`. -/
def runAlias (arguments : List Raw) : Run Unit := do
  if arguments.isEmpty then
    let sorted := (← get).aliases.mergeSort fun first second => State.groupOf first.1 ≤ State.groupOf second.1
    say (sorted.flatMap aliasLine)
  else
    arguments.forM fun argument => do
      let state ← get
      match splitArgument argument with
      | (name, some text) =>
        let isKnown := state.aliases.any fun entry => entry.1 == name
        set { state with aliases :=
          if isKnown then
            state.aliases.map fun (entry : Raw × Raw) => if entry.1 == name then (name, text) else entry
          else state.aliases ++ [(name, text)] }
      | (name, none) =>
        match state.aliases.lookup name with
        | some text => say (aliasLine (name, text))
        | none => do
          complain ("alias: " ++ textOfRaw name ++ " not found\n")
          setStatus 1

/-- The command `unalias`. -/
def runUnalias (arguments : List Raw) : Run Unit :=
  withSwitches "unalias" "a" false arguments fun switches operands =>
    if switches.has 'a' then modify fun state => { state with aliases := [] }
    else operands.forM fun name => do
      let state ← get
      if state.aliases.any fun entry => entry.1 == name then
        set { state with aliases := state.aliases.filter fun entry => entry.1 != name }
      else
        complain ("unalias: " ++ textOfRaw name ++ " not found\n")
        setStatus 1

end PromptChain.Shell
