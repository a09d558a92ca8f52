/-
**What happens when a template becomes a direction.**

Commands are run by a runner that answers by the command, the environment and the directory
(`Query.Host.RunsBy`). A report makes a note in the chain (`Notes`): a warning (`notes_warn`) or nothing
(`notes_nothing`). With such a host an act does the same out of every state of the host (`Act.Does`), and what
a bind does is put together from its two acts (`Act.Does.bind`, `Act.Does.bind_stop`).

* `does_runSegments`: the commands of segments run up to the first with an unbound variable.
* `does_resolve`: then the plain parts are filled; of all references, those of the commands count first.
* `resolve_runs_then_inserts`: what runs, what is noted and what comes out, for each way it can end.
-/

import PromptChain.Chain.Direction
import PromptChain.Proofs.Interpolation
import PromptChain.Proofs.Runs

namespace PromptChain

/-! ### Acts with a runner -/

/-- What a command leaves behind in an environment and a directory. -/
abbrev Runner := String → Bindings → Workplace → CommandResult

/-- A host whose commands are run by a runner. -/
def Query.Host.RunsBy {σ : Type} (host : Query.Host σ) (runner : Runner) : Prop :=
  ∀ request state,
    (host.run request state).1 = .finished (runner request.command request.env request.workplace)

/-- Out of every state of a host, an act makes these requests and ends with this result. -/
def Act.Does {σ α : Type} (host : Query.Host σ) (act : Act α) (before : Running) (asked : List Event)
    (after : Running) (result : Except Stop α) : Prop :=
  ∀ state, requests ((act before).trace host state) = asked
    ∧ ((act before).perform host state).1 = (after, result)

/-- A report makes a note in the chain and asks for nothing. -/
def Notes (report : Fault → Act Unit) (note : Chain → Fault → Chain) : Prop :=
  ∀ (σ : Type) (host : Query.Host σ) (fault : Fault) (running : Running),
    (report fault).Does host running [] { running with chain := note running.chain fault } (.ok ())

theorem notes_warn : Notes Act.warn Chain.warn := fun _ _ _ _ _ => ⟨rfl, rfl⟩

theorem notes_nothing : Notes (fun _ => pure ()) (fun chain _ => chain) := fun _ _ _ _ _ => ⟨rfl, rfl⟩

namespace Act

variable {σ α β : Type} {host : Query.Host σ} {before middle after : Running} {early late : List Event}
  {result : Except Stop α} {act : Act α}

theorem does_pure (value : α) : (Pure.pure value : Act α).Does host before [] before (.ok value) :=
  fun _ => ⟨rfl, rfl⟩

theorem does_running : running.Does host before [] before (.ok before) := fun _ => ⟨rfl, rfl⟩

theorem does_ofExcept {given : Except Fault α} (isResult : given.mapError .fault = result) :
    (ofExcept given).Does host before [] before result := by
  subst isResult
  cases given <;> exact fun _ => ⟨rfl, rfl⟩

/-- A command asks for one run, and gives what the runner leaves behind. -/
theorem does_run {runner : Runner} (runsBy : host.RunsBy runner) (request : CommandRequest) :
    let result := runner request.command request.env request.workplace
    (run request).Does host before [.ran request (.finished result)] before (.ok result) := by
  intro result state
  have isReply := runsBy request state
  constructor
  · rw [run, Query.trace, isReply]
    rfl
  · rw [run, Query.perform, isReply]
    rfl

theorem bind_apply (act : Act α) (next : α → Act β) (before : Running) :
    (act >>= next) before = (act before).bind fun ended =>
      match ended.2 with
      | .ok value => next value ended.1
      | .error reason => .done (ended.1, .error reason) := rfl

/-- The requests of two acts, one after the other. -/
theorem Does.bind {next : α → Act β} {value : α} {result : Except Stop β}
    (first : act.Does host before early middle (.ok value))
    (second : (next value).Does host middle late after result) :
    (act >>= next).Does host before (early ++ late) after result := by
  intro state
  obtain ⟨isEarly, isMiddle⟩ := first state
  obtain ⟨isLate, isAfter⟩ := second ((act before).perform host state).2
  constructor
  · rw [bind_apply, Query.trace_bind, isMiddle, requests_append,
      isEarly, isLate]
  · rw [bind_apply, Query.perform_bind, isMiddle]
    exact isAfter

/-- An act that stops keeps the next from asking for anything. -/
theorem Does.bind_stop {next : α → Act β} {reason : Stop}
    (first : act.Does host before early after (.error reason)) :
    (act >>= next).Does host before early after (.error reason) := by
  intro state
  obtain ⟨isEarly, isAfter⟩ := first state
  constructor
  · rw [bind_apply, Query.trace_bind, isAfter, requests_append,
      isEarly]
    exact List.append_nil early
  · rw [bind_apply, Query.perform_bind, isAfter]
    rfl

theorem Does.map (first : act.Does host before early after result) (change : α → β) :
    (act >>= fun value => Pure.pure (change value)).Does host before early after (result.map change) := by
  cases result with
  | ok value =>
    have whole : (act >>= fun value => Pure.pure (change value)).Does host before (early ++ []) after
        (.ok (change value)) := first.bind (does_pure (change value))
    rwa [List.append_nil] at whole
  | error reason => exact first.bind_stop

end Act

/-! ### Commands and texts of a template -/

/-- The command of a segment, if it has one. -/
def Segment.command? : Segment → Option String
  | .text _ => none
  | .shell command => some command

/-- The text of a plain segment. -/
def Segment.plain? : Segment → Option String
  | .text plain => some plain
  | .shell _ => none

/-- The commands of segments, in order. -/
def commandsOf (segments : List Segment) : List String := segments.filterMap Segment.command?

/-- The plain parts of segments, in order. -/
def plainsOf (segments : List Segment) : List String := segments.filterMap Segment.plain?

/-- The first unbound variable of texts. -/
def firstUnbound? (bindings : Bindings) (texts : List String) : Option String :=
  (texts.flatMap references).find? (isUnbound bindings)

theorem find?_references (bindings : Bindings) (text : String) :
    (references text).find? (isUnbound bindings) = firstUnbound? bindings [text] := by
  rw [firstUnbound?, List.flatMap_singleton]

variable {bindings : Bindings}

/-- With every variable bound, the values are inserted. -/
theorem interpolate_of_bound {text : String} (bound : firstUnbound? bindings [text] = none)
    (unit : Option String) : interpolate bindings unit text = .ok (inserted bindings text) := by
  rw [interpolate_eq, unlessUnbound, find?_references, bound]

/-- The first unbound variable is the fault. -/
theorem interpolate_of_unbound {text name : String}
    (unbound : firstUnbound? bindings [text] = some name) (unit : Option String) :
    interpolate bindings unit text = .error (.unresolvedVariable name unit) := by
  rw [interpolate_eq, unlessUnbound, find?_references, unbound]

/-- Whether every variable of a text is bound. -/
def isReady (bindings : Bindings) (text : String) : Bool := (firstUnbound? bindings [text]).isNone

/-- The commands that run: those before the first with an unbound variable. -/
def readyCommands (bindings : Bindings) (segments : List Segment) : List String :=
  (commandsOf segments).takeWhile (isReady bindings)

/-- The request for a command of a template. -/
def directionRequest (bindings : Bindings) (workplace : Workplace) (command : String) : CommandRequest :=
  ⟨.direction, inserted bindings command, exportEnv bindings, workplace⟩

section Resolving

variable (runner : Runner) (bindings : Bindings) (workplace : Workplace)

/-- What a command of a template leaves behind. -/
def resultOf (command : String) : CommandResult :=
  runner (inserted bindings command) (exportEnv bindings) workplace

/-- A command of a template is run. -/
def ranCommand (command : String) : Event :=
  .ran (directionRequest bindings workplace command) (.finished (resultOf runner bindings workplace command))

/-- What is reported of a command. -/
def failure? (command : String) : Option Fault :=
  let result := resultOf runner bindings workplace command
  if result.ok then none else some (.commandFailed (inserted bindings command) (some result))

/-- A segment whose command has run. -/
def Segment.part : Segment → FilledPart
  | .text plain => .text plain
  | .shell command => .output (trimOutput (resultOf runner bindings workplace command).stdout)

/-- What a segment adds to the direction. -/
def Segment.filled : Segment → String
  | .text plain => inserted bindings plain
  | .shell command => trimOutput (resultOf runner bindings workplace command).stdout

end Resolving

section Resolved

variable {σ : Type} {host : Query.Host σ} {runner : Runner} {report : Fault → Act Unit}
  {note : Chain → Fault → Chain}

/-- The state after some commands of a template have run: their failures are noted, in order. -/
def afterCommands (runner : Runner) (note : Chain → Fault → Chain) (workplace : Workplace)
    (commands : List String) (running : Running) : Running :=
  { running with
    chain := (commands.filterMap (failure? runner running.session.bindings workplace)).foldl note
      running.chain }

/-- A command that fails is noted; one that succeeds leaves the chain as it was. -/
theorem does_reportFailure (notes : Notes report note) (workplace : Workplace) (command : String)
    (before : Running) :
    (reportFailure report (inserted before.session.bindings command)
        (resultOf runner before.session.bindings workplace command)).Does host before []
      (afterCommands runner note workplace [command] before) (.ok ()) := by
  rw [reportFailure]
  cases isOk : (resultOf runner before.session.bindings workplace command).ok
  · have isAfter : afterCommands runner note workplace [command] before = { before with
        chain := note before.chain (.commandFailed (inserted before.session.bindings command)
          (some (resultOf runner before.session.bindings workplace command))) } := by
      simp [afterCommands, failure?, isOk]
    rw [isAfter]
    exact notes σ host _ before
  · have isAfter : afterCommands runner note workplace [command] before = before := by
      simp [afterCommands, failure?, isOk]
    rw [isAfter]
    exact Act.does_pure ()

/-- Failures are noted command by command. -/
theorem afterCommands_append (workplace : Workplace) (commands more : List String) (before : Running) :
    afterCommands runner note workplace (commands ++ more) before
      = afterCommands runner note workplace more (afterCommands runner note workplace commands before) := by
  rw [afterCommands, List.filterMap_append, List.foldl_append]
  rfl

/-- What is made of a result does not change which variable is unbound. -/
theorem map_unlessUnbound {α β : Type} (bindings : Bindings) (unit : Option String) (names : List String)
    (made : α) (change : α → β) :
    ((unlessUnbound bindings unit names made).mapError Stop.fault).map change
      = (unlessUnbound bindings unit names (change made)).mapError Stop.fault := by
  rw [unlessUnbound, unlessUnbound]
  cases names.find? (isUnbound bindings) <;> rfl

theorem runSegments_shell (unit : Option String) (workplace : Workplace) (command : String)
    (rest : List Segment) :
    runSegments report unit workplace (.shell command :: rest) = Act.running >>= fun running =>
      Act.ofExcept (interpolate running.session.bindings unit command) >>= fun command =>
      Act.run ⟨.direction, command, exportEnv running.session.bindings, workplace⟩ >>= fun result =>
      reportFailure report command result >>= fun _ =>
      runSegments report unit workplace rest >>= fun parts =>
      pure (.output (trimOutput result.stdout) :: parts) := rfl

/-- **Commands run in order, up to the first with an unbound variable.** -/
theorem does_runSegments (runsBy : host.RunsBy runner) (notes : Notes report note) (unit : Option String)
    (workplace : Workplace) (segments : List Segment) (before : Running) :
    (runSegments report unit workplace segments).Does host before
      ((readyCommands before.session.bindings segments).map
        (ranCommand runner before.session.bindings workplace))
      (afterCommands runner note workplace (readyCommands before.session.bindings segments) before)
      ((unlessUnbound before.session.bindings unit ((commandsOf segments).flatMap references)
        (segments.map (Segment.part runner before.session.bindings workplace))).mapError .fault) := by
  induction segments generalizing before with
  | nil => exact Act.does_pure []
  | cons segment rest ih =>
    cases segment with
    | text plain =>
      have mapped := (ih before).map (FilledPart.text plain :: ·)
      rwa [map_unlessUnbound] at mapped
    | shell command =>
      let bindings := before.session.bindings
      have isCommands : commandsOf (.shell command :: rest) = command :: commandsOf rest := rfl
      rw [runSegments_shell, isCommands, List.flatMap_cons, unlessUnbound, List.find?_append,
        find?_references]
      cases found : firstUnbound? bindings [command] with
      | none =>
        have areReady : readyCommands bindings (.shell command :: rest)
            = [command] ++ readyCommands bindings rest := by
          rw [readyCommands, isCommands, List.takeWhile_cons_of_pos (by simp [isReady, found])]
          rfl
        have isGiven : (interpolate bindings unit command).mapError Stop.fault
            = .ok (inserted bindings command) := by
          rw [interpolate_of_bound found]
          rfl
        have onward := (ih (afterCommands runner note workplace [command] before)).map
          (FilledPart.output (trimOutput (resultOf runner bindings workplace command).stdout) :: ·)
        rw [map_unlessUnbound] at onward
        rw [areReady, afterCommands_append, List.map_append, Option.none_or]
        exact Act.does_running.bind ((Act.does_ofExcept isGiven).bind ((Act.does_run runsBy _).bind
          ((does_reportFailure notes workplace command before).bind onward)))
      | some name =>
        have noneReady : readyCommands bindings (.shell command :: rest) = [] := by
          rw [readyCommands, isCommands, List.takeWhile_cons_of_neg (by simp [isReady, found])]
        have isGiven : (interpolate bindings unit command).mapError Stop.fault
            = .error (.fault (.unresolvedVariable name unit)) := by
          rw [interpolate_of_unbound found]
          rfl
        rw [noneReady, Option.some_or]
        exact Act.does_running.bind (Act.does_ofExcept isGiven).bind_stop

/-- Outputs stay as they are; only plain parts have variables to insert. -/
theorem fillParts_eq (bindings : Bindings) (unit : Option String) (workplace : Workplace)
    (segments : List Segment) :
    fillParts bindings unit (segments.map (Segment.part runner bindings workplace))
      = unlessUnbound bindings unit ((plainsOf segments).flatMap references)
          (String.join (segments.map (Segment.filled runner bindings workplace))) := by
  induction segments with
  | nil => rfl
  | cons segment rest ih =>
    rw [List.map_cons, List.map_cons, String.join_cons]
    cases segment with
    | shell command =>
      have isPlains : plainsOf (.shell command :: rest) = plainsOf rest := rfl
      rw [Segment.part, fillParts, ih, isPlains, unlessUnbound, unlessUnbound]
      cases ((plainsOf rest).flatMap references).find? (isUnbound bindings) <;> rfl
    | text plain =>
      have isPlains : plainsOf (.text plain :: rest) = plain :: plainsOf rest := rfl
      rw [Segment.part, fillParts, interpolate_eq, ih, isPlains, List.flatMap_cons, unlessUnbound,
        unlessUnbound, unlessUnbound, List.find?_append]
      cases (references plain).find? (isUnbound bindings) with
      | some name => rfl
      | none => cases ((plainsOf rest).flatMap references).find? (isUnbound bindings) <;> rfl

/-- **Commands run first, then plain parts are filled.** -/
theorem does_resolve (runsBy : host.RunsBy runner) (notes : Notes report note) (unit : Option String)
    (workplace : Workplace) (template : Template) (before : Running) :
    (resolve report unit workplace template).Does host before
      ((readyCommands before.session.bindings template.segments).map
        (ranCommand runner before.session.bindings workplace))
      (afterCommands runner note workplace (readyCommands before.session.bindings template.segments) before)
      ((unlessUnbound before.session.bindings unit
        ((commandsOf template.segments ++ plainsOf template.segments).flatMap references)
        (String.join (template.segments.map
          (Segment.filled runner before.session.bindings workplace)))).mapError .fault) := by
  have first := does_runSegments runsBy notes unit workplace template.segments before
  rw [List.flatMap_append, unlessUnbound, List.find?_append]
  rw [unlessUnbound] at first
  cases found : ((commandsOf template.segments).flatMap references).find?
      (isUnbound before.session.bindings) with
  | some name =>
    rw [found] at first
    exact first.bind_stop
  | none =>
    rw [found] at first
    rw [← List.append_nil (List.map _ (readyCommands _ _)), Option.none_or]
    refine first.bind (Act.does_running.bind (Act.does_ofExcept ?_))
    exact congrArg (Except.mapError Stop.fault)
      (fillParts_eq before.session.bindings unit workplace template.segments)

end Resolved

/-! ### How a template can end -/

/-- Of two lists of texts, the first decides. -/
theorem firstUnbound?_append (bindings : Bindings) (texts more : List String) :
    firstUnbound? bindings (texts ++ more)
      = (firstUnbound? bindings texts).or (firstUnbound? bindings more) := by
  rw [firstUnbound?, List.flatMap_append, List.find?_append]
  rfl

/-- If no text has an unbound variable, each is ready. -/
theorem isReady_of_bound {texts : List String} (bound : firstUnbound? bindings texts = none) :
    ∀ text ∈ texts, isReady bindings text = true := by
  intro text isText
  obtain ⟨early, late, rfl⟩ := List.append_of_mem isText
  rw [← List.singleton_append, firstUnbound?_append, firstUnbound?_append, Option.or_eq_none_iff,
    Option.or_eq_none_iff] at bound
  rw [isReady, bound.2.1]
  rfl

/-- If every variable of the commands is bound, all run. -/
theorem readyCommands_of_bound {segments : List Segment}
    (bound : firstUnbound? bindings (commandsOf segments) = none) :
    readyCommands bindings segments = commandsOf segments :=
  List.takeWhile_eq_self_iff.mpr (isReady_of_bound bound)

theorem commandsOf_split (early : List Segment) (command : String) (late : List Segment) :
    commandsOf (early ++ .shell command :: late) = commandsOf early ++ command :: commandsOf late :=
  List.filterMap_append

/-- The commands before one with an unbound variable run, and no other. -/
theorem readyCommands_of_split {early : List Segment} {command name : String}
    (bound : firstUnbound? bindings (commandsOf early) = none)
    (unbound : firstUnbound? bindings [command] = some name) (late : List Segment) :
    readyCommands bindings (early ++ .shell command :: late) = commandsOf early := by
  rw [readyCommands, commandsOf_split, List.takeWhile_append_of_pos (isReady_of_bound bound),
    List.takeWhile_cons_of_neg (by simp [isReady, unbound]), List.append_nil]

/-- A text without commands is read as itself. -/
theorem Template.segments_of_parse? {text : String} {template : Template}
    (isRead : Template.parse? text = some template) (noCommands : commandsOf template.segments = []) :
    template.segments = [] ∧ text = "" ∨ template.segments = [.text text] := by
  obtain ⟨segments, isSegments, rfl⟩ := Option.map_eq_some_iff.mp isRead
  have whole : ['\x60'].intercalate (text.toList.splitOn '\x60') = text.toList :=
    List.intercalate_splitOn '\x60'
  rw [← Text.splitOnChar_eq_splitOn] at whole
  match Text.splitOnChar '\x60' text.toList, isSegments, whole with
  | [plain], isSegments, whole =>
    rw [List.intercalate_singleton] at whole
    rw [Template.segmentsOf?, Template.plainPart, whole, String.ofList_toList, Option.some_inj] at isSegments
    split at isSegments
    case isTrue isEmpty => exact .inl ⟨isSegments.symm, by simpa using isEmpty⟩
    case isFalse => exact .inr isSegments.symm
  | plain :: command :: next :: rest, isSegments, _ =>
    obtain ⟨later, -, rfl⟩ := Option.map_eq_some_iff.mp isSegments
    simp [commandsOf_split] at noCommands

/-- **What happens when a template becomes a direction.** If every variable is bound, all commands run, in
order and once each, and the direction is what the segments stand for, outputs as they are. The first command
with an unbound variable stops all that follows; an unbound variable of a plain part does so when all commands
have run. The failures of the commands that ran are noted, in order. A text without commands gives what it
gives when variables are inserted. -/
theorem resolve_runs_then_inserts {σ : Type} (host : Query.Host σ) (runner : Runner)
    (runsBy : host.RunsBy runner) (report : Fault → Act Unit) (note : Chain → Fault → Chain)
    (notes : Notes report note) (unit : Option String) (workplace : Workplace) (template : Template)
    (before : Running) :
    let bindings := before.session.bindings
    let segments := template.segments
    let ends (commands : List String) := (resolve report unit workplace template).Does host before
      (commands.map (ranCommand runner bindings workplace))
      (afterCommands runner note workplace commands before)
    (∀ text, firstUnbound? bindings [text] = none →
      interpolate bindings unit text = .ok (inserted bindings text)) ∧
    (∀ text name, firstUnbound? bindings [text] = some name →
      interpolate bindings unit text = .error (.unresolvedVariable name unit)) ∧
    (firstUnbound? bindings (commandsOf segments) = none →
      firstUnbound? bindings (plainsOf segments) = none →
      ends (commandsOf segments)
        (.ok (String.join (segments.map (Segment.filled runner bindings workplace))))) ∧
    (∀ early command late name, segments = early ++ .shell command :: late →
      firstUnbound? bindings (commandsOf early) = none → firstUnbound? bindings [command] = some name →
      ends (commandsOf early) (.error (.fault (.unresolvedVariable name unit)))) ∧
    (∀ name, firstUnbound? bindings (commandsOf segments) = none →
      firstUnbound? bindings (plainsOf segments) = some name →
      ends (commandsOf segments) (.error (.fault (.unresolvedVariable name unit)))) ∧
    (∀ text, Template.parse? text = some template → commandsOf segments = [] →
      template.text = text ∧ ends [] ((interpolate bindings unit text).mapError .fault)) := by
  intro bindings segments ends
  have resolved := does_resolve runsBy notes unit workplace template before
  have isFirst : ((commandsOf segments ++ plainsOf segments).flatMap references).find? (isUnbound bindings)
      = (firstUnbound? bindings (commandsOf segments)).or (firstUnbound? bindings (plainsOf segments)) :=
    firstUnbound?_append ..
  refine ⟨fun text isBound => interpolate_of_bound isBound unit,
    fun text name unbound => interpolate_of_unbound unbound unit, fun isBound areBound => ?_,
    fun early command late name isSplit isBound unbound => ?_, fun name isBound unbound => ?_,
    fun text isRead noCommands => ?_⟩
  · rw [unlessUnbound, isFirst, isBound, areBound, readyCommands_of_bound isBound] at resolved
    exact resolved
  · have areReady : readyCommands bindings segments = commandsOf early := by
      rw [isSplit, readyCommands_of_split isBound unbound]
    rw [unlessUnbound, isFirst, areReady, isSplit, commandsOf_split, ← List.singleton_append,
      firstUnbound?_append, firstUnbound?_append, isBound, unbound] at resolved
    exact resolved
  · rw [unlessUnbound, isFirst, isBound, unbound, readyCommands_of_bound isBound] at resolved
    exact resolved
  · rw [readyCommands, noCommands] at resolved
    rw [interpolate_eq, Template.text]
    rcases Template.segments_of_parse? isRead noCommands with ⟨isEmpty, rfl⟩ | isText
    · have noPieces : Piece.scan "".toList = [] := by rw [String.toList_empty, Piece.scan]
      rw [isEmpty] at resolved ⊢
      rw [references, inserted, noPieces]
      exact ⟨rfl, resolved⟩
    · rw [isText] at resolved ⊢
      rw [List.map_singleton, String.join_cons, String.join_nil, String.append_empty] at resolved ⊢
      have isNames : ([] ++ plainsOf [.text text]).flatMap references = references text := List.append_nil _
      rw [isNames] at resolved
      exact ⟨rfl, resolved⟩

/-- A host that has commands run by a runner. -/
def hostOf (runner : Runner) : Query.Host Unit where
  say _ state := state
  clock _ := 0.0
  ask _ state := (none, state)
  run request state := (.finished (runner request.command request.env request.workplace), state)

/-- There is a host for every runner. -/
theorem hostOf_runsBy (runner : Runner) : (hostOf runner).RunsBy runner := fun _ _ => rfl

/-- The end of a template without a unit, in a session with some variables. -/
def resolvedBy (runner : Runner) (report : Fault → Act Unit) (template : Template) (bindings : Bindings) :
    Running × Except Stop String :=
  ((resolve report none .default template ⟨{ root := "a" }, { bindings }⟩).perform (hostOf runner) ()).1

/-- Two text parts that join to a reference; no text is parsed to such parts. -/
def splitReference : Template := ⟨[.text "$", .text "AI"]⟩

/-- A command that fails where nothing is reported. -/
def silentFailure : Running × Except Stop String :=
  resolvedBy (fun _ _ _ => { exitCode := 3 }) (fun _ => Act.pure ()) ⟨[.shell "x"]⟩ []

/-- **What does not hold of every template and every report.** A template without commands need not give what
its text gives when variables are inserted: the parts of a split reference stay as they are. And a command
that fails leaves no warning where nothing is reported. -/
theorem split_reference_stays :
    (commandsOf splitReference.segments = [] ∧
      (resolvedBy (fun _ _ _ => {}) Act.warn splitReference [("AI", "x")]).2.toOption = some "$AI" ∧
      (interpolate [("AI", "x")] none splitReference.text).toOption = some "x") ∧
    silentFailure.2.toOption = some "" ∧ silentFailure.1.chain.warnings = [] := by
  decide +kernel

/-- What a command prints looks like a reference, and stays as it is. -/
theorem printed_reference_stays :
    let runner : Runner := fun command _ _ => { stdout := command ++ ": $AI\n", exitCode := 3 }
    let template : Template := ⟨[.text "for $USER: ", .shell "cat $USER"]⟩
    let ended := resolvedBy runner Act.warn template [("USER", "ann")]
    ended.1.chain.warnings = ["Command failed (exit 3): cat ann"] ∧
      ended.2 = .ok "for ann: cat ann: $AI" := by
  intro runner template ended
  have isEnded := ((resolve_runs_then_inserts _ runner (hostOf_runsBy runner) Act.warn Chain.warn notes_warn
    none .default template ⟨{ root := "a" }, { bindings := [("USER", "ann")] }⟩).2.2.1
    (by decide +kernel) (by decide +kernel) ()).2
  rw [show ended = _ from isEnded]
  exact ⟨by decide +kernel, congrArg Except.ok (by decide +kernel)⟩

end PromptChain
