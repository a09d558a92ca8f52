/-
**What can happen when a program of requests is performed.**

A run of a query is the list of what happens in it, from the first state that is passed to the last reply
(`Event`); `requests` leaves what others see of it. A host makes one run (`Query.trace`); the runs that some
replies lead to are all there are (`Query.Runs`), so that what holds of every run holds for every host
(`Query.runs_trace`).

A run of a bind is a run of its first part and one of its second (`Query.runs_bind`, for one host
`Query.trace_bind`); for acts, a stop leaves no second part (`Act.runs_bind`). Where the first act is a
single step, a run starts with what that step makes happen (`Act.runs_running_bind` and those after it).
Reading the clock leaves no event: only the report tells what it showed.

What holds at every event of a run may depend on what happened before it; something that sees the events one
by one keeps what is needed of that (`Throughout`).
-/

import PromptChain.Chain.Query

namespace PromptChain

/-- What happens in a run. -/
inductive Event where
  | passed (running : Running)
  | said (line : LogLine)
  | asked (request : ModelRequest) (reply : Option ModelReply)
  | ran (request : CommandRequest) (reply : CommandReply)

/-- Whether something is asked of the model or of a command. -/
def Event.isRequest : Event → Bool
  | passed _ | said _ => false
  | asked _ _ | ran _ _ => true

/-- The requests in a run, with their replies. -/
def requests (events : List Event) : List Event := events.filter Event.isRequest

section Requests

variable {early late events : List Event}

@[simp]
theorem requests_nil : requests [] = [] := rfl

@[simp]
theorem requests_append : requests (early ++ late) = requests early ++ requests late :=
  List.filter_append ..

@[simp]
theorem requests_cons_passed {running : Running} : requests (.passed running :: events) = requests events :=
  rfl

@[simp]
theorem requests_cons_said {line : LogLine} : requests (.said line :: events) = requests events := rfl

theorem mem_requests {event : Event} : event ∈ requests events ↔ event ∈ events ∧ event.isRequest = true :=
  List.mem_filter

end Requests

/-! ### Seen from outside -/

section Seen

variable {ω : Type} {see : ω → Event → ω} {holds : ω → Event → Prop} {seen : ω}

/-- Something holds of every event in a run, given what was seen before it. -/
def Throughout (see : ω → Event → ω) (holds : ω → Event → Prop) (seen : ω) (events : List Event) : Prop :=
  ∀ early event late, events = early ++ event :: late → holds (early.foldl see seen) event

@[simp]
theorem throughout_nil : Throughout see holds seen [] := by
  intro early event late isSplit
  simp at isSplit

@[simp]
theorem throughout_cons {event : Event} {events : List Event} :
    Throughout see holds seen (event :: events)
      ↔ holds seen event ∧ Throughout see holds (see seen event) events := by
  constructor
  · intro all
    refine ⟨all [] event events rfl, fun early later late isSplit => ?_⟩
    exact all (event :: early) later late (by rw [isSplit, List.cons_append])
  · rintro ⟨here, rest⟩ early later late isSplit
    cases early with
    | nil =>
      rw [List.nil_append] at isSplit
      rw [← (List.cons.inj isSplit).1]
      exact here
    | cons first early =>
      obtain ⟨rfl, isRest⟩ := List.cons.inj isSplit
      exact rest early later late isRest

@[simp]
theorem throughout_append {early late : List Event} :
    Throughout see holds seen (early ++ late)
      ↔ Throughout see holds seen early ∧ Throughout see holds (early.foldl see seen) late := by
  induction early generalizing seen with
  | nil => simp
  | cons event early ih => simp [ih, and_assoc]

/-- What holds of events whatever was seen before. -/
theorem throughout_of_forall {events : List Event} (all : ∀ event ∈ events, ∀ seen, holds seen event) :
    Throughout see holds seen events := by
  intro early event late isSplit
  refine all event ?_ _
  rw [isSplit]
  exact List.mem_append_right _ List.mem_cons_self

end Seen

namespace Query

variable {α β γ σ : Type}

/-- What happens when a program is performed with a host. -/
def trace (host : Host σ) : Query α → σ → List Event
  | done _, _ => []
  | pass running rest, state => .passed running :: trace host rest state
  | say line rest, state => .said line :: trace host rest (host.say line state)
  | time rest, state => trace host (rest (host.clock state)) state
  | ask request reply, state => .asked request (host.ask request state).1
    :: trace host (reply (host.ask request state).1) (host.ask request state).2
  | run request reply, state => .ran request (host.run request state).1
    :: trace host (reply (host.run request state).1) (host.run request state).2

/-- A program can run through events to a value, for some replies. -/
inductive Runs : Query α → List Event → α → Prop
  | done {value : α} : Runs (done value) [] value
  | pass {running : Running} {next : Query α} {events : List Event} {value : α}
    (rest : Runs next events value) : Runs (pass running next) (.passed running :: events) value
  | say {line : LogLine} {next : Query α} {events : List Event} {value : α}
    (rest : Runs next events value) : Runs (say line next) (.said line :: events) value
  | time {next : Float → Query α} {events : List Event} {value : α} (now : Float)
    (rest : Runs (next now) events value) : Runs (time next) events value
  | ask {request : ModelRequest} {next : Option ModelReply → Query α} {events : List Event} {value : α}
    (reply : Option ModelReply) (rest : Runs (next reply) events value) :
    Runs (ask request next) (.asked request reply :: events) value
  | run {request : CommandRequest} {next : CommandReply → Query α} {events : List Event} {value : α}
    (reply : CommandReply) (rest : Runs (next reply) events value) :
    Runs (run request next) (.ran request reply :: events) value

/-- **A host makes one of the runs.** -/
theorem runs_trace (host : Host σ) (query : Query α) (state : σ) :
    query.Runs (query.trace host state) (query.perform host state).1 := by
  induction query generalizing state with
  | done value => exact .done
  | pass running rest ih => exact .pass (ih state)
  | say line rest ih => exact .say (ih _)
  | time rest ih => exact .time _ (ih _ _)
  | ask request reply ih => exact .ask _ (ih _ _)
  | run request reply ih => exact .run _ (ih _ _)

/-- **A run of a bind is a run of its first part and one of its second.** -/
theorem runs_bind {query : Query α} {next : α → Query β} {events : List Event} {value : β}
    (runs : (query.bind next).Runs events value) :
    ∃ first second middle, events = first ++ second ∧ query.Runs first middle ∧
      (next middle).Runs second value := by
  induction query generalizing events with
  | done middle => exact ⟨[], events, middle, rfl, .done, runs⟩
  | pass running rest ih =>
    cases runs with
    | pass runs =>
      obtain ⟨first, second, middle, rfl, before, after⟩ := ih runs
      exact ⟨_ :: first, second, middle, rfl, .pass before, after⟩
  | say line rest ih =>
    cases runs with
    | say runs =>
      obtain ⟨first, second, middle, rfl, before, after⟩ := ih runs
      exact ⟨_ :: first, second, middle, rfl, .say before, after⟩
  | time rest ih =>
    cases runs with
    | time now runs =>
      obtain ⟨first, second, middle, rfl, before, after⟩ := ih now runs
      exact ⟨first, second, middle, rfl, .time now before, after⟩
  | ask request reply ih =>
    cases runs with
    | ask answer runs =>
      obtain ⟨first, second, middle, rfl, before, after⟩ := ih answer runs
      exact ⟨_ :: first, second, middle, rfl, .ask answer before, after⟩
  | run request reply ih =>
    cases runs with
    | run answer runs =>
      obtain ⟨first, second, middle, rfl, before, after⟩ := ih answer runs
      exact ⟨_ :: first, second, middle, rfl, .run answer before, after⟩

/-- A host performs a bind by its first part, and then its second. -/
theorem perform_bind (host : Host σ) (query : Query α) (next : α → Query β) (state : σ) :
    (query.bind next).perform host state
      = (next (query.perform host state).1).perform host (query.perform host state).2 := by
  induction query generalizing state with
  | done value => rfl
  | pass running rest ih => exact ih state
  | say line rest ih => exact ih _
  | time rest ih => exact ih _ _
  | ask request reply ih => exact ih _ _
  | run request reply ih => exact ih _ _

theorem trace_bind (host : Host σ) (query : Query α) (next : α → Query β) (state : σ) :
    (query.bind next).trace host state = query.trace host state
      ++ (next (query.perform host state).1).trace host (query.perform host state).2 := by
  induction query generalizing state with
  | done value => rfl
  | pass running rest ih => exact congrArg _ (ih state)
  | say line rest ih => exact congrArg _ (ih _)
  | time rest ih => exact ih _ _
  | ask request reply ih => exact congrArg _ (ih _ _)
  | run request reply ih => exact congrArg _ (ih _ _)

theorem bind_assoc (query : Query α) (next : α → Query β) (last : β → Query γ) :
    (query.bind next).bind last = query.bind fun value => (next value).bind last := by
  induction query with
  | done value => rfl
  | pass running rest ih => exact congrArg (pass running) ih
  | say line rest ih => exact congrArg (say line) ih
  | time rest ih => exact congrArg time (funext ih)
  | ask request reply ih => exact congrArg (ask request) (funext ih)
  | run request reply ih => exact congrArg (run request) (funext ih)

/-- Continuations that agree on every value that a program can give make equal programs. -/
theorem bind_congr {query : Query α} {next other : α → Query β}
    (agree : ∀ events value, query.Runs events value → next value = other value) :
    query.bind next = query.bind other := by
  induction query with
  | done value => exact agree [] value .done
  | pass running rest ih =>
    exact congrArg (pass running) (ih fun events value runs => agree _ value (.pass runs))
  | say line rest ih =>
    exact congrArg (say line) (ih fun events value runs => agree _ value (.say runs))
  | time rest ih =>
    exact congrArg time (funext fun now => ih now fun events value runs => agree _ value (.time now runs))
  | ask request reply ih =>
    exact congrArg (ask request) (funext fun answer =>
      ih answer fun events value runs => agree _ value (.ask answer runs))
  | run request reply ih =>
    exact congrArg (run request) (funext fun answer =>
      ih answer fun events value runs => agree _ value (.run answer runs))

end Query

namespace Act

variable {α β : Type}

/-- **A run of two acts**: the second goes on from the state and the value of the first, unless the first
stops. -/
theorem runs_bind {act : Act α} {next : α → Act β} {before after : Running} {events : List Event}
    {result : Except Stop β} (runs : ((act >>= next) before).Runs events (after, result)) :
    (∃ first second middle value, events = first ++ second ∧
      (act before).Runs first (middle, .ok value) ∧ (next value middle).Runs second (after, result)) ∨
    ∃ reason, (act before).Runs events (after, .error reason) ∧ result = .error reason := by
  obtain ⟨first, second, ⟨middle, given⟩, rfl, firstRuns, secondRuns⟩ := Query.runs_bind runs
  cases given with
  | ok value => exact Or.inl ⟨first, second, middle, value, rfl, firstRuns, secondRuns⟩
  | error reason =>
    cases secondRuns
    exact Or.inr ⟨reason, by rwa [List.append_nil], rfl⟩

theorem bind_assoc {γ : Type} (act : Act α) (next : α → Act β) (last : β → Act γ) :
    (act >>= next >>= last) = act >>= fun value => next value >>= last := by
  funext running
  refine (Query.bind_assoc (act running) _ _).trans (congrArg (act running).bind ?_)
  funext ⟨middle, given⟩
  cases given <;> rfl

/-! ### Runs that start with a single step -/

section Steps

variable {before after : Running} {events : List Event} {result : Except Stop β}
  {next : Unit → Act β}

/-- The state is read. -/
theorem runs_running_bind {next : Running → Act β}
    (runs : ((running >>= next) before).Runs events (after, result)) :
    ∃ later, events = .passed before :: later ∧ (next before before).Runs later (after, result) := by
  cases runs with
  | pass runs => exact ⟨_, rfl, runs⟩

theorem runs_modifyChain_bind {change : Chain → Chain}
    (runs : ((modifyChain change >>= next) before).Runs events (after, result)) :
    ∃ later, events = .passed { before with chain := change before.chain } :: later ∧
      (next () { before with chain := change before.chain }).Runs later (after, result) := by
  cases runs with
  | pass runs => exact ⟨_, rfl, runs⟩

theorem runs_modifySession_bind {change : Session → Session}
    (runs : ((modifySession change >>= next) before).Runs events (after, result)) :
    ∃ later, events = .passed { before with session := change before.session } :: later ∧
      (next () { before with session := change before.session }).Runs later (after, result) := by
  cases runs with
  | pass runs => exact ⟨_, rfl, runs⟩

theorem runs_info_bind {text : String}
    (runs : ((info text >>= next) before).Runs events (after, result)) :
    ∃ later, events = .said ⟨.info, text⟩ :: later ∧ (next () before).Runs later (after, result) := by
  cases runs with
  | say runs => exact ⟨_, rfl, runs⟩

theorem runs_warn_bind {fault : Fault}
    (runs : ((warn fault >>= next) before).Runs events (after, result)) :
    ∃ later, events = .said (Chain.warningLine fault)
        :: .passed { before with chain := before.chain.warn fault } :: later ∧
      (next () { before with chain := before.chain.warn fault }).Runs later (after, result) := by
  cases runs with
  | say runs =>
    cases runs with
    | pass runs => exact ⟨_, rfl, runs⟩

end Steps

end Act

end PromptChain
