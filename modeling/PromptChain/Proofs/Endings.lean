/-
**How runs of tasks end.**

* `heardFrom`: the answers of the model in a run, each with the state in which it was asked for.
* `StopReason`: the reasons for which a run stops. There is a mishap on the way to an answer or in a
  command, the arms of a unit fail on an answer, a command fails before a call, a unit is in flight, or a
  call names no unit.
* `TaskRun.stops`: **a run that stops has one of these reasons**; so a step that is not legal, or bad
  metadata, is never one.
* `TaskRun.ordinary`: a run that does not stop ends with success, without a match or with a failed command.
-/

import PromptChain.Proofs.TaskRuns

namespace PromptChain

/-! ### What is heard -/

/-- An answer of the model, with the request and the state in which it was made. -/
structure Heard where
  moment : Running
  request : ModelRequest
  answer : String

/-- Whether the model has answered. -/
def Event.isAnswer : Event → Bool
  | asked _ (some (.answer _)) => true
  | _ => false

/-- The state that was passed last. -/
def Event.moment (last : Option Running) : Event → Option Running
  | passed running => some running
  | _ => last

/-- The answer that an event is, in the state that was passed last. -/
def Event.heard? (last : Option Running) : Event → Option Heard
  | asked request (some (.answer text)) => last.map fun moment => ⟨moment, request, text⟩
  | _ => none

/-- The answers in a run, from the state that was passed last before it. -/
def heardFrom (last : Option Running) : List Event → List Heard
  | [] => []
  | event :: events => (event.heard? last).toList ++ heardFrom (event.moment last) events

theorem heardFrom_append (last : Option Running) (early late : List Event) :
    heardFrom last (early ++ late)
      = heardFrom last early ++ heardFrom (early.foldl Event.moment last) late := by
  induction early generalizing last with
  | nil => rfl
  | cons event early ih =>
    rw [List.cons_append, heardFrom, heardFrom, ih, List.append_assoc, List.foldl_cons]

/-- A state known from before can only add answers. -/
theorem heardFrom_none_subset (last : Option Running) (events : List Event) :
    heardFrom none events ⊆ heardFrom last events := by
  induction events generalizing last with
  | nil => exact List.Subset.refl _
  | cons event events ih =>
    cases event with
    | passed running => exact List.Subset.refl _
    | said line => exact ih last
    | ran request reply => exact ih last
    | asked request reply =>
      have nothing : (Event.asked request reply).heard? none = none := by
        unfold Event.heard?
        split <;> rfl
      rw [heardFrom, nothing]
      exact List.subset_append_of_subset_right _ (ih last)

theorem heardFrom_subset_of_part {events more : List Event} (isPart : events <:+: more) :
    heardFrom none events ⊆ heardFrom none more := by
  obtain ⟨early, late, rfl⟩ := isPart
  rw [heardFrom_append, heardFrom_append]
  refine List.subset_append_of_subset_left _ (List.subset_append_of_subset_right _ ?_)
  exact heardFrom_none_subset _ events

theorem heardFrom_of_unasked {events : List Event}
    (unasked : ∀ request reply, Event.asked request reply ∉ events) (last : Option Running) :
    heardFrom last events = [] := by
  induction events generalizing last with
  | nil => rfl
  | cons event events ih =>
    have later := ih (fun request reply isEvent => unasked request reply (List.mem_cons_of_mem _ isEvent))
    cases event with
    | asked request reply => exact absurd List.mem_cons_self (unasked request reply)
    | passed running => exact later _
    | said line => exact later _
    | ran request reply => exact later _

/-! ### Reasons to stop -/

/-- After an answer, matching the value of the match variable of the unit that asked against its arms
fails: the variable is looked up in the session that has the answer. -/
def Program.FailsOn (program : Program) (heard : Heard) (crash : Crash) : Prop :=
  ∃ unit ∈ program.loaded, unit.name = heard.request.unit ∧
    unit.choice (heard.moment.told ⟨heard.request.direction, heard.answer, some unit.name⟩).session
      = .error (.crashed crash)

/-- What can stop a unit while it comes to its answer, or a command. -/
inductive Mishap (events : List Event) : Stop → Prop
  | broken {event : Event} {reason : Stop} (isEvent : event ∈ events)
    (breaks : event.breaks? = some reason) : Mishap events reason
  | unbound {name : String} {unit : Option String} :
    Mishap events (.fault (.unresolvedVariable name unit))
  | unanswered {problem : String} : Mishap events (.fault (.modelUnavailable problem))

/-- Why a run stops. -/
inductive StopReason (setting : Setting) (events : List Event) : Stop → Prop
  | mishap {reason : Stop} (found : Mishap events reason) : StopReason setting events reason
  | torn {heard : Heard} {problem : Crash} (isHeard : heard ∈ heardFrom none events)
    (fails : setting.program.FailsOn heard problem) : StopReason setting events (.crashed problem)
  | failed {command : String} {result : Option CommandResult} :
    StopReason setting events (.fault (.commandFailed command result))
  | cyclic {stack : List String} {name : String} :
    StopReason setting events (.fault (.cyclicInvocation stack name))
  | unresolved {caller : PromptUnit} {name : String} (isCall : setting.program.HasCall caller name)
    (missing : setting.program.lookup name = none) :
    StopReason setting events (.fault (.source .unresolvedReference (notLoadedMessage caller.name name)
      { source := caller.source }))

variable {setting : Setting} {unit : PromptUnit} {before after : Running} {events : List Event}
  {reason : Stop} {result : Except Stop Outcome}

/-- What breaks off is no fault. -/
theorem Event.breaks?_ne_fault {event : Event} {fault : Fault} : event.breaks? ≠ some (.fault fault) := by
  unfold Event.breaks?
  split <;> simp

theorem Mishap.mono {more : List Event} (isPart : events ⊆ more) (found : Mishap events reason) :
    Mishap more reason := by
  cases found with
  | broken isEvent breaks => exact .broken (isPart isEvent) breaks
  | unbound => exact .unbound
  | unanswered => exact .unanswered

/-- A reason in a part is one in the whole. -/
theorem StopReason.mono {more : List Event} (isPart : events <:+: more)
    (stops : StopReason setting events reason) : StopReason setting more reason := by
  cases stops with
  | mishap found => exact .mishap (found.mono isPart.subset)
  | torn isHeard fails => exact .torn (heardFrom_subset_of_part isPart isHeard) fails
  | failed => exact .failed
  | cyclic => exact .cyclic
  | unresolved isCall missing => exact .unresolved isCall missing

theorem Aside.mishap {α : Type} (aside : Aside before events after (.error reason : Except Stop α)) :
    Mishap events reason := by
  rcases aside.stopped reason rfl with ⟨event, isEvent, breaks⟩ | ⟨name, unit, rfl⟩
  · exact .broken isEvent breaks
  · exact .unbound

theorem Asks.mishap {direction : String}
    (asks : Asks setting unit direction before events (.error reason)) : Mishap events reason := by
  cases asks with
  | noModel | unavailable | late => exact .unanswered
  | cancelled | crashed => exact .broken (List.mem_of_getLast? rfl) rfl

theorem Hears.mishap (hears : Hears setting unit before events after (.error reason)) :
    Mishap events reason := by
  cases hears with
  | unresolved resolving => exact (aside_of_resolve resolving).mishap
  | unanswered _ asking => exact asking.mishap.mono (List.subset_append_right _ _)

theorem Aside.heardFrom_eq {α : Type} {result : Except Stop α} (aside : Aside before events after result)
    (last : Option Running) : heardFrom last events = [] := heardFrom_of_unasked aside.unasked last

/-- **A unit hears one answer**, that of its turn. -/
theorem Hears.heardFrom_eq {turn : Turn} (hears : Hears setting unit before events after (.ok turn))
    (last : Option Running) : ∃ heard, heardFrom last events = [heard] ∧ heard.moment = after ∧
      heard.request.unit = unit.name ∧ turn = ⟨heard.request.direction, heard.answer, some unit.name⟩ := by
  cases hears with
  | answered resolving asking =>
    rename_i direction answer
    rw [heardFrom_append, (aside_of_resolve resolving).heardFrom_eq]
    cases asking
    exact ⟨⟨after, ⟨unit.name, direction, _⟩, answer⟩, rfl, rfl, rfl, rfl⟩

/-- A unit that cannot choose an arm lacks a variable, or one of its arms fails. -/
theorem PromptUnit.choice_error {session : Session} (chosen : unit.choice session = .error reason) :
    (∃ name unit, reason = .fault (.unresolvedVariable name unit)) ∨
      ∃ problem, reason = .crashed problem := by
  unfold PromptUnit.choice at chosen
  split at chosen
  · cases chosen
    exact Or.inl ⟨_, _, rfl⟩
  · split at chosen
    · cases chosen
      exact Or.inr ⟨_, rfl⟩
    · cases chosen

/-- Why a task stops: the choice of an arm may fail on the answer that was heard before. -/
def Task.StopsFor (setting : Setting) (before : Running) (events : List Event) (reason : Stop) : Task → Prop
  | choose unit => unit.choice before.session = .error reason ∨ StopReason setting events reason
  | _ => StopReason setting events reason

theorem PromptUnit.infix_framed (target : PromptUnit) (before ended : Running) (events : List Event) :
    events <:+: target.framed before events ended := by
  unfold PromptUnit.framed
  split
  · exact List.infix_refl _
  · exact ⟨[_], [_], rfl⟩

/-- **A run of a task that stops has a reason.** -/
theorem TaskRun.stops {depth : Nat} {task : Task}
    (run : TaskRun setting depth task before events after result) (isError : result = .error reason) :
    task.StopsFor setting before events reason := by
  induction run with
  | refused | cyclic =>
    cases isError
    exact StopReason.cyclic
  | unheard _ _ _ hearing =>
    cases isError
    exact StopReason.mono ⟨_, _, List.append_assoc _ _ _⟩ (.mishap hearing.mishap)
  | @heard _ unit before middle ended early late turn _ isLoaded _ _ hearing _ choosing =>
    rcases choosing isError with chosen | inside
    · -- The answer is the one that the unit has just heard.
      rcases PromptUnit.choice_error chosen with ⟨name, place, rfl⟩ | ⟨problem, rfl⟩
      · exact StopReason.mishap .unbound
      · obtain ⟨heard, isHeard, rfl, isAsker, rfl⟩ := hearing.heardFrom_eq none
        have torn : StopReason setting early (.crashed problem) :=
          .torn (isHeard ▸ List.mem_singleton_self heard) ⟨unit, isLoaded, isAsker.symm, chosen⟩
        exact torn.mono ⟨_, _, List.append_assoc _ _ _⟩
    · refine inside.mono ⟨before.entryEvents unit ++ early ++ [.passed (middle.told turn)],
        [.passed ended.left], by simp⟩
  | undecided _ chosen =>
    cases isError
    exact Or.inl chosen
  | unmatched | printed | failed | finished => cases isError
  | matched _ _ _ acting => exact Or.inr ((acting isError).mono (List.suffix_append _ _).isInfix)
  | halted _ running =>
    cases isError
    exact StopReason.mishap (aside_of_runCommand running).mishap
  | pipeFailed =>
    cases isError
    exact StopReason.failed
  | piped _ _ _ calling =>
    refine StopReason.mono (List.IsSuffix.isInfix ?_) (calling isError)
    exact (List.suffix_append [_, _] _).trans (List.suffix_append _ _)
  | called _ calling => exact calling isError
  | unresolved isCall missing =>
    cases isError
    exact StopReason.unresolved isCall missing
  | @stopped _ _ target _ _ _ before ended events _ _ _ _ _ _ entering =>
    cases isError
    refine StopReason.mono ?_ (entering rfl)
    exact (target.infix_framed before ended events).trans (List.suffix_append [_, _] _).isInfix
  | next _ _ _ _ _ _ _ calling =>
    refine StopReason.mono (List.IsSuffix.isInfix ?_) (calling isError)
    exact ((List.suffix_append _ _).trans (List.suffix_append _ _)).trans (List.suffix_append [_, _] _)

/-! ### Ordinary outcomes -/

/-- The outcomes of tasks that do not stop. -/
inductive Outcome.Ordinary : Outcome → Prop
  | success : Ordinary .success
  | noMatch : Ordinary .noMatch
  | commandFailed : Ordinary .commandFailed

/-- A task that calls starts with an ordinary outcome. -/
def Task.Ordinary : Task → Prop
  | call _ outcome _ => outcome.Ordinary
  | _ => True

/-- **A run of a task that does not stop ends with an ordinary outcome.** -/
theorem TaskRun.ordinary {depth : Nat} {task : Task}
    (run : TaskRun setting depth task before events after result) (start : task.Ordinary)
    {outcome : Outcome} (isOk : result = .ok outcome) : outcome.Ordinary := by
  induction run generalizing outcome with
  | refused | unheard | undecided | halted | pipeFailed | unresolved | cyclic | stopped => cases isOk
  | heard _ _ _ _ _ choosing => exact choosing trivial isOk
  | unmatched =>
    cases isOk
    exact .noMatch
  | matched _ _ _ acting => exact acting trivial isOk
  | printed =>
    cases isOk
    exact .success
  | failed =>
    cases isOk
    exact .commandFailed
  | piped _ _ _ calling | called _ calling => exact calling .success isOk
  | finished =>
    cases isOk
    exact start
  | next _ _ _ _ _ _ entering calling => exact calling (entering trivial rfl) isOk

end PromptChain
