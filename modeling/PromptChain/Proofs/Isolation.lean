/-
**A call without history does not see the conversation of its caller.**

`Query.Alike` relates two programs that ask, run and say the same whatever the replies, and end in related
values; a host cannot tell them apart (`Alike.performed`). `Act.Blind` says this of an act that starts with
one log of turns or with another, and leaves either log as it was. A conversation of its own makes any act
blind (`blind_isolated`), and acts in a row are blind when each of them is (`Blind.bind`).

Main statement: `isolated_call_blind_to_turns`.
-/

import PromptChain.Proofs.CallStack

namespace PromptChain

namespace Query

variable {α β α' β' σ : Type}

/-! ### Programs that no host can tell apart -/

/-- Two programs make the same requests and say the same, and end in related values. The states that they
pass may differ. -/
inductive Alike (related : α → β → Prop) : Query α → Query β → Prop
  | done {first : α} {second : β} (ends : related first second) : Alike related (done first) (done second)
  | pass {here there : Running} {first : Query α} {second : Query β} (rest : Alike related first second) :
    Alike related (pass here first) (pass there second)
  | say {line : LogLine} {first : Query α} {second : Query β} (rest : Alike related first second) :
    Alike related (say line first) (say line second)
  | time {first : Float → Query α} {second : Float → Query β}
    (rest : ∀ now, Alike related (first now) (second now)) : Alike related (time first) (time second)
  | ask {request : ModelRequest} {first : Option ModelReply → Query α} {second : Option ModelReply → Query β}
    (rest : ∀ reply, Alike related (first reply) (second reply)) :
    Alike related (ask request first) (ask request second)
  | run {request : CommandRequest} {first : CommandReply → Query α} {second : CommandReply → Query β}
    (rest : ∀ reply, Alike related (first reply) (second reply)) :
    Alike related (run request first) (run request second)

theorem Alike.refl (query : Query α) : Alike Eq query query := by
  induction query with
  | done value => exact .done rfl
  | pass running rest ih => exact .pass ih
  | say line rest ih => exact .say ih
  | time next ih => exact .time ih
  | ask request next ih => exact .ask ih
  | run request next ih => exact .run ih

theorem Alike.bind {related : α → β → Prop} {relatedToo : α' → β' → Prop} {first : Query α}
    {second : Query β} {next : α → Query α'} {nextToo : β → Query β'} (alike : Alike related first second)
    (later : ∀ one other, related one other → Alike relatedToo (next one) (nextToo other)) :
    Alike relatedToo (first.bind next) (second.bind nextToo) := by
  induction alike with
  | done ends => exact later _ _ ends
  | pass _ ih => exact .pass ih
  | say _ ih => exact .say ih
  | time _ ih => exact .time ih
  | ask _ ih => exact .ask ih
  | run _ ih => exact .run ih

/-- **A host cannot tell such programs apart.** -/
theorem Alike.performed {related : α → β → Prop} {first : Query α} {second : Query β}
    (alike : Alike related first second) (host : Host σ) (state : σ) :
    requests (first.trace host state) = requests (second.trace host state) ∧
      related (first.perform host state).1 (second.perform host state).1 ∧
      (first.perform host state).2 = (second.perform host state).2 := by
  induction alike generalizing state with
  | done ends => exact ⟨rfl, ends, rfl⟩
  | pass _ ih => exact ih state
  | say _ ih => exact ih _
  | time _ ih => exact ih _ _
  | ask _ ih =>
    obtain ⟨sameRequests, ends⟩ := ih _ _
    exact ⟨congrArg (_ :: ·) sameRequests, ends⟩
  | run _ ih =>
    obtain ⟨sameRequests, ends⟩ := ih _ _
    exact ⟨congrArg (_ :: ·) sameRequests, ends⟩

end Query

/-! ### Acts that do not see the turns -/

/-- In another conversation, with the same variables. -/
def Running.withTurns (running : Running) (turns : List Turn) : Running :=
  { running with session := { running.session with turns } }

theorem Running.withTurns_turns {chain : Chain} {first second : Session}
    (same : first.bindings = second.bindings) :
    Running.withTurns ⟨chain, first⟩ second.turns = ⟨chain, second⟩ := by
  simp only [Running.withTurns, same]

namespace Act

variable {α β : Type}

/-- Two ends of an act that are the same but for the turns: the first has these, the second the others. -/
def SameBut (turns others : List Turn) (first second : Running × Except Stop α) : Prop :=
  first.1.session.turns = turns ∧ second = (first.1.withTurns others, first.2)

/-- **Whatever the turns are, the act does the same and leaves them as they were.** -/
def Blind (act : Act α) : Prop :=
  ∀ running others, Query.Alike (SameBut running.session.turns others) (act running)
    (act (running.withTurns others))

theorem Blind.alike {act : Act α} (blind : Blind act) {chain : Chain} {first second : Session}
    (same : first.bindings = second.bindings) :
    Query.Alike (SameBut first.turns second.turns) (act ⟨chain, first⟩) (act ⟨chain, second⟩) := by
  have alike := blind ⟨chain, first⟩ second.turns
  rwa [Running.withTurns_turns same] at alike

theorem blind_pure (value : α) : Blind (pure value : Act α) := fun _ _ => .done ⟨rfl, rfl⟩

theorem blind_stop (reason : Stop) : Blind (stop reason : Act α) := fun _ _ => .done ⟨rfl, rfl⟩

theorem blind_info (text : String) : Blind (info text) := fun _ _ => .say (.done ⟨rfl, rfl⟩)

theorem blind_goTo (next : ChainState) : Blind (goTo next) := by
  intro running others
  have same : (running.withTurns others).chain = running.chain := rfl
  unfold goTo
  rw [same]
  split
  · exact .done ⟨rfl, rfl⟩
  · exact .say (.pass (.done ⟨rfl, rfl⟩))
  · exact .done ⟨rfl, rfl⟩

theorem Blind.bind {act : Act α} {next : α → Act β} (first : Blind act)
    (second : ∀ value, Blind (next value)) : Blind (act >>= next) := by
  intro running others
  refine (first running others).bind ?_
  rintro ⟨middle, given⟩ _ ⟨kept, rfl⟩
  cases given with
  | ok value =>
    have later := second value middle others
    rwa [kept] at later
  | error reason => exact .done ⟨kept, rfl⟩

/-- The state may be read, as long as what follows does not depend on the turns in it. -/
theorem blind_running_bind {next : Running → Act β} (later : ∀ running, Blind (next running))
    (agree : ∀ running others, next (running.withTurns others) = next running) :
    Blind (running >>= next) := by
  intro running others
  refine .pass ?_
  change Query.Alike _ (next running running) (next (running.withTurns others) (running.withTurns others))
  rw [agree]
  exact later running running others

/-- **A conversation of its own hides the turns** from any act. -/
theorem blind_isolated (act : Act α) : Blind (isolated act) := by
  intro running others
  -- The act starts without turns in either case.
  refine .pass ((Query.Alike.refl (act (running.withTurns []))).bind ?_)
  rintro ⟨ended, result⟩ _ rfl
  exact .pass (.done ⟨rfl, rfl⟩)

end Act

/-! ### Calls -/

section Calls

open Act

variable {program : Program} {enter : PromptUnit → Act Outcome} {caller target : PromptUnit}
  {outcome : Outcome} {name : String}

/-- Calls are made one after the other. -/
theorem callTargets_cons (rest : List String) :
    callTargets program enter caller outcome (name :: rest)
      = (callTargets program enter caller outcome [name] >>= fun given =>
          callTargets program enter caller given rest) := by
  simp only [callTargets]
  cases program.lookup name with
  | none => rfl
  | some target =>
    simp only [bind_assoc]
    refine congrArg (Act.running >>= ·) (funext fun running => ?_)
    split
    · rfl
    · simp only [bind_assoc]
      rfl

/-- **A call of a unit without history is blind.** -/
theorem blind_callTargets (found : program.lookup name = some target) (alone : target.history = false) :
    Blind (callTargets program enter caller outcome [name]) := by
  simp only [callTargets, found]
  refine blind_running_bind (fun running => ?_) fun _ _ => rfl
  split
  · exact blind_stop _
  · have entering : Blind (enterTarget enter target) := by
      rw [enterTarget, alone]
      exact blind_isolated _
    exact (blind_info _).bind fun _ => entering.bind fun given =>
      (blind_goTo _).bind fun _ => blind_pure given

end Calls

/-! ### Two runs of a call -/

/-- **A call of a unit without history is isolated from the conversation of its caller.** With any other
turns before it, and the same variables, the call makes the same requests to the model and of commands, those
of the units that it calls in turn among them. It gets the same replies and ends in the same way, with the
same variables, and leaves the turns as they were. Calls in a row are such calls, one after the other. -/
theorem isolated_call_blind_to_turns {σ : Type} (setting : Setting) (depth : Nat) (caller : PromptUnit)
    {name : String} {target : PromptUnit} (found : setting.program.lookup name = some target)
    (alone : target.history = false) (outcome : Outcome) (chain : Chain) (first second : Session)
    (same : first.bindings = second.bindings) (host : Query.Host σ) (state : σ) :
    let calls := callTargets setting.program (runUnit setting depth) caller
    let call (session : Session) := calls outcome [name] ⟨chain, session⟩
    let ended (session : Session) := ((call session).perform host state).1
    requests ((call first).trace host state) = requests ((call second).trace host state) ∧
      (ended first).2 = (ended second).2 ∧
      (ended first).1.chain = (ended second).1.chain ∧
      (ended first).1.session.bindings = (ended second).1.session.bindings ∧
      (ended first).1.session.turns = first.turns ∧ (ended second).1.session.turns = second.turns ∧
      ((call first).perform host state).2 = ((call second).perform host state).2 ∧
      ∀ rest, calls outcome (name :: rest) = (calls outcome [name] >>= fun given => calls given rest) := by
  intro calls call ended
  have blind : Act.Blind (calls outcome [name]) := blind_callTargets found alone
  obtain ⟨sameRequests, ⟨kept, sameEnd⟩, sameState⟩ := (blind.alike same).performed host state
  have isEnd : ended second = ((ended first).1.withTurns second.turns, (ended first).2) := sameEnd
  refine ⟨sameRequests, ?_, ?_, ?_, kept, ?_, sameState, fun rest => callTargets_cons rest⟩
  all_goals rw [isEnd, Running.withTurns]

/-- A unit without history, which calls one that goes on with its conversation. -/
def asideSource : String :=
  "Main\ndirection:m\n\x7bmatch $AI\x7b\"\"=>aside\x7d\x7d\n"
    ++ "Aside\ndirection:a\nhistory:false\n\x7bmatch $AI\x7b\"\"=>further\x7d\x7d\n"
    ++ "Further\ndirection:f\n\x7bmatch $AI\x7b\"\"=>`true`\x7d\x7d\n"

/-- A chain that has come to its call. -/
def asideChain : Chain where
  root := "Main"
  state := .acting
  states := [.idle, .awaitingModel, .matching, .acting]
  stack := ["Main"]
  trail := ["Main"]

/-- The session of its caller, after some turns. -/
def asideSession (turns : List Turn) : Session := ⟨turns, Session.startBindings ""⟩

/-- The call, after those turns. -/
def asideCall (program : Program) (caller : PromptUnit) (turns : List Turn) :
    Query (Running × Except Stop Outcome) :=
  callTargets program (runUnit ⟨program, true, 0⟩ 2) caller .success ["aside"]
    ⟨asideChain, asideSession turns⟩

/-- Two units are asked and a command is run, whatever was said before. -/
theorem asideSource_blind_to_turns :
    ∃ log program caller target, load {} [] false [.text asideSource] = (log, .ok program) ∧
      program.lookup "main" = some caller ∧ program.lookup "aside" = some target ∧ target.history = false ∧
      (requests ((asideCall program caller []).trace silentHost ())).length = 3 ∧
      let turns : List Turn := [⟨"m", "", some "Main"⟩]
      requests ((asideCall program caller turns).trace silentHost ())
        = requests ((asideCall program caller []).trace silentHost ()) ∧
      ((asideCall program caller turns).perform silentHost ()).1.1.session.turns = turns := by
  have evaluated : (load {} [] false [.text asideSource]).2.toOption.map (fun program =>
      (program.lookup "main").bind fun caller => (program.lookup "aside").map fun target =>
        (target.history, (requests ((asideCall program caller []).trace silentHost ())).length))
      = some (some (false, 3)) := by
    decide +kernel
  obtain ⟨log, program, loaded, ends⟩ := exists_of_load_map evaluated
  obtain ⟨caller, isCaller, called⟩ := Option.bind_eq_some_iff.mp ends
  obtain ⟨target, isTarget, isPair⟩ := Option.map_eq_some_iff.mp called
  obtain ⟨alone, three⟩ := Prod.mk.inj isPair
  obtain ⟨sameRequests, _, _, _, kept, _⟩ :=
    isolated_call_blind_to_turns ⟨program, true, 0⟩ 2 caller isTarget alone .success asideChain
      (asideSession [⟨"m", "", some "Main"⟩]) (asideSession []) rfl silentHost ()
  exact ⟨log, program, caller, target, loaded, isCaller, isTarget, alone, three, sameRequests, kept⟩

end PromptChain
