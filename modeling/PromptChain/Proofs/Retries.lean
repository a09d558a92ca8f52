/-
**Requests that are made again.**

* `Client.calls`: every request ends with the first attempt that succeeds, with the last attempt that is
  allowed, or at the pause that is too long (`Calls`).
* `retriesExactly_iff`: a request is retried as often as the settings allow, unless it fails so often that
  the pause cannot be made.
* `malformed_reply_leaks_iff`: the reply of a service comes to a chain as an answer, or as a model that is
  not available, unless the content in it is neither a text nor nothing.
-/

import PromptChain.Model.Service
import PromptChain.Proofs.Outcomes

namespace PromptChain

/-! ### Attempts -/

section Attempts

variable {α : Type} {attempt : Nat → Except AttemptFailure α} {count index : Nat} {content : α}

/-- The first attempts fail, so many of them. -/
def FailsBelow (attempt : Nat → Except AttemptFailure α) (count : Nat) : Prop :=
  ∀ index < count, ∃ failure, attempt index = .error failure

theorem FailsBelow.mono {fewer : Nat} (fails : FailsBelow attempt count) (le : fewer ≤ count) :
    FailsBelow attempt fewer :=
  fun index lt => fails index (lt.trans_le le)

theorem FailsBelow.le_of_ok (fails : FailsBelow attempt count) (succeeds : attempt index = .ok content) :
    count ≤ index := by
  by_contra lt
  obtain ⟨failure, failed⟩ := fails index (by omega)
  rw [succeeds] at failed
  cases failed

theorem FailsBelow.succ {failure : AttemptFailure} (fails : FailsBelow attempt count)
    (failed : attempt count = .error failure) : FailsBelow attempt (count + 1) := by
  intro index lt
  rcases Nat.lt_succ_iff_lt_or_eq.mp lt with earlier | rfl
  · exact fails index earlier
  · exact ⟨failure, failed⟩

/-- So many attempts fail, or one of them is the first that does not. -/
theorem failsBelow_or_first (attempt : Nat → Except AttemptFailure α) (count : Nat) :
    FailsBelow attempt count ∨
      ∃ failed < count, FailsBelow attempt failed ∧ ∃ content, attempt failed = .ok content := by
  induction count with
  | zero => exact Or.inl fun index lt => absurd lt (Nat.not_lt_zero index)
  | succ count ih =>
    rcases ih with fails | ⟨failed, lt, first⟩
    · cases last : attempt count with
      | error failure => exact Or.inl (fails.succ last)
      | ok content => exact Or.inr ⟨count, count.lt_succ_self, fails, content, last⟩
    · exact Or.inr ⟨failed, lt.trans count.lt_succ_self, first⟩

/-- A number of attempts with the pauses behind them. -/
def pausedSteps (count : Nat) : List RetryStep :=
  (List.range count).flatMap fun index => [.attempt, .pause (2 ^ index)]

/-- The steps of a request whose attempts failed so often before the last one. -/
def retrySteps (failed : Nat) : List RetryStep := pausedSteps failed ++ [.attempt]

theorem length_retrySteps (failed : Nat) : (retrySteps failed).length = 2 * failed + 1 := by
  simp [retrySteps, pausedSteps, Nat.mul_comm]

/-- Attempts that fail are passed over, each with its pause. -/
theorem attemptAll_failing (fails : FailsBelow attempt count) (short : count ≤ pauseLimit) (left : Nat) :
    attemptAll attempt (count + left) =
      ⟨pausedSteps count ++ (attemptFrom attempt count left).steps,
        (attemptFrom attempt count left).result⟩ := by
  induction count generalizing left with
  | zero => rw [Nat.zero_add]; rfl
  | succ count ih =>
    obtain ⟨failure, failed⟩ := fails count count.lt_succ_self
    have step : attemptFrom attempt count (left + 1) =
        ⟨.attempt :: .pause (2 ^ count) :: (attemptFrom attempt (count + 1) left).steps,
          (attemptFrom attempt (count + 1) left).result⟩ := by
      rw [attemptFrom, failed]
      exact if_pos short
    rw [Nat.add_right_comm, Nat.add_assoc, ih (fails.mono count.le_succ) (by omega), step]
    simp [pausedSteps, List.range_succ]

theorem attemptFrom_of_ok (succeeds : attempt index = .ok content) (left : Nat) :
    attemptFrom attempt index left = ⟨[.attempt], .ok content⟩ := by
  cases left <;> rw [attemptFrom, succeeds]

end Attempts

/-! ### Requests -/

section Requests

variable {client : Client} {attempt : Nat → Except AttemptFailure Json}

/-- How a request comes to its end. -/
inductive Calls (client : Client) (attempt : Nat → Except AttemptFailure Json) : Asked → Prop
  | succeeded {failed : Nat} {content : Json} (allowed : failed ≤ client.settings.retries.toNat)
    (short : failed ≤ pauseLimit) (fails : FailsBelow attempt failed)
    (succeeds : attempt failed = .ok content) :
    Calls client attempt ⟨retrySteps failed, answerOf client.service content⟩
  | exhausted {failure : AttemptFailure} (short : client.settings.retries.toNat ≤ pauseLimit)
    (fails : FailsBelow attempt client.settings.retries.toNat)
    (last : attempt client.settings.retries.toNat = .error failure) :
    Calls client attempt
      ⟨retrySteps client.settings.retries.toNat, .unavailable (failure.message client.service)⟩
  | overflowed (long : pauseLimit < client.settings.retries.toNat)
    (fails : FailsBelow attempt (pauseLimit + 1)) :
    Calls client attempt ⟨retrySteps pauseLimit, .unavailable (pauseFailure.message client.service)⟩

/-- **Every request comes to one of these ends.** -/
theorem Client.calls (client : Client) (attempt : Nat → Except AttemptFailure Json) :
    Calls client attempt (client.call attempt) := by
  unfold Client.call
  generalize retries : client.settings.retries.toNat = most
  rcases failsBelow_or_first attempt (min most pauseLimit + 1) with fails | ⟨failed, lt, fails, content, first⟩
  · rcases Nat.lt_or_ge pauseLimit most with long | short
    · -- The pause after the last of these attempts cannot be made.
      rw [min_eq_right long.le] at fails
      obtain ⟨failure, last⟩ := fails pauseLimit pauseLimit.lt_succ_self
      obtain ⟨left, rfl⟩ := Nat.exists_eq_add_of_lt long
      have ends : attemptFrom attempt pauseLimit (left + 1) = ⟨[.attempt], .error pauseFailure⟩ := by
        rw [attemptFrom, last]
        exact if_neg (lt_irrefl _)
      rw [Nat.add_assoc, attemptAll_failing (fails.mono pauseLimit.le_succ) le_rfl, ends]
      exact .overflowed (retries ▸ long) fails
    · rw [min_eq_left short] at fails
      obtain ⟨failure, last⟩ := fails most most.lt_succ_self
      have ends : attemptFrom attempt most 0 = ⟨[.attempt], .error failure⟩ := by rw [attemptFrom, last]
      have exact_end := attemptAll_failing (fails.mono most.le_succ) short 0
      rw [Nat.add_zero, ends] at exact_end
      rw [exact_end]
      subst retries
      exact .exhausted short (fails.mono (Nat.le_succ _)) last
  · obtain ⟨left, rfl⟩ := Nat.exists_eq_add_of_le (show failed ≤ most by omega)
    rw [attemptAll_failing fails (by omega), attemptFrom_of_ok first]
    exact .succeeded (by omega) (by omega) fails first

end Requests

/-! ### Exact retries -/

section Exact

variable {client : Client} {attempt : Nat → Except AttemptFailure Json} {asked : Asked}

/-- What was asked was retried exactly: attempts are made until one succeeds or one more than the retries
have failed, with a pause between each two that doubles every time. A text is the answer unless it is blank. -/
structure RetriesExactly (client : Client) (attempt : Nat → Except AttemptFailure Json) (asked : Asked) :
    Prop where
  succeeds : ∀ failed ≤ client.settings.retries.toNat, FailsBelow attempt failed →
    ∀ content, attempt failed = .ok content → asked.steps = retrySteps failed ∧
      (content = .null → asked.answer = .unavailable (emptyAnswer client.service.name)) ∧
      ∀ text, content = .str text → asked.answer =
        if text.toList.any (!Text.isBlank ·) then .answer text
        else .unavailable (emptyAnswer client.service.name)
  fails : FailsBelow attempt client.settings.retries.toNat →
    ∀ failure, attempt client.settings.retries.toNat = .error failure →
      asked.steps = retrySteps client.settings.retries.toNat ∧
        asked.answer = .unavailable (failure.message client.service)

theorem answerOf_str (service : Service) (text : String) :
    answerOf service (.str text) = if text.toList.any (!Text.isBlank ·) then .answer text
      else .unavailable (emptyAnswer service.name) := by
  rw [← List.not_all_eq_any_not, ← Text.isBlankText]
  by_cases empty : text = ""
  · subst empty
    rfl
  · cases blank : Text.isBlankText text.toList <;> simp [answerOf, isNothing, stringOf?, empty, blank]

/-- A request is retried exactly, or it stops at a pause although another attempt is due. -/
theorem Calls.retriesExactly (calls : Calls client attempt asked) :
    RetriesExactly client attempt asked ∧
        (client.settings.retries.toNat ≤ pauseLimit ∨ ¬ FailsBelow attempt (pauseLimit + 1)) ∨
      pauseLimit < client.settings.retries.toNat ∧ FailsBelow attempt (pauseLimit + 1) ∧
        asked = ⟨retrySteps pauseLimit, .unavailable (pauseFailure.message client.service)⟩ := by
  cases calls with
  | @succeeded failed content allowed short fails first =>
    refine Or.inl ⟨⟨?_, ?_⟩, Or.inr fun allFail => absurd (allFail.le_of_ok first) (by omega)⟩
    · intro other _ otherFails otherContent otherFirst
      obtain rfl := Nat.le_antisymm (fails.le_of_ok otherFirst) (otherFails.le_of_ok first)
      obtain rfl := Except.ok.inj (first.symm.trans otherFirst)
      refine ⟨rfl, ?_, ?_⟩
      · rintro rfl
        rfl
      · rintro text rfl
        exact answerOf_str _ text
    · intro allFail failure last
      have := (allFail.succ last).le_of_ok first
      omega
  | @exhausted failure short fails last =>
    refine Or.inl ⟨⟨?_, ?_⟩, Or.inl short⟩
    · intro other allowed _ content first
      have := (fails.succ last).le_of_ok first
      omega
    · intro _ other same
      obtain rfl := Except.error.inj (last.symm.trans same)
      exact ⟨rfl, rfl⟩
  | overflowed long fails => exact Or.inr ⟨long, fails, rfl⟩

theorem RetriesExactly.steps_ne (exactly : RetriesExactly client attempt asked)
    (long : pauseLimit < client.settings.retries.toNat) (fails : FailsBelow attempt (pauseLimit + 1)) :
    asked.steps ≠ retrySteps pauseLimit := by
  obtain ⟨failed, later, isSteps⟩ : ∃ failed > pauseLimit, asked.steps = retrySteps failed := by
    rcases failsBelow_or_first attempt (client.settings.retries.toNat + 1) with
      allFail | ⟨failed, lt, earlier, content, first⟩
    · obtain ⟨failure, last⟩ := allFail _ (Nat.lt_succ_self _)
      exact ⟨_, long, (exactly.fails (allFail.mono (Nat.le_succ _)) failure last).1⟩
    · exact ⟨failed, fails.le_of_ok first, (exactly.succeeds failed (by omega) earlier content first).1⟩
  intro same
  have lengths := congrArg List.length (isSteps.symm.trans same)
  rw [length_retrySteps, length_retrySteps] at lengths
  omega

/-- **Retries are exact as long as the pauses can be made.** For every client and every sequence of
attempts: the request is retried exactly if and only if the settings allow at most 1024 retries, or one of the
first 1025 attempts succeeds. Otherwise it ends after 1025 attempts, with the failure of the pause. -/
theorem retriesExactly_iff (client : Client) (attempt : Nat → Except AttemptFailure Json) :
    (RetriesExactly client attempt (client.call attempt) ↔
      client.settings.retries.toNat ≤ pauseLimit ∨ ¬ FailsBelow attempt (pauseLimit + 1)) ∧
    (RetriesExactly client attempt (client.call attempt) ∨ client.call attempt
      = ⟨retrySteps pauseLimit, .unavailable (pauseFailure.message client.service)⟩) := by
  rcases (client.calls attempt).retriesExactly with ⟨exactly, pauses⟩ | ⟨long, fails, stopped⟩
  · exact ⟨iff_of_true exactly pauses, Or.inl exactly⟩
  · refine ⟨iff_of_false (fun exactly => exactly.steps_ne long fails (by rw [stopped])) ?_, Or.inr stopped⟩
    exact not_or.mpr ⟨Nat.not_le.mpr long, not_not.mpr fails⟩

end Exact

/-- A client that may make a request again one time more than there are pauses. -/
def persistentClient : Client where
  service := .cohere
  model := "command-r-plus"
  settings := { retries := 1025 }

/-- Its request ends one attempt early if nothing ever succeeds. -/
theorem persistentClient_ends_early :
    ¬ RetriesExactly persistentClient (fun _ => .error { problem := "x" })
        (persistentClient.call fun _ => .error { problem := "x" }) ∧
      persistentClient.call (fun _ => .error { problem := "x" })
        = ⟨retrySteps 1024, .unavailable "cohere: int too large to convert to float"⟩ := by
  obtain ⟨exactly, ends⟩ := retriesExactly_iff persistentClient fun _ => .error { problem := "x" }
  have inexact := mt exactly.mp (not_or.mpr
    ⟨by simp [persistentClient, pauseLimit], not_not.mpr fun _ _ => ⟨_, rfl⟩⟩)
  exact ⟨inexact, ends.resolve_left inexact⟩

/-! ### Malformed replies -/

/-- What comes of an attempt over HTTP: it fails, or a value comes back. -/
def httpReply : Except AttemptFailure Json → ServiceReply
  | .error failure => .failed failure
  | .ok value => .body value none

/-- An attempt that counts as failed: it was refused, or the message that came back has no members. -/
inductive HttpFails : Except AttemptFailure Json → Prop
  | refused {failure : AttemptFailure} : HttpFails (.error failure)
  | shapeless {fields : List (String × Json)} {message : Json} (found : messageOf? fields = some message)
    (noObject : ∀ inner, message ≠ .obj inner) : HttpFails (.ok (.obj fields))

/-- The content that came back is neither a text nor nothing. -/
inductive HoldsForeign : Except AttemptFailure Json → Prop
  | content {fields inner : List (String × Json)} {content : Json}
    (found : messageOf? fields = some (.obj inner)) (inside : Assoc.get? inner "content" = some content)
    (something : isNothing content = false) (noText : stringOf? content = none) :
    HoldsForeign (.ok (.obj fields))

variable {service : Service} {reply : Except AttemptFailure Json}

theorem httpFails_iff :
    HttpFails reply ↔ ∃ failure, contentOf service (httpReply reply) = .error failure := by
  constructor
  · intro fails
    cases fails with
    | refused => exact ⟨_, rfl⟩
    | @shapeless fields message found noObject =>
      rw [httpReply, contentOf, bodyContent, found]
      cases message with
      | obj inner => exact absurd rfl (noObject inner)
      | _ => exact ⟨_, rfl⟩
  · rintro ⟨failure, failed⟩
    cases reply with
    | error failure => exact .refused
    | ok value =>
      cases value with
      | obj fields =>
        rw [httpReply, contentOf, bodyContent] at failed
        cases found : messageOf? fields with
        | none => rw [found] at failed; cases failed
        | some message =>
          refine .shapeless found ?_
          rintro inner rfl
          rw [found] at failed
          cases failed
      | _ => cases failed

theorem contentOf_message {fields inner : List (String × Json)} (service : Service)
    (found : messageOf? fields = some (.obj inner)) :
    contentOf service (httpReply (.ok (.obj fields))) = .ok ((Assoc.get? inner "content").getD (.str "")) := by
  rw [httpReply, contentOf, bodyContent, found]
  rfl

theorem holdsForeign_iff :
    HoldsForeign reply ↔ ∃ content, contentOf service (httpReply reply) = .ok content ∧
      isNothing content = false ∧ stringOf? content = none := by
  constructor
  · intro holds
    cases holds with
    | content found inside something noText =>
      refine ⟨_, ?_, something, noText⟩
      rw [contentOf_message service found, inside]
      rfl
  · rintro ⟨content, succeeds, something, noText⟩
    have noPlain : .ok (.str "") ≠ (.ok content : Except AttemptFailure Json) := by
      intro same
      rw [← Except.ok.inj same] at something
      cases something
    cases reply with
    | error failure => cases succeeds
    | ok value =>
      cases value with
      | obj fields =>
        cases found : messageOf? fields with
        | none =>
          rw [httpReply, contentOf, bodyContent, found] at succeeds
          exact absurd succeeds noPlain
        | some message =>
          cases message with
          | obj inner =>
            rw [contentOf_message service found] at succeeds
            cases inside : Assoc.get? inner "content" with
            | none => rw [inside] at succeeds; exact absurd succeeds noPlain
            | some value =>
              rw [inside] at succeeds
              cases succeeds
              exact .content found inside something noText
          | _ => rw [httpReply, contentOf, bodyContent, found] at succeeds; cases succeeds
      | _ => exact absurd succeeds noPlain

/-- The answer of a client to which a service replies over HTTP. -/
def Client.httpAnswer (client : Client) (reply : Nat → Except AttemptFailure Json) : ServiceAnswer :=
  (client.ask fun index => httpReply (reply index)).answer

/-- The answer is a text that is not blank, or that the model is not available. -/
inductive ServiceAnswer.Sound : ServiceAnswer → Prop
  | answer {text : String} (solid : text.toList.any (!Text.isBlank ·) = true) : Sound (.answer text)
  | unavailable {problem : String} : Sound (.unavailable problem)

/-- The first attempt that does not fail holds a foreign content. -/
def Leaks (client : Client) (reply : Nat → Except AttemptFailure Json) : Prop :=
  ∃ failed ≤ min client.settings.retries.toNat pauseLimit,
    (∀ index < failed, HttpFails (reply index)) ∧ HoldsForeign (reply failed)

theorem answerOf_sound {content : Json}
    (known : ¬ (isNothing content = false ∧ stringOf? content = none)) :
    (answerOf service content).Sound := by
  cases content with
  | str text =>
    rw [answerOf_str]
    split
    · rename_i solid
      exact .answer solid
    · exact .unavailable
  | brokenStr => exact .answer rfl
  | _ =>
    rw [answerOf, if_pos (by_contra fun something => known ⟨Bool.eq_false_iff.mpr something, rfl⟩)]
    exact .unavailable

theorem answerOf_foreign {content : Json} (something : isNothing content = false)
    (noText : stringOf? content = none) :
    answerOf service content = .foreign ⟨noMember (typeName content) "strip", "AttributeError"⟩ := by
  simp [answerOf, something, noText]

/-- A request leaks a foreign error, or has a sound answer. -/
theorem leaks_or_sound (client : Client) (reply : Nat → Except AttemptFailure Json) :
    (Leaks client reply ∧ ∃ problem, client.httpAnswer reply = .foreign problem) ∨
      ¬ Leaks client reply ∧ (client.httpAnswer reply).Sound := by
  have calls := client.calls fun index => contentOf client.service (httpReply (reply index))
  simp only [Leaks, @httpFails_iff client.service, @holdsForeign_iff client.service]
  unfold Client.httpAnswer Client.ask
  generalize client.call _ = asked at calls
  cases calls with
  | @succeeded failed content allowed short fails succeeds =>
    by_cases foreign : isNothing content = false ∧ stringOf? content = none
    · exact Or.inl ⟨⟨failed, le_min allowed short, fails, content, succeeds, foreign⟩,
        _, answerOf_foreign foreign.1 foreign.2⟩
    · refine Or.inr ⟨?_, answerOf_sound foreign⟩
      rintro ⟨other, _, otherFails, otherContent, otherSucceeds, otherForeign⟩
      obtain rfl := Nat.le_antisymm (FailsBelow.le_of_ok fails otherSucceeds)
        (FailsBelow.le_of_ok otherFails succeeds)
      obtain rfl := Except.ok.inj (succeeds.symm.trans otherSucceeds)
      exact foreign otherForeign
  | exhausted short fails last =>
    refine Or.inr ⟨?_, .unavailable⟩
    rintro ⟨other, allowed, _, _, succeeds, _⟩
    have := (fails.succ last).le_of_ok succeeds
    omega
  | overflowed long fails =>
    refine Or.inr ⟨?_, .unavailable⟩
    rintro ⟨other, allowed, _, _, succeeds, _⟩
    have := fails.le_of_ok succeeds
    omega

/-- **Which malformed replies leak.** For every client and every sequence of replies over HTTP: the answer is
a text that is not blank, or the model is not available, unless the first attempt that does not fail holds a
content that is neither a text nor nothing. A chain that hears of such an answer ends with an internal error,
and one whose model is not available ends so. -/
theorem malformed_reply_leaks_iff (client : Client) (reply : Nat → Except AttemptFailure Json) :
    ((client.httpAnswer reply).Sound ↔ ¬ Leaks client reply) ∧
      ∀ (setting : Setting) (name user : String) (session : Option Session) (σ : Type)
        (host : Query.Host σ) (state : σ) (request : ModelRequest),
        .asked request (some (client.httpAnswer reply).reply)
            ∈ (invoke setting name user session).trace host state →
          (Leaks client reply →
            ((invoke setting name user session).perform host state).1.1.outcome = .internalError) ∧
          ∀ problem, client.httpAnswer reply = .unavailable problem →
            ((invoke setting name user session).perform host state).1.1.outcome = .modelUnavailable := by
  have cases := leaks_or_sound client reply
  constructor
  · rcases cases with ⟨leaks, problem, isForeign⟩ | ⟨tight, sound⟩
    · refine iff_of_false ?_ (not_not.mpr leaks)
      rw [isForeign]
      rintro ⟨⟩
    · exact iff_of_true sound tight
  · intro setting name user session σ host state request isAsked
    constructor
    · intro leaks
      obtain ⟨_, problem, isForeign⟩ := cases.resolve_right fun tight => tight.1 leaks
      rw [isForeign] at isAsked
      have ends : (Event.asked request (some (.crashed problem))).ends? = some (.crashed problem) := rfl
      exact outcome_of_ends isAsked ends
    · intro problem isUnavailable
      rw [isUnavailable] at isAsked
      have ends : (Event.asked request (some (.unavailable problem))).ends?
          = some (.fault (.modelUnavailable problem)) := rfl
      exact outcome_of_ends isAsked ends

/-- A client that asks once. -/
def briefClient : Client where
  service := .ollama
  model := "llama3.3"
  settings := { retries := 0 }

/-- A reply whose content is a number. -/
def numberReply (_ : Nat) : Except AttemptFailure Json :=
  .ok (.obj [("message", .obj [("content", .int 5)])])

def wrongType : Crash where
  message := "'int' object has no attribute 'strip'"
  kind := "AttributeError"

theorem httpAnswer_numberReply : briefClient.httpAnswer numberReply = .foreign wrongType := rfl

/-- A host whose model gives the same reply to everything. -/
def replyingHost (reply : ModelReply) : Query.Host Unit :=
  { parrotHost "" with ask := fun _ state => (some reply, state) }

/-- What the model crashes with, if it does. -/
def Event.crash? : Event → Option Crash
  | asked _ (some (.crashed problem)) => some problem
  | _ => none

theorem Event.crash?_eq_some {event : Event} {problem : Crash} (crashes : event.crash? = some problem) :
    ∃ request, event = .asked request (some (.crashed problem)) := by
  unfold Event.crash? at crashes
  split at crashes
  · obtain rfl := Option.some.inj crashes
    exact ⟨_, rfl⟩
  · cases crashes

/-- Such a reply leaks, and ends a chain with an internal error. -/
theorem numberReply_leaks :
    Leaks briefClient numberReply ∧ ¬ (briefClient.httpAnswer numberReply).Sound ∧
      ∃ log program, load {} [] false [.text tornSource] = (log, .ok program) ∧
        ((tornQuery program).perform (replyingHost (.crashed wrongType)) ()).1.1.outcome
          = .internalError := by
  obtain ⟨sound, ends⟩ := malformed_reply_leaks_iff briefClient numberReply
  rw [httpAnswer_numberReply] at sound ends
  have leaks : Leaks briefClient numberReply :=
    ⟨0, Nat.zero_le _, fun _ lt => absurd lt (Nat.not_lt_zero _), .content rfl rfl rfl rfl⟩
  have evaluated : (load {} [] false [.text tornSource]).2.toOption.map (fun program =>
      ((tornQuery program).trace (replyingHost (.crashed wrongType)) ()).filterMap Event.crash?)
      = some [wrongType] := by
    decide +kernel
  obtain ⟨log, program, loaded, crashes⟩ := exists_of_load_map evaluated
  obtain ⟨event, isEvent, isCrash⟩ := List.mem_filterMap.mp (crashes ▸ List.mem_singleton_self wrongType)
  obtain ⟨request, rfl⟩ := Event.crash?_eq_some isCrash
  rw [httpAnswer_numberReply]
  exact ⟨leaks, fun isSound => sound.mp isSound leaks, log, program, loaded,
    (ends _ _ _ _ _ _ _ request isEvent).1 leaks⟩

end PromptChain
