/-
**Runs of a program.**

A program is loaded once and chains are run in it, one by name or all eager ones (`Engine.runNamed`,
`Engine.runEager`). What the engine says goes to its host. If transcripts are kept, one is saved at the
end of every chain; a transcript that cannot be saved ends the run.
-/

import PromptChain.Archive
import PromptChain.Chain.Execution

namespace PromptChain

/-- What is said when a program is loaded. -/
def Program.loadLines (program : Program) : List LogLine :=
  let names := if program.names.isEmpty then "-" else String.intercalate ", " program.names
  program.loadErrors.map (fun fault => ⟨.error, "[load] " ++ fault.text⟩)
    ++ [⟨.info, "[load] " ++ toString program.units.length ++ " unit(s) ready: " ++ names⟩]

/-- A host that runs chains and keeps their transcripts, if it does. -/
structure Engine (σ : Type) where
  host : Query.Host σ
  setting : Setting
  keep : Option (Report → Session → σ → Except Files.Refusal String × σ) := none

namespace Engine

variable {σ : Type}

/-- Tells the host something. -/
def info (engine : Engine σ) (text : String) (state : σ) : σ := engine.host.say ⟨.info, text⟩ state

/-- Keeps the transcript of a chain, if that is asked for. -/
def save (engine : Engine σ) (report : Report) (session : Session) (state : σ) :
    Except Files.Refusal Unit × σ :=
  match engine.keep with
  | none => (.ok (), state)
  | some keep =>
    match keep report session state with
    | (.error refusal, state) => (.error refusal, state)
    | (.ok path, state) => (.ok (), engine.info ("[chain] transcript saved to " ++ path) state)

/-- Runs the chain of a name; gives its report and the session at its end. -/
def runNamed (engine : Engine σ) (name user : String) (session : Option Session) (state : σ) :
    Except Files.Refusal (Report × Session) × σ :=
  let ((report, session), state) := (invoke engine.setting name user session).perform engine.host state
  match engine.save report session state with
  | (.ok _, state) => (.ok (report, session), state)
  | (.error refusal, state) => (.error refusal, state)

/-- Runs the chains of some names. They run one after the other, where they could also run side by side and
their requests come in any order; each has a session of its own, so its report does not tell. -/
def runAll (engine : Engine σ) (user : String) (state : σ) :
    List String → Except Files.Refusal (List Report) × σ
  | [] => (.ok [], state)
  | name :: rest =>
    match engine.runNamed name user none state with
    | (.error refusal, state) => (.error refusal, state)
    | (.ok (report, _), state) =>
      match engine.runAll user state rest with
      | (.error refusal, state) => (.error refusal, state)
      | (.ok reports, state) => (.ok (report :: reports), state)

/-- Runs all eager chains. -/
def runEager (engine : Engine σ) (user : String) (state : σ) :
    Except Files.Refusal (List Report) × σ :=
  match engine.setting.program.eagerUnits.map PromptUnit.name with
  | [] => (.ok [], engine.info "[chain] no eager units to run" state)
  | names =>
    let line := "[chain] starting " ++ toString names.length ++ " eager chain(s): "
      ++ String.intercalate ", " names
    engine.runAll user (engine.info line state) names

end Engine

end PromptChain
