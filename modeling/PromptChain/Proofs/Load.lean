/-
**What loading gives.**

The sources of a load fill a program (`filled_of_readSources`), so a program that was loaded is tidy
(`tidy_of_load`): its units stand under their own keys, each once. It is also linked to the call graph that
it keeps (`linked_of_load`): the graph has all its calls and knows its names, and every call finds a unit.
-/

import PromptChain.Load
import PromptChain.Proofs.Circuits
import PromptChain.Proofs.Validation

namespace PromptChain

variable {tree : Files.Tree} {here : Files.Place} {strict : Bool} {sources : List SourceInput}
  {log : List LogLine} {units : List PromptUnit} {program : Program}

theorem parseUnits_of_unitsOfContent {origin : Option String} {content : String}
    (read : unitsOfContent origin content = .ok units) :
    Source.parseUnits origin content = .ok units := by
  unfold unitsOfContent at read
  split at read
  · rename_i parsed
    rw [parsed, Except.ok.inj read]
  · cases read
  · cases read

/-- The units of a source were parsed from a text. -/
theorem exists_parsed {source : SourceInput} (read : source.units tree here = .ok units) :
    ∃ origin content, Source.parseUnits origin content = .ok units := by
  cases source with
  | text content => exact ⟨none, content, parseUnits_of_unitsOfContent read⟩
  | file path =>
    rw [SourceInput.units] at read
    split at read
    · cases read
    · exact ⟨some path.text, _, parseUnits_of_unitsOfContent read⟩

/-- **Sources fill a program.** -/
theorem filled_of_readSources {program : Logged Program} {result : Program} (filled : program.value.Filled)
    (read : readSources tree here strict program sources = (log, .ok result)) : result.Filled := by
  induction sources generalizing program with
  | nil =>
    cases read
    exact filled
  | cons source sources ih =>
    rw [readSources] at read
    split at read
    · rename_i units found
      obtain ⟨origin, content, parsed⟩ := exists_parsed found
      have labelled : { program.value with
          sources := program.value.sources ++ [source.label] }.Filled := filled.note _ _
      exact ih (labelled.addUnits parsed) read
    · rename_i fault _
      have noted : { program.value with
          loadErrors := program.value.loadErrors ++ [fault] }.Filled := filled.note _ _
      split at read
      · cases read
      · exact ih noted read
    · cases read

/-- What is computed from a program that is loaded holds of that program. -/
theorem exists_of_load_map {α : Type} {read : Program → α} {value : α}
    (evaluated : (load tree here strict sources).2.toOption.map read = some value) :
    ∃ log program, load tree here strict sources = (log, .ok program) ∧ read program = value := by
  rcases loaded : load tree here strict sources with ⟨log, result⟩
  rw [loaded] at evaluated
  cases result with
  | error problem => cases evaluated
  | ok program => exact ⟨log, program, rfl, Option.some.inj evaluated⟩

/-- A program that was loaded comes from one whose units have passed their check. -/
theorem exists_checked_of_load (loaded : load tree here strict sources = (log, .ok program)) :
    ∃ checked : Logged Program, checked.value.Tidy ∧ program = (Program.checkCalls checked).value := by
  unfold load at loaded
  split at loaded
  · cases loaded
  · rename_i lines filled read
    obtain ⟨checked, passes, tidy, _⟩ := (filled_of_readSources .empty read).tidy.exists_checked
    refine ⟨checked, tidy, ?_⟩
    unfold Program.analyze at loaded
    rw [passes] at loaded
    split at loaded
    · rename_i result analyzed
      cases loaded
      dsimp only at analyzed
      split at analyzed <;> cases analyzed
      rfl
    · cases loaded

/-- **A program that was loaded is tidy.** -/
theorem tidy_of_load (loaded : load tree here strict sources = (log, .ok program)) :
    program.Tidy := by
  obtain ⟨checked, tidy, rfl⟩ := exists_checked_of_load loaded
  exact tidy.checkCalls_spec.1

/-! ### Linked programs -/

namespace Program

/-- A loaded unit has an arm that calls a name. -/
def HasCall (program : Program) (caller : PromptUnit) (name : String) : Prop :=
  caller ∈ program.loaded ∧ ∃ arm ∈ caller.arms, name ∈ arm.action.targets

/-- The call graph of a program has the calls of its units, and every call finds one of them. -/
structure Linked (program : Program) (graph : CallGraph) : Prop where
  tidy : program.Tidy
  kept : program.graph = some graph
  named : ∀ unit ∈ program.loaded, graph.nameOf unit.key = unit.name
  calls : ∀ caller name, program.HasCall caller name → graph.Calls caller.key (nameKey name)
  found : ∀ caller name, program.HasCall caller name → ∃ target, program.lookup name = some target

/-- Blocking units leaves the call graph alone. -/
theorem graph_blockAll (program : Logged Program) (bad : Assoc Fault) :
    (blockAll program bad).value.graph = program.value.graph := by
  unfold blockAll
  induction bad generalizing program with
  | nil => rfl
  | cons entry bad ih =>
    rw [List.foldl_cons, ih]
    split <;> rfl

/-- **Checking the calls of a program links it.** -/
theorem Tidy.linked_checkCalls {checked : Logged Program} (tidy : checked.value.Tidy) :
    (checkCalls checked).value.Linked (CallGraph.ofUnits checked.value.loaded) := by
  have tidyAfter := tidy.checkCalls_spec.1
  have wasLoaded := fun {unit} isLoaded => ((tidy.mem_loaded_checkCalls unit).mp isLoaded).1
  have isEdge : ∀ caller name, (checkCalls checked).value.HasCall caller name →
      (CallGraph.ofUnits checked.value.loaded).Calls caller.key (nameKey name) := by
    rintro caller name ⟨isLoaded, arm, isArm, isTarget⟩
    refine (CallGraph.hasEdge_ofUnits _ _ _).mpr ⟨caller, wasLoaded isLoaded, rfl, ?_⟩
    exact PromptUnit.mem_callees.mpr ⟨arm, isArm, name, isTarget, rfl⟩
  refine ⟨tidyAfter, graph_blockAll _ _, ?_, isEdge, ?_⟩
  · intro unit isLoaded
    exact CallGraph.nameOf_ofUnits (tidy.map_key_loaded ▸ tidy.distinct) (wasLoaded isLoaded)
  · intro caller name isCall
    have call := isEdge caller name isCall
    obtain ⟨_, whole⟩ := (tidy.mem_loaded_checkCalls caller).mp isCall.1
    -- The target is a unit, or the caller would dangle; and it leads to what the caller leads to.
    have isDefined : (CallGraph.ofUnits checked.value.loaded).isDefined (nameKey name) = true := by
      by_contra undefined
      exact whole ⟨caller.key, .refl, nameKey name, call, Bool.not_eq_true _ ▸ undefined⟩
    obtain ⟨target, isTarget, same⟩ := (CallGraph.isDefined_ofUnits _ _).mp isDefined
    have isLoaded : target ∈ (checkCalls checked).value.loaded := by
      refine (tidy.mem_loaded_checkCalls target).mpr ⟨isTarget, ?_⟩
      rintro ⟨last, path, dangles⟩
      exact whole ⟨last, .head (same ▸ call) path, dangles⟩
    exact ⟨target, by rw [lookup, ← same, tidyAfter.mem_loaded.mp isLoaded]⟩

end Program

/-- **A program that was loaded is linked.** -/
theorem linked_of_load (loaded : load tree here strict sources = (log, .ok program)) :
    ∃ graph, program.Linked graph := by
  obtain ⟨checked, tidy, rfl⟩ := exists_checked_of_load loaded
  exact ⟨_, tidy.linked_checkCalls⟩

end PromptChain
