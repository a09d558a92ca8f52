/-
**Validation keeps the greatest self-contained set of units.**

The analysis of a program works in three passes, which are specified one by one:

* `Tidy.exists_checked`: the sound units stay, with their metadata;
* `get?_brokenReferences`: each unit that goes with the second has the first fault that is added for it;
* `Tidy.isBroken_iff`: a unit is broken when calls lead from it to a unit that calls a name without a unit;
* `blockAll_spec`: the broken units go.

The graph is made after the first pass, so it lacks the calls of unsound units; `reaches_good_iff` says
that this hides nothing. What is left are the units from which calls reach sound units only
(`Filled.mem_loadedUnits`).

Main statement: `analyze_loads_greatest_selfContained`.
-/

import Mathlib.Order.Bounds.Defs
import PromptChain.Analysis
import PromptChain.Proofs.CallGraph
import PromptChain.Proofs.Program

namespace PromptChain

/-! ### Units that are good by themselves -/

/-- A text that is `true` or `false` without the blanks around it. -/
def IsSwitch (text : String) : Prop := Text.trimmed text = "true" ∨ Text.trimmed text = "false"

/-- A direction is there, and the switches that are there are switches. -/
structure ValidMetadata (entries : List MetaEntry) : Prop where
  direction : (entryText? entries "direction").isSome
  eager : ∀ text ∈ entryText? entries "eager", IsSwitch text
  history : ∀ text ∈ entryText? entries "history", IsSwitch text

/-- A unit with valid metadata and an arm. -/
structure PromptUnit.Sound (unit : PromptUnit) : Prop where
  metadata : ValidMetadata unit.entries
  someArm : unit.arms ≠ []

section Metadata

open Shape

theorem isOk_with {α β : Type} (function : Checked (α → β)) (argument : Checked α) :
    (function.with argument).isOk = (function.isOk && argument.isOk) := by
  cases function <;> cases argument <;> rfl

theorem isOk_within {α : Type} (step : Step) (checked : Checked α) :
    (checked.within step).isOk = checked.isOk := by
  cases checked <;> rfl

theorem get?_texts (entries : List MetaEntry) (key : String) :
    Assoc.get? (entries.map fun entry => (entry.key, Json.str entry.text)) key
      = (entryText? entries key).map Json.str := by
  induction entries with
  | nil => rfl
  | cons entry entries ih =>
    rw [List.map_cons, Assoc.get?_cons, ih, entryText?, entryText?]
    by_cases same : entry.key = key
    · rw [if_pos same, List.find?_cons_of_pos (by simpa using same)]
      rfl
    · rw [if_neg same, List.find?_cons_of_neg (by simpa using same)]

theorem isSome_switchOf? (text : String) : (switchOf? text).isSome = true ↔ IsSwitch text := by
  unfold switchOf? IsSwitch
  split
  · rename_i isTrue
    simp [isTrue]
  · rename_i isFalse
    simp [isFalse]
  · rename_i notTrue notFalse
    simp only [Option.isSome_none, Bool.false_eq_true, false_iff, not_or]
    exact ⟨notTrue, notFalse⟩

theorem isOk_switch (text : String) : (switch (.str text)).isOk = true ↔ IsSwitch text := by
  rw [← isSome_switchOf?]
  unfold switch
  simp only
  cases switchOf? text <;> simp [refuse, Except.isOk, Except.toBool]

theorem isOk_optional_switch (otherwise : Bool) (entries : List MetaEntry) (key : String) :
    (Shape.optional switch otherwise (entries.map fun entry => (entry.key, Json.str entry.text)) key).isOk
      = true ↔ ∀ text ∈ entryText? entries key, IsSwitch text := by
  unfold Shape.optional
  rw [get?_texts]
  cases entryText? entries key with
  | none => simp [Except.isOk, Except.toBool]
  | some text =>
    simp only [Option.map_some, Option.mem_some_iff, forall_eq']
    rw [isOk_within, isOk_switch]

theorem isOk_optional_text (entries : List MetaEntry) (key : String) :
    (Shape.optional Shape.text "" (entries.map fun entry => (entry.key, Json.str entry.text)) key).isOk
      = true := by
  unfold Shape.optional
  rw [get?_texts]
  cases entryText? entries key <;> rfl

/-- The fields beside the direction are read when the switches are switches. -/
theorem isOk_fields (template : Template) (entries : List MetaEntry) :
    (Metadata.fields (.ok template) (entries.map fun entry => (entry.key, Json.str entry.text))).isOk
      = true ↔ (∀ text ∈ entryText? entries "eager", IsSwitch text) ∧
        ∀ text ∈ entryText? entries "history", IsSwitch text := by
  unfold Metadata.fields
  rw [isOk_with, isOk_with, isOk_with, isOk_with, isOk_optional_text, Bool.and_eq_true,
    Bool.and_eq_true, isOk_optional_switch, isOk_optional_switch]
  simp [Except.isOk, Except.toBool]

end Metadata

/-- The unit as it was before its check. -/
def PromptUnit.unchecked (unit : PromptUnit) : PromptUnit := { unit with metadata := none }

namespace Program

variable {unit : PromptUnit} {units : List PromptUnit} {program : Program}

/-- **The metadata of a well-formed unit** is valid, or it lacks a direction or has problems that can be told. -/
theorem ofEntries_cases (wellFormed : unit.WellFormed) :
    (ValidMetadata unit.entries ∧ ∃ metadata, Metadata.ofEntries unit.entries = .ok metadata) ∨
      (¬ ValidMetadata unit.entries ∧ (Metadata.ofEntries unit.entries = .error .noDirection ∨
        ∃ problems, Metadata.ofEntries unit.entries = .error (.problems problems))) := by
  unfold Metadata.ofEntries
  cases found : entryText? unit.entries "direction" with
  | none =>
    refine Or.inr ⟨fun valid => ?_, Or.inl rfl⟩
    have direction := valid.direction
    rw [found] at direction
    cases direction
  | some direction =>
    obtain ⟨entry, isEntry, _, rfl⟩ := Source.entryText?_eq_some found
    have closed := (Source.parse?_isSome entry.text).mpr (wellFormed.closed entry isEntry)
    obtain ⟨template, parsed⟩ := Option.isSome_iff_exists.mp closed
    have fields := isOk_fields template unit.entries
    simp only [parsed]
    cases read : Metadata.fields (.ok template)
        (unit.entries.map fun entry => (entry.key, Json.str entry.text)) with
    | error problems =>
      rw [read] at fields
      refine Or.inr ⟨fun valid => ?_, Or.inr ⟨problems, rfl⟩⟩
      exact absurd (fields.mpr ⟨valid.eager, valid.history⟩) Bool.false_ne_true
    | ok metadata =>
      rw [read] at fields
      obtain ⟨eager, history⟩ := fields.mp rfl
      exact Or.inl ⟨⟨by rw [found]; rfl, eager, history⟩, metadata, rfl⟩

/-- **The check of a well-formed unit** passes the sound ones and refuses the others. -/
theorem checkUnit_cases (wellFormed : unit.WellFormed) :
    (unit.Sound ∧ ∃ metadata, checkUnit unit = .passed metadata) ∨
      (¬ unit.Sound ∧ ∃ fault, checkUnit unit = .refused fault) := by
  unfold checkUnit
  rcases ofEntries_cases wellFormed with ⟨valid, metadata, read⟩ | ⟨invalid, read | ⟨problems, read⟩⟩
  · exact Or.inl ⟨⟨valid, wellFormed.someArm⟩, metadata, by simp [read, wellFormed.someArm]⟩
  · exact Or.inr ⟨fun sound => invalid sound.metadata, _, by rw [read]⟩
  · exact Or.inr ⟨fun sound => invalid sound.metadata, _, by rw [read]⟩

/-- A unit with its metadata, once it has passed its check. -/
def checked? (unit : PromptUnit) : Option PromptUnit :=
  match checkUnit unit with
  | .passed metadata => some { unit with metadata := some metadata }
  | _ => none

theorem isSome_checked? (wellFormed : unit.WellFormed) :
    (checked? unit).isSome = true ↔ unit.Sound := by
  unfold checked?
  rcases checkUnit_cases wellFormed with ⟨sound, metadata, found⟩ | ⟨unsound, fault, found⟩
  · simp [found, sound]
  · simp [found, unsound]

/-- A unit that has passed its check differs in its metadata only. -/
theorem checked?_eq_some {unit after : PromptUnit} (passed : checked? unit = some after) :
    ∃ metadata, checkUnit unit = .passed metadata ∧ after = { unit with metadata := some metadata } := by
  unfold checked? at passed
  split at passed
  · rename_i metadata found
    exact ⟨metadata, found, (Option.some.inj passed).symm⟩
  · cases passed

/-- Without the metadata of its check, a unit is as it was before. -/
theorem unchecked_of_checked? {before after : PromptUnit} (passed : checked? before = some after)
    (unchecked : before.metadata = none) : after.unchecked = before := by
  obtain ⟨metadata, _, rfl⟩ := checked?_eq_some passed
  rw [PromptUnit.unchecked, ← unchecked]

/-- What the check of units leaves of a program: each unit that passes, with its metadata, and all that
was not checked. -/
structure Checks (program : Program) (units : List PromptUnit) (result : Logged Program × Bool) :
    Prop where
  readable : result.2 = true
  tidy : result.1.value.Tidy
  inside : ∀ unit ∈ units, Assoc.get? result.1.value.units unit.key = checked? unit
  outside : ∀ key ∉ units.map PromptUnit.key,
    Assoc.get? result.1.value.units key = Assoc.get? program.units key

/-- The rest is checked in a program in which the first unit is settled. -/
theorem Checks.cons {program next : Program} {result : Logged Program × Bool}
    (isNew : unit.key ∉ units.map PromptUnit.key)
    (own : Assoc.get? next.units unit.key = checked? unit)
    (others : ∀ key, unit.key ≠ key → Assoc.get? next.units key = Assoc.get? program.units key)
    (rest : Checks next units result) : Checks program (unit :: units) result where
  readable := rest.readable
  tidy := rest.tidy
  inside := by
    rw [List.forall_mem_cons]
    exact ⟨by rw [rest.outside unit.key isNew, own], rest.inside⟩
  outside := by
    intro key outside
    rw [List.map_cons, List.mem_cons, not_or] at outside
    rw [rest.outside key outside.2, others key (Ne.symm outside.1)]

/-- **The check of all units** keeps each that passes, with its metadata, and blocks each other. -/
theorem checkUnits_checks (wellFormed : ∀ unit ∈ units, unit.WellFormed)
    (distinct : (units.map PromptUnit.key).Nodup) (program : Logged Program)
    (tidy : program.value.Tidy) : Checks program.value units (checkUnits program units) := by
  induction units generalizing program with
  | nil => exact ⟨rfl, tidy, by simp, fun _ _ => rfl⟩
  | cons unit units ih =>
    rw [List.map_cons, List.nodup_cons] at distinct
    rw [List.forall_mem_cons] at wellFormed
    rcases checkUnit_cases wellFormed.1 with ⟨_, metadata, found⟩ | ⟨_, fault, found⟩
    · rw [checkUnits, found]
      refine Checks.cons distinct.1 ?_ ?_ (ih wellFormed.2 distinct.2 _
        (tidy.setUnit (wellFormed.1.setMetadata (some metadata))))
      · rw [get?_setUnit, checked?, found]
        exact if_pos rfl
      · intro key other
        rw [get?_setUnit]
        exact if_neg other
    · rw [checkUnits, found]
      refine Checks.cons distinct.1 ?_ ?_ (ih wellFormed.2 distinct.2 _ (tidy.block unit fault))
      · rw [blockLogged, get?_block, checked?, found]
        exact if_pos rfl
      · intro key other
        rw [blockLogged, get?_block]
        exact if_neg other

/-! ### Broken references -/

/-- A step sets the fault of a key unless there is one. -/
theorem get?_set_unless (bad : Assoc Fault) (added : String) (fault : Fault) (key : String) :
    Assoc.get? (if Assoc.has bad added then bad else Assoc.set bad added fault) key
      = (Assoc.get? bad key).or (if added = key then some fault else none) := by
  rw [Assoc.has_eq_isSome]
  split
  · rename_i there
    split
    · rename_i same
      obtain ⟨early, found⟩ := Option.isSome_iff_exists.mp (same ▸ there)
      rw [found, Option.some_or]
    · rw [Option.or_none]
  · rename_i isNew
    rw [Assoc.get?_set]
    split
    · rename_i same
      rw [← same, Option.not_isSome_iff_eq_none.mp isNew, Option.none_or]
    · rw [Option.or_none]

/-- When each step adds a fault for a key unless there is one, the first that is added counts. -/
theorem get?_foldl_or {β : Type} {key : String} {step : Assoc Fault → β → Assoc Fault}
    {adds : β → Option Fault}
    (each : ∀ bad item, Assoc.get? (step bad item) key = (Assoc.get? bad key).or (adds item))
    (items : List β) (bad : Assoc Fault) :
    Assoc.get? (items.foldl step bad) key = (Assoc.get? bad key).or (items.findSome? adds) := by
  induction items generalizing bad with
  | nil => rw [List.foldl_nil, List.findSome?_nil, Option.or_none]
  | cons item items ih =>
    rw [List.foldl_cons, ih, each, Option.or_assoc, List.findSome?_cons]
    cases adds item <;> rfl

section Faults

variable (program : Program) (graph : CallGraph)

/-- The fault of a call to a name without a unit. -/
def missingFault (edge : CallGraph.Dangling) (unit : PromptUnit) : Fault :=
  .source .unresolvedReference ((ReferenceProblem.missing edge.target
    (Assoc.has program.blocked (nameKey edge.target))).message unit.name)
    { line := some edge.line, source := unit.source }

/-- The fault of a unit from which calls lead to a broken one. -/
def dependenceFault (unit broken : PromptUnit) : Fault :=
  .source .unresolvedReference ((ReferenceProblem.dependsOn broken.name).message unit.name) (locationOf unit)

theorem get?_missingTargets (key : String) :
    Assoc.get? (program.missingTargets graph) key = graph.dangling.findSome? fun edge =>
      if edge.caller = key then (program.lookup key).map (program.missingFault edge) else none := by
  unfold missingTargets
  refine (get?_foldl_or (fun bad edge => ?_) graph.dangling []).trans (Option.none_or ..)
  by_cases same : edge.caller = key
  · subst same
    rw [if_pos rfl]
    cases program.lookup edge.caller with
    | none => exact (Option.or_none ..).symm
    | some unit => exact (get?_set_unless ..).trans (by rw [if_pos rfl]; rfl)
  · rw [if_neg same, Option.or_none]
    cases program.lookup edge.caller with
    | none => rfl
    | some unit => exact (get?_set_unless ..).trans (by rw [if_neg same, Option.or_none])

theorem get?_addDependents (bad : Assoc Fault) (last key : String) :
    Assoc.get? (program.addDependents graph bad last) key
      = (Assoc.get? bad key).or ((graph.callersOf last).findSome? fun caller =>
        if caller = key then
          (program.lookup key).bind fun unit => (program.lookup last).map (dependenceFault unit)
        else none) := by
  unfold addDependents
  refine get?_foldl_or (fun bad caller => ?_) _ bad
  by_cases same : caller = key
  · subst same
    rw [if_pos rfl]
    cases program.lookup caller with
    | none => exact (Option.or_none ..).symm
    | some unit =>
      cases program.lookup last with
      | none => exact (Option.or_none ..).symm
      | some broken => exact (get?_set_unless ..).trans (by rw [if_pos rfl]; rfl)
  · rw [if_neg same, Option.or_none]
    cases program.lookup caller with
    | none => rfl
    | some unit =>
      cases program.lookup last with
      | none => rfl
      | some broken => exact (get?_set_unless ..).trans (by rw [if_neg same, Option.or_none])

theorem get?_brokenReferences (key : String) :
    Assoc.get? (program.brokenReferences graph) key
      = (Assoc.get? (program.missingTargets graph) key).or
        ((Assoc.keys (program.missingTargets graph)).findSome? fun last =>
          (graph.callersOf last).findSome? fun caller =>
            if caller = key then
              (program.lookup key).bind fun unit => (program.lookup last).map (dependenceFault unit)
            else none) :=
  get?_foldl_or (fun bad last => get?_addDependents program graph bad last key) _ _

/-- The units that call a name without a unit. -/
theorem isSome_missingTargets (key : String) :
    (Assoc.get? (program.missingTargets graph) key).isSome = true ↔
      ∃ edge ∈ graph.dangling, edge.caller = key ∧ (program.lookup key).isSome = true := by
  rw [get?_missingTargets, List.findSome?_isSome_iff]
  refine exists_congr fun edge => and_congr_right fun _ => ?_
  split
  · rename_i same
    simp [same]
  · rename_i different
    simp [different]

/-- The units that do so, and those from which calls lead to them. -/
theorem isSome_brokenReferences (key : String) :
    (Assoc.get? (program.brokenReferences graph) key).isSome = true ↔
      (Assoc.get? (program.missingTargets graph) key).isSome = true ∨
        ∃ last ∈ Assoc.keys (program.missingTargets graph), key ∈ graph.callersOf last ∧
          (program.lookup key).isSome = true ∧ (program.lookup last).isSome = true := by
  rw [get?_brokenReferences, Option.isSome_or, Bool.or_eq_true, List.findSome?_isSome_iff]
  refine or_congr_right (exists_congr fun last => and_congr_right fun _ => ?_)
  rw [List.findSome?_isSome_iff]
  constructor
  · rintro ⟨caller, isCaller, adds⟩
    split at adds
    · rename_i same
      obtain ⟨fault, made⟩ := Option.isSome_iff_exists.mp adds
      obtain ⟨unit, found, madeOf⟩ := Option.bind_eq_some_iff.mp made
      obtain ⟨broken, foundLast, _⟩ := Option.map_eq_some_iff.mp madeOf
      exact ⟨same ▸ isCaller, by rw [found]; rfl, by rw [foundLast]; rfl⟩
    · cases adds
  · rintro ⟨isCaller, isUnit, isBroken⟩
    obtain ⟨unit, found⟩ := Option.isSome_iff_exists.mp isUnit
    obtain ⟨broken, foundLast⟩ := Option.isSome_iff_exists.mp isBroken
    exact ⟨key, isCaller, by rw [if_pos rfl, found, foundLast]; rfl⟩

end Faults

/-- A node with a call to a name that has no unit. -/
def Dangles (graph : CallGraph) (key : String) : Prop :=
  ∃ target, graph.Calls key target ∧ graph.isDefined target = false

/-- A caller in the graph of a program can be looked up. -/
theorem Tidy.lookup_caller (tidy : program.Tidy) {caller target : String}
    (call : (CallGraph.ofUnits program.loaded).Calls caller target) :
    ∃ unit, Assoc.get? program.units caller = some unit ∧ program.lookup caller = some unit := by
  obtain ⟨unit, isLoaded, rfl, _⟩ := (CallGraph.hasEdge_ofUnits _ _ _).mp call
  have found := tidy.mem_loaded.mp isLoaded
  exact ⟨unit, found, tidy.lookup_key found⟩

/-- **A unit is broken when calls lead from it to a unit that calls a name without a unit.** -/
theorem Tidy.isBroken_iff (tidy : program.Tidy) (key : String) :
    (Assoc.get? (program.brokenReferences (CallGraph.ofUnits program.loaded)) key).isSome = true ↔
      ∃ last, Relation.ReflTransGen (CallGraph.ofUnits program.loaded).Calls key last ∧
        Dangles (CallGraph.ofUnits program.loaded) last := by
  have missing : ∀ caller, (Assoc.get? (program.missingTargets (CallGraph.ofUnits program.loaded))
      caller).isSome = true ↔ Dangles (CallGraph.ofUnits program.loaded) caller := by
    intro caller
    rw [isSome_missingTargets, Dangles]
    refine Iff.trans ⟨fun ⟨edge, isEdge, same, _⟩ => ⟨edge, isEdge, same⟩, fun dangles => ?_⟩
      (CallGraph.exists_dangling_iff program.loaded caller)
    obtain ⟨target, call, _⟩ := (CallGraph.exists_dangling_iff program.loaded caller).mp dangles
    obtain ⟨edge, isEdge, same⟩ := dangles
    obtain ⟨unit, _, found⟩ := tidy.lookup_caller call
    exact ⟨edge, isEdge, same, by rw [found]; rfl⟩
  rw [isSome_brokenReferences, missing]
  constructor
  · rintro (dangles | ⟨last, isMissing, isCaller, _⟩)
    · exact ⟨key, Relation.ReflTransGen.refl, dangles⟩
    · rw [Assoc.mem_keys_iff, missing] at isMissing
      exact ⟨last, (CallGraph.mem_callersOf_iff.mp isCaller).2.to_reflTransGen, isMissing⟩
  · rintro ⟨last, path, dangles⟩
    by_cases same : key = last
    · exact Or.inl (same ▸ dangles)
    · rcases Relation.reflTransGen_iff_eq_or_transGen.mp path with wrong | path
      · exact absurd wrong.symm same
      · have isMissing : last ∈ Assoc.keys (program.missingTargets
            (CallGraph.ofUnits program.loaded)) := by
          rw [Assoc.mem_keys_iff, missing]
          exact dangles
        obtain ⟨next, firstCall, _⟩ := Relation.TransGen.head'_iff.mp path
        obtain ⟨target, lastCall, _⟩ := dangles
        obtain ⟨_, _, foundFirst⟩ := tidy.lookup_caller firstCall
        obtain ⟨_, _, foundLast⟩ := tidy.lookup_caller lastCall
        refine Or.inr ⟨last, isMissing, CallGraph.mem_callersOf_iff.mpr ⟨same, path⟩, ?_, ?_⟩
        · rw [foundFirst]
          rfl
        · rw [foundLast]
          rfl

/-- The keys of broken units are keys of units. -/
theorem Tidy.exists_broken (tidy : program.Tidy) {key : String}
    (broken : (Assoc.get? (program.brokenReferences (CallGraph.ofUnits program.loaded)) key).isSome) :
    ∃ unit, Assoc.get? program.units key = some unit := by
  obtain ⟨last, path, target, lastCall, _⟩ := (tidy.isBroken_iff key).mp broken
  have calls : ∃ next, (CallGraph.ofUnits program.loaded).Calls key next := by
    rcases Relation.ReflTransGen.cases_head path with same | ⟨next, call, _⟩
    · exact ⟨target, same ▸ lastCall⟩
    · exact ⟨next, call⟩
  obtain ⟨next, call⟩ := calls
  obtain ⟨unit, found, _⟩ := tidy.lookup_caller call
  exact ⟨unit, found⟩

/-- Blocking the unit of a key leaves the units of the other keys. -/
theorem exists_blockAll_cons {program : Logged Program} (tidy : program.value.Tidy)
    {entry : String × Fault} (isKey : nameKey entry.1 = entry.1) (bad : Assoc Fault) :
    ∃ next : Logged Program, blockAll program (entry :: bad) = blockAll next bad ∧ next.value.Tidy ∧
      ∀ key, Assoc.get? next.value.units key
        = if entry.1 = key then none else Assoc.get? program.value.units key := by
  cases found : program.value.lookup entry.1 with
  | none =>
    refine ⟨program, by rw [blockAll, List.foldl_cons, found]; rfl, tidy, fun key => ?_⟩
    split
    · rename_i same
      rwa [lookup, isKey, same] at found
    · rfl
  | some unit =>
    refine ⟨blockLogged program unit entry.2, by rw [blockAll, List.foldl_cons, found]; rfl,
      tidy.block unit entry.2, fun key => ?_⟩
    rw [lookup, isKey] at found
    rw [blockLogged, get?_block, tidy.own found]

/-- **Blocking the units of keys** leaves the units of the other keys. -/
theorem blockAll_spec {bad : Assoc Fault} (areKeys : ∀ key ∈ Assoc.keys bad, nameKey key = key)
    (program : Logged Program) (tidy : program.value.Tidy) :
    (blockAll program bad).value.Tidy ∧
      ∀ key, Assoc.get? (blockAll program bad).value.units key
        = if (Assoc.get? bad key).isSome = true then none else Assoc.get? program.value.units key := by
  induction bad generalizing program with
  | nil => exact ⟨tidy, fun key => rfl⟩
  | cons entry bad ih =>
    rw [Assoc.keys, List.map_cons, List.forall_mem_cons] at areKeys
    obtain ⟨next, same, tidyNext, others⟩ := exists_blockAll_cons tidy areKeys.1 bad
    obtain ⟨tidyAfter, after⟩ := ih areKeys.2 next tidyNext
    refine ⟨same ▸ tidyAfter, fun key => ?_⟩
    rw [same, after, others, Assoc.get?_cons]
    by_cases here : entry.1 = key
    · simp [here]
    · simp [here]

/-! ### The passes of the analysis -/

/-- **The first pass** keeps the units that pass their check. -/
theorem Tidy.exists_checked (tidy : program.Tidy) :
    ∃ checked : Logged Program, checkUnits ⟨program, []⟩ program.loaded = (checked, true) ∧
      checked.value.Tidy ∧ ∀ key, Assoc.get? checked.value.units key
        = (Assoc.get? program.units key).bind checked? := by
  have wellFormed : ∀ unit ∈ program.loaded, unit.WellFormed :=
    fun unit isLoaded => tidy.wellFormed (tidy.mem_loaded.mp isLoaded)
  have distinct : (program.loaded.map PromptUnit.key).Nodup := tidy.map_key_loaded ▸ tidy.distinct
  have settled : Checks program program.loaded (checkUnits ⟨program, []⟩ program.loaded) :=
    checkUnits_checks wellFormed distinct ⟨program, []⟩ tidy
  refine ⟨_, Prod.ext rfl settled.readable, settled.tidy, fun key => ?_⟩
  cases found : Assoc.get? program.units key with
  | none =>
    rw [settled.outside, found]
    · rfl
    · rw [tidy.map_key_loaded, Assoc.mem_keys_iff, found]
      exact Bool.false_ne_true
  | some unit =>
    have own := tidy.own found
    rw [← own] at found
    rw [← own, settled.inside unit (tidy.mem_loaded.mpr found)]
    rfl

/-- The later passes block the broken units. -/
theorem Tidy.checkCalls_spec {program : Logged Program} (tidy : program.value.Tidy) :
    (checkCalls program).value.Tidy ∧ ∀ key, Assoc.get? (checkCalls program).value.units key
      = if (Assoc.get? (program.value.brokenReferences (CallGraph.ofUnits program.value.loaded)) key).isSome
          = true then none else Assoc.get? program.value.units key := by
  -- The graph is kept in the program, whose units stay the same.
  have tidyWith : { program.value with
      graph := some (CallGraph.ofUnits program.value.loaded) }.Tidy := ⟨tidy.distinct, tidy.entry⟩
  have areKeys := fun key isKey =>
    (tidy.exists_broken ((Assoc.mem_keys_iff _ key).mp isKey)).elim fun _ found => tidy.nameKey_key found
  exact blockAll_spec areKeys ⟨_, program.log⟩ tidyWith

/-- **The later passes** keep the units from which no calls lead to a unit that dangles. -/
theorem Tidy.mem_loaded_checkCalls {program : Logged Program} (tidy : program.value.Tidy)
    (unit : PromptUnit) : unit ∈ (checkCalls program).value.loaded ↔ unit ∈ program.value.loaded ∧
      ¬ ∃ last, Relation.ReflTransGen (CallGraph.ofUnits program.value.loaded).Calls unit.key last ∧
        Dangles (CallGraph.ofUnits program.value.loaded) last := by
  obtain ⟨tidyAfter, after⟩ := tidy.checkCalls_spec
  rw [tidyAfter.mem_loaded, after, tidy.mem_loaded, ← tidy.isBroken_iff]
  split
  · rename_i broken
    simp [broken]
  · rename_i whole
    simp [whole]

end Program

/-! ### What the analysis loads -/

/-- A call of a unit among some. -/
def CallsIn (units : List PromptUnit) (caller target : String) : Prop :=
  ∃ unit ∈ units, unit.key = caller ∧ target ∈ unit.callees

/-- A sound unit among some has the key. -/
def IsSoundKey (units : List PromptUnit) (key : String) : Prop :=
  ∃ unit ∈ units, unit.key = key ∧ unit.Sound

/-- When the calls of bad nodes are left out, what is not bad and leads to no call of a bad node leads to
good nodes only, even when the calls of bad nodes count. -/
theorem reaches_good_iff {α : Type} {good : α → Prop} {calls kept : α → α → Prop}
    (isKept : ∀ caller target, kept caller target ↔ calls caller target ∧ good caller) (start : α) :
    (good start ∧ ¬ ∃ last, Relation.ReflTransGen kept start last ∧ ∃ target, kept last target ∧
      ¬ good target) ↔ ∀ reached, Relation.ReflTransGen calls start reached → good reached := by
  constructor
  · rintro ⟨goodStart, noBad⟩ reached path
    have both : Relation.ReflTransGen kept start reached ∧ good reached := by
      induction path with
      | refl => exact ⟨Relation.ReflTransGen.refl, goodStart⟩
      | tail _ call ih =>
        have keptCall := (isKept _ _).mpr ⟨call, ih.2⟩
        refine ⟨ih.1.tail keptCall, ?_⟩
        by_contra bad
        exact noBad ⟨_, ih.1, _, keptCall, bad⟩
    exact both.2
  · intro allGood
    refine ⟨allGood start Relation.ReflTransGen.refl, ?_⟩
    rintro ⟨last, path, target, call, bad⟩
    have callsPath := Relation.ReflTransGen.mono
      (fun caller target call => ((isKept caller target).mp call).1) _ _ path
    exact bad (allGood target (callsPath.tail ((isKept last target).mp call).1))

namespace Program

/-- The units that were loaded, as they were before their check. -/
def loadedUnits (program : Program) : Set PromptUnit :=
  {unit | ∃ loaded ∈ program.loaded, loaded.unchecked = unit}

/-- The units after the first pass are the sound ones, with their metadata. -/
theorem Tidy.mem_loaded_checked {program checked : Program} (tidy : program.Tidy)
    (tidyAfter : checked.Tidy) (kept : ∀ key, Assoc.get? checked.units key
      = (Assoc.get? program.units key).bind checked?) (unit : PromptUnit) :
    unit ∈ checked.loaded ↔ ∃ before ∈ program.loaded, checked? before = some unit := by
  rw [tidyAfter.mem_loaded, kept]
  constructor
  · intro found
    obtain ⟨before, foundBefore, passed⟩ := Option.bind_eq_some_iff.mp found
    exact ⟨before, tidy.mem_loaded.mpr (tidy.own foundBefore ▸ foundBefore), passed⟩
  · rintro ⟨before, isLoaded, passed⟩
    obtain ⟨metadata, _, rfl⟩ := checked?_eq_some passed
    exact Option.bind_eq_some_iff.mpr ⟨before, tidy.mem_loaded.mp isLoaded, passed⟩

section FirstPass

variable {program checked : Program} (tidy : program.Tidy)
  (afterPass : ∀ unit, unit ∈ checked.loaded ↔ ∃ before ∈ program.loaded, checked? before = some unit)

include tidy afterPass

/-- A key of the first pass is a key of a sound unit. -/
theorem Tidy.isDefined_checked (key : String) :
    (CallGraph.ofUnits checked.loaded).isDefined key = true ↔ IsSoundKey program.loaded key := by
  rw [CallGraph.isDefined_ofUnits]
  constructor
  · rintro ⟨unit, isLoaded, rfl⟩
    obtain ⟨before, wasLoaded, passed⟩ := (afterPass unit).mp isLoaded
    obtain ⟨metadata, _, rfl⟩ := checked?_eq_some passed
    have wellFormed := tidy.wellFormed (tidy.mem_loaded.mp wasLoaded)
    exact ⟨before, wasLoaded, rfl, (isSome_checked? wellFormed).mp (by rw [passed]; rfl)⟩
  · rintro ⟨before, wasLoaded, rfl, sound⟩
    have wellFormed := tidy.wellFormed (tidy.mem_loaded.mp wasLoaded)
    obtain ⟨unit, passed⟩ := Option.isSome_iff_exists.mp ((isSome_checked? wellFormed).mpr sound)
    refine ⟨unit, (afterPass unit).mpr ⟨before, wasLoaded, passed⟩, ?_⟩
    obtain ⟨metadata, _, rfl⟩ := checked?_eq_some passed
    rfl

/-- The calls of the first pass are the calls of the sound units. -/
theorem Tidy.calls_checked (caller target : String) :
    (CallGraph.ofUnits checked.loaded).Calls caller target ↔
      CallsIn program.loaded caller target ∧ IsSoundKey program.loaded caller := by
  rw [← tidy.isDefined_checked afterPass, CallGraph.isDefined_ofUnits]
  refine (CallGraph.hasEdge_ofUnits _ _ _).trans ?_
  constructor
  · rintro ⟨unit, isLoaded, rfl, isCall⟩
    refine ⟨?_, unit, isLoaded, rfl⟩
    obtain ⟨before, wasLoaded, passed⟩ := (afterPass unit).mp isLoaded
    obtain ⟨metadata, _, rfl⟩ := checked?_eq_some passed
    exact ⟨before, wasLoaded, rfl, isCall⟩
  · rintro ⟨⟨before, wasLoaded, rfl, isCall⟩, unit, isLoaded, same⟩
    refine ⟨unit, isLoaded, same, ?_⟩
    obtain ⟨other, wasLoadedToo, passed⟩ := (afterPass unit).mp isLoaded
    obtain ⟨metadata, _, rfl⟩ := checked?_eq_some passed
    exact tidy.eq_of_key wasLoadedToo wasLoaded same ▸ isCall

/-- What stays after both passes leads to sound units only. -/
theorem Tidy.stays_iff (key : String) :
    ((CallGraph.ofUnits checked.loaded).isDefined key = true ∧
      ¬ ∃ last, Relation.ReflTransGen (CallGraph.ofUnits checked.loaded).Calls key last ∧
        Dangles (CallGraph.ofUnits checked.loaded) last) ↔
      ∀ reached, Relation.ReflTransGen (CallsIn program.loaded) key reached →
        IsSoundKey program.loaded reached := by
  rw [← reaches_good_iff (tidy.calls_checked afterPass), tidy.isDefined_checked afterPass]
  simp only [Dangles, ← Bool.not_eq_true, tidy.isDefined_checked afterPass]

end FirstPass

/-- **The analysis loads the units from which calls reach sound units only.** -/
theorem Filled.mem_loadedUnits {program : Program} (filled : program.Filled) :
    ∃ result, program.analyze false = (result, none) ∧ ∀ unit,
      unit ∈ result.value.loadedUnits ↔ unit ∈ program.loaded ∧
        ∀ key, Relation.ReflTransGen (CallsIn program.loaded) unit.key key →
          IsSoundKey program.loaded key := by
  have tidy := filled.tidy
  obtain ⟨checked, passes, tidyAfter, kept⟩ := tidy.exists_checked
  have afterPass := tidy.mem_loaded_checked tidyAfter kept
  refine ⟨checkCalls checked, by rw [analyze, passes], fun unit => ?_⟩
  rw [← tidy.stays_iff afterPass, CallGraph.isDefined_ofUnits]
  constructor
  · rintro ⟨loaded, isLoaded, rfl⟩
    obtain ⟨isChecked, whole⟩ := (tidyAfter.mem_loaded_checkCalls loaded).mp isLoaded
    obtain ⟨before, wasLoaded, passed⟩ := (afterPass loaded).mp isChecked
    refine ⟨?_, ⟨loaded, isChecked, rfl⟩, whole⟩
    rw [unchecked_of_checked? passed (filled.unchecked wasLoaded)]
    exact wasLoaded
  · rintro ⟨wasLoaded, ⟨loaded, isChecked, same⟩, whole⟩
    obtain ⟨before, wasLoadedToo, passed⟩ := (afterPass loaded).mp isChecked
    refine ⟨loaded, (tidyAfter.mem_loaded_checkCalls loaded).mpr ⟨isChecked, same ▸ whole⟩, ?_⟩
    rw [unchecked_of_checked? passed (filled.unchecked wasLoadedToo)]
    obtain ⟨metadata, _, rfl⟩ := checked?_eq_some passed
    exact tidy.eq_of_key wasLoadedToo wasLoaded same

/-! ### The greatest self-contained set -/

/-- Units of a program that are sound and call each other only. -/
structure SelfContained (program : Program) (units : Set PromptUnit) : Prop where
  present : ∀ unit ∈ units, unit ∈ program.loaded
  metadata : ∀ unit ∈ units, ValidMetadata unit.entries
  someArm : ∀ unit ∈ units, unit.arms ≠ []
  closed : ∀ unit ∈ units, ∀ arm ∈ unit.arms, ∀ target ∈ arm.action.targets,
    ∃ other ∈ units, nameKey other.name = nameKey target

/-- From a unit of a self-contained set, calls reach units of the set only. -/
theorem SelfContained.reaches {program : Program} {units : Set PromptUnit} (tidy : program.Tidy)
    (selfContained : program.SelfContained units) {unit : PromptUnit} (isUnit : unit ∈ units)
    {key : String} (path : Relation.ReflTransGen (CallsIn program.loaded) unit.key key) :
    ∃ other ∈ units, other.key = key := by
  induction path with
  | refl => exact ⟨unit, isUnit, rfl⟩
  | tail _ call ih =>
    obtain ⟨caller, isCaller, same⟩ := ih
    obtain ⟨loaded, isLoaded, sameToo, isCall⟩ := call
    have isOne := tidy.eq_of_key (selfContained.present caller isCaller) isLoaded (same.trans sameToo.symm)
    obtain ⟨arm, isArm, target, isTarget, rfl⟩ := PromptUnit.mem_callees.mp isCall
    exact selfContained.closed caller isCaller arm (isOne ▸ isArm) target isTarget

/-- **Load-time validation keeps exactly the greatest self-contained set of units.** The analysis
succeeds; calls from a unit that it loads lead to units that it loads; and it loads every unit from which
calls lead to sound units only, in cycles or not. -/
theorem analyze_loads_greatest_selfContained (program : Program) (filled : program.Filled) :
    ∃ result, program.analyze false = (result, none) ∧
      IsGreatest {units | program.SelfContained units} result.value.loadedUnits ∧
      (∀ unit ∈ result.value.loadedUnits, ∀ key,
        Relation.ReflTransGen (CallsIn program.loaded) unit.key key →
          ∃ other ∈ result.value.loadedUnits, other.key = key) ∧
      ∀ unit ∈ program.loaded,
        (∀ key, Relation.ReflTransGen (CallsIn program.loaded) unit.key key →
          IsSoundKey program.loaded key) → unit ∈ result.value.loadedUnits := by
  have tidy := filled.tidy
  obtain ⟨result, analyzed, isLoaded⟩ := filled.mem_loadedUnits
  have sound : ∀ unit ∈ result.value.loadedUnits, unit.Sound := by
    intro unit member
    obtain ⟨present, reaches⟩ := (isLoaded unit).mp member
    obtain ⟨other, isOther, same, sound⟩ := reaches unit.key Relation.ReflTransGen.refl
    exact tidy.eq_of_key isOther present same ▸ sound
  have selfContained : program.SelfContained result.value.loadedUnits := by
    refine ⟨fun unit member => ((isLoaded unit).mp member).1,
      fun unit member => (sound unit member).metadata, fun unit member => (sound unit member).someArm, ?_⟩
    intro unit member arm isArm target isTarget
    obtain ⟨present, reaches⟩ := (isLoaded unit).mp member
    have call : CallsIn program.loaded unit.key (nameKey target) :=
      ⟨unit, present, rfl, PromptUnit.mem_callees.mpr ⟨arm, isArm, target, isTarget, rfl⟩⟩
    obtain ⟨other, isOther, same, _⟩ := reaches _ (Relation.ReflTransGen.single call)
    refine ⟨other, (isLoaded other).mpr ⟨isOther, fun key path => ?_⟩, same⟩
    exact reaches key (Relation.ReflTransGen.head call (same ▸ path))
  refine ⟨result, analyzed, ⟨selfContained, ?_⟩, fun unit member key path =>
    selfContained.reaches tidy member path, fun unit present reaches =>
    (isLoaded unit).mpr ⟨present, reaches⟩⟩
  intro units others unit member
  refine (isLoaded unit).mpr ⟨others.present unit member, fun key path => ?_⟩
  obtain ⟨other, isOther, same⟩ := others.reaches tidy member path
  exact ⟨other, others.present other isOther, same, others.metadata other isOther,
    others.someArm other isOther⟩

/-- Two units that call each other. -/
def cycleSource : String :=
  "Ping\ndirection:i\n\x7bmatch $AI\x7b\"\"=>PONG\x7d\x7d\n"
    ++ "pong\ndirection:o\n\x7bmatch $AI\x7b\"\"=>ping\x7d\x7d\n"

/-- Beside them, one that calls a name without a unit, and one that calls that one. -/
def mixedSource : String :=
  cycleSource ++ "Stray\ndirection:s\n\x7bmatch $AI\x7b\"\"=>no\x7d\x7d\n"
    ++ "Far\ndirection:f\n\x7bmatch $AI\x7b\"\"=>ping,stray\x7d\x7d\n"

/-- The units that call each other stay, and the two others go. -/
theorem mixedSource_loads_its_cycle :
    ∃ units, Source.parseUnits none mixedSource = .ok units ∧ (addUnits {} units).Filled ∧
      (addUnits {} units).names = ["Ping", "pong", "Stray", "Far"] ∧
      ∃ result, (addUnits {} units).analyze false = (result, none) ∧
        result.value.names = ["Ping", "pong"] ∧
        IsGreatest {chosen | (addUnits {} units).SelfContained chosen} result.value.loadedUnits := by
  have evaluated : (Source.parseUnits none mixedSource).toOption.map (fun units =>
      ((addUnits {} units).names, ((addUnits {} units).analyze false).1.value.names))
      = some (["Ping", "pong", "Stray", "Far"], ["Ping", "pong"]) := by
    decide +kernel
  cases read : Source.parseUnits none mixedSource with
  | error problem => rw [read] at evaluated; cases evaluated
  | ok units =>
    rw [read] at evaluated
    obtain ⟨before, after⟩ := Prod.mk.inj (Option.some.inj evaluated)
    have filled : (addUnits {} units).Filled := Filled.addUnits .empty read
    obtain ⟨result, analyzed, greatest, _⟩ := analyze_loads_greatest_selfContained _ filled
    rw [analyzed] at after
    exact ⟨units, rfl, filled, before, result, analyzed, after, greatest⟩

end Program

end PromptChain
