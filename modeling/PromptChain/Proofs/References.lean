/-
**Faults of references tell the truth.**

The second pass of the analysis collects faults by key before it blocks a unit. A unit that calls names without
a unit has the fault of its first such call (`get?_missingTargets`), any other the fault of the first such unit
that calls lead to (`get?_brokenReferences`). `blockAll_records` says that these faults are what the program
keeps, one for each unit that goes.

Main statement: `analyze_tells_references`.
-/

import PromptChain.Proofs.GraphOfUnits
import PromptChain.Proofs.Validation

namespace PromptChain

namespace Program

/-! ### What a fault of a reference says -/

/-- A name is blocked before calls are checked: from before, or because its unit has bad metadata. -/
def IsBlockedName (program : Program) (key : String) : Prop :=
  (Assoc.get? program.blocked key).isSome = true ∨ ∃ unit ∈ program.loaded, unit.key = key ∧ ¬ unit.Sound

/-- A fault says that a unit calls a name, on a line where it does, and why the name has no good unit. -/
inductive TellsMissing (program : Program) (unit : PromptUnit) : Fault → Prop
  | intro (target reason : String) (line : Nat)
    (called : ∃ arm ∈ unit.arms, arm.line = line ∧ ∃ name ∈ arm.action.targets, nameKey name = nameKey target)
    (noUnit : ¬ IsSoundKey program.loaded (nameKey target))
    (failed : program.IsBlockedName (nameKey target) → reason = "failed to load")
    (undefined : ¬ program.IsBlockedName (nameKey target) → reason = "is not defined") :
    TellsMissing program unit (.source .unresolvedReference
      ("Unit '" ++ unit.name ++ "' calls '" ++ target ++ "', which " ++ reason)
      { line := some line, source := unit.source })

/-- A fault says that a unit, which itself calls good units only, depends on one that calls a name without a
good unit, to which its calls lead. -/
inductive TellsDependence (program : Program) (references : Assoc Fault) (unit : PromptUnit) : Fault → Prop
  | intro (broken : PromptUnit) {other : Fault} (isUnit : broken ∈ program.loaded)
    (found : Assoc.get? references broken.key = some other) (missing : program.TellsMissing broken other)
    (path : Relation.TransGen (CallsIn program.loaded) unit.key broken.key)
    (targets : ∀ arm ∈ unit.arms, ∀ target ∈ arm.action.targets, IsSoundKey program.loaded (nameKey target)) :
    TellsDependence program references unit (.source .unresolvedReference
      ("Unit '" ++ unit.name ++ "' depends on '" ++ broken.name ++ "', which cannot load") (locationOf unit))

/-! ### What is recorded -/

theorem distinct_brokenReferences (program : Program) (graph : CallGraph) :
    Assoc.Distinct (program.brokenReferences graph) := by
  have added : ∀ {bad : Assoc Fault}, Assoc.Distinct bad → ∀ key fault,
      Assoc.Distinct (if Assoc.has bad key then bad else Assoc.set bad key fault) := by
    intro bad distinct key fault
    split
    · exact distinct
    · exact distinct.set _ _
  unfold brokenReferences
  refine List.foldlRecOn (motive := Assoc.Distinct) _ _ ?_ fun bad distinct last _ => ?_
  · refine List.foldlRecOn (motive := Assoc.Distinct) _ _ .nil fun bad distinct edge _ => ?_
    split
    · exact distinct
    · exact added distinct _ _
  · refine List.foldlRecOn (motive := Assoc.Distinct) _ _ distinct fun bad distinct caller _ => ?_
    split
    · exact added distinct _ _
    · exact distinct

theorem kind_of_checkUnit {unit : PromptUnit} {fault : Fault} (refused : checkUnit unit = .refused fault) :
    fault.kind = "InvalidMetadata" := by
  unfold checkUnit at refused
  split at refused
  · cases refused
  · cases refused
    rfl
  · split at refused
    · cases refused
      rfl
    · cases refused

/-- **The first pass** blocks the units with bad metadata, and records a fault of that kind for each. -/
theorem checkUnits_records {units : List PromptUnit} (wellFormed : ∀ unit ∈ units, unit.WellFormed)
    (program : Logged Program) :
    (∃ refusals, (checkUnits program units).1.value.loadErrors = program.value.loadErrors ++ refusals ∧
      ∀ fault ∈ refusals, fault.kind = "InvalidMetadata") ∧
    ∀ key, (Assoc.get? (checkUnits program units).1.value.blocked key).isSome = true ↔
      (Assoc.get? program.value.blocked key).isSome = true ∨ ∃ unit ∈ units, unit.key = key ∧ ¬ unit.Sound := by
  induction units generalizing program with
  | nil => exact ⟨⟨[], (List.append_nil _).symm, by simp⟩, fun key => by simp [checkUnits]⟩
  | cons unit units ih =>
    rw [List.forall_mem_cons] at wellFormed
    rcases checkUnit_cases wellFormed.1 with ⟨sound, metadata, found⟩ | ⟨unsound, fault, found⟩
    · obtain ⟨errors, blocked⟩ := ih wellFormed.2
        { program with value := program.value.setUnit { unit with metadata := some metadata } }
      rw [checkUnits, found]
      refine ⟨errors, fun key => (blocked key).trans (or_congr_right ?_)⟩
      rw [List.exists_mem_cons_iff]
      exact ⟨Or.inr, fun either => either.resolve_left fun refused => refused.2 sound⟩
    · obtain ⟨⟨refusals, same, kinds⟩, blocked⟩ := ih wellFormed.2 (blockLogged program unit fault)
      rw [checkUnits, found]
      refine ⟨⟨fault :: refusals, ?_, List.forall_mem_cons.mpr ⟨kind_of_checkUnit found, kinds⟩⟩, fun key => ?_⟩
      · rw [same, blockLogged, block, List.append_assoc]
        rfl
      · rw [blocked, List.exists_mem_cons_iff, ← or_assoc]
        refine or_congr_left ?_
        rw [blockLogged, block, Assoc.get?_set]
        by_cases here : unit.key = key
        · simp [here, unsound]
        · simp [here]

/-- **Blocking the units of faults** records each fault once, under its key. -/
theorem blockAll_records {bad : Assoc Fault} (distinct : Assoc.Distinct bad) (program : Logged Program)
    (tidy : program.value.Tidy)
    (areUnits : ∀ key ∈ Assoc.keys bad, (Assoc.get? program.value.units key).isSome = true) :
    (blockAll program bad).value.loadErrors = program.value.loadErrors ++ bad.map Prod.snd ∧
      ∀ key, Assoc.get? (blockAll program bad).value.blocked key
        = (Assoc.get? bad key).or (Assoc.get? program.value.blocked key) := by
  induction bad generalizing program with
  | nil => exact ⟨(List.append_nil _).symm, fun key => rfl⟩
  | cons entry bad ih =>
    rw [Assoc.Distinct, Assoc.keys, List.map_cons, List.nodup_cons] at distinct
    rw [Assoc.keys, List.map_cons, List.forall_mem_cons] at areUnits
    obtain ⟨unit, found⟩ := Option.isSome_iff_exists.mp areUnits.1
    have own := tidy.own found
    obtain ⟨errors, blocked⟩ := ih distinct.2 (blockLogged program unit entry.2) (tidy.block unit entry.2) (by
      intro key isKey
      have other : entry.1 ≠ key := fun same => distinct.1 (same ▸ isKey)
      rw [blockLogged, get?_block, own, if_neg other]
      exact areUnits.2 key isKey)
    have step : blockAll program (entry :: bad) = blockAll (blockLogged program unit entry.2) bad := by
      rw [blockAll, List.foldl_cons, tidy.lookup_key found]
      rfl
    rw [step]
    refine ⟨?_, fun key => ?_⟩
    · rw [errors, blockLogged, block, List.append_assoc]
      rfl
    · rw [blocked, blockLogged, block, Assoc.get?_set, own, Assoc.get?_cons]
      by_cases here : entry.1 = key
      · have isNew : Assoc.get? bad key = none := by
          rw [← Option.not_isSome_iff_eq_none, ← Assoc.mem_keys_iff, ← here]
          exact distinct.1
        simp [here, isNew]
      · simp [here]

theorem Tidy.checkCalls_records {program : Logged Program} (tidy : program.value.Tidy) :
    (checkCalls program).value.loadErrors = program.value.loadErrors
      ++ (program.value.brokenReferences (CallGraph.ofUnits program.value.loaded)).map Prod.snd ∧
    ∀ key, Assoc.get? (checkCalls program).value.blocked key
      = (Assoc.get? (program.value.brokenReferences (CallGraph.ofUnits program.value.loaded)) key).or
        (Assoc.get? program.value.blocked key) := by
  have tidyWith : { program.value with
      graph := some (CallGraph.ofUnits program.value.loaded) }.Tidy := ⟨tidy.distinct, tidy.entry⟩
  refine blockAll_records (distinct_brokenReferences program.value _) ⟨_, program.log⟩ tidyWith
    fun key isKey => ?_
  obtain ⟨unit, found⟩ := tidy.exists_broken ((Assoc.mem_keys_iff _ key).mp isKey)
  exact Option.isSome_of_eq_some found

/-! ### What the faults say -/

section FirstPass

variable {program checked : Program} (tidy : program.Tidy) (tidyAfter : checked.Tidy)
  (afterPass : ∀ unit, unit ∈ checked.loaded ↔ ∃ before ∈ program.loaded, checked? before = some unit)

include tidy tidyAfter afterPass

/-- **The first kind of fault**: the unit calls a name without a good unit. -/
theorem Tidy.tells_missing (blocked : ∀ key, (Assoc.get? checked.blocked key).isSome = true ↔
      program.IsBlockedName key) {key : String} {fault : Fault}
    (found : Assoc.get? (checked.missingTargets (CallGraph.ofUnits checked.loaded)) key = some fault) :
    ∃ unit ∈ program.loaded, unit.key = key ∧ program.TellsMissing unit fault := by
  have distinct : (checked.loaded.map PromptUnit.key).Nodup := tidyAfter.map_key_loaded ▸ tidyAfter.distinct
  rw [get?_missingTargets] at found
  obtain ⟨edge, isEdge, adds⟩ := List.exists_of_findSome?_eq_some found
  obtain ⟨rfl, adds⟩ := Option.ite_none_right_eq_some.mp adds
  obtain ⟨target, undefined, isLine, isName⟩ := CallGraph.mem_dangling_iff.mp isEdge
  have call : (CallGraph.ofUnits checked.loaded).Calls edge.caller target := by
    rw [CallGraph.Calls, CallGraph.hasEdge_eq_isSome, isLine]
    rfl
  obtain ⟨unit, isUnit, isLookup⟩ := tidyAfter.lookup_caller call
  have own := tidyAfter.own isUnit
  have isLoaded : unit ∈ checked.loaded := tidyAfter.mem_loaded.mpr (own.symm ▸ isUnit)
  rw [← own, CallGraph.line?_ofUnits distinct isLoaded, Option.map_eq_some_iff] at isLine
  obtain ⟨arm, isLast, onLine⟩ := isLine
  have isArm : arm ∈ unit.arms := List.mem_reverse.mp (List.mem_of_find?_eq_some isLast)
  have calls : ∃ name ∈ arm.action.targets, nameKey name = target := by
    simpa [Arm.calls] using List.find?_some isLast
  have targetKey : nameKey edge.target = target := by
    rw [← isName]
    exact CallGraph.nameKey_nameOf (CallGraph.mem_keys_of_hasEdge call)
  obtain ⟨before, wasLoaded, passed⟩ := (afterPass unit).mp isLoaded
  obtain ⟨metadata, _, rfl⟩ := checked?_eq_some passed
  rw [isLookup, Option.map_some, Option.some.injEq] at adds
  subst adds
  refine ⟨before, wasLoaded, own,
    .intro edge.target _ edge.line ⟨arm, isArm, onLine, targetKey ▸ calls⟩ ?_ ?_ ?_⟩
  · rw [targetKey, ← tidy.isDefined_checked afterPass, undefined]
    exact Bool.false_ne_true
  · intro isBlocked
    rw [Assoc.has_eq_isSome, (blocked _).mpr isBlocked]
    rfl
  · intro free
    rw [Assoc.has_eq_isSome, Bool.eq_false_iff.mpr fun isBlocked => free ((blocked _).mp isBlocked)]
    rfl

/-- **The second kind of fault**: the unit calls good units only, and its calls lead to a unit of the first
kind. -/
theorem Tidy.tells_dependence (blocked : ∀ key, (Assoc.get? checked.blocked key).isSome = true ↔
      program.IsBlockedName key) {key : String} {fault : Fault}
    (found : Assoc.get? (checked.brokenReferences (CallGraph.ofUnits checked.loaded)) key = some fault)
    (notMissing : Assoc.get? (checked.missingTargets (CallGraph.ofUnits checked.loaded)) key = none) :
    ∃ unit ∈ program.loaded, unit.key = key ∧ program.TellsDependence
      (checked.brokenReferences (CallGraph.ofUnits checked.loaded)) unit fault := by
  rw [get?_brokenReferences, notMissing, Option.none_or] at found
  obtain ⟨last, isLast, added⟩ := List.exists_of_findSome?_eq_some found
  obtain ⟨caller, isCaller, adds⟩ := List.exists_of_findSome?_eq_some added
  obtain ⟨rfl, adds⟩ := Option.ite_none_right_eq_some.mp adds
  obtain ⟨unit, foundUnit, adds⟩ := Option.bind_eq_some_iff.mp adds
  obtain ⟨broken, foundBroken, rfl⟩ := Option.map_eq_some_iff.mp adds
  obtain ⟨other, isMissing⟩ := Option.isSome_iff_exists.mp ((Assoc.mem_keys_iff _ _).mp isLast)
  obtain ⟨origin, isOrigin, rfl, tells⟩ := tidy.tells_missing tidyAfter afterPass blocked isMissing
  have path := (CallGraph.mem_callersOf_iff.mp isCaller).2
  have calls : ∀ caller target, (CallGraph.ofUnits checked.loaded).Calls caller target →
      CallsIn program.loaded caller target := fun _ _ call => ((tidy.calls_checked afterPass _ _).mp call).1
  obtain ⟨next, firstCall, _⟩ := Relation.TransGen.head'_iff.mp path
  obtain ⟨_, isUnit, isLookup⟩ := tidyAfter.lookup_caller firstCall
  cases foundUnit.symm.trans isLookup
  have own := tidyAfter.own isUnit
  obtain ⟨before, wasLoaded, passed⟩ :=
    (afterPass unit).mp (tidyAfter.mem_loaded.mpr (own.symm ▸ isUnit))
  obtain ⟨metadata, _, rfl⟩ := checked?_eq_some passed
  have isChecked := tidyAfter.mem_loaded_of_lookup foundBroken
  obtain ⟨brokenBefore, wasLoadedToo, passedToo⟩ := (afterPass broken).mp isChecked
  have brokenKey : broken.key = origin.key := by
    rw [tidyAfter.own foundBroken]
    exact nameKey_nameKey (tidy.wellFormed (tidy.mem_loaded.mp isOrigin)).name
  obtain ⟨_, _, rfl⟩ := checked?_eq_some passedToo
  cases tidy.eq_of_key wasLoadedToo isOrigin brokenKey
  refine ⟨before, wasLoaded, own, .intro origin isOrigin ?_ tells ?_ fun arm isArm target isTarget => ?_⟩
  · rw [get?_brokenReferences, isMissing, Option.some_or]
  · exact own ▸ Relation.TransGen.mono calls _ _ path
  · by_contra unsound
    have call : (CallGraph.ofUnits checked.loaded).Calls caller (nameKey target) :=
      (CallGraph.hasEdge_ofUnits _ _ _).mpr ⟨_, tidyAfter.mem_loaded.mpr (own.symm ▸ isUnit), own,
        PromptUnit.mem_callees.mpr ⟨arm, isArm, target, isTarget, rfl⟩⟩
    rw [← tidy.isDefined_checked afterPass, Bool.not_eq_true] at unsound
    obtain ⟨edge, isEdge, same⟩ := (CallGraph.exists_dangling_iff _ _).mpr ⟨_, call, unsound⟩
    have there := (isSome_missingTargets checked _ caller).mpr ⟨edge, isEdge, same, by rw [isLookup]; rfl⟩
    rw [notMissing] at there
    cases there

end FirstPass

/-- **Every fault of a reference tells the truth.** The analysis records faults of metadata, and then exactly
one fault for each unit that goes although its metadata is good; the unit is blocked with it. It says that the
unit calls a name, on a line where it does, which has no unit with good metadata, and whether that is because
the name was blocked; or the unit calls units with good metadata only, and the fault names a unit of the first
kind to which its calls lead. -/
theorem analyze_tells_references (program : Program) (tidy : program.Tidy) (strict : Bool) :
    ∃ (refusals : List Fault) (references : Assoc Fault),
      (program.analyze strict).1.value.loadErrors
        = program.loadErrors ++ refusals ++ references.map Prod.snd ∧
      (∀ fault ∈ refusals, fault.kind = "InvalidMetadata") ∧
      (Assoc.keys references).Nodup ∧
      (∀ unit ∈ program.loaded, unit.key ∈ Assoc.keys references ↔
        unit.Sound ∧ (program.analyze strict).1.value.lookup unit.name = none) ∧
      ∀ key fault, Assoc.get? references key = some fault →
        Assoc.get? (program.analyze strict).1.value.blocked key = some fault ∧
        ∃ unit ∈ program.loaded, unit.key = key ∧
          (program.TellsMissing unit fault ∨ program.TellsDependence references unit fault) := by
  obtain ⟨checked, passes, tidyAfter, kept⟩ := tidy.exists_checked
  have afterPass := tidy.mem_loaded_checked tidyAfter kept
  have wellFormed : ∀ unit ∈ program.loaded, unit.WellFormed :=
    fun unit isLoaded => tidy.wellFormed (tidy.mem_loaded.mp isLoaded)
  obtain ⟨⟨refusals, errors, kinds⟩, blocked⟩ := checkUnits_records wellFormed ⟨program, []⟩
  rw [passes] at errors blocked
  have result : (program.analyze strict).1 = checkCalls checked := by
    unfold analyze
    rw [passes]
    dsimp only
    split <;> rfl
  obtain ⟨errorsAfter, blockedAfter⟩ := tidyAfter.checkCalls_records
  have unitsAfter := tidyAfter.checkCalls_spec.2
  rw [result]
  refine ⟨refusals, checked.value.brokenReferences (CallGraph.ofUnits checked.value.loaded), ?_, kinds,
    distinct_brokenReferences _ _, fun unit isLoaded => ?_, fun key fault found => ⟨?_, ?_⟩⟩
  · rw [errorsAfter, errors]
  · have own : Assoc.get? checked.value.units unit.key = checked? unit := by
      rw [kept, tidy.mem_loaded.mp isLoaded, Option.bind_some]
    rw [Assoc.mem_keys_iff, lookup, ← PromptUnit.key, unitsAfter, own,
      ← isSome_checked? (wellFormed unit isLoaded)]
    constructor
    · intro broken
      obtain ⟨after, found⟩ := tidyAfter.exists_broken broken
      exact ⟨by rw [← own, found]; rfl, if_pos broken⟩
    · rintro ⟨passed, gone⟩
      by_contra whole
      rw [if_neg whole] at gone
      rw [gone] at passed
      cases passed
  · rw [blockedAfter, found, Option.some_or]
  · cases missing : Assoc.get? (checked.value.missingTargets (CallGraph.ofUnits checked.value.loaded)) key with
    | none =>
      obtain ⟨unit, isLoaded, own, tells⟩ := tidy.tells_dependence tidyAfter afterPass blocked found missing
      exact ⟨unit, isLoaded, own, Or.inr tells⟩
    | some first =>
      rw [get?_brokenReferences, missing, Option.some_or, Option.some.injEq] at found
      obtain ⟨unit, isLoaded, own, tells⟩ := tidy.tells_missing tidyAfter afterPass blocked missing
      exact ⟨unit, isLoaded, own, Or.inl (found ▸ tells)⟩

/-- A unit without a direction, one that calls it, and one that calls that one. -/
def faultySource : String :=
  "Bad\neager:true\n\x7bmatch $AI\x7b\"\"=>`l`\x7d\x7d\nUser\ndirection:u\n\x7bmatch $AI\x7b\"\"=>BAD\x7d\x7d\n"
    ++ "Far\ndirection:f\n\x7bmatch $AI\x7b\"\"=>user\x7d\x7d\n"

def faultyMessages : List String :=
  ["Unit 'Bad' has no direction", "Unit 'User' calls 'BAD', which failed to load",
   "Unit 'Far' depends on 'User', which cannot load"]

/-- The second fails for the name that it calls, and the third for the second. -/
theorem faultySource_tells_references :
    ∃ units, Source.parseUnits none faultySource = .ok units ∧ (addUnits {} units).Tidy ∧
      ((addUnits {} units).analyze false).1.value.loadErrors.map Fault.message = faultyMessages ∧
      ∃ (refusals : List Fault) (references : Assoc Fault),
        ((addUnits {} units).analyze false).1.value.loadErrors
          = (addUnits {} units).loadErrors ++ refusals ++ references.map Prod.snd ∧
        ∀ key fault, Assoc.get? references key = some fault →
          ∃ unit ∈ (addUnits {} units).loaded, unit.key = key ∧
          ((addUnits {} units).TellsMissing unit fault ∨
            (addUnits {} units).TellsDependence references unit fault) := by
  have evaluated : (Source.parseUnits none faultySource).toOption.map (fun units =>
      ((addUnits {} units).analyze false).1.value.loadErrors.map Fault.message) = some faultyMessages := by
    decide +kernel
  cases read : Source.parseUnits none faultySource with
  | error problem => rw [read] at evaluated; cases evaluated
  | ok units =>
    rw [read] at evaluated
    have tidy : (addUnits {} units).Tidy := (Filled.addUnits .empty read).tidy
    obtain ⟨refusals, references, errors, _, _, _, tells⟩ := analyze_tells_references _ tidy false
    exact ⟨units, rfl, tidy, Option.some.inj evaluated, refusals, references, errors,
      fun key fault found => (tells key fault found).2⟩

end Program

end PromptChain
