/-
**The letter case of calls decides nothing.**

Two units are the same but for case when they differ at most in the letter case of the names that their
arms call (`PromptUnit.SameButCase`). Whatever is made of such units is the same but for case again:

* their call graphs have the same nodes and edges, whatever their nodes are called (`CallGraph.outline`);
* through every pass of the analysis, the same keys are loaded and the same are blocked
  (`Program.SameButCase`);
* running them is the same act (`runUnit_eq`): a call is looked up by its key, in a program that was loaded
  it is found, and from there on only the names of units are used.

Main statement: `spelling_of_calls_decides_nothing`.
-/

import Mathlib.Data.List.Forall2
import PromptChain.Chain.Execution
import PromptChain.Proofs.Bookkeeping
import PromptChain.Proofs.CallStack
import PromptChain.Proofs.Load
import PromptChain.Proofs.Runs

namespace PromptChain

/-! ### Letter case -/

/-- A name in small letters. -/
def lowerCase (name : String) : String := String.ofList (name.toList.map Char.toLower)

theorem foldChar_toLower (c : Char) : Text.foldChar c.toLower = Text.foldChar c := by
  have inTable : ∀ code < 128, Text.foldChar (Char.ofNat code).toLower
      = Text.foldChar (Char.ofNat code) := by
    decide
  by_cases bound : c.toNat < 128
  · have same := inTable c.toNat bound
    rwa [Char.ofNat_toNat] at same
  · -- Only ASCII has letters whose case this changes.
    have isSmall : c.toLower = c := by
      unfold Char.toLower
      refine dif_neg ?_
      rintro ⟨-, isLetter⟩
      have below : c.toNat ≤ 90 := isLetter
      omega
    rw [isSmall]

/-- **The key of a name does not depend on its letter case.** -/
theorem nameKey_lowerCase (name : String) : nameKey (lowerCase name) = nameKey name := by
  unfold nameKey Text.fold lowerCase
  rw [String.toList_ofList, List.flatMap_map]
  exact congrArg String.ofList (List.flatMap_congr fun c _ => foldChar_toLower c)

theorem nameKey_eq_of_lowerCase {name other : String} (same : lowerCase name = lowerCase other) :
    nameKey name = nameKey other := by
  rw [← nameKey_lowerCase name, same, nameKey_lowerCase]

/-- An action with the names that it calls in small letters. -/
def Action.lowered : Action → Action
  | .shell command => .shell command
  | .call targets => .call (targets.map lowerCase)
  | .pipe command targets => .pipe command (targets.map lowerCase)

/-- An arm with the names that it calls in small letters. -/
def Arm.lowered (arm : Arm) : Arm := { arm with action := arm.action.lowered }

namespace PromptUnit

/-- A unit with the names that it calls in small letters. -/
def lowered (unit : PromptUnit) : PromptUnit := { unit with arms := unit.arms.map Arm.lowered }

/-- Two units that differ at most in the letter case of the names that they call. -/
def SameButCase (unit other : PromptUnit) : Prop := unit.lowered = other.lowered

variable {unit other : PromptUnit}

theorem SameButCase.name (same : unit.SameButCase other) :
    unit.name = other.name := (congrArg PromptUnit.name same :)

theorem SameButCase.key (same : unit.SameButCase other) :
    unit.key = other.key := (congrArg PromptUnit.key same :)

theorem SameButCase.setMetadata (same : unit.SameButCase other) (metadata : Option Metadata) :
    { unit with metadata := metadata }.SameButCase { other with metadata := metadata } :=
  (congrArg (fun unit : PromptUnit => { unit with metadata := metadata }) same :)

end PromptUnit

/-- Lists that a function makes equal agree item by item. -/
theorem forall₂_of_map_eq {α β : Type} {f : α → β} {items others : List α}
    (same : items.map f = others.map f) : List.Forall₂ (fun item other => f item = f other) items others := by
  have whole : List.Forall₂ (· = ·) (items.map f) (others.map f) := by
    rw [List.forall₂_eq_eq_eq]
    exact same
  exact List.forall₂_map_right_iff.mp (List.forall₂_map_left_iff.mp whole)

/-! ### Maps with changed values -/

namespace Assoc

variable {α β : Type}

/-- A map with every value changed. -/
def mapValues (f : α → β) (map : Assoc α) : Assoc β := map.map fun entry => (entry.1, f entry.2)

theorem keys_mapValues (f : α → β) (map : Assoc α) : keys (mapValues f map) = keys map := by
  simp [keys, mapValues]

theorem get?_mapValues (f : α → β) (map : Assoc α) (key : String) :
    get? (mapValues f map) key = (get? map key).map f := by
  induction map with
  | nil => rfl
  | cons entry map ih =>
    rw [mapValues, List.map_cons, get?_cons, get?_cons, ← mapValues, ih]
    split <;> rfl

theorem has_mapValues (f : α → β) (map : Assoc α) (key : String) :
    has (mapValues f map) key = has map key := by
  rw [has_eq_isSome, has_eq_isSome, get?_mapValues, Option.isSome_map]

theorem mapValues_set (f : α → β) (map : Assoc α) (key : String) (value : α) :
    mapValues f (set map key value) = set (mapValues f map) key (f value) := by
  induction map with
  | nil => rfl
  | cons entry map ih =>
    unfold mapValues at ih ⊢
    rw [List.map_cons, set, set]
    split
    · rfl
    · rw [List.map_cons, ih]

theorem mapValues_erase (f : α → β) (map : Assoc α) (key : String) :
    mapValues f (erase map key) = erase (mapValues f map) key := by
  unfold mapValues erase
  rw [List.filter_map]
  rfl

/-- Two maps with the same keys in the same order. -/
def SameKeys (map : Assoc α) (other : Assoc β) : Prop := keys map = keys other

section SameKeys

variable {map : Assoc α} {other : Assoc β}

theorem SameKeys.has_eq (same : SameKeys map other) (key : String) : has map key = has other key := by
  rw [Bool.eq_iff_iff, has_eq_isSome, has_eq_isSome, ← mem_keys_iff, ← mem_keys_iff, same]

theorem SameKeys.set (same : SameKeys map other) (key : String) (value : α) (second : β) :
    SameKeys (set map key value) (set other key second) := by
  rw [SameKeys, keys_set, keys_set, same]

theorem SameKeys.set_unless (same : SameKeys map other) (key : String) (value : α) (second : β) :
    SameKeys (if has map key then map else Assoc.set map key value)
      (if has other key then other else Assoc.set other key second) := by
  rw [same.has_eq]
  split
  · exact same
  · exact same.set key value second

end SameKeys

end Assoc

/-! ### Call graphs without names -/

/-- What is known of a node beside its name: whether it is a unit, and what it calls. -/
def CallNode.outline (node : CallNode) : Bool × Assoc Nat := (node.defined, node.calls)

namespace CallGraph

/-- The nodes and edges of a graph without the names of its nodes. -/
def outline (graph : CallGraph) : Assoc (Bool × Assoc Nat) := Assoc.mapValues CallNode.outline graph.nodes

section Building

variable {graph other : CallGraph}

theorem outline_addNode (same : graph.outline = other.outline) (key name : String) :
    (graph.addNode key name).outline = (other.addNode key name).outline := by
  have asOutline : ∀ graph : CallGraph, (graph.addNode key name).outline
      = Assoc.set graph.outline key (true, (Assoc.get? graph.outline key).elim [] Prod.snd) := by
    intro graph
    rw [outline, outline, addNode, Assoc.mapValues_set, Assoc.get?_mapValues]
    cases Assoc.get? graph.nodes key <;> rfl
  rw [asOutline, asOutline, same]

theorem outline_addTarget (same : graph.outline = other.outline) (key name second : String) :
    (graph.addTarget key name).outline = (other.addTarget key second).outline := by
  have asOutline : ∀ (graph : CallGraph) (name : String), (graph.addTarget key name).outline
      = if Assoc.has graph.outline key then graph.outline
        else Assoc.set graph.outline key (false, []) := by
    intro graph name
    unfold outline addTarget
    rw [Assoc.has_mapValues]
    split
    · rfl
    · exact Assoc.mapValues_set ..
  rw [asOutline, asOutline, same]

theorem outline_addEdge (same : graph.outline = other.outline) (caller target : String) (line : Nat) :
    (graph.addEdge caller target line).outline = (other.addEdge caller target line).outline := by
  have asOutline : ∀ graph : CallGraph, (graph.addEdge caller target line).outline
      = (Assoc.get? graph.outline caller).elim graph.outline fun node =>
        Assoc.set graph.outline caller (node.1, Assoc.set node.2 target line) := by
    intro graph
    rw [outline, outline, addEdge, Assoc.get?_mapValues]
    cases Assoc.get? graph.nodes caller with
    | none => rfl
    | some node => exact Assoc.mapValues_set ..
  rw [asOutline, asOutline, same]

/-- Two calls on one line whose targets differ at most in letter case. -/
def SameCall (call second : String × Nat) : Prop := lowerCase call.1 = lowerCase second.1 ∧ call.2 = second.2

theorem outline_addCall (same : graph.outline = other.outline) (caller : String)
    {call second : String × Nat} (sameCall : SameCall call second) :
    (graph.addCall caller call).outline = (other.addCall caller second).outline := by
  unfold addCall
  rw [nameKey_eq_of_lowerCase sameCall.1, sameCall.2]
  exact outline_addEdge (outline_addTarget same _ _ _) _ _ _

theorem callsOf_lowered (unit : PromptUnit) :
    callsOf unit.lowered = (callsOf unit).map fun call => (lowerCase call.1, call.2) := by
  unfold callsOf PromptUnit.lowered
  rw [List.flatMap_map, List.map_flatMap]
  refine List.flatMap_congr fun arm _ => ?_
  rcases arm with ⟨pattern, action, line⟩
  cases action <;> simp [Arm.lowered, Action.lowered, Action.targets]

theorem outline_addUnit (same : graph.outline = other.outline) {unit second : PromptUnit}
    (sameUnit : unit.SameButCase second) : (graph.addUnit unit).outline = (other.addUnit second).outline := by
  have sameCalls : List.Forall₂ SameCall (callsOf unit) (callsOf second) := by
    have calls := congrArg callsOf sameUnit
    rw [callsOf_lowered, callsOf_lowered] at calls
    exact (forall₂_of_map_eq calls).imp fun call second same => Prod.mk.inj same
  unfold addUnit
  rw [← sameUnit.key, ← sameUnit.name]
  refine List.rel_foldl (P := fun graph other : CallGraph => graph.outline = other.outline) ?_
    (outline_addNode same _ _) sameCalls
  intro _ _ same _ _ sameCall
  exact outline_addCall same _ sameCall

/-- **Units that are the same but for case have graphs with the same nodes and edges.** -/
theorem outline_ofUnits {units others : List PromptUnit}
    (same : List.Forall₂ PromptUnit.SameButCase units others) :
    (ofUnits units).outline = (ofUnits others).outline := by
  refine List.rel_foldl (P := fun graph other : CallGraph => graph.outline = other.outline) ?_ rfl same
  intro _ _ same _ _ sameUnit
  exact outline_addUnit same sameUnit

end Building

/-! What is read from a graph, as its outline tells. -/

section Reading

variable {graph other : CallGraph} (same : graph.outline = other.outline)

include same

theorem keys_eq : graph.keys = other.keys := by
  have keys := congrArg Assoc.keys same
  rwa [outline, outline, Assoc.keys_mapValues, Assoc.keys_mapValues] at keys

theorem outline_get? (key : String) : (Assoc.get? graph.nodes key).map CallNode.outline
      = (Assoc.get? other.nodes key).map CallNode.outline := by
  rw [← Assoc.get?_mapValues, ← Assoc.get?_mapValues]
  exact congrArg (Assoc.get? · key) same

theorem isDefined_eq (key : String) : graph.isDefined key = other.isDefined key := by
  have node := congrArg (Option.elim · false Prod.fst) (outline_get? same key)
  rwa [Option.elim_map, Option.elim_map] at node

theorem targetsOf_eq (key : String) : graph.targetsOf key = other.targetsOf key := by
  have node := congrArg (Option.elim · [] fun node => Assoc.keys node.2) (outline_get? same key)
  rwa [Option.elim_map, Option.elim_map] at node

theorem reachers_eq (among : List String) (goal : String) :
    graph.reachers among goal = other.reachers among goal := by
  have sameEdge := fun caller => hasEdge_eq (targetsOf_eq same caller)
  have after : ∀ rounds, graph.reachersAfter among goal rounds = other.reachersAfter among goal rounds := by
    intro rounds
    induction rounds with
    | zero => simp only [reachersAfter, sameEdge]
    | succ rounds ih => simp only [reachersAfter, sameEdge, ih]
  exact after among.length

theorem callersOf_eq (key : String) : graph.callersOf key = other.callersOf key := by
  rw [callersOf, callersOf, keys_eq same, reachers_eq same]

theorem isAcyclic_eq : graph.isAcyclic = other.isAcyclic := by
  simp only [isAcyclic, keys_eq same, reachers_eq same]

/-- The calls of names without a unit come from the same callers. -/
theorem dangling_callers : graph.dangling.map Dangling.caller = other.dangling.map Dangling.caller := by
  have asOutline : ∀ graph : CallGraph, graph.dangling.map Dangling.caller
      = graph.outline.flatMap fun entry =>
        (entry.2.2.filter fun call => !graph.isDefined call.1).map fun _ => entry.1 := by
    intro graph
    simp only [dangling, outline, Assoc.mapValues, List.map_flatMap, List.flatMap_map, List.map_map]
    rfl
  simp only [asOutline, same, isDefined_eq same]

end Reading

end CallGraph

/-! ### Loading -/

namespace Program

/-- Two programs with the same units but for case, the same blocked keys and as many load errors. -/
structure SameButCase (program other : Program) : Prop where
  units : Assoc.mapValues PromptUnit.lowered program.units = Assoc.mapValues PromptUnit.lowered other.units
  blocked : Assoc.SameKeys program.blocked other.blocked
  errors : program.loadErrors.length = other.loadErrors.length

section SameButCase

variable {program other : Program} {unit second : PromptUnit} {units others : List PromptUnit}
  {name spelled : String} {graph graphToo : CallGraph} {bad badToo : Assoc Fault}
  {checked checkedToo : Logged Program}

section

variable (same : program.SameButCase other)

include same

theorem SameButCase.names : program.names = other.names := by
  have asLowered : ∀ program : Program, program.names
      = (Assoc.mapValues PromptUnit.lowered program.units).map fun entry => entry.2.name := by
    intro program
    simp only [Program.names, loaded, Assoc.mapValues, List.map_map]
    rfl
  rw [asLowered, asLowered, same.units]

theorem SameButCase.loaded : List.Forall₂ PromptUnit.SameButCase program.loaded other.loaded := by
  refine forall₂_of_map_eq ?_
  have units := congrArg (List.map Prod.snd) same.units
  rw [Assoc.mapValues, Assoc.mapValues, List.map_map, List.map_map] at units
  rw [Program.loaded, Program.loaded, List.map_map, List.map_map]
  exact units

/-- **Under one key**, both programs have no unit, or units that are the same but for case. -/
theorem SameButCase.lookup_cases (sameName : nameKey name = nameKey spelled) :
    (program.lookup name = none ∧ other.lookup spelled = none) ∨
      ∃ unit second, program.lookup name = some unit ∧ other.lookup spelled = some second ∧
        unit.SameButCase second := by
  have lowered : (program.lookup name).map PromptUnit.lowered
      = (other.lookup spelled).map PromptUnit.lowered := by
    rw [lookup, lookup, ← Assoc.get?_mapValues, ← Assoc.get?_mapValues, same.units, sameName]
  cases found : program.lookup name with
  | none =>
    rw [found] at lowered
    exact Or.inl ⟨rfl, Option.map_eq_none_iff.mp lowered.symm⟩
  | some unit =>
    rw [found, Option.map_some] at lowered
    obtain ⟨second, foundToo, sameUnit⟩ := Option.map_eq_some_iff.mp lowered.symm
    exact Or.inr ⟨unit, second, rfl, foundToo, sameUnit.symm⟩

theorem SameButCase.isSome_lookup (sameName : nameKey name = nameKey spelled) :
    (program.lookup name).isSome = (other.lookup spelled).isSome := by
  rcases same.lookup_cases sameName with ⟨found, foundToo⟩ | ⟨_, _, found, foundToo, _⟩
  · rw [found, foundToo]
  · rw [found, foundToo]
    rfl

theorem SameButCase.setUnit (sameUnit : unit.SameButCase second) :
    (program.setUnit unit).SameButCase (other.setUnit second) := by
  refine ⟨?_, same.blocked, same.errors⟩
  unfold Program.setUnit
  dsimp only
  rw [Assoc.mapValues_set, Assoc.mapValues_set, same.units, sameUnit.key, sameUnit]

theorem SameButCase.block (sameKey : unit.key = second.key) (fault faultToo : Fault) :
    (program.block unit fault).SameButCase (other.block second faultToo) := by
  unfold Program.block
  rw [sameKey]
  refine ⟨?_, same.blocked.set _ _ _, ?_⟩
  · rw [Assoc.mapValues_erase, Assoc.mapValues_erase, same.units]
  · rw [List.length_append, List.length_append, same.errors]
    rfl

theorem SameButCase.addUnit (sameUnit : unit.SameButCase second) :
    (program.addUnit unit).SameButCase (other.addUnit second) := by
  have sameTaken : program.isTaken unit = other.isTaken second := by
    rw [isTaken, isTaken, same.isSome_lookup (congrArg nameKey sameUnit.name),
      same.blocked.has_eq, sameUnit.key]
  by_cases taken : program.isTaken unit = true
  · rw [addUnit_of_taken taken, addUnit_of_taken (sameTaken ▸ taken)]
    refine ⟨same.units, same.blocked, ?_⟩
    rw [List.length_append, List.length_append, same.errors]
    rfl
  · rw [addUnit_of_free taken, addUnit_of_free (sameTaken ▸ taken)]
    exact same.setUnit sameUnit

theorem SameButCase.addUnits (sameUnits : List.Forall₂ PromptUnit.SameButCase units others) :
    (program.addUnits units).SameButCase (other.addUnits others) := by
  refine List.rel_foldl (P := SameButCase) ?_ same sameUnits
  intro _ _ same _ _ sameUnit
  exact same.addUnit sameUnit

end

/-- The check of a unit does not look at what its arms call. -/
theorem checkUnit_eq (sameUnit : unit.SameButCase second) : checkUnit unit = checkUnit second := by
  have lowered : ∀ unit : PromptUnit, checkUnit unit.lowered = checkUnit unit := by
    intro unit
    unfold checkUnit
    have sameEmpty : unit.lowered.arms.isEmpty = unit.arms.isEmpty := List.isEmpty_map
    rw [sameEmpty]
    rfl
  rw [← lowered unit, ← lowered second, sameUnit]

theorem SameButCase.checkUnits (checked checkedToo : Logged Program)
    (same : checked.value.SameButCase checkedToo.value)
    (sameUnits : List.Forall₂ PromptUnit.SameButCase units others) :
    (Program.checkUnits checked units).1.value.SameButCase
      (Program.checkUnits checkedToo others).1.value := by
  induction sameUnits generalizing checked checkedToo with
  | nil => exact same
  | cons sameUnit _ ih =>
    rw [Program.checkUnits, Program.checkUnits, checkUnit_eq sameUnit]
    split
    · exact ih _ _ (same.setUnit (sameUnit.setMetadata _))
    · exact ih _ _ (same.block sameUnit.key _ _)
    · exact same

/-- The same units call a name without a unit. -/
theorem SameButCase.missingTargets (same : program.SameButCase other)
    (sameGraph : graph.outline = graphToo.outline) :
    Assoc.SameKeys (program.missingTargets graph) (other.missingTargets graphToo) := by
  have callers := forall₂_of_map_eq (CallGraph.dangling_callers sameGraph)
  refine List.rel_foldl (P := Assoc.SameKeys) ?_ rfl callers
  intro bad badToo sameBad edge edgeToo sameCaller
  dsimp only
  rcases same.lookup_cases (congrArg nameKey sameCaller) with
    ⟨found, foundToo⟩ | ⟨unit, second, found, foundToo, _⟩
  · rw [found, foundToo]
    exact sameBad
  · rw [found, foundToo, sameCaller]
    exact sameBad.set_unless _ _ _

/-- The same units depend on a unit that cannot load. -/
theorem SameButCase.addDependents (same : program.SameButCase other)
    (sameGraph : graph.outline = graphToo.outline) (sameBad : Assoc.SameKeys bad badToo)
    (key : String) :
    Assoc.SameKeys (program.addDependents graph bad key) (other.addDependents graphToo badToo key) := by
  unfold Program.addDependents
  rw [← CallGraph.callersOf_eq sameGraph]
  refine List.rel_foldl (P := Assoc.SameKeys) (R := Eq) ?_ sameBad (List.forall₂_refl _)
  rintro bad badToo sameBad caller _ rfl
  dsimp only
  rcases same.lookup_cases (Eq.refl (nameKey caller)) with
    ⟨found, foundToo⟩ | ⟨unit, second, found, foundToo, _⟩
  · rw [found, foundToo]
    exact sameBad
  rcases same.lookup_cases (Eq.refl (nameKey key)) with
    ⟨broken, brokenToo⟩ | ⟨unitToo, secondToo, broken, brokenToo, _⟩
  · rw [found, foundToo, broken, brokenToo]
    exact sameBad
  · rw [found, foundToo, broken, brokenToo]
    exact sameBad.set_unless _ _ _

theorem SameButCase.brokenReferences (same : program.SameButCase other)
    (sameGraph : graph.outline = graphToo.outline) :
    Assoc.SameKeys (program.brokenReferences graph) (other.brokenReferences graphToo) := by
  have missing := same.missingTargets sameGraph
  unfold Program.brokenReferences
  dsimp only
  rw [← missing]
  refine List.rel_foldl (P := Assoc.SameKeys) (R := Eq) ?_ missing (List.forall₂_refl _)
  rintro bad badToo sameBad key _ rfl
  exact same.addDependents sameGraph sameBad key

theorem SameButCase.blockAll (same : checked.value.SameButCase checkedToo.value)
    (sameBad : Assoc.SameKeys bad badToo) :
    (Program.blockAll checked bad).value.SameButCase (Program.blockAll checkedToo badToo).value := by
  refine List.rel_foldl
    (P := fun checked checkedToo : Logged Program => checked.value.SameButCase checkedToo.value) ?_ same
    (forall₂_of_map_eq sameBad)
  intro checked checkedToo same entry entryToo sameKey
  dsimp only
  rcases same.lookup_cases (congrArg nameKey sameKey) with
    ⟨found, foundToo⟩ | ⟨unit, second, found, foundToo, sameUnit⟩
  · rw [found, foundToo]
    exact same
  · rw [found, foundToo]
    exact same.block sameUnit.key _ _

/-- **Checking the calls of programs that are the same but for case** leaves such programs. -/
theorem SameButCase.checkCalls (same : checked.value.SameButCase checkedToo.value) :
    (Program.checkCalls checked).value.SameButCase (Program.checkCalls checkedToo).value := by
  have sameGraph := CallGraph.outline_ofUnits same.loaded
  have withGraphs : { checked.value with graph := some (CallGraph.ofUnits checked.value.loaded) }.SameButCase
      { checkedToo.value with graph := some (CallGraph.ofUnits checkedToo.value.loaded) } :=
    ⟨same.units, same.blocked, same.errors⟩
  exact SameButCase.blockAll withGraphs (withGraphs.brokenReferences sameGraph)

end SameButCase

end Program

/-! ### Running -/

/-- A match whose arm calls names in small letters. -/
def Match.lowered (found : Match) : Match := { found with arm := found.arm.lowered }

/-- Which arm matches, and what it binds, does not depend on what the arms call. -/
theorem firstMatch_lowered (answer : String) (arms : List Arm) :
    firstMatch answer (arms.map Arm.lowered) = (firstMatch answer arms).map (Option.map Match.lowered) := by
  unfold firstMatch
  generalize 0 = index
  induction arms generalizing index with
  | nil => rfl
  | cons arm arms ih =>
    rw [List.map_cons, firstMatchFrom, firstMatchFrom]
    have samePattern : arm.lowered.pattern = arm.pattern := rfl
    rw [samePattern, ih]
    cases arm.pattern.bindings? answer with
    | error torn => rfl
    | ok bound => cases bound <;> rfl

/-- **Units that are the same but for case choose alike**: an arm that says the same but for case. -/
theorem choice_cases {unit second : PromptUnit} (sameUnit : unit.SameButCase second) (answer : String) :
    (∃ torn, firstMatch answer unit.arms = .error torn ∧ firstMatch answer second.arms = .error torn) ∨
    (firstMatch answer unit.arms = .ok none ∧ firstMatch answer second.arms = .ok none) ∨
    ∃ found foundToo, firstMatch answer unit.arms = .ok (some found) ∧
      firstMatch answer second.arms = .ok (some foundToo) ∧ found.lowered = foundToo.lowered := by
  have arms : unit.arms.map Arm.lowered = second.arms.map Arm.lowered := (congrArg PromptUnit.arms sameUnit :)
  have choices := congrArg (firstMatch answer) arms
  rw [firstMatch_lowered, firstMatch_lowered] at choices
  generalize firstMatch answer unit.arms = choice at choices
  generalize firstMatch answer second.arms = choiceToo at choices
  cases choice with
  | error torn =>
    cases choiceToo with
    | error tornToo =>
      cases choices
      exact Or.inl ⟨torn, rfl, rfl⟩
    | ok chosenToo => cases choices
  | ok chosen =>
    cases choiceToo with
    | error tornToo => cases choices
    | ok chosenToo =>
      have sameChoice : chosen.map Match.lowered = chosenToo.map Match.lowered := Except.ok.inj choices
      cases chosen with
      | none =>
        rw [Option.map_eq_none_iff.mp sameChoice.symm]
        exact Or.inr (Or.inl ⟨rfl, rfl⟩)
      | some found =>
        obtain ⟨foundToo, rfl, sameFound⟩ := Option.map_eq_some_iff.mp sameChoice.symm
        exact Or.inr (Or.inr ⟨found, foundToo, rfl, rfl, sameFound.symm⟩)

section Running

variable {program other : Program} {graph : CallGraph} {unit second : PromptUnit}
  {enter enterToo : PromptUnit → Act Outcome}

/-- Entering a loaded unit is entering the one that is the same but for case. -/
def EnterAlike (program : Program) (enter enterToo : PromptUnit → Act Outcome) : Prop :=
  ∀ {unit second}, unit ∈ program.loaded → unit.SameButCase second → enter unit = enterToo second

theorem enterTarget_eq (alike : EnterAlike program enter enterToo) (isLoaded : unit ∈ program.loaded)
    (sameUnit : unit.SameButCase second) : enterTarget enter unit = enterTarget enterToo second := by
  have sameHistory : unit.history = second.history := (congrArg PromptUnit.history sameUnit :)
  rw [enterTarget, enterTarget, alike isLoaded sameUnit, sameHistory]

/-- **Calls are alike when every one of them finds a unit**: what a name was written like is never used. -/
theorem callTargets_eq (tidy : program.Tidy) (same : program.SameButCase other)
    (alike : EnterAlike program enter enterToo) (sameUnit : unit.SameButCase second) (outcome : Outcome)
    {targets spelled : List String}
    (sameTargets : List.Forall₂ (fun target spelled => lowerCase target = lowerCase spelled) targets spelled)
    (found : ∀ target ∈ targets, ∃ callee, program.lookup target = some callee) :
    callTargets program enter unit outcome targets = callTargets other enterToo second outcome spelled := by
  induction sameTargets generalizing outcome with
  | nil => rfl
  | cons sameTarget _ ih =>
    rw [List.forall_mem_cons] at found
    obtain ⟨⟨callee, here⟩, later⟩ := found
    rcases same.lookup_cases (nameKey_eq_of_lowerCase sameTarget) with
      ⟨missing, _⟩ | ⟨_, calleeToo, isCallee, hereToo, sameCallee⟩
    · rw [missing] at here
      cases here
    · obtain rfl := Option.some.inj (here.symm.trans isCallee)
      have isLoaded := tidy.mem_loaded_of_lookup here
      rw [callTargets, callTargets, here, hereToo]
      dsimp only
      simp only [ih _ later, enterTarget_eq alike isLoaded sameCallee, sameCallee.name, sameUnit.name]

theorem runCommand_eq (sameUnit : unit.SameButCase second) (purpose : Purpose) :
    runCommand purpose unit = runCommand purpose second := by
  have lowered : ∀ unit : PromptUnit, runCommand purpose unit.lowered = runCommand purpose unit :=
    fun _ => rfl
  rw [← lowered unit, ← lowered second, sameUnit]

theorem carryOut_eq (tidy : program.Tidy) (same : program.SameButCase other)
    (alike : EnterAlike program enter enterToo) (sameUnit : unit.SameButCase second)
    {action spelled : Action} (sameAction : action.lowered = spelled.lowered)
    (found : ∀ target ∈ action.targets, ∃ callee, program.lookup target = some callee) :
    carryOut program enter unit action = carryOut other enterToo second spelled := by
  cases action with
  | shell command =>
    cases spelled with
    | shell commandToo =>
      cases sameAction
      rw [carryOut, carryOut, runCommand_eq sameUnit]
    | call | pipe => cases sameAction
  | call targets =>
    cases spelled with
    | call targetsToo =>
      have sameTargets := forall₂_of_map_eq (Action.call.inj sameAction)
      exact callTargets_eq tidy same alike sameUnit .success sameTargets found
    | shell | pipe => cases sameAction
  | pipe command targets =>
    cases spelled with
    | pipe commandToo targetsToo =>
      obtain ⟨rfl, isSame⟩ := Action.pipe.inj sameAction
      have sameTargets := forall₂_of_map_eq isSame
      rw [carryOut, carryOut, runCommand_eq sameUnit, sameUnit.name,
        callTargets_eq tidy same alike sameUnit .success sameTargets found]
    | shell | call => cases sameAction

theorem matchAndAct_eq (linked : program.Linked graph) (same : program.SameButCase other)
    (alike : EnterAlike program enter enterToo) (isLoaded : unit ∈ program.loaded)
    (sameUnit : unit.SameButCase second) :
    matchAndAct program enter unit = matchAndAct other enterToo second := by
  have sameSubject : unit.subject = second.subject := (congrArg PromptUnit.subject sameUnit :)
  unfold matchAndAct
  rw [← sameSubject, ← sameUnit.name]
  refine congrArg (Act.goTo .matching >>= ·) (funext fun _ => ?_)
  refine congrArg (Act.running >>= ·) (funext fun running => ?_)
  cases running.session.lookup unit.subject with
  | none => rfl
  | some subject =>
    rcases choice_cases sameUnit subject with
      ⟨torn, chosen, chosenToo⟩ | ⟨chosen, chosenToo⟩ | ⟨found, foundToo, chosen, chosenToo, sameFound⟩
    · simp only [chosen, chosenToo]
    · simp only [chosen, chosenToo]
    · have sameMessage : matchedMessage unit found = matchedMessage second foundToo := by
        have lowered : ∀ (unit : PromptUnit) (found : Match),
            matchedMessage unit.lowered found.lowered = matchedMessage unit found := fun _ _ => rfl
        rw [← lowered, ← lowered second, sameUnit, sameFound]
      have sameBindings : found.bindings = foundToo.bindings := (congrArg Match.bindings sameFound :)
      have sameAction : found.arm.action.lowered = foundToo.arm.action.lowered :=
        (congrArg (fun found => found.arm.action) sameFound :)
      have calls : ∀ target ∈ found.arm.action.targets, ∃ callee, program.lookup target = some callee :=
        fun target isTarget => linked.found unit target
          ⟨isLoaded, found.arm, mem_of_firstMatch chosen, isTarget⟩
      simp only [chosen, chosenToo, sameMessage, sameBindings,
        carryOut_eq linked.tidy same alike sameUnit sameAction calls]

theorem askModel_eq (sameUnit : unit.SameButCase second) (hasModel : Bool) (timeout : Float) :
    askModel ⟨program, hasModel, timeout⟩ unit = askModel ⟨other, hasModel, timeout⟩ second := by
  have lowered : ∀ (program other : Program) (unit : PromptUnit),
      askModel ⟨program, hasModel, timeout⟩ unit.lowered = askModel ⟨other, hasModel, timeout⟩ unit :=
    fun _ _ _ => rfl
  rw [← lowered program, ← lowered program other second, sameUnit]

theorem driveUnit_eq (linked : program.Linked graph) (same : program.SameButCase other)
    (alike : EnterAlike program enter enterToo) (isLoaded : unit ∈ program.loaded)
    (sameUnit : unit.SameButCase second) (hasModel : Bool) (timeout : Float) :
    driveUnit ⟨program, hasModel, timeout⟩ enter unit
      = driveUnit ⟨other, hasModel, timeout⟩ enterToo second := by
  have samePlace : unit.workplace = second.workplace := (congrArg PromptUnit.workplace sameUnit :)
  have sameDirection : unit.direction = second.direction := (congrArg PromptUnit.direction sameUnit :)
  unfold driveUnit
  rw [sameUnit.name, samePlace, sameDirection, askModel_eq sameUnit]
  dsimp only
  rw [matchAndAct_eq linked same alike isLoaded sameUnit]

/-- **Running a unit does not depend on the letter case of calls.** The induction is on the fuel, so that the
units that are called run alike. -/
theorem runUnit_eq (linked : program.Linked graph) (same : program.SameButCase other) (hasModel : Bool)
    (timeout : Float) (fuel : Nat) :
    EnterAlike program (runUnit ⟨program, hasModel, timeout⟩ fuel)
      (runUnit ⟨other, hasModel, timeout⟩ fuel) := by
  induction fuel with
  | zero =>
    intro unit second _ sameUnit
    rw [runUnit, runUnit, sameUnit.name]
  | succ fuel ih =>
    intro unit second isLoaded sameUnit
    rw [runUnit, runUnit, enterUnit, enterUnit, sameUnit.name,
      driveUnit_eq linked same ih isLoaded sameUnit]

/-- **A chain does not depend on the letter case of calls, nor on that of the name it starts from.** -/
theorem invoke_eq (linked : program.Linked graph) (same : program.SameButCase other)
    {name spelled : String} (sameName : nameKey name = nameKey spelled)
    (found : program.lookup name = some unit) (hasModel : Bool) (timeout : Float) (user : String)
    (session : Option Session) :
    invoke ⟨program, hasModel, timeout⟩ name user session
      = invoke ⟨other, hasModel, timeout⟩ spelled user session := by
  rcases same.lookup_cases sameName with ⟨missing, _⟩ | ⟨_, second, isUnit, foundToo, sameUnit⟩
  · rw [missing] at found
    cases found
  obtain rfl := Option.some.inj (found.symm.trans isUnit)
  have sameRun := runUnit_eq linked same hasModel timeout other.units.length
    (linked.tidy.mem_loaded_of_lookup found) sameUnit
  have sameLength : program.units.length = other.units.length := by
    have lengths := congrArg List.length same.units
    rwa [Assoc.mapValues, Assoc.mapValues, List.length_map, List.length_map] at lengths
  have sameConclusion : conclude ⟨program, hasModel, timeout⟩ name
      = conclude ⟨other, hasModel, timeout⟩ spelled := by
    have sameEnd : endOutcome ⟨program, hasModel, timeout⟩ name
        = endOutcome ⟨other, hasModel, timeout⟩ spelled := by
      funext result
      unfold endOutcome
      rw [same.isSome_lookup sameName]
    unfold conclude
    rw [sameEnd]
  unfold invoke runNamed
  dsimp only
  rw [found, foundToo, sameConclusion, sameLength]
  dsimp only
  rw [sameRun, sameUnit.name]

end Running

/-! ### Main statement -/

/-- A unit that was parsed from a text. -/
def PromptUnit.IsParsed (unit : PromptUnit) : Prop :=
  ∃ origin text units, Source.parseUnits origin text = .ok units ∧ unit ∈ units

theorem PromptUnit.IsParsed.wellFormed {unit : PromptUnit} (parsed : unit.IsParsed) : unit.WellFormed := by
  obtain ⟨_, _, _, read, isUnit⟩ := parsed
  exact Source.wellFormed_of_parseUnits read unit isUnit

/-- Another spelling of a name: with letters in the other case, or with letters that fold to the same ones,
as the Kelvin sign does to `k`. -/
def Spells (spelled name : String) : Prop :=
  lowerCase spelled = lowerCase name ∨ Text.fold spelled = Text.fold name

theorem Spells.nameKey_eq {spelled name : String} (spells : Spells spelled name) :
    nameKey spelled = nameKey name :=
  spells.elim nameKey_eq_of_lowerCase id

namespace Program

/-- What the analysis of well-formed units is: a program whose calls were checked, and no error unless it is
strict and there is a load error. -/
theorem exists_analyzed {units : List PromptUnit} (wellFormed : ∀ unit ∈ units, unit.WellFormed) :
    ∃ checked : Logged Program,
      checkUnits ⟨addUnits {} units, []⟩ (addUnits {} units).loaded = (checked, true) ∧
      checked.value.Tidy ∧ (addUnits {} units).analyze false = (checkCalls checked, none) ∧
      (((addUnits {} units).analyze true).2.isSome = true ↔
        0 < (checkCalls checked).value.loadErrors.length) := by
  have tidy : (addUnits {} units).Tidy := Filled.empty.tidy.addUnits wellFormed
  obtain ⟨checked, passes, tidyChecked, _⟩ := tidy.exists_checked
  refine ⟨checked, passes, tidyChecked, by rw [analyze, passes], ?_⟩
  rw [analyze, passes]
  dsimp only
  cases (checkCalls checked).value.loadErrors with
  | nil => simp
  | cons fault faults => simp

end Program

/-- **The letter case of calls decides nothing, nor that of the name from which a chain starts.** Two lists of
parsed units that differ at most in the letter case of the names that their arms call load alike:

* the same names are loaded, the same keys are blocked, one call graph has a cycle when the other has, and a
  strict load refuses both or none;
* a chain from a loaded unit, whatever way its name is spelled in either program, has the same report, leaves
  the same session and the same host, and goes through the same moments, log lines, requests and replies. -/
theorem spelling_of_calls_decides_nothing (units others : List PromptUnit)
    (parsed : ∀ unit ∈ units, unit.IsParsed) (parsedToo : ∀ unit ∈ others, unit.IsParsed)
    (same : List.Forall₂ PromptUnit.SameButCase units others) :
    ∃ (result other : Logged Program) (graph graphToo : CallGraph),
      (Program.addUnits {} units).analyze false = (result, none) ∧
      (Program.addUnits {} others).analyze false = (other, none) ∧
      result.value.names = other.value.names ∧
      Assoc.keys result.value.blocked = Assoc.keys other.value.blocked ∧
      result.value.graph = some graph ∧ other.value.graph = some graphToo ∧
      graph.isAcyclic = graphToo.isAcyclic ∧
      ((Program.addUnits {} units).analyze true).2.isSome
        = ((Program.addUnits {} others).analyze true).2.isSome ∧
      ∀ unit ∈ result.value.loaded, ∀ spelled spelledToo : String,
        Spells spelled unit.name → Spells spelledToo unit.name →
        ∀ (hasModel : Bool) (timeout : Float) (user : String) (session : Option Session) (σ : Type)
          (host : Query.Host σ) (state : σ),
          let query := invoke ⟨result.value, hasModel, timeout⟩ spelled user session
          let queryToo := invoke ⟨other.value, hasModel, timeout⟩ spelledToo user session
          query.perform host state = queryToo.perform host state ∧
            query.trace host state = queryToo.trace host state := by
  obtain ⟨checked, passes, tidy, lenient, strict⟩ :=
    Program.exists_analyzed fun unit isUnit => (parsed unit isUnit).wellFormed
  obtain ⟨checkedToo, passesToo, tidyToo, lenientToo, strictToo⟩ :=
    Program.exists_analyzed fun unit isUnit => (parsedToo unit isUnit).wellFormed
  have added : (Program.addUnits {} units).SameButCase (Program.addUnits {} others) :=
    Program.SameButCase.addUnits ⟨rfl, rfl, rfl⟩ same
  have sameChecked : checked.value.SameButCase checkedToo.value := by
    have both := Program.SameButCase.checkUnits ⟨Program.addUnits {} units, []⟩
      ⟨Program.addUnits {} others, []⟩ added added.loaded
    rwa [passes, passesToo] at both
  have sameResult := sameChecked.checkCalls
  have linked := tidy.linked_checkCalls
  refine ⟨_, _, _, _, lenient, lenientToo, sameResult.names, sameResult.blocked, linked.kept,
    tidyToo.linked_checkCalls.kept, CallGraph.isAcyclic_eq (CallGraph.outline_ofUnits sameChecked.loaded),
    ?_, ?_⟩
  · rw [Bool.eq_iff_iff, strict, strictToo, sameResult.errors]
  · intro unit isLoaded spelled spelledToo spells spellsToo hasModel timeout user session σ host state query
      queryToo
    have sameName := spells.nameKey_eq.trans spellsToo.nameKey_eq.symm
    have found : (Program.checkCalls checked).value.lookup spelled = some unit := by
      rw [Program.lookup, spells.nameKey_eq]
      exact linked.tidy.mem_loaded.mp isLoaded
    have sameQuery : query = queryToo :=
      invoke_eq linked sameResult sameName found hasModel timeout user session
    rw [sameQuery]
    exact ⟨rfl, rfl⟩

/-- A unit that calls itself by some spelling of its name. -/
def echoSource (spelled : String) : String :=
  "Echo\ndirection:e\n\x7bmatch $AI\x7b\"\"=>" ++ spelled ++ "\x7d\x7d\n"

/-- The names that units call, in order. -/
def calledNames (units : List PromptUnit) : List String :=
  units.flatMap fun unit => (CallGraph.callsOf unit).map Prod.fst

/-- Two spellings of a call of itself: the unit is loaded with either, its graph has a cycle, and a chain from
it is the same. -/
theorem echoSource_runs_alike :
    ∃ units others, Source.parseUnits none (echoSource "ECHO") = .ok units ∧
      Source.parseUnits none (echoSource "eCHo") = .ok others ∧
      calledNames units = ["ECHO"] ∧ calledNames others = ["eCHo"] ∧
      List.Forall₂ PromptUnit.SameButCase units others ∧
      ∃ result other : Logged Program, (Program.addUnits {} units).analyze false = (result, none) ∧
        (Program.addUnits {} others).analyze false = (other, none) ∧
        result.value.names = ["Echo"] ∧ other.value.names = ["Echo"] ∧
        other.value.graph.map CallGraph.isAcyclic = some false ∧
        (invoke ⟨result.value, true, 0⟩ "ECHO" "" none).perform silentHost ()
          = (invoke ⟨other.value, true, 0⟩ "eChO" "" none).perform silentHost () := by
  have sameParsed : (Source.parseUnits none (echoSource "ECHO")).toOption.map (List.map PromptUnit.lowered)
      = (Source.parseUnits none (echoSource "eCHo")).toOption.map (List.map PromptUnit.lowered) := by
    decide +kernel
  have evaluated : (Source.parseUnits none (echoSource "ECHO")).toOption.map (fun units =>
      (calledNames units, ((Program.addUnits {} units).analyze false).1.value.names,
        ((Program.addUnits {} units).analyze false).1.value.graph.map CallGraph.isAcyclic))
      = some (["ECHO"], ["Echo"], some false) := by
    decide +kernel
  have called : (Source.parseUnits none (echoSource "eCHo")).toOption.map calledNames = some ["eCHo"] := by
    decide +kernel
  cases read : Source.parseUnits none (echoSource "ECHO") with
  | error problem => rw [read] at evaluated; cases evaluated
  | ok units =>
    cases readToo : Source.parseUnits none (echoSource "eCHo") with
    | error problem => rw [readToo] at called; cases called
    | ok others =>
      rw [read] at evaluated sameParsed
      rw [readToo] at called sameParsed
      obtain ⟨calls, rest⟩ := Prod.mk.inj (Option.some.inj evaluated)
      obtain ⟨names, cyclic⟩ := Prod.mk.inj rest
      have same := forall₂_of_map_eq (Option.some.inj sameParsed)
      obtain ⟨result, other, graph, graphToo, analyzed, analyzedToo, sameNames, _, kept, keptToo, sameCycles,
          _, alike⟩ :=
        spelling_of_calls_decides_nothing units others (fun unit isUnit => ⟨_, _, units, read, isUnit⟩)
          (fun unit isUnit => ⟨_, _, others, readToo, isUnit⟩) same
      rw [analyzed] at names cyclic
      have cyclicToo : other.value.graph.map CallGraph.isAcyclic = some false := by
        rw [← cyclic, kept, keptToo, Option.map_some, Option.map_some, sameCycles]
      have isEcho : ∃ unit ∈ result.value.loaded, unit.name = "Echo" := by
        rw [← List.mem_map, ← Program.names, names]
        exact List.mem_cons_self
      obtain ⟨unit, isLoaded, isName⟩ := isEcho
      have spells : Spells "ECHO" unit.name := Or.inl (by rw [isName]; decide)
      have spellsToo : Spells "eChO" unit.name := Or.inl (by rw [isName]; decide)
      have sameRuns := alike unit isLoaded "ECHO" "eChO" spells spellsToo true 0 "" none Unit silentHost ()
      exact ⟨units, others, rfl, rfl, calls, Option.some.inj called, same, result, other, analyzed,
        analyzedToo, names, sameNames ▸ names, cyclicToo, sameRuns.1⟩

end PromptChain
