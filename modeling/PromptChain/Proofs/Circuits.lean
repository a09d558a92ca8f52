/-
**Circuits of calls.**

A circuit is made of different nodes, each of which calls the next one and the last of which calls the
first (`CallGraph.IsCircuit`). Where it starts does not matter.

* `mem_circuitsAlong`: the search from a path comes to every circuit that goes on from the path. It has
  fuel for all nodes, and leaves out only nodes from which no path leads back. It gives nothing else
  (`of_mem_circuitsAlong`) and nothing twice (`nodup_circuitsAlong`).
* `mem_circuits_iff`: the circuits that are listed are those that start at their least node.
* `IsCircuit.exists_mem_circuits`, `IsCircuit.countP_circuits`: **every circuit is listed once, up to
  rotation.**
* `exists_circuit_of_walk`: a closed walk holds a circuit, so a graph is acyclic when it has none
  (`isAcyclic_iff_circuits`).
* `queries_tell_reachability`: what the graph of units says about callers and cycles is true of its paths.
-/

import Mathlib.Data.List.Cycle
import Mathlib.Data.List.MinMax
import Mathlib.Data.List.Perm.Subperm
import Mathlib.Data.String.Basic
import PromptChain.Proofs.CallGraph

namespace PromptChain

namespace CallGraph

/-! ### Circuits -/

/-- Different nodes that call each other in a circle. -/
structure IsCircuit (graph : CallGraph) (circuit : List String) : Prop where
  someNode : circuit ≠ []
  distinct : circuit.Nodup
  closed : Cycle.Chain graph.Calls (circuit : Cycle String)

variable {graph : CallGraph} {start last : String} {among circuit rest : List String}
  {useful path : List String} {fuel : Nat}

/-- Where a circuit starts does not matter. -/
theorem IsCircuit.rotate {other : List String} (isCircuit : graph.IsCircuit circuit)
    (rotated : circuit ~r other) : graph.IsCircuit other where
  someNode := fun isEmpty => isCircuit.someNode (List.isRotated_nil_iff.mp (isEmpty ▸ rotated))
  distinct := rotated.nodup_iff.mp isCircuit.distinct
  closed := Cycle.coe_eq_coe.mpr rotated ▸ isCircuit.closed

/-- A caller is a node. -/
theorem mem_keys_of_calls {caller target : String} (call : graph.Calls caller target) :
    caller ∈ graph.keys := by
  rw [← callsAmong_keys] at call
  exact call.1

/-- From every node of a walk a path leads to where the walk goes, and it leaves no nodes among which the
callers on the walk are. -/
theorem transGen_of_walk (inside : ∀ key ∈ last :: rest, key ∈ graph.keys → key ∈ among)
    (walk : (last :: (rest ++ [start])).IsChain graph.Calls) :
    ∀ key ∈ last :: rest, Relation.TransGen (graph.CallsAmong among) key start := by
  induction rest generalizing last with
  | nil =>
    intro key isKey
    obtain rfl := List.mem_singleton.mp isKey
    exact .single ⟨inside key isKey (mem_keys_of_calls walk.rel), walk.rel⟩
  | cons next rest ih =>
    obtain ⟨call, onward⟩ := List.isChain_cons_cons.mp walk
    have later := ih (List.forall_mem_cons.mp inside).2 onward
    intro key isKey
    rcases List.mem_cons.mp isKey with rfl | isLater
    · exact .head ⟨inside key isKey (mem_keys_of_calls call), call⟩ (later next List.mem_cons_self)
    · exact later key isLater

/-- Every node of a circuit reaches the first one. -/
theorem IsCircuit.mem_reachers (isCircuit : graph.IsCircuit (start :: rest))
    (inside : ∀ key ∈ start :: rest, key ∈ graph.keys → key ∈ among) :
    ∀ key ∈ start :: rest, key ∈ graph.reachers among start := by
  intro key isKey
  have walk := (Cycle.chain_coe_cons _ _ _).mp isCircuit.closed
  exact mem_reachers_iff.mpr (transGen_of_walk inside walk key isKey)

theorem IsCircuit.mem_keys (isCircuit : graph.IsCircuit circuit) {key : String} (isKey : key ∈ circuit) :
    key ∈ graph.keys := by
  cases circuit with
  | nil => cases isKey
  | cons start rest =>
    exact mem_among_of_mem_reachersAfter (isCircuit.mem_reachers (fun _ _ => id) key isKey)

/-- A graph with a circuit is not acyclic. -/
theorem IsCircuit.isAcyclic (isCircuit : graph.IsCircuit circuit) : graph.isAcyclic = false := by
  obtain ⟨start, rest, rfl⟩ := List.exists_cons_of_ne_nil isCircuit.someNode
  have isKey := isCircuit.mem_keys List.mem_cons_self
  have reaches := isCircuit.mem_reachers (fun _ _ => id) start List.mem_cons_self
  exact List.all_eq_false.mpr ⟨start, isKey, by simp [reaches]⟩

/-! ### The search -/

/-- The nodes to which the search goes on. -/
theorem mem_onward {next : String} :
    (next ∈ (ascending (graph.targetsOf last)).filter fun next =>
      useful.contains next && !path.contains next) ↔ graph.Calls last next ∧ next ∈ useful ∧ next ∉ path := by
  rw [List.mem_filter, ascending, List.mem_mergeSort, Calls, hasEdge, List.contains_iff_mem]
  simp

theorem nodup_longer {path : List String} {next : String} (distinct : path.Nodup) (isNew : next ∉ path) :
    (path ++ [next]).Nodup := List.concat_eq_append ▸ distinct.concat isNew

/-- **The search along a path comes to every circuit that goes on from it.** -/
theorem mem_circuitsAlong (walk : (last :: (rest ++ [start])).IsChain graph.Calls)
    (isUseful : ∀ key ∈ rest, key ∈ useful) (distinct : (path ++ rest).Nodup)
    (enough : rest.length < fuel) :
    path ++ rest ∈ graph.circuitsAlong start useful fuel path last := by
  induction rest generalizing path last fuel with
  | nil =>
    obtain ⟨fuel, rfl⟩ := Nat.exists_eq_add_one_of_ne_zero (Nat.ne_zero_of_lt enough)
    have closes : graph.hasEdge last start = true := walk.rel
    rw [circuitsAlong, List.append_nil, closes]
    exact List.mem_append_left _ (List.mem_singleton.mpr rfl)
  | cons next rest ih =>
    obtain ⟨fuel, rfl⟩ := Nat.exists_eq_add_one_of_ne_zero (Nat.ne_zero_of_lt enough)
    obtain ⟨call, onward⟩ := List.isChain_cons_cons.mp walk
    obtain ⟨nextUseful, restUseful⟩ := List.forall_mem_cons.mp isUseful
    have isNew : next ∉ path := fun isOld =>
      (List.nodup_append.mp distinct).2.2 next isOld next List.mem_cons_self rfl
    have isNext := mem_onward.mpr ⟨call, nextUseful, isNew⟩
    rw [List.append_cons] at distinct ⊢
    rw [circuitsAlong]
    refine List.mem_append_right _ (List.mem_flatMap.mpr ⟨next, isNext, ?_⟩)
    exact ih onward restUseful distinct (by simpa using enough)

/-- **A circuit is found from its least node.** -/
theorem IsCircuit.mem_circuitsFrom (isCircuit : graph.IsCircuit (start :: rest))
    (least : ∀ key ∈ rest, start ≤ key) : start :: rest ∈ graph.circuitsFrom start := by
  have walk := (Cycle.chain_coe_cons _ _ _).mp isCircuit.closed
  have size : rest.length < graph.keys.length :=
    (List.subperm_of_subset isCircuit.distinct fun key => isCircuit.mem_keys).length_le
  have inside : ∀ key ∈ start :: rest, key ∈ graph.keys →
      key ∈ graph.keys.filter fun key => decide (start ≤ key) := by
    intro key isKey isNode
    refine List.mem_filter.mpr ⟨isNode, decide_eq_true ?_⟩
    rcases List.mem_cons.mp isKey with rfl | isLater
    · exact le_refl _
    · exact least key isLater
  refine mem_circuitsAlong walk (fun key isKey => ?_) isCircuit.distinct size
  exact isCircuit.mem_reachers inside key (List.mem_cons_of_mem _ isKey)

/-- **The search along a path gives nothing but circuits that go on from it.** -/
theorem of_mem_circuitsAlong {useful path found : List String}
    (isFound : found ∈ graph.circuitsAlong start useful fuel path last) (distinct : path.Nodup) :
    ∃ rest, found = path ++ rest ∧ (last :: (rest ++ [start])).IsChain graph.Calls ∧
      (∀ key ∈ rest, key ∈ useful) ∧ found.Nodup := by
  induction fuel generalizing path last with
  | zero => cases isFound
  | succ fuel ih =>
    rcases List.mem_append.mp isFound with here | later
    · split at here
      · rename_i closes
        obtain rfl := List.mem_singleton.mp here
        exact ⟨[], (List.append_nil _).symm, List.isChain_pair.mpr closes, List.forall_mem_nil _, distinct⟩
      · cases here
    · obtain ⟨next, isNext, onward⟩ := List.mem_flatMap.mp later
      obtain ⟨call, nextUseful, isNew⟩ := mem_onward.mp isNext
      obtain ⟨rest, rfl, walk, restUseful, whole⟩ := ih onward (nodup_longer distinct isNew)
      refine ⟨next :: rest, (List.append_cons ..).symm, ?_, ?_, whole⟩
      · exact List.isChain_cons_cons.mpr ⟨call, walk⟩
      · exact List.forall_mem_cons.mpr ⟨nextUseful, restUseful⟩

/-- The circuits from a node are those in which it is the least. -/
theorem mem_circuitsFrom_iff :
    circuit ∈ graph.circuitsFrom start ↔
      ∃ rest, circuit = start :: rest ∧ graph.IsCircuit circuit ∧ ∀ key ∈ rest, start ≤ key := by
  constructor
  · intro found
    obtain ⟨rest, rfl, walk, useful, distinct⟩ := of_mem_circuitsAlong found (List.nodup_singleton start)
    refine ⟨rest, rfl, ⟨List.cons_ne_nil _ _, distinct, (Cycle.chain_coe_cons _ _ _).mpr walk⟩,
      fun key isKey => ?_⟩
    have among := mem_among_of_mem_reachersAfter (useful key isKey)
    exact of_decide_eq_true (List.mem_filter.mp among).2
  · rintro ⟨rest, rfl, isCircuit, least⟩
    exact isCircuit.mem_circuitsFrom least

/-- A circuit is listed when it starts at its least node. -/
theorem mem_circuits_iff :
    circuit ∈ graph.circuits ↔
      ∃ start rest, circuit = start :: rest ∧ graph.IsCircuit circuit ∧ ∀ key ∈ rest, start ≤ key := by
  rw [circuits, List.mem_flatMap]
  constructor
  · rintro ⟨start, _, found⟩
    exact ⟨start, mem_circuitsFrom_iff.mp found⟩
  · rintro ⟨start, rest, rfl, isCircuit, least⟩
    refine ⟨start, ?_, mem_circuitsFrom_iff.mpr ⟨rest, rfl, isCircuit, least⟩⟩
    rw [ascending, List.mem_mergeSort]
    exact isCircuit.mem_keys List.mem_cons_self

/-- **Every circuit is listed, up to rotation.** -/
theorem IsCircuit.exists_mem_circuits (isCircuit : graph.IsCircuit circuit) :
    ∃ listed ∈ graph.circuits, circuit ~r listed := by
  cases isLeast : circuit.argmin id with
  | none => exact absurd (List.argmin_eq_none.mp isLeast) isCircuit.someNode
  | some start =>
    obtain ⟨early, late, rfl⟩ := List.append_of_mem (List.argmin_mem isLeast)
    have rotated : early ++ start :: late ~r start :: (late ++ early) := List.isRotated_append
    refine ⟨_, mem_circuits_iff.mpr ⟨start, late ++ early, rfl, isCircuit.rotate rotated, fun key isKey => ?_⟩,
      rotated⟩
    exact List.le_of_mem_argmin (rotated.perm.mem_iff.mpr (List.mem_cons_of_mem _ isKey)) isLeast

/-! ### Each circuit once -/

/-- The search along a path comes to no circuit twice. -/
theorem nodup_circuitsAlong (targets : ∀ key, (graph.targetsOf key).Nodup) (distinct : path.Nodup) :
    (graph.circuitsAlong start useful fuel path last).Nodup := by
  induction fuel generalizing path last with
  | zero => exact List.nodup_nil
  | succ fuel ih =>
    have goesOn {next : String} (isNext : next ∈ (ascending (graph.targetsOf last)).filter fun next =>
        useful.contains next && !path.contains next) {found : List String}
        (isFound : found ∈ graph.circuitsAlong start useful fuel (path ++ [next]) next) :
        ∃ rest, found = path ++ next :: rest := by
      obtain ⟨rest, rfl, _⟩ := of_mem_circuitsAlong isFound (nodup_longer distinct (mem_onward.mp isNext).2.2)
      exact ⟨rest, (List.append_cons ..).symm⟩
    rw [circuitsAlong, List.nodup_append, List.nodup_flatMap]
    refine ⟨by split <;> simp, ⟨fun next isNext => ?_, ?_⟩, fun first isFirst second isSecond same => ?_⟩
    · exact ih (nodup_longer distinct (mem_onward.mp isNext).2.2)
    · have different : ((ascending (graph.targetsOf last)).filter fun next =>
          useful.contains next && !path.contains next).Nodup :=
        ((List.mergeSort_perm _ _).nodup_iff.mpr (targets last)).filter _
      refine different.imp_of_mem fun {first second} isFirst isSecond apart found inFirst inSecond => apart ?_
      obtain ⟨rest, rfl⟩ := goesOn isFirst inFirst
      obtain ⟨other, same⟩ := goesOn isSecond inSecond
      exact (List.cons.inj (List.append_cancel_left same)).1
    · obtain ⟨next, isNext, isFound⟩ := List.mem_flatMap.mp isSecond
      obtain ⟨rest, isLonger⟩ := goesOn isNext isFound
      split at isFirst
      · rw [← same, List.mem_singleton.mp isFirst] at isLonger
        simp at isLonger
      · cases isFirst

theorem nodup_circuits (keys : graph.keys.Nodup) (targets : ∀ key, (graph.targetsOf key).Nodup) :
    graph.circuits.Nodup := by
  rw [circuits, List.nodup_flatMap]
  refine ⟨fun start _ => nodup_circuitsAlong targets (List.nodup_singleton start), ?_⟩
  refine List.Pairwise.imp ?_ ((List.mergeSort_perm _ _).nodup_iff.mpr keys)
  intro first second apart found inFirst inSecond
  obtain ⟨rest, rfl, _⟩ := mem_circuitsFrom_iff.mp inFirst
  obtain ⟨other, same, _⟩ := mem_circuitsFrom_iff.mp inSecond
  exact apart (List.cons.inj same).1

/-- Of the rotations of different nodes only one starts with a given node. -/
theorem eq_of_isRotated_of_head {first : String} {rest later : List String} (distinct : (first :: rest).Nodup)
    (rotated : first :: rest ~r first :: later) : rest = later := by
  obtain ⟨turns, few, turned⟩ := List.isRotated_iff_mod.mp rotated
  have split := List.take_append_drop turns (first :: rest)
  rw [List.rotate_eq_drop_append_take few] at turned
  generalize (first :: rest).take turns = early at turned split
  generalize (first :: rest).drop turns = late at turned split
  -- one of the parts is empty: else both start with the first node
  cases early with
  | nil => exact (List.cons.inj (split.symm.trans ((List.append_nil late).symm.trans turned))).2
  | cons node early =>
    cases late with
    | nil => exact (List.cons.inj (split.symm.trans ((List.append_nil _).trans turned))).2
    | cons other late =>
      rw [← split, (List.cons.inj turned).1, (List.cons.inj split).1] at distinct
      exact absurd (List.mem_append_right _ List.mem_cons_self) (List.nodup_cons.mp distinct).1

/-- Of the rotations of a circuit only one starts at its least node. -/
theorem eq_of_isRotated {listed other : List String} (isListed : listed ∈ graph.circuits)
    (isOther : other ∈ graph.circuits) (rotated : listed ~r other) : listed = other := by
  obtain ⟨start, rest, rfl, isCircuit, least⟩ := mem_circuits_iff.mp isListed
  obtain ⟨first, later, rfl, _, leastToo⟩ := mem_circuits_iff.mp isOther
  have same : first = start := by
    refine le_antisymm ?_ ?_
    · rcases List.mem_cons.mp (rotated.mem_iff.mp List.mem_cons_self) with here | isLater
      · exact le_of_eq here.symm
      · exact leastToo start isLater
    · rcases List.mem_cons.mp (rotated.mem_iff.mpr List.mem_cons_self) with here | isLater
      · exact le_of_eq here.symm
      · exact least first isLater
  subst same
  rw [eq_of_isRotated_of_head isCircuit.distinct rotated]

/-- **Each circuit is listed once, up to rotation.** -/
theorem IsCircuit.countP_circuits (keys : graph.keys.Nodup) (targets : ∀ key, (graph.targetsOf key).Nodup)
    (isCircuit : graph.IsCircuit circuit) :
    graph.circuits.countP (fun listed => decide (listed ~r circuit)) = 1 := by
  obtain ⟨listed, isListed, rotated⟩ := isCircuit.exists_mem_circuits
  have onlyOne : graph.circuits.countP (fun other => decide (other ~r circuit))
      = graph.circuits.count listed := by
    refine List.countP_congr fun other isOther => ?_
    rw [decide_eq_true_eq, beq_iff_eq]
    exact ⟨fun alike => eq_of_isRotated isOther isListed (alike.trans rotated), fun same => same ▸ rotated.symm⟩
  rw [onlyOne]
  exact List.count_eq_one_of_mem (nodup_circuits keys targets) isListed

/-! ### Nodes that reach themselves -/

theorem exists_walk {first goal : String} (path : Relation.TransGen graph.Calls first goal) :
    ∃ rest, (first :: (rest ++ [goal])).IsChain graph.Calls := by
  induction path using Relation.TransGen.head_induction_on with
  | single call => exact ⟨[], List.isChain_pair.mpr call⟩
  | @head first next call _ ih =>
    obtain ⟨rest, walk⟩ := ih
    exact ⟨next :: rest, List.isChain_cons_cons.mpr ⟨call, walk⟩⟩

/-- A list with something twice. -/
theorem exists_twice {list : List String} (twice : ¬ list.Nodup) :
    ∃ early node middle late, list = early ++ node :: (middle ++ node :: late) := by
  induction list with
  | nil => exact absurd List.nodup_nil twice
  | cons node list ih =>
    by_cases here : node ∈ list
    · obtain ⟨middle, late, rfl⟩ := List.append_of_mem here
      exact ⟨[], node, middle, late, rfl⟩
    · obtain ⟨early, other, middle, late, rfl⟩ := ih fun once => twice (List.nodup_cons.mpr ⟨here, once⟩)
      exact ⟨node :: early, other, middle, late, rfl⟩

/-- **A closed walk holds a circuit**: where a node comes twice, what is between is a shorter closed walk. -/
theorem exists_circuit_of_walk {start : String} {rest : List String}
    (walk : (start :: (rest ++ [start])).IsChain graph.Calls) :
    ∃ circuit, graph.IsCircuit circuit := by
  by_cases distinct : (start :: rest).Nodup
  · exact ⟨start :: rest, List.cons_ne_nil _ _, distinct, (Cycle.chain_coe_cons _ _ _).mpr walk⟩
  · obtain ⟨early, node, middle, late, twice⟩ := exists_twice distinct
    have size := congrArg List.length twice
    have whole : start :: (rest ++ [start]) = early ++ (node :: (middle ++ [node]) ++ (late ++ [start])) := by
      rw [← List.cons_append, twice]
      simp
    rw [whole] at walk
    exact exists_circuit_of_walk walk.right_of_append.left_of_append
termination_by rest.length
decreasing_by
  simp only [List.length_cons, List.length_append] at size
  omega

theorem isAcyclic_iff :
    graph.isAcyclic = true ↔ ∀ key ∈ graph.keys, ¬ Relation.TransGen graph.Calls key key := by
  rw [isAcyclic, List.all_eq_true]
  refine forall₂_congr fun key _ => ?_
  rw [Bool.not_eq_true', ← Bool.not_eq_true, List.contains_iff_mem, mem_reachers_iff, callsAmong_keys]

/-- **There is a circuit unless the graph is acyclic.** -/
theorem isAcyclic_iff_circuits : graph.isAcyclic = true ↔ graph.circuits = [] := by
  rw [isAcyclic_iff]
  constructor
  · intro acyclic
    refine List.eq_nil_iff_forall_not_mem.mpr fun circuit isListed => ?_
    obtain ⟨_, _, _, isCircuit, _⟩ := mem_circuits_iff.mp isListed
    rw [← isAcyclic_iff, isCircuit.isAcyclic] at acyclic
    cases acyclic
  · intro none key _ path
    obtain ⟨rest, walk⟩ := exists_walk path
    obtain ⟨circuit, isCircuit⟩ := exists_circuit_of_walk walk
    obtain ⟨listed, isListed, _⟩ := isCircuit.exists_mem_circuits
    rw [none] at isListed
    cases isListed

/-! ### What a graph tells -/

/-- The answers of a graph agree with what its nodes reach. -/
structure TellsReachability (graph : CallGraph) : Prop where
  /-- The callers of a node are the other nodes from which a path of calls leads to it, each once. -/
  callers : ∀ key, (graph.callersOf key).Nodup ∧ ∀ caller, caller ∈ graph.callersOf key ↔
    caller ∈ graph.keys ∧ caller ≠ key ∧ Relation.TransGen graph.Calls caller key
  /-- A key without a node has no callers. -/
  unknown : ∀ key, key ∉ graph.keys → graph.callersOf key = []
  /-- What is listed as a cycle is a circuit, by the names of its nodes. -/
  circuits : ∀ cycle ∈ graph.cycles,
    graph.IsCircuit (cycle.map nameKey) ∧ (cycle.map nameKey).map graph.nameOf = cycle
  /-- Each circuit is listed once, up to rotation. -/
  once : ∀ circuit, graph.IsCircuit circuit →
    graph.cycles.countP (fun cycle => decide (cycle.map nameKey ~r circuit)) = 1
  /-- A graph without cycles is one in which no node reaches itself. -/
  acyclic : graph.isAcyclic = true ↔ graph.cycles = []
  noReturn : graph.isAcyclic = true ↔ ∀ key ∈ graph.keys, ¬ Relation.TransGen graph.Calls key key

theorem nodup_callersOf (keys : graph.keys.Nodup) (key : String) : (graph.callersOf key).Nodup := by
  rw [callersOf, ascending, (List.mergeSort_perm _ _).nodup_iff, reachers, reachersAfter_eq_filter]
  exact (keys.filter _).filter _

/-- The keys of a circuit are found again by its names. -/
theorem IsCircuit.map_nameKey {units : List PromptUnit} (isCircuit : (ofUnits units).IsCircuit circuit) :
    (circuit.map (ofUnits units).nameOf).map nameKey = circuit := by
  rw [List.map_map]
  exact (List.map_congr_left fun key isKey => nameKey_nameOf (isCircuit.mem_keys isKey)).trans (List.map_id _)

/-- **Cycles, callers and acyclicity agree with reachability** in the graph of any units. -/
theorem queries_tell_reachability (units : List PromptUnit) : (ofUnits units).TellsReachability := by
  have keys : (ofUnits units).keys.Nodup := distinct_ofUnits units
  have targets : ∀ key, ((ofUnits units).targetsOf key).Nodup := by
    intro key
    unfold targetsOf
    cases found : Assoc.get? (ofUnits units).nodes key with
    | none => exact List.nodup_nil
    | some node => exact distinct_calls found
  have isCircuit : ∀ circuit ∈ (ofUnits units).circuits, (ofUnits units).IsCircuit circuit := by
    intro circuit isListed
    obtain ⟨_, _, _, isCircuit, _⟩ := mem_circuits_iff.mp isListed
    exact isCircuit
  refine ⟨fun key => ⟨nodup_callersOf keys key, fun caller => ?_⟩, fun key unknown => ?_, ?_, ?_, ?_,
    isAcyclic_iff⟩
  · rw [mem_callersOf_iff]
    refine ⟨fun ⟨other, path⟩ => ⟨?_, other, path⟩, And.right⟩
    obtain ⟨next, call, _⟩ := Relation.TransGen.head'_iff.mp path
    exact mem_keys_of_calls call
  · refine List.eq_nil_iff_forall_not_mem.mpr fun caller isCaller => unknown ?_
    obtain ⟨last, _, call⟩ := Relation.TransGen.tail'_iff.mp (mem_callersOf_iff.mp isCaller).2
    exact mem_keys_of_hasEdge call
  · intro cycle isCycle
    obtain ⟨circuit, isListed, rfl⟩ := List.mem_map.mp isCycle
    rw [(isCircuit circuit isListed).map_nameKey]
    exact ⟨isCircuit circuit isListed, rfl⟩
  · intro circuit closed
    rw [cycles, List.countP_map, ← closed.countP_circuits keys targets]
    refine List.countP_congr fun listed isListed => ?_
    rw [Function.comp_apply, (isCircuit listed isListed).map_nameKey]
  · rw [isAcyclic_iff_circuits, cycles, List.map_eq_nil_iff]

end CallGraph

end PromptChain
