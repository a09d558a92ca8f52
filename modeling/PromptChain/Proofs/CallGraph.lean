/-
**The call graph of units, and who reaches whom.**

* `get?_ofUnits`: what the graph holds at a key, in whatever order the units were added. From this it
  follows that the nodes are the units and the targets of their calls (`mem_keys_ofUnits`), that an edge is a
  call of a unit (`hasEdge_ofUnits`), that a node is defined when a unit has its key (`isDefined_ofUnits`)
  and then has its name (`nameOf_ofUnits`), and which edges dangle (`mem_dangling_iff`).
* `mem_reachers_iff`: the rounds of `reachers` find every path. Each round adds nodes or is the last one
  to do so, and there are as many rounds as nodes (`reachersAfter_stable`).
* `mem_callersOf_iff`: the callers of a node are the others from which a path leads to it.
-/

import Mathlib.Data.List.Induction
import Mathlib.Logic.Relation
import PromptChain.CallGraph
import PromptChain.Proofs.Assoc

namespace PromptChain

/-- The keys of the units that a unit calls. -/
def PromptUnit.callees (unit : PromptUnit) : List String :=
  (CallGraph.callsOf unit).map fun call => nameKey call.1

theorem PromptUnit.mem_callees {unit : PromptUnit} {key : String} :
    key ∈ unit.callees ↔ ∃ arm ∈ unit.arms, ∃ target ∈ arm.action.targets, nameKey target = key := by
  simp only [PromptUnit.callees, CallGraph.callsOf, List.mem_map, List.mem_flatMap]
  constructor
  · rintro ⟨call, ⟨arm, isArm, target, isTarget, rfl⟩, same⟩
    exact ⟨arm, isArm, target, isTarget, same⟩
  · rintro ⟨arm, isArm, target, isTarget, same⟩
    exact ⟨_, ⟨arm, isArm, target, isTarget, rfl⟩, same⟩

namespace CallGraph

variable {graph : CallGraph} {key goal : String} {among : List String} {rounds : Nat}

/-! ### What a graph holds at a key -/

/-- A call by the key of its target. -/
def keyedCall (call : String × Nat) : String × Nat := (nameKey call.1, call.2)

/-- The node that calls make for a target, which has the spelling of the first of them. -/
def seenTarget? (calls : List (String × Nat)) (key : String) : Option CallNode :=
  (calls.find? fun call => nameKey call.1 == key).map fun call => ⟨call.1, false, []⟩

theorem seenTarget?_cons (call : String × Nat) (calls : List (String × Nat)) (key : String) :
    seenTarget? (call :: calls) key
      = (if nameKey call.1 = key then some ⟨call.1, false, []⟩ else none).or (seenTarget? calls key) := by
  unfold seenTarget?
  by_cases same : nameKey call.1 = key
  · rw [List.find?_cons_of_pos (by simpa using same), if_pos same]
    rfl
  · rw [List.find?_cons_of_neg (by simpa using same), if_neg same, Option.none_or]

theorem seenTarget?_append (early late : List (String × Nat)) (key : String) :
    seenTarget? (early ++ late) key = (seenTarget? early key).or (seenTarget? late key) := by
  rw [seenTarget?, List.find?_append, Option.map_or]
  rfl

theorem get?_addTarget (graph : CallGraph) (target name key : String) :
    Assoc.get? (graph.addTarget target name).nodes key
      = (Assoc.get? graph.nodes key).or (if target = key then some ⟨name, false, []⟩ else none) := by
  unfold addTarget
  rw [Assoc.has_eq_isSome]
  by_cases same : target = key
  · subst same
    cases found : Assoc.get? graph.nodes target with
    | some node => simp [found]
    | none => simp
  · cases found : Assoc.get? graph.nodes target with
    | some node => simp [same]
    | none => simp [same, Assoc.get?_set]

theorem get?_addEdge (graph : CallGraph) (caller target : String) (line : Nat) (key : String) :
    Assoc.get? (graph.addEdge caller target line).nodes key
      = if caller = key then (Assoc.get? graph.nodes key).map fun node =>
          { node with calls := Assoc.set node.calls target line }
        else Assoc.get? graph.nodes key := by
  unfold addEdge
  split
  · rename_i missing
    split
    · rename_i same
      rw [← same, missing]
      rfl
    · rfl
  · rename_i node found
    rw [Assoc.get?_set]
    split
    · rename_i same
      rw [← same, found]
      rfl
    · rfl

/-- **The calls of a node become its edges**, and their targets nodes. -/
theorem get?_addCalls {caller : String} {node : CallNode} (isNode : Assoc.get? graph.nodes caller = some node)
    (calls : List (String × Nat)) (key : String) :
    Assoc.get? (calls.foldl (addCall caller) graph).nodes key
      = if caller = key then
          some { node with calls := Assoc.setAll node.calls (calls.map keyedCall) }
        else (Assoc.get? graph.nodes key).or (seenTarget? calls key) := by
  induction calls generalizing graph node with
  | nil =>
    split
    · rename_i same
      exact same ▸ isNode
    · exact (Option.or_none).symm
  | cons call calls ih =>
    have called (key : String) : Assoc.get? (addCall caller graph call).nodes key
        = if caller = key then
            some { node with calls := Assoc.set node.calls (nameKey call.1) call.2 }
          else (Assoc.get? graph.nodes key).or
            (if nameKey call.1 = key then some ⟨call.1, false, []⟩ else none) := by
      rw [addCall, get?_addEdge, get?_addTarget]
      split
      · rename_i same
        rw [← same, isNode]
        rfl
      · rfl
    rw [List.foldl_cons, ih ((called caller).trans (if_pos rfl)), called, seenTarget?_cons]
    split
    · rfl
    · rw [Option.or_assoc]

theorem get?_addUnit (graph : CallGraph) (unit : PromptUnit) (key : String) :
    Assoc.get? (graph.addUnit unit).nodes key
      = if unit.key = key then
          some ⟨unit.name, true, Assoc.setAll ((Assoc.get? graph.nodes key).elim [] CallNode.calls)
            ((callsOf unit).map keyedCall)⟩
        else (Assoc.get? graph.nodes key).or (seenTarget? (callsOf unit) key) := by
  rw [addUnit, addNode, get?_addCalls (Assoc.get?_set_self ..)]
  split
  · rename_i same
    rw [same]
  · rename_i different
    rw [Assoc.get?_set, if_neg different]

/-- The units of a key. -/
def owners (units : List PromptUnit) (key : String) : List PromptUnit :=
  units.filter fun unit => unit.key == key

theorem mem_owners {units : List PromptUnit} {unit : PromptUnit} :
    unit ∈ owners units key ↔ unit ∈ units ∧ unit.key = key := by
  rw [owners, List.mem_filter, beq_iff_eq]

theorem owners_concat (units : List PromptUnit) (unit : PromptUnit) (key : String) :
    owners (units ++ [unit]) key
      = if unit.key = key then owners units key ++ [unit] else owners units key := by
  rw [owners, List.filter_append, ← owners]
  split
  · rename_i same
    rw [List.filter_cons_of_pos (by simpa using same), List.filter_nil]
  · rename_i different
    rw [List.filter_cons_of_neg (by simpa using different), List.filter_nil, List.append_nil]

/-- The edges that units give to a key. -/
def edgesOf (owners : List PromptUnit) : Assoc Nat :=
  Assoc.ofPairs (owners.flatMap fun owner => (callsOf owner).map keyedCall)

theorem edgesOf_concat (owners : List PromptUnit) (unit : PromptUnit) :
    edgesOf (owners ++ [unit]) = Assoc.setAll (edgesOf owners) ((callsOf unit).map keyedCall) := by
  rw [edgesOf, List.flatMap_append, List.flatMap_singleton, Assoc.ofPairs, Assoc.setAll, List.foldl_append]
  rfl

/-- **What the graph of units holds at a key**: the last unit of this key, with the calls of all of them;
if there is none, the first target that was seen. When the units were added does not count. -/
theorem get?_ofUnits (units : List PromptUnit) (key : String) :
    Assoc.get? (ofUnits units).nodes key
      = ((owners units key).getLast?.map fun unit => ⟨unit.name, true, edgesOf (owners units key)⟩).or
        (seenTarget? (units.flatMap callsOf) key) := by
  induction units using List.reverseRecOn with
  | nil => rfl
  | append_singleton units unit ih =>
    have added : ofUnits (units ++ [unit]) = (ofUnits units).addUnit unit := List.foldl_concat ..
    rw [added, get?_addUnit, ih, List.flatMap_append, List.flatMap_singleton, seenTarget?_append,
      owners_concat]
    split
    · -- a target that was seen before has no calls of its own
      have before : (((owners units key).getLast?.map fun unit =>
          (⟨unit.name, true, edgesOf (owners units key)⟩ : CallNode)).or
          (seenTarget? (units.flatMap callsOf) key)).elim [] CallNode.calls = edgesOf (owners units key) := by
        cases last : (owners units key).getLast? with
        | some owner => rfl
        | none =>
          rw [List.getLast?_eq_none_iff.mp last, seenTarget?]
          cases (units.flatMap callsOf).find? fun call => nameKey call.1 == key <;> rfl
      rw [before, List.getLast?_concat, edgesOf_concat]
      rfl
    · rw [Option.or_assoc]

/-! ### Edges and nodes -/

section OfUnits

variable {units : List PromptUnit} {key : String} {unit : PromptUnit} {caller target : String}

theorem get?_of_owner (last : (owners units key).getLast? = some unit) :
    Assoc.get? (ofUnits units).nodes key = some ⟨unit.name, true, edgesOf (owners units key)⟩ := by
  rw [get?_ofUnits, last]
  rfl

theorem get?_of_noOwner (noOwner : owners units key = []) :
    Assoc.get? (ofUnits units).nodes key = seenTarget? (units.flatMap callsOf) key := by
  rw [get?_ofUnits, noOwner]
  rfl

theorem exists_owner (isUnit : unit ∈ units) (isKey : unit.key = key) :
    ∃ last, (owners units key).getLast? = some last := by
  have isOwner := mem_owners.mpr ⟨isUnit, isKey⟩
  exact Option.isSome_iff_exists.mp (List.getLast?_isSome.mpr (List.ne_nil_of_mem isOwner))

/-- A node is one of a unit, or of a target that is no unit. -/
theorem node_cases {node : CallNode} (found : Assoc.get? (ofUnits units).nodes key = some node) :
    (∃ unit, (owners units key).getLast? = some unit ∧
      node = ⟨unit.name, true, edgesOf (owners units key)⟩) ∨
    owners units key = [] ∧
      ∃ call ∈ units.flatMap callsOf, nameKey call.1 = key ∧ node = ⟨call.1, false, []⟩ := by
  cases last : (owners units key).getLast? with
  | some unit => exact Or.inl ⟨unit, rfl, Option.some.inj (found.symm.trans (get?_of_owner last))⟩
  | none =>
    have noOwner := List.getLast?_eq_none_iff.mp last
    rw [get?_of_noOwner noOwner, seenTarget?, Option.map_eq_some_iff] at found
    obtain ⟨call, first, rfl⟩ := found
    exact Or.inr ⟨noOwner, call, List.mem_of_find?_eq_some first, by simpa using List.find?_some first, rfl⟩

theorem hasEdge_eq {graph other : CallGraph} {caller : String}
    (same : graph.targetsOf caller = other.targetsOf caller) (target : String) :
    graph.hasEdge caller target = other.hasEdge caller target := by
  rw [hasEdge, hasEdge, same]

theorem hasEdge_iff {graph : CallGraph} :
    graph.hasEdge caller target = true ↔
      ∃ node, Assoc.get? graph.nodes caller = some node ∧ target ∈ Assoc.keys node.calls := by
  unfold hasEdge targetsOf
  cases Assoc.get? graph.nodes caller <;> simp

theorem mem_keys_edgesOf {owners : List PromptUnit} {target : String} :
    target ∈ Assoc.keys (edgesOf owners) ↔ ∃ unit ∈ owners, target ∈ unit.callees := by
  rw [edgesOf, Assoc.mem_keys_ofPairs, Assoc.keys, List.map_flatMap, List.mem_flatMap]
  simp only [List.map_map]
  rfl

/-- **There is an edge for every call of a unit, and no other.** -/
theorem hasEdge_ofUnits (units : List PromptUnit) (caller target : String) :
    (ofUnits units).hasEdge caller target = true ↔
      ∃ unit ∈ units, unit.key = caller ∧ target ∈ unit.callees := by
  rw [hasEdge_iff]
  constructor
  · rintro ⟨node, found, isTarget⟩
    rcases node_cases found with ⟨unit, _, rfl⟩ | ⟨_, call, _, _, rfl⟩
    · obtain ⟨owner, isOwner, isCallee⟩ := mem_keys_edgesOf.mp isTarget
      exact ⟨owner, (mem_owners.mp isOwner).1, (mem_owners.mp isOwner).2, isCallee⟩
    · cases isTarget
  · rintro ⟨unit, isUnit, isKey, isCallee⟩
    obtain ⟨last, isLast⟩ := exists_owner isUnit isKey
    exact ⟨_, get?_of_owner isLast, mem_keys_edgesOf.mpr ⟨unit, mem_owners.mpr ⟨isUnit, isKey⟩, isCallee⟩⟩

/-- **A node is defined when a unit has its key.** -/
theorem isDefined_ofUnits (units : List PromptUnit) (key : String) :
    (ofUnits units).isDefined key = true ↔ ∃ unit ∈ units, unit.key = key := by
  unfold isDefined
  cases last : (owners units key).getLast? with
  | some unit =>
    rw [get?_of_owner last]
    exact ⟨fun _ => ⟨unit, mem_owners.mp (List.mem_of_getLast? last)⟩, fun _ => rfl⟩
  | none =>
    have noOwner := List.getLast?_eq_none_iff.mp last
    rw [get?_of_noOwner noOwner, seenTarget?]
    refine ⟨fun defined => ?_, fun ⟨unit, isUnit, isKey⟩ => ?_⟩
    · cases found : (units.flatMap callsOf).find? (fun call => nameKey call.1 == key) <;>
        simp [found] at defined
    · exact absurd (noOwner ▸ mem_owners.mpr ⟨isUnit, isKey⟩) List.not_mem_nil

/-- **The nodes are the units and the targets of their calls.** -/
theorem mem_keys_ofUnits :
    key ∈ (ofUnits units).keys ↔ ∃ unit ∈ units, unit.key = key ∨ key ∈ unit.callees := by
  refine (Assoc.mem_keys_iff _ _).trans ⟨fun isNode => ?_, ?_⟩
  · obtain ⟨node, found⟩ := Option.isSome_iff_exists.mp isNode
    rcases node_cases found with ⟨unit, last, _⟩ | ⟨_, call, isCall, isKey, _⟩
    · obtain ⟨isUnit, isKey⟩ := mem_owners.mp (List.mem_of_getLast? last)
      exact ⟨unit, isUnit, Or.inl isKey⟩
    · obtain ⟨unit, isUnit, ofUnit⟩ := List.mem_flatMap.mp isCall
      exact ⟨unit, isUnit, Or.inr (List.mem_map.mpr ⟨call, ofUnit, isKey⟩)⟩
  · rintro ⟨unit, isUnit, isKey | isCallee⟩
    · obtain ⟨last, isLast⟩ := exists_owner isUnit isKey
      rw [get?_of_owner isLast]
      rfl
    · obtain ⟨call, ofUnit, isKey⟩ := List.mem_map.mp isCallee
      have seen : (seenTarget? (units.flatMap callsOf) key).isSome := by
        rw [seenTarget?, Option.isSome_map, List.find?_isSome]
        exact ⟨call, List.mem_flatMap.mpr ⟨unit, isUnit, ofUnit⟩, by simpa using isKey⟩
      rw [get?_ofUnits, Option.isSome_or, seen, Bool.or_true]

/-- A target is a node. -/
theorem mem_keys_of_hasEdge (edge : (ofUnits units).hasEdge caller target = true) :
    target ∈ (ofUnits units).keys := by
  obtain ⟨unit, isUnit, _, isCallee⟩ := (hasEdge_ofUnits units caller target).mp edge
  exact mem_keys_ofUnits.mpr ⟨unit, isUnit, Or.inr isCallee⟩

/-- A node can be found again under the key of its name. -/
theorem nameKey_nameOf (isNode : key ∈ (ofUnits units).keys) : nameKey ((ofUnits units).nameOf key) = key := by
  obtain ⟨node, found⟩ := Option.isSome_iff_exists.mp ((Assoc.mem_keys_iff _ _).mp isNode)
  rw [nameOf, found]
  rcases node_cases found with ⟨unit, last, rfl⟩ | ⟨_, call, _, isKey, rfl⟩
  · exact (mem_owners.mp (List.mem_of_getLast? last)).2
  · exact isKey

theorem owners_of_distinct (distinct : (units.map PromptUnit.key).Nodup) (isUnit : unit ∈ units) :
    owners units unit.key = [unit] := by
  obtain ⟨early, late, rfl⟩ := List.append_of_mem isUnit
  rw [List.map_append, List.map_cons, List.nodup_append] at distinct
  obtain ⟨_, later, apart⟩ := distinct
  have noEarly : early.filter (fun other => other.key == unit.key) = [] := by
    refine List.filter_eq_nil_iff.mpr fun other isEarly same => ?_
    exact apart _ (List.mem_map_of_mem isEarly) _ List.mem_cons_self (beq_iff_eq.mp same)
  have noLate : late.filter (fun other => other.key == unit.key) = [] := by
    refine List.filter_eq_nil_iff.mpr fun other isLate same => ?_
    exact (List.nodup_cons.mp later).1 (beq_iff_eq.mp same ▸ List.mem_map_of_mem isLate)
  rw [owners, List.filter_append, noEarly, List.filter_cons_of_pos (by simp), noLate, List.nil_append]

/-- **The node of a unit has its name**, when no two units have one key. -/
theorem nameOf_ofUnits (distinct : (units.map PromptUnit.key).Nodup) (isUnit : unit ∈ units) :
    (ofUnits units).nameOf unit.key = unit.name := by
  rw [nameOf, get?_of_owner (by rw [owners_of_distinct distinct isUnit]; rfl)]
  rfl

/-- No node stands twice. -/
theorem distinct_ofUnits (units : List PromptUnit) : Assoc.Distinct (ofUnits units).nodes := by
  have addCalls : ∀ (caller : String) (calls : List (String × Nat)) (graph : CallGraph),
      Assoc.Distinct graph.nodes → Assoc.Distinct (calls.foldl (addCall caller) graph).nodes := by
    intro caller calls
    induction calls with
    | nil => exact fun graph distinct => distinct
    | cons call calls ih =>
      intro graph distinct
      refine ih _ ?_
      have withTarget : Assoc.Distinct (graph.addTarget (nameKey call.1) call.1).nodes := by
        unfold addTarget
        split
        · exact distinct
        · exact distinct.set _ _
      rw [addCall, addEdge]
      split
      · exact withTarget
      · exact withTarget.set _ _
  have addAll : ∀ graph : CallGraph, Assoc.Distinct graph.nodes →
      Assoc.Distinct (units.foldl addUnit graph).nodes := by
    induction units with
    | nil => exact fun graph distinct => distinct
    | cons unit units ih => exact fun graph distinct => ih _ (addCalls _ _ _ (distinct.set _ _))
  exact addAll empty Assoc.Distinct.nil

/-- No node has two edges to another. -/
theorem distinct_calls {node : CallNode} (found : Assoc.get? (ofUnits units).nodes key = some node) :
    Assoc.Distinct node.calls := by
  rcases node_cases found with ⟨unit, _, rfl⟩ | ⟨_, call, _, _, rfl⟩
  · exact Assoc.Distinct.nil.setAll _
  · exact Assoc.Distinct.nil

/-! ### Lines -/

/-- The line of the edge between two nodes. -/
def line? (graph : CallGraph) (caller target : String) : Option Nat :=
  (Assoc.get? graph.nodes caller).bind fun node => Assoc.get? node.calls target

theorem hasEdge_eq_isSome (graph : CallGraph) (caller target : String) :
    graph.hasEdge caller target = (graph.line? caller target).isSome := by
  rw [Bool.eq_iff_iff, hasEdge_iff, line?]
  simp only [Assoc.mem_keys_iff]
  cases Assoc.get? graph.nodes caller <;> simp

/-- **The edges that dangle are those to nodes that are no units.** -/
theorem mem_dangling_iff {edge : Dangling} :
    edge ∈ (ofUnits units).dangling ↔ ∃ target, (ofUnits units).isDefined target = false ∧
      (ofUnits units).line? edge.caller target = some edge.line ∧
      (ofUnits units).nameOf target = edge.target := by
  simp only [dangling, List.mem_flatMap, List.mem_map, List.mem_filter, line?, Option.bind_eq_some_iff]
  constructor
  · rintro ⟨⟨caller, node⟩, isNode, ⟨target, line⟩, ⟨isCall, undefined⟩, rfl⟩
    have found := (Assoc.mem_iff_get? (distinct_ofUnits units) caller node).mp isNode
    exact ⟨target, by simpa using undefined, ⟨node, found,
      (Assoc.mem_iff_get? (distinct_calls found) target line).mp isCall⟩, rfl⟩
  · rintro ⟨target, undefined, ⟨node, found, isCall⟩, isName⟩
    exact ⟨(edge.caller, node), Assoc.mem_of_get? found, (target, edge.line),
      ⟨Assoc.mem_of_get? isCall, by simpa using undefined⟩, by rw [isName]⟩

/-- The nodes with an edge to a node that is no unit. -/
theorem exists_dangling_iff (units : List PromptUnit) (caller : String) :
    (∃ edge ∈ (ofUnits units).dangling, edge.caller = caller) ↔
      ∃ target, (ofUnits units).hasEdge caller target = true ∧
        (ofUnits units).isDefined target = false := by
  simp only [mem_dangling_iff, hasEdge_eq_isSome, Option.isSome_iff_exists]
  constructor
  · rintro ⟨edge, ⟨target, undefined, isLine, _⟩, rfl⟩
    exact ⟨target, ⟨edge.line, isLine⟩, undefined⟩
  · rintro ⟨target, ⟨line, isLine⟩, undefined⟩
    exact ⟨⟨caller, _, line⟩, ⟨target, undefined, isLine, rfl⟩, rfl⟩

end OfUnits

/-! ### Reachability -/

/-- A call from a node among some. -/
def CallsAmong (graph : CallGraph) (among : List String) (caller target : String) : Prop :=
  caller ∈ among ∧ graph.hasEdge caller target = true

theorem mem_reachersAfter_succ : key ∈ graph.reachersAfter among goal (rounds + 1) ↔
      key ∈ among ∧ (key ∈ graph.reachersAfter among goal rounds ∨
        ∃ next ∈ graph.reachersAfter among goal rounds, graph.hasEdge key next = true) := by
  simp [reachersAfter]

/-- What a round finds lies on a path. -/
theorem transGen_of_mem_reachersAfter (found : key ∈ graph.reachersAfter among goal rounds) :
    Relation.TransGen (graph.CallsAmong among) key goal := by
  induction rounds generalizing key with
  | zero =>
    obtain ⟨isNode, edge⟩ := List.mem_filter.mp found
    exact Relation.TransGen.single ⟨isNode, edge⟩
  | succ rounds ih =>
    obtain ⟨isNode, before | ⟨next, before, edge⟩⟩ := mem_reachersAfter_succ.mp found
    · exact ih before
    · exact Relation.TransGen.head ⟨isNode, edge⟩ (ih before)

theorem mem_among_of_mem_reachersAfter (found : key ∈ graph.reachersAfter among goal rounds) :
    key ∈ among := by
  cases rounds with
  | zero => exact (List.mem_filter.mp found).1
  | succ rounds => exact (mem_reachersAfter_succ.mp found).1

/-- What is found stands in the order of the nodes. -/
theorem reachersAfter_eq_filter (graph : CallGraph) (among : List String) (goal : String)
    (rounds : Nat) : graph.reachersAfter among goal rounds
      = among.filter fun key => decide (key ∈ graph.reachersAfter among goal rounds) := by
  have filtered : ∀ test : String → Bool,
      among.filter test = among.filter fun key => decide (key ∈ among.filter test) := by
    intro test
    refine List.filter_congr fun key isNode => ?_
    rw [Bool.eq_iff_iff, decide_eq_true_eq, List.mem_filter]
    simp [isNode]
  cases rounds with
  | zero => exact filtered _
  | succ rounds => exact filtered _

/-- A round keeps what was found. -/
theorem reachersAfter_sublist (graph : CallGraph) (among : List String) (goal : String)
    (rounds : Nat) : (graph.reachersAfter among goal rounds).Sublist
      (graph.reachersAfter among goal (rounds + 1)) := by
  rw [reachersAfter_eq_filter graph among goal rounds,
    reachersAfter_eq_filter graph among goal (rounds + 1)]
  refine List.monotone_filter_right among fun key found => ?_
  rw [decide_eq_true_eq] at found ⊢
  exact mem_reachersAfter_succ.mpr ⟨mem_among_of_mem_reachersAfter found, Or.inl found⟩

/-- A round that finds nothing new is followed by no other that does. -/
theorem reachersAfter_persists
    (stable : graph.reachersAfter among goal (rounds + 1) = graph.reachersAfter among goal rounds) :
    graph.reachersAfter among goal (rounds + 2) = graph.reachersAfter among goal (rounds + 1) := by
  rw [reachersAfter, stable]
  exact stable

/-- Each round finds something new, unless there is nothing new to find. -/
theorem reachersAfter_grows (graph : CallGraph) (among : List String) (goal : String) (rounds : Nat) :
    graph.reachersAfter among goal (rounds + 1) = graph.reachersAfter among goal rounds ∨
      rounds < (graph.reachersAfter among goal (rounds + 1)).length := by
  have longer : ∀ {count : Nat},
      graph.reachersAfter among goal (count + 1) ≠ graph.reachersAfter among goal count →
      (graph.reachersAfter among goal count).length
        < (graph.reachersAfter among goal (count + 1)).length := by
    intro count different
    have kept := reachersAfter_sublist graph among goal count
    rcases Nat.lt_or_ge (graph.reachersAfter among goal count).length
      (graph.reachersAfter among goal (count + 1)).length with shorter | size
    · exact shorter
    · exact absurd (kept.eq_of_length_le size).symm different
  induction rounds with
  | zero =>
    by_cases stable : graph.reachersAfter among goal 1 = graph.reachersAfter among goal 0
    · exact Or.inl stable
    · exact Or.inr (Nat.zero_lt_of_lt (longer stable))
  | succ rounds ih =>
    by_cases stable : graph.reachersAfter among goal (rounds + 2)
        = graph.reachersAfter among goal (rounds + 1)
    · exact Or.inl stable
    · rcases ih with before | grown
      · exact absurd (reachersAfter_persists before) stable
      · exact Or.inr (Nat.lt_of_le_of_lt grown (longer stable))

/-- **As many rounds as nodes are enough.** -/
theorem reachersAfter_stable (graph : CallGraph) (among : List String) (goal : String) :
    graph.reachersAfter among goal (among.length + 1) = graph.reachers among goal := by
  rcases reachersAfter_grows graph among goal among.length with stable | grown
  · exact stable
  · have size := (List.filter_sublist (p := fun key =>
      decide (key ∈ graph.reachersAfter among goal (among.length + 1))) (l := among)).length_le
    rw [← reachersAfter_eq_filter] at size
    omega

theorem mem_reachersAfter_of_le {fewer more : Nat} (order : fewer ≤ more)
    (found : key ∈ graph.reachersAfter among goal fewer) :
    key ∈ graph.reachersAfter among goal more := by
  induction order with
  | refl => exact found
  | step _ ih => exact (reachersAfter_sublist graph among goal _).subset ih

/-- **The rounds find every path.** -/
theorem mem_reachers_iff :
    key ∈ graph.reachers among goal ↔ Relation.TransGen (graph.CallsAmong among) key goal := by
  refine ⟨transGen_of_mem_reachersAfter, fun path => ?_⟩
  induction path using Relation.TransGen.head_induction_on with
  | single call =>
    have first : _ ∈ graph.reachersAfter among goal 0 := List.mem_filter.mpr call
    exact mem_reachersAfter_of_le (Nat.zero_le _) first
  | head call _ ih =>
    rw [← reachersAfter_stable]
    exact mem_reachersAfter_succ.mpr ⟨call.1, Or.inr ⟨_, ih, call.2⟩⟩

/-- A call from one node to another. -/
def Calls (graph : CallGraph) (caller target : String) : Prop := graph.hasEdge caller target = true

theorem callsAmong_keys (graph : CallGraph) : graph.CallsAmong graph.keys = graph.Calls := by
  funext caller target
  refine propext ⟨fun call => call.2, fun call => ⟨?_, call⟩⟩
  obtain ⟨node, found, _⟩ := hasEdge_iff.mp call
  exact (Assoc.mem_keys_iff _ _).mpr (by rw [found]; rfl)

/-- **The callers of a node are the others from which a path leads to it.** -/
theorem mem_callersOf_iff {caller : String} :
    caller ∈ graph.callersOf key ↔ caller ≠ key ∧ Relation.TransGen graph.Calls caller key := by
  rw [callersOf, ascending, List.mem_mergeSort, List.mem_filter, mem_reachers_iff, callsAmong_keys,
    bne_iff_ne, and_comm]

end CallGraph

end PromptChain
