/-
**The graph of units is exact, in whatever order they come.**

A graph depicts units when its nodes, edges, lines and dangling edges are those of their calls
(`CallGraph.Depicts`). Two graphs are the same but for spelling when only the names of nodes that are no units
may differ (`CallGraph.SameButSpelling`).

* `line?_ofUnits`: the line of an edge is that of the last arm of the unit that calls the target.
* `nodup_dangling`: no edge dangles twice.
* `ofUnits_depicts_in_every_order`: the graph of units with different keys depicts them, and their order does
  not matter.
-/

import PromptChain.Proofs.CallGraph

namespace PromptChain

/-- Whether an arm calls the unit of a key. -/
def Arm.calls (arm : Arm) (key : String) : Bool := arm.action.targets.any fun target => nameKey target == key

/-- The last arm of a unit that calls the unit of a key. -/
def PromptUnit.lastCaller? (unit : PromptUnit) (key : String) : Option Arm :=
  unit.arms.reverse.find? fun arm => arm.calls key

theorem PromptUnit.mem_callees_iff {unit : PromptUnit} {key : String} :
    key ∈ unit.callees ↔ ∃ arm ∈ unit.arms, arm.calls key = true := by
  rw [PromptUnit.mem_callees]
  simp only [Arm.calls, List.any_eq_true, beq_iff_eq]

namespace CallGraph

/-! ### Lines of edges -/

/-- All calls of an arm have its line. -/
theorem get?_armCalls (arm : Arm) (key : String) :
    Assoc.get? ((arm.action.targets.map fun target => (target, arm.line)).map keyedCall).reverse key
      = if arm.calls key then some arm.line else none := by
  have calls : arm.calls key = true ↔ key ∈ Assoc.keys
      ((arm.action.targets.map fun target => (target, arm.line)).map keyedCall).reverse := by
    simp [Arm.calls, Assoc.keys, keyedCall]
  cases found : Assoc.get? ((arm.action.targets.map fun target => (target, arm.line)).map keyedCall).reverse
      key with
  | none =>
    rw [if_neg]
    rw [calls, Assoc.mem_keys_iff, found]
    exact Bool.false_ne_true
  | some line =>
    have isCall := Assoc.mem_of_get? found
    simp only [List.map_map, List.mem_reverse, List.mem_map] at isCall
    obtain ⟨target, _, same⟩ := isCall
    rw [if_pos (calls.mpr ((Assoc.mem_keys_iff _ _).mpr (by rw [found]; rfl)))]
    exact congrArg some (Prod.ext_iff.mp same).2.symm

theorem get?_calls (arms : List Arm) (key : String) :
    Assoc.get? ((arms.flatMap fun arm => arm.action.targets.map fun target => (target, arm.line)).map
      keyedCall).reverse key = (arms.reverse.find? fun arm => arm.calls key).map Arm.line := by
  induction arms with
  | nil => rfl
  | cons arm arms ih =>
    rw [List.flatMap_cons, List.map_append, List.reverse_append, Assoc.get?, List.lookup_append, ← Assoc.get?,
      ← Assoc.get?, ih, get?_armCalls, List.reverse_cons, List.find?_append, Option.map_or]
    congr 1
    cases called : arm.calls key with
    | true => simp [called]
    | false => simp [called]

variable {units : List PromptUnit}

/-- **The line of an edge is that of the last arm that calls its target.** -/
theorem line?_ofUnits (distinct : (units.map PromptUnit.key).Nodup) {unit : PromptUnit} (isUnit : unit ∈ units)
    (target : String) :
    (ofUnits units).line? unit.key target = (unit.lastCaller? target).map Arm.line := by
  rw [line?, get?_of_owner (by rw [owners_of_distinct distinct isUnit]; rfl), owners_of_distinct distinct isUnit,
    Option.bind_some, edgesOf, List.flatMap_singleton, Assoc.ofPairs, Assoc.get?_setAll_reverse, Assoc.get?_nil,
    Option.or_none]
  exact get?_calls unit.arms target

theorem line?_of_noUnit {caller : String} (noUnit : ¬ ∃ unit ∈ units, unit.key = caller) (target : String) :
    (ofUnits units).line? caller target = none := by
  rw [← Option.not_isSome_iff_eq_none, ← hasEdge_eq_isSome, hasEdge_ofUnits]
  rintro ⟨unit, isUnit, isKey, _⟩
  exact noUnit ⟨unit, isUnit, isKey⟩

/-! ### Dangling edges -/

/-- A dangling edge by keys. -/
def Dangling.edge (dangling : Dangling) : String × String := (dangling.caller, nameKey dangling.target)

theorem nameKey_of_line? {caller target : String} {line : Nat}
    (isLine : (ofUnits units).line? caller target = some line) :
    nameKey ((ofUnits units).nameOf target) = target :=
  nameKey_nameOf (mem_keys_of_hasEdge (by rw [hasEdge_eq_isSome, isLine]; rfl))

theorem mem_dangling_edge {caller target : String} {line : Nat} :
    ((caller, target), line) ∈ (ofUnits units).dangling.map (fun edge => (edge.edge, edge.line)) ↔
      (ofUnits units).line? caller target = some line ∧ (ofUnits units).isDefined target = false := by
  simp only [List.mem_map, mem_dangling_iff, Dangling.edge]
  constructor
  · rintro ⟨edge, ⟨goal, undefined, isLine, isName⟩, same⟩
    obtain ⟨⟨rfl, rfl⟩, rfl⟩ := Prod.ext_iff.mp same |>.imp Prod.ext_iff.mp id
    rw [← isName, nameKey_of_line? isLine]
    exact ⟨isLine, undefined⟩
  · rintro ⟨isLine, undefined⟩
    refine ⟨⟨caller, (ofUnits units).nameOf target, line⟩, ⟨target, undefined, isLine, rfl⟩, ?_⟩
    rw [nameKey_of_line? isLine]

/-- **No edge dangles twice.** -/
theorem nodup_dangling (units : List PromptUnit) : ((ofUnits units).dangling.map Dangling.edge).Nodup := by
  have byKeys : (ofUnits units).dangling.map Dangling.edge = (ofUnits units).nodes.flatMap fun entry =>
      (Assoc.keys (entry.2.calls.filter fun call => !(ofUnits units).isDefined call.1)).map
          (Prod.mk entry.1) := by
    rw [dangling, List.map_flatMap]
    refine List.flatMap_congr fun entry isNode => ?_
    obtain ⟨caller, node⟩ := entry
    rw [Assoc.keys, List.map_map, List.map_map]
    refine List.map_congr_left fun call isCall => ?_
    obtain ⟨target, line⟩ := call
    have found := (Assoc.mem_iff_get? (distinct_ofUnits units) caller node).mp isNode
    have edge : (ofUnits units).hasEdge caller target = true :=
      hasEdge_iff.mpr ⟨node, found, List.mem_map_of_mem (List.mem_of_mem_filter isCall)⟩
    exact congrArg (Prod.mk caller) (nameKey_nameOf (mem_keys_of_hasEdge edge))
  rw [byKeys, List.nodup_flatMap]
  constructor
  · rintro ⟨caller, node⟩ isNode
    have found := (Assoc.mem_iff_get? (distinct_ofUnits units) caller node).mp isNode
    have targets : (Assoc.keys (node.calls.filter fun call => !(ofUnits units).isDefined call.1)).Nodup :=
      (distinct_calls found).sublist (List.filter_sublist.map Prod.fst)
    exact targets.map fun first second same => (Prod.mk.inj same).2
  · have callers : (ofUnits units).nodes.Pairwise fun first second => first.1 ≠ second.1 :=
      List.pairwise_map.mp (distinct_ofUnits units)
    refine callers.imp fun different pair inFirst inSecond => different ?_
    obtain ⟨_, _, rfl⟩ := List.mem_map.mp inFirst
    obtain ⟨_, _, same⟩ := List.mem_map.mp inSecond
    exact (Prod.mk.inj same).1.symm

/-! ### The whole graph -/

/-- A graph is that of units with different keys. -/
structure Depicts (graph : CallGraph) (units : List PromptUnit) : Prop where
  /-- The nodes are the units and the targets of calls, each once. -/
  nodes : graph.keys.Nodup ∧ ∀ key, key ∈ graph.keys ↔
    ∃ unit ∈ units, unit.key = key ∨ ∃ arm ∈ unit.arms, arm.calls key = true
  /-- A node is defined when it is that of a unit, and then has its name. -/
  defined : ∀ key, graph.isDefined key = true ↔ ∃ unit ∈ units, unit.key = key
  named : ∀ unit ∈ units, graph.nameOf unit.key = unit.name
  /-- An edge is a call of a unit, and has the line of the last arm that makes it. -/
  edges : ∀ caller target, graph.hasEdge caller target = true ↔
    ∃ unit ∈ units, unit.key = caller ∧ ∃ arm ∈ unit.arms, arm.calls target = true
  lines : ∀ unit ∈ units, ∀ target,
    graph.line? unit.key target = (unit.lastCaller? target).map Arm.line
  /-- The edges to nodes that are not defined dangle, each once, and no others. -/
  dangling : (graph.dangling.map Dangling.edge).Nodup ∧ ∀ edge, edge ∈ graph.dangling ↔
    ∃ target, graph.hasEdge edge.caller target = true ∧ graph.isDefined target = false ∧
      graph.line? edge.caller target = some edge.line ∧ graph.nameOf target = edge.target

/-- Two graphs differ at most in the names of nodes that are not defined. -/
structure SameButSpelling (graph other : CallGraph) : Prop where
  nodes : graph.keys.Perm other.keys
  defined : ∀ key, graph.isDefined key = other.isDefined key
  named : ∀ key, graph.isDefined key = true → graph.nameOf key = other.nameOf key
  edges : ∀ caller target, graph.hasEdge caller target = other.hasEdge caller target
  lines : ∀ caller target, graph.line? caller target = other.line? caller target
  dangling : (graph.dangling.map fun edge => (edge.edge, edge.line)).Perm
    (other.dangling.map fun edge => (edge.edge, edge.line))

theorem depicts_ofUnits (distinct : (units.map PromptUnit.key).Nodup) : (ofUnits units).Depicts units where
  nodes := by
    refine ⟨distinct_ofUnits units, fun key => ?_⟩
    simp only [mem_keys_ofUnits, PromptUnit.mem_callees_iff]
  defined := isDefined_ofUnits units
  named := fun unit => nameOf_ofUnits distinct
  edges := fun caller target => by simp only [hasEdge_ofUnits, PromptUnit.mem_callees_iff]
  lines := fun unit => line?_ofUnits distinct
  dangling := by
    refine ⟨nodup_dangling units, fun edge => mem_dangling_iff.trans ⟨?_, ?_⟩⟩
    · rintro ⟨target, undefined, isLine, isName⟩
      exact ⟨target, by rw [hasEdge_eq_isSome, isLine]; rfl, undefined, isLine, isName⟩
    · rintro ⟨target, _, undefined, isLine, isName⟩
      exact ⟨target, undefined, isLine, isName⟩

theorem sameButSpelling_ofUnits {other : List PromptUnit} (distinct : (units.map PromptUnit.key).Nodup)
    (reordered : units.Perm other) : (ofUnits units).SameButSpelling (ofUnits other) := by
  have distinctToo : (other.map PromptUnit.key).Nodup := (reordered.map _).nodup_iff.mp distinct
  have lines : ∀ caller target, (ofUnits units).line? caller target = (ofUnits other).line? caller target := by
    intro caller target
    by_cases isCaller : ∃ unit ∈ units, unit.key = caller
    · obtain ⟨unit, isUnit, rfl⟩ := isCaller
      rw [line?_ofUnits distinct isUnit, line?_ofUnits distinctToo (reordered.mem_iff.mp isUnit)]
    · rw [line?_of_noUnit isCaller, line?_of_noUnit (by simpa only [reordered.mem_iff] using isCaller)]
  have defined : ∀ key, (ofUnits units).isDefined key = (ofUnits other).isDefined key := by
    intro key
    rw [Bool.eq_iff_iff, isDefined_ofUnits, isDefined_ofUnits]
    simp only [reordered.mem_iff]
  refine ⟨?_, defined, fun key isDefined => ?_, fun caller target => ?_, lines, ?_⟩
  · refine (List.perm_ext_iff_of_nodup (distinct_ofUnits units) (distinct_ofUnits other)).mpr fun key => ?_
    refine mem_keys_ofUnits.trans (Iff.trans ?_ mem_keys_ofUnits.symm)
    simp only [reordered.mem_iff]
  · obtain ⟨unit, isUnit, rfl⟩ := (isDefined_ofUnits units key).mp isDefined
    rw [nameOf_ofUnits distinct isUnit, nameOf_ofUnits distinctToo (reordered.mem_iff.mp isUnit)]
  · rw [hasEdge_eq_isSome, hasEdge_eq_isSome, lines]
  · have once (units : List PromptUnit) :
        ((ofUnits units).dangling.map fun edge => (edge.edge, edge.line)).Nodup :=
      List.Nodup.of_map Prod.fst (by rw [List.map_map]; exact nodup_dangling units)
    refine (List.perm_ext_iff_of_nodup (once units) (once other)).mpr fun labelled => ?_
    obtain ⟨⟨caller, target⟩, line⟩ := labelled
    rw [mem_dangling_edge, mem_dangling_edge, lines, defined]

/-- **The graph of units is exact in whatever order they come.** It depicts units with different keys, and
their order changes at most the spelling of targets that are no units. -/
theorem ofUnits_depicts_in_every_order (units : List PromptUnit) (distinct : (units.map PromptUnit.key).Nodup) :
    (ofUnits units).Depicts units ∧
      ∀ other, units.Perm other → (ofUnits units).SameButSpelling (ofUnits other) :=
  ⟨depicts_ofUnits distinct, fun _ => sameButSpelling_ofUnits distinct⟩

/-- A unit that is called before it is defined, itself twice, and with one that is missing. -/
def forwardUnits : List PromptUnit :=
  [⟨"first", [], "AI", [⟨.literal "a" false, .call ["SECOND", "gone"], 3⟩], 1, 1, none, none⟩,
    ⟨"Second", [], "AI", [⟨.literal "a" false, .call ["second"], 7⟩,
      ⟨.literal "b" false, .pipe "ls" ["Second", "Gone"], 8⟩], 5, 1, none, none⟩]

theorem forwardUnits_depicted :
    (ofUnits forwardUnits).Depicts forwardUnits ∧
      (ofUnits forwardUnits).SameButSpelling (ofUnits forwardUnits.reverse) ∧
      (ofUnits forwardUnits).dangling = [⟨"first", "gone", 3⟩, ⟨"second", "gone", 8⟩] :=
  have depicted := ofUnits_depicts_in_every_order forwardUnits (by decide +kernel)
  ⟨depicted.1, depicted.2 _ (List.reverse_perm forwardUnits).symm, by decide +kernel⟩

end CallGraph

end PromptChain
