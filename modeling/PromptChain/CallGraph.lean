/-
**The call graph of a program.**

Nodes are units and the targets of their calls, known by key; there is an edge from a unit to each
target of its arms, with the line of the last arm that calls it. `CallGraph.callersOf` gives the nodes
from which calls lead to a node, `CallGraph.cycles` the elementary circuits.
-/

import PromptChain.PromptUnit

namespace PromptChain

structure CallNode where
  /-- The name of the unit, or the first spelling seen for a target that is no unit. -/
  name : String
  /-- Whether there is a unit of this key. -/
  defined : Bool
  /-- The targets by key, with the line of the call. -/
  calls : Assoc Nat
deriving DecidableEq

/-- Nodes by key, in the order in which they were first seen. -/
structure CallGraph where
  nodes : Assoc CallNode
deriving DecidableEq

namespace CallGraph

/-! ### Building -/

def empty : CallGraph := ⟨[]⟩

/-- Adds a unit as a node; a node that was seen as a target takes the spelling of the unit. -/
def addNode (graph : CallGraph) (key name : String) : CallGraph :=
  let calls := (Assoc.get? graph.nodes key).elim [] CallNode.calls
  ⟨Assoc.set graph.nodes key ⟨name, true, calls⟩⟩

/-- Adds a target as a node, unless there is one. -/
def addTarget (graph : CallGraph) (key name : String) : CallGraph :=
  if Assoc.has graph.nodes key then graph else ⟨Assoc.set graph.nodes key ⟨name, false, []⟩⟩

/-- Adds an edge; one that is there takes the new line. -/
def addEdge (graph : CallGraph) (caller target : String) (line : Nat) : CallGraph :=
  match Assoc.get? graph.nodes caller with
  | none => graph
  | some node =>
    ⟨Assoc.set graph.nodes caller { node with calls := Assoc.set node.calls target line }⟩

def addCall (caller : String) (graph : CallGraph) (call : String × Nat) : CallGraph :=
  let key := nameKey call.1
  (graph.addTarget key call.1).addEdge caller key call.2

/-- The calls of a unit with their lines, arm by arm. -/
def callsOf (unit : PromptUnit) : List (String × Nat) :=
  unit.arms.flatMap fun arm => arm.action.targets.map fun target => (target, arm.line)

def addUnit (graph : CallGraph) (unit : PromptUnit) : CallGraph :=
  (callsOf unit).foldl (addCall unit.key) (graph.addNode unit.key unit.name)

def ofUnits (units : List PromptUnit) : CallGraph := units.foldl addUnit empty

/-! ### Nodes and edges -/

def keys (graph : CallGraph) : List String := Assoc.keys graph.nodes

def isDefined (graph : CallGraph) (key : String) : Bool :=
  (Assoc.get? graph.nodes key).elim false CallNode.defined

def nameOf (graph : CallGraph) (key : String) : String :=
  (Assoc.get? graph.nodes key).elim key CallNode.name

/-- The keys that a node calls, in the order in which the edges were added. -/
def targetsOf (graph : CallGraph) (key : String) : List String :=
  (Assoc.get? graph.nodes key).elim [] fun node => Assoc.keys node.calls

def hasEdge (graph : CallGraph) (caller target : String) : Bool :=
  (graph.targetsOf caller).contains target

def edgeCount (graph : CallGraph) : Nat :=
  graph.nodes.foldr (fun entry count => entry.2.calls.length + count) 0

/-- An edge to a node that is no unit. -/
structure Dangling where
  caller : String
  /-- The spelling of the target. -/
  target : String
  line : Nat
deriving DecidableEq

def dangling (graph : CallGraph) : List Dangling :=
  graph.nodes.flatMap fun (caller, node) =>
    (node.calls.filter fun call => !graph.isDefined call.1).map fun (target, line) =>
      ⟨caller, graph.nameOf target, line⟩

/-! ### Reachability -/

/-- The nodes among some from which a path of one call, or of at most `rounds` more, leads to a goal
without leaving those nodes. -/
def reachersAfter (graph : CallGraph) (among : List String) (goal : String) : Nat → List String
  | 0 => among.filter fun key => graph.hasEdge key goal
  | rounds + 1 =>
    let before := reachersAfter graph among goal rounds
    among.filter fun key =>
      before.contains key || before.any fun next => graph.hasEdge key next

/-- The nodes among some from which a path leads to a goal without leaving those nodes. -/
def reachers (graph : CallGraph) (among : List String) (goal : String) : List String :=
  graph.reachersAfter among goal among.length

def ascending (texts : List String) : List String := texts.mergeSort fun a b => decide (a ≤ b)

/-- The nodes other than a node itself from which calls lead to it, in ascending order. -/
def callersOf (graph : CallGraph) (key : String) : List String :=
  ascending ((graph.reachers graph.keys key).filter (· != key))

def isAcyclic (graph : CallGraph) : Bool :=
  graph.keys.all fun key => !(graph.reachers graph.keys key).contains key

/-! ### Circuits -/

/-- The circuits that go on from a path, whose last node is given, to its start, through useful nodes
that are not on the path; shorter ones come first. -/
def circuitsAlong (graph : CallGraph) (start : String) (useful : List String) :
    Nat → List String → String → List (List String)
  | 0, _, _ => []
  | fuel + 1, path, last =>
    (if graph.hasEdge last start then [path] else [])
      ++ ((ascending (graph.targetsOf last)).filter fun next =>
          useful.contains next && !path.contains next).flatMap fun next =>
        circuitsAlong graph start useful fuel (path ++ [next]) next

/-- The circuits whose least node is given. -/
def circuitsFrom (graph : CallGraph) (start : String) : List (List String) :=
  let among := graph.keys.filter fun key => decide (start ≤ key)
  graph.circuitsAlong start (graph.reachers among start) graph.keys.length [start] start

/-- The elementary circuits by key, each from its least node on, in ascending order. -/
def circuits (graph : CallGraph) : List (List String) :=
  (ascending graph.keys).flatMap graph.circuitsFrom

/-- The elementary circuits by name. -/
def cycles (graph : CallGraph) : List (List String) :=
  graph.circuits.map fun circuit => circuit.map graph.nameOf

/-- A cycle as it is written, with its first name again at the end. -/
def cycleText (cycle : List String) : String := String.intercalate " -> " (cycle ++ cycle.take 1)

end CallGraph

end PromptChain
