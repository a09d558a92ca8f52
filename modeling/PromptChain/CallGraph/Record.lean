/-
**The call graph as a record.**
-/

import PromptChain.CallGraph
import PromptChain.Json.Basic

namespace PromptChain.CallGraph

def nodeRecord (graph : CallGraph) (key : String) (node : CallNode) : Json :=
  .obj [("name", .str node.name), ("defined", .bool node.defined),
    ("calls", .arr ((graph.targetsOf key).map fun target => .str (graph.nameOf target)))]

/-- A graph as a record: its size, whether it is free of cycles, and its nodes. -/
def toRecord (graph : CallGraph) : Json :=
  .obj [("node_count", .int graph.nodes.length), ("edge_count", .int graph.edgeCount),
    ("is_dag", .bool graph.isAcyclic),
    ("nodes", .arr (graph.nodes.map fun (key, node) => graph.nodeRecord key node))]

end PromptChain.CallGraph
