import MockBuilders.Graph.Cycles

/-!
The reference graph as a DOT document: a box for each entry, red-rimmed on a cycle, and an arrow
for each edge.
-/
namespace MockBuilders

namespace NodeShape

def fill : NodeShape → String
  | object => "#00BCD4"
  | enumeration => "#FF5722"
  | array => "#4CAF50"
  | union => "#9C27B0"
  | value => "#607D8B"

end NodeShape

namespace Dot

def escaped (c : Char) : List Char :=
  if c = '\\' then ['\\', '\\'] else if c = '"' then ['\\', '"'] else [c]

def quoted (name : String) : List Char := '"' :: name.toList.flatMap escaped ++ ['"']

def rim (onCycle : Bool) : String := if onCycle then "#F44336" else "#404040"

def header : String :=
  "digraph ReferenceGraph \x7b\n  rankdir=LR;\n" ++
    "  node [shape=box, style=\"filled,rounded\", fontname=\"Helvetica\", fontsize=10, " ++
    "fontcolor=\"white\"];\n  edge [fontname=\"Helvetica\", fontsize=8];\n\n"

def node (name : String) (shape : NodeShape) (onCycle : Bool) : List Char :=
  [' ', ' '] ++ quoted name ++
    (" [fillcolor=\"" ++ shape.fill ++ "\", color=\"" ++ rim onCycle ++ "\"];\n").toList

def edge (e : Edge) : List Char :=
  [' ', ' '] ++ quoted e.source ++ [' ', '-', '>', ' '] ++ quoted e.target ++ [';', '\n']

end Dot

namespace ReferenceGraph

def dotChars (g : ReferenceGraph) : List Char :=
  let onCycle := g.cycles.flatten
  Dot.header.toList ++
    g.nodes.flatMap (fun p => Dot.node p.1 p.2 (onCycle.contains p.1)) ++ ['\n'] ++
    g.edges.flatMap Dot.edge ++ ['\x7d', '\n']

def dot (g : ReferenceGraph) : String := String.ofList g.dotChars

end ReferenceGraph

end MockBuilders
