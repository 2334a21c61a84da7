import MockBuilders.Graph.Cycles

/-!
Cycles as they are gathered from the strongly connected components of the graph, whatever the order
in which the components and their members come.
-/
namespace MockBuilders.ReferenceGraph

variable (g : ReferenceGraph)

/-- The place of an entry in the order of intake. -/
def place (name : String) : Nat := g.names.idxOf name

/-- Whether a component has more than one member, or one that refers to itself. -/
def isCyclic : List String → Bool
  | [name] => (g.successors name).contains name
  | members => 1 < members.length

/-- The members of a component in the order of intake. -/
def inIntakeOrder (members : List String) : List String :=
  members.mergeSort fun a b => g.place a ≤ g.place b

/-- The components that make cycles, in the order of their first members. -/
def cyclesAmong (components : List (List String)) : List (List String) :=
  ((components.filter g.isCyclic).map g.inIntakeOrder).mergeSort fun c d =>
    g.place (c.headD "") ≤ g.place (d.headD "")

end MockBuilders.ReferenceGraph
