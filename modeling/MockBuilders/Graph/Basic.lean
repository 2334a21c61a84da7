import MockBuilders.Pointer
import MockBuilders.Schema.References

/-!
The reference graph of the entries: an edge for each reference that leads to an entry, in
reference order, and the references that lead nowhere or are not followed.
-/
namespace MockBuilders

structure Edge where
  source : String
  target : String
  deriving DecidableEq, Repr

/-- A pointer found in an entry. -/
structure EntryPointer where
  entry : String
  pointer : String
  deriving DecidableEq, Repr

/-- The rough shape of an entry. -/
inductive NodeShape where
  | object
  | enumeration
  | array
  | union
  | value
  deriving DecidableEq, Repr

def NodeShape.ofKind {σ : Type} : Kind σ → NodeShape
  | .object _ | .allOf _ => object
  | .variants _ | .enumeration _ _ => enumeration
  | .anyArray | .arrayOf _ | .mixedArray _ | .tuple _ => array
  | .union _ | .choice _ _ => union
  | .reference _ | .leaf _ => value

structure ReferenceGraph where
  /-- Entries in the order of intake. -/
  nodes : Members NodeShape
  edges : List Edge
  dangling : List EntryPointer
  unfollowed : List EntryPointer

namespace ReferenceGraph

/-- The entries that the references of a schema lead to. -/
def targetsOf (entries : Members Schema) (s : Schema) : List String :=
  s.references.filterMap fun pointer => (Pointer.lookup? entries pointer).map Prod.fst

/-- The references of a schema that lead to no entry. -/
def danglingOf (entries : Members Schema) (s : Schema) : List String :=
  s.references.filter fun pointer => (Pointer.lookup? entries pointer).isNone

def ofEntries (entries : Members Schema) : ReferenceGraph where
  nodes := entries.mapValues fun s => .ofKind s.kind
  edges := entries.flatMap fun p => (targetsOf entries p.2).map (⟨p.1, ·⟩)
  dangling := entries.flatMap fun p => (danglingOf entries p.2).map (⟨p.1, ·⟩)
  unfollowed := entries.flatMap fun p => p.2.unfollowed.map fun u => ⟨p.1, u.pointer⟩

variable (g : ReferenceGraph)

def names : List String := g.nodes.keys

/-- Targets of the edges from an entry, one for each edge. -/
def successors (name : String) : List String :=
  (g.edges.filter fun e => e.source = name).map Edge.target

/-- Entries that an entry refers to, each once. -/
def refersTo (name : String) : List String := firstSeen (g.successors name)

/-- Targets of all edges, each once. -/
def targets : List String := firstSeen (g.edges.map Edge.target)

theorem mem_successors {name target : String} :
    target ∈ g.successors name ↔ ⟨name, target⟩ ∈ g.edges := by
  simp only [successors, List.mem_map, List.mem_filter, decide_eq_true_eq]
  constructor
  · rintro ⟨⟨_, _⟩, ⟨he, rfl⟩, rfl⟩
    exact he
  · exact fun h => ⟨_, ⟨h, rfl⟩, rfl⟩

theorem mem_targets_of_mem_successors {name target : String} (h : target ∈ g.successors name) :
    target ∈ g.targets :=
  mem_firstSeen.2 (List.mem_map.2 ⟨_, g.mem_successors.1 h, rfl⟩)

/-- Every reference is an edge or dangles. -/
theorem length_targetsOf_add (entries : Members Schema) (s : Schema) :
    (targetsOf entries s).length + (danglingOf entries s).length = s.references.length := by
  unfold targetsOf danglingOf
  induction s.references with
  | nil => rfl
  | cons pointer rest ih =>
    cases h : Pointer.lookup? entries pointer <;> simp [h] <;> omega

end ReferenceGraph

end MockBuilders
