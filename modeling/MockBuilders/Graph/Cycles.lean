import MockBuilders.Diagnostic
import MockBuilders.Failure
import MockBuilders.Graph.Basic

/-!
Cycles of the reference graph. A search from an entry visits what it reaches in order of distance,
with a shortest trail to each; an entry lies on a cycle if some visited entry refers back to it.
-/
namespace MockBuilders

/-- A walk along edges, with the entries before its last one, latest first. -/
structure Trail where
  last : String
  before : List String
  deriving DecidableEq, Repr

namespace Trail

def extend (t : Trail) (next : String) : Trail := ⟨next, t.last :: t.before⟩

/-- The walk from its start. -/
def path (t : Trail) : List String := (t.last :: t.before).reverse

end Trail

namespace ReferenceGraph

variable (g : ReferenceGraph)

/-- Entries that an entry refers to and that have not been seen. -/
def fresh (seen : List String) (name : String) : List String :=
  firstSeen ((g.successors name).filter fun target => target ∉ seen)

def unseen (seen : List String) : List String := g.targets.filter fun target => target ∉ seen

theorem unseen_append (seen more : List String) :
    g.unseen (seen ++ more) = (g.unseen seen).filter fun target => target ∉ more := by
  rw [unseen, unseen, List.filter_filter]
  exact List.filter_congr fun target _ => by simp [Bool.and_comm]

theorem unseen_fresh_lt {seen : List String} {name : String} (h : g.fresh seen name ≠ []) :
    (g.unseen (seen ++ g.fresh seen name)).length < (g.unseen seen).length := by
  obtain ⟨target, ht⟩ := List.exists_mem_of_ne_nil _ h
  rw [unseen_append]
  refine List.length_filter_lt_length_iff_exists.2 ⟨target, ?_, by simpa using ht⟩
  have := List.mem_filter.1 (mem_firstSeen.1 ht)
  exact List.mem_filter.2 ⟨g.mem_targets_of_mem_successors this.1, this.2⟩

/-- Visits the trails of a queue and those that they lead to, first come first visited. -/
def visit (seen : List String) (queue : List Trail) : List Trail :=
  match queue with
  | [] => []
  | t :: rest =>
      t :: visit (seen ++ g.fresh seen t.last) (rest ++ (g.fresh seen t.last).map t.extend)
termination_by ((g.unseen seen).length, queue.length)
decreasing_by
  by_cases h : g.fresh seen t.last = []
  · rw [h, List.append_nil, List.map_nil, List.append_nil]
    exact Prod.Lex.right _ (Nat.lt_succ_self _)
  · exact Prod.Lex.left _ _ (g.unseen_fresh_lt h)

/-- Shortest trails from an entry to all that it reaches, itself first. -/
def trails (start : String) : List Trail := g.visit [start] [⟨start, []⟩]

/-- The entries that an entry leads to by one or more edges. -/
def leadsTo (name : String) : List String :=
  firstSeen ((g.trails name).flatMap fun t => g.successors t.last)

/-- A shortest walk from an entry back to itself. -/
def cyclePath? (start : String) : Option (List String) :=
  if start ∈ g.names then
    ((g.trails start).find? fun t => (g.successors t.last).contains start).map
      fun t => t.path ++ [start]
  else none

/-- All entries with the entries that they lead to. -/
def reach : Members (List String) := g.names.map fun name => (name, g.leadsTo name)

/-- The entries that lead to an entry and that it leads to. -/
def companions (reach : Members (List String)) (name : String) (led : List String) : List String :=
  Members.keys (reach.filter fun p => led.contains p.1 && p.2.contains name)

/-- The entries of each cycle or of cycles that share entries, in the order of intake. -/
def cycles : List (List String) :=
  let reach := g.reach
  reach.filterMap fun p =>
    let members := companions reach p.1 p.2
    if members.head? = some p.1 then some members else none

/-- A shortest walk around the first entry of a cycle, or all its entries. -/
def walkOf (members : List String) : List String :=
  (members.head?.bind g.cyclePath?).getD members

/-- Refuses a graph with a cycle, by the first entry on one. -/
def checkAcyclic : Except Failure Unit :=
  match g.cycles with
  | [] => .ok ()
  | members :: _ => .error (.cyclic (members.headD "") (g.walkOf members))

def cycleDiagnostics : Diagnostics :=
  g.cycles.map fun members =>
    ⟨members.headD "", .cyclicSchema,
      "Cyclic schema: " ++ String.intercalate " -> " (g.walkOf members),
      ["Members: " ++ String.intercalate ", " members]⟩

end ReferenceGraph

end MockBuilders
