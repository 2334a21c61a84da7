import MockBuilders.Graph.Cycles

/-!
The search for a shortest cycle, step by step. Names wait in a queue for their edges to be
followed, and each name that is found keeps the one from which it was found first. When an edge
leads back to the start, the way to its source is walked back from name to name.
-/
namespace MockBuilders

/-- How far a search has come. -/
structure Frontier where
  /-- From where each name was found first; the start needs no origin. -/
  origins : Members String
  /-- Names whose edges are still to be followed. -/
  queue : List String

namespace Frontier

/-- Takes up a name that an edge of another leads to, unless it was found before. -/
def find (f : Frontier) (name target : String) : Frontier :=
  if f.origins.has target then f else ⟨f.origins ++ [(target, name)], f.queue ++ [target]⟩

/-- Follows the edges of a name, one after the other; an edge to the start ends it. -/
def follow (start name : String) (f : Frontier) (targets : List String) :
    Except Frontier Frontier :=
  targets.foldlM (fun f target => if target = start then throw f else pure (f.find name target)) f

end Frontier

/-- What a search is at. -/
inductive SearchStage where
  | looking (f : Frontier)
  /-- On the way back to the start, with the names that were passed, in the order of the walk. -/
  | returning (origins : Members String) (cursor : String) (passed : List String)
  | ended (path : Option (List String))
  /-- On the way back at a name that has no origin. -/
  | lost (cursor : String)

namespace ReferenceGraph

variable (g : ReferenceGraph)

def beginSearch (start : String) : SearchStage :=
  if start ∈ g.names then .looking ⟨[], [start]⟩ else .ended none

/-- One step of a search: a name taken from the queue, or one name walked back. -/
def advance (start : String) : SearchStage → SearchStage
  | .looking ⟨_, []⟩ => .ended none
  | .looking ⟨origins, name :: rest⟩ =>
      match Frontier.follow start name ⟨origins, rest⟩ (g.successors name) with
      | .ok next => .looking next
      | .error met => .returning met.origins name []
  | .returning origins cursor passed =>
      if cursor = start then .ended (some (start :: passed ++ [start]))
      else match origins.get? cursor with
      | some origin => .returning origins origin (cursor :: passed)
      | none => .lost cursor
  | .ended path => .ended path
  | .lost cursor => .lost cursor

end ReferenceGraph

end MockBuilders
