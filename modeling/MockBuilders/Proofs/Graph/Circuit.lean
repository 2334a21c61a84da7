import Mathlib.Data.List.Chain
import Mathlib.Data.List.Nodup
import MockBuilders.Inlining

/-!
Circuits: walks back to where they started that visit no name twice on their way.
Main statement: `isCircuit_cycleOf`, what is cut out of a walk when it comes back to a name on it.
-/
namespace MockBuilders

/-- A walk along related names, of one step at least, that ends where it started and visits no name
twice but that one. -/
structure IsCircuit (R : String → String → Prop) (path : List String) : Prop where
  two_le : 2 ≤ path.length
  closed : path.getLast? = path.head?
  nodup : path.dropLast.Nodup
  chain : path.IsChain R

/-- A walk along related names, of one step at least, from a name back to it. -/
structure IsRoundTrip (R : String → String → Prop) (name : String) (walk : List String) : Prop where
  two_le : 2 ≤ walk.length
  head : walk.head? = some name
  last : walk.getLast? = some name
  chain : walk.IsChain R

variable {R : String → String → Prop} {opened : List String} {key : String}

theorem isChain_concat (h : opened.IsChain R) (hlast : ∀ last ∈ opened.getLast?, R last key) :
    (opened ++ [key]).IsChain R := by
  refine h.append (List.isChain_singleton key) ?_
  intro last hmem first hfirst
  obtain rfl : key = first := Option.some.inj hfirst
  exact hlast last hmem

theorem cycleOf_append_cons {before rest : List String} (h : key ∉ before) :
    cycleOf (before ++ key :: rest) key = key :: rest ++ [key] := by
  have hbefore : ∀ name ∈ before, decide (name ≠ key) = true := by
    intro name hname
    exact decide_eq_true (ne_of_mem_of_not_mem hname h)
  rw [cycleOf, List.dropWhile_append_of_pos hbefore, List.dropWhile_cons_of_neg (by simp)]

theorem isCircuit_cycleOf (hnodup : opened.Nodup) (hchain : opened.IsChain R)
    (hlast : ∀ last ∈ opened.getLast?, R last key) (hkey : key ∈ opened) :
    IsCircuit R (cycleOf opened key) := by
  obtain ⟨before, rest, rfl, hbefore⟩ := List.eq_append_cons_of_mem hkey
  rw [cycleOf_append_cons hbefore]
  constructor
  · simp
  · rw [List.getLast?_concat]
    rfl
  · rw [List.dropLast_concat]
    exact hnodup.sublist (List.sublist_append_right _ _)
  · refine isChain_concat (hchain.suffix (List.suffix_append _ _)) ?_
    rwa [List.getLast?_append_of_ne_nil _ (List.cons_ne_nil _ _)] at hlast

end MockBuilders
