import Mathlib.Data.List.Basic
import Mathlib.Data.List.Induction
import MockBuilders.FirstSeen

/-!
What is listed where it first appears: each member once, in the order of first appearance, however
the lists that it is gathered from are grouped.
Main statements: `firstAppearances_firstSeen`, `addAllNew_addAllNew`.
-/
namespace MockBuilders

variable {α : Type} [DecidableEq α]

/-- Each member of a list is held once, in the order in which they first appear in it. -/
structure FirstAppearances (xs ys : List α) : Prop where
  nodup : ys.Nodup
  mem : ∀ x, x ∈ ys ↔ x ∈ xs
  order : ys.Pairwise fun x y => xs.idxOf x < xs.idxOf y

theorem pairwise_firstSeen (xs : List α) :
    (firstSeen xs).Pairwise fun x y => xs.idxOf x < xs.idxOf y := by
  induction xs using List.reverseRecOn with
  | nil => exact .nil
  | append_singleton xs x ih =>
    have hstays (y : α) (hy : y ∈ firstSeen xs) : (xs ++ [x]).idxOf y = xs.idxOf y :=
      List.idxOf_append_of_mem (mem_firstSeen.mp hy)
    have hseen : (firstSeen xs).Pairwise fun y z => (xs ++ [x]).idxOf y < (xs ++ [x]).idxOf z := by
      refine ih.imp_of_mem fun hy hz hlt => ?_
      rwa [hstays _ hy, hstays _ hz]
    rw [firstSeen_concat, addNew]
    split
    · exact hseen
    · next hx =>
      -- a new member first appears at the end, after all that were seen before
      refine List.pairwise_append.mpr ⟨hseen, List.pairwise_singleton _ _, fun y hy z hz => ?_⟩
      rw [List.mem_singleton.mp hz, hstays y hy,
        List.idxOf_append_of_notMem fun hmem => hx (mem_firstSeen.mpr hmem)]
      exact Nat.lt_add_right _ (List.idxOf_lt_length_of_mem (mem_firstSeen.mp hy))

theorem firstAppearances_firstSeen (xs : List α) : FirstAppearances xs (firstSeen xs) :=
  ⟨nodup_firstSeen xs, fun _ => mem_firstSeen, pairwise_firstSeen xs⟩

theorem firstSeen_of_nodup {xs : List α} (h : xs.Nodup) : firstSeen xs = xs := by
  induction xs using List.reverseRecOn with
  | nil => rfl
  | append_singleton xs x ih =>
    obtain ⟨hxs, -, hx⟩ := List.nodup_append.mp h
    have hnew : x ∉ xs := fun hmem => hx x hmem x (List.mem_singleton_self x) rfl
    rw [firstSeen_concat, ih hxs, addNew, if_neg hnew]

section Grouping
variable (seen xs ys : List α)

theorem addAllNew_cons (x : α) : addAllNew seen (x :: xs) = addAllNew (addNew seen x) xs := rfl

theorem addAllNew_append : addAllNew seen (xs ++ ys) = addAllNew (addAllNew seen xs) ys :=
  List.foldl_append

theorem addAllNew_addNew (x : α) : addAllNew seen (addNew xs x) = addNew (addAllNew seen xs) x := by
  by_cases h : x ∈ xs
  · have hseen : x ∈ addAllNew seen xs := mem_addAllNew.mpr (.inr h)
    rw [addNew, if_pos h, addNew, if_pos hseen]
  · rw [addNew, if_neg h, addAllNew_append]
    rfl

/-- What is new is the same if it is first gathered in a list of its own. -/
theorem addAllNew_addAllNew :
    addAllNew seen (addAllNew xs ys) = addAllNew (addAllNew seen xs) ys := by
  induction ys generalizing xs with
  | nil => rfl
  | cons y ys ih => rw [addAllNew_cons, addAllNew_cons, ih, addAllNew_addNew]

theorem firstSeen_append : firstSeen (xs ++ ys) = addAllNew (firstSeen xs) (firstSeen ys) := by
  rw [firstSeen, addAllNew_append]
  exact (addAllNew_addAllNew _ [] ys).symm

end Grouping

end MockBuilders
