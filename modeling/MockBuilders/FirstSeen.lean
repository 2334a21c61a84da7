/-! Lists without repetition, in the order in which their members were first seen. -/
namespace MockBuilders

variable {α : Type} [DecidableEq α]

def addNew (seen : List α) (x : α) : List α := if x ∈ seen then seen else seen ++ [x]

def addAllNew (seen xs : List α) : List α := xs.foldl addNew seen

def firstSeen (xs : List α) : List α := addAllNew [] xs

theorem firstSeen_concat (xs : List α) (x : α) :
    firstSeen (xs ++ [x]) = addNew (firstSeen xs) x := by
  simp only [firstSeen, addAllNew, List.foldl_append, List.foldl_cons, List.foldl_nil]

theorem mem_addNew {seen : List α} {x y : α} : y ∈ addNew seen x ↔ y ∈ seen ∨ y = x := by
  unfold addNew
  split
  · next h => exact ⟨Or.inl, fun hy => hy.elim id fun e => e ▸ h⟩
  · simp

theorem nodup_addNew {seen : List α} (h : seen.Nodup) (x : α) : (addNew seen x).Nodup := by
  unfold addNew
  split
  · exact h
  · next hx =>
    refine List.nodup_append.2 ⟨h, by simp, fun a ha b hb => ?_⟩
    rw [List.mem_singleton.1 hb]
    exact fun e => hx (e ▸ ha)

theorem mem_addAllNew {seen xs : List α} {y : α} :
    y ∈ addAllNew seen xs ↔ y ∈ seen ∨ y ∈ xs := by
  induction xs generalizing seen with
  | nil => simp [addAllNew]
  | cons x xs ih =>
    rw [addAllNew, List.foldl_cons, ← addAllNew, ih, mem_addNew, List.mem_cons, or_assoc]

theorem nodup_addAllNew {seen : List α} (h : seen.Nodup) (xs : List α) :
    (addAllNew seen xs).Nodup := by
  induction xs generalizing seen with
  | nil => exact h
  | cons x xs ih => exact ih (nodup_addNew h x)

theorem mem_firstSeen {xs : List α} {y : α} : y ∈ firstSeen xs ↔ y ∈ xs := by
  simp [firstSeen, mem_addAllNew]

theorem nodup_firstSeen (xs : List α) : (firstSeen xs).Nodup := nodup_addAllNew List.nodup_nil xs

end MockBuilders
