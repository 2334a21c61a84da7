import Mathlib.Data.List.Induction
import Mathlib.Data.List.Nodup
import Mathlib.Data.List.Perm.Basic
import MockBuilders.FirstSeen

/-!
Members of a list by key: the first member of each key, and those that come after one of their
key. Main statements: `perm_firsts_append_repeats`, `nodup_map_firsts`.
-/
namespace MockBuilders

variable {α β : Type} [DecidableEq β] {key : α → β} {xs : List α} {x y : α}

/-- Each member, with the first member before it that has its key. -/
def withEarlier (key : α → β) (xs : List α) : List (α × Option α) :=
  xs.mapIdx fun i x => (x, (xs.take i).find? fun y => key y = key x)

/-- The first member of each key. -/
def firsts (key : α → β) (xs : List α) : List α :=
  (withEarlier key xs).filterMap fun p => if p.2.isNone then some p.1 else none

/-- The members that come after one of their key, with the first one that has it. -/
def repeats (key : α → β) (xs : List α) : List (α × α) :=
  (withEarlier key xs).filterMap fun p => p.2.map fun earlier => (p.1, earlier)

theorem withEarlier_concat (key : α → β) (xs : List α) (x : α) :
    withEarlier key (xs ++ [x]) =
      withEarlier key xs ++ [(x, xs.find? fun y => key y = key x)] := by
  have hinit : (xs.mapIdx fun i y => (y, ((xs ++ [x]).take i).find? fun z => key z = key y)) =
      withEarlier key xs := by
    apply List.mapIdx_eq_mapIdx_iff.mpr
    intro i hi
    rw [List.take_append_of_le_length (Nat.le_of_lt hi)]
  rw [withEarlier, List.mapIdx_concat, hinit, List.take_left]

theorem firsts_concat (key : α → β) (xs : List α) (x : α) :
    firsts key (xs ++ [x]) =
      firsts key xs ++ if (xs.find? fun y => key y = key x).isNone then [x] else [] := by
  rw [firsts, withEarlier_concat, List.filterMap_append, ← firsts]
  split <;> simp_all

theorem firsts_concat_of_none (h : (xs.find? fun y => key y = key x) = none) :
    firsts key (xs ++ [x]) = firsts key xs ++ [x] := by
  rw [firsts_concat, h]
  rfl

theorem firsts_concat_of_some (h : (xs.find? fun y => key y = key x) = some y) :
    firsts key (xs ++ [x]) = firsts key xs := by
  rw [firsts_concat, h]
  exact List.append_nil _

theorem repeats_concat_of_none (h : (xs.find? fun y => key y = key x) = none) :
    repeats key (xs ++ [x]) = repeats key xs := by
  rw [repeats, withEarlier_concat, h, List.filterMap_append, ← repeats]
  exact List.append_nil _

theorem repeats_concat_of_some (h : (xs.find? fun y => key y = key x) = some y) :
    repeats key (xs ++ [x]) = repeats key xs ++ [(x, y)] := by
  rw [repeats, withEarlier_concat, h, List.filterMap_append, ← repeats]
  rfl

/-- The first members of a key are found where they are found in the whole list. -/
theorem find?_firsts (key : α → β) (xs : List α) (k : β) :
    ((firsts key xs).find? fun y => key y = k) = xs.find? fun y => key y = k := by
  induction xs using List.reverseRecOn with
  | nil => rfl
  | append_singleton xs x ih =>
    cases h : xs.find? fun y => key y = key x with
    | none => rw [firsts_concat_of_none h, List.find?_append, List.find?_append, ih]
    | some y =>
      rw [firsts_concat_of_some h, List.find?_append, ih]
      by_cases hk : key x = k
      · subst hk
        rw [h, Option.some_or]
      · simp [hk]

theorem firsts_sublist (key : α → β) (xs : List α) : (firsts key xs).Sublist xs := by
  induction xs using List.reverseRecOn with
  | nil => exact .slnil
  | append_singleton xs x ih =>
    rw [firsts_concat]
    refine List.Sublist.append ih ?_
    split
    · exact .refl _
    · exact List.nil_sublist _

/-- Each key has a first member. -/
theorem mem_map_firsts_iff {k : β} : k ∈ (firsts key xs).map key ↔ ∃ x ∈ xs, key x = k := by
  constructor
  · intro h
    obtain ⟨x, hx, rfl⟩ := List.mem_map.mp h
    exact ⟨x, (firsts_sublist key xs).subset hx, rfl⟩
  · rintro ⟨x, hx, rfl⟩
    have hfound : (xs.find? fun y => key y = key x).isSome :=
      List.find?_isSome.mpr ⟨x, hx, decide_eq_true rfl⟩
    rw [← find?_firsts] at hfound
    obtain ⟨y, hy⟩ := Option.isSome_iff_exists.mp hfound
    have hkey : key y = key x := by simpa using List.find?_some hy
    exact List.mem_map.mpr ⟨y, List.mem_of_find?_eq_some hy, hkey⟩

/-- No two first members have one key. -/
theorem nodup_map_firsts (key : α → β) (xs : List α) : ((firsts key xs).map key).Nodup := by
  induction xs using List.reverseRecOn with
  | nil => exact List.nodup_nil
  | append_singleton xs x ih =>
    cases h : xs.find? fun y => key y = key x with
    | some y => rwa [firsts_concat_of_some h]
    | none =>
      rw [firsts_concat_of_none h, List.map_append, List.map_singleton]
      refine List.nodup_append.mpr ⟨ih, List.nodup_singleton _, ?_⟩
      intro k hk l hl
      rw [List.mem_singleton.mp hl]
      obtain ⟨y, hy, rfl⟩ := List.mem_map.mp hk
      simpa using List.find?_eq_none.mp h y ((firsts_sublist key xs).subset hy)

/-- Every member is the first of its key or is listed after it, and no member is both. -/
theorem perm_firsts_append_repeats (key : α → β) (xs : List α) :
    xs.Perm (firsts key xs ++ (repeats key xs).map Prod.fst) := by
  induction xs using List.reverseRecOn with
  | nil => exact .refl _
  | append_singleton xs x ih =>
    cases h : xs.find? fun y => key y = key x with
    | none =>
      rw [firsts_concat_of_none h, repeats_concat_of_none h, List.append_assoc]
      refine (ih.append_right [x]).trans ?_
      rw [List.append_assoc]
      exact List.perm_append_comm.append_left _
    | some y =>
      rw [firsts_concat_of_some h, repeats_concat_of_some h, List.map_append, ← List.append_assoc]
      exact ih.append_right [x]

end MockBuilders
