import Mathlib.Data.List.Induction
import Mathlib.Data.List.TakeWhile
import MockBuilders.Proofs.Members.Alike

/-!
Where members stand after names are taken out. The last member moves into each gap, so members in
the places that are left stay where they are, and those behind them fill the gaps.
Main statement: `Members.fillsGaps_takeAll`.
-/
namespace MockBuilders.Members

variable {α : Type} {m n : Members α} {names : List String} {key : String} {p : String × α}

/-- Takes names out, one after the other. -/
def takeAll (m : Members α) (names : List String) : Members α := names.foldl take m

theorem takeAll_append (m : Members α) (names more : List String) :
    m.takeAll (names ++ more) = (m.takeAll names).takeAll more :=
  List.foldl_append

theorem lastFirst_concat (m : Members α) (p : String × α) : lastFirst (m ++ [p]) = p :: m := by
  induction m with
  | nil => rfl
  | cons q m ih =>
    cases m with
    | nil => rfl
    | cons r m =>
      rw [List.cons_append, List.cons_append, lastFirst, ← List.cons_append, ih]

/-- A member that is not taken stays, if it stands in a place that is left. -/
theorem getElem?_take {i : Nat} (hi : i < (m.take key).length) (hp : m[i]? = some p)
    (hne : p.1 ≠ key) : (m.take key)[i]? = some p := by
  induction m generalizing i with
  | nil => cases hp
  | cons q m ih =>
    rw [take] at hi ⊢
    split
    · next hq =>
      cases i with
      | zero => exact absurd (Option.some.inj hp ▸ hq) hne
      | succ i =>
        rw [if_pos hq] at hi
        rw [List.getElem?_cons_succ] at hp
        cases m using List.reverseRecOn with
        | nil => cases hp
        | append_singleton m last =>
          rw [lastFirst_concat] at hi ⊢
          rw [List.getElem?_cons_succ, ← hp, List.getElem?_append_left]
          simpa using hi
    · next hq =>
      cases i with
      | zero => exact hp
      | succ i =>
        rw [if_neg hq] at hi
        exact ih (Nat.lt_of_succ_lt_succ hi) hp

theorem length_take_le (m : Members α) (key : String) : (m.take key).length ≤ m.length := by
  cases h : m.get? key with
  | none => exact Nat.le_of_eq (congrArg List.length (take_of_not_mem (get?_eq_none_iff.mp h)))
  | some value =>
    rw [← (take_perm h).length_eq]
    exact Nat.le_succ _

theorem length_takeAll_le (m : Members α) (names : List String) :
    (m.takeAll names).length ≤ m.length := by
  induction names generalizing m with
  | nil => exact Nat.le_refl _
  | cons name names ih => exact Nat.le_trans (ih (m.take name)) (length_take_le m name)

theorem getElem?_takeAll {i : Nat} (hi : i < (m.takeAll names).length) (hp : m[i]? = some p)
    (hne : p.1 ∉ names) : (m.takeAll names)[i]? = some p := by
  induction names generalizing m with
  | nil => exact hp
  | cons name names ih =>
    rw [List.mem_cons, not_or] at hne
    have hlt : i < (m.take name).length := Nat.lt_of_lt_of_le hi (length_takeAll_le _ names)
    exact ih hi (getElem?_take hlt hp hne.1) hne.2

theorem Distinct.takeAll (hm : m.Distinct) (names : List String) : (m.takeAll names).Distinct := by
  induction names generalizing m with
  | nil => exact hm
  | cons name names ih => exact ih (hm.take name)

theorem mem_keys_take_iff (hm : m.Distinct) {name : String} :
    name ∈ (m.take key).keys ↔ name ∈ m.keys ∧ name ≠ key := by
  rw [← has_iff, has, get?_take hm, ← has_iff, has]
  split
  · next h => simp [h]
  · next h => simp [Ne.symm h]

theorem mem_keys_takeAll_iff (hm : m.Distinct) {name : String} :
    name ∈ (m.takeAll names).keys ↔ name ∈ m.keys ∧ name ∉ names := by
  induction names generalizing m with
  | nil => simp [takeAll]
  | cons first names ih =>
    rw [takeAll, List.foldl_cons, ← takeAll, ih (hm.take first), mem_keys_take_iff hm,
      List.mem_cons, not_or, and_assoc]

/-- The kept keys that stand behind a key that is not kept. -/
def late (keys kept : List String) : List String :=
  (keys.dropWhile (· ∈ kept)).filter (· ∈ kept)

/-- Some of the keys, each at its place if that place is left. -/
structure FillsGaps (keys kept : List String) : Prop where
  nodup : kept.Nodup
  subset : ∀ key ∈ kept, key ∈ keys
  stays : ∀ (i : Nat) (key : String), keys[i]? = some key → key ∈ kept → i < kept.length →
    kept[i]? = some key

section FillsGaps
variable {keys kept : List String}

theorem takeWhile_append_late (keys kept : List String) :
    keys.takeWhile (· ∈ kept) ++ late keys kept = keys.filter (· ∈ kept) := by
  have hearly : (keys.takeWhile (· ∈ kept)).filter (· ∈ kept) = keys.takeWhile (· ∈ kept) :=
    List.filter_eq_self.mpr fun _ => List.mem_takeWhile_imp
  conv_rhs => rw [← List.takeWhile_append_dropWhile (p := (· ∈ kept)) (l := keys)]
  rw [List.filter_append, hearly, late]

theorem FillsGaps.perm (h : FillsGaps keys kept) (hkeys : keys.Nodup) :
    kept.Perm (keys.filter (· ∈ kept)) := by
  refine (List.perm_ext_iff_of_nodup h.nodup (hkeys.filter _)).mpr fun key => ?_
  simpa using h.subset key

/-- The keys before the first gap come first, and behind them the late ones in some order. -/
theorem FillsGaps.exists_perm_late (h : FillsGaps keys kept) (hkeys : keys.Nodup) :
    ∃ rest, kept = keys.takeWhile (· ∈ kept) ++ rest ∧ rest.Perm (late keys kept) := by
  have hperm : kept.Perm (keys.takeWhile (· ∈ kept) ++ late keys kept) := by
    rw [takeWhile_append_late]
    exact h.perm hkeys
  have hprefix : keys.takeWhile (· ∈ kept) <+: kept := by
    refine List.prefix_iff_getElem?.mpr fun i hi => h.stays i _ ?_ ?_ ?_
    · rw [(List.takeWhile_prefix _).getElem hi]
      exact List.getElem?_eq_getElem _
    · exact of_decide_eq_true (List.mem_takeWhile_imp (p := (· ∈ kept)) (List.getElem_mem hi))
    · rw [hperm.length_eq, List.length_append]
      exact Nat.lt_add_right _ hi
  obtain ⟨rest, hrest⟩ := hprefix
  refine ⟨rest, hrest.symm, (List.perm_append_left_iff (keys.takeWhile (· ∈ kept))).mp ?_⟩
  rwa [hrest]

/-- One late key at most fills the gap behind the keys that come first. -/
theorem FillsGaps.sublist_of_late (h : FillsGaps keys kept) (hkeys : keys.Nodup)
    (hlate : (late keys kept).length ≤ 1) : kept.Sublist keys := by
  obtain ⟨rest, hkept, hrest⟩ := h.exists_perm_late hkeys
  have heq : rest = late keys kept := by
    match hl : late keys kept, hlate with
    | [], _ => exact List.perm_nil.mp (hl ▸ hrest)
    | [key], _ => exact List.perm_singleton.mp (hl ▸ hrest)
  rw [hkept, heq, takeWhile_append_late]
  exact List.filter_sublist

theorem getElem?_append_add {l before behind : List String} (h : l = before ++ behind) (i : Nat) :
    l[before.length + i]? = behind[i]? := by
  rw [h, List.getElem?_append_right (Nat.le_add_right _ _), Nat.add_sub_cancel_left]

/-- A key that has its own place among those that pass has only such before it. -/
theorem forall_take_of_getElem?_filter {rest : List String} {p : String → Bool} {key : String}
    {i : Nat} (hrest : rest.Nodup) (hkey : rest[i]? = some key) (hp : p key = true)
    (hplace : (rest.filter p)[i]? = some key) : ∀ k ∈ rest.take (i + 1), p k = true := by
  obtain ⟨hi, hget⟩ := List.getElem?_eq_some_iff.mp hkey
  have hsplit : rest.filter p = (rest.take i).filter p ++ (rest.drop i).filter p := by
    rw [← List.filter_append, List.take_append_drop]
  have hmoved : (rest.filter p)[((rest.take i).filter p).length]? = some key := by
    refine (getElem?_append_add hsplit 0).trans ?_
    rw [List.drop_eq_getElem_cons hi, hget, List.filter_cons_of_pos hp, List.getElem?_cons_zero]
  have hlt : i < (rest.filter p).length := (List.getElem?_eq_some_iff.mp hplace).1
  have hlength : i = ((rest.take i).filter p).length :=
    (List.getElem?_inj hlt (hrest.filter p)).mp (hplace.trans hmoved.symm)
  have hall : ∀ k ∈ rest.take i, p k = true := by
    rw [← List.length_filter_eq_length_iff, ← hlength, List.length_take_of_le hi.le]
  rw [List.take_succ_eq_append_getElem hi, hget]
  exact List.forall_mem_append.mpr ⟨hall, List.forall_mem_singleton.mpr hp⟩

/-- Kept keys are in order only if the late ones have a gap for each of them at once. -/
theorem FillsGaps.gap_of_sublist (h : FillsGaps keys kept) (hkeys : keys.Nodup)
    (hsub : kept.Sublist keys) :
    ∀ key ∈ (keys.dropWhile (· ∈ kept)).take (late keys kept).length, key ∉ kept := by
  have hkept : kept = keys.takeWhile (· ∈ kept) ++ late keys kept := by
    have hfilter := hsub.filter (· ∈ kept)
    rw [List.filter_eq_self.mpr fun _ => decide_eq_true] at hfilter
    rw [takeWhile_append_late]
    exact hfilter.eq_of_length (h.perm hkeys).length_eq
  intro key hgap hkey
  obtain ⟨i, hi, hget⟩ := List.mem_take_iff_getElem.mp hgap
  obtain ⟨hlate, hrest⟩ := Nat.lt_min.mp hi
  have hplace : (keys.dropWhile (· ∈ kept))[i]? = some key :=
    List.getElem?_eq_some_iff.mpr ⟨_, hget⟩
  have hkeysPlace := (getElem?_append_add List.takeWhile_append_dropWhile.symm i).trans hplace
  have hlt : (keys.takeWhile (· ∈ kept)).length + i < kept.length := by
    rw [congrArg List.length hkept, List.length_append]
    exact Nat.add_lt_add_left hlate _
  have hstays := (getElem?_append_add hkept i).symm.trans (h.stays _ key hkeysPlace hkey hlt)
  have hbefore := forall_take_of_getElem?_filter (hkeys.sublist (List.dropWhile_sublist _)) hplace
    (decide_eq_true hkey) hstays
  -- the first of these is the first gap
  have hne : keys.dropWhile (· ∈ kept) ≠ [] :=
    List.ne_nil_of_length_pos (Nat.zero_lt_of_lt hrest)
  have hfirst : (keys.dropWhile (· ∈ kept)).head hne ∈
      (keys.dropWhile (· ∈ kept)).take (i + 1) := by
    obtain ⟨first, behind, hcons⟩ := List.exists_cons_of_ne_nil hne
    simp only [hcons, List.head_cons, List.take_succ_cons]
    exact List.mem_cons_self
  exact Bool.false_ne_true ((List.head_dropWhile_not _ hne).symm.trans (hbefore _ hfirst))

end FillsGaps

theorem mem_before_of_pair_sublist {before behind : List String} {key last : String}
    (h : (before ++ last :: behind).Nodup)
    (hpair : [key, last].Sublist (before ++ last :: behind)) : key ∈ before := by
  have hlast : last ∉ before ∧ last ∉ behind := by
    have hmiddle := List.nodup_middle.mp h
    simpa using (List.nodup_cons.mp hmiddle).1
  obtain ⟨early, rest, hsplit, hearly, hrest⟩ := List.sublist_append_iff.mp hpair
  cases early with
  | nil =>
    rw [List.nil_append] at hsplit
    rw [← hsplit] at hrest
    rcases List.sublist_cons_iff.mp hrest with hbehind | ⟨_, heq, hbehind⟩
    · exact absurd (hbehind.subset (by simp)) hlast.2
    · obtain ⟨-, rfl⟩ := List.cons.inj heq
      exact absurd (List.singleton_sublist.mp hbehind) hlast.2
  | cons first early =>
    obtain ⟨rfl, -⟩ := List.cons.inj hsplit
    exact hearly.subset List.mem_cons_self

/-- A key behind others is in order if each of them stands before it. -/
theorem concat_sublist_iff {keys kept : List String} {last : String} (hkeys : keys.Nodup)
    (hlast : last ∈ keys) : (kept ++ [last]).Sublist keys ↔
      kept.Sublist keys ∧ ∀ key ∈ kept, [key, last].Sublist keys := by
  constructor
  · intro h
    refine ⟨(List.sublist_append_left kept [last]).trans h, fun key hkey => ?_⟩
    exact (List.Sublist.append (List.singleton_sublist.mpr hkey) (.refl [last])).trans h
  · rintro ⟨hkept, hbefore⟩
    obtain ⟨before, behind, rfl⟩ := List.append_of_mem hlast
    obtain ⟨early, rest, rfl, hearly, hrest⟩ := List.sublist_append_iff.mp hkept
    have hnil : rest = [] := by
      refine List.eq_nil_iff_forall_not_mem.mpr fun key hkey => ?_
      have hmem := mem_before_of_pair_sublist hkeys (hbefore key (List.mem_append_right _ hkey))
      exact List.disjoint_of_nodup_append hkeys hmem (hrest.subset hkey)
    rw [hnil, List.append_nil]
    exact hearly.append (List.singleton_sublist.mpr List.mem_cons_self)

theorem fillsGaps_takeAll (hm : m.Distinct) (names : List String) :
    FillsGaps m.keys (m.takeAll names).keys where
  nodup := hm.takeAll names
  subset key hkey := ((mem_keys_takeAll_iff hm).mp hkey).1
  stays i key hi hkey hlt := by
    rw [keys, List.getElem?_map, Option.map_eq_some_iff] at hi
    obtain ⟨p, hp, rfl⟩ := hi
    rw [keys, List.length_map] at hlt
    rw [keys, List.getElem?_map,
      getElem?_takeAll hlt hp ((mem_keys_takeAll_iff hm).mp hkey).2, Option.map_some]

end MockBuilders.Members
