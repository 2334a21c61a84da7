import MockBuilders.Proofs.FirstSeen
import MockBuilders.Proofs.Members.Alike

/-!
Members that are written over others, or added where they are missing: names stand in the order of
first appearance, the last or the first value of a name is found, and grouping does not matter.
Main statements: `Members.putAll_putAll`, `Members.orElse_orElse`.
-/
namespace MockBuilders.Members

variable {α : Type} {m n : Members α}

/-- Members with the same names in the same order, and the same values under them, are the same. -/
theorem eq_of_get?_eq (hm : m.Distinct) (hkeys : m.keys = n.keys)
    (h : ∀ key, m.get? key = n.get? key) : m = n := by
  induction m generalizing n with
  | nil => exact (List.map_eq_nil_iff.mp hkeys.symm).symm
  | cons p m ih =>
    cases n with
    | nil => cases hkeys
    | cons q n =>
      obtain ⟨hkey, hkeys⟩ : p.1 = q.1 ∧ keys m = keys n := List.cons.inj hkeys
      obtain ⟨hp, hm⟩ := List.nodup_cons.mp hm
      have hvalue : p.2 = q.2 := by simpa [get?, hkey] using h q.1
      have hrest : m = n := by
        apply ih hm hkeys
        intro key
        by_cases hk : p.1 = key
        · subst hk
          rw [get?_eq_none_iff.mpr hp, get?_eq_none_iff.mpr (hkeys ▸ hp)]
        · simpa [get?, hk, ← hkey] using h key
      rw [Prod.ext hkey hvalue, hrest]

section Over

theorem keys_putAll (m n : Members α) : (m.putAll n).keys = addAllNew m.keys n.keys := by
  unfold Members.putAll
  induction n generalizing m with
  | nil => rfl
  | cons p n ih => rw [List.foldl_cons, ih, keys_put, keys_cons, addAllNew_cons, addNew]

/-- Values under distinct names are all kept. -/
theorem ofPairs_of_distinct {pairs : Members α} (h : pairs.Distinct) : ofPairs pairs = pairs := by
  apply eq_of_get?_eq (distinct_ofPairs pairs)
  · rw [ofPairs, keys_putAll]
    exact firstSeen_of_nodup h
  · intro key
    rw [ofPairs, get?_putAll _ h]
    exact Option.or_none

theorem get?_putAll_of_not_mem {key : String} (h : key ∉ n.keys) :
    (m.putAll n).get? key = m.get? key := by
  unfold Members.putAll
  induction n generalizing m with
  | nil => rfl
  | cons p n ih =>
    obtain ⟨hp, hn⟩ := not_or.mp (mt List.mem_cons.mpr h)
    rw [List.foldl_cons, ih hn, get?_put, if_neg (Ne.symm hp)]

/-- A member that is found was written last, or stood there and was not written over. -/
theorem mem_putAll (hm : m.Distinct) {p : String × α} (h : p ∈ m.putAll n) :
    p ∈ n ∨ p ∈ m ∧ p.1 ∉ n.keys := by
  unfold Members.putAll at h
  induction n generalizing m with
  | nil => exact .inr ⟨h, List.not_mem_nil⟩
  | cons q n ih =>
    rcases ih (hm.put q.1 q.2) h with hn | ⟨hput, hn⟩
    · exact .inl (List.mem_cons_of_mem _ hn)
    · have hget := (get?_eq_some_iff (hm.put q.1 q.2)).mpr hput
      rw [get?_put] at hget
      split at hget
      · next hkey =>
        have hlast : p = q := Prod.ext hkey.symm (Option.some.inj hget).symm
        exact .inl (List.mem_cons.mpr (.inl hlast))
      · next hkey =>
        refine .inr ⟨mem_of_get? hget, ?_⟩
        rw [keys_cons, List.mem_cons, not_or]
        exact ⟨Ne.symm hkey, hn⟩

theorem putAll_put (hm : m.Distinct) (hn : n.Distinct) (key : String) (value : α) :
    m.putAll (n.put key value) = (m.putAll n).put key value := by
  apply eq_of_get?_eq (hm.putAll _)
  · rw [keys_putAll, keys_put, keys_put, keys_putAll]
    exact addAllNew_addNew m.keys n.keys key
  · intro name
    rw [get?_putAll m (hn.put key value), get?_put, get?_put, get?_putAll m hn]
    split <;> rfl

/-- Writing members over others is the same if they are first written over one another. -/
theorem putAll_putAll (hm : m.Distinct) (hn : n.Distinct) (l : Members α) :
    m.putAll (n.putAll l) = (m.putAll n).putAll l := by
  induction l generalizing n with
  | nil => rfl
  | cons p l ih =>
    change m.putAll ((n.put p.1 p.2).putAll l) = ((m.putAll n).put p.1 p.2).putAll l
    rw [ih (hn.put p.1 p.2), putAll_put hm hn]

end Over

section Beside

theorem keys_putNew (m : Members α) (key : String) (value : α) :
    (m.putNew key value).keys = addNew m.keys key := by
  rw [putNew, addNew]
  by_cases h : key ∈ m.keys
  · rw [if_pos (has_iff.mpr h), if_pos h]
  · rw [if_neg (mt has_iff.mp h), if_neg h, keys_append]
    rfl

theorem keys_orElse (m n : Members α) : (m.orElse n).keys = addAllNew m.keys n.keys := by
  unfold Members.orElse
  induction n generalizing m with
  | nil => rfl
  | cons p n ih => rw [List.foldl_cons, ih, keys_putNew, keys_cons, addAllNew_cons]

theorem nil_orElse (h : m.Distinct) : orElse [] m = m := by
  apply eq_of_get?_eq (Distinct.orElse (m := []) List.nodup_nil m)
  · rw [keys_orElse]
    exact firstSeen_of_nodup h
  · intro key
    rw [get?_orElse]
    exact Option.none_or

/-- Adding what is missing is the same if what is to be added is first gathered. -/
theorem orElse_orElse (hm : m.Distinct) (n l : Members α) :
    m.orElse (n.orElse l) = (m.orElse n).orElse l := by
  apply eq_of_get?_eq (hm.orElse _)
  · simp only [keys_orElse, addAllNew_addAllNew]
  · intro key
    simp only [get?_orElse, Option.or_assoc]

end Beside

end MockBuilders.Members
