import Mathlib.Data.List.Nodup
import Mathlib.Data.List.Perm.Basic
import MockBuilders.Members
import MockBuilders.Proofs.Relations

/-!
Members that hold related values under the same names, whatever their order: what an operation
on members finds and leaves depends on the values under the names only.
Main statement: `Members.alike_iff_reordered`.
-/
namespace MockBuilders.Members

section Lookup
variable {α : Type} {m n : Members α}

theorem get?_append (m n : Members α) (key : String) :
    (m ++ n).get? key = (m.get? key).or (n.get? key) := by
  induction m with
  | nil => rfl
  | cons p m ih =>
    by_cases h : p.1 = key
    · simp [get?, h]
    · simp [get?, h, ih]

theorem Distinct.of_perm (hm : m.Distinct) (h : m.Perm n) : n.Distinct :=
  (h.map Prod.fst).nodup_iff.mp hm

theorem get?_of_perm (hm : m.Distinct) (h : m.Perm n) (key : String) :
    m.get? key = n.get? key := by
  apply Option.ext
  intro value
  rw [get?_eq_some_iff hm, get?_eq_some_iff (hm.of_perm h), h.mem_iff]

theorem perm_of_get?_eq (hm : m.Distinct) (hn : n.Distinct)
    (h : ∀ key, m.get? key = n.get? key) : m.Perm n := by
  apply (List.perm_ext_iff_of_nodup (List.Nodup.of_map _ hm) (List.Nodup.of_map _ hn)).mpr
  intro p
  rw [← get?_eq_some_iff hm, ← get?_eq_some_iff hn, h]

theorem Distinct.take (hm : m.Distinct) (key : String) : (m.take key).Distinct := by
  cases h : m.get? key with
  | none => rwa [take_of_not_mem (get?_eq_none_iff.mp h)]
  | some value => exact (List.nodup_cons.mp (hm.of_perm (take_perm h).symm)).2

theorem get?_take (hm : m.Distinct) (key name : String) :
    (m.take key).get? name = if key = name then none else m.get? name := by
  cases h : m.get? key with
  | none =>
    rw [take_of_not_mem (get?_eq_none_iff.mp h)]
    split
    · next e => rw [← e, h]
    · rfl
  | some value =>
    have hd := hm.of_perm (take_perm h).symm
    have hget := get?_of_perm hd (take_perm h) name
    rw [get?] at hget
    split
    · next e => exact get?_eq_none_iff.mpr (e ▸ (List.nodup_cons.mp hd).1)
    · next e => rwa [if_neg e] at hget

theorem not_mem_keys_take (hm : m.Distinct) (key : String) : key ∉ (m.take key).keys := by
  rw [← get?_eq_none_iff, get?_take hm, if_pos rfl]

theorem Distinct.filter (hm : m.Distinct) (f : String × α → Bool) : Distinct (m.filter f) :=
  hm.sublist ((List.filter_sublist (l := m) (p := f)).map Prod.fst)

theorem get?_filter (hm : m.Distinct) (f : String × α → Bool) (key : String) :
    get? (m.filter f) key = (m.get? key).filter fun value => f (key, value) := by
  apply Option.ext
  intro value
  rw [get?_eq_some_iff (hm.filter f), List.mem_filter, Option.filter_eq_some_iff,
    get?_eq_some_iff hm]

theorem mem_put {key : String} {value : α} {p : String × α} (h : p ∈ m.put key value) :
    p = (key, value) ∨ p ∈ m := by
  induction m with
  | nil => exact .inl (List.mem_singleton.mp h)
  | cons q m ih =>
    rw [put] at h
    split at h
    · next e =>
      rcases List.mem_cons.mp h with rfl | h
      · exact .inl (Prod.ext e rfl)
      · exact .inr (List.mem_cons_of_mem _ h)
    · rcases List.mem_cons.mp h with rfl | h
      · exact .inr List.mem_cons_self
      · exact (ih h).imp_right (List.mem_cons_of_mem _)

theorem get?_putNew (m : Members α) (key : String) (value : α) (name : String) :
    (m.putNew key value).get? name =
      (m.get? name).or (if key = name then some value else none) := by
  rw [putNew]
  split
  · next h =>
    split
    · next e =>
      obtain ⟨v, hv⟩ := Option.isSome_iff_exists.mp h
      rw [← e, hv, Option.some_or]
    · rw [Option.or_none]
  · rw [get?_append]
    rfl

theorem Distinct.putNew (hm : m.Distinct) (key : String) (value : α) :
    (m.putNew key value).Distinct := by
  rw [Members.putNew]
  split
  · exact hm
  · next h =>
    have hk : key ∉ m.keys := fun hk => h (has_iff.mpr hk)
    rw [Distinct, keys_append]
    exact List.Nodup.append hm (List.nodup_singleton key) (List.disjoint_singleton.mpr hk)

theorem Distinct.orElse (hm : m.Distinct) (n : Members α) : (m.orElse n).Distinct := by
  unfold Members.orElse
  induction n generalizing m with
  | nil => exact hm
  | cons p n ih => exact ih (hm.putNew p.1 p.2)

theorem get?_orElse (m n : Members α) (key : String) :
    (m.orElse n).get? key = (m.get? key).or (n.get? key) := by
  unfold Members.orElse
  induction n generalizing m with
  | nil => exact (Option.or_none).symm
  | cons p n ih =>
    rw [List.foldl_cons, ih, get?_putNew, Option.or_assoc, get?]
    congr 1
    split <;> rfl

theorem Distinct.putAll (hm : m.Distinct) (n : Members α) : (m.putAll n).Distinct := by
  unfold Members.putAll
  induction n generalizing m with
  | nil => exact hm
  | cons p n ih => exact ih (hm.put p.1 p.2)

theorem get?_putAll (m : Members α) (hn : n.Distinct) (key : String) :
    (m.putAll n).get? key = (n.get? key).or (m.get? key) := by
  unfold Members.putAll
  induction n generalizing m with
  | nil => rfl
  | cons p n ih =>
    obtain ⟨hp, hn⟩ := List.nodup_cons.mp hn
    rw [List.foldl_cons, ih _ hn, get?_put, get?]
    split
    · next h => rw [get?_eq_none_iff.mpr (h ▸ hp), Option.none_or, Option.some_or]
    · rfl

end Lookup

section Relation
variable {α β : Type} {R : α → β → Prop}

/-- Each name once on either side, with related values or with none. -/
structure Alike (R : α → β → Prop) (m : Members α) (n : Members β) : Prop where
  left : m.Distinct
  right : n.Distinct
  get? : ∀ key, Option.Rel R (m.get? key) (n.get? key)

/-- The same names in the same order, with related values. -/
inductive Matched (R : α → β → Prop) : Members α → Members β → Prop
  | nil : Matched R [] []
  | cons (key : String) {v w m n} : R v w → Matched R m n →
      Matched R ((key, v) :: m) ((key, w) :: n)

variable {m l : Members α} {n : Members β}

theorem matched_iff :
    Matched R m n ↔ List.Forall₂ (fun p q => p.1 = q.1 ∧ R p.2 q.2) m n := by
  constructor
  · intro h
    induction h with
    | nil => exact .nil
    | cons key hvw _ ih => exact .cons ⟨rfl, hvw⟩ ih
  · intro h
    induction h with
    | nil => exact .nil
    | @cons p q _ _ hpq _ ih =>
      obtain ⟨key, v⟩ := p
      obtain ⟨_, w⟩ := q
      obtain ⟨rfl, hvw⟩ := hpq
      exact .cons key hvw ih

theorem Matched.keys (h : Matched R m n) : m.keys = n.keys := by
  induction h with
  | nil => rfl
  | cons key _ _ ih => rw [keys_cons, keys_cons, ih]

theorem Matched.get? (h : Matched R m n) (key : String) :
    Option.Rel R (m.get? key) (n.get? key) := by
  induction h with
  | nil => exact .none
  | cons k hvw _ ih =>
    rw [Members.get?, Members.get?]
    split
    · exact .some hvw
    · exact ih

theorem Matched.of_mem {m : Members α} {R : α → α → Prop} (h : ∀ p ∈ m, R p.2 p.2) :
    Matched R m m := by
  refine matched_iff.mpr (forall₂_imp_of_mem (List.forall₂_same.mpr fun _ _ => rfl) ?_)
  rintro p hp _ - rfl
  exact ⟨rfl, h p hp⟩

theorem Matched.append {m' : Members α} {n' : Members β} (h : Matched R m n)
    (h' : Matched R m' n') : Matched R (m ++ m') (n ++ n') :=
  matched_iff.mpr (List.rel_append (matched_iff.mp h) (matched_iff.mp h'))

theorem Matched.imp {S : α → β → Prop} (h : Matched R m n)
    (hRS : ∀ p ∈ m, ∀ q ∈ n, R p.2 q.2 → S p.2 q.2) : Matched S m n := by
  refine matched_iff.mpr (forall₂_imp_of_mem (matched_iff.mp h) ?_)
  exact fun p hp q hq hpq => ⟨hpq.1, hRS p hp q hq hpq.2⟩

theorem Alike.keys_mem (h : Alike R m n) (key : String) : key ∈ m.keys ↔ key ∈ n.keys := by
  rw [← not_iff_not, ← get?_eq_none_iff, ← get?_eq_none_iff]
  have := h.get? key
  generalize m.get? key = o at this
  generalize n.get? key = p at this
  cases this <;> simp

theorem Alike.exists_right (h : Alike R m n) {key : String} {v : α} (hv : m.get? key = some v) :
    ∃ w, n.get? key = some w ∧ R v w :=
  exists_of_rel_some (hv ▸ h.get? key)

theorem Alike.tail {key : String} {v : α} (h : Alike R ((key, v) :: m) n) :
    Alike R m (n.take key) := by
  obtain ⟨hkey, hm⟩ := List.nodup_cons.mp h.left
  refine ⟨hm, h.right.take key, fun name => ?_⟩
  have hrel := h.get? name
  rw [get?_take h.right]
  rw [Members.get?] at hrel
  split
  · next e =>
    rw [get?_eq_none_iff.mpr (e ▸ hkey)]
    exact .none
  · next e => rwa [if_neg e] at hrel

/-- Members are alike if and only if one side can be reordered to match the other. -/
theorem alike_iff_reordered :
    Alike R m n ↔ m.Distinct ∧ n.Distinct ∧ ∃ l, Matched R m l ∧ l.Perm n := by
  constructor
  · intro h
    refine ⟨h.left, h.right, ?_⟩
    induction m generalizing n with
    | nil =>
      have hn : n = [] := List.eq_nil_iff_forall_not_mem.mpr fun p hp => by
        have := (h.keys_mem p.1).mpr (List.mem_map_of_mem hp)
        simp at this
      exact ⟨[], .nil, hn ▸ .refl _⟩
    | cons p m ih =>
      obtain ⟨key, v⟩ := p
      obtain ⟨w, hw, hvw⟩ := h.exists_right (show Members.get? ((key, v) :: m) key = some v by
        simp [Members.get?])
      obtain ⟨l, hml, hln⟩ := ih h.tail
      exact ⟨(key, w) :: l, .cons key hvw hml, (hln.cons _).trans (take_perm hw)⟩
  · rintro ⟨hm, hn, l, hml, hln⟩
    refine ⟨hm, hn, fun key => ?_⟩
    have hl : l.Distinct := by rwa [Distinct, ← hml.keys]
    rw [← get?_of_perm hl hln]
    exact hml.get? key

theorem alike_nil : Alike R ([] : Members α) ([] : Members β) :=
  .mk List.nodup_nil List.nodup_nil fun _ => .none

theorem Matched.alike (h : Matched R m n) (hm : m.Distinct) : Alike R m n :=
  .mk hm (by rwa [Distinct, ← h.keys]) h.get?

theorem Alike.exists_right_of_mem (h : Alike R m n) {p : String × α} (hp : p ∈ m) :
    ∃ q ∈ n, p.1 = q.1 ∧ R p.2 q.2 := by
  obtain ⟨w, hw, hpw⟩ := h.exists_right ((get?_eq_some_iff h.left).mpr hp)
  exact ⟨(p.1, w), mem_of_get? hw, rfl, hpw⟩

theorem Alike.flip (h : Alike R m n) : Alike (flip R) n m :=
  ⟨h.right, h.left, fun key => rel_flip (h.get? key)⟩

theorem Alike.has_eq (h : Alike R m n) (key : String) : m.has key = n.has key := by
  rw [Bool.eq_iff_iff, has_iff, has_iff, h.keys_mem]

theorem Alike.take (h : Alike R m n) (key : String) : Alike R (m.take key) (n.take key) := by
  refine .mk (h.left.take key) (h.right.take key) fun name => ?_
  rw [get?_take h.left, get?_take h.right]
  split
  · exact .none
  · exact h.get? name

theorem alike_singleton (key : String) {v : α} {w : β} (h : R v w) :
    Alike R [(key, v)] [(key, w)] :=
  (Matched.cons key h .nil).alike (List.nodup_singleton key)

variable {m' : Members α} {n' : Members β}

theorem Alike.append (h : Alike R m n) (h' : Alike R m' n')
    (hkeys : ∀ key ∈ m.keys, key ∉ m'.keys) : Alike R (m ++ m') (n ++ n') := by
  refine ⟨?_, ?_, fun key => ?_⟩
  · rw [Distinct, keys_append]
    exact List.Nodup.append h.left h'.left fun key hm hm' => hkeys key hm hm'
  · rw [Distinct, keys_append]
    apply List.Nodup.append h.right h'.right
    intro key hn hn'
    exact hkeys key ((h.keys_mem key).mpr hn) ((h'.keys_mem key).mpr hn')
  · rw [get?_append, get?_append]
    exact rel_or (h.get? key) (h'.get? key)

theorem Alike.orElse (h : Alike R m n) (h' : Alike R m' n') :
    Alike R (m.orElse m') (n.orElse n') := by
  refine .mk (h.left.orElse m') (h.right.orElse n') fun key => ?_
  rw [get?_orElse, get?_orElse]
  exact rel_or (h.get? key) (h'.get? key)

theorem Alike.putAll (h : Alike R m n) (h' : Alike R m' n') :
    Alike R (m.putAll m') (n.putAll n') := by
  refine .mk (h.left.putAll m') (h.right.putAll n') fun key => ?_
  rw [get?_putAll m h'.left, get?_putAll n h'.right]
  exact rel_or (h'.get? key) (h.get? key)

/-- Filters keep members alike if they decide alike on related values. -/
theorem Alike.filter (h : Alike R m n) {f : String × α → Bool} {g : String × β → Bool}
    (hfg : ∀ key v w, R v w → f (key, v) = g (key, w)) :
    Alike R (m.filter f) (n.filter g) := by
  refine .mk (h.left.filter f) (h.right.filter g) fun key => ?_
  rw [get?_filter h.left, get?_filter h.right]
  exact rel_filter (h.get? key) (hfg key)

end Relation

section Images
variable {α β γ δ : Type} {R : α → β → Prop} {S : γ → δ → Prop} {m : Members α} {n : Members β}

theorem get?_mapEntries (f : String → α → γ) (m : Members α) (key : String) :
    get? (m.map fun p => (p.1, f p.1 p.2)) key = (m.get? key).map (f key) := by
  induction m with
  | nil => rfl
  | cons p m ih =>
    by_cases h : p.1 = key
    · simp [get?, h]
    · simp [get?, h, ih]

theorem Alike.mapEntries (h : Alike R m n) {f : String → α → γ} {g : String → β → δ}
    (hfg : ∀ key v w, R v w → S (f key v) (g key w)) :
    Alike S (m.map fun p => (p.1, f p.1 p.2)) (n.map fun p => (p.1, g p.1 p.2)) := by
  refine ⟨?_, ?_, fun key => ?_⟩
  · simpa [Distinct, keys, Function.comp_def] using h.left
  · simpa [Distinct, keys, Function.comp_def] using h.right
  · rw [get?_mapEntries, get?_mapEntries]
    exact rel_map (h.get? key) (hfg key)

end Images

end MockBuilders.Members
