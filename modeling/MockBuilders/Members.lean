/-!
Named values in the order in which their names first appeared. A name is held at most once:
writing to a name keeps its place, and taking one out moves the last member into the gap.
-/
namespace MockBuilders

abbrev Members (α : Type) := List (String × α)

namespace Members

variable {α β : Type}

def keys (m : Members α) : List String := m.map Prod.fst

/-- No name is held twice. -/
def Distinct (m : Members α) : Prop := m.keys.Nodup

instance (m : Members α) : Decidable m.Distinct := inferInstanceAs (Decidable m.keys.Nodup)

def get? : Members α → String → Option α
  | [], _ => none
  | (k, v) :: rest, key => if k = key then some v else get? rest key

def has (m : Members α) (key : String) : Bool := (m.get? key).isSome

/-- Writes a value under a name, in place if the name is there and at the end if not. -/
def put : Members α → String → α → Members α
  | [], key, value => [(key, value)]
  | (k, v) :: rest, key, value =>
      if k = key then (k, value) :: rest else (k, v) :: put rest key value

/-- Writes only under a name that is not there yet. -/
def putNew (m : Members α) (key : String) (value : α) : Members α :=
  if m.has key then m else m ++ [(key, value)]

/-- Moves the last member to the front, which is where a taken member stood. -/
def lastFirst : Members α → Members α
  | [] => []
  | [x] => [x]
  | x :: y :: rest =>
      match lastFirst (y :: rest) with
      | [] => [x]
      | z :: front => z :: x :: front

/-- Takes a name out; the last member moves into its place. -/
def take : Members α → String → Members α
  | [], _ => []
  | (k, v) :: rest, key => if k = key then lastFirst rest else (k, v) :: take rest key

/-- Writes the members of the second over those of the first. -/
def putAll (m n : Members α) : Members α := n.foldl (fun m p => m.put p.1 p.2) m

/-- Of two values under one name the later wins, at the place of the earlier. -/
def ofPairs (pairs : List (String × α)) : Members α := putAll [] pairs

/-- Adds the members of the second that the first does not have. -/
def orElse (m n : Members α) : Members α := n.foldl (fun m p => m.putNew p.1 p.2) m

def mapValues (f : α → β) (m : Members α) : Members β := m.map fun p => (p.1, f p.2)

@[simp] theorem keys_nil : keys ([] : Members α) = [] := rfl

@[simp] theorem keys_cons (p : String × α) (m : Members α) :
    keys (p :: m) = p.1 :: m.keys := rfl

@[simp] theorem keys_append (m n : Members α) : keys (m ++ n) = m.keys ++ n.keys := by
  simp [keys]

@[simp] theorem keys_mapValues (f : α → β) (m : Members α) : (m.mapValues f).keys = m.keys := by
  simp [keys, mapValues]

theorem get?_mapValues (f : α → β) (m : Members α) (key : String) :
    (m.mapValues f).get? key = (m.get? key).map f := by
  induction m with
  | nil => rfl
  | cons p m ih =>
    by_cases h : p.1 = key
    · simp [mapValues, get?, h]
    · simpa [mapValues, get?, h] using ih

theorem get?_eq_none_iff {m : Members α} {key : String} : m.get? key = none ↔ key ∉ m.keys := by
  induction m with
  | nil => simp [get?]
  | cons p m ih =>
    by_cases h : p.1 = key
    · simp [get?, h]
    · simp [get?, h, ih, Ne.symm h]

theorem has_iff {m : Members α} {key : String} : m.has key = true ↔ key ∈ m.keys := by
  rw [has, Option.isSome_iff_ne_none, Ne, get?_eq_none_iff, Decidable.not_not]

theorem mem_of_get? {m : Members α} {key : String} {value : α} (h : m.get? key = some value) :
    (key, value) ∈ m := by
  induction m with
  | nil => simp [get?] at h
  | cons p m ih =>
    by_cases hk : p.1 = key
    · simp only [get?, hk, if_true, Option.some.injEq] at h
      simp [← hk, ← h]
    · simp only [get?, hk, if_false] at h
      exact List.mem_cons_of_mem _ (ih h)

theorem mem_keys_of_get? {m : Members α} {key : String} {value : α}
    (h : m.get? key = some value) : key ∈ m.keys :=
  List.mem_map_of_mem (mem_of_get? h)

theorem get?_eq_some_iff {m : Members α} (h : m.Distinct) {key : String} {value : α} :
    m.get? key = some value ↔ (key, value) ∈ m := by
  refine ⟨mem_of_get?, fun hm => ?_⟩
  induction m with
  | nil => simp at hm
  | cons p m ih =>
    obtain ⟨hp, hd⟩ := List.nodup_cons.mp h
    rcases List.mem_cons.mp hm with rfl | hm
    · simp [get?]
    · have hne : p.1 ≠ key := fun e => hp (e ▸ List.mem_map_of_mem hm)
      rw [get?, if_neg hne, ih hd hm]

theorem get?_put (m : Members α) (key : String) (value : α) (name : String) :
    (m.put key value).get? name = if key = name then some value else m.get? name := by
  induction m with
  | nil => simp [put, get?]
  | cons p m ih =>
    by_cases h : p.1 = key
    · by_cases hn : key = name <;> simp [put, get?, h, hn]
    · by_cases hn : p.1 = name
      · have hne : key ≠ name := fun e => h (hn.trans e.symm)
        simp [put, get?, hn, hne, Ne.symm hne]
      · simp [put, get?, h, hn, ih]

/-- A written name keeps its place; a new one goes to the end. -/
theorem keys_put (m : Members α) (key : String) (value : α) :
    (m.put key value).keys = if key ∈ m.keys then m.keys else m.keys ++ [key] := by
  induction m with
  | nil => simp [put]
  | cons p m ih =>
    by_cases h : p.1 = key
    · simp [put, h]
    · by_cases hm : key ∈ keys m <;> simp [put, h, Ne.symm h, ih, hm]

theorem Distinct.put {m : Members α} (h : m.Distinct) (key : String) (value : α) :
    (m.put key value).Distinct := by
  unfold Distinct at *
  rw [keys_put]
  split
  · exact h
  · next hk =>
    refine List.nodup_append.2 ⟨h, by simp, fun a ha b hb => ?_⟩
    rw [List.mem_singleton.1 hb]
    exact fun e => hk (e ▸ ha)

theorem distinct_ofPairs (pairs : List (String × α)) : (ofPairs pairs).Distinct := by
  have go : ∀ (ps : List (String × α)) (m : Members α), m.Distinct →
      (ps.foldl (fun m p => m.put p.1 p.2) m).Distinct := by
    intro ps
    induction ps with
    | nil => exact fun _ h => h
    | cons p ps ih => exact fun m h => ih _ (h.put p.1 p.2)
  exact go pairs [] List.nodup_nil

theorem lastFirst_perm (m : Members α) : (lastFirst m).Perm m := by
  fun_induction lastFirst m with
  | case1 => exact .refl _
  | case2 => exact .refl _
  | case3 x y rest h ih => rw [h] at ih; exact absurd ih.length_eq (by simp)
  | case4 x y rest z front h ih =>
    rw [h] at ih
    exact (List.Perm.swap x z front).trans (ih.cons x)

/-- Taking a held name out loses that one member and nothing else. -/
theorem take_perm {m : Members α} {key : String} {value : α} (h : m.get? key = some value) :
    ((key, value) :: m.take key).Perm m := by
  induction m with
  | nil => simp [get?] at h
  | cons p m ih =>
    obtain ⟨k, v⟩ := p
    by_cases hk : k = key
    · simp only [get?, hk, if_true, Option.some.injEq] at h
      simpa [take, hk, h] using lastFirst_perm m
    · simp only [get?, hk, if_false] at h
      simpa [take, hk] using (List.Perm.swap _ _ _).trans ((ih h).cons (k, v))

theorem take_of_not_mem {m : Members α} {key : String} (h : key ∉ m.keys) : m.take key = m := by
  induction m with
  | nil => rfl
  | cons p m ih =>
    simp only [keys_cons, List.mem_cons, not_or] at h
    simp [take, Ne.symm h.1, ih h.2]

end Members

end MockBuilders
