import Mathlib.Data.List.Forall2

/-!
Lists, options and results that are related place by place.
-/
namespace MockBuilders

section Except
variable {ε α β : Type}

theorem bind_eq_ok_iff {x : Except ε α} {f : α → Except ε β} {b : β} :
    x >>= f = .ok b ↔ ∃ a, x = .ok a ∧ f a = .ok b := by
  cases x with
  | error e => simp [bind, Except.bind]
  | ok a => simp [bind, Except.bind]

theorem pure_eq_ok_iff {a b : α} : (pure a : Except ε α) = .ok b ↔ a = b := by
  simp [pure, Except.pure]

theorem map_eq_ok_iff {x : Except ε α} {f : α → β} {b : β} :
    x.map f = .ok b ↔ ∃ a, x = .ok a ∧ f a = b := by
  cases x <;> simp [Except.map]

theorem exists_map_eq_ok_iff {x : Except ε α} {f : α → β} :
    (∃ b, x.map f = .ok b) ↔ ∃ a, x = .ok a := by
  cases x <;> simp [Except.map]

theorem bind_eq_error_iff {x : Except ε α} {f : α → Except ε β} {e : ε} :
    x >>= f = .error e ↔ x = .error e ∨ ∃ a, x = .ok a ∧ f a = .error e := by
  cases x with
  | error e => simp [bind, Except.bind]
  | ok a => simp [bind, Except.bind]

theorem map_eq_error_iff {x : Except ε α} {f : α → β} {e : ε} :
    x.map f = .error e ↔ x = .error e := by
  cases x <;> simp [Except.map]

/-- What stops a list of actions stopped one of them. -/
theorem exists_of_mapM_eq_error {f : α → Except ε β} {xs : List α} {e : ε}
    (h : xs.mapM f = .error e) : ∃ x ∈ xs, f x = .error e := by
  induction xs with
  | nil => cases h
  | cons x xs ih =>
    rw [List.mapM_cons] at h
    rcases bind_eq_error_iff.mp h with h | ⟨_, -, h⟩
    · exact ⟨x, List.mem_cons_self, h⟩
    · rcases bind_eq_error_iff.mp h with h | ⟨_, -, h⟩
      · obtain ⟨y, hy, h⟩ := ih h
        exact ⟨y, List.mem_cons_of_mem _ hy, h⟩
      · cases h

theorem mapM_eq_ok_iff {f : α → Except ε β} {xs : List α} {ys : List β} :
    xs.mapM f = .ok ys ↔ List.Forall₂ (fun x y => f x = .ok y) xs ys := by
  induction xs generalizing ys with
  | nil => rw [List.mapM_nil, pure_eq_ok_iff, List.forall₂_nil_left_iff, eq_comm]
  | cons x xs ih =>
    simp only [List.mapM_cons, bind_eq_ok_iff, pure_eq_ok_iff, ih, List.forall₂_cons_left_iff]
    constructor
    · rintro ⟨y, hy, ys, hys, rfl⟩
      exact ⟨y, ys, hy, hys, rfl⟩
    · rintro ⟨y, ys, hy, hys, rfl⟩
      exact ⟨y, hy, ys, hys, rfl⟩

end Except

section Lists
variable {α β : Type} {R : α → β → Prop} {xs : List α} {ys : List β}

theorem exists_forall₂ (h : ∀ x ∈ xs, ∃ y, R x y) : ∃ ys, List.Forall₂ R xs ys := by
  induction xs with
  | nil => exact ⟨[], .nil⟩
  | cons x xs ih =>
    obtain ⟨y, hy⟩ := h x List.mem_cons_self
    obtain ⟨ys, hys⟩ := ih fun z hz => h z (List.mem_cons_of_mem _ hz)
    exact ⟨y :: ys, .cons hy hys⟩

theorem exists_right_of_mem (h : List.Forall₂ R xs ys) {x : α} (hx : x ∈ xs) :
    ∃ y ∈ ys, R x y := by
  induction h with
  | nil => cases hx
  | @cons a b _ _ hab _ ih =>
    rcases List.mem_cons.mp hx with rfl | hx
    · exact ⟨b, List.mem_cons_self, hab⟩
    · obtain ⟨y, hy, hr⟩ := ih hx
      exact ⟨y, List.mem_cons_of_mem _ hy, hr⟩

theorem exists_left_of_mem (h : List.Forall₂ R xs ys) {y : β} (hy : y ∈ ys) :
    ∃ x ∈ xs, R x y :=
  exists_right_of_mem h.flip hy

theorem forall₂_imp_of_mem {S : α → β → Prop} (h : List.Forall₂ R xs ys)
    (hRS : ∀ x ∈ xs, ∀ y ∈ ys, R x y → S x y) : List.Forall₂ S xs ys := by
  induction h with
  | nil => exact .nil
  | @cons x y xs ys hxy _ ih =>
    refine .cons (hRS x List.mem_cons_self y List.mem_cons_self hxy) (ih ?_)
    exact fun x hx y hy => hRS x (List.mem_cons_of_mem _ hx) y (List.mem_cons_of_mem _ hy)

/-- Lists whose places are related to those of related lists are related. -/
theorem forall₂_square {γ δ : Type} {P : α → γ → Prop} {Q : β → δ → Prop} {S : γ → δ → Prop}
    {us : List γ} {vs : List δ} (h : List.Forall₂ R xs ys) (hu : List.Forall₂ P xs us)
    (hv : List.Forall₂ Q ys vs)
    (hS : ∀ x ∈ xs, ∀ y ∈ ys, ∀ u v, R x y → P x u → Q y v → S u v) : List.Forall₂ S us vs := by
  induction h generalizing us vs with
  | nil =>
    cases hu
    cases hv
    exact .nil
  | @cons x y xs ys hxy _ ih =>
    cases hu with
    | cons hxu hu =>
      cases hv with
      | cons hyv hv =>
        refine .cons (hS x List.mem_cons_self y List.mem_cons_self _ _ hxy hxu hyv) ?_
        exact ih hu hv fun x hx y hy =>
          hS x (List.mem_cons_of_mem _ hx) y (List.mem_cons_of_mem _ hy)

theorem map_eq_of_forall₂ {γ : Type} {f : α → γ} {g : β → γ} (h : List.Forall₂ R xs ys)
    (hfg : ∀ x y, R x y → f x = g y) : xs.map f = ys.map g := by
  induction h with
  | nil => rfl
  | cons hxy _ ih => rw [List.map_cons, List.map_cons, hfg _ _ hxy, ih]

theorem forall₂_mapIdx {γ δ : Type} {S : γ → δ → Prop} {f : Nat → α → γ} {g : Nat → β → δ}
    (h : List.Forall₂ R xs ys) (hfg : ∀ i x y, R x y → S (f i x) (g i y)) :
    List.Forall₂ S (xs.mapIdx f) (ys.mapIdx g) := by
  induction h generalizing f g with
  | nil => exact .nil
  | cons hxy _ ih =>
    rw [List.mapIdx_cons, List.mapIdx_cons]
    exact .cons (hfg 0 _ _ hxy) (ih fun i => hfg (i + 1))

end Lists

section Options
variable {α β γ δ : Type} {R : α → β → Prop} {S : γ → δ → Prop} {a c : Option α} {b d : Option β}

theorem exists_of_rel_some {v : α} (h : Option.Rel R (some v) b) : ∃ w, b = some w ∧ R v w := by
  cases h with
  | some hvw => exact ⟨_, rfl, hvw⟩

theorem rel_flip (h : Option.Rel R a b) : Option.Rel (flip R) b a := by
  cases h with
  | none => exact .none
  | some hvw => exact .some hvw

theorem rel_imp_of_mem {S : α → β → Prop} (h : Option.Rel R a b)
    (hRS : ∀ v ∈ a, ∀ w ∈ b, R v w → S v w) : Option.Rel S a b := by
  cases h with
  | none => exact .none
  | some hvw => exact .some (hRS _ rfl _ rfl hvw)

theorem rel_square {P : α → γ → Prop} {Q : β → δ → Prop} {u : Option γ} {v : Option δ}
    (h : Option.Rel R a b) (hu : Option.Rel P a u) (hv : Option.Rel Q b v)
    (hS : ∀ x ∈ a, ∀ y ∈ b, ∀ u v, R x y → P x u → Q y v → S u v) : Option.Rel S u v := by
  cases h with
  | none =>
    cases hu
    cases hv
    exact .none
  | some hxy =>
    cases hu with
    | some hxu =>
      cases hv with
      | some hyv => exact .some (hS _ rfl _ rfl _ _ hxy hxu hyv)

theorem rel_or (hab : Option.Rel R a b) (hcd : Option.Rel R c d) :
    Option.Rel R (a.or c) (b.or d) := by
  cases hab with
  | none => rwa [Option.none_or, Option.none_or]
  | some hab => exact .some hab

theorem rel_filter {f : α → Bool} {g : β → Bool} (h : Option.Rel R a b)
    (hfg : ∀ v w, R v w → f v = g w) : Option.Rel R (a.filter f) (b.filter g) := by
  cases h with
  | none => exact .none
  | @some v w hvw =>
    rw [Option.filter_some, Option.filter_some, hfg v w hvw]
    split
    · exact .some hvw
    · exact .none

theorem rel_map {f : α → γ} {g : β → δ} (h : Option.Rel R a b)
    (hfg : ∀ v w, R v w → S (f v) (g w)) : Option.Rel S (a.map f) (b.map g) := by
  cases h with
  | none => exact .none
  | some hvw => exact .some (hfg _ _ hvw)

theorem rel_bind {f : α → Option γ} {g : β → Option δ} (h : Option.Rel R a b)
    (hfg : ∀ v w, R v w → Option.Rel S (f v) (g w)) : Option.Rel S (a.bind f) (b.bind g) := by
  cases h with
  | none => exact .none
  | some hvw => exact hfg _ _ hvw

theorem isSome_eq_of_rel (h : Option.Rel R a b) : a.isSome = b.isSome := by
  cases h <;> rfl

theorem bind_eq_of_rel {f : α → Option γ} {g : β → Option γ} (h : Option.Rel R a b)
    (hfg : ∀ v w, R v w → f v = g w) : a.bind f = b.bind g := by
  cases h with
  | none => rfl
  | some hvw => exact hfg _ _ hvw

theorem map_eq_of_rel {f : α → γ} {g : β → γ} (h : Option.Rel R a b)
    (hfg : ∀ v w, R v w → f v = g w) : a.map f = b.map g := by
  cases h with
  | none => rfl
  | some hvw => exact congrArg some (hfg _ _ hvw)

theorem rel_mapM {xs : List α} {ys : List β} {f : α → Option γ} {g : β → Option δ}
    (h : List.Forall₂ R xs ys) (hfg : ∀ v w, R v w → Option.Rel S (f v) (g w)) :
    Option.Rel (List.Forall₂ S) (xs.mapM f) (ys.mapM g) := by
  induction h with
  | nil => exact .some .nil
  | cons hxy _ ih =>
    rw [List.mapM_cons, List.mapM_cons]
    apply rel_bind (hfg _ _ hxy)
    intro u v huv
    exact rel_bind ih fun us vs huvs => .some (.cons huv huvs)

theorem mapM_eq_some_iff {f : α → Option β} {xs : List α} {ys : List β} :
    xs.mapM f = some ys ↔ List.Forall₂ (fun x y => f x = some y) xs ys := by
  induction xs generalizing ys with
  | nil => simp [eq_comm]
  | cons x xs ih =>
    simp only [List.mapM_cons, Option.bind_eq_bind, Option.bind_eq_some_iff, Option.pure_def,
      Option.some.injEq, ih, List.forall₂_cons_left_iff]
    constructor
    · rintro ⟨y, hy, ys, hys, rfl⟩
      exact ⟨y, ys, hy, hys, rfl⟩
    · rintro ⟨y, ys, hy, hys, rfl⟩
      exact ⟨y, hy, ys, hys, rfl⟩

theorem forall₂_getD_nil {a : Option (List α)} {b : Option (List β)}
    (h : Option.Rel (List.Forall₂ R) a b) : List.Forall₂ R (a.getD []) (b.getD []) := by
  cases h with
  | none => exact .nil
  | some h => exact h

end Options

section Results
variable {ε δ α β : Type} {R : α → β → Prop}

/-- Both end well, with related values, or both fail. -/
inductive Agree (R : α → β → Prop) : Except ε α → Except δ β → Prop
  | ok {a b} : R a b → Agree R (.ok a) (.ok b)
  | error (e : ε) (f : δ) : Agree R (.error e) (.error f)

variable {x : Except ε α} {y : Except δ β}

theorem Agree.exists_ok_iff (h : Agree R x y) : (∃ a, x = .ok a) ↔ ∃ b, y = .ok b := by
  cases h <;> simp

theorem Agree.rel {a : α} {b : β} (h : Agree R x y) (hx : x = .ok a) (hy : y = .ok b) :
    R a b := by
  subst hx hy
  cases h
  assumption

theorem Agree.map {γ ζ : Type} {S : γ → ζ → Prop} {f : α → γ} {g : β → ζ} (h : Agree R x y)
    (hfg : ∀ a b, R a b → S (f a) (g b)) : Agree S (x.map f) (y.map g) := by
  cases h with
  | ok hab => exact .ok (hfg _ _ hab)
  | error e d => exact .error e d

theorem Agree.mapError {ε' δ' : Type} (h : Agree R x y) (f : ε → ε') (g : δ → δ') :
    Agree R (x.mapError f) (y.mapError g) := by
  cases h with
  | ok hab => exact .ok hab
  | error e d => exact .error _ _

theorem Agree.bind {γ ζ : Type} {S : γ → ζ → Prop} {f : α → Except ε γ} {g : β → Except δ ζ}
    (h : Agree R x y) (hfg : ∀ a b, R a b → Agree S (f a) (g b)) :
    Agree S (x >>= f) (y >>= g) := by
  cases h with
  | ok hab => exact hfg _ _ hab
  | error e d => exact .error e d

theorem agree_of (hok : (∃ a, x = .ok a) ↔ ∃ b, y = .ok b)
    (hrel : ∀ a b, x = .ok a → y = .ok b → R a b) : Agree R x y := by
  cases x with
  | error e =>
    cases y with
    | error f => exact .error e f
    | ok b => simp at hok
  | ok a =>
    cases y with
    | error f => simp at hok
    | ok b => exact .ok (hrel a b rfl rfl)

end Results

end MockBuilders
