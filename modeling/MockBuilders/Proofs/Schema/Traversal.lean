import MockBuilders.Proofs.Relations
import MockBuilders.Schema.Kind

/-!
Layers whose children are related place by place, and what a traversal that may fail makes of a
layer. Main statements: `Kind.traverse_eq_ok_iff` and `Kind.traverse_eq_mapM`.
-/
namespace MockBuilders

section Morphism
variable {m n : Type → Type} [Monad m] [Monad n] (φ : ∀ α : Type, m α → n α)

/-- A translation of actions that keeps values and sequences. -/
structure IsMorphism : Prop where
  map_pure : ∀ {α : Type} (a : α), φ α (pure a) = pure a
  map_bind : ∀ {α β : Type} (x : m α) (f : α → m β), φ β (x >>= f) = φ α x >>= fun a => φ β (f a)

variable {φ}

theorem IsMorphism.mapM [LawfulMonad m] [LawfulMonad n] (h : IsMorphism φ) {α β : Type}
    (f : α → m β) (xs : List α) : φ _ (xs.mapM f) = xs.mapM fun x => φ _ (f x) := by
  induction xs with
  | nil => rw [List.mapM_nil, List.mapM_nil, h.map_pure]
  | cons x xs ih => simp only [List.mapM_cons, h.map_bind, h.map_pure, ih]

/-- Translating a traversal translates what is done at each child. -/
theorem IsMorphism.traverse [LawfulMonad m] [LawfulMonad n] (h : IsMorphism φ) {σ τ : Type}
    (f : σ → m τ) (k : Kind σ) : φ _ (k.traverse f) = k.traverse fun c => φ _ (f c) := by
  cases k with
  | object shape =>
    cases ha : shape.additional <;>
      simp only [Kind.traverse, ha, h.map_bind, h.map_pure, h.mapM]
  | _ => simp only [Kind.traverse, h.map_bind, h.map_pure, h.mapM]

end Morphism

namespace Kind

variable {σ τ : Type}

/-- Two layers that are equal but for their children, which are related place by place. -/
inductive Pointwise (R : σ → τ → Prop) : Kind σ → Kind τ → Prop
  | reference (pointer : String) : Pointwise R (.reference pointer) (.reference pointer)
  | object {ps qs} (required : List String) {a b} :
      List.Forall₂ (fun p q : String × _ => p.1 = q.1 ∧ R p.2 q.2) ps qs → Option.Rel R a b →
      Pointwise R (.object ⟨ps, required, a⟩) (.object ⟨qs, required, b⟩)
  | anyArray : Pointwise R .anyArray .anyArray
  | arrayOf {a b} : R a b → Pointwise R (.arrayOf a) (.arrayOf b)
  | mixedArray {as bs} : List.Forall₂ R as bs → Pointwise R (.mixedArray as) (.mixedArray bs)
  | tuple {as bs} : List.Forall₂ R as bs → Pointwise R (.tuple as) (.tuple bs)
  | allOf {as bs} : List.Forall₂ R as bs → Pointwise R (.allOf as) (.allOf bs)
  | choice (keyword : ChoiceKeyword) {as bs} : List.Forall₂ R as bs →
      Pointwise R (.choice keyword as) (.choice keyword bs)
  | variants {as bs} : List.Forall₂ R as bs → Pointwise R (.variants as) (.variants bs)
  | union {as bs} : List.Forall₂ R as bs → Pointwise R (.union as) (.union bs)
  | enumeration (types : TypeTag) (values : List Json) :
      Pointwise R (.enumeration types values) (.enumeration types values)
  | leaf (l : Leaf) : Pointwise R (.leaf l) (.leaf l)

variable {R : σ → τ → Prop} {k : Kind σ} {l : Kind τ}

theorem Pointwise.children (h : k.Pointwise R l) : List.Forall₂ R k.children l.children := by
  cases h with
  | object required hp ha =>
    refine List.rel_append (List.forall₂_map_left_iff.mpr (List.forall₂_map_right_iff.mpr
      (hp.imp fun _ _ h => h.2))) ?_
    cases ha with
    | none => exact .nil
    | some h => exact .cons h .nil
  | arrayOf h => exact .cons h .nil
  | mixedArray h | tuple h | allOf h | choice _ h | variants h | union h => exact h
  | reference _ | anyArray | enumeration _ _ | leaf _ => exact .nil

/-- A layer each of whose children is related to something is related to a layer. -/
theorem exists_pointwise (h : ∀ c ∈ k.children, ∃ d, R c d) : ∃ l, k.Pointwise R l := by
  cases k with
  | object shape =>
    obtain ⟨ps, required, a⟩ := shape
    have hp : ∃ qs, List.Forall₂ (fun p q : String × _ => p.1 = q.1 ∧ R p.2 q.2) ps qs := by
      apply exists_forall₂
      intro p hp
      obtain ⟨d, hd⟩ := h p.2 (List.mem_append_left _ (List.mem_map_of_mem hp))
      exact ⟨(p.1, d), rfl, hd⟩
    have ha : ∃ b, Option.Rel R a b := by
      cases a with
      | none => exact ⟨none, .none⟩
      | some c =>
        obtain ⟨d, hd⟩ := h c (List.mem_append_right _ (List.mem_singleton_self c))
        exact ⟨some d, .some hd⟩
    obtain ⟨qs, hqs⟩ := hp
    obtain ⟨b, hb⟩ := ha
    exact ⟨_, .object required hqs hb⟩
  | arrayOf item =>
    obtain ⟨d, hd⟩ := h item (List.mem_singleton_self item)
    exact ⟨_, .arrayOf hd⟩
  | mixedArray items => exact (exists_forall₂ h).imp' _ fun _ => .mixedArray
  | tuple items => exact (exists_forall₂ h).imp' _ fun _ => .tuple
  | allOf items => exact (exists_forall₂ h).imp' _ fun _ => .allOf
  | choice keyword items => exact (exists_forall₂ h).imp' _ fun _ => .choice keyword
  | variants items => exact (exists_forall₂ h).imp' _ fun _ => .variants
  | union items => exact (exists_forall₂ h).imp' _ fun _ => .union
  | reference pointer => exact ⟨_, .reference pointer⟩
  | anyArray => exact ⟨_, .anyArray⟩
  | enumeration types values => exact ⟨_, .enumeration types values⟩
  | leaf l => exact ⟨_, .leaf l⟩

theorem pointwise_map (f : σ → τ) (k : Kind σ) : k.Pointwise (fun c d => f c = d) (k.map f) := by
  cases k with
  | object shape =>
    refine .object shape.required ?_ ?_
    · exact List.forall₂_map_right_iff.mpr (List.forall₂_same.mpr fun _ _ => ⟨rfl, rfl⟩)
    · cases shape.additional with
      | none => exact .none
      | some c => exact .some rfl
  | reference _ | anyArray | enumeration _ _ | leaf _ => constructor
  | arrayOf _ => exact .arrayOf rfl
  | mixedArray _ | tuple _ | allOf _ | choice _ _ | variants _ | union _ =>
    constructor
    exact List.forall₂_map_right_iff.mpr (List.forall₂_same.mpr fun _ _ => rfl)

theorem Pointwise.flip (h : k.Pointwise R l) : l.Pointwise (flip R) k := by
  cases h with
  | object required hp ha =>
    exact .object required (hp.flip.imp fun _ _ h => ⟨h.1.symm, h.2⟩) (rel_flip ha)
  | arrayOf h => exact .arrayOf h
  | mixedArray h | tuple h | allOf h | choice _ h | variants h | union h =>
    constructor
    exact List.Forall₂.flip h
  | reference _ | anyArray | enumeration _ _ | leaf _ => constructor

/-- Layers that differ in their children from related ones are related, if the children are. -/
theorem Pointwise.square {σ' τ' : Type} {P : σ → σ' → Prop} {Q : τ → τ' → Prop}
    {S : σ' → τ' → Prop} {k' : Kind σ'} {l' : Kind τ'} (h : k.Pointwise R l)
    (hk : k.Pointwise P k') (hl : l.Pointwise Q l')
    (hS : ∀ c ∈ k.children, ∀ d ∈ l.children, ∀ c' d', R c d → P c c' → Q d d' → S c' d') :
    k'.Pointwise S l' := by
  cases h with
  | object required hp ha =>
    cases hk with
    | object _ hkp hka =>
      cases hl with
      | object _ hlp hla =>
        refine .object required (forall₂_square hp hkp hlp ?_) (rel_square ha hka hla ?_)
        · intro c hc d hd c' d' hcd hcc' hdd'
          refine ⟨hcc'.1.symm.trans (hcd.1.trans hdd'.1), hS c.2 ?_ d.2 ?_ _ _ hcd.2 hcc'.2 hdd'.2⟩
          · exact List.mem_append_left _ (List.mem_map_of_mem hc)
          · exact List.mem_append_left _ (List.mem_map_of_mem hd)
        · intro c hc d hd
          exact hS c (List.mem_append_right _ (Option.mem_toList.mpr hc)) d
            (List.mem_append_right _ (Option.mem_toList.mpr hd))
  | arrayOf h =>
    cases hk with
    | arrayOf hk =>
      cases hl with
      | arrayOf hl =>
        exact .arrayOf (hS _ (List.mem_singleton_self _) _ (List.mem_singleton_self _) _ _ h hk hl)
  | mixedArray h | tuple h | allOf h | choice _ h | variants h | union h =>
    cases hk
    cases hl
    constructor
    exact forall₂_square h (by assumption) (by assumption) hS
  | reference _ | anyArray | enumeration _ _ | leaf _ =>
    cases hk
    cases hl
    constructor

theorem pointwise_eq (k : Kind σ) : k.Pointwise Eq k := by
  have h := pointwise_map id k
  rwa [map_id] at h

theorem Pointwise.imp {S : σ → τ → Prop} (h : k.Pointwise R l) (hRS : ∀ c d, R c d → S c d) :
    k.Pointwise S l := by
  apply h.square (pointwise_eq k) (pointwise_eq l)
  rintro c - d - _ _ hcd rfl rfl
  exact hRS c d hcd

theorem Pointwise.trans {υ : Type} {S : τ → υ → Prop} {n : Kind υ} (h : k.Pointwise R l)
    (h' : l.Pointwise S n) : k.Pointwise (fun c d => ∃ x ∈ l.children, R c x ∧ S x d) n := by
  apply h.square (pointwise_eq k) h'
  rintro c - x hx _ d hcx rfl hxd
  exact ⟨x, hx, hcx, hxd⟩

theorem traverse_congr {m : Type → Type} [Monad m] [LawfulMonad m] {f g : σ → m τ}
    (h : ∀ c ∈ k.children, f c = g c) : k.traverse f = k.traverse g := by
  have hf := traverse_map f id k
  have hg := traverse_map g id k
  rw [map_congr h] at hf
  exact hf.symm.trans hg

/-- A traversal that does nothing at each child but name a value changes the children only. -/
theorem traverse_pure {m : Type → Type} [Monad m] [LawfulMonad m] (f : σ → τ) (k : Kind σ) :
    (k.traverse fun c => (pure (f c) : m τ)) = pure (k.map f) := by
  cases k with
  | object shape =>
    cases ha : shape.additional <;>
      simp [traverse, map, ObjectShape.map, Members.mapValues, ha, List.mapM_pure]
  | _ => simp [traverse, map, List.mapM_pure]

section WithChildren
variable {m : Type → Type} [Monad m] [LawfulMonad m]

/-- Values that are acted upon without their names go back to the names, whatever comes after the
values. -/
theorem mapM_values {υ : Type} (f : σ → m σ) (ps : Members σ) (g : (List σ → Members σ) → m υ) :
    (ps.map Prod.snd).mapM f >>=
        (fun cs => g fun rest => ps.zipWith (fun p c => (p.1, c)) (cs ++ rest)) =
      (ps.mapM fun p => do return (p.1, ← f p.2)) >>= fun qs => g fun _ => qs := by
  induction ps generalizing g with
  | nil => simp
  | cons p ps ih =>
    simp only [List.map_cons, List.mapM_cons, bind_assoc, pure_bind, List.cons_append,
      List.zipWith_cons_cons]
    refine congrArg _ (funext fun c => ?_)
    exact ih fun qs => g fun rest => (p.1, c) :: qs rest

/-- A traversal acts at the children one after the other and puts what comes of it in their
places. -/
theorem traverse_eq_mapM (f : σ → m σ) (k : Kind σ) :
    k.traverse f = (do return k.withChildren (← k.children.mapM f)) := by
  cases k with
  | object shape =>
    obtain ⟨ps, required, a⟩ := shape
    cases a with
    | none =>
      have h := mapM_values f ps fun qs => pure (object ⟨qs [], required, none⟩)
      simp only [List.append_nil] at h
      simp only [traverse, children, ObjectShape.children, withChildren, Option.toList_none,
        List.append_nil, pure_bind, Option.bind_none, h]
    | some c =>
      have h := mapM_values f ps fun qs => do
        let d ← f c
        return object ⟨qs [d], required, some d⟩
      simp only [traverse, children, ObjectShape.children, withChildren, Option.toList_some,
        List.mapM_append, List.mapM_cons, List.mapM_nil, bind_assoc, pure_bind,
        List.getLast?_concat, Option.bind_some, h]
  | arrayOf item => simp [traverse, children, withChildren]
  | mixedArray _ | tuple _ | allOf _ | choice _ _ | variants _ | union _ => rfl
  | reference _ | anyArray | enumeration _ _ | leaf _ => simp [traverse, children, withChildren]

end WithChildren

theorem mapM_properties_eq_ok_iff {ε : Type} {f : σ → Except ε τ} {ps : Members σ}
    {qs : Members τ} :
    (ps.mapM fun p => do return (p.1, ← f p.2)) = .ok qs ↔
      List.Forall₂ (fun p q => p.1 = q.1 ∧ f p.2 = .ok q.2) ps qs := by
  have one (p : String × σ) (q : String × τ) :
      (do return (p.1, ← f p.2) : Except ε _) = .ok q ↔ p.1 = q.1 ∧ f p.2 = .ok q.2 := by
    simp only [bind_eq_ok_iff, pure_eq_ok_iff, Prod.ext_iff]
    constructor
    · rintro ⟨d, hd, hk, rfl⟩
      exact ⟨hk, hd⟩
    · rintro ⟨hk, hd⟩
      exact ⟨q.2, hd, hk, rfl⟩
  rw [mapM_eq_ok_iff]
  simp only [one]

/-- A traversal ends well if it does at each child, and then changes nothing but the children. -/
theorem traverse_eq_ok_iff {ε : Type} {f : σ → Except ε τ} :
    k.traverse f = .ok l ↔ k.Pointwise (fun c d => f c = .ok d) l := by
  constructor
  · intro h
    cases k with
    | object shape =>
      obtain ⟨ps, required, a⟩ := shape
      cases a with
      | none =>
        simp only [traverse, bind_eq_ok_iff, pure_eq_ok_iff, mapM_properties_eq_ok_iff] at h
        obtain ⟨qs, hqs, _, rfl, rfl⟩ := h
        exact .object required hqs .none
      | some c =>
        simp only [traverse, bind_eq_ok_iff, pure_eq_ok_iff, mapM_properties_eq_ok_iff] at h
        obtain ⟨qs, hqs, d, hd, _, rfl, rfl⟩ := h
        exact .object required hqs (.some hd)
    | reference _ | anyArray | enumeration _ _ | leaf _ =>
      obtain rfl := pure_eq_ok_iff.mp h
      constructor
    | arrayOf _ =>
      obtain ⟨d, hd, h⟩ := bind_eq_ok_iff.mp h
      obtain rfl := pure_eq_ok_iff.mp h
      exact .arrayOf hd
    | mixedArray _ | tuple _ | allOf _ | choice _ _ | variants _ | union _ =>
      obtain ⟨ds, hds, h⟩ := bind_eq_ok_iff.mp h
      obtain rfl := pure_eq_ok_iff.mp h
      constructor
      exact mapM_eq_ok_iff.mp hds
  · intro h
    cases h with
    | object required hp ha =>
      cases ha with
      | none =>
        simp only [traverse, bind_eq_ok_iff, pure_eq_ok_iff, mapM_properties_eq_ok_iff]
        exact ⟨_, hp, none, rfl, rfl⟩
      | some h =>
        simp only [traverse, bind_eq_ok_iff, pure_eq_ok_iff, mapM_properties_eq_ok_iff]
        exact ⟨_, hp, _, h, _, rfl, rfl⟩
    | reference _ | anyArray | enumeration _ _ | leaf _ => rfl
    | arrayOf h => exact bind_eq_ok_iff.mpr ⟨_, h, rfl⟩
    | mixedArray h | tuple h | allOf h | choice _ h | variants h | union h =>
      exact bind_eq_ok_iff.mpr ⟨_, mapM_eq_ok_iff.mpr h, rfl⟩

theorem exists_traverse_eq_ok_iff {ε : Type} {f : σ → Except ε τ} :
    (∃ l, k.traverse f = .ok l) ↔ ∀ c ∈ k.children, ∃ d, f c = .ok d := by
  simp only [traverse_eq_ok_iff]
  constructor
  · rintro ⟨l, hpoint⟩ c hc
    obtain ⟨d, -, hd⟩ := exists_right_of_mem hpoint.children hc
    exact ⟨d, hd⟩
  · exact exists_pointwise

/-- What stops a traversal stopped it at a child. -/
theorem exists_of_traverse_eq_error {ε : Type} {f : σ → Except ε τ} {e : ε}
    (h : k.traverse f = .error e) : ∃ c ∈ k.children, f c = .error e := by
  cases k with
  | object shape =>
    obtain ⟨ps, required, a⟩ := shape
    rcases bind_eq_error_iff.mp h with h | ⟨_, -, h⟩
    · obtain ⟨p, hp, h⟩ := exists_of_mapM_eq_error h
      rcases bind_eq_error_iff.mp h with h | ⟨_, -, h⟩
      · exact ⟨p.2, List.mem_append_left _ (List.mem_map_of_mem hp), h⟩
      · cases h
    · cases a with
      | none => cases h
      | some c =>
        rcases bind_eq_error_iff.mp h with h | ⟨_, -, h⟩
        · exact ⟨c, List.mem_append_right _ (List.mem_singleton_self c), h⟩
        · cases h
  | arrayOf item =>
    rcases bind_eq_error_iff.mp h with h | ⟨_, -, h⟩
    · exact ⟨item, List.mem_singleton_self item, h⟩
    · cases h
  | mixedArray _ | tuple _ | allOf _ | choice _ _ | variants _ | union _ =>
    rcases bind_eq_error_iff.mp h with h | ⟨_, -, h⟩
    · exact exists_of_mapM_eq_error h
    · cases h
  | reference _ | anyArray | enumeration _ _ | leaf _ => cases h

end Kind

end MockBuilders
