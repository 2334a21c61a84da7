import MockBuilders.Json.Sorted
import MockBuilders.Proofs.Members.Alike

/-!
Values that are equal up to the order of the members of their objects, and sorting as the choice
of one of them. Main statement: `Json.sorted_eq_iff`.
-/
namespace MockBuilders

namespace Members

variable {α β : Type} {R : α → β → Prop} {m n : Members α}

theorem pairwise_insertSorted (p : String × α) {m : Members α}
    (h : List.Pairwise (fun p q : String × α => p.1 ≤ q.1) m) :
    List.Pairwise (fun p q : String × α => p.1 ≤ q.1) (insertSorted p m) := by
  induction m with
  | nil => exact List.pairwise_singleton _ _
  | cons q m ih =>
    obtain ⟨hq, hm⟩ := List.pairwise_cons.mp h
    rw [insertSorted]
    split
    · next hle =>
      refine List.pairwise_cons.mpr ⟨fun r hr => ?_, h⟩
      rcases List.mem_cons.mp hr with rfl | hr
      · exact hle
      · exact String.le_trans hle (hq r hr)
    · next hle =>
      refine List.pairwise_cons.mpr ⟨fun r hr => ?_, ih hm⟩
      rcases List.mem_cons.mp ((insertSorted_perm p m).mem_iff.mp hr) with rfl | hr
      · exact (String.le_total q.1 r.1).resolve_right hle
      · exact hq r hr

theorem pairwise_sorted (m : Members α) :
    List.Pairwise (fun p q : String × α => p.1 ≤ q.1) (sorted m) := by
  induction m with
  | nil => exact .nil
  | cons p m ih => exact pairwise_insertSorted p ih

/-- Sorting forgets the order of the members and nothing else. -/
theorem sorted_eq_sorted_iff (hm : m.Distinct) : sorted m = sorted n ↔ m.Perm n := by
  constructor
  · intro h
    exact (sorted_perm m).symm.trans (h ▸ sorted_perm n)
  · intro h
    have hperm : (sorted m).Perm (sorted n) := (sorted_perm m).trans (h.trans (sorted_perm n).symm)
    refine hperm.eq_of_pairwise ?_ (pairwise_sorted m) (pairwise_sorted n)
    intro p q hp hq hpq hqp
    have hname : p.1 = q.1 := String.le_antisymm hpq hqp
    have hp' := (get?_eq_some_iff hm).mpr ((sorted_perm m).mem_iff.mp hp)
    have hq' := (get?_eq_some_iff hm).mpr (h.mem_iff.mpr ((sorted_perm n).mem_iff.mp hq))
    rw [hname, hq'] at hp'
    exact Prod.ext hname (Option.some.inj hp').symm

theorem Distinct.mapValues (hm : m.Distinct) (f : α → β) : (m.mapValues f).Distinct := by
  rwa [Distinct, keys_mapValues]

theorem mapValues_perm_iff (hm : m.Distinct) (hn : n.Distinct) {f : α → β} :
    (m.mapValues f).Perm (n.mapValues f) ↔ Alike (fun v w => f v = f w) m n := by
  have hrel (o p : Option α) : Option.Rel (fun v w => f v = f w) o p ↔ o.map f = p.map f := by
    cases o <;> cases p <;> simp
  constructor
  · intro h
    refine ⟨hm, hn, fun key => (hrel _ _).mpr ?_⟩
    rw [← get?_mapValues, ← get?_mapValues]
    exact get?_of_perm (hm.mapValues f) h key
  · intro h
    apply perm_of_get?_eq (hm.mapValues f) (hn.mapValues f)
    intro key
    rw [get?_mapValues, get?_mapValues]
    exact (hrel _ _).mp (h.get? key)

end Members

namespace Json

theorem induct {P : Json → Prop} (null : P .null) (bool : ∀ b, P (.bool b))
    (number : ∀ n, P (.number n)) (string : ∀ s, P (.string s))
    (array : ∀ items, (∀ v ∈ items, P v) → P (.array items))
    (object : ∀ members, (∀ p ∈ members, P p.2) → P (.object members)) (value : Json) :
    P value := by
  induction h : value.size using Nat.strongRecOn generalizing value with
  | ind n ih =>
    cases value with
    | null => exact null
    | bool b => exact bool b
    | number n => exact number n
    | string s => exact string s
    | array items =>
      refine array items fun v hv => ih _ ?_ v rfl
      rw [← h, size]
      exact Nat.lt_succ_of_le (size_le_of_mem hv)
    | object members =>
      refine object members fun p hp => ih _ ?_ p.2 rfl
      rw [← h, size]
      exact Nat.lt_succ_of_le (size_le_of_mem_members hp)

/-- Equal up to the order of the members of objects, at any depth. -/
inductive Reordered : Json → Json → Prop
  | null : Reordered .null .null
  | bool (b : Bool) : Reordered (.bool b) (.bool b)
  | number (n : Number) : Reordered (.number n) (.number n)
  | string (s : String) : Reordered (.string s) (.string s)
  | array {as bs} : List.Forall₂ Reordered as bs → Reordered (.array as) (.array bs)
  | object {m l n : List (String × Json)} : Members.Matched Reordered m l → List.Perm l n →
      Reordered (.object m) (.object n)

theorem wellFormed_object_iff {m : Members Json} :
    (object m).WellFormed ↔ m.Distinct ∧ ∀ p ∈ m, p.2.WellFormed := by
  rw [WellFormed, wellFormedMembers_iff]

theorem wellFormed_array_iff {items : List Json} :
    (array items).WellFormed ↔ ∀ v ∈ items, v.WellFormed := by
  rw [WellFormed, wellFormedItems_iff]

theorem wellFormed_strings {α : Type} (f : α → String) (xs : List α) :
    (array (xs.map fun x => string (f x))).WellFormed := by
  rw [wellFormed_array_iff]
  intro v hv
  obtain ⟨x, -, rfl⟩ := List.mem_map.mp hv
  trivial

theorem sorted_array_eq_iff {as bs : List Json} :
    (array as).sorted = (array bs).sorted ↔
      List.Forall₂ (fun v w => v.sorted = w.sorted) as bs := by
  rw [sorted, sorted, sortedItems_eq, sortedItems_eq, array.injEq, ← List.forall₂_eq_eq_eq,
    List.forall₂_map_left_iff, List.forall₂_map_right_iff]

theorem sorted_object_eq_iff {m n : Members Json} (hm : m.Distinct) (hn : n.Distinct) :
    (object m).sorted = (object n).sorted ↔ Members.Alike (fun v w => v.sorted = w.sorted) m n := by
  rw [sorted, sorted, sortedMembers_eq, sortedMembers_eq, object.injEq,
    Members.sorted_eq_sorted_iff (hm.mapValues _), Members.mapValues_perm_iff hm hn]

/-- Two values have the same sorted form if and only if they are equal up to order. -/
theorem sorted_eq_iff {a b : Json} (ha : a.WellFormed) (hb : b.WellFormed) :
    a.sorted = b.sorted ↔ a.Reordered b := by
  induction a using induct generalizing b with
  | null | bool _ | number _ | string _ =>
    constructor
    · intro h
      cases b <;> simp only [sorted, reduceCtorEq] at h
      all_goals
        cases h
        constructor
    · intro h
      cases h
      rfl
  | array as ih =>
    have has := wellFormed_array_iff.mp ha
    constructor
    · intro h
      cases b with
      | array bs =>
        have hbs := wellFormed_array_iff.mp hb
        refine .array (forall₂_imp_of_mem (sorted_array_eq_iff.mp h) ?_)
        exact fun v hv w hw hvw => (ih v hv (has v hv) (hbs w hw)).mp hvw
      | _ => simp [sorted] at h
    · intro h
      cases h with
      | array h =>
        have hbs := wellFormed_array_iff.mp hb
        refine sorted_array_eq_iff.mpr (forall₂_imp_of_mem h ?_)
        exact fun v hv w hw hvw => (ih v hv (has v hv) (hbs w hw)).mpr hvw
  | object m ih =>
    obtain ⟨hm, hms⟩ := wellFormed_object_iff.mp ha
    constructor
    · intro h
      cases b with
      | object n =>
        obtain ⟨hn, hns⟩ := wellFormed_object_iff.mp hb
        rw [sorted_object_eq_iff hm hn, Members.alike_iff_reordered] at h
        obtain ⟨-, -, l, hml, hln⟩ := h
        refine .object (hml.imp fun p hp q hq hpq => ?_) hln
        exact (ih p hp (hms p hp) (hns q (hln.mem_iff.mp hq))).mp hpq
      | _ => simp [sorted] at h
    · intro h
      cases h with
      | object hml hln =>
        obtain ⟨hn, hns⟩ := wellFormed_object_iff.mp hb
        rw [sorted_object_eq_iff hm hn, Members.alike_iff_reordered]
        refine ⟨hm, hn, _, hml.imp fun p hp q hq hpq => ?_, hln⟩
        exact (ih p hp (hms p hp) (hns q (hln.mem_iff.mp hq))).mpr hpq

end Json

end MockBuilders
