import MockBuilders.Proofs.Json.Reordering

/-!
Values of one sorted form, seen from outside: what is read off one of them is read off the other.
Main statements: `Json.alike_array_iff` and `Json.alike_object_iff`.
-/
namespace MockBuilders.Json

/-- Two values without repeated names that have one sorted form. -/
structure Alike (a b : Json) : Prop where
  left : a.WellFormed
  right : b.WellFormed
  sorted_eq : a.sorted = b.sorted

theorem Alike.refl {a : Json} (h : a.WellFormed) : Alike a a := ⟨h, h, rfl⟩

theorem Alike.symm {a b : Json} (h : Alike a b) : Alike b a :=
  ⟨h.right, h.left, h.sorted_eq.symm⟩

theorem Alike.trans {a b c : Json} (h : Alike a b) (h' : Alike b c) : Alike a c :=
  ⟨h.left, h'.right, h.sorted_eq.trans h'.sorted_eq⟩

theorem alike_iff_reordered {a b : Json} :
    Alike a b ↔ a.WellFormed ∧ b.WellFormed ∧ a.Reordered b := by
  constructor
  · intro h
    exact ⟨h.left, h.right, (sorted_eq_iff h.left h.right).mp h.sorted_eq⟩
  · rintro ⟨ha, hb, h⟩
    exact ⟨ha, hb, (sorted_eq_iff ha hb).mpr h⟩

theorem alike_array_iff {as bs : List Json} :
    Alike (array as) (array bs) ↔ List.Forall₂ Alike as bs := by
  constructor
  · intro h
    have has := wellFormed_array_iff.mp h.left
    have hbs := wellFormed_array_iff.mp h.right
    apply forall₂_imp_of_mem (sorted_array_eq_iff.mp h.sorted_eq)
    exact fun v hv w hw hvw => ⟨has v hv, hbs w hw, hvw⟩
  · intro h
    refine ⟨wellFormed_array_iff.mpr ?_, wellFormed_array_iff.mpr ?_, sorted_array_eq_iff.mpr ?_⟩
    · intro v hv
      obtain ⟨w, -, hvw⟩ := exists_right_of_mem h hv
      exact hvw.left
    · intro w hw
      obtain ⟨v, -, hvw⟩ := exists_left_of_mem h hw
      exact hvw.right
    · exact h.imp fun _ _ hvw => hvw.sorted_eq

theorem alike_object_iff {m n : Members Json} :
    Alike (object m) (object n) ↔ Members.Alike Alike m n := by
  constructor
  · intro h
    obtain ⟨hm, hms⟩ := wellFormed_object_iff.mp h.left
    obtain ⟨hn, hns⟩ := wellFormed_object_iff.mp h.right
    refine .mk hm hn fun key => ?_
    refine rel_imp_of_mem (((sorted_object_eq_iff hm hn).mp h.sorted_eq).get? key) ?_
    intro v hv w hw hvw
    exact ⟨hms _ (Members.mem_of_get? hv), hns _ (Members.mem_of_get? hw), hvw⟩
  · intro h
    have hm : (object m).WellFormed := wellFormed_object_iff.mpr ⟨h.left, fun p hp => by
      obtain ⟨q, -, -, hpq⟩ := h.exists_right_of_mem hp
      exact hpq.left⟩
    have hn : (object n).WellFormed := wellFormed_object_iff.mpr ⟨h.right, fun q hq => by
      obtain ⟨p, -, -, hpq⟩ := h.flip.exists_right_of_mem hq
      exact hpq.right⟩
    refine ⟨hm, hn, (sorted_object_eq_iff h.left h.right).mpr ?_⟩
    exact .mk h.left h.right fun key =>
      rel_imp_of_mem (h.get? key) fun _ _ _ _ hvw => hvw.sorted_eq

namespace Alike

variable {a b : Json}

theorem reordered (h : Alike a b) : a.Reordered b := (alike_iff_reordered.mp h).2.2

theorem asString? (h : Alike a b) : a.asString? = b.asString? := by
  cases h.reordered <;> rfl

theorem isObject (h : Alike a b) : a.isObject = b.isObject := by
  cases h.reordered <;> rfl

theorem asArray? (h : Alike a b) : Option.Rel (List.Forall₂ Alike) a.asArray? b.asArray? := by
  cases h.reordered with
  | array _ => exact .some (alike_array_iff.mp h)
  | null | bool _ | number _ | string _ | object _ _ => exact .none

end Alike

end MockBuilders.Json
