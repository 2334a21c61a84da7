import MockBuilders.Proofs.Schema.Normal
import MockBuilders.Proofs.Schema.Rereading.Compositions

/-!
A written schema is read again as one that is written in the same way, if nothing that is kept
beside a layer would make another layer of it.
Main statement: `Schema.exists_read_toJson`.
-/
namespace MockBuilders

theorem Members.Alike.of_get?_eq {α β : Type} {R : α → β → Prop} {l m : Members α} {n : Members β}
    (h : l.Alike R n) (hm : m.Distinct) (hget : ∀ key, l.get? key = m.get? key) : m.Alike R n :=
  ⟨hm, h.right, fun key => hget key ▸ h.get? key⟩

theorem Kind.Pointwise.inert_iff {σ τ : Type} {R : σ → τ → Prop} {k : Kind σ} {l : Kind τ}
    (h : k.Pointwise R l) (e : Members Json) : k.Inert e ↔ l.Inert e := by
  rw [← inert_map (fun _ => ()) e k, h.form_eq, inert_map]

namespace Schema

variable {s t : Schema} {kind : Kind Schema} {e : Members Json}

/-- What is read of a written schema: the same when it is written, and normal if it was. -/
structure Rereads (s t : Schema) : Prop where
  written : s.toJson.Alike t.toJson
  object : s.object? = none → t.object? = none
  normal : s.Normal → t.Normal

theorem isObject_toJson (s : Schema) : s.toJson.isObject = true := by
  cases s
  rw [toJson_mk]
  rfl

/-- Children that are read again leave a normal layer normal. -/
theorem normalLayer_of_rereads {k : Kind Schema} {f : Members Json}
    (hk : (kind.told e).Pointwise Rereads k) (h : (mk kind e).NormalLayer) :
    (mk k f).NormalLayer := by
  obtain ⟨hraw, hallOf⟩ := h
  cases kind with
  | variants _ | union _ | mixedArray _ => cases hraw
  | allOf branches =>
    cases hk with
    | allOf hbranches =>
      refine ⟨rfl, ?_⟩
      rintro _ ⟨rfl⟩
      obtain rfl | ⟨b, hb, hnone⟩ := hallOf branches rfl
      · cases hbranches
        exact .inl rfl
      · obtain ⟨t, ht, hbt⟩ := exists_right_of_mem hbranches hb
        exact .inr ⟨t, ht, hbt.object hnone⟩
  | _ =>
    cases hk
    exact ⟨rfl, nofun⟩

theorem normal_of_rereads {k : Kind Schema} {f : Members Json}
    (hk : (kind.told e).Pointwise Rereads k) (h : (mk kind e).Normal) : (mk k f).Normal := by
  obtain ⟨hself, hchildren⟩ := normal_mk_iff.mp h
  refine normal_mk_iff.mpr ⟨normalLayer_of_rereads hk hself, fun t ht => ?_⟩
  obtain ⟨c, hc, hct⟩ := exists_left_of_mem hk.children ht
  rw [Kind.children_told] at hc
  exact hct.normal (hchildren c hc)

theorem object?_of_rereads {k : Kind Schema} {f : Members Json}
    (hk : (kind.told e).Pointwise Rereads k) (h : (mk kind e).object? = none) :
    (mk k f).object? = none := by
  cases kind with
  | object _ => cases h
  | _ =>
    cases hk
    rfl

/-- A layer that is found again with children that are written in the same way is, too. -/
theorem alike_toJson_of_retells {o : Outline} {k : Kind Schema} (hsame : o.Alike o)
    (htells : o.Retells (kind.map toJson) e)
    (hk : o.kind.Pointwise (fun p t => p.value.Alike t.toJson) k) :
    (mk kind e).toJson.Alike (mk k o.extensions).toJson := by
  have htold : ((kind.map toJson).told e).Alike Json.Alike (k.map toJson) := by
    rw [← htells.kind]
    apply hsame.kind.square (Kind.pointwise_map Part.value o.kind)
      (hk.trans (Kind.pointwise_map toJson k))
    rintro c - d - _ _ hcd rfl ⟨t, -, hdt, rfl⟩
    exact hcd.trans hdt
  have hmembers := ((Kind.matched_written htold hsame.extensions).alike
    (Kind.distinct_written _ _)).orElse hsame.extensions
  rw [toJson_mk, toJson_mk]
  exact Json.alike_object_iff.mpr
    (hmembers.of_get?_eq (Kind.distinct_members _ _) htells.get?)

/-- A written schema is read again, wherever it stands. -/
theorem exists_read_toJson (hs : s.toJson.WellFormed) (htidy : ∀ t, s.Contains t → t.Tidy)
    (hinert : ∀ t, s.Contains t → t.kind.Inert t.extensions) :
    ∃ t, (∀ pointer, read pointer s.toJson = .ok t) ∧ s.Rereads t := by
  induction s using Schema.induct with
  | h kind e ih =>
    obtain ⟨hself, htidy⟩ := forall_contains_mk_iff.mp htidy
    obtain ⟨hinertSelf, hinert⟩ := forall_contains_mk_iff.mp hinert
    obtain ⟨o, ho, htells⟩ : Outline.Returns (kind.map toJson) e := by
      refine Outline.returns ?_ ((Kind.admits_map _ _ _).mpr hself.admits)
        ((Kind.inert_map _ _ _).mpr hinertSelf)
      rw [Kind.children_map]
      exact List.forall_mem_map.mpr fun c _ => isObject_toJson c
    rw [toJson_mk] at hs
    -- the parts of the outline are the written children, in the same places
    have hwritten := Kind.pointwise_map toJson (kind.told e)
    rw [← Kind.told_map, ← htells.kind] at hwritten
    have hparts := (hwritten.trans (Kind.pointwise_map Part.value o.kind).flip).flip
    have hreread : ∃ k, (kind.told e).Pointwise
        (fun c t => (∀ pointer, read pointer c.toJson = .ok t) ∧ c.Rereads t) k := by
      refine Kind.exists_pointwise fun c hc => ?_
      obtain ⟨p, hp, v, -, hvc, hvp⟩ := exists_left_of_mem hparts.children hc
      rw [Kind.children_told] at hc
      have hwellFormed := Json.wellFormed_part hs ho hp
      rw [show p.value = c.toJson from hvp.trans hvc.symm] at hwellFormed
      exact ih c hc hwellFormed (htidy c hc) (hinert c hc)
    obtain ⟨k, hk⟩ := hreread
    refine ⟨mk k o.extensions, fun pointer => ?_, ?_, ?_, ?_⟩
    · rw [toJson_mk]
      refine read_object_eq_ok_iff.mpr ⟨o, k, ho, (hparts.trans hk).imp ?_, rfl⟩
      rintro p t ⟨c, -, ⟨v, -, hvc, hvp⟩, hread, -⟩
      rw [show p.value = c.toJson from hvp.trans hvc.symm]
      exact hread _
    · refine alike_toJson_of_retells ?_ htells ((hparts.trans hk).imp ?_)
      · exact (Outline.agree_ofMembers (Json.alike_object_iff.mp (.refl hs))).rel ho ho
      · rintro p t ⟨c, -, ⟨v, -, hvc, hvp⟩, -, hct⟩
        rw [show p.value = c.toJson from hvp.trans hvc.symm]
        exact hct.written
    · exact object?_of_rereads (hk.imp fun c t h => h.2)
    · exact normal_of_rereads (hk.imp fun c t h => h.2)

end Schema

end MockBuilders
