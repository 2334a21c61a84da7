import MockBuilders.Proofs.Schema.Kept
import MockBuilders.Proofs.Schema.KeyOrder

/-!
The layers of a schema, and the values of a document that are read as schemas: each layer of what
is read comes from one of them.
Main statement: `Schema.exists_reads_of_contains`.
-/
namespace MockBuilders

namespace Kind

variable {σ τ υ : Type} {R : σ → τ → Prop} {k : Kind σ} {l : Kind τ}

theorem Pointwise.map_eq {f : σ → υ} {g : τ → υ} (h : k.Pointwise R l)
    (hfg : ∀ c d, R c d → f c = g d) : k.map f = l.map g := by
  cases h with
  | object required hp ha =>
    simp only [map, ObjectShape.map, Members.mapValues]
    rw [map_eq_of_rel ha hfg, map_eq_of_forall₂ hp]
    rintro ⟨key, c⟩ ⟨_, d⟩ ⟨rfl, hcd⟩
    exact congrArg (key, ·) (hfg c d hcd)
  | arrayOf h => exact congrArg Kind.arrayOf (hfg _ _ h)
  | mixedArray h => exact congrArg Kind.mixedArray (map_eq_of_forall₂ h hfg)
  | tuple h => exact congrArg Kind.tuple (map_eq_of_forall₂ h hfg)
  | allOf h => exact congrArg Kind.allOf (map_eq_of_forall₂ h hfg)
  | choice keyword h => exact congrArg (Kind.choice keyword) (map_eq_of_forall₂ h hfg)
  | variants h => exact congrArg Kind.variants (map_eq_of_forall₂ h hfg)
  | union h => exact congrArg Kind.union (map_eq_of_forall₂ h hfg)
  | reference _ | anyArray | enumeration _ _ | leaf _ => rfl

/-- Layers that differ in their children only have the same form. -/
theorem Pointwise.form_eq (h : k.Pointwise R l) :
    (k.map fun _ => ()) = l.map fun _ => () :=
  h.map_eq fun _ _ _ => rfl

theorem Pointwise.admits_iff (h : k.Pointwise R l) (e : Members Json) :
    k.Admits e ↔ l.Admits e := by
  rw [← admits_map (fun _ => ()) e k, h.form_eq, admits_map]

end Kind

namespace Json

/-- A value that is read as a schema when another value is. -/
inductive Reads : Json → Json → Prop
  | self (v : Json) : Reads v v
  | part {m : Members Json} {o : Outline} {p : Part} {w : Json} : Outline.ofMembers m = .ok o →
      p ∈ o.kind.children → Reads p.value w → Reads (.object m) w

theorem wellFormed_part {m : Members Json} (hm : (object m).WellFormed) {o : Outline}
    (h : Outline.ofMembers m = .ok o) {p : Part} (hp : p ∈ o.kind.children) :
    p.value.WellFormed := by
  have hsame := Outline.agree_ofMembers (alike_object_iff.mp (.refl hm))
  obtain ⟨_, -, hvalue⟩ := (hsame.rel h h).kind.exists_right_of_mem hp
  exact hvalue.left

theorem Reads.wellFormed {v w : Json} (h : v.Reads w) (hv : v.WellFormed) : w.WellFormed := by
  induction h with
  | self _ => exact hv
  | part ho hp _ ih => exact ih (wellFormed_part hv ho hp)

theorem forall_reads_object_iff {P : Members Json → Prop} {m : Members Json} {o : Outline}
    (ho : Outline.ofMembers m = .ok o) : (∀ n, (object m).Reads (.object n) → P n) ↔
      P m ∧ ∀ p ∈ o.kind.children, ∀ n, p.value.Reads (.object n) → P n := by
  constructor
  · exact fun h => ⟨h m (.self _), fun p hp n hn => h n (.part ho hp hn)⟩
  · rintro ⟨hself, hparts⟩ n hn
    cases hn with
    | self _ => exact hself
    | part ho' hp hn =>
      obtain rfl := Except.ok.inj (ho.symm.trans ho')
      exact hparts _ hp n hn

end Json

namespace Schema

variable {s t : Schema}

/-- A schema is made of another and of others beside it. -/
inductive Contains : Schema → Schema → Prop
  | self (s : Schema) : Contains s s
  | child {s c t : Schema} : c ∈ s.children → Contains c t → Contains s t

theorem forall_contains_mk_iff {P : Schema → Prop} {kind : Kind Schema} {e : Members Json} :
    (∀ t, (mk kind e).Contains t → P t) ↔
      P (mk kind e) ∧ ∀ c ∈ kind.children, ∀ t, c.Contains t → P t := by
  constructor
  · exact fun h => ⟨h _ (.self _), fun c hc t ht => h t (.child hc ht)⟩
  · rintro ⟨hself, hchildren⟩ t ht
    cases ht with
    | self _ => exact hself
    | child hc ht => exact hchildren _ hc t ht

theorem read_object_eq_ok_iff {pointer : String} {m : Members Json} :
    read pointer (.object m) = .ok s ↔ ∃ o k, Outline.ofMembers m = .ok o ∧
      o.kind.Pointwise (fun p c => read (pointer ++ p.step) p.value = .ok c) k ∧
        s = mk k o.extensions := by
  rw [read_object]
  constructor
  · intro h
    split at h
    · cases h
    · next o ho =>
      obtain ⟨k, hk, h⟩ := bind_eq_ok_iff.mp h
      exact ⟨o, k, ho, Kind.traverse_eq_ok_iff.mp hk, (pure_eq_ok_iff.mp h).symm⟩
  · rintro ⟨o, k, ho, hk, rfl⟩
    simp only [ho]
    exact bind_eq_ok_iff.mpr ⟨k, Kind.traverse_eq_ok_iff.mpr hk, rfl⟩

theorem read_ofPointer (pointer target : String) :
    read pointer (.object [("$ref", .string target)]) = .ok (ofPointer target) :=
  read_object_eq_ok_iff.mpr ⟨_, _, rfl, .reference target, rfl⟩

theorem read_ofPrimitive (pointer : String) (p : Primitive) :
    read pointer (.object [("type", .string p.name)]) = .ok (ofPrimitive p) := by
  cases p <;> exact read_object_eq_ok_iff.mpr ⟨_, _, rfl, .leaf _, rfl⟩

/-- What is read: any value, none, or an object. -/
theorem read_cases {pointer : String} {v : Json} (h : read pointer v = .ok s) :
    s = any ∨ s = never ∨ ∃ m, v = .object m := by
  cases v with
  | object m => exact .inr (.inr ⟨m, rfl⟩)
  | bool b =>
    cases b with
    | true =>
      rw [read] at h
      exact .inl (Except.ok.inj h).symm
    | false =>
      rw [read] at h
      exact .inr (.inl (Except.ok.inj h).symm)
  | null | number _ | string _ | array _ =>
    simp [read] at h

/-- Each layer of what is read is read from a value that is read with it. -/
theorem exists_reads_of_contains {pointer : String} {v : Json} (h : read pointer v = .ok s)
    (ht : s.Contains t) : ∃ q w, v.Reads w ∧ read q w = .ok t := by
  induction ht generalizing v pointer with
  | self s => exact ⟨pointer, v, .self v, h⟩
  | @child s c t hc _ ih =>
    rcases read_cases h with rfl | rfl | ⟨m, rfl⟩
    · cases hc
    · cases hc
    · obtain ⟨o, k, ho, hk, rfl⟩ := read_object_eq_ok_iff.mp h
      obtain ⟨p, hp, hread⟩ := exists_left_of_mem hk.children hc
      obtain ⟨q, w, hw, ht⟩ := ih hread
      exact ⟨q, w, .part ho hp hw, ht⟩

/-- What is kept beside the layer is admitted there, each name once. -/
structure Tidy (s : Schema) : Prop where
  distinct : s.extensions.Distinct
  admits : s.kind.Admits s.extensions

theorem tidy_any : any.Tidy :=
  ⟨List.nodup_nil, Outline.admits_ofMembers (m := []) List.nodup_nil rfl⟩

theorem tidy_never : never.Tidy :=
  ⟨List.nodup_singleton _,
    Outline.admits_ofMembers (m := [("not", .object [])]) (List.nodup_singleton _) rfl⟩

/-- Each layer of what is read is tidy. -/
theorem tidy_of_read {pointer : String} {v : Json} (hv : v.WellFormed)
    (h : read pointer v = .ok s) (ht : s.Contains t) : t.Tidy := by
  obtain ⟨q, w, hw, ht⟩ := exists_reads_of_contains h ht
  rcases read_cases ht with rfl | rfl | ⟨m, rfl⟩
  · exact tidy_any
  · exact tidy_never
  · obtain ⟨o, k, ho, hk, rfl⟩ := read_object_eq_ok_iff.mp ht
    have hm := hw.wellFormed hv
    have hsame := (Outline.agree_ofMembers (Json.alike_object_iff.mp (.refl hm))).rel ho ho
    refine ⟨hsame.extensions.left, (hk.admits_iff _).mp ?_⟩
    exact Outline.admits_ofMembers (Json.wellFormed_object_iff.mp hm).1 ho

end Schema

end MockBuilders
