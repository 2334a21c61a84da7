import MockBuilders.Proofs.Schema.Outline
import MockBuilders.Schema.Canonical
import MockBuilders.Schema.Reading
import MockBuilders.Schema.Written

/-!
The order of members passes through reading, canonical form and writing without a trace: what is
made of values and schemas that are equal up to order is equal up to order.
Main statements: `Schema.agree_read`, `Schema.Alike.canonical` and `Schema.Alike.toJson`.
-/
namespace MockBuilders

theorem Primitive.ofConstant?_eq {v w : Json} (h : v.Alike w) : ofConstant? v = ofConstant? w := by
  cases h.reordered <;> rfl

theorem ObjectShape.Alike.merge {σ τ : Type} {R : σ → τ → Prop} {a c : ObjectShape σ}
    {b d : ObjectShape τ} (h : a.Alike R b) (h' : c.Alike R d) :
    (a.merge c).Alike R (b.merge d) := by
  obtain ⟨hp, hr, ha⟩ := alike_iff.mp h
  obtain ⟨hp', hr', ha'⟩ := alike_iff.mp h'
  refine alike_iff.mpr ⟨hp.putAll hp', ?_, rel_or ha' ha⟩
  rw [ObjectShape.merge, ObjectShape.merge, hr, hr']

namespace Schema

theorem alike_any : Alike any any :=
  .mk (.leaf ⟨rfl, .none, .none⟩) Members.alike_nil

theorem alike_never : Alike never never := by
  refine .mk (.leaf ⟨rfl, .none, .none⟩) (Members.alike_singleton "not" ?_)
  exact Json.alike_object_iff.mpr Members.alike_nil

/-- Alike values are both read, as alike schemas, or both refused; where they stand decides over
the reason at most. -/
theorem agree_read {v w : Json} (h : v.Alike w) (p q : String) :
    Agree Alike (read p v) (read q w) := by
  induction hv : v.size using Nat.strongRecOn generalizing v w p q with
  | ind size ih =>
    cases h.reordered with
    | @object m _ n _ _ =>
      have houtline := Outline.agree_ofMembers (Json.alike_object_iff.mp h)
      rw [read_object, read_object]
      generalize hm : Outline.ofMembers m = o at houtline ⊢
      generalize Outline.ofMembers n = o' at houtline ⊢
      cases houtline with
      | error _ _ => exact .error _ _
      | ok ho =>
        have hkind := ho.kind.traverse fun c hc d _ hcd => by
          have hsize : c.value.size < size := by
            rw [← hv, Json.size]
            exact Nat.lt_succ_of_le (Outline.size_of_mem hm c hc)
          exact ih c.value.size hsize hcd (p ++ c.step) (q ++ d.step) rfl
        exact hkind.bind fun k l hkl => .ok (.mk hkl ho.extensions)
    | bool b =>
      cases b with
      | true =>
        simp only [read]
        exact .ok alike_any
      | false =>
        simp only [read]
        exact .ok alike_never
    | null | number _ | string _ | array _ =>
      simp only [read]
      exact .error _ _

section Canonical
variable {s t : Schema} {as bs : List Schema} {e f : Members Json}

theorem Alike.kind (h : Alike s t) : s.kind.Alike Alike t.kind := by
  cases h with
  | mk hkind _ => exact hkind

theorem Alike.extensions (h : Alike s t) : Members.Alike Json.Alike s.extensions t.extensions := by
  cases h with
  | mk _ hextensions => exact hextensions

theorem Alike.constant? (h : Alike s t) : Option.Rel Json.Alike s.constant? t.constant? :=
  h.extensions.get? "const"

theorem Alike.constantTypes (h : Alike s t) : s.constantTypes = t.constantTypes := by
  have hrel := h.constant?
  unfold Schema.constantTypes
  rw [h.kind.types_eq]
  generalize s.constant? = a at hrel ⊢
  generalize t.constant? = b at hrel ⊢
  cases hrel with
  | none => rfl
  | some hvw =>
    dsimp only
    rw [Primitive.ofConstant?_eq hvw]

theorem alike_flatten (h : List.Forall₂ Alike as bs) (hext : Members.Alike Json.Alike e f) :
    (flatten as e).Alike (flatten bs f) := by
  have htypes : as.map constantTypes = bs.map constantTypes :=
    map_eq_of_forall₂ h fun _ _ => Alike.constantTypes
  rw [flatten, flatten, List.flatMap_def, List.flatMap_def, htypes]
  refine .mk (.enumeration _ ?_) hext
  exact List.rel_filterMap (fun _ _ hst => Alike.constant? hst) h

theorem Alike.isTypedLeaf (h : Alike s t) : s.isTypedLeaf = t.isTypedLeaf := by
  have hkind := h.kind
  unfold Schema.isTypedLeaf
  generalize s.kind = k at hkind ⊢
  generalize t.kind = l at hkind ⊢
  cases hkind with
  | leaf hl =>
    dsimp only
    rw [hl.types]
  | _ => rfl

theorem alike_takenLeaf (types : TypeTag) (hext : Members.Alike Json.Alike e f) :
    (takenLeaf types e).Alike (takenLeaf types f) := by
  obtain ⟨hleaf, hrest⟩ := Outline.alike_leafTake hext types
  exact .mk (.leaf hleaf) hrest

theorem alike_collapse (h : List.Forall₂ Alike as bs) (hext : Members.Alike Json.Alike e f) :
    (collapse as e).Alike (collapse bs f) := by
  have hleaves : as.all isTypedLeaf = bs.all isTypedLeaf := by
    have hall (ss : List Schema) : ss.all isTypedLeaf = (ss.map isTypedLeaf).all id := by
      rw [List.all_map]
      rfl
    rw [hall, hall, map_eq_of_forall₂ h fun _ _ => Alike.isTypedLeaf]
  have htypes : as.map (fun b => b.kind.types) = bs.map (fun b => b.kind.types) :=
    map_eq_of_forall₂ h fun _ _ h => h.kind.types_eq
  rw [collapse, collapse, hleaves, List.flatMap_def, List.flatMap_def, htypes]
  split
  · exact alike_takenLeaf _ hext
  · exact .mk (.choice .anyOf h) hext

theorem alike_itemsOf (h : List.Forall₂ Alike as bs) :
    (itemsOf as).Alike Alike (itemsOf bs) := by
  cases h with
  | nil => exact .anyArray
  | cons hab h =>
    cases h with
    | nil => exact .arrayOf hab
    | cons hcd h => exact .arrayOf (alike_collapse (.cons hab (.cons hcd h)) Members.alike_nil)

theorem alike_mergedExtensions (h : List.Forall₂ Alike as bs)
    (hext : Members.Alike Json.Alike e f) :
    Members.Alike Json.Alike (mergedExtensions as e) (mergedExtensions bs f) := by
  have hfirst := List.rel_foldl (P := Members.Alike Json.Alike) (R := Alike)
    (fun m n hmn s t hst => hmn.orElse (Alike.extensions hst)) Members.alike_nil h
  exact Members.Alike.putAll hfirst hext

theorem alike_merge (h : List.Forall₂ Alike as bs) (hext : Members.Alike Json.Alike e f) :
    (merge as e).Alike (merge bs f) := by
  have hshapes := rel_mapM h fun s t (hst : Alike s t) => hst.kind.rel_object?
  have hmerged := alike_mergedExtensions h hext
  unfold merge
  change Option.Rel _ (as.mapM object?) (bs.mapM object?) at hshapes
  generalize as.mapM object? = a at hshapes ⊢
  generalize bs.mapM object? = b at hshapes ⊢
  cases hshapes with
  | none => exact .mk (.allOf h) hext
  | some hshapes =>
    cases hshapes with
    | nil => exact .mk (.allOf h) hext
    | cons hab hshapes =>
      have hempty : ObjectShape.Alike Alike .empty .empty :=
        ObjectShape.alike_iff.mpr ⟨Members.alike_nil, rfl, .none⟩
      have hfold := List.rel_foldl (P := ObjectShape.Alike Alike) (R := ObjectShape.Alike Alike)
        (fun _ _ hst _ _ huv => ObjectShape.Alike.merge hst huv) hempty (.cons hab hshapes)
      exact .mk (.object hfold) hmerged

theorem alike_canonicalLayer {k l : Kind Schema} (h : k.Alike Alike l)
    (hext : Members.Alike Json.Alike e f) :
    (canonicalLayer k e).Alike (canonicalLayer l f) := by
  cases h with
  | variants h => exact alike_flatten h hext
  | union h => exact alike_collapse h hext
  | mixedArray h => exact .mk (alike_itemsOf h) hext
  | allOf h => exact alike_merge h hext
  | reference pointer => exact .mk (.reference pointer) hext
  | object h => exact .mk (.object h) hext
  | anyArray => exact .mk .anyArray hext
  | arrayOf h => exact .mk (.arrayOf h) hext
  | tuple h => exact .mk (.tuple h) hext
  | choice keyword h => exact .mk (.choice keyword h) hext
  | enumeration types h => exact .mk (.enumeration types h) hext
  | leaf h => exact .mk (.leaf h) hext

/-- Alike schemas have alike canonical forms. -/
theorem Alike.canonical (h : Alike s t) : s.canonical.Alike t.canonical := by
  induction s using Schema.induct generalizing t with
  | h kind extensions ih =>
    cases h with
    | mk hkind hext =>
      rw [canonical_mk, canonical_mk]
      refine alike_canonicalLayer (hkind.map ?_) hext
      exact fun c hc d _ hcd => ih c hc hcd

end Canonical

end Schema

namespace Kind

theorem wellFormed_typeTag (types : TypeTag) : types.toJson.WellFormed := by
  unfold TypeTag.toJson
  split
  · trivial
  · exact Json.wellFormed_strings _ _

theorem matched_typeMember (types : TypeTag) :
    Members.Matched Json.Alike (typeMember types) (typeMember types) := by
  refine .of_mem fun p hp => .refl ?_
  rw [typeMember] at hp
  split at hp
  · cases hp
  · rw [List.mem_singleton.mp hp]
    exact wellFormed_typeTag types

theorem matched_requiredMember (required : List String) :
    Members.Matched Json.Alike (requiredMember required) (requiredMember required) := by
  refine .of_mem fun p hp => .refl ?_
  rw [requiredMember] at hp
  split at hp
  · cases hp
  · rw [List.mem_singleton.mp hp]
    exact Json.wellFormed_strings _ _

theorem matched_optionalMember (name : String) {a b : Option Json}
    (h : Option.Rel Json.Alike a b) :
    Members.Matched Json.Alike (optionalMember name a) (optionalMember name b) := by
  cases h with
  | none => exact .nil
  | some h => exact .cons name h .nil

variable {e f : Members Json}

theorem alike_keptType (hext : Members.Alike Json.Alike e f) (keyword : String) :
    (keptType e keyword).Alike (keptType f keyword) := by
  have hrel := hext.get? "type"
  unfold keptType
  generalize e.get? "type" = a at hrel ⊢
  generalize f.get? "type" = b at hrel ⊢
  cases hrel with
  | none => exact .refl trivial
  | some hvw => exact hvw

theorem sublist_typeMember (types : TypeTag) : (typeMember types).keys.Sublist ["type"] := by
  unfold typeMember
  split
  · exact List.nil_sublist _
  · exact .refl _

theorem sublist_requiredMember (required : List String) :
    (requiredMember required).keys.Sublist ["required"] := by
  unfold requiredMember
  split
  · exact List.nil_sublist _
  · exact .refl _

theorem sublist_optionalMember (name : String) (value : Option Json) :
    (optionalMember name value).keys.Sublist [name] := by
  cases value with
  | none => exact List.nil_sublist _
  | some v => exact .refl _

/-- The keywords that a layer is written with, or some of them. -/
def keywords {σ : Type} : Kind σ → List String
  | reference _ => ["$ref"]
  | object _ => ["type", "properties", "required", "additionalProperties"]
  | anyArray => ["type"]
  | arrayOf _ | mixedArray _ | tuple _ | variants _ => ["type", "items"]
  | allOf _ => ["allOf"]
  | choice keyword _ => [keyword.name]
  | union _ => ["items", "logicalOperator"]
  | enumeration _ _ => ["type", "enum"]
  | leaf _ => ["type", "default", "examples"]

theorem sublist_written (e : Members Json) (k : Kind Json) :
    (k.written e).keys.Sublist k.keywords := by
  cases k with
  | object shape =>
    rw [written, Members.keys_append, Members.keys_append]
    exact ((List.Sublist.refl ["type", "properties"]).append (sublist_requiredMember _)).append
      (sublist_optionalMember _ _)
  | enumeration types values =>
    rw [written, Members.keys_append]
    exact (sublist_typeMember types).append (.refl ["enum"])
  | leaf l =>
    rw [written, Members.keys_append, Members.keys_append]
    exact ((sublist_typeMember _).append (sublist_optionalMember _ _)).append
      (sublist_optionalMember _ _)
  | reference _ | anyArray | allOf _ | choice _ _ | arrayOf _ | mixedArray _ | tuple _
  | variants _ | union _ => exact .refl _

theorem keywords_map {σ τ : Type} (f : σ → τ) (k : Kind σ) : (k.map f).keywords = k.keywords := by
  cases k <;> rfl

theorem nodup_keywords {σ : Type} (k : Kind σ) : k.keywords.Nodup := by
  cases k <;> simp [keywords]

theorem distinct_written (e : Members Json) (k : Kind Json) : (k.written e).Distinct :=
  (sublist_written e k).nodup (nodup_keywords k)

theorem get?_written_eq_none (e : Members Json) {k : Kind Json} {keyword : String}
    (h : keyword ∉ k.keywords) : (k.written e).get? keyword = none :=
  Members.get?_eq_none_iff.mpr fun hkeys => h ((sublist_written e k).subset hkeys)

theorem matched_written {k l : Kind Json} (h : k.Alike Json.Alike l)
    (hext : Members.Alike Json.Alike e f) :
    Members.Matched Json.Alike (k.written e) (l.written f) := by
  have harray := alike_keptType hext "array"
  cases h with
  | reference pointer => exact .cons _ (.refl trivial) .nil
  | object h =>
    obtain ⟨hproperties, hrequired, hadditional⟩ := ObjectShape.alike_iff.mp h
    have hobject := alike_keptType hext "object"
    rw [written, written, hrequired]
    refine .append (.append ?_ (matched_requiredMember _)) (matched_optionalMember _ hadditional)
    exact .cons _ hobject (.cons _ (Json.alike_object_iff.mpr hproperties) .nil)
  | anyArray => exact .cons _ harray .nil
  | arrayOf h => exact .cons _ harray (.cons _ h .nil)
  | mixedArray h => exact .cons _ harray (.cons _ (Json.alike_array_iff.mpr h) .nil)
  | tuple h => exact .cons _ harray (.cons _ (Json.alike_array_iff.mpr h) .nil)
  | allOf h => exact .cons _ (Json.alike_array_iff.mpr h) .nil
  | choice keyword h => exact .cons _ (Json.alike_array_iff.mpr h) .nil
  | variants h =>
    exact .cons _ (.refl trivial) (.cons _ (Json.alike_array_iff.mpr h) .nil)
  | union h =>
    exact .cons _ (Json.alike_array_iff.mpr h) (.cons _ (.refl trivial) .nil)
  | enumeration types h =>
    exact (matched_typeMember types).append (.cons _ (Json.alike_array_iff.mpr h) .nil)
  | leaf h =>
    have hexamples := rel_map h.examples fun _ _ => Json.alike_array_iff.mpr
    rw [written, written, h.types]
    exact ((matched_typeMember _).append (matched_optionalMember _ h.default)).append
      (matched_optionalMember _ hexamples)

end Kind

/-- Alike schemas are written as values that are equal up to order. -/
theorem Schema.Alike.toJson {s t : Schema} (h : s.Alike t) : s.toJson.Alike t.toJson := by
  induction s using Schema.induct generalizing t with
  | h kind extensions ih =>
    cases h with
    | mk hkind hext =>
      rw [toJson_mk, toJson_mk]
      have hchildren := hkind.map fun c hc d _ hcd => ih c hc hcd
      have hwritten := (Kind.matched_written hchildren hext).alike (Kind.distinct_written _ _)
      exact Json.alike_object_iff.mpr (hwritten.orElse hext)

end MockBuilders
