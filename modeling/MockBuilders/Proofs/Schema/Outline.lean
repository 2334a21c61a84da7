import MockBuilders.Proofs.Schema.Alike
import MockBuilders.Schema.Outline

/-!
The outline of an object does not depend on the order of its members, nor on that of any object
inside. Main statement: `Outline.agree_ofMembers`.
-/
namespace MockBuilders

namespace TypeTag

variable {v w : Json}

theorem ofJson?_eq (h : v.Alike w) : ofJson? v = ofJson? w := by
  cases h.reordered with
  | array _ =>
    have hmapM (items : List Json) :
        items.mapM (fun (v : Json) => v.asString?.bind Primitive.ofName?) =
          (items.map fun v => v.asString?.bind Primitive.ofName?).mapM id := by
      rw [List.mapM_map]
      rfl
    have hitems := Json.alike_array_iff.mp h
    have hname (v w : Json) (h : v.Alike w) :
        v.asString?.bind Primitive.ofName? = w.asString?.bind Primitive.ofName? := by
      rw [h.asString?]
    have hmap := map_eq_of_forall₂ hitems hname
    cases hitems with
    | nil => rfl
    | cons hvw hvs => simp only [ofJson?, hmapM, hmap]
  | null | bool _ | number _ | string _ | object _ _ => rfl

end TypeTag

/-- Parts whose values are alike. -/
def Part.Alike (p q : Part) : Prop := p.value.Alike q.value

namespace Outline

/-- Layers of alike parts, beside alike extensions. -/
structure Alike (o p : Outline) : Prop where
  kind : o.kind.Alike Part.Alike p.kind
  extensions : Members.Alike Json.Alike o.extensions p.extensions

theorem namesType_eq {v w : Json} (h : v.Alike w) (keyword : String) :
    namesType v keyword = namesType w keyword := by
  cases h.reordered with
  | array _ =>
    have hmap := map_eq_of_forall₂ (Json.alike_array_iff.mp h) fun _ _ h => h.asString?
    have hany (names : List Json) : names.any (fun name => name.asString? == some keyword) =
        (names.map Json.asString?).any (· == some keyword) := by
      rw [List.any_map]
      rfl
    simp only [namesType, hany, hmap]
  | null | bool _ | number _ | string _ | object _ _ => rfl

variable {m n : Members Json} (h : Members.Alike Json.Alike m n)
include h

theorem textAt_eq (keyword : String) : textAt m keyword = textAt n keyword :=
  bind_eq_of_rel (h.get? keyword) fun _ _ => Json.Alike.asString?

theorem rel_listAt (keyword : String) :
    Option.Rel (List.Forall₂ Json.Alike) (listAt m keyword) (listAt n keyword) :=
  rel_bind (h.get? keyword) fun _ _ => Json.Alike.asArray?

theorem hasType_eq (keyword : String) : hasType m keyword = hasType n keyword := by
  rw [hasType, hasType, map_eq_of_rel (h.get? "type") fun _ _ hvw => namesType_eq hvw keyword]

theorem typesAt_eq : typesAt m = typesAt n := by
  rw [typesAt, typesAt, bind_eq_of_rel (h.get? "type") fun _ _ => TypeTag.ofJson?_eq]

theorem isRawUnion_eq : isRawUnion m = isRawUnion n := by
  have hitems := isSome_eq_of_rel (rel_listAt h "items")
  simp only [isRawUnion, hitems, h.has_eq, textAt_eq h, hasType_eq h]

theorem rel_choice? : Option.Rel (fun c d => c.1 = d.1 ∧ List.Forall₂ Json.Alike c.2 d.2)
    (choice? m) (choice? n) := by
  have hany := rel_listAt h "anyOf"
  have hone := rel_listAt h "oneOf"
  unfold choice?
  generalize listAt m "anyOf" = a at hany ⊢
  generalize listAt n "anyOf" = b at hany ⊢
  cases hany with
  | none => exact rel_map hone fun _ _ h => ⟨rfl, h⟩
  | some h => exact .some ⟨rfl, h⟩

theorem rel_additionalAt : Option.Rel Part.Alike (additionalAt m) (additionalAt n) := by
  have hrel := h.get? "additionalProperties"
  unfold additionalAt
  generalize m.get? "additionalProperties" = a at hrel ⊢
  generalize n.get? "additionalProperties" = b at hrel ⊢
  cases hrel with
  | none => exact .none
  | some hvw =>
    cases hvw.reordered with
    | object _ _ => exact .some hvw
    | null | bool _ | number _ | string _ | array _ => exact .none

theorem alike_takeTypes : Members.Alike Json.Alike (takeTypes m) (takeTypes n) := by
  simp only [takeTypes, typesAt_eq h]
  split
  · exact h
  · exact h.take "type"

theorem alike_takeType (keyword : String) :
    Members.Alike Json.Alike (takeType m keyword) (takeType n keyword) := by
  simp only [takeType, textAt_eq h]
  split
  · exact h.take "type"
  · exact h

theorem alike_takeAdditional : Members.Alike Json.Alike (takeAdditional m) (takeAdditional n) := by
  simp only [takeAdditional, isSome_eq_of_rel (rel_additionalAt h)]
  split
  · exact h.take _
  · exact h

theorem alike_takeShape : Members.Alike Json.Alike (takeShape m) (takeShape n) :=
  alike_takeAdditional ((h.take "properties").take "required")

theorem alike_takeOwnObject :
    Members.Alike Json.Alike (takeOwnObject m) (takeOwnObject n) := by
  simp only [takeOwnObject, h.has_eq]
  split
  · exact (alike_takeShape h).take "type"
  · exact h

theorem alike_takeOwnChoice :
    Members.Alike Json.Alike (takeOwnChoice m) (takeOwnChoice n) := by
  have hrel := rel_choice? h
  unfold takeOwnChoice
  generalize choice? m = a at hrel ⊢
  generalize choice? n = b at hrel ⊢
  cases hrel with
  | none => exact h
  | @some c d hcd =>
    obtain ⟨keyword, as⟩ := c
    obtain ⟨_, bs⟩ := d
    obtain ⟨rfl, -⟩ := hcd
    exact h.take keyword.name

omit h in
theorem forall₂_parts (keyword : String) {as bs : List Json}
    (hitems : List.Forall₂ Json.Alike as bs) :
    List.Forall₂ Part.Alike (parts keyword as) (parts keyword bs) :=
  forall₂_mapIdx hitems fun _ _ _ hvw => hvw

theorem agree_shape : Agree (ObjectShape.Alike Part.Alike) (shape m) (shape n) := by
  have hrequired : ((listAt m "required").getD []).filterMap Json.asString? =
      ((listAt n "required").getD []).filterMap Json.asString? := by
    have hmap := map_eq_of_forall₂ (forall₂_getD_nil (rel_listAt h "required"))
      fun _ _ => Json.Alike.asString?
    have hfilter (items : List Json) : items.filterMap Json.asString? =
        (items.map Json.asString?).filterMap id := by
      rw [List.filterMap_map]
      rfl
    rw [hfilter, hfilter, hmap]
  have hadditional := rel_additionalAt h
  have hrel := h.get? "properties"
  unfold shape
  rw [hrequired]
  generalize m.get? "properties" = a at hrel ⊢
  generalize n.get? "properties" = b at hrel ⊢
  cases hrel with
  | none => exact .ok (ObjectShape.alike_iff.mpr ⟨Members.alike_nil, rfl, hadditional⟩)
  | some hvw =>
    cases hvw.reordered with
    | object _ _ =>
      have hproperties := Json.alike_object_iff.mp hvw
      refine .ok (ObjectShape.alike_iff.mpr ⟨?_, rfl, hadditional⟩)
      exact hproperties.mapEntries fun key v w hvw =>
        show Part.Alike ⟨"/properties/" ++ key, v⟩ ⟨"/properties/" ++ key, w⟩ from hvw
    | null | bool _ | number _ | string _ | array _ => exact .error _ _

theorem forall₂_ownObject : List.Forall₂ Part.Alike (ownObject m) (ownObject n) := by
  simp only [ownObject, h.has_eq]
  split
  · refine .cons (Json.alike_object_iff.mpr (h.filter fun key v w hvw => ?_)) .nil
    simp only [isOwn, hvw.isObject]
  · exact .nil

theorem forall₂_ownChoice : List.Forall₂ Part.Alike (ownChoice m) (ownChoice n) := by
  have hrel := rel_choice? h
  unfold ownChoice
  generalize choice? m = a at hrel ⊢
  generalize choice? n = b at hrel ⊢
  cases hrel with
  | none => exact .nil
  | @some c d hcd =>
    obtain ⟨keyword, as⟩ := c
    obtain ⟨_, bs⟩ := d
    obtain ⟨rfl, hitems⟩ := hcd
    refine .cons (Json.alike_object_iff.mpr (Members.alike_singleton _ ?_)) .nil
    exact Json.alike_array_iff.mpr hitems

theorem alike_leafTake (types : TypeTag) :
    (Leaf.take types m).1.Alike (Leaf.take types n).1 ∧
      Members.Alike Json.Alike (Leaf.take types m).2 (Leaf.take types n).2 := by
  have hdefault := h.get? "default"
  have hrest := h.take "default"
  have htaken := hrest.take "examples"
  have hrel := h.get? "examples"
  unfold Leaf.take
  generalize m.get? "examples" = a at hrel ⊢
  generalize n.get? "examples" = b at hrel ⊢
  cases hrel with
  | none => exact ⟨⟨rfl, hdefault, .none⟩, hrest⟩
  | some hvw =>
    cases hvw.reordered with
    | array _ => exact ⟨⟨rfl, hdefault, .some (Json.alike_array_iff.mp hvw)⟩, htaken⟩
    | null | bool _ | number _ | string _ | object _ _ =>
      refine ⟨⟨rfl, hdefault, .none⟩, htaken.append (Members.alike_singleton _ hvw) ?_⟩
      intro key hkey hmem
      rw [List.mem_singleton.mp hmem] at hkey
      exact Members.not_mem_keys_take hrest.left "examples" hkey

theorem alike_ofArray : Alike (ofArray m) (ofArray n) := by
  have hrest := ((alike_takeType h "array").take "logicalOperator").take "items"
  have hrel := h.get? "items"
  unfold ofArray
  rw [textAt_eq h]
  generalize m.get? "items" = a at hrel ⊢
  generalize n.get? "items" = b at hrel ⊢
  cases hrel with
  | none => exact ⟨.anyArray, hrest⟩
  | some hvw =>
    cases hvw.reordered with
    | array _ =>
      have hparts := forall₂_parts "items" (Json.alike_array_iff.mp hvw)
      dsimp only
      split
      · exact ⟨.tuple hparts, hrest⟩
      · exact ⟨.mixedArray hparts, hrest⟩
    | null | bool _ | number _ | string _ | object _ _ => exact ⟨.arrayOf hvw, hrest⟩

theorem alike_ofItemList {as bs : List Json} (hitems : List.Forall₂ Json.Alike as bs) :
    Alike (ofItemList m as) (ofItemList n bs) := by
  have hrest := (h.take "items").take "logicalOperator"
  have hparts := forall₂_parts "items" hitems
  unfold ofItemList
  rw [textAt_eq h]
  dsimp only
  split
  · exact ⟨.allOf hparts, hrest⟩
  · exact ⟨.union hparts, hrest⟩

theorem alike_ofVariants : Alike (ofVariants m) (ofVariants n) :=
  ⟨.variants (forall₂_parts "items" (forall₂_getD_nil (rel_listAt h "items"))),
    (h.take "type").take "items"⟩

theorem alike_ofEnumeration {vs ws : List Json} (hvalues : List.Forall₂ Json.Alike vs ws) :
    Alike (ofEnumeration m vs) (ofEnumeration n ws) := by
  rw [ofEnumeration, ofEnumeration, typesAt_eq h]
  exact ⟨.enumeration _ hvalues, (alike_takeTypes h).take "enum"⟩

theorem alike_ofAllOf {as bs : List Json} (hbranches : List.Forall₂ Json.Alike as bs) :
    Alike (ofAllOf m as) (ofAllOf n bs) := by
  have hown := List.rel_append (forall₂_ownObject h) (forall₂_parts "allOf" hbranches)
  refine ⟨.allOf (List.rel_append hown (forall₂_ownChoice h)), ?_⟩
  exact alike_takeOwnChoice (alike_takeOwnObject (h.take "allOf"))

theorem alike_ofOwn : Alike (ofOwn m) (ofOwn n) :=
  ⟨.allOf (List.rel_append (forall₂_ownObject h) (forall₂_ownChoice h)),
    alike_takeOwnChoice (alike_takeOwnObject h)⟩

theorem alike_ofChoice (keyword : ChoiceKeyword) {as bs : List Json}
    (hbranches : List.Forall₂ Json.Alike as bs) :
    Alike (ofChoice m keyword as) (ofChoice n keyword bs) :=
  ⟨.choice keyword (forall₂_parts keyword.name hbranches), h.take keyword.name⟩

theorem alike_ofLeaf : Alike (ofLeaf m) (ofLeaf n) := by
  obtain ⟨hleaf, hrest⟩ := alike_leafTake (alike_takeTypes h) (typesAt n)
  rw [ofLeaf, ofLeaf, typesAt_eq h]
  exact ⟨.leaf hleaf, hrest⟩

/-- Objects that are equal up to order have outlines that are, or are both refused. -/
theorem agree_ofMembers : Agree Alike (ofMembers m) (ofMembers n) := by
  have henum := rel_listAt h "enum"
  have hitems := rel_listAt h "items"
  have hallOf := rel_listAt h "allOf"
  have hchoice := rel_choice? h
  unfold ofMembers
  simp only [textAt_eq h, hasType_eq h, h.has_eq, isRawUnion_eq h]
  cases textAt n "$ref" with
  | some pointer => exact .ok ⟨.reference pointer, h.take "$ref"⟩
  | none =>
    dsimp only
    split
    · exact .ok (alike_ofVariants h)
    generalize listAt m "enum" = a at henum ⊢
    generalize listAt n "enum" = b at henum ⊢
    cases henum with
    | some hvalues => exact .ok (alike_ofEnumeration h hvalues)
    | none =>
      dsimp only
      split
      · exact .ok (alike_ofArray h)
      generalize listAt m "items" = a at hitems ⊢
      generalize listAt n "items" = b at hitems ⊢
      cases hitems with
      | some hitems => exact .ok (alike_ofItemList h hitems)
      | none =>
        generalize listAt m "allOf" = a at hallOf ⊢
        generalize listAt n "allOf" = b at hallOf ⊢
        cases hallOf with
        | some hbranches => exact .ok (alike_ofAllOf h hbranches)
        | none =>
          generalize choice? m = a at hchoice ⊢
          generalize choice? n = b at hchoice ⊢
          cases hchoice with
          | @some c d hcd =>
            obtain ⟨keyword, as⟩ := c
            obtain ⟨_, bs⟩ := d
            obtain ⟨rfl, hbranches⟩ := hcd
            dsimp only
            split
            · exact .ok (alike_ofOwn h)
            · exact .ok (alike_ofChoice h keyword hbranches)
          | none =>
            dsimp only
            split
            · exact (agree_shape h).map fun s t hst =>
                ⟨.object hst, alike_takeShape (alike_takeType h "object")⟩
            · exact .ok (alike_ofLeaf h)

end Outline

end MockBuilders
