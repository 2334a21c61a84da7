import MockBuilders.Proofs.Members.Alike
import MockBuilders.Proofs.Schema.Rules

/-!
What is kept beside a layer when an object is read: members of the object, and none by which it
would have been read as a layer of another kind.
Main statement: `Outline.admits_ofMembers`.
-/
namespace MockBuilders

namespace Members

variable {α : Type} {e f m : Members α}

/-- Members that are held by others, each once. -/
structure PartOf (e m : Members α) : Prop where
  distinct : e.Distinct
  get? : ∀ {key value}, e.get? key = some value → m.get? key = some value

theorem PartOf.refl (h : m.Distinct) : m.PartOf m := ⟨h, id⟩

theorem PartOf.trans (h : e.PartOf f) (h' : f.PartOf m) : e.PartOf m :=
  ⟨h.distinct, fun hget => h'.get? (h.get? hget)⟩

theorem PartOf.take (h : e.PartOf m) (key : String) : (e.take key).PartOf m := by
  refine ⟨h.distinct.take key, fun {name value} hget => ?_⟩
  rw [get?_take h.distinct] at hget
  split at hget
  · cases hget
  · exact h.get? hget

theorem PartOf.get?_eq_none (h : e.PartOf m) {key : String} (hm : m.get? key = none) :
    e.get? key = none := by
  cases hget : e.get? key with
  | none => rfl
  | some value => rw [h.get? hget] at hm; cases hm

theorem get?_take_self (h : m.Distinct) (key : String) : (m.take key).get? key = none := by
  rw [get?_take h, if_pos rfl]

theorem get?_take_of_ne (h : m.Distinct) {key name : String} (hne : key ≠ name) :
    (m.take key).get? name = m.get? name := by
  rw [get?_take h, if_neg hne]

end Members

namespace Outline

variable {e m : Members Json}

section PartOf
variable (h : e.PartOf m)
include h

theorem textAt_of_partOf {key text : String} (ht : textAt e key = some text) :
    textAt m key = some text := by
  obtain ⟨v, hv, ht⟩ := Option.bind_eq_some_iff.mp ht
  exact Option.bind_eq_some_iff.mpr ⟨v, h.get? hv, ht⟩

theorem textAt_none_of_partOf {key : String} (ht : textAt m key = none) :
    textAt e key = none := by
  cases he : textAt e key with
  | none => rfl
  | some text => rw [textAt_of_partOf h he] at ht; cases ht

theorem listAt_none_of_partOf {key : String} (hl : listAt m key = none) :
    listAt e key = none := by
  cases he : listAt e key with
  | none => rfl
  | some items =>
    obtain ⟨v, hv, hitems⟩ := Option.bind_eq_some_iff.mp he
    rw [listAt, h.get? hv, Option.bind_some, hitems] at hl
    cases hl

theorem hasType_false_of_partOf {keyword : String} (ht : hasType m keyword = false) :
    hasType e keyword = false := by
  unfold hasType at ht ⊢
  cases he : e.get? "type" with
  | none => rfl
  | some type => rwa [h.get? he] at ht

theorem has_false_of_partOf {key : String} (hm : m.has key = false) : e.has key = false := by
  rw [Members.has, Option.isSome_eq_false_iff, Option.isNone_iff_eq_none] at *
  exact h.get?_eq_none hm

theorem choice?_none_of_partOf (hm : choice? m = none) : choice? e = none := by
  obtain ⟨hany, hone⟩ := choice?_eq_none_iff.mp hm
  exact choice?_eq_none_iff.mpr ⟨listAt_none_of_partOf h hany, listAt_none_of_partOf h hone⟩

theorem additionalAt_none_of_partOf (hm : additionalAt m = none) : additionalAt e = none := by
  unfold additionalAt
  split
  · next members hget =>
    rw [additionalAt, h.get? hget] at hm
    cases hm
  · rfl

end PartOf

/-- No member tells a reference or an enumeration, or belongs to the items of an array. -/
structure BesideArray (m : Members Json) : Prop extends NoEnumeration m where
  operator : m.get? "logicalOperator" = none
  items : m.get? "items" = none

theorem NoEnumeration.of_partOf (hm : NoEnumeration m) (h : e.PartOf m) : NoEnumeration e where
  pointer := textAt_none_of_partOf h hm.pointer
  type := fun ht => hm.type (textAt_of_partOf h ht)
  values := listAt_none_of_partOf h hm.values

theorem NoItems.of_partOf (hm : NoItems m) (h : e.PartOf m) : NoItems e where
  toNoEnumeration := hm.toNoEnumeration.of_partOf h
  array := hasType_false_of_partOf h hm.array
  items := h.get?_eq_none hm.items

/-- Members each of which comes from some that tell no items tell none. -/
theorem NoItems.of_sources
    (h : ∀ key value, m.get? key = some value → ∃ e, NoItems e ∧ e.get? key = some value) :
    NoItems m where
  pointer := by
    cases hm : textAt m "$ref" with
    | none => rfl
    | some text =>
      obtain ⟨e, he, hget⟩ := h _ _ (get?_of_textAt hm)
      have hpointer := he.pointer
      rw [textAt, hget] at hpointer
      cases hpointer
  type := fun hm => by
    obtain ⟨e, he, hget⟩ := h _ _ (get?_of_textAt hm)
    have htype := he.type
    rw [textAt, hget] at htype
    exact htype rfl
  values := by
    cases hm : listAt m "enum" with
    | none => rfl
    | some values =>
      obtain ⟨e, he, hget⟩ := h _ _ (get?_of_listAt hm)
      have hvalues := he.values
      rw [listAt, hget] at hvalues
      cases hvalues
  array := by
    cases hm : m.get? "type" with
    | none => rw [hasType, hm]; rfl
    | some type =>
      obtain ⟨e, he, hget⟩ := h _ _ hm
      have harray := he.array
      rwa [hasType, hget, ← hm] at harray
  items := by
    cases hm : m.get? "items" with
    | none => rfl
    | some value =>
      obtain ⟨e, he, hget⟩ := h _ _ hm
      rw [he.items] at hget
      cases hget

theorem additionalAt_congr (h : e.get? "additionalProperties" = m.get? "additionalProperties") :
    additionalAt e = additionalAt m := by
  rw [additionalAt, additionalAt, h]

theorem choice?_congr (hany : e.get? "anyOf" = m.get? "anyOf")
    (hone : e.get? "oneOf" = m.get? "oneOf") : choice? e = choice? m := by
  rw [choice?, choice?, listAt, listAt, listAt, listAt, hany, hone]

theorem extensions_ofArray (m : Members Json) :
    (ofArray m).extensions = ((takeType m "array").take "logicalOperator").take "items" := by
  unfold ofArray
  dsimp only
  split
  · rfl
  · split <;> rfl
  · rfl

theorem extensions_ofItemList (m : Members Json) (items : List Json) :
    (ofItemList m items).extensions = (m.take "items").take "logicalOperator" := by
  unfold ofItemList
  dsimp only
  split <;> rfl

section Taken
variable (hm : m.Distinct)
include hm

theorem partOf_takeTypes : (takeTypes m).PartOf m := by
  unfold takeTypes
  split
  · exact .refl hm
  · exact (Members.PartOf.refl hm).take _

theorem partOf_takeType (keyword : String) : (takeType m keyword).PartOf m := by
  unfold takeType
  split
  · exact (Members.PartOf.refl hm).take _
  · exact .refl hm

theorem partOf_takeAdditional : (takeAdditional m).PartOf m := by
  unfold takeAdditional
  split
  · exact (Members.PartOf.refl hm).take _
  · exact .refl hm

theorem partOf_takeShape : (takeShape m).PartOf m := by
  have hrest := ((Members.PartOf.refl hm).take "properties").take "required"
  exact (partOf_takeAdditional hrest.distinct).trans hrest

theorem partOf_takeOwnObject : (takeOwnObject m).PartOf m := by
  unfold takeOwnObject
  split
  · exact (partOf_takeShape hm).take _
  · exact .refl hm

theorem partOf_takeOwnChoice : (takeOwnChoice m).PartOf m := by
  unfold takeOwnChoice
  split
  · exact (Members.PartOf.refl hm).take _
  · exact .refl hm

theorem partOf_leafTake (types : TypeTag) : (Leaf.take types m).2.PartOf m := by
  have hrest := (Members.PartOf.refl hm).take "default"
  unfold Leaf.take
  split
  · exact hrest.take _
  · next found _ hfound =>
    -- examples that are no list are put back under their name
    have htaken := hrest.take "examples"
    constructor
    · rw [Members.Distinct, Members.keys_append]
      refine List.Nodup.append htaken.distinct (List.nodup_singleton _) ?_
      exact List.disjoint_singleton.mpr (Members.not_mem_keys_take hrest.distinct _)
    · intro key value hget
      rw [Members.get?_append, Option.or_eq_some_iff] at hget
      rcases hget with hget | ⟨-, hget⟩
      · exact htaken.get? hget
      · simp only [Members.get?] at hget
        split at hget
        · next hkey => rw [← hkey, hfound, hget]
        · cases hget
  · exact hrest

theorem get?_leafTake (types : TypeTag) : (Leaf.take types m).2.get? "default" = none ∧
    listAt (Leaf.take types m).2 "examples" = none := by
  have hdistinct := hm.take "default"
  have hdefault := Members.get?_take_self hm "default"
  have hrest := ((Members.PartOf.refl hdistinct).take "examples").get?_eq_none hdefault
  have hexamples := Members.get?_take_self hdistinct "examples"
  unfold Leaf.take
  split
  · exact ⟨hrest, listAt_none_of_get? hexamples⟩
  · next found hlist hfound =>
    rw [listAt, Members.get?_append, Members.get?_append, hrest, hexamples]
    refine ⟨by simp [Members.get?], ?_⟩
    cases found with
    | array examples => exact (hlist examples rfl).elim
    | _ => simp [Members.get?, Json.asArray?]
  · next hnone =>
    refine ⟨hdefault, listAt_none_of_get? ?_⟩
    exact ((Members.PartOf.refl hm).take "default").get?_eq_none hnone

theorem get?_takeTypes_of_ne {key : String} (hkey : "type" ≠ key) :
    (takeTypes m).get? key = m.get? key := by
  unfold takeTypes
  split
  · rfl
  · exact Members.get?_take_of_ne hm hkey

theorem get?_takeType_of_ne (keyword : String) {key : String}
    (hkey : "type" ≠ key) : (takeType m keyword).get? key = m.get? key := by
  unfold takeType
  split
  · exact Members.get?_take_of_ne hm hkey
  · rfl

theorem get?_takeShape_of_ne {key : String} (hproperties : "properties" ≠ key)
    (hrequired : "required" ≠ key)
    (hadditional : key = "additionalProperties" → additionalAt m = none) :
    (takeShape m).get? key = m.get? key := by
  have hrest : ∀ key, "properties" ≠ key → "required" ≠ key →
      ((m.take "properties").take "required").get? key = m.get? key := fun key hne hne' =>
    (Members.get?_take_of_ne (hm.take _) hne').trans (Members.get?_take_of_ne hm hne)
  have htaken : additionalAt ((m.take "properties").take "required") = additionalAt m := by
    rw [additionalAt, additionalAt, hrest _ (by decide) (by decide)]
  unfold takeShape takeAdditional
  rw [htaken]
  split
  · next hsome =>
    rw [Members.get?_take_of_ne ((hm.take _).take _), hrest key hproperties hrequired]
    rintro rfl
    rw [hadditional rfl] at hsome
    cases hsome
  · exact hrest key hproperties hrequired

theorem get?_leafTake_of_ne (types : TypeTag) {key : String}
    (hdefault : "default" ≠ key) (hexamples : key = "examples" → listAt m "examples" = none) :
    (Leaf.take types m).2.get? key = m.get? key := by
  have hrest := Members.get?_take_of_ne hm hdefault
  unfold Leaf.take
  split
  · next hfound =>
    rw [Members.get?_take_of_ne (hm.take _), hrest]
    rintro rfl
    rw [listAt, hfound] at hexamples
    cases hexamples rfl
  · next found _ hfound =>
    rw [Members.get?_append, Members.get?_take (hm.take _), hrest]
    split
    · next h =>
      subst h
      rw [hfound]
      rfl
    · next h => simp [Members.get?, h]
  · exact hrest

theorem get?_takeShape_eq_none {key : String} (h : key = "properties" ∨ key = "required") :
    (takeShape m).get? key = none := by
  have hrest := (hm.take "properties").take "required"
  apply (partOf_takeAdditional hrest).get?_eq_none
  obtain rfl | rfl := h
  · exact ((Members.PartOf.refl (hm.take _)).take "required").get?_eq_none
      (Members.get?_take_self hm "properties")
  · exact Members.get?_take_self (hm.take _) "required"

theorem has_takeOwnObject : (takeOwnObject m).has "properties" = false := by
  unfold takeOwnObject
  split
  · have hrest := partOf_takeShape hm
    rw [Members.has, ((Members.PartOf.refl hrest.distinct).take "type").get?_eq_none
      (get?_takeShape_eq_none hm (.inl rfl))]
    rfl
  · next h => simpa using h

end Taken

end Outline

namespace Kind

variable {σ τ : Type}

open Outline in
/-- What may stand beside a layer that was read: nothing that is told by a kind of layer that is
tried before it, and nothing that the layer takes. -/
def Admits (e : Members Json) : Kind σ → Prop
  | reference _ => True
  | variants _ => textAt e "$ref" = none ∧ e.get? "type" = none
  | enumeration types _ =>
      textAt e "$ref" = none ∧ textAt e "type" ≠ some "enum" ∧ types.Nodup ∧
        (types = [] → typesAt e = [])
  | anyArray | arrayOf _ => BesideArray e
  | mixedArray _ => BesideArray e ∧ textAt e "type" ≠ some "tuple"
  | tuple _ => BesideArray e ∧ textAt e "type" = some "tuple"
  | union _ => NoItems e ∧ textAt e "type" ≠ some "tuple"
  | allOf _ | object _ => NoItems e
  | choice keyword _ => NoItems e ∧ (keyword = .oneOf → listAt e "anyOf" = none)
  | leaf l => NoItems e ∧ l.types.Nodup ∧ e.get? "default" = none ∧ listAt e "examples" = none

theorem admits_map (f : σ → τ) (e : Members Json) (k : Kind σ) :
    (k.map f).Admits e = k.Admits e := by
  cases k <;> rfl

end Kind

theorem TypeTag.nodup_ofJson? {v : Json} {types : TypeTag} (h : ofJson? v = some types) :
    types.Nodup := by
  unfold ofJson? at h
  split at h
  · obtain ⟨p, -, rfl⟩ := Option.map_eq_some_iff.mp h
    exact List.nodup_singleton p
  · obtain ⟨ps, -, rfl⟩ := Option.map_eq_some_iff.mp h
    exact nodup_firstSeen ps
  · cases h

namespace Outline

variable {m : Members Json}

theorem nodup_typesAt (m : Members Json) : (typesAt m).Nodup := by
  unfold typesAt
  cases h : (m.get? "type").bind TypeTag.ofJson? with
  | none => exact List.nodup_nil
  | some types =>
    obtain ⟨v, -, hv⟩ := Option.bind_eq_some_iff.mp h
    exact TypeTag.nodup_ofJson? hv

theorem admits_ofEnumeration (hm : m.Distinct) (hpointer : textAt m "$ref" = none)
    (htype : textAt m "type" ≠ some "enum") (values : List Json) :
    (ofEnumeration m values).kind.Admits (ofEnumeration m values).extensions := by
  have hrest : ((takeTypes m).take "enum").PartOf m := (partOf_takeTypes hm).take "enum"
  refine ⟨textAt_none_of_partOf hrest hpointer, fun h => htype (textAt_of_partOf hrest h),
    nodup_typesAt m, fun htypes => ?_⟩
  change typesAt ((takeTypes m).take "enum") = []
  rw [takeTypes, if_pos htypes, typesAt, Members.get?_take_of_ne hm (by decide)]
  exact htypes

theorem admits_ofArray (hm : m.Distinct) (h : NoEnumeration m) :
    (ofArray m).kind.Admits (ofArray m).extensions := by
  have hpart := partOf_takeType hm "array"
  have hoperator := hpart.distinct.take "logicalOperator"
  have hrest := (hpart.take "logicalOperator").take "items"
  have hbeside : BesideArray (((takeType m "array").take "logicalOperator").take "items") :=
    { toNoEnumeration := h.of_partOf hrest
      operator := ((Members.PartOf.refl hoperator).take "items").get?_eq_none
        (Members.get?_take_self hpart.distinct _)
      items := Members.get?_take_self hoperator _ }
  unfold ofArray
  dsimp only
  split
  · exact hbeside
  · split
    · next htuple =>
      have htake : takeType m "array" = m := if_neg (by rw [htuple]; decide)
      refine ⟨hbeside, ?_⟩
      rw [htake, textAt, Members.get?_take_of_ne (hm.take _) (by decide),
        Members.get?_take_of_ne hm (by decide)]
      exact htuple
    · next htuple => exact ⟨hbeside, fun h => htuple (textAt_of_partOf hrest h)⟩
  · exact hbeside

theorem admits_ofItemList (hm : m.Distinct) (h : NoEnumeration m)
    (harray : hasType m "array" = false) (htuple : textAt m "type" ≠ some "tuple")
    (items : List Json) : (ofItemList m items).kind.Admits (ofItemList m items).extensions := by
  have hrest := ((Members.PartOf.refl hm).take "items").take "logicalOperator"
  have hitems := ((Members.PartOf.refl (hm.take _)).take "logicalOperator").get?_eq_none
    (Members.get?_take_self hm "items")
  have hkept := h.of_partOf hrest
  have hkept : NoItems ((m.take "items").take "logicalOperator") :=
    ⟨hkept, hasType_false_of_partOf hrest harray, hitems⟩
  unfold ofItemList
  dsimp only
  split
  · exact hkept
  · exact ⟨hkept, fun h => htuple (textAt_of_partOf hrest h)⟩

theorem types_leafTake (types : TypeTag) (m : Members Json) :
    (Leaf.take types m).1.types = types := by
  unfold Leaf.take
  split <;> rfl

theorem ofLeaf_eq (m : Members Json) :
    ofLeaf m = ⟨.leaf (Leaf.take (typesAt m) (takeTypes m)).1,
      (Leaf.take (typesAt m) (takeTypes m)).2⟩ := rfl

theorem admits_ofLeaf (hm : m.Distinct) (h : NoItems m) :
    (ofLeaf m).kind.Admits (ofLeaf m).extensions := by
  have hpart := partOf_takeTypes hm
  have hrest := (partOf_leafTake hpart.distinct (typesAt m)).trans hpart
  rw [ofLeaf_eq, Kind.Admits, types_leafTake]
  exact ⟨h.of_partOf hrest, nodup_typesAt m, get?_leafTake hpart.distinct _⟩

theorem partOf_of_shapeRule (hm : m.Distinct) {o : Outline} (h : ShapeRule m o) :
    o.extensions.PartOf m := by
  have hself := Members.PartOf.refl hm
  cases h with
  | allOf _ =>
    have hown := partOf_takeOwnObject (hm.take "allOf")
    exact ((partOf_takeOwnChoice hown.distinct).trans hown).trans (hself.take "allOf")
  | own _ _ _ =>
    have hown := partOf_takeOwnObject hm
    exact (partOf_takeOwnChoice hown.distinct).trans hown
  | choice _ _ _ => exact hself.take _
  | object _ _ _ _ =>
    have htype := partOf_takeType hm "object"
    exact (partOf_takeShape htype.distinct).trans htype
  | leaf _ _ _ _ =>
    have htypes := partOf_takeTypes hm
    exact (partOf_leafTake htypes.distinct _).trans htypes

theorem admits_of_shapeRule (hm : m.Distinct) (hno : NoItems m) {o : Outline}
    (h : ShapeRule m o) : o.kind.Admits o.extensions := by
  have hpart := partOf_of_shapeRule hm h
  cases h with
  | allOf _ | own _ _ _ | object _ _ _ _ => exact hno.of_partOf hpart
  | choice _ hchoice _ =>
    refine ⟨hno.of_partOf hpart, ?_⟩
    rintro rfl
    refine listAt_none_of_partOf hpart ?_
    cases hany : listAt m "anyOf" with
    | none => rfl
    | some _ => simp [choice?, hany] at hchoice
  | leaf _ _ _ _ => exact admits_ofLeaf hm hno

/-- Reading an object keeps beside its layer what the layer admits. -/
theorem admits_ofMembers (hm : m.Distinct) {o : Outline} (h : ofMembers m = .ok o) :
    o.kind.Admits o.extensions := by
  have hself := Members.PartOf.refl hm
  cases rule_of_ofMembers h with
  | reference _ => trivial
  | variants hpointer _ =>
    refine ⟨textAt_none_of_partOf ((hself.take "type").take "items") hpointer, ?_⟩
    exact ((Members.PartOf.refl (hm.take _)).take "items").get?_eq_none
      (Members.get?_take_self hm "type")
  | enumeration hpointer htype _ => exact admits_ofEnumeration hm hpointer htype _
  | array hno _ => exact admits_ofArray hm hno
  | itemList hno _ hunion =>
    obtain ⟨-, -, harray, htuple⟩ := isRawUnion_eq_true_iff.mp hunion
    exact admits_ofItemList hm hno harray htuple _
  | shaped hno h => exact admits_of_shapeRule hm hno h

end Outline

end MockBuilders
