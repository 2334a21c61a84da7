import MockBuilders.Proofs.FirstSeen
import MockBuilders.Proofs.Schema.Rereading.Basic

/-!
Layers that hold no schemas, and records of values, are found again in what they are written as.
Main statements: `Outline.returns_enumeration` and `Outline.returns_leaf`.
-/
namespace MockBuilders

theorem Primitive.name_ne {text : String} (p : Primitive) (h : ofName? text = none) :
    p.name ≠ text := by
  rintro rfl
  rw [ofName?_name] at h
  cases h

namespace TypeTag

/-- Types that are each named once are read from the keyword that they are written as. -/
theorem ofJson?_toJson {types : TypeTag} (hne : types ≠ []) (h : types.Nodup) :
    ofJson? types.toJson = some types := by
  have hread : ∀ ps : TypeTag, (ps.map fun p => Json.string p.name).mapM
      (fun (v : Json) => v.asString?.bind Primitive.ofName?) = some ps := by
    intro ps
    rw [mapM_eq_some_iff, List.forall₂_map_left_iff]
    exact List.forall₂_same.mpr fun p _ => Primitive.ofName?_name p
  match types with
  | [] => exact (hne rfl).elim
  | [p] => simp [toJson, ofJson?]
  | p :: q :: rest =>
    rw [toJson.eq_2 _ (by simp)]
    change Option.map firstSeen (((p :: q :: rest).map fun p => Json.string p.name).mapM
      (fun (v : Json) => v.asString?.bind Primitive.ofName?)) = _
    rw [hread, Option.map_some, firstSeen_of_nodup h]

theorem asString?_toJson_ne (types : TypeTag) {text : String}
    (h : Primitive.ofName? text = none) : types.toJson.asString? ≠ some text := by
  unfold toJson
  split
  · next p => exact fun he => p.name_ne h (Option.some.inj he)
  · exact nofun

theorem namesType_toJson (types : TypeTag) {keyword : String}
    (h : Primitive.ofName? keyword = none) : Outline.namesType types.toJson keyword = false := by
  have hname : ∀ p : Primitive, p.name ≠ keyword := fun p => p.name_ne h
  unfold toJson
  split
  · simp [Outline.namesType, hname]
  · simp [Outline.namesType, Json.asString?, hname]

end TypeTag

namespace Outline

variable {k : Kind Json} {e m : Members Json}

theorem returns_reference (pointer : String) (e : Members Json) :
    Returns (.reference pointer) e := by
  have hm := Kind.distinct_members (.reference pointer) e
  have hpointer : ((Kind.reference pointer).members e).get? "$ref" = some (.string pointer) := by
    rw [Kind.get?_members]
    rfl
  refine ⟨_, ofMembers_reference (by rw [textAt, hpointer]; rfl), rfl, ?_⟩
  apply Members.get?_orElse_of
  · exact List.forall_mem_singleton.mpr hpointer
  · intro key hkey
    exact Members.get?_take_of_ne hm (Ne.symm (by simpa [Kind.told, Kind.written] using hkey))

theorem returns_variants (records : List Json) (hadmits : (Kind.variants records).Admits e) :
    Returns (.variants records) e := by
  have hm := Kind.distinct_members (.variants records) e
  have htype : ((Kind.variants records).members e).get? "type" = some (.string "enum") := by
    rw [Kind.get?_members]
    rfl
  have hitems : ((Kind.variants records).members e).get? "items" = some (.array records) := by
    rw [Kind.get?_members]
    rfl
  have hpointer : textAt ((Kind.variants records).members e) "$ref" = none :=
    (textAt_kept (by simp [Kind.keywords])).trans hadmits.1
  refine ⟨_, ofMembers_variants hpointer (by rw [textAt, htype]; rfl), ?_, ?_⟩
  · rw [ofVariants, listAt, hitems]
    exact congrArg Kind.variants (map_value_parts _ _)
  · apply Members.get?_orElse_of
    · exact List.forall_mem_cons.mpr ⟨htype, List.forall_mem_singleton.mpr hitems⟩
    · intro key hkey
      simp only [Kind.told, Kind.written, Members.keys_cons, Members.keys_nil, List.mem_cons,
        List.not_mem_nil, or_false, not_or] at hkey
      exact (Members.get?_take_of_ne (hm.take _) (Ne.symm hkey.2)).trans
        (Members.get?_take_of_ne hm (Ne.symm hkey.1))

theorem typesAt_eq_of_get? {types : TypeTag} (hnodup : types.Nodup)
    (htype : m.get? "type" = if types = [] then e.get? "type" else some types.toJson)
    (he : types = [] → typesAt e = []) : typesAt m = types := by
  rw [typesAt, htype]
  split
  · next hempty => rw [hempty]; exact he hempty
  · next hne => rw [Option.bind_some, TypeTag.ofJson?_toJson hne hnodup]; rfl

theorem get?_takeTypes (hm : m.Distinct) {types : TypeTag} (htypes : typesAt m = types)
    {key : String} (hkey : key ∉ (Kind.typeMember types).keys) :
    (takeTypes m).get? key = m.get? key := by
  unfold takeTypes
  rw [htypes]
  split
  · rfl
  · next hne =>
    rw [Kind.typeMember, if_neg hne] at hkey
    exact Members.get?_take_of_ne hm (Ne.symm (by simpa using hkey))

theorem get?_typeMember (types : TypeTag) {w : Members Json} (hw : w.get? "type" = none) :
    (Members.get? (Kind.typeMember types ++ w) "type").or (e.get? "type") =
      if types = [] then e.get? "type" else some types.toJson := by
  rw [Members.get?_append, hw, Option.or_none]
  unfold Kind.typeMember
  split <;> rfl

theorem get?_of_mem_typeMember {types : TypeTag}
    (htype : m.get? "type" = if types = [] then e.get? "type" else some types.toJson)
    {p : String × Json} (hp : p ∈ Kind.typeMember types) : m.get? p.1 = some p.2 := by
  unfold Kind.typeMember at hp
  split at hp
  · cases hp
  · next hne =>
    rw [List.mem_singleton.mp hp, htype, if_neg hne]

theorem returns_enumeration (types : TypeTag) (values : List Json)
    (hadmits : (.enumeration types values : Kind Json).Admits e) :
    Returns (.enumeration types values) e := by
  obtain ⟨hpointer, henum, hnodup, hempty⟩ := hadmits
  have hm := Kind.distinct_members (.enumeration types values) e
  have hvalues : ((Kind.enumeration types values).members e).get? "enum" =
      some (.array values) := by
    rw [Kind.get?_members, Kind.written, Members.get?_append]
    unfold Kind.typeMember
    split <;> rfl
  have htype : ((Kind.enumeration types values).members e).get? "type" =
      if types = [] then e.get? "type" else some types.toJson := by
    rw [Kind.get?_members]
    exact get?_typeMember types rfl
  have hread : ofMembers ((Kind.enumeration types values).members e) =
      .ok (ofEnumeration ((Kind.enumeration types values).members e) values) := by
    apply ofMembers_enumeration
    · exact (textAt_kept (by simp [Kind.keywords])).trans hpointer
    · rw [textAt, htype]
      split
      · exact henum
      · exact types.asString?_toJson_ne rfl
    · rw [listAt, hvalues]
      rfl
  have htypes := typesAt_eq_of_get? hnodup htype hempty
  refine ⟨_, hread, ?_, ?_⟩
  · rw [ofEnumeration, htypes]
    rfl
  · apply Members.get?_orElse_of
    · intro p hp
      rcases List.mem_append.mp hp with hp | hp
      · exact get?_of_mem_typeMember htype hp
      · rw [List.mem_singleton.mp hp, hvalues]
    · intro key hkey
      change key ∉ Members.keys (Kind.typeMember types ++ [("enum", Json.array values)]) at hkey
      rw [Members.keys_append, List.mem_append, not_or] at hkey
      have hne : "enum" ≠ key := Ne.symm (by simpa using hkey.2)
      exact (Members.get?_take_of_ne (partOf_takeTypes hm).distinct hne).trans
        (get?_takeTypes hm htypes hkey.1)

theorem fst_leafTake (types : TypeTag) (m : Members Json) :
    (Leaf.take types m).1 = ⟨types, m.get? "default", listAt m "examples"⟩ := by
  unfold Leaf.take
  split
  · next hfound => rw [listAt, hfound]; rfl
  · next found hlist hfound =>
    rw [listAt, hfound]
    cases found with
    | array examples => exact (hlist examples rfl).elim
    | _ => rfl
  · next hfound => rw [listAt, hfound]; rfl

/-- A leaf that writes its types as it found them is written as it was read. -/
theorem get?_writtenLeaf (hm : m.Distinct)
    (htype : ∀ p ∈ Kind.typeMember (typesAt m), m.get? p.1 = some p.2) (key : String) :
    ((Kind.leaf (Leaf.take (typesAt m) (takeTypes m)).1).members
      (Leaf.take (typesAt m) (takeTypes m)).2).get? key = m.get? key := by
  have hdistinct := (partOf_takeTypes hm).distinct
  have hnothing := (partOf_leafTake hdistinct (typesAt m)).trans (partOf_takeTypes hm)
  have htaken : ∀ key, key ∉ (Kind.typeMember (typesAt m)).keys →
      (takeTypes m).get? key = m.get? key := fun key => get?_takeTypes hm rfl
  have hdefault := htaken "default" (Members.get?_eq_none_iff.mp
    (Kind.get?_typeMember_of_ne _ (by decide)))
  have hexamples := htaken "examples" (Members.get?_eq_none_iff.mp
    (Kind.get?_typeMember_of_ne _ (by decide)))
  rw [fst_leafTake, hdefault, listAt, hexamples, ← listAt]
  apply Members.get?_orElse_of
  · intro p hp
    rcases List.mem_append.mp hp with hp | hp
    · rcases List.mem_append.mp hp with hp | hp
      · exact htype p hp
      · exact get?_of_mem_optionalMember (fun _ => id) hp
    · refine get?_of_mem_optionalMember (fun v hv => ?_) hp
      obtain ⟨examples, hlist, rfl⟩ := Option.map_eq_some_iff.mp hv
      exact get?_of_listAt hlist
  · intro key hkey
    simp only [Kind.written, Members.keys_append, List.mem_append, not_or,
      ← Members.get?_eq_none_iff, Kind.get?_optionalMember] at hkey
    obtain ⟨⟨htypeKey, hdefaultKey⟩, hexamplesKey⟩ := hkey
    by_cases hkey : "default" = key
    · subst hkey
      have hnone : m.get? "default" = none := by rwa [if_pos rfl] at hdefaultKey
      rw [hnone, hnothing.get?_eq_none hnone]
    · rw [get?_leafTake_of_ne hdistinct _ hkey, htaken key (Members.get?_eq_none_iff.mp htypeKey)]
      rintro rfl
      rw [if_pos rfl, Option.map_eq_none_iff] at hexamplesKey
      rw [listAt, hexamples, ← listAt, hexamplesKey]

section Leaf
variable {l : Leaf}

theorem get?_type_leaf : ((Kind.leaf l).members e).get? "type" =
    if l.types = [] then e.get? "type" else some l.types.toJson := by
  rw [Kind.get?_members, Kind.written, List.append_assoc]
  refine get?_typeMember l.types ?_
  rw [Members.get?_append, Kind.get?_optionalMember, Kind.get?_optionalMember]
  rfl

theorem get?_default_leaf (he : e.get? "default" = none) :
    ((Kind.leaf l).members e).get? "default" = l.default := by
  rw [Kind.get?_members, Kind.written, Members.get?_append, Members.get?_append,
    Kind.get?_typeMember_of_ne _ (by decide), Kind.get?_optionalMember, Kind.get?_optionalMember,
    he, Option.or_none, if_pos rfl]
  exact Option.or_none

theorem listAt_examples_leaf (he : listAt e "examples" = none) :
    listAt ((Kind.leaf l).members e) "examples" = l.examples := by
  rw [listAt, Kind.get?_members, Kind.written, Members.get?_append, Members.get?_append,
    Kind.get?_typeMember_of_ne _ (by decide), Kind.get?_optionalMember, Kind.get?_optionalMember,
    if_pos rfl]
  cases l.examples with
  | none => exact he
  | some examples => rfl

theorem hasType_leaf_eq_false {keyword : String} (hkeyword : Primitive.ofName? keyword = none)
    (he : l.types = [] → hasType e keyword = false) :
    hasType ((Kind.leaf l).members e) keyword = false := by
  rw [hasType, get?_type_leaf]
  split
  · next hempty => exact he hempty
  · exact l.types.namesType_toJson hkeyword

theorem noItems_leaf (he : NoItems e) : NoItems ((Kind.leaf l).members e) := by
  refine he.of_kept (fun key hkey => Kind.get?_members_kept ?_) ?_ ?_
  · revert key
    simp [Kind.keywords]
  · rw [textAt, get?_type_leaf]
    split
    · exact he.type
    · exact l.types.asString?_toJson_ne rfl
  · exact hasType_leaf_eq_false rfl fun _ => he.array

end Leaf

theorem returns_leaf (l : Leaf) (he : (.leaf l : Kind Json).Admits e)
    (hinert : (.leaf l : Kind Json).Inert e) : Returns (.leaf l) e := by
  obtain ⟨hno, hnodup, hdefault, hexamples⟩ := he
  obtain ⟨hproperties, hallOf, hchoice, hbare⟩ := hinert
  have hm := Kind.distinct_members (.leaf l) e
  have htypes := typesAt_eq_of_get? hnodup get?_type_leaf fun hempty => (hbare hempty).1
  have hread := ofMembers_leaf (noItems_leaf hno)
    ((listAt_kept (by simp [Kind.keywords])).trans hallOf)
    ((choice?_kept (by simp [Kind.keywords]) (by simp [Kind.keywords])).trans hchoice)
    (hasType_leaf_eq_false rfl fun hempty => (hbare hempty).2)
    ((has_kept (by simp [Kind.keywords])).trans hproperties)
  have htaken : ∀ key, "type" ≠ key →
      (takeTypes ((Kind.leaf l).members e)).get? key = ((Kind.leaf l).members e).get? key :=
    fun key hne => get?_takeTypes hm htypes
      (Members.get?_eq_none_iff.mp (Kind.get?_typeMember_of_ne l.types hne))
  have hleaf : (Leaf.take l.types (takeTypes ((Kind.leaf l).members e))).1 = l := by
    rw [fst_leafTake, listAt, htaken _ (by decide), htaken _ (by decide),
      get?_default_leaf hdefault, ← listAt, listAt_examples_leaf hexamples]
  have hwritten := get?_writtenLeaf hm
    (by rw [htypes]; exact fun p => get?_of_mem_typeMember get?_type_leaf)
  rw [ofLeaf_eq, htypes, hleaf] at hread
  rw [htypes, hleaf] at hwritten
  exact ⟨_, hread, rfl, hwritten⟩

end Outline

end MockBuilders
