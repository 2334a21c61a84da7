import MockBuilders.Proofs.Schema.Rereading.Lists
import MockBuilders.Proofs.Schema.Rereading.Values

/-!
Compositions and objects are found again in what they are written as, so that every layer is whose
extensions are inert. Main statement: `Outline.returns`.
-/
namespace MockBuilders.Outline

variable {k : Kind Json} {e m : Members Json}

theorem takeOwn_eq (hproperties : m.has "properties" = false) (hchoice : choice? m = none) :
    takeOwnChoice (takeOwnObject m) = m := by
  rw [takeOwnObject, if_neg (by simp [hproperties]), takeOwnChoice, hchoice]

theorem returns_allOf (branches : List Json) (he : (.allOf branches : Kind Json).Admits e)
    (hinert : (.allOf branches : Kind Json).Inert e) : Returns (.allOf branches) e := by
  obtain ⟨hproperties, hchoice⟩ := hinert
  have hm := Kind.distinct_members (.allOf branches) e
  have hbranches : ((Kind.allOf branches).members e).get? "allOf" = some (.array branches) := by
    rw [Kind.get?_members]
    rfl
  have hlist : listAt ((Kind.allOf branches).members e) "allOf" = some branches := by
    rw [listAt, hbranches]
    rfl
  have hno : NoItems ((Kind.allOf branches).members e) :=
    NoItems.members he (by simp [Kind.keywords])
  have hown : ((Kind.allOf branches).members e).has "properties" = false :=
    (has_kept (by simp [Kind.keywords])).trans hproperties
  have hnone : choice? ((Kind.allOf branches).members e) = none :=
    (choice?_kept (by simp [Kind.keywords]) (by simp [Kind.keywords])).trans hchoice
  have hrest := Members.PartOf.take (.refl hm) "allOf"
  refine ⟨_, ofMembers_allOf hno hlist, ?_, ?_⟩
  · simp only [ofAllOf, ownObject, ownChoice, hown, hnone, Bool.false_eq_true, if_false,
      Option.toList_none, List.map_nil, List.nil_append, List.append_nil]
    exact congrArg Kind.allOf (map_value_parts _ _)
  · rw [ofAllOf, takeOwn_eq (has_false_of_partOf hrest hown) (choice?_none_of_partOf hrest hnone)]
    apply Members.get?_orElse_of
    · exact List.forall_mem_singleton.mpr hbranches
    · intro key hkey
      exact Members.get?_take_of_ne hm (Ne.symm (by simpa [Kind.told, Kind.written] using hkey))

theorem choice?_of_listAt {keyword : ChoiceKeyword} {branches : List Json}
    (h : listAt m keyword.name = some branches)
    (hany : keyword = .oneOf → listAt m "anyOf" = none) : choice? m = some (keyword, branches) := by
  unfold ChoiceKeyword.name at h
  unfold choice?
  cases keyword with
  | anyOf =>
    dsimp only at h
    rw [h]
  | oneOf =>
    dsimp only at h
    rw [hany rfl, h]
    rfl

theorem returns_choice (keyword : ChoiceKeyword) (branches : List Json)
    (he : (.choice keyword branches : Kind Json).Admits e)
    (hinert : (.choice keyword branches : Kind Json).Inert e) :
    Returns (.choice keyword branches) e := by
  obtain ⟨hno, hany⟩ := he
  obtain ⟨hproperties, hallOf⟩ := hinert
  have hm := Kind.distinct_members (.choice keyword branches) e
  have hkeyword : ∀ key, key ≠ "anyOf" → key ≠ "oneOf" →
      key ∉ (Kind.choice keyword branches).keywords := by
    intro key hne hne'
    cases keyword <;> simpa [Kind.keywords, ChoiceKeyword.name]
  have hbranches : ((Kind.choice keyword branches).members e).get? keyword.name =
      some (.array branches) := by
    rw [Kind.get?_members, Kind.written, Members.get?, if_pos rfl]
    rfl
  have hchoice : choice? ((Kind.choice keyword branches).members e) = some (keyword, branches) := by
    refine choice?_of_listAt (by rw [listAt, hbranches]; rfl) ?_
    rintro rfl
    rw [listAt_kept (by simp [Kind.keywords, ChoiceKeyword.name])]
    exact hany rfl
  have hkept : NoItems ((Kind.choice keyword branches).members e) := by
    refine NoItems.members hno fun key hkey => hkeyword key ?_ ?_
    · rintro rfl
      simp at hkey
    · rintro rfl
      simp at hkey
  have hown : ((Kind.choice keyword branches).members e).has "properties" = false :=
    (has_kept (hkeyword _ (by decide) (by decide))).trans hproperties
  have hread := ofMembers_choice hkept
    ((listAt_kept (hkeyword _ (by decide) (by decide))).trans hallOf) hchoice
  rw [hown, if_neg (by decide)] at hread
  refine ⟨_, hread, congrArg (Kind.choice keyword) (map_value_parts _ _), ?_⟩
  apply Members.get?_orElse_of
  · exact List.forall_mem_singleton.mpr hbranches
  · intro key hkey
    exact Members.get?_take_of_ne hm (Ne.symm (by simpa [Kind.told, Kind.written] using hkey))

theorem filterMap_string (names : List String) :
    (names.map Json.string).filterMap Json.asString? = names := by
  rw [List.filterMap_map]
  exact List.filterMap_some

theorem shape_of_properties {properties : Members Json} {required : List String}
    (hproperties : m.get? "properties" = some (.object properties))
    (hrequired : m.get? "required" =
      if required = [] then none else some (.array (required.map .string))) :
    ∃ s, shape m = .ok s ∧
      s.map Part.value = ⟨properties, required, (additionalAt m).map Part.value⟩ := by
  have hnames : ((listAt m "required").getD []).filterMap Json.asString? = required := by
    rw [listAt, hrequired]
    split
    · next hempty => exact hempty.symm
    · exact filterMap_string required
  unfold shape
  rw [hproperties, hnames]
  refine ⟨_, rfl, ?_⟩
  rw [ObjectShape.map, Members.mapValues, List.map_map]
  congr 1
  exact List.map_id properties

/-- Required names that are told stand where they stood, under one keyword. -/
theorem get?_required_told {required : List String}
    (hinert : required = [] → e.has "required" = true → ∃ name names,
      e.get? "required" = some (.array ((name :: names).map .string))) :
    (if required = [] then e.get? "required" else some (.array (required.map .string))) =
      if Kind.toldRequired e required = [] then none
      else some (.array ((Kind.toldRequired e required).map .string)) := by
  by_cases hempty : required = []
  · rw [Kind.toldRequired, if_pos hempty, if_pos hempty, listAt]
    cases hget : e.get? "required" with
    | none => rfl
    | some value =>
      -- a list that is kept aside holds nothing but names, so that all of it is told
      obtain ⟨name, names, hnames⟩ := hinert hempty (by rw [Members.has, hget]; rfl)
      obtain rfl := Option.some.inj (hget.symm.trans hnames)
      change _ = if ((name :: names).map Json.string).filterMap Json.asString? = [] then none
        else some (Json.array
          ((((name :: names).map Json.string).filterMap Json.asString?).map Json.string))
      rw [filterMap_string]
      rfl
  · rw [Kind.toldRequired, if_neg hempty, if_neg hempty, if_neg hempty]

theorem get?_of_additionalAt {p : Part} (h : additionalAt m = some p) :
    m.get? "additionalProperties" = some p.value := by
  unfold additionalAt at h
  split at h
  · next hget => rw [hget, ← Option.some.inj h]
  · cases h

/-- What is kept beside an object is found as it was, outside the keywords that it is written
with. -/
theorem get?_takeShape_of_not_written (hm : m.Distinct) {properties : Members Json}
    {required : List String} (hrequired : m.get? "required" =
      if required = [] then none else some (.array (required.map .string))) {key : String}
    (hkey : key ∉ ((Kind.object ⟨properties, required, (additionalAt m).map Part.value⟩).written
      (takeShape (takeType m "object"))).keys) :
    (takeShape (takeType m "object")).get? key = m.get? key := by
  have hpart := partOf_takeType hm "object"
  simp only [Kind.written, Members.keys_append, Members.keys_cons, Members.keys_nil,
    List.mem_append, List.mem_cons, List.not_mem_nil, or_false, not_or] at hkey
  obtain ⟨⟨⟨htypeKey, hpropertiesKey⟩, hrequiredKey⟩, hadditionalKey⟩ := hkey
  by_cases hreq : "required" = key
  · subst hreq
    have hnone : m.get? "required" = none := by
      rw [hrequired]
      by_cases hempty : required = []
      · rw [if_pos hempty]
      · rw [Kind.requiredMember, if_neg hempty] at hrequiredKey
        exact (hrequiredKey (List.mem_singleton_self _)).elim
    rw [hnone, ((partOf_takeShape hpart.distinct).trans hpart).get?_eq_none hnone]
  · have hkept : additionalAt (takeType m "object") = additionalAt m :=
      additionalAt_congr (get?_takeType_of_ne hm _ (by decide))
    rw [get?_takeShape_of_ne hpart.distinct (Ne.symm hpropertiesKey) hreq,
      get?_takeType_of_ne hm _ (Ne.symm htypeKey)]
    rintro rfl
    rw [hkept]
    cases hget : additionalAt m with
    | none => rfl
    | some p =>
      rw [hget] at hadditionalKey
      exact (hadditionalKey (List.mem_singleton_self _)).elim

/-- An object that names its type is written as it was read. -/
theorem get?_writtenObject (hm : m.Distinct) {type : Json} (htype : m.get? "type" = some type)
    {properties : Members Json} {required : List String}
    (hproperties : m.get? "properties" = some (.object properties))
    (hrequired : m.get? "required" =
      if required = [] then none else some (.array (required.map .string))) (key : String) :
    ((Kind.object ⟨properties, required, (additionalAt m).map Part.value⟩).members
      (takeShape (takeType m "object"))).get? key = m.get? key := by
  have hpart := partOf_takeType hm "object"
  have htypeKept : (takeShape (takeType m "object")).get? "type" =
      (takeType m "object").get? "type" :=
    get?_takeShape_of_ne hpart.distinct (by decide) (by decide) fun h => absurd h (by decide)
  apply Members.get?_orElse_of
  · rw [Kind.written, keptType_of_takeType hm htype htypeKept]
    have hnamed : ∀ p ∈ [("type", type), ("properties", Json.object properties)],
        m.get? p.1 = some p.2 :=
      List.forall_mem_cons.mpr ⟨htype, List.forall_mem_singleton.mpr hproperties⟩
    intro p hp
    rcases List.mem_append.mp hp with hp | hp
    · rcases List.mem_append.mp hp with hp | hp
      · exact hnamed p hp
      · exact mem_requiredMember hrequired hp
    · refine get?_of_mem_optionalMember (fun v hv => ?_) hp
      obtain ⟨p, hp, rfl⟩ := Option.map_eq_some_iff.mp hv
      exact get?_of_additionalAt hp
  · exact fun key hkey => get?_takeShape_of_not_written hm hrequired hkey

theorem additionalAt_written {additional : Option Json}
    (h : m.get? "additionalProperties" = additional.or (e.get? "additionalProperties"))
    (hobject : ∀ v, additional = some v → v.isObject = true)
    (hnone : additional = none → additionalAt e = none) :
    (additionalAt m).map Part.value = additional := by
  cases additional with
  | none =>
    rw [additionalAt_congr (h.trans Option.none_or), hnone rfl]
    rfl
  | some v =>
    have hv := hobject v rfl
    cases v with
    | object members =>
      rw [additionalAt, h]
      rfl
    | _ => cases hv

theorem returns_object (shape : ObjectShape Json) (he : (.object shape : Kind Json).Admits e)
    (hinert : (.object shape : Kind Json).Inert e)
    (hobject : ∀ v, shape.additional = some v → v.isObject = true) :
    Returns (.object shape) e := by
  obtain ⟨hallOf, hchoice, hrequired, hadditional⟩ := hinert
  have hm := Kind.distinct_members (.object shape) e
  have hget := Kind.get?_members (k := .object shape) (e := e)
  have htype : ((Kind.object shape).members e).get? "type" = some (keptType e "object") := hget _
  have hproperties : ((Kind.object shape).members e).get? "properties" =
      some (.object shape.properties) := hget _
  have hrequiredAt : ((Kind.object shape).members e).get? "required" =
      if Kind.toldRequired e shape.required = [] then none
      else some (.array ((Kind.toldRequired e shape.required).map .string)) := by
    rw [← get?_required_told hrequired, Kind.get?_members_object]
    split <;> rfl
  have hadditionalAt : (additionalAt ((Kind.object shape).members e)).map Part.value =
      shape.additional := by
    refine additionalAt_written ?_ hobject hadditional
    rw [Kind.get?_members_object, if_neg (show "required" ≠ "additionalProperties" by decide),
      ite_self, if_pos rfl]
    rfl
  have hno : NoItems ((Kind.object shape).members e) := by
    refine he.of_kept (fun key hkey => Kind.get?_members_kept ?_) ?_ ?_
    · revert key
      simp [Kind.keywords]
    · rw [textAt, htype]
      exact asString?_keptType_ne (by decide) he.type
    · exact hasType_keptType_eq_false (by decide) htype he.array
  obtain ⟨s, hs, hshape⟩ := shape_of_properties hproperties hrequiredAt
  have hread := ofMembers_object hno ((listAt_kept (by simp [Kind.keywords])).trans hallOf)
    ((choice?_kept (by simp [Kind.keywords]) (by simp [Kind.keywords])).trans hchoice)
    (.inr (by rw [Members.has, hproperties]; rfl))
  rw [hs] at hread
  rw [hadditionalAt] at hshape
  refine ⟨_, hread, congrArg Kind.object hshape, fun key => ?_⟩
  have hwritten := get?_writtenObject hm htype hproperties hrequiredAt key
  rwa [hadditionalAt] at hwritten

/-- A layer is found again in what it is written as if what is kept beside it is inert. -/
theorem returns (hobjects : ∀ c ∈ k.children, c.isObject = true) (hadmits : k.Admits e)
    (hinert : k.Inert e) : Returns k e := by
  cases k with
  | reference pointer => exact returns_reference pointer e
  | variants records => exact returns_variants records hadmits
  | enumeration types values => exact returns_enumeration types values hadmits
  | anyArray => exact returns_anyArray hadmits hinert
  | arrayOf item =>
    have hitem := hobjects item (List.mem_singleton_self item)
    cases item with
    | object members => exact returns_arrayOf members hadmits
    | _ => cases hitem
  | mixedArray items => exact returns_mixedArray items hadmits
  | tuple items => exact returns_tuple items hadmits
  | union branches => exact returns_union branches hadmits
  | allOf branches => exact returns_allOf branches hadmits hinert
  | choice keyword branches => exact returns_choice keyword branches hadmits hinert
  | object shape =>
    refine returns_object shape hadmits hinert fun v hv => hobjects v ?_
    exact List.mem_append_right _ (Option.mem_toList.mpr hv)
  | leaf l => exact returns_leaf l hadmits hinert

end MockBuilders.Outline
