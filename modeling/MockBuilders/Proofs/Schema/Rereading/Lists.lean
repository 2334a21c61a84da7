import MockBuilders.Proofs.Schema.Rereading.Basic

/-!
Arrays, tuples and listed alternatives are found again in what they are written as.
Main statements: `Outline.returns_array` and `Outline.returns_union`.
-/
namespace MockBuilders.Outline

variable {k : Kind Json} {e m : Members Json}

/-- An array that names its type and has no operator beside it is written as it was read. -/
theorem get?_writtenArray (hm : m.Distinct) {type : Json} (htype : m.get? "type" = some type)
    (hoperator : m.get? "logicalOperator" = none) (key : String) :
    Members.get? (Members.orElse (("type", keptType (ofArray m).extensions "array") ::
      Kind.optionalMember "items" (m.get? "items")) (ofArray m).extensions) key = m.get? key := by
  have hdistinct := (partOf_takeType hm "array").distinct
  have hrest : ∀ key, "items" ≠ key → "logicalOperator" ≠ key →
      (ofArray m).extensions.get? key = (takeType m "array").get? key := by
    intro key hitems hoperator
    rw [extensions_ofArray, Members.get?_take_of_ne (hdistinct.take _) hitems,
      Members.get?_take_of_ne hdistinct hoperator]
  have hpart : (ofArray m).extensions.PartOf m := by
    rw [extensions_ofArray]
    exact ((partOf_takeType hm "array").take _).take _
  rw [keptType_of_takeType hm htype (hrest _ (by decide) (by decide))]
  apply Members.get?_orElse_of
  · refine List.forall_mem_cons.mpr ⟨htype, fun p hp => ?_⟩
    obtain ⟨item, hitem, rfl⟩ := List.mem_map.mp hp
    exact Option.mem_toList.mp hitem
  · intro key hkey
    rw [Members.keys_cons, List.mem_cons, not_or] at hkey
    by_cases hitems : "items" = key
    · subst hitems
      cases hget : m.get? "items" with
      | none => exact hpart.get?_eq_none hget
      | some item =>
        rw [hget] at hkey
        exact (hkey.2 (List.mem_singleton_self _)).elim
    · by_cases hoperator' : "logicalOperator" = key
      · subst hoperator'
        rw [hoperator, hpart.get?_eq_none hoperator]
      · rw [hrest key hitems hoperator', get?_takeType_of_ne hm _ (Ne.symm hkey.1)]

/-- An array comes back if what it is written as is read as an array of the same items. -/
theorem returns_array (items : Option Json) (he : BesideArray e) (htold : k.told e = k)
    (hwritten : ∀ f, k.written f =
      ("type", keptType f "array") :: Kind.optionalMember "items" items)
    (harray : (k.members e).get? "type" = some (keptType e "array") →
      (k.members e).get? "items" = items → (k.members e).get? "logicalOperator" = none →
        (hasType (k.members e) "array" = true ∨
          (k.members e).has "items" = true ∧ isRawUnion (k.members e) = false) ∧
        (ofArray (k.members e)).kind.map Part.value = k) : Returns k e := by
  have hm := Kind.distinct_members k e
  have hget := fun key => (Kind.get?_members k e key).trans (by rw [hwritten])
  have htype : (k.members e).get? "type" = some (keptType e "array") := hget "type"
  have hitems : (k.members e).get? "items" = items := by
    rw [hget, Members.get?, if_neg (by decide)]
    cases items with
    | none => exact he.items
    | some _ => rfl
  have hkept : ∀ key, "type" ≠ key → "items" ≠ key → (k.members e).get? key = e.get? key := by
    intro key hne hne'
    rw [hget, Members.get?, if_neg hne]
    cases items <;> simp [Kind.optionalMember, Members.get?, hne']
  have hoperator := (hkept "logicalOperator" (by decide) (by decide)).trans he.operator
  obtain ⟨harray, hkind⟩ := harray htype hitems hoperator
  have hno : NoEnumeration (k.members e) :=
    { pointer := by rw [textAt, hkept _ (by decide) (by decide)]; exact he.pointer
      type := by rw [textAt, htype]; exact asString?_keptType_ne (by decide) he.type
      values := by rw [listAt, hkept _ (by decide) (by decide)]; exact he.values }
  refine ⟨_, ofMembers_array hno harray, by rw [hkind, htold], fun key => ?_⟩
  rw [htold, Kind.members, hwritten, ← hitems]
  exact get?_writtenArray hm htype hoperator key

theorem returns_anyArray (he : (.anyArray : Kind Json).Admits e)
    (hinert : (.anyArray : Kind Json).Inert e) : Returns .anyArray e := by
  refine returns_array none he rfl (fun _ => rfl) fun htype hitems _ => ?_
  refine ⟨.inl (hasType_of_keptType htype hinert), ?_⟩
  simp only [ofArray, hitems]
  rfl

theorem returns_arrayOf (members : Members Json)
    (he : (.arrayOf (.object members) : Kind Json).Admits e) :
    Returns (.arrayOf (.object members)) e := by
  refine returns_array (some (.object members)) he rfl (fun _ => rfl)
    fun htype hitems _ => ?_
  refine ⟨.inr ⟨by rw [Members.has, hitems]; rfl, ?_⟩, ?_⟩
  · rw [isRawUnion, listAt, hitems]
    rfl
  · simp only [ofArray, hitems]
    rfl

/-- A list of items beside a type and no operator is an array's. -/
theorem array_of_items {type : Json} {items : List Json} (htype : m.get? "type" = some type)
    (hitems : m.get? "items" = some (.array items)) (hoperator : m.get? "logicalOperator" = none) :
    hasType m "array" = true ∨ m.has "items" = true ∧ isRawUnion m = false := by
  refine .inr ⟨by rw [Members.has, hitems]; rfl, ?_⟩
  simp [isRawUnion, Members.has, htype, textAt, hoperator]

theorem returns_mixedArray (items : List Json) (he : (.mixedArray items : Kind Json).Admits e) :
    Returns (.mixedArray items) e := by
  refine returns_array (some (.array items)) he.1 rfl (fun _ => rfl)
    fun htype hitems hoperator => ⟨array_of_items htype hitems hoperator, ?_⟩
  have htuple : textAt (Kind.members (.mixedArray items) e) "type" ≠ some "tuple" := by
    rw [textAt, htype]
    exact asString?_keptType_ne (by decide) he.2
  simp only [ofArray, hitems, htuple, if_false]
  exact congrArg Kind.mixedArray (map_value_parts _ _)

theorem returns_tuple (items : List Json) (he : (.tuple items : Kind Json).Admits e) :
    Returns (.tuple items) e := by
  refine returns_array (some (.array items)) he.1 rfl (fun _ => rfl)
    fun htype hitems hoperator => ⟨array_of_items htype hitems hoperator, ?_⟩
  have htuple : textAt (Kind.members (.tuple items) e) "type" = some "tuple" := by
    rw [textAt, htype, keptType, get?_of_textAt he.2]
    rfl
  simp only [ofArray, hitems, htuple, if_true]
  exact congrArg Kind.tuple (map_value_parts _ _)

theorem returns_union (branches : List Json) (he : (.union branches : Kind Json).Admits e) :
    Returns (.union branches) e := by
  obtain ⟨hno, htuple⟩ := he
  have hm := Kind.distinct_members (.union branches) e
  have hitems : ((Kind.union branches).members e).get? "items" = some (.array branches) := by
    rw [Kind.get?_members]
    rfl
  have hoperator : ((Kind.union branches).members e).get? "logicalOperator" =
      some (.string "or") := by
    rw [Kind.get?_members]
    rfl
  have hlist : listAt ((Kind.union branches).members e) "items" = some branches := by
    rw [listAt, hitems]
    rfl
  have hkept : NoEnumeration ((Kind.union branches).members e) :=
    { pointer := (textAt_kept (by simp [Kind.keywords])).trans hno.pointer
      type := by rw [textAt_kept (by simp [Kind.keywords])]; exact hno.type
      values := (listAt_kept (by simp [Kind.keywords])).trans hno.values }
  have hunion : isRawUnion ((Kind.union branches).members e) = true := by
    refine isRawUnion_eq_true_iff.mpr ⟨by rw [hlist]; rfl, ?_, ?_, ?_⟩
    · rw [textAt, hoperator]
      exact fun _ => rfl
    · exact (hasType_kept (by simp [Kind.keywords]) _).trans hno.array
    · rw [textAt_kept (by simp [Kind.keywords])]
      exact htuple
  have hand : textAt ((Kind.union branches).members e) "logicalOperator" ≠ some "and" := by
    rw [textAt, hoperator]
    decide
  refine ⟨_, ofMembers_itemList hkept hlist hunion, ?_, ?_⟩
  · simp only [ofItemList, hand, if_false]
    exact congrArg Kind.union (map_value_parts _ _)
  · simp only [ofItemList, hand, if_false]
    apply Members.get?_orElse_of
    · exact List.forall_mem_cons.mpr ⟨hitems, List.forall_mem_singleton.mpr hoperator⟩
    · intro key hkey
      simp only [Kind.told, Kind.written, Members.keys_cons, Members.keys_nil, List.mem_cons,
        List.not_mem_nil, or_false, not_or] at hkey
      exact (Members.get?_take_of_ne (hm.take _) (Ne.symm hkey.2)).trans
        (Members.get?_take_of_ne hm (Ne.symm hkey.1))

end MockBuilders.Outline
