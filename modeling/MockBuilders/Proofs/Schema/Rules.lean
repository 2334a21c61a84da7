import MockBuilders.Proofs.Relations
import MockBuilders.Schema.Reading

/-!
The rules by which the members of an object make a layer, tried one after the other: each is stated
with what keeps the rules before it from applying.
Main statement: `Outline.rule_iff`.
-/
namespace MockBuilders.Outline

variable {m : Members Json} {o : Outline}

theorem get?_of_textAt {key text : String} (h : textAt m key = some text) :
    m.get? key = some (.string text) := by
  obtain ⟨v, hv, h⟩ := Option.bind_eq_some_iff.mp h
  cases v <;> simp_all [Json.asString?]

theorem listAt_none_of_get? {key : String} (h : m.get? key = none) : listAt m key = none := by
  rw [listAt, h]
  rfl

theorem choice?_eq_none_iff :
    choice? m = none ↔ listAt m "anyOf" = none ∧ listAt m "oneOf" = none := by
  unfold choice?
  cases listAt m "anyOf" <;> simp

theorem map_value_parts (keyword : String) (items : List Json) :
    (parts keyword items).map Part.value = items := by
  unfold parts
  apply List.ext_getElem <;> simp

theorem additional_of_shape {s : ObjectShape Part} (h : shape m = .ok s) :
    s.additional = additionalAt m := by
  unfold shape at h
  split at h
  · rw [← Except.ok.inj h]
  · rw [← Except.ok.inj h]
  · cases h

/-- No member tells a reference or an enumeration. -/
structure NoEnumeration (m : Members Json) : Prop where
  pointer : textAt m "$ref" = none
  type : textAt m "type" ≠ some "enum"
  values : listAt m "enum" = none

/-- No member tells a reference, an enumeration, an array or items that are combined. -/
structure NoItems (m : Members Json) : Prop extends NoEnumeration m where
  array : hasType m "array" = false
  items : m.get? "items" = none

theorem isRawUnion_eq_true_iff : isRawUnion m = true ↔ (listAt m "items").isSome ∧
    (m.has "type" = true → (textAt m "logicalOperator").isSome) ∧ hasType m "array" = false ∧
    textAt m "type" ≠ some "tuple" := by
  unfold isRawUnion
  cases m.has "type" <;> simp [and_assoc]

/-- What members that tell no items are read as. -/
inductive ShapeRule (m : Members Json) : Outline → Prop
  | allOf {branches : List Json} : listAt m "allOf" = some branches →
      ShapeRule m (ofAllOf m branches)
  | own {keyword : ChoiceKeyword} {branches : List Json} : listAt m "allOf" = none →
      choice? m = some (keyword, branches) → m.has "properties" = true → ShapeRule m (ofOwn m)
  | choice {keyword : ChoiceKeyword} {branches : List Json} : listAt m "allOf" = none →
      choice? m = some (keyword, branches) → m.has "properties" = false →
      ShapeRule m (ofChoice m keyword branches)
  | object {s : ObjectShape Part} : listAt m "allOf" = none → choice? m = none →
      hasType m "object" = true ∨ m.has "properties" = true → shape m = .ok s →
      ShapeRule m ⟨.object s, takeShape (takeType m "object")⟩
  | leaf : listAt m "allOf" = none → choice? m = none → hasType m "object" = false →
      m.has "properties" = false → ShapeRule m (ofLeaf m)

/-- What the members of an object are read as. -/
inductive Rule (m : Members Json) : Outline → Prop
  | reference {pointer : String} : textAt m "$ref" = some pointer →
      Rule m ⟨.reference pointer, m.take "$ref"⟩
  | variants : textAt m "$ref" = none → textAt m "type" = some "enum" → Rule m (ofVariants m)
  | enumeration {values : List Json} : textAt m "$ref" = none → textAt m "type" ≠ some "enum" →
      listAt m "enum" = some values → Rule m (ofEnumeration m values)
  | array : NoEnumeration m →
      hasType m "array" = true ∨ m.has "items" = true ∧ isRawUnion m = false → Rule m (ofArray m)
  | itemList {items : List Json} : NoEnumeration m → listAt m "items" = some items →
      isRawUnion m = true → Rule m (ofItemList m items)
  | shaped {o : Outline} : NoItems m → ShapeRule m o → Rule m o

theorem ofMembers_reference {pointer : String} (h : textAt m "$ref" = some pointer) :
    ofMembers m = .ok ⟨.reference pointer, m.take "$ref"⟩ := by
  rw [ofMembers, h]

theorem ofMembers_variants (hpointer : textAt m "$ref" = none)
    (htype : textAt m "type" = some "enum") : ofMembers m = .ok (ofVariants m) := by
  rw [ofMembers, hpointer]
  exact if_pos htype

theorem ofMembers_enumeration {values : List Json} (hpointer : textAt m "$ref" = none)
    (htype : textAt m "type" ≠ some "enum") (h : listAt m "enum" = some values) :
    ofMembers m = .ok (ofEnumeration m values) := by
  simp only [ofMembers, hpointer, htype, h, if_false]

theorem ofMembers_array (hno : NoEnumeration m)
    (h : hasType m "array" = true ∨ m.has "items" = true ∧ isRawUnion m = false) :
    ofMembers m = .ok (ofArray m) := by
  have harray : (hasType m "array" || (m.has "items" && !isRawUnion m)) = true := by
    simpa using h
  simp only [ofMembers, hno.pointer, hno.type, hno.values, harray, if_false, if_true]

theorem ofMembers_itemList {items : List Json} (hno : NoEnumeration m)
    (h : listAt m "items" = some items) (hunion : isRawUnion m = true) :
    ofMembers m = .ok (ofItemList m items) := by
  have harray : (hasType m "array" || (m.has "items" && !isRawUnion m)) = false := by
    simp [hunion, (isRawUnion_eq_true_iff.mp hunion).2.2.1]
  simp only [ofMembers, hno.pointer, hno.type, hno.values, harray, h, if_false, Bool.false_eq_true]

theorem NoItems.no_array (hno : NoItems m) :
    (hasType m "array" || (m.has "items" && !isRawUnion m)) = false := by
  simp [hno.array, Members.has, hno.items]

theorem ofMembers_allOf {branches : List Json} (hno : NoItems m)
    (h : listAt m "allOf" = some branches) : ofMembers m = .ok (ofAllOf m branches) := by
  simp only [ofMembers, hno.pointer, hno.type, hno.values, hno.no_array,
    listAt_none_of_get? hno.items, h, if_false, Bool.false_eq_true]

theorem ofMembers_choice {keyword : ChoiceKeyword} {branches : List Json} (hno : NoItems m)
    (hallOf : listAt m "allOf" = none) (h : choice? m = some (keyword, branches)) :
    ofMembers m =
      .ok (if m.has "properties" then ofOwn m else ofChoice m keyword branches) := by
  simp only [ofMembers, hno.pointer, hno.type, hno.values, hno.no_array,
    listAt_none_of_get? hno.items, hallOf, h, if_false, Bool.false_eq_true]

theorem ofMembers_object (hno : NoItems m) (hallOf : listAt m "allOf" = none)
    (hchoice : choice? m = none) (h : hasType m "object" = true ∨ m.has "properties" = true) :
    ofMembers m = (shape m).map fun s => ⟨.object s, takeShape (takeType m "object")⟩ := by
  have hobject : (hasType m "object" || m.has "properties") = true := by simpa using h
  simp only [ofMembers, hno.pointer, hno.type, hno.values, hno.no_array,
    listAt_none_of_get? hno.items, hallOf, hchoice, hobject, if_false, if_true,
    Bool.false_eq_true]

theorem ofMembers_leaf (hno : NoItems m) (hallOf : listAt m "allOf" = none)
    (hchoice : choice? m = none) (hobject : hasType m "object" = false)
    (hproperties : m.has "properties" = false) : ofMembers m = .ok (ofLeaf m) := by
  simp only [ofMembers, hno.pointer, hno.type, hno.values, hno.no_array,
    listAt_none_of_get? hno.items, hallOf, hchoice, hobject, hproperties, if_false,
    Bool.false_eq_true, Bool.or_self]

theorem shapeRule_of_ofMembers (hno : NoItems m) (h : ofMembers m = .ok o) : ShapeRule m o := by
  cases hallOf : listAt m "allOf" with
  | some branches =>
    rw [ofMembers_allOf hno hallOf] at h
    obtain rfl := Except.ok.inj h
    exact .allOf hallOf
  | none =>
  cases hchoice : choice? m with
  | some c =>
    rw [ofMembers_choice hno hallOf hchoice] at h
    obtain rfl := Except.ok.inj h
    split
    · next hproperties => exact .own hallOf hchoice hproperties
    · next hproperties => exact .choice hallOf hchoice (by simpa using hproperties)
  | none =>
  by_cases hobject : hasType m "object" = true ∨ m.has "properties" = true
  · rw [ofMembers_object hno hallOf hchoice hobject] at h
    obtain ⟨s, hs, rfl⟩ := map_eq_ok_iff.mp h
    exact .object hallOf hchoice hobject hs
  · obtain ⟨htype, hproperties⟩ : hasType m "object" = false ∧ m.has "properties" = false := by
      simpa using hobject
    rw [ofMembers_leaf hno hallOf hchoice htype hproperties] at h
    obtain rfl := Except.ok.inj h
    exact .leaf hallOf hchoice htype hproperties

/-- Items that make no array are combined, or there are none. -/
theorem isRawUnion_of_not_array
    (h : ¬(hasType m "array" = true ∨ m.has "items" = true ∧ isRawUnion m = false))
    (hitems : m.has "items" = true) : isRawUnion m = true := by
  by_contra hunion
  exact h (.inr ⟨hitems, by simpa using hunion⟩)

theorem noItems_of_not_array (hno : NoEnumeration m)
    (h : ¬(hasType m "array" = true ∨ m.has "items" = true ∧ isRawUnion m = false))
    (hlist : listAt m "items" = none) : NoItems m where
  toNoEnumeration := hno
  array := by
    by_contra harray
    exact h (.inl (by simpa using harray))
  items := by
    by_contra hitems
    have hunion := isRawUnion_of_not_array h (Option.isSome_iff_ne_none.mpr hitems)
    rw [isRawUnion_eq_true_iff, hlist] at hunion
    cases hunion.1

theorem rule_of_ofMembers (h : ofMembers m = .ok o) : Rule m o := by
  cases hpointer : textAt m "$ref" with
  | some pointer =>
    rw [ofMembers_reference hpointer] at h
    obtain rfl := Except.ok.inj h
    exact .reference hpointer
  | none =>
  by_cases htype : textAt m "type" = some "enum"
  · rw [ofMembers_variants hpointer htype] at h
    obtain rfl := Except.ok.inj h
    exact .variants hpointer htype
  cases hvalues : listAt m "enum" with
  | some values =>
    rw [ofMembers_enumeration hpointer htype hvalues] at h
    obtain rfl := Except.ok.inj h
    exact .enumeration hpointer htype hvalues
  | none =>
  have hno : NoEnumeration m := ⟨hpointer, htype, hvalues⟩
  by_cases harray : hasType m "array" = true ∨ m.has "items" = true ∧ isRawUnion m = false
  · rw [ofMembers_array hno harray] at h
    obtain rfl := Except.ok.inj h
    exact .array hno harray
  cases hlist : listAt m "items" with
  | some items =>
    have hunion := isRawUnion_of_not_array harray (by rw [Members.has, get?_of_listAt hlist]; rfl)
    rw [ofMembers_itemList hno hlist hunion] at h
    obtain rfl := Except.ok.inj h
    exact .itemList hno hlist hunion
  | none =>
    have hitems := noItems_of_not_array hno harray hlist
    exact .shaped hitems (shapeRule_of_ofMembers hitems h)

theorem ofMembers_of_shapeRule (hno : NoItems m) (h : ShapeRule m o) : ofMembers m = .ok o := by
  cases h with
  | allOf hbranches => exact ofMembers_allOf hno hbranches
  | own hallOf hchoice hproperties =>
    rw [ofMembers_choice hno hallOf hchoice, if_pos hproperties]
  | choice hallOf hchoice hproperties =>
    rw [ofMembers_choice hno hallOf hchoice, if_neg (by simp [hproperties])]
  | object hallOf hchoice hobject hshape =>
    rw [ofMembers_object hno hallOf hchoice hobject, hshape]
    rfl
  | leaf hallOf hchoice hobject hproperties =>
    exact ofMembers_leaf hno hallOf hchoice hobject hproperties

/-- Members are read by the one rule that applies. -/
theorem rule_iff : Rule m o ↔ ofMembers m = .ok o := by
  refine ⟨fun h => ?_, rule_of_ofMembers⟩
  cases h with
  | reference hpointer => exact ofMembers_reference hpointer
  | variants hpointer htype => exact ofMembers_variants hpointer htype
  | enumeration hpointer htype hvalues => exact ofMembers_enumeration hpointer htype hvalues
  | array hno harray => exact ofMembers_array hno harray
  | itemList hno hitems hunion => exact ofMembers_itemList hno hitems hunion
  | shaped hno h => exact ofMembers_of_shapeRule hno h

end MockBuilders.Outline
