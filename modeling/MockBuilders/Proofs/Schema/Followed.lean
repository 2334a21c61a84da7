import MockBuilders.Proofs.Schema.Kept

/-!
Which keywords that bear schemas are taken in by the layer of an object, and which are kept beside
it: that depends on the other keywords of the object.
Main statements: `Outline.get?_of_follows` and `Outline.get?_of_not_follows`.
-/
namespace MockBuilders

namespace Json

/-- Keywords that hold schemas under names of the document. -/
def mapKeywords : List String := ["properties", "patternProperties", "$defs", "definitions"]

/-- Keywords that may hold one schema. -/
def singleKeywords : List String := ["items", "additionalProperties", "not"]

/-- Keywords that may hold a list of schemas. -/
def listKeywords : List String := ["items", "prefixItems", "allOf", "anyOf", "oneOf"]

def schemaKeywords : List String := mapKeywords ++ singleKeywords ++ listKeywords

theorem ne_of_schemaKeyword {key keyword : String} (hkey : key ∉ schemaKeywords)
    (h : keyword ∈ schemaKeywords) : key ≠ keyword := fun e => hkey (e ▸ h)

end Json

namespace Outline

variable {m : Members Json} {o : Outline} {keyword : String}

/-- What a keyword holds is read with the object, as its layer or as a schema of its own. -/
inductive Follows (m : Members Json) : String → Prop
  | items : textAt m "$ref" = none → textAt m "type" = some "enum" ∨ listAt m "enum" = none →
      Follows m "items"
  | properties : NoItems m → Follows m "properties"
  | additional : NoItems m → (additionalAt m).isSome = true →
      m.has "properties" = true ∨
        listAt m "allOf" = none ∧ choice? m = none ∧ hasType m "object" = true →
      Follows m "additionalProperties"
  | allOf : NoItems m → (listAt m "allOf").isSome = true → Follows m "allOf"
  | choice {alternatives : ChoiceKeyword} {branches : List Json} : NoItems m →
      choice? m = some (alternatives, branches) → Follows m alternatives.name

section Taken
variable (hm : m.Distinct)
include hm

theorem get?_takeOwnObject (htype : "type" ≠ keyword) (hrequired : "required" ≠ keyword)
    (h : m.has "properties" = true →
      "properties" ≠ keyword ∧ (keyword = "additionalProperties" → additionalAt m = none)) :
    (takeOwnObject m).get? keyword = m.get? keyword := by
  unfold takeOwnObject
  split
  · next hproperties =>
    obtain ⟨hne, hadditional⟩ := h hproperties
    rw [Members.get?_take_of_ne (partOf_takeShape hm).distinct htype,
      get?_takeShape_of_ne hm hne hrequired hadditional]
  · rfl

theorem get?_takeOwnChoice (h : ∀ c, choice? m = some c → c.1.name ≠ keyword) :
    (takeOwnChoice m).get? keyword = m.get? keyword := by
  unfold takeOwnChoice
  split
  · next hchoice => exact Members.get?_take_of_ne hm (h _ hchoice)
  · rfl

theorem choice?_takeOwnObject : choice? (takeOwnObject m) = choice? m := by
  have hkept : ∀ k : ChoiceKeyword, (takeOwnObject m).get? k.name = m.get? k.name := by
    rintro (_ | _) <;> exact get?_takeOwnObject hm (by decide) (by decide) fun _ =>
      ⟨by decide, fun h => absurd h (by decide)⟩
  exact choice?_congr (hkept .anyOf) (hkept .oneOf)

/-- What is kept beside the branches of an intersection, as it was found. -/
theorem get?_takeOwn (hkeyword : keyword ∈ Json.schemaKeywords)
    (hproperties : "properties" ≠ keyword)
    (hadditional : m.has "properties" = true → keyword = "additionalProperties" →
      additionalAt m = none)
    (hchoice : ∀ c, choice? m = some c → c.1.name ≠ keyword) :
    (takeOwnChoice (takeOwnObject m)).get? keyword = m.get? keyword := by
  have hown := partOf_takeOwnObject hm
  rw [get?_takeOwnChoice hown.distinct (by rwa [choice?_takeOwnObject hm]),
    get?_takeOwnObject hm (Json.ne_of_schemaKeyword (by decide) hkeyword)
      (Json.ne_of_schemaKeyword (by decide) hkeyword)
      fun h => ⟨hproperties, hadditional h⟩]

end Taken

theorem ne_properties_of_not_follows (hno : NoItems m) (h : ¬ Follows m keyword) :
    "properties" ≠ keyword := fun e => h (e ▸ .properties hno)

theorem additionalAt_eq_none_of_not_follows (hno : NoItems m) (h : ¬ Follows m keyword)
    (hobject : m.has "properties" = true ∨
      listAt m "allOf" = none ∧ choice? m = none ∧ hasType m "object" = true)
    (hkeyword : keyword = "additionalProperties") : additionalAt m = none := by
  subst hkeyword
  by_contra hadditional
  exact h (.additional hno (Option.isSome_iff_ne_none.mpr hadditional) hobject)

theorem ne_choice_of_not_follows (hno : NoItems m) (h : ¬ Follows m keyword)
    {c : ChoiceKeyword × List Json} (hchoice : choice? m = some c) : c.1.name ≠ keyword :=
  fun e => h (e ▸ .choice hno hchoice)

theorem get?_ofAllOf (hm : m.Distinct) (hno : NoItems m) {branches : List Json}
    (hbranches : listAt m "allOf" = some branches) (hkeyword : keyword ∈ Json.schemaKeywords)
    (h : ¬ Follows m keyword) :
    (ofAllOf m branches).extensions.get? keyword = m.get? keyword := by
  have hallOf : "allOf" ≠ keyword := fun e => h (e ▸ .allOf hno (by rw [hbranches]; rfl))
  have hkept := fun {key} (hne : "allOf" ≠ key) => Members.get?_take_of_ne hm hne
  have hadditional : additionalAt (m.take "allOf") = additionalAt m :=
    additionalAt_congr (hkept (by decide))
  have hchoice : choice? (m.take "allOf") = choice? m :=
    choice?_congr (hkept (by decide)) (hkept (by decide))
  have hproperties : (m.take "allOf").has "properties" = m.has "properties" := by
    rw [Members.has, Members.has, hkept (by decide)]
  refine (get?_takeOwn (hm.take _) hkeyword (ne_properties_of_not_follows hno h) ?_ ?_).trans
    (hkept hallOf)
  · rw [hadditional, hproperties]
    exact fun hown => additionalAt_eq_none_of_not_follows hno h (.inl hown)
  · rw [hchoice]
    exact fun c => ne_choice_of_not_follows hno h

theorem get?_of_shapeRule (hm : m.Distinct) (hno : NoItems m) (ho : ShapeRule m o)
    (hkeyword : keyword ∈ Json.schemaKeywords) (h : ¬ Follows m keyword) :
    o.extensions.get? keyword = m.get? keyword := by
  have hne : ∀ {key}, key ∉ Json.schemaKeywords → key ≠ keyword := fun hkey =>
    Json.ne_of_schemaKeyword hkey hkeyword
  have hproperties := ne_properties_of_not_follows hno h
  have hadditional := fun hobject => additionalAt_eq_none_of_not_follows hno h hobject
  cases ho with
  | allOf hbranches => exact get?_ofAllOf hm hno hbranches hkeyword h
  | own _ hchoice _ =>
    exact get?_takeOwn hm hkeyword hproperties (fun hown => hadditional (.inl hown))
      fun c => ne_choice_of_not_follows hno h
  | choice _ hchoice _ =>
    exact Members.get?_take_of_ne hm (ne_choice_of_not_follows hno h hchoice)
  | object hallOf hchoice hobject _ =>
    have htype := partOf_takeType hm "object"
    have hkept := additionalAt_congr (get?_takeType_of_ne hm "object" (by decide))
    have hnone := hadditional (hobject.symm.imp_right fun htype => ⟨hallOf, hchoice, htype⟩)
    rw [get?_takeShape_of_ne htype.distinct hproperties (hne (by decide)) (by rwa [hkept]),
      get?_takeType_of_ne hm _ (hne (by decide))]
  | leaf _ _ _ _ =>
    rw [ofLeaf_eq, get?_leafTake_of_ne (partOf_takeTypes hm).distinct _ (hne (by decide))
      (fun e => (hne (by decide) e.symm).elim), get?_takeTypes_of_ne hm (hne (by decide))]

/-- A keyword that bears schemas and is not followed is kept as it was found. -/
theorem get?_of_not_follows (hm : m.Distinct) (ho : ofMembers m = .ok o)
    (hkeyword : keyword ∈ Json.schemaKeywords) (h : ¬ Follows m keyword) :
    o.extensions.get? keyword = m.get? keyword := by
  have hne : ∀ {key}, key ∉ Json.schemaKeywords → key ≠ keyword := fun hkey =>
    Json.ne_of_schemaKeyword hkey hkeyword
  cases rule_of_ofMembers ho with
  | reference _ => exact Members.get?_take_of_ne hm (hne (by decide))
  | variants hpointer htype =>
    have hitems : "items" ≠ keyword := fun e => h (e ▸ .items hpointer (.inl htype))
    exact (Members.get?_take_of_ne (hm.take _) hitems).trans
      (Members.get?_take_of_ne hm (hne (by decide)))
  | enumeration _ _ _ =>
    exact (Members.get?_take_of_ne (partOf_takeTypes hm).distinct (hne (by decide))).trans
      (get?_takeTypes_of_ne hm (hne (by decide)))
  | array hno _ =>
    have hitems : "items" ≠ keyword := fun e => h (e ▸ .items hno.pointer (.inr hno.values))
    have hdistinct := (partOf_takeType hm "array").distinct
    rw [extensions_ofArray, Members.get?_take_of_ne (hdistinct.take _) hitems,
      Members.get?_take_of_ne hdistinct (hne (by decide)),
      get?_takeType_of_ne hm _ (hne (by decide))]
  | itemList hno _ _ =>
    have hitems : "items" ≠ keyword := fun e => h (e ▸ .items hno.pointer (.inr hno.values))
    rw [extensions_ofItemList, Members.get?_take_of_ne (hm.take _) (hne (by decide)),
      Members.get?_take_of_ne hm hitems]
  | shaped hno h' => exact get?_of_shapeRule hm hno h' hkeyword h

theorem get?_items_of_ofMembers (hm : m.Distinct) (ho : ofMembers m = .ok o)
    (hpointer : textAt m "$ref" = none)
    (h : textAt m "type" = some "enum" ∨ listAt m "enum" = none) :
    o.extensions.get? "items" = none := by
  cases rule_of_ofMembers ho with
  | reference hsome => rw [hpointer] at hsome; cases hsome
  | variants _ _ => exact Members.get?_take_self (hm.take _) "items"
  | enumeration _ htype hvalues =>
    rcases h with h | h
    · exact (htype h).elim
    · rw [hvalues] at h
      cases h
  | array _ _ =>
    rw [extensions_ofArray]
    exact Members.get?_take_self ((partOf_takeType hm _).distinct.take _) "items"
  | itemList _ _ _ =>
    rw [extensions_ofItemList]
    exact ((Members.PartOf.refl (hm.take _)).take _).get?_eq_none (Members.get?_take_self hm _)
  | shaped hno h => exact (partOf_of_shapeRule hm h).get?_eq_none hno.items

theorem get?_properties_of_shapeRule (hm : m.Distinct) (ho : ShapeRule m o) :
    o.extensions.get? "properties" = none := by
  have hpart := partOf_of_shapeRule hm ho
  have hnone : ∀ {e : Members Json}, e.has "properties" = false → e.get? "properties" = none :=
    fun h => by simpa [Members.has] using h
  cases ho with
  | allOf _ =>
    have hown := partOf_takeOwnObject (hm.take "allOf")
    exact (partOf_takeOwnChoice hown.distinct).get?_eq_none (hnone (has_takeOwnObject (hm.take _)))
  | own _ _ _ =>
    have hown := partOf_takeOwnObject hm
    exact (partOf_takeOwnChoice hown.distinct).get?_eq_none (hnone (has_takeOwnObject hm))
  | choice _ _ hproperties | leaf _ _ _ hproperties => exact hpart.get?_eq_none (hnone hproperties)
  | object _ _ _ _ => exact get?_takeShape_eq_none (partOf_takeType hm _).distinct (.inl rfl)

section Taken
variable (hm : m.Distinct)
include hm

theorem get?_additional_takeShape (h : (additionalAt m).isSome = true) :
    (takeShape m).get? "additionalProperties" = none := by
  have hkept : ((m.take "properties").take "required").get? "additionalProperties" =
      m.get? "additionalProperties" :=
    (Members.get?_take_of_ne (hm.take _) (by decide)).trans (Members.get?_take_of_ne hm (by decide))
  rw [takeShape, takeAdditional, additionalAt_congr hkept, if_pos h]
  exact Members.get?_take_self ((hm.take _).take _) _

theorem get?_additional_takeOwn (hown : m.has "properties" = true)
    (h : (additionalAt m).isSome = true) :
    (takeOwnChoice (takeOwnObject m)).get? "additionalProperties" = none := by
  have hshape := partOf_takeShape hm
  apply (partOf_takeOwnChoice (partOf_takeOwnObject hm).distinct).get?_eq_none
  rw [takeOwnObject, if_pos hown]
  exact ((Members.PartOf.refl hshape.distinct).take "type").get?_eq_none
    (get?_additional_takeShape hm h)

theorem get?_choice_takeOwn {c : ChoiceKeyword × List Json} (h : choice? m = some c) :
    (takeOwnChoice (takeOwnObject m)).get? c.1.name = none := by
  rw [takeOwnChoice, choice?_takeOwnObject hm, h]
  exact Members.get?_take_self (partOf_takeOwnObject hm).distinct _

end Taken

theorem get?_additional_of_shapeRule (hm : m.Distinct) (ho : ShapeRule m o)
    (hsome : (additionalAt m).isSome = true) (hobject : m.has "properties" = true ∨
      listAt m "allOf" = none ∧ choice? m = none ∧ hasType m "object" = true) :
    o.extensions.get? "additionalProperties" = none := by
  have hkept := fun {key} (hne : "allOf" ≠ key) => Members.get?_take_of_ne hm hne
  cases ho with
  | allOf hbranches =>
    have hown := hobject.resolve_right fun h => by rw [hbranches] at h; cases h.1
    apply get?_additional_takeOwn (hm.take _)
    · rwa [Members.has, hkept (by decide)]
    · rwa [additionalAt_congr (hkept (by decide))]
  | own _ _ hown => exact get?_additional_takeOwn hm hown hsome
  | choice _ hchoice hproperties =>
    rw [hproperties, hchoice] at hobject
    simp at hobject
  | object _ _ _ _ =>
    apply get?_additional_takeShape (partOf_takeType hm _).distinct
    rwa [additionalAt_congr (get?_takeType_of_ne hm _ (by decide))]
  | leaf _ _ htype hproperties => simp [htype, hproperties] at hobject

theorem get?_allOf_of_shapeRule (hm : m.Distinct) (ho : ShapeRule m o)
    (hsome : (listAt m "allOf").isSome = true) : o.extensions.get? "allOf" = none := by
  cases ho with
  | allOf _ =>
    have hown := partOf_takeOwnObject (hm.take "allOf")
    exact ((partOf_takeOwnChoice hown.distinct).trans hown).get?_eq_none
      (Members.get?_take_self hm "allOf")
  | own hnone _ _ | choice hnone _ _ | object hnone _ _ _ | leaf hnone _ _ _ =>
    rw [hnone] at hsome
    cases hsome

theorem get?_choice_of_shapeRule (hm : m.Distinct) (ho : ShapeRule m o)
    {c : ChoiceKeyword × List Json} (hchoice : choice? m = some c) :
    o.extensions.get? c.1.name = none := by
  cases ho with
  | allOf _ =>
    have hkept := fun {key} (hne : "allOf" ≠ key) => Members.get?_take_of_ne hm hne
    exact get?_choice_takeOwn (hm.take _)
      ((choice?_congr (hkept (by decide)) (hkept (by decide))).trans hchoice)
  | own _ _ _ => exact get?_choice_takeOwn hm hchoice
  | choice _ hsame _ =>
    rw [hsame] at hchoice
    obtain rfl := Option.some.inj hchoice
    exact Members.get?_take_self hm _
  | object _ hnone _ _ | leaf _ hnone _ _ =>
    rw [hnone] at hchoice
    cases hchoice

/-- A keyword that is followed is not kept. -/
theorem get?_of_follows (hm : m.Distinct) (ho : ofMembers m = .ok o) (h : Follows m keyword) :
    o.extensions.get? keyword = none := by
  cases h with
  | items hpointer htype => exact get?_items_of_ofMembers hm ho hpointer htype
  | properties hno => exact get?_properties_of_shapeRule hm (shapeRule_of_ofMembers hno ho)
  | additional hno hsome hobject =>
    exact get?_additional_of_shapeRule hm (shapeRule_of_ofMembers hno ho) hsome hobject
  | allOf hno hsome => exact get?_allOf_of_shapeRule hm (shapeRule_of_ofMembers hno ho) hsome
  | choice hno hchoice => exact get?_choice_of_shapeRule hm (shapeRule_of_ofMembers hno ho) hchoice

end Outline

end MockBuilders
