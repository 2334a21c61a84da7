import MockBuilders.Proofs.Schema.Rereading

/-!
A schema that is read and written is read again, as one that is written in the same way. Objects
with two lists of alternatives are left out, and lists of items that are combined by `and` beside
properties or alternatives: there the second reading takes up what the first one kept aside.
Main statement: `Schema.exists_ofJson_toJson`.
-/
namespace MockBuilders

namespace Outline

variable {m : Members Json} {o : Outline}

/-- An object that has no second list of alternatives, and neither properties nor alternatives
beside items that are combined by `and`. -/
structure Plain (m : Members Json) : Prop where
  alternatives : ¬((listAt m "anyOf").isSome ∧ (listAt m "oneOf").isSome)
  items : (listAt m "items").isSome → textAt m "logicalOperator" = some "and" →
    m.get? "properties" = none ∧ m.get? "anyOf" = none ∧ m.get? "oneOf" = none

theorem Plain.of_none (hone : listAt m "oneOf" = none) (hitems : listAt m "items" = none) :
    Plain m where
  alternatives := fun h => by rw [hone] at h; cases h.2
  items := fun h => by rw [hitems] at h; cases h

theorem not_two_lists_of_partOf {e : Members Json} (h : e.PartOf m)
    (hm : ¬((listAt m "anyOf").isSome ∧ (listAt m "oneOf").isSome)) :
    ¬((listAt e "anyOf").isSome ∧ (listAt e "oneOf").isSome) := by
  have hsome : ∀ key, (listAt e key).isSome → (listAt m key).isSome := by
    intro key he
    by_contra hnone
    rw [listAt_none_of_partOf h (by simpa using hnone)] at he
    cases he
  exact fun he => hm ⟨hsome _ he.1, hsome _ he.2⟩

section Taken
variable (hm : m.Distinct)
include hm

theorem choice?_takeOwnChoice
    (h : ¬((listAt m "anyOf").isSome ∧ (listAt m "oneOf").isSome)) :
    choice? (takeOwnChoice m) = none := by
  have hself := Members.PartOf.refl hm
  unfold takeOwnChoice
  split
  · next keyword branches hchoice =>
    rw [choice?_eq_none_iff]
    have hlist : (listAt m keyword.name).isSome = true := by
      rw [listAt, get?_of_choice? hchoice]
      rfl
    have htaken : listAt (m.take keyword.name) keyword.name = none :=
      listAt_none_of_get? (Members.get?_take_self hm _)
    have hother : ∀ key, (listAt m key).isSome = false →
        listAt (m.take keyword.name) key = none := fun key hkey =>
      listAt_none_of_partOf (hself.take _) (by simpa using hkey)
    cases keyword with
    | anyOf => exact ⟨htaken, hother _ (by simpa using fun hone => h ⟨hlist, hone⟩)⟩
    | oneOf => exact ⟨hother _ (by simpa using fun hany => h ⟨hany, hlist⟩), htaken⟩
  · assumption

theorem inert_takeOwn (h : ¬((listAt m "anyOf").isSome ∧ (listAt m "oneOf").isSome)) :
    (takeOwnChoice (takeOwnObject m)).has "properties" = false ∧
      choice? (takeOwnChoice (takeOwnObject m)) = none := by
  have hown := partOf_takeOwnObject hm
  refine ⟨has_false_of_partOf (partOf_takeOwnChoice hown.distinct) (has_takeOwnObject hm), ?_⟩
  exact choice?_takeOwnChoice hown.distinct (not_two_lists_of_partOf hown h)

theorem inert_ofArray (h : hasType m "array" = true ∨ m.has "items" = true) :
    (ofArray m).kind.Inert (ofArray m).extensions := by
  unfold ofArray
  dsimp only
  split
  · next hitems =>
    -- without items the type alone makes an array, and stays unless it is the bare keyword
    have harray := h.resolve_right (by simp [Members.has, hitems])
    have hdistinct := (partOf_takeType hm "array").distinct
    have htype : (((takeType m "array").take "logicalOperator").take "items").get? "type" =
        (takeType m "array").get? "type" := by
      rw [Members.get?_take_of_ne (hdistinct.take _) (by decide),
        Members.get?_take_of_ne hdistinct (by decide)]
    rw [Kind.Inert, Members.has, hasType, htype, takeType]
    split
    · rw [Members.get?_take_self hm]
      exact fun hnone => by cases hnone
    · exact fun _ => harray
  · split <;> trivial
  · trivial

theorem inert_object {s : ObjectShape Part} (hallOf : listAt m "allOf" = none)
    (hchoice : choice? m = none) (hshape : shape m = .ok s) :
    (Kind.object s).Inert (takeShape (takeType m "object")) := by
  have htype := partOf_takeType hm "object"
  have hpart := (partOf_takeShape htype.distinct).trans htype
  refine ⟨listAt_none_of_partOf hpart hallOf, choice?_none_of_partOf hpart hchoice, ?_, ?_⟩
  · rw [Members.has, get?_takeShape_eq_none htype.distinct (.inr rfl)]
    exact fun _ hnone => by cases hnone
  · rw [additional_of_shape hshape]
    exact additionalAt_none_of_partOf hpart

theorem inert_ofLeaf (hallOf : listAt m "allOf" = none) (hchoice : choice? m = none)
    (hobject : hasType m "object" = false) (hproperties : m.has "properties" = false) :
    (ofLeaf m).kind.Inert (ofLeaf m).extensions := by
  have htypes := partOf_takeTypes hm
  have hpart := (partOf_leafTake htypes.distinct (typesAt m)).trans htypes
  refine ⟨has_false_of_partOf hpart hproperties, listAt_none_of_partOf hpart hallOf,
    choice?_none_of_partOf hpart hchoice, fun hempty => ⟨?_, hasType_false_of_partOf hpart hobject⟩⟩
  have hempty : typesAt m = [] := (types_leafTake _ _).symm.trans hempty
  have hkept : typesAt (Leaf.take (typesAt m) m).2 = typesAt m := by
    rw [typesAt, typesAt, get?_leafTake_of_ne hm _ (by decide) fun h => absurd h (by decide)]
  rw [ofLeaf_eq, takeTypes, if_pos hempty]
  exact hkept.trans hempty

end Taken

theorem inert_of_shapeRule (hm : m.Distinct) (hplain : Plain m) (h : ShapeRule m o) :
    o.kind.Inert o.extensions := by
  have hpart := partOf_of_shapeRule hm h
  cases h with
  | allOf _ =>
    have hrest := (Members.PartOf.refl hm).take "allOf"
    exact inert_takeOwn hrest.distinct (not_two_lists_of_partOf hrest hplain.alternatives)
  | own _ _ _ => exact inert_takeOwn hm hplain.alternatives
  | choice hallOf _ hproperties =>
    exact ⟨has_false_of_partOf hpart hproperties, listAt_none_of_partOf hpart hallOf⟩
  | object hallOf hchoice _ hshape => exact inert_object hm hallOf hchoice hshape
  | leaf hallOf hchoice hobject hproperties =>
    exact inert_ofLeaf hm hallOf hchoice hobject hproperties

/-- What is kept beside the layer of a plain object is inert. -/
theorem inert_ofMembers (hm : m.Distinct) (hplain : Plain m) (h : ofMembers m = .ok o) :
    o.kind.Inert o.extensions := by
  cases rule_of_ofMembers h with
  | reference _ | variants _ _ | enumeration _ _ _ => trivial
  | array _ harray => exact inert_ofArray hm (harray.imp_right And.left)
  | itemList _ hlist _ =>
    have hrest := ((Members.PartOf.refl hm).take "items").take "logicalOperator"
    unfold ofItemList
    dsimp only
    split
    · next hand =>
      obtain ⟨hproperties, hany, hone⟩ := hplain.items (by rw [hlist]; rfl) hand
      refine ⟨has_false_of_partOf hrest (by rw [Members.has, hproperties]; rfl), ?_⟩
      exact choice?_none_of_partOf hrest (choice?_eq_none_iff.mpr
        ⟨listAt_none_of_get? hany, listAt_none_of_get? hone⟩)
    · trivial
  | shaped _ h => exact inert_of_shapeRule hm hplain h

end Outline

namespace Schema

variable {s : Schema}

theorem inert_any : any.kind.Inert any.extensions :=
  ⟨rfl, rfl, rfl, fun _ => ⟨rfl, rfl⟩⟩

theorem inert_never : never.kind.Inert never.extensions :=
  ⟨rfl, rfl, rfl, fun _ => ⟨rfl, rfl⟩⟩

theorem inert_of_read {pointer : String} {v : Json} (hv : v.WellFormed)
    (hplain : ∀ m, v.Reads (.object m) → Outline.Plain m) (h : read pointer v = .ok s) {t : Schema}
    (ht : s.Contains t) : t.kind.Inert t.extensions := by
  obtain ⟨q, w, hw, ht⟩ := exists_reads_of_contains h ht
  rcases read_cases ht with rfl | rfl | ⟨m, rfl⟩
  · exact inert_any
  · exact inert_never
  · obtain ⟨o, k, ho, hk, rfl⟩ := read_object_eq_ok_iff.mp ht
    have hm := (Json.wellFormed_object_iff.mp (hw.wellFormed hv)).1
    exact (hk.inert_iff _).mp (Outline.inert_ofMembers hm (hplain m hw) ho)

theorem wellFormed_toJson_of_read {pointer : String} {v : Json} (hv : v.WellFormed)
    (h : read pointer v = .ok s) : s.toJson.WellFormed :=
  ((agree_read (.refl hv) pointer pointer).rel h h).toJson.left

/-- A schema that was read, of plain objects only, is written as a value that is read again, and
the same is written then, in some order. -/
theorem exists_ofJson_toJson {v : Json} (hv : v.WellFormed)
    (hplain : ∀ m, v.Reads (.object m) → Outline.Plain m) (h : ofJson v = .ok s) :
    ∃ t, ofJson s.toJson = .ok t ∧ t.toJson.Reordered s.toJson := by
  have htidy : ∀ t, s.Contains t → t.Tidy := fun t => tidy_of_read hv h
  obtain ⟨t, hread, hst⟩ := exists_read_toJson (wellFormed_toJson_of_read hv h) htidy
    fun t => inert_of_read hv hplain h
  exact ⟨t, hread _, hst.written.symm.reordered⟩

section Page

def pageTitle : Members Json := [("type", .string "string")]

def pageEntry : Members Json := [("$ref", .string "#/x/Entry")]

def pageOwn : Members Json :=
  [("properties", .object [("title", .object pageTitle)]), ("required", .array [.string "title"])]

/-- An intersection with properties of its own. -/
def page : Members Json :=
  [("allOf", .array [.object pageEntry]), ("properties", .object [("title", .object pageTitle)]),
    ("required", .array [.string "title"]), ("description", .string "A page")]

def pageSchema : Schema :=
  mk (.allOf [mk (.object ⟨[("title", ofPrimitive .string)], ["title"], none⟩) [],
    ofPointer "#/x/Entry"]) [("description", .string "A page")]

theorem exists_ofJson_page : (Json.object page).WellFormed ∧
    (∀ m, (Json.object page).Reads (.object m) → Outline.Plain m) ∧
    ofJson (.object page) = .ok pageSchema ∧
    ∃ t, ofJson pageSchema.toJson = .ok t ∧ t.toJson.Reordered pageSchema.toJson := by
  have hpage : Outline.ofMembers page = .ok ⟨.allOf [⟨"", .object pageOwn⟩,
    ⟨"/allOf/0", .object pageEntry⟩], [("description", .string "A page")]⟩ := rfl
  have hown : Outline.ofMembers pageOwn = .ok ⟨.object
    ⟨[("title", ⟨"/properties/title", .object pageTitle⟩)], ["title"], none⟩, []⟩ := rfl
  have hentry : Outline.ofMembers pageEntry = .ok ⟨.reference "#/x/Entry", []⟩ := rfl
  have htitle : Outline.ofMembers pageTitle = .ok ⟨.leaf ⟨[.string], none, none⟩, []⟩ := rfl
  have hwellFormed : (Json.object page).WellFormed := by
    simp [page, pageEntry, pageTitle, Json.WellFormed, Json.WellFormedMembers,
      Json.WellFormedItems, Members.Distinct, Members.keys]
  have hread : ofJson (.object page) = .ok pageSchema := by
    refine read_object_eq_ok_iff.mpr ⟨_, _, hpage, .allOf (.cons ?_ (.cons ?_ .nil)), rfl⟩
    · refine read_object_eq_ok_iff.mpr ⟨_, _, hown, .object _ (.cons ⟨rfl, ?_⟩ .nil) .none, rfl⟩
      exact read_ofPrimitive _ .string
    · exact read_ofPointer _ _
  have hplain : ∀ m, (Json.object page).Reads (.object m) → Outline.Plain m := by
    simp only [Json.forall_reads_object_iff hpage, Json.forall_reads_object_iff hown,
      Json.forall_reads_object_iff hentry, Json.forall_reads_object_iff htitle, Kind.children,
      ObjectShape.children, List.forall_mem_cons, List.map_cons, List.map_nil, List.cons_append,
      List.nil_append, Option.toList_none, List.not_mem_nil, false_implies, implies_true, and_true]
    exact ⟨.of_none rfl rfl, ⟨.of_none rfl rfl, .of_none rfl rfl⟩, .of_none rfl rfl⟩
  exact ⟨hwellFormed, hplain, hread, exists_ofJson_toJson hwellFormed hplain hread⟩

end Page

end Schema

end MockBuilders
