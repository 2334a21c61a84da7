import MockBuilders.Proofs.Json.Location
import MockBuilders.Proofs.Schema.Layers

/-!
What is blamed for a value that is not read as a schema, and where it stands. The reason tells the
names on the way to it as they are, so its pointer is read back only if they are plain.
Main statements: `Outline.located_of_ofMembers` and `Schema.blamed_of_ofJson`.
-/
namespace MockBuilders

namespace Malformed

def found : Malformed → Json
  | noSchema found _ | noProperties found _ => found

def pointer : Malformed → String
  | noSchema _ pointer | noProperties _ pointer => pointer

/-- What the reason says before the value. -/
def phrase : Malformed → String
  | noSchema _ _ => "expected a schema object, found "
  | noProperties _ _ => "expected an object of properties, found "

theorem reason_eq (e : Malformed) :
    e.reason = e.phrase ++ e.found.text ++ " at " ++ e.pointer := by
  cases e <;> rfl

/-- The value at a path is blamed: no schema at all, or properties that are no object. -/
inductive Blamed (v : Json) (path : List String) : Malformed → Prop
  | noSchema {found : Json} (pointer : String) : v.at? path = some found →
      found.isObject = false → (∀ b, found ≠ .bool b) → Blamed v path (.noSchema found pointer)
  | noProperties {found : Json} (pointer : String) : v.at? path = some found →
      found.isObject = false → path.getLast? = some "properties" →
      Blamed v path (.noProperties found pointer)

end Malformed

namespace Outline

variable {m : Members Json} {o : Outline}

/-- Where a part stands in an object: at the path of its step, or in the object itself as some of
its members. -/
inductive Located (m : Members Json) : Part → Prop
  | below (path : List String) {value : Json} : (Json.object m).at? path = some value →
      Located m ⟨Pointer.spelled path, value⟩
  | beside {n : Members Json} : n.PartOf m → Located m ⟨"", .object n⟩

theorem located_member {keyword : String} {value : Json} (h : m.get? keyword = some value) :
    Located m ⟨"/" ++ keyword, value⟩ := by
  have hspelled : Pointer.spelled [keyword] = "/" ++ keyword := by simp [Pointer.spelled]
  exact hspelled ▸ .below [keyword] (Json.at?_member h)

theorem located_inside {keyword name : String} {value next : Json}
    (h : m.get? keyword = some value) (hnext : value.at? [name] = some next) :
    Located m ⟨"/" ++ keyword ++ "/" ++ name, next⟩ := by
  have hspelled : Pointer.spelled [keyword, name] = "/" ++ keyword ++ "/" ++ name := by
    simp [Pointer.spelled, String.append_assoc]
  have hat : (Json.object m).at? ([keyword] ++ [name]) = some next := by
    rw [Json.at?_append, Json.at?_member h]
    exact hnext
  exact hspelled ▸ .below [keyword, name] hat

theorem located_parts {keyword : String} {items : List Json}
    (h : m.get? keyword = some (.array items)) : ∀ p ∈ parts keyword items, Located m p := by
  intro p hp
  obtain ⟨i, hi, rfl⟩ := List.mem_mapIdx.mp hp
  exact located_inside h (Json.at?_item (List.getElem?_eq_getElem hi))

theorem located_ownObject (hm : m.Distinct) : ∀ p ∈ ownObject m, Located m p := by
  intro p hp
  unfold ownObject at hp
  split at hp
  · rw [List.mem_singleton.mp hp]
    refine .beside ⟨hm.filter _, fun {key value} h => ?_⟩
    rw [Members.get?_filter hm] at h
    exact (Option.filter_eq_some_iff.mp h).1
  · cases hp

theorem located_ownChoice : ∀ p ∈ ownChoice m, Located m p := by
  intro p hp
  obtain ⟨⟨keyword, branches⟩, hc, rfl⟩ := List.mem_map.mp hp
  have hk := get?_of_choice? (Option.mem_toList.mp hc)
  refine .beside ⟨List.nodup_singleton _, fun {key value} h => ?_⟩
  obtain ⟨rfl, rfl⟩ := Prod.mk.inj (List.mem_singleton.mp (Members.mem_of_get? h))
  exact hk

theorem located_additional {p : Part} (h : additionalAt m = some p) : Located m p := by
  unfold additionalAt at h
  split at h
  · next hget =>
    obtain rfl := Option.some.inj h
    exact located_member hget
  · cases h

theorem located_property {properties : Members Json} (hm : (Json.object m).WellFormed)
    (h : m.get? "properties" = some (.object properties)) {name : String} {value : Json}
    (hmem : (name, value) ∈ properties) : Located m ⟨"/properties/" ++ name, value⟩ := by
  have hobject := (Json.wellFormed_object_iff.mp hm).2 _ (Members.mem_of_get? h)
  have hdistinct := (Json.wellFormed_object_iff.mp hobject).1
  exact located_inside h (Json.at?_member ((Members.get?_eq_some_iff hdistinct).mpr hmem))

theorem located_shape {s : ObjectShape Part} (hm : (Json.object m).WellFormed)
    (h : shape m = .ok s) : ∀ p ∈ s.children, Located m p := by
  have hadditional : ∀ p ∈ (additionalAt m).toList, Located m p := fun p hp =>
    located_additional (Option.mem_toList.mp hp)
  unfold shape at h
  split at h
  · obtain rfl := Except.ok.inj h
    exact hadditional
  · next properties hget =>
    obtain rfl := Except.ok.inj h
    intro p hp
    rcases List.mem_append.mp hp with hp | hp
    · rw [List.map_map] at hp
      obtain ⟨⟨name, value⟩, hmem, rfl⟩ := List.mem_map.mp hp
      exact located_property hm hget hmem
    · exact hadditional p hp
  · cases h

theorem located_ofArray : ∀ p ∈ (ofArray m).kind.children, Located m p := by
  unfold ofArray
  dsimp only
  split
  · exact nofun
  · next items hitems =>
    split <;> exact located_parts hitems
  · next hitems => exact List.forall_mem_singleton.mpr (located_member hitems)

theorem located_of_shapeRule (hm : (Json.object m).WellFormed) (h : ShapeRule m o) :
    ∀ p ∈ o.kind.children, Located m p := by
  have hdistinct := (Json.wellFormed_object_iff.mp hm).1
  cases h with
  | allOf hbranches =>
    exact List.forall_mem_append.mpr ⟨List.forall_mem_append.mpr
      ⟨located_ownObject hdistinct, located_parts (get?_of_listAt hbranches)⟩, located_ownChoice⟩
  | own _ _ _ => exact List.forall_mem_append.mpr ⟨located_ownObject hdistinct, located_ownChoice⟩
  | choice _ hchoice _ => exact located_parts (get?_of_choice? hchoice)
  | object _ _ _ hshape => exact located_shape hm hshape
  | leaf _ _ _ _ => exact nofun

/-- Every part of an object is located in it. -/
theorem located_of_ofMembers (hm : (Json.object m).WellFormed) (h : ofMembers m = .ok o) :
    ∀ p ∈ o.kind.children, Located m p := by
  cases rule_of_ofMembers h with
  | reference _ | enumeration _ _ _ => exact nofun
  | variants _ _ =>
    cases hitems : listAt m "items" with
    | none => simp [ofVariants, hitems, Kind.children, parts]
    | some items =>
      rw [ofVariants, hitems]
      exact located_parts (get?_of_listAt hitems)
  | array _ _ => exact located_ofArray
  | itemList _ hitems _ =>
    unfold ofItemList
    dsimp only
    split <;> exact located_parts (get?_of_listAt hitems)
  | shaped _ h => exact located_of_shapeRule hm h

theorem shape_eq_error {found : Json} (h : shape m = .error found) :
    m.get? "properties" = some found ∧ found.isObject = false := by
  unfold shape at h
  split at h
  · cases h
  · cases h
  · next other hother hget =>
    obtain rfl := Except.error.inj h
    refine ⟨hget, ?_⟩
    cases other with
    | object members => exact (hother members rfl).elim
    | _ => rfl

/-- An object is refused for properties that are no object only. -/
theorem ofMembers_eq_error {found : Json} (h : ofMembers m = .error found) :
    m.get? "properties" = some found ∧ found.isObject = false := by
  -- every rule but the one for plain objects gives a layer
  unfold ofMembers at h
  iterate 7 (split at h; · cases h)
  split at h
  · exact shape_eq_error (map_eq_error_iff.mp h)
  · cases h

end Outline

namespace Malformed

variable {e : Malformed} {m n : Members Json} {path rest : List String} {v w : Json}

theorem Blamed.at?_eq (h : Blamed v path e) : v.at? path = some e.found := by
  cases h with
  | noSchema _ hat _ _ => exact hat
  | noProperties _ hat _ _ => exact hat

theorem Blamed.path_ne_nil (h : Blamed (.object m) path e) : path ≠ [] := by
  rintro rfl
  cases h with
  | noSchema _ hat hobject _ | noProperties _ hat hobject _ =>
    obtain rfl := Option.some.inj hat
    cases hobject

theorem Blamed.moved (h : Blamed w rest e) (hat : v.at? path = some e.found)
    (hlast : ∀ name, rest.getLast? = some name → path.getLast? = some name) :
    Blamed v path e := by
  cases h with
  | noSchema pointer _ hobject hbool => exact .noSchema pointer hat hobject hbool
  | noProperties pointer _ hobject hrest =>
    exact .noProperties pointer hat hobject (hlast _ hrest)

/-- What is blamed in a value is blamed in whatever holds the value. -/
theorem Blamed.below (h : Blamed w rest e) (hw : v.at? path = some w) :
    Blamed v (path ++ rest) e := by
  apply h.moved
  · rw [Json.at?_append, hw]
    exact h.at?_eq
  · intro name hname
    rw [List.getLast?_append, hname, Option.some_or]

theorem Blamed.of_partOf (h : Blamed (.object n) path e) (hn : n.PartOf m) :
    Blamed (.object m) path e := by
  obtain ⟨name, rest, rfl⟩ := List.exists_cons_of_ne_nil h.path_ne_nil
  obtain ⟨next, hnext, hrest⟩ := Option.bind_eq_some_iff.mp h.at?_eq
  exact h.moved (Option.bind_eq_some_iff.mpr ⟨next, hn.get? hnext, hrest⟩) fun _ => id

end Malformed

namespace Schema

/-- What cannot be read is blamed for it, at a path that the pointer spells. -/
theorem blamed_of_read {v : Json} (hv : v.WellFormed) {pointer : String} {e : Malformed}
    (h : read pointer v = .error e) :
    ∃ path, e.Blamed v path ∧ e.pointer = pointer ++ Pointer.spelled path := by
  induction hsize : v.size using Nat.strongRecOn generalizing v pointer with
  | ind size ih =>
    cases v with
    | object m =>
      rw [read_object] at h
      split at h
      · next found hfound =>
        obtain rfl := Except.error.inj h
        obtain ⟨hget, hobject⟩ := Outline.ofMembers_eq_error hfound
        refine ⟨["properties"], .noProperties _ (Json.at?_member hget) hobject rfl, ?_⟩
        simp [Malformed.pointer, Pointer.spelled]
      · next o ho =>
        rcases bind_eq_error_iff.mp h with h | ⟨_, -, h⟩
        · obtain ⟨p, hp, h⟩ := Kind.exists_of_traverse_eq_error h
          have hlt : p.value.size < size := by
            rw [← hsize, Json.size]
            exact Nat.lt_succ_of_le (Outline.size_of_mem ho p hp)
          have hpart := Json.wellFormed_part hv ho hp
          obtain ⟨path, hblamed, hpointer⟩ := ih p.value.size hlt hpart h rfl
          cases Outline.located_of_ofMembers hv ho p hp with
          | below steps hat =>
            refine ⟨steps ++ path, hblamed.below hat, ?_⟩
            rw [hpointer, Pointer.spelled_append, String.append_assoc]
          | beside hbeside =>
            refine ⟨path, hblamed.of_partOf hbeside, ?_⟩
            rwa [String.append_empty] at hpointer
        · cases h
    | bool b => cases b <;> simp [read] at h
    | null | number _ | string _ | array _ =>
      simp only [read] at h
      obtain rfl := Except.error.inj h
      refine ⟨[], .noSchema _ rfl rfl (fun _ h => by cases h), ?_⟩
      simp [Malformed.pointer, Pointer.spelled]

/-- The reason ends in a pointer to the value that it prints, which leads there if and only if no
name on the way holds a slash or a tilde. -/
theorem blamed_of_ofJson {v : Json} (hv : v.WellFormed) {e : Malformed} (h : ofJson v = .error e) :
    ∃ path, e.Blamed v path ∧
      e.reason = e.phrase ++ e.found.text ++ " at " ++ e.pointer ∧
      (Pointer.path? e.pointer = some path ↔ ∀ name ∈ path, Pointer.Plain name) ∧
      ((∀ name ∈ path, Pointer.Plain name) → v.designated? e.pointer = some e.found) := by
  obtain ⟨path, hblamed, hpointer⟩ := blamed_of_read hv h
  have hplain : Pointer.path? e.pointer = some path ↔ ∀ name ∈ path, Pointer.Plain name := by
    rw [hpointer]
    exact Pointer.path?_spelled_iff
  refine ⟨path, hblamed, e.reason_eq, hplain, fun hnames => ?_⟩
  rw [Json.designated?, hplain.mpr hnames]
  exact hblamed.at?_eq

section Drawer

/-- Labels whose items are listed, but not all as schemas. -/
def drawerLabels : Members Json :=
  [("type", .string "array"), ("items", .array [.bool true, .number (.integer 7)])]

def drawerProperties : Members Json :=
  [("properties", .object [("labels", .object drawerLabels)])]

/-- Properties beside what every drawer is made of. -/
def drawerValue : Json :=
  .object (("allOf", .array [.object [("$ref", .string "#/x/Box")]]) :: drawerProperties)

def drawerFailure : Malformed :=
  .noSchema (.number (.integer 7)) "#/properties/labels/items/1"

theorem ofJson_drawer : ofJson drawerValue = .error drawerFailure := by
  have hlabels : ∀ pointer, read pointer (.object drawerLabels) =
      .error (.noSchema (.number (.integer 7)) (pointer ++ "/items/1")) := by
    intro pointer
    have ho : Outline.ofMembers drawerLabels =
      .ok ⟨.mixedArray [⟨"/items/0", .bool true⟩, ⟨"/items/1", .number (.integer 7)⟩], []⟩ := rfl
    simp only [read_object, ho, Kind.traverse, List.mapM_cons, read]
    rfl
  have hproperties : ∀ pointer, read pointer (.object drawerProperties) =
        .error (.noSchema (.number (.integer 7))
          (pointer ++ "/properties/labels" ++ "/items/1")) := by
    intro pointer
    have ho : Outline.ofMembers drawerProperties = .ok ⟨.object
      ⟨[("labels", ⟨"/properties/labels", .object drawerLabels⟩)], [], none⟩, []⟩ := rfl
    simp only [read_object, ho, Kind.traverse, List.mapM_cons, hlabels]
    rfl
  have ho : Outline.ofMembers (("allOf", .array [.object [("$ref", .string "#/x/Box")]]) ::
      drawerProperties) = .ok ⟨.allOf [⟨"", .object drawerProperties⟩,
        ⟨"/allOf/0", .object [("$ref", .string "#/x/Box")]⟩], []⟩ := rfl
  simp only [ofJson, drawerValue, read_object, ho, Kind.traverse, List.mapM_cons, hproperties]
  rfl

theorem drawer_blamed : drawerValue.WellFormed ∧ ofJson drawerValue = .error drawerFailure ∧
    ∃ path, drawerFailure.Blamed drawerValue path ∧
      drawerFailure.reason = drawerFailure.phrase ++ drawerFailure.found.text ++ " at " ++
        drawerFailure.pointer ∧
      (Pointer.path? drawerFailure.pointer = some path ↔ ∀ name ∈ path, Pointer.Plain name) ∧
      ((∀ name ∈ path, Pointer.Plain name) →
        drawerValue.designated? drawerFailure.pointer = some drawerFailure.found) := by
  have hwellFormed : drawerValue.WellFormed := by
    simp [drawerValue, drawerProperties, drawerLabels, Json.WellFormed, Json.WellFormedMembers,
      Json.WellFormedItems, Members.Distinct, Members.keys]
  exact ⟨hwellFormed, ofJson_drawer, blamed_of_ofJson hwellFormed ofJson_drawer⟩

end Drawer

section Shelf

/-- A property whose name holds a slash, and that is no schema. -/
def shelfValue : Json :=
  .object [("properties", .object [("width/depth", .number (.integer 42))])]

def shelfFailure : Malformed :=
  .noSchema (.number (.integer 42)) "#/properties/width/depth"

/-- The pointer leads nowhere. -/
theorem shelf_not_designated : shelfValue.WellFormed ∧ ofJson shelfValue = .error shelfFailure ∧
    shelfFailure.reason = "expected a schema object, found 42 at #/properties/width/depth" ∧
    Pointer.path? shelfFailure.pointer = some ["properties", "width", "depth"] ∧
    shelfValue.designated? shelfFailure.pointer = none := by
  refine ⟨?_, ?_, ?_, ?_, ?_⟩
  · simp [shelfValue, Json.WellFormed, Json.WellFormedMembers, Members.Distinct, Members.keys]
  · have ho : Outline.ofMembers [("properties", .object [("width/depth", .number (.integer 42))])] =
      .ok ⟨.object ⟨[("width/depth", ⟨"/properties/width/depth", .number (.integer 42)⟩)], [],
        none⟩, []⟩ := rfl
    simp only [ofJson, shelfValue, read_object, ho, Kind.traverse, List.mapM_cons, read]
    rfl
  · decide
  · decide
  · decide

end Shelf

end Schema

end MockBuilders
