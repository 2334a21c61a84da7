import MockBuilders.Proofs.Schema.Merging

/-!
Enumerations made of records: the constants that are listed, and which of them the types of the
enumeration admit. The types are declared by the records or those of the constants, and none of them
admits an array or an object.
Main statements: `Schema.get?_extensions_canonical`, `Schema.admits_flatten` and
`Schema.enumeration_of_variants`.
-/
namespace MockBuilders

/-- Whether the number is whole; binary numbers may be. -/
def Number.isWhole : Number → Bool
  | integer _ => true
  | binary x => x.ticks % Nat.pow 2 Binary64.places == 0

/-- Arrays and objects, which are values of no primitive type. -/
def Json.isContainer : Json → Bool
  | array _ | object _ => true
  | _ => false

namespace Primitive

variable {p : Primitive} {v : Json}

/-- Whether a value is of the type. -/
def admits : Primitive → Json → Bool
  | string, .string _ => true
  | number, .number _ => true
  | integer, .number n => n.isWhole
  | boolean, .bool _ => true
  | null, .null => true
  | _, _ => false

theorem admits_of_ofConstant? (h : ofConstant? v = some p) : p.admits v = true := by
  cases v <;> cases h <;> rfl

theorem isContainer_of_admits (h : p.admits v = true) : v.isContainer = false := by
  cases v with
  | array _ | object _ => cases p <;> cases h
  | null | bool _ | number _ | string _ => rfl

theorem ofConstant?_eq_none_iff : ofConstant? v = none ↔ v.isContainer = true := by
  cases v <;> simp [ofConstant?, Json.isContainer]

end Primitive

namespace TypeTag

variable {types : TypeTag} {v : Json}

/-- Whether a value is of one of the types. -/
def admits (types : TypeTag) (v : Json) : Bool := types.any (·.admits v)

theorem admits_iff : types.admits v = true ↔ ∃ p ∈ types, p.admits v = true := List.any_eq_true

theorem admits_eq_false_of_isContainer (h : v.isContainer = true) : types.admits v = false := by
  rw [← Bool.not_eq_true, admits_iff]
  rintro ⟨p, -, hp⟩
  rw [Primitive.isContainer_of_admits hp] at h
  cases h

end TypeTag

namespace Schema

variable {r s : Schema} {records branches : List Schema} {e : Members Json} {v : Json}

section Constants

/-- The branches that the schema is merged from, if it is an intersection of objects only. -/
def mergedBranches (s : Schema) : List Schema :=
  match s.kind with
  | .allOf branches => if branches.all fun b => b.canonical.object?.isSome then branches else []
  | _ => []

/-- A keyword beside a record, or else the first one beside a branch that the record is merged
from. -/
def heldAt (s : Schema) (key : String) : Option Json :=
  (s.extensions.get? key).or
    (s.mergedBranches.findSome? fun b => b.canonical.extensions.get? key)

/-- The constant that a record gives to its enumeration. -/
def heldConstant (record : Schema) : Option Json := record.heldAt "const"

theorem heldAt_of_not_allOf (h : ∀ branches, s.kind ≠ .allOf branches) (key : String) :
    s.heldAt key = s.extensions.get? key := by
  have hnone : s.mergedBranches = [] := by
    unfold mergedBranches
    split
    · next branches hkind => exact (h branches hkind).elim
    · rfl
  rw [heldAt, hnone]
  exact Option.or_none

theorem get?_extensions_merge (hdistinct : e.Distinct) (key : String) :
    (merge (branches.map canonical) e).extensions.get? key =
      (mk (.allOf branches) e).heldAt key := by
  unfold heldAt mergedBranches
  simp only [kind, extensions]
  by_cases hobjects : branches.all fun b => b.canonical.object?.isSome
  · by_cases hne : branches = []
    · subst hne
      exact Option.or_none.symm
    have hcanonical : ∀ b ∈ branches.map canonical, b.object? ≠ none :=
      List.forall_mem_map.mpr fun b hb =>
        Option.isSome_iff_ne_none.mp (List.all_eq_true.mp hobjects b hb)
    rw [merge_eq (by simpa using hne) hcanonical, if_pos hobjects]
    refine (get?_mergedExtensions hdistinct key).trans ?_
    rw [List.findSome?_map]
    rfl
  · rw [if_neg hobjects]
    have hapart : merge (branches.map canonical) e = mk (.allOf (branches.map canonical)) e := by
      unfold merge
      split
      · next shape shapes hshapes =>
        have hsome := (exists_mapM_object?_iff.mp ⟨shape, shapes, hshapes⟩).2
        refine (hobjects (List.all_eq_true.mpr fun b hb => ?_)).elim
        exact Option.isSome_iff_ne_none.mpr (hsome _ (List.mem_map_of_mem hb))
      · rfl
    rw [hapart]
    exact Option.or_none.symm

theorem get?_extensions_collapse (hdistinct : e.Distinct) {key : String}
    (hdefault : "default" ≠ key) (hexamples : "examples" ≠ key) :
    (collapse branches e).extensions.get? key = e.get? key := by
  unfold collapse
  split
  · exact Outline.get?_leafTake_of_ne hdistinct _ hdefault fun h => (hexamples h.symm).elim
  · rfl

/-- What is kept beside a schema stays beside its canonical form, but for what becomes part of a
leaf; only an intersection of objects gets more, from its branches. -/
theorem get?_extensions_canonical (hdistinct : s.extensions.Distinct) {key : String}
    (hdefault : "default" ≠ key) (hexamples : "examples" ≠ key) :
    s.canonical.extensions.get? key = s.heldAt key := by
  obtain ⟨kind, e⟩ := s
  rw [canonical_mk]
  cases kind with
  | allOf branches => exact get?_extensions_merge hdistinct key
  | union branches =>
    rw [heldAt_of_not_allOf (by rintro _ ⟨⟩)]
    exact get?_extensions_collapse hdistinct hdefault hexamples
  | _ =>
    rw [heldAt_of_not_allOf (by rintro _ ⟨⟩)]
    rfl

theorem constant?_canonical (hdistinct : s.extensions.Distinct) :
    s.canonical.constant? = s.heldConstant :=
  get?_extensions_canonical hdistinct (by decide) (by decide)

end Constants

section Types

/-- The types that a record declares admit its constant. -/
def TypesConstant (record : Schema) : Prop :=
  record.kind.types ≠ [] → ∀ v, record.constant? = some v →
    TypeTag.admits record.kind.types v = true

/-- What a record adds to the types admits its constant, unless that is an array or an object. -/
theorem admits_constantTypes (h : r.TypesConstant) (hconstant : r.constant? = some v) :
    TypeTag.admits r.constantTypes v = !v.isContainer := by
  unfold constantTypes
  rw [hconstant]
  dsimp only
  split
  · cases htype : Primitive.ofConstant? v with
    | none =>
      rw [Primitive.ofConstant?_eq_none_iff.mp htype]
      rfl
    | some p =>
      have hp := Primitive.admits_of_ofConstant? htype
      rw [Primitive.isContainer_of_admits hp]
      exact TypeTag.admits_iff.mpr ⟨p, List.mem_singleton_self p, hp⟩
  · next hdeclared =>
    obtain ⟨p, hp, hadmits⟩ := TypeTag.admits_iff.mp (h hdeclared v hconstant)
    rw [Primitive.isContainer_of_admits hadmits]
    exact TypeTag.admits_iff.mpr ⟨p, hp, hadmits⟩

/-- A record adds no type if it has no constant, or an array or an object. -/
theorem constantTypes_eq_nil_iff (h : r.TypesConstant) :
    r.constantTypes = [] ↔ ∀ v, r.constant? = some v → v.isContainer = true := by
  cases hconstant : r.constant? with
  | none => simp [constantTypes, hconstant]
  | some v =>
    have hadmits := admits_constantTypes h hconstant
    constructor
    · rintro hnil _ ⟨⟩
      rw [hnil] at hadmits
      simpa [TypeTag.admits] using hadmits.symm
    · intro hcontainer
      have hdeclared : r.kind.types = [] := by
        by_contra hsome
        rw [TypeTag.admits_eq_false_of_isContainer (hcontainer v rfl)] at hadmits
        have hfalse := h hsome v hconstant
        rw [TypeTag.admits_eq_false_of_isContainer (hcontainer v rfl)] at hfalse
        cases hfalse
      simp [constantTypes, hconstant, hdeclared,
        Primitive.ofConstant?_eq_none_iff.mpr (hcontainer v rfl)]

variable (h : ∀ r ∈ records, r.TypesConstant)
include h

/-- The types of the records admit every listed constant but arrays and objects. -/
theorem admits_flatten (hv : v ∈ records.filterMap constant?) :
    TypeTag.admits (firstSeen (records.flatMap constantTypes)) v = !v.isContainer := by
  cases hcontainer : v.isContainer with
  | true => exact TypeTag.admits_eq_false_of_isContainer hcontainer
  | false =>
    obtain ⟨r, hr, hconstant⟩ := List.mem_filterMap.mp hv
    have hadmits := admits_constantTypes (h r hr) hconstant
    rw [hcontainer] at hadmits
    obtain ⟨p, hp, hadmits⟩ := TypeTag.admits_iff.mp hadmits
    exact TypeTag.admits_iff.mpr
      ⟨p, mem_firstSeen.mpr (List.mem_flatMap.mpr ⟨r, hr, hp⟩), hadmits⟩

/-- The types are left out if no listed constant tells one. -/
theorem types_flatten_eq_nil_iff : firstSeen (records.flatMap constantTypes) = [] ↔
    ∀ v ∈ records.filterMap constant?, v.isContainer = true := by
  have hnil : firstSeen (records.flatMap constantTypes) = [] ↔
      ∀ r ∈ records, r.constantTypes = [] := by
    rw [← List.flatMap_eq_nil_iff]
    simp only [List.eq_nil_iff_forall_not_mem, mem_firstSeen]
  rw [hnil]
  constructor
  · intro hrecords v hv
    obtain ⟨r, hr, hconstant⟩ := List.mem_filterMap.mp hv
    exact (constantTypes_eq_nil_iff (h r hr)).mp (hrecords r hr) v hconstant
  · intro hvalues r hr
    rw [constantTypes_eq_nil_iff (h r hr)]
    exact fun v hconstant => hvalues v (List.mem_filterMap.mpr ⟨r, hr, hconstant⟩)

end Types

/-- An enumeration lists the constant of every record that has one. Its types, if it has some, admit
the listed values but arrays and objects, so that they admit all of them if and only if none or each
of them is an array or an object. -/
theorem enumeration_of_variants (hdistinct : ∀ r ∈ records, r.extensions.Distinct)
    (hdeclared : ∀ r ∈ records, r.canonical.TypesConstant) :
    ∃ types values, (mk (.variants records) e).canonical = mk (.enumeration types values) e ∧
      values = records.filterMap heldConstant ∧
      (∀ v ∈ values, TypeTag.admits types v = !v.isContainer) ∧
      ((types ≠ [] → ∀ v ∈ values, TypeTag.admits types v = true) ↔
        (∀ v ∈ values, v.isContainer = false) ∨ ∀ v ∈ values, v.isContainer = true) := by
  have hrecords : ∀ r ∈ records.map canonical, r.TypesConstant := List.forall_mem_map.mpr hdeclared
  have hvalues : (records.map canonical).filterMap constant? = records.filterMap heldConstant := by
    rw [List.filterMap_map]
    exact List.filterMap_congr fun r hr => constant?_canonical (hdistinct r hr)
  have hadmits := fun v => admits_flatten (v := v) hrecords
  have hnil := types_flatten_eq_nil_iff hrecords
  rw [hvalues] at hadmits hnil
  refine ⟨_, _, ?_, rfl, hadmits, ?_⟩
  · rw [canonical_mk, ← hvalues]
    rfl
  constructor
  · intro hall
    by_cases htypes : firstSeen ((records.map canonical).flatMap constantTypes) = []
    · exact .inr (hnil.mp htypes)
    · refine .inl fun v hv => ?_
      simpa [hadmits v hv] using hall htypes v hv
  · rintro (hnone | hevery) htypes v hv
    · rw [hadmits v hv, hnone v hv]
      rfl
    · exact (htypes (hnil.mpr hevery)).elim

section Volume

def muted : Schema := mk (.leaf ⟨[], none, none⟩) [("const", .null)]

/-- A number of its own type, twice a union with a constant, a record without one, an intersection
with the constant of its branch, and a list. -/
def volumes : List Schema :=
  [mk (.leaf ⟨[.integer], none, none⟩) [("const", .number (.integer 11))],
    mk (.union [ofPrimitive .string, ofPrimitive .null]) [("const", .string "low")],
    mk (.union [ofPrimitive .string, ofPrimitive .null]) [("const", .string "low")],
    ofPrimitive .boolean,
    mk (.allOf [mk (.object .empty) [("const", .bool false)]]) [],
    muted,
    mk (.leaf ⟨[], none, none⟩) [("const", .array [.string "low"])]]

theorem enumeration_of_volumes : (∀ r ∈ volumes, r.extensions.Distinct) ∧
    (∀ r ∈ volumes, r.canonical.TypesConstant) ∧
    ∃ types values, (mk (.variants volumes) []).canonical = mk (.enumeration types values) [] ∧
      values = volumes.filterMap heldConstant ∧
      (∀ v ∈ values, TypeTag.admits types v = !v.isContainer) ∧
      ((types ≠ [] → ∀ v ∈ values, TypeTag.admits types v = true) ↔
        (∀ v ∈ values, v.isContainer = false) ∨ ∀ v ∈ values, v.isContainer = true) := by
  have hdistinct : ∀ r ∈ volumes, r.extensions.Distinct := by decide
  have hdeclared : ∀ r ∈ volumes, r.canonical.TypesConstant := by
    have huntyped : ∀ {r : Schema}, r.kind.types = [] → r.TypesConstant := fun hnil hsome =>
      (hsome hnil).elim
    simp only [volumes, List.forall_mem_cons]
    refine ⟨?_, ?_, ?_, ?_, huntyped rfl, huntyped rfl, huntyped rfl, List.forall_mem_nil _⟩
    · rintro - _ ⟨⟩
      rfl
    · rintro - _ ⟨⟩
      rfl
    · rintro - _ ⟨⟩
      rfl
    · rintro - _ ⟨⟩
  exact ⟨hdistinct, hdeclared, enumeration_of_variants hdistinct hdeclared⟩

end Volume

section Landmark

/-- A place is named or given by its coordinates. -/
def landmarkValue : Json :=
  .object [("type", .string "enum"), ("items", .array [
    .object [("const", .string "home")],
    .object [("const", .array [.number (.integer 3), .number (.integer 4)])]])]

def landmarks : List Schema :=
  [mk (.leaf ⟨[], none, none⟩) [("const", .string "home")],
    mk (.leaf ⟨[], none, none⟩)
      [("const", .array [.number (.integer 3), .number (.integer 4)])]]

/-- The coordinates are listed, and the type of the enumeration does not admit them. -/
theorem landmark_excludes_coordinates : landmarkValue.WellFormed ∧
    ofJson landmarkValue = .ok (mk (.variants landmarks) []) ∧
    (∀ r ∈ landmarks, r.canonical.TypesConstant) ∧
    (mk (.variants landmarks) []).canonical = mk (.enumeration [.string]
      [.string "home", .array [.number (.integer 3), .number (.integer 4)]]) [] ∧
    TypeTag.admits [.string] (.array [.number (.integer 3), .number (.integer 4)]) = false := by
  refine ⟨?_, ?_, ?_, rfl, rfl⟩
  · simp [landmarkValue, Json.WellFormed, Json.WellFormedMembers, Json.WellFormedItems,
      Members.Distinct, Members.keys]
  · refine read_object_eq_ok_iff.mpr ⟨_, _, rfl, .variants (.cons ?_ (.cons ?_ .nil)), rfl⟩
    · exact read_object_eq_ok_iff.mpr ⟨_, _, rfl, .leaf _, rfl⟩
    · exact read_object_eq_ok_iff.mpr ⟨_, _, rfl, .leaf _, rfl⟩
  · exact List.forall_mem_cons.mpr ⟨fun h => (h rfl).elim,
      List.forall_mem_singleton.mpr fun h => (h rfl).elim⟩

end Landmark

end Schema

end MockBuilders
