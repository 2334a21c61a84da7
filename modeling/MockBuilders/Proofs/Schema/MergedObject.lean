import MockBuilders.Proofs.Members.Union
import MockBuilders.Proofs.Schema.Merging

/-!
Where each part of a merged object comes from: names stand where they first appear in the branches,
the last branch gives the schema of a property and of unlisted ones, and the first one a keyword.
Main statement: `Schema.exists_mergesTo_canonical`.
-/
namespace MockBuilders

namespace ObjectShape
variable {σ : Type} {s : ObjectShape σ}

theorem distinct_foldl_merge (hs : Members.Distinct s.properties) (shapes : List (ObjectShape σ)) :
    Members.Distinct (shapes.foldl merge s).properties := by
  induction shapes generalizing s with
  | nil => exact hs
  | cons t shapes ih => exact ih (hs.putAll t.properties)

/-- Names that one step lists where they first appear are so listed by all steps. -/
theorem names_foldl_merge (names : ObjectShape σ → List String)
    (hstep : ∀ s t, names (s.merge t) = addAllNew (names s) (names t)) (s : ObjectShape σ)
    (shapes : List (ObjectShape σ)) :
    names (shapes.foldl merge s) = addAllNew (names s) (shapes.flatMap names) := by
  induction shapes generalizing s with
  | nil => rfl
  | cons t shapes ih => rw [List.foldl_cons, ih, hstep, List.flatMap_cons, addAllNew_append]

end ObjectShape

namespace Schema

variable {branches : List Schema} {b : Schema} {e : Members Json} {p : String × Schema}

def propertyNames (s : Schema) : List String :=
  s.object?.toList.flatMap fun shape => Members.keys shape.properties

def requiredNames (s : Schema) : List String := s.object?.toList.flatMap ObjectShape.required

/-- Whether the schema is an object with the property. -/
def Declares (s : Schema) (p : String × Schema) : Prop :=
  ∃ shape, s.object? = some shape ∧ p ∈ shape.properties

/-- An object and what is kept beside it hold what branches and their node hold: every name where
it first appears, and for each name the schema of the last branch that declares it. -/
structure MergesTo (branches : List Schema) (e : Members Json) (shape : ObjectShape Schema)
    (rest : Members Json) : Prop where
  names : FirstAppearances (branches.flatMap propertyNames) (Members.keys shape.properties)
  property : ∀ p ∈ shape.properties, ∃ before b after, branches = before ++ b :: after ∧
    b.Declares p ∧ ∀ a ∈ after, ∀ s, ¬a.Declares (p.1, s)
  required : FirstAppearances (branches.flatMap requiredNames) shape.required
  additional : shape.additional =
    branches.reverse.findSome? fun b => b.object?.bind ObjectShape.additional
  beside : ∀ key, e.get? key = none →
    rest.get? key = branches.findSome? fun b => b.extensions.get? key

theorem distinct_mergedShape (branches : List Schema) :
    Members.Distinct (mergedShape branches).properties :=
  ObjectShape.distinct_foldl_merge (s := .empty) List.nodup_nil _

theorem names_mergedShape (names : ObjectShape Schema → List String)
    (hempty : names .empty = [])
    (hstep : ∀ s t, names (s.merge t) = addAllNew (names s) (names t)) (branches : List Schema) :
    names (mergedShape branches) =
      firstSeen (branches.flatMap fun b => b.object?.toList.flatMap names) := by
  rw [mergedShape, ObjectShape.names_foldl_merge names hstep, hempty,
    List.filterMap_eq_flatMap_toList, List.flatMap_assoc]
  rfl

theorem mergedShape_concat (branches : List Schema) (b : Schema) :
    mergedShape (branches ++ [b]) = b.object?.toList.foldl .merge (mergedShape branches) := by
  rw [mergedShape, List.filterMap_append, List.foldl_append, ← mergedShape]
  cases h : b.object? <;> simp [h]

/-- A property of a merged object is declared by the last branch, or by none but those before. -/
theorem declares_or_mem_of_mem_concat (h : p ∈ (mergedShape (branches ++ [b])).properties) :
    b.Declares p ∨ p ∈ (mergedShape branches).properties ∧ ∀ s, ¬b.Declares (p.1, s) := by
  rw [mergedShape_concat] at h
  cases hb : b.object? with
  | none =>
    rw [hb] at h
    refine .inr ⟨h, ?_⟩
    rintro s ⟨shape, hshape, -⟩
    cases hb.symm.trans hshape
  | some shape =>
    rw [hb] at h
    rcases Members.mem_putAll (distinct_mergedShape branches) h with hlast | ⟨hbefore, hnone⟩
    · exact .inl ⟨shape, hb, hlast⟩
    · refine .inr ⟨hbefore, ?_⟩
      rintro s ⟨t, ht, hmem⟩
      obtain rfl := Option.some.inj (hb.symm.trans ht)
      exact hnone (List.mem_map.mpr ⟨_, hmem, rfl⟩)

theorem exists_last_of_mem_mergedShape (h : p ∈ (mergedShape branches).properties) :
    ∃ before b after, branches = before ++ b :: after ∧ b.Declares p ∧
      ∀ a ∈ after, ∀ s, ¬a.Declares (p.1, s) := by
  induction branches using List.reverseRecOn with
  | nil => cases h
  | append_singleton branches b ih =>
    rcases declares_or_mem_of_mem_concat h with hlast | ⟨hbefore, hnone⟩
    · exact ⟨branches, b, [], rfl, hlast, List.forall_mem_nil _⟩
    · obtain ⟨before, c, after, rfl, hc, hafter⟩ := ih hbefore
      refine ⟨before, c, after ++ [b], by simp, hc, ?_⟩
      exact List.forall_mem_append.mpr ⟨hafter, List.forall_mem_singleton.mpr hnone⟩

theorem get?_mergedExtensions_of_none {key : String} (h : e.get? key = none) :
    (mergedExtensions branches e).get? key =
      branches.findSome? fun b => b.extensions.get? key := by
  have hbranches : (mergedExtensions branches []).get? key = _ :=
    get?_mergedExtensions (e := []) List.nodup_nil key
  exact (Members.get?_putAll_of_not_mem (Members.get?_eq_none_iff.mp h)).trans hbranches

theorem mergesTo_merge (branches : List Schema) (e : Members Json) :
    MergesTo branches e (mergedShape branches) (mergedExtensions branches e) where
  names := by
    rw [names_mergedShape (fun shape => Members.keys shape.properties) rfl
      fun s t => Members.keys_putAll s.properties t.properties]
    exact firstAppearances_firstSeen _
  property p := exists_last_of_mem_mergedShape
  required := by
    rw [names_mergedShape ObjectShape.required rfl fun s t => rfl]
    exact firstAppearances_firstSeen _
  additional := additional_mergedShape
  beside key := get?_mergedExtensions_of_none

/-- One branch or more, whose canonical forms are objects, are merged to one object. -/
theorem exists_mergesTo_canonical (hne : branches ≠ [])
    (hobjects : ∀ b ∈ branches, b.canonical.object? ≠ none) :
    ∃ shape rest, (mk (.allOf branches) e).canonical = mk (.object shape) rest ∧
      MergesTo (branches.map canonical) e shape rest := by
  have hcanonical : ∀ b ∈ branches.map canonical, b.object? ≠ none :=
    List.forall_mem_map.mpr hobjects
  refine ⟨_, _, ?_, mergesTo_merge (branches.map canonical) e⟩
  rw [canonical_mk]
  exact merge_eq (by simpa using hne) hcanonical

section Parcel

def labelled : Schema :=
  mk (.object ⟨[("label", ofPrimitive .string), ("weight", ofPrimitive .integer)],
      ["label", "weight"], none⟩)
    [("description", .string "With a label"), ("title", .string "Labelled")]

/-- An object that tells again what its label is for and what it weighs. -/
def owned : Schema :=
  mk (.object ⟨[("weight", mk (.union [ofPrimitive .integer, ofPrimitive .number]) []),
      ("owner", ofPrimitive .string)], ["owner", "label"], some (ofPrimitive .string)⟩)
    [("description", .string "With an owner")]

def parcelBeside : Members Json := [("title", .string "Parcel")]

def parcelShape : ObjectShape Schema :=
  ⟨[("label", ofPrimitive .string), ("weight", mk (.leaf ⟨[.integer, .number], none, none⟩) []),
    ("owner", ofPrimitive .string)], ["label", "weight", "owner"], some (ofPrimitive .string)⟩

def parcelRest : Members Json :=
  [("description", .string "With a label"), ("title", .string "Parcel")]

theorem mergesTo_parcel : [labelled, owned] ≠ [] ∧
    (∀ b ∈ [labelled, owned], b.canonical.object? ≠ none) ∧
    (mk (.allOf [labelled, owned]) parcelBeside).canonical =
      mk (.object parcelShape) parcelRest ∧
    MergesTo ([labelled, owned].map canonical) parcelBeside parcelShape parcelRest := by
  have hne : [labelled, owned] ≠ [] := List.cons_ne_nil _ _
  have hobjects : ∀ b ∈ [labelled, owned], b.canonical.object? ≠ none :=
    List.forall_mem_cons.mpr ⟨by rintro ⟨⟩, List.forall_mem_singleton.mpr (by rintro ⟨⟩)⟩
  have hparcel : (mk (.allOf [labelled, owned]) parcelBeside).canonical =
      mk (.object parcelShape) parcelRest := rfl
  obtain ⟨shape, rest, hcanonical, hmerges⟩ :=
    exists_mergesTo_canonical (e := parcelBeside) hne hobjects
  cases hparcel.symm.trans hcanonical
  exact ⟨hne, hobjects, hparcel, hmerges⟩

end Parcel

end Schema

end MockBuilders
