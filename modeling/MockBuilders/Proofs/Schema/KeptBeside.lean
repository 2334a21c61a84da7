import MockBuilders.Proofs.Schema.Merging

/-!
Keywords beside an intersection of objects, in what is written for the merged object. A keyword is
lost if the shape of a branch tells it otherwise, and so is a required name that no shape tells
while another name is told.
Main statements: `Schema.keepsBeside_canonical_iff` and `Schema.letter_not_keepsBeside`.
-/
namespace MockBuilders.Schema
open Outline (Requires)

variable {branches : List Schema} {e : Members Json} {name : String}

/-- What is written keeps what stands beside an intersection: all required names, with those of the
branches, and every other keyword with its value. -/
structure KeepsBeside (branches : List Schema) (e written : Members Json) : Prop where
  required : ∀ name, Requires e name ∨ (∃ b ∈ branches, Requires b.members name) →
    Requires written name
  others : ∀ key value, key ≠ "required" → e.get? key = some value →
    written.get? key = some value

/-- Whether the schema is an object whose shape requires a name. -/
def ShapeRequires (s : Schema) (name : String) : Prop :=
  ∃ shape, s.object? = some shape ∧ name ∈ shape.required

/-- Where a merged object finds a required name: in the shape of a branch or, if no shape requires
any name, in the list that is kept beside the node, or else in the first beside a branch. -/
def FindsRequired (branches : List Schema) (e : Members Json) (name : String) : Prop :=
  (∃ b ∈ branches, b.ShapeRequires name) ∨
    (∀ b ∈ branches, ∀ other, ¬b.ShapeRequires other) ∧
      ∃ names, (e.get? "required").or
        (branches.findSome? fun b => b.extensions.get? "required") = some (.array names) ∧
          .string name ∈ names

/-- Nothing that is kept beside a node or its branches is hidden by the shapes of the branches: each
required name is found, properties are those that the branches are merged to, and the rule for
unlisted properties is that of the last branch with one. -/
structure Unhidden (branches : List Schema) (e : Members Json) : Prop where
  required : ∀ name, Requires e name ∨ (∃ b ∈ branches, (∀ other, ¬b.ShapeRequires other) ∧
    Requires b.extensions name) → FindsRequired branches e name
  properties : ∀ value, e.get? "properties" = some value →
    value = .object (Members.mapValues toJson (mergedShape branches).properties)
  additional : ∀ value, e.get? "additionalProperties" = some value →
    ∀ s, (branches.reverse.findSome? fun b => b.object?.bind ObjectShape.additional) = some s →
      value = s.toJson

theorem mem_required_mergedShape :
    name ∈ (mergedShape branches).required ↔ ∃ b ∈ branches, b.ShapeRequires name := by
  rw [mergedShape, ObjectShape.mem_required_foldl_merge]
  simp only [ObjectShape.empty, List.not_mem_nil, false_or, List.mem_filterMap, ShapeRequires]
  constructor
  · rintro ⟨shape, ⟨b, hb, hshape⟩, hname⟩
    exact ⟨b, hb, shape, hshape, hname⟩
  · rintro ⟨b, hb, shape, hshape, hname⟩
    exact ⟨shape, ⟨b, hb, hshape⟩, hname⟩

theorem required_mergedShape_eq_nil_iff :
    (mergedShape branches).required = [] ↔ ∀ b ∈ branches, ∀ other, ¬b.ShapeRequires other := by
  simp only [List.eq_nil_iff_forall_not_mem, mem_required_mergedShape, not_exists, not_and]
  exact ⟨fun h b hb other => h other b hb, fun h other b hb => h b hb other⟩

/-- An object requires the names of its shape or, if there are none, those kept beside it. -/
theorem requires_members_iff {s : Schema} (hobject : s.object? ≠ none) :
    Requires s.members name ↔ s.ShapeRequires name ∨
      (∀ other, ¬s.ShapeRequires other) ∧ Requires s.extensions name := by
  obtain ⟨kind, e⟩ := s
  cases kind with
  | object shape =>
    have hshape : ∀ other, (mk (.object shape) e).ShapeRequires other ↔ other ∈ shape.required :=
      fun other => by simp [ShapeRequires, object?, Schema.kind, Kind.object?]
    simp only [requires_members_object_iff, hshape, List.eq_nil_iff_forall_not_mem]
    rfl
  | _ => exact (hobject rfl).elim

section Merge
variable (hdistinct : e.Distinct) (hne : branches ≠ [])
  (hobjects : ∀ b ∈ branches, b.object? ≠ none)
include hdistinct hne hobjects

theorem requires_merge_iff :
    Requires (merge branches e).members name ↔ FindsRequired branches e name := by
  rw [merge_eq hne hobjects, requires_members_object_iff, mem_required_mergedShape,
    required_mergedShape_eq_nil_iff, FindsRequired, Requires, get?_mergedExtensions hdistinct]

/-- What stands beside an intersection of objects is kept if and only if no shape hides it. -/
theorem keepsBeside_merge_iff :
    KeepsBeside branches e (merge branches e).members ↔ Unhidden branches e := by
  have hkept : ∀ {key value}, key ≠ "required" → e.get? key = some value →
      ((merge branches e).members.get? key = some value ↔
        (key = "properties" →
          value = .object (Members.mapValues toJson (mergedShape branches).properties)) ∧
        (key = "additionalProperties" →
          ∀ s, (mergedShape branches).additional = some s → value = s.toJson)) := by
    intro key value hkey hvalue
    rw [merge_eq hne hobjects]
    apply get?_members_object_iff _ hkey
    rw [get?_mergedExtensions hdistinct, hvalue, Option.some_or]
  rw [additional_mergedShape] at hkept
  constructor
  · intro h
    refine ⟨fun name hname => ?_, fun value hvalue => ?_, fun value hvalue => ?_⟩
    · apply (requires_merge_iff hdistinct hne hobjects).mp
      refine h.required name (hname.imp_right ?_)
      rintro ⟨b, hb, hnone, hname⟩
      exact ⟨b, hb, (requires_members_iff (hobjects b hb)).mpr (.inr ⟨hnone, hname⟩)⟩
    · exact ((hkept (by decide) hvalue).mp (h.others _ _ (by decide) hvalue)).1 rfl
    · exact ((hkept (by decide) hvalue).mp (h.others _ _ (by decide) hvalue)).2 rfl
  · intro h
    refine ⟨fun name hname => ?_, fun key value hkey hvalue => ?_⟩
    · apply (requires_merge_iff hdistinct hne hobjects).mpr
      rcases hname with hname | ⟨b, hb, hname⟩
      · exact h.required name (.inl hname)
      · rcases (requires_members_iff (hobjects b hb)).mp hname with hname | ⟨hnone, hname⟩
        · exact .inl ⟨b, hb, hname⟩
        · exact h.required name (.inr ⟨b, hb, hnone, hname⟩)
    · refine (hkept hkey hvalue).mpr ⟨?_, ?_⟩
      · rintro rfl
        exact h.properties value hvalue
      · rintro rfl
        exact h.additional value hvalue

end Merge

/-- An intersection that was read, of branches whose canonical forms are objects, is written as one
object. It keeps what stands beside the intersection if and only if no shape of a branch hides
it. -/
theorem keepsBeside_canonical_iff {v : Json} {s : Schema} (hv : v.WellFormed)
    (h : ofJson v = .ok s) (hnode : s.Contains (mk (.allOf branches) e)) (hne : branches ≠ [])
    (hobjects : ∀ b ∈ branches, b.canonical.object? ≠ none) :
    ∃ written, (mk (.allOf branches) e).canonical.toJson = .object written ∧
      (KeepsBeside (branches.map canonical) e written ↔ Unhidden (branches.map canonical) e) := by
  have hdistinct : e.Distinct := (tidy_of_read hv h hnode).distinct
  refine ⟨_, toJson_eq _, ?_⟩
  rw [canonical_mk]
  exact keepsBeside_merge_iff hdistinct (by simpa using hne) (List.forall_mem_map.mpr hobjects)

section Memo

/-- An intersection that requires again what its branch requires, and has a description of its
own. -/
def memoValue : Json :=
  .object [("allOf", .array [.object [
      ("properties", .object [("title", .object [("type", .string "string")])]),
      ("required", .array [.string "title"]), ("description", .string "A text")]]),
    ("required", .array [.string "title"]), ("description", .string "A memo")]

def memoBranches : List Schema :=
  [mk (.object ⟨[("title", ofPrimitive .string)], ["title"], none⟩)
    [("description", .string "A text")]]

def memoBeside : Members Json :=
  [("description", .string "A memo"), ("required", .array [.string "title"])]

theorem memo_keepsBeside : memoValue.WellFormed ∧
    ofJson memoValue = .ok (mk (.allOf memoBranches) memoBeside) ∧
    (∀ b ∈ memoBranches, b.canonical.object? ≠ none) ∧
    ∃ written, (mk (.allOf memoBranches) memoBeside).canonical.toJson = .object written ∧
      KeepsBeside (memoBranches.map canonical) memoBeside written := by
  have hwellFormed : memoValue.WellFormed := by
    simp [memoValue, Json.WellFormed, Json.WellFormedMembers, Json.WellFormedItems,
      Members.Distinct, Members.keys]
  have hread : ofJson memoValue = .ok (mk (.allOf memoBranches) memoBeside) := by
    refine read_object_eq_ok_iff.mpr ⟨_, _, rfl, .allOf (.cons ?_ .nil), rfl⟩
    refine read_object_eq_ok_iff.mpr ⟨_, _, rfl, .object _ (.cons ⟨rfl, ?_⟩ .nil) .none, rfl⟩
    exact read_ofPrimitive _ .string
  have hobjects : ∀ b ∈ memoBranches, b.canonical.object? ≠ none :=
    List.forall_mem_singleton.mpr (by rintro ⟨⟩)
  obtain ⟨written, hwritten, hiff⟩ :=
    keepsBeside_canonical_iff hwellFormed hread (.self _) (by simp [memoBranches]) hobjects
  have hshape : ∃ b ∈ memoBranches.map canonical, b.ShapeRequires "title" :=
    ⟨_, List.mem_singleton_self _, _, rfl, List.mem_singleton_self _⟩
  have hunhidden : Unhidden (memoBranches.map canonical) memoBeside := by
    refine ⟨?_, ?_, ?_⟩
    · rintro name (⟨names, hnames, hname⟩ | ⟨b, hb, hnone, -⟩)
      · cases hnames
        cases List.mem_singleton.mp hname
        exact .inl hshape
      · -- no branch is without required names
        cases List.mem_singleton.mp hb
        exact (hnone "title" ⟨_, rfl, List.mem_singleton_self _⟩).elim
    · rintro value ⟨⟩
    · rintro value ⟨⟩
  exact ⟨hwellFormed, hread, hobjects, written, hwritten, hiff.mpr hunhidden⟩

end Memo

section Letter

/-- An intersection that requires a name of its own and refuses unlisted properties, which its
branch admits. -/
def letterValue : Json :=
  .object [("allOf", .array [.object [
      ("properties", .object [("title", .object [("type", .string "string")])]),
      ("required", .array [.string "title"]),
      ("additionalProperties", .object [("type", .string "string")])]]),
    ("required", .array [.string "body"]), ("additionalProperties", .bool false)]

def letterBranches : List Schema :=
  [mk (.object ⟨[("title", ofPrimitive .string)], ["title"], some (ofPrimitive .string)⟩) []]

def letterBeside : Members Json :=
  [("additionalProperties", .bool false), ("required", .array [.string "body"])]

/-- The object that the intersection is written as. -/
def letterWritten : Members Json :=
  [("type", .string "object"),
    ("properties", .object [("title", .object [("type", .string "string")])]),
    ("required", .array [.string "title"]),
    ("additionalProperties", .object [("type", .string "string")])]

theorem letter_not_keepsBeside : letterValue.WellFormed ∧
    ofJson letterValue = .ok (mk (.allOf letterBranches) letterBeside) ∧
    (∀ b ∈ letterBranches, b.canonical.object? ≠ none) ∧
    (mk (.allOf letterBranches) letterBeside).canonical.toJson = .object letterWritten ∧
    Requires letterBeside "body" ∧ ¬Requires letterWritten "body" ∧
    ¬KeepsBeside (letterBranches.map canonical) letterBeside letterWritten := by
  have hwellFormed : letterValue.WellFormed := by
    simp [letterValue, Json.WellFormed, Json.WellFormedMembers, Json.WellFormedItems,
      Members.Distinct, Members.keys]
  have hread : ofJson letterValue = .ok (mk (.allOf letterBranches) letterBeside) := by
    refine read_object_eq_ok_iff.mpr ⟨_, _, rfl, .allOf (.cons ?_ .nil), rfl⟩
    refine read_object_eq_ok_iff.mpr ⟨_, _, rfl, .object _ (.cons ⟨rfl, ?_⟩ .nil) (.some ?_), rfl⟩
    · exact read_ofPrimitive _ .string
    · exact read_ofPrimitive _ .string
  have hobjects : ∀ b ∈ letterBranches, b.canonical.object? ≠ none :=
    List.forall_mem_singleton.mpr (by rintro ⟨⟩)
  have hbody : Requires letterBeside "body" := ⟨_, rfl, List.mem_singleton_self _⟩
  have hlost : ¬Requires letterWritten "body" := by
    rintro ⟨names, hnames, hname⟩
    cases hnames
    exact absurd (Json.string.inj (List.mem_singleton.mp hname)) (by decide)
  refine ⟨hwellFormed, hread, hobjects, rfl, hbody, hlost, fun h => ?_⟩
  -- unlisted properties are refused beside the intersection, and admitted in what is written
  have hadditional := h.others "additionalProperties" (.bool false) (by decide) rfl
  cases hadditional

end Letter

end MockBuilders.Schema
