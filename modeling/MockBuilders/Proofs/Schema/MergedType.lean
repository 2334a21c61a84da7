import MockBuilders.Proofs.Schema.Merging

/-!
The type that is written for an intersection of objects. It is the one beside the node or, if there
is none, the first one beside a branch, so that it admits null only if a branch does.
Main statements: `Schema.get?_type_merge` and `Schema.exists_branch_of_admitsNull`.
-/
namespace MockBuilders.Schema

variable {branches : List Schema} {e : Members Json}

/-- The type that the schema is written with is null or a list with null. -/
def AdmitsNull (s : Schema) : Prop :=
  ∃ type, s.members.get? "type" = some type ∧ Outline.namesType type "null" = true

theorem get?_type_of_object? {s : Schema} (hobject : s.object? ≠ none) :
    s.members.get? "type" = some ((s.extensions.get? "type").getD (.string "object")) := by
  obtain ⟨kind, e⟩ := s
  cases kind with
  | object shape => exact get?_members_object e shape "type"
  | _ => exact (hobject rfl).elim

theorem get?_type_merge (hdistinct : e.Distinct) (hne : branches ≠ [])
    (hobjects : ∀ b ∈ branches, b.object? ≠ none) :
    (merge branches e).members.get? "type" = some (((e.get? "type").or
      (branches.findSome? fun b => b.extensions.get? "type")).getD (.string "object")) := by
  rw [merge_eq hne hobjects, ← get?_mergedExtensions hdistinct]
  exact get?_members_object _ _ "type"

theorem not_admitsNull_allOf (htype : e.get? "type" = none) :
    ¬(mk (.allOf branches) e).AdmitsNull := by
  rintro ⟨type, hget, -⟩
  have hkept : (mk (.allOf branches) e).members.get? "type" = e.get? "type" :=
    Kind.get?_members_kept (by simp [Schema.kind, Kind.map, Kind.keywords])
  rw [hkept, htype] at hget
  cases hget

/-- A merged object that admits null has the type of the first branch with a type beside it. -/
theorem exists_branch_of_admitsNull_merge (hdistinct : e.Distinct) (hne : branches ≠ [])
    (hobjects : ∀ b ∈ branches, b.object? ≠ none) (htype : e.get? "type" = none)
    (hnull : (merge branches e).AdmitsNull) :
    ∃ before b after, branches = before ++ b :: after ∧ b.AdmitsNull ∧
      b.members.get? "type" = (merge branches e).members.get? "type" ∧
      ∀ a ∈ before, a.members.get? "type" = some (.string "object") := by
  have hmerged := get?_type_merge hdistinct hne hobjects
  rw [htype, Option.none_or] at hmerged
  obtain ⟨type, hget, hnames⟩ := hnull
  rw [hmerged] at hget ⊢
  cases hfirst : branches.findSome? fun b => b.extensions.get? "type" with
  | none =>
    -- the bare type of objects does not name null
    rw [hfirst] at hget
    cases hget
    cases hnames
  | some kept =>
    rw [hfirst] at hget
    obtain rfl : kept = type := Option.some.inj hget
    obtain ⟨before, b, after, rfl, hkept, hbefore⟩ := List.findSome?_eq_some_iff.mp hfirst
    have hb := get?_type_of_object? (hobjects b (by simp))
    rw [hkept, Option.getD_some] at hb
    refine ⟨before, b, after, rfl, ⟨kept, hb, hnames⟩, hb, fun a ha => ?_⟩
    have hbare := get?_type_of_object? (hobjects a (List.mem_append_left _ ha))
    rwa [hbefore a ha, Option.getD_none] at hbare

/-- If what is written for an intersection of objects admits null, and the intersection has no type
beside it, then its type is that of a branch, and the branches before that one have the bare type
of objects. -/
theorem exists_branch_of_admitsNull (hdistinct : e.Distinct)
    (hobjects : ∀ b ∈ branches, b.canonical.object? ≠ none) (htype : e.get? "type" = none)
    (hnull : (mk (.allOf branches) e).canonical.AdmitsNull) :
    ∃ before b after, branches = before ++ b :: after ∧ b.canonical.AdmitsNull ∧
      b.canonical.members.get? "type" =
        (mk (.allOf branches) e).canonical.members.get? "type" ∧
      ∀ a ∈ before, a.canonical.members.get? "type" = some (.string "object") := by
  rw [canonical_mk] at hnull ⊢
  by_cases hne : branches = []
  · subst hne
    exact (not_admitsNull_allOf htype hnull).elim
  obtain ⟨before, b, after, hsplit, hb, htypes, hbefore⟩ := exists_branch_of_admitsNull_merge
    hdistinct (by simpa using hne) (List.forall_mem_map.mpr hobjects) htype hnull
  -- the canonical branches are split where the branches are
  obtain ⟨before, rest, rfl, rfl, hrest⟩ := List.map_eq_append_iff.mp hsplit
  obtain ⟨b, after, rfl, rfl, rfl⟩ := List.map_eq_cons_iff.mp hrest
  exact ⟨before, b, after, rfl, hb, htypes, List.forall_mem_map.mp hbefore⟩

section Form

/-- An intersection of an object that may be null and one that may not. -/
def formValue : Json :=
  .object [("allOf", .array [
    .object [("type", .array [.string "object", .string "null"]),
      ("properties", .object [("title", .object [("type", .string "string")])])],
    .object [("type", .string "object"),
      ("properties", .object [("body", .object [("type", .string "string")])])]])]

def formBranches : List Schema :=
  [mk (.object ⟨[("title", ofPrimitive .string)], [], none⟩)
      [("type", .array [.string "object", .string "null"])],
    mk (.object ⟨[("body", ofPrimitive .string)], [], none⟩) []]

theorem object?_formBranches : ∀ b ∈ formBranches, b.canonical.object? ≠ none :=
  List.forall_mem_cons.mpr ⟨by rintro ⟨⟩, List.forall_mem_singleton.mpr (by rintro ⟨⟩)⟩

theorem admitsNull_form : (mk (.allOf formBranches) []).canonical.AdmitsNull :=
  ⟨_, rfl, rfl⟩

theorem exists_branch_of_form : Members.Distinct ([] : Members Json) ∧
    (∀ b ∈ formBranches, b.canonical.object? ≠ none) ∧
    Members.get? ([] : Members Json) "type" = none ∧
    (mk (.allOf formBranches) []).canonical.AdmitsNull ∧
    ∃ before b after, formBranches = before ++ b :: after ∧ b.canonical.AdmitsNull ∧
      b.canonical.members.get? "type" =
        (mk (.allOf formBranches) []).canonical.members.get? "type" ∧
      ∀ a ∈ before, a.canonical.members.get? "type" = some (.string "object") :=
  ⟨List.nodup_nil, object?_formBranches, rfl, admitsNull_form,
    exists_branch_of_admitsNull List.nodup_nil object?_formBranches rfl admitsNull_form⟩

/-- The second branch does not admit null, and what is written for both does. -/
theorem form_admits_more : formValue.WellFormed ∧
    ofJson formValue = .ok (mk (.allOf formBranches) []) ∧
    (∀ b ∈ formBranches, b.canonical.object? ≠ none) ∧
    (mk (.allOf formBranches) []).canonical.AdmitsNull ∧
    ¬∀ b ∈ formBranches, b.canonical.AdmitsNull := by
  refine ⟨?_, ?_, object?_formBranches, admitsNull_form, fun h => ?_⟩
  · simp [formValue, Json.WellFormed, Json.WellFormedMembers, Json.WellFormedItems,
      Members.Distinct, Members.keys]
  · refine read_object_eq_ok_iff.mpr ⟨_, _, rfl, .allOf (.cons ?_ (.cons ?_ .nil)), rfl⟩
    · refine read_object_eq_ok_iff.mpr ⟨_, _, rfl, .object _ (.cons ⟨rfl, ?_⟩ .nil) .none, rfl⟩
      exact read_ofPrimitive _ .string
    · refine read_object_eq_ok_iff.mpr ⟨_, _, rfl, .object _ (.cons ⟨rfl, ?_⟩ .nil) .none, rfl⟩
      exact read_ofPrimitive _ .string
  · obtain ⟨type, hget, hnames⟩ := h _ (List.mem_cons_of_mem _ (List.mem_singleton_self _))
    cases hget
    cases hnames

end Form

end MockBuilders.Schema
