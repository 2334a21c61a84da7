import MockBuilders.Proofs.Schema.Normal
import MockBuilders.Proofs.Schema.Rereading.Basic

/-!
What an intersection of objects is merged to, and what is written for it: which keywords come from
the shapes of the branches, and which from what is kept beside the branches and the node.
Main statements: `Schema.merge_eq`, `Schema.get?_members_object_iff` and
`Schema.requires_members_object_iff`.
-/
namespace MockBuilders

theorem filterMap_of_mapM {α β : Type} {f : α → Option β} {xs : List α} {ys : List β}
    (h : xs.mapM f = some ys) : xs.filterMap f = ys := by
  have hrel := mapM_eq_some_iff.mp h
  clear h
  induction hrel with
  | nil => rfl
  | cons hxy _ ih => rw [List.filterMap_cons_some hxy, ih]

namespace ObjectShape
variable {σ : Type}

theorem mem_required_foldl_merge {s : ObjectShape σ} {shapes : List (ObjectShape σ)}
    {name : String} : name ∈ (shapes.foldl merge s).required ↔
      name ∈ s.required ∨ ∃ t ∈ shapes, name ∈ t.required := by
  induction shapes generalizing s with
  | nil => simp
  | cons t shapes ih => simp [ih, merge, mem_addAllNew, or_assoc]

/-- The last shape that tells about unlisted properties wins. -/
theorem additional_foldl_merge (s : ObjectShape σ) (shapes : List (ObjectShape σ)) :
    (shapes.foldl merge s).additional =
      (shapes.reverse.findSome? additional).or s.additional := by
  induction shapes generalizing s with
  | nil => exact Option.none_or.symm
  | cons t shapes ih =>
    have hlast : [t].findSome? additional = t.additional := by
      rw [List.findSome?_cons]
      cases t.additional <;> rfl
    rw [List.foldl_cons, ih, List.reverse_cons, List.findSome?_append, hlast, Option.or_assoc]
    rfl

end ObjectShape

namespace Outline

/-- Whether a name is in the list of required names. -/
def Requires (m : Members Json) (name : String) : Prop :=
  ∃ names, m.get? "required" = some (.array names) ∧ .string name ∈ names

end Outline

namespace Schema
open Outline (Requires)

variable {branches : List Schema} {e : Members Json} {key name : String} {value : Json}

/-- What a schema is written as. -/
def members (s : Schema) : Members Json := (s.kind.map toJson).members s.extensions

theorem toJson_eq (s : Schema) : s.toJson = .object s.members := by
  obtain ⟨kind, e⟩ := s
  exact toJson_mk kind e

section Object
variable (shape : ObjectShape Schema) (e)

theorem get?_members_object (key : String) : (mk (.object shape) e).members.get? key =
    (Members.get? [("type", keptType e "object"),
      ("properties", .object (Members.mapValues toJson shape.properties))] key).or
    ((if shape.required = [] then none
      else if "required" = key then some (.array (shape.required.map .string)) else none).or
    ((if "additionalProperties" = key then shape.additional.map toJson else none).or
      (e.get? key))) :=
  Kind.get?_members_object (shape.map toJson) e key

variable {e}

/-- A keyword beside an object is written as it is, unless the shape tells it otherwise. -/
theorem get?_members_object_iff (hkey : key ≠ "required") (h : e.get? key = some value) :
    (mk (.object shape) e).members.get? key = some value ↔
      (key = "properties" → value = .object (Members.mapValues toJson shape.properties)) ∧
      (key = "additionalProperties" → ∀ s, shape.additional = some s → value = s.toJson) := by
  have hrequired : (if shape.required = [] then none
      else if "required" = key then some (Json.array (shape.required.map .string)) else none) =
      none := by
    rw [if_neg (Ne.symm hkey), ite_self]
  rw [get?_members_object, hrequired, Option.none_or, h]
  by_cases htype : key = "type"
  · subst htype
    simp [Members.get?, keptType, h]
  by_cases hproperties : key = "properties"
  · subst hproperties
    simp [Members.get?, eq_comm]
  by_cases hadditional : key = "additionalProperties"
  · subst hadditional
    cases shape.additional <;> simp [Members.get?, eq_comm]
  · simp [Members.get?, Ne.symm htype, Ne.symm hproperties, Ne.symm hadditional, hproperties,
      hadditional]

theorem requires_members_object_iff :
    Requires (mk (.object shape) e).members name ↔
      name ∈ shape.required ∨ shape.required = [] ∧ Requires e name := by
  have hget := get?_members_object e shape "required"
  by_cases hempty : shape.required = []
  · have hkept : (mk (.object shape) e).members.get? "required" = e.get? "required" := by
      rw [hget, if_pos hempty]
      rfl
    simp [Requires, hkept, hempty]
  · have hwritten : (mk (.object shape) e).members.get? "required" =
        some (.array (shape.required.map .string)) := by
      rw [hget, if_neg hempty]
      rfl
    simp [Requires, hwritten, hempty]

end Object

/-- The shape that the shapes of branches are merged to. -/
def mergedShape (branches : List Schema) : ObjectShape Schema :=
  (branches.filterMap object?).foldl .merge .empty

/-- The last branch that tells about unlisted properties wins. -/
theorem additional_mergedShape : (mergedShape branches).additional =
    branches.reverse.findSome? fun b => b.object?.bind ObjectShape.additional := by
  rw [mergedShape, ObjectShape.additional_foldl_merge, ← List.filterMap_reverse,
    ← List.head?_filterMap, List.filterMap_filterMap, List.head?_filterMap]
  exact Option.or_none

theorem merge_eq (hne : branches ≠ []) (hobjects : ∀ b ∈ branches, b.object? ≠ none) :
    merge branches e = mk (.object (mergedShape branches)) (mergedExtensions branches e) := by
  obtain ⟨shape, shapes, hshapes⟩ := exists_mapM_object?_iff.mpr ⟨hne, hobjects⟩
  rw [merge, hshapes, mergedShape, filterMap_of_mapM hshapes]

end Schema

end MockBuilders
