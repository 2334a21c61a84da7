import MockBuilders.Proofs.Schema.Layers
import MockBuilders.Proofs.Schema.Leftovers

/-!
Layers that the canonical form leaves as they are. It leaves no others, and what is kept beside a
layer stays admitted when the layer is brought into canonical form.
Main statements: `Schema.normal_canonical`, `Schema.canonical_eq_self_iff` and
`Schema.tidy_canonical`.
-/
namespace MockBuilders

namespace Schema

variable {s t : Schema} {kind : Kind Schema} {branches items : List Schema} {e : Members Json}

/-- A layer of the canonical form: not a raw one, and no intersection of objects only. -/
def NormalLayer (s : Schema) : Prop :=
  s.kind.isRaw = false ∧
    ∀ branches, s.kind = .allOf branches → branches = [] ∨ ∃ b ∈ branches, b.object? = none

def Normal (s : Schema) : Prop := ∀ t, s.Contains t → t.NormalLayer

theorem normal_mk_iff :
    (mk kind e).Normal ↔ (mk kind e).NormalLayer ∧ ∀ c ∈ kind.children, c.Normal :=
  forall_contains_mk_iff

theorem normal_collapse (h : ∀ b ∈ branches, b.Normal) : (collapse branches e).Normal := by
  unfold collapse
  split
  · exact normal_mk_iff.mpr ⟨⟨rfl, nofun⟩, nofun⟩
  · exact normal_mk_iff.mpr ⟨⟨rfl, nofun⟩, h⟩

theorem normal_itemsOf (h : ∀ b ∈ items, b.Normal) : (mk (itemsOf items) e).Normal := by
  unfold itemsOf
  split
  · exact normal_mk_iff.mpr ⟨⟨rfl, nofun⟩, nofun⟩
  · exact normal_mk_iff.mpr ⟨⟨rfl, nofun⟩, h⟩
  · refine normal_mk_iff.mpr ⟨⟨rfl, nofun⟩, fun c hc => ?_⟩
    rw [List.mem_singleton.mp hc]
    exact normal_collapse h

/-- Branches that are merged are objects, and one at least. -/
theorem exists_mapM_object?_iff : (∃ shape shapes, branches.mapM object? = some (shape :: shapes)) ↔
    branches ≠ [] ∧ ∀ b ∈ branches, b.object? ≠ none := by
  constructor
  · rintro ⟨shape, shapes, h⟩
    have hshapes := mapM_eq_some_iff.mp h
    refine ⟨?_, fun b hb => ?_⟩
    · rintro rfl
      cases hshapes
    · obtain ⟨_, -, hobject⟩ := exists_right_of_mem hshapes hb
      exact Option.ne_none_iff_exists'.mpr ⟨_, hobject⟩
  · rintro ⟨hne, hobjects⟩
    obtain ⟨shapes, hshapes⟩ :=
      exists_forall₂ fun b hb => Option.ne_none_iff_exists'.mp (hobjects b hb)
    cases hshapes with
    | nil => exact (hne rfl).elim
    | cons hb hrest => exact ⟨_, _, mapM_eq_some_iff.mpr (.cons hb hrest)⟩

theorem normal_merge (h : ∀ b ∈ branches, b.Normal) : (merge branches e).Normal := by
  unfold merge
  split
  · next shape shapes hshapes =>
    refine normal_mk_iff.mpr ⟨⟨rfl, nofun⟩, fun c hc => ?_⟩
    have hmerged := ObjectShape.children_foldl_merge_subset .empty (shape :: shapes) hc
    obtain ⟨b, hb, hc⟩ := List.mem_flatMap.mp (children_subset_of_mapM_object? hshapes hmerged)
    exact fun t ht => h b hb t (.child hc ht)
  · next hshapes =>
    refine normal_mk_iff.mpr ⟨⟨rfl, ?_⟩, h⟩
    rintro _ ⟨rfl⟩
    by_contra hmerged
    push Not at hmerged
    obtain ⟨shape, shapes, hsome⟩ := exists_mapM_object?_iff.mpr hmerged
    exact hshapes shape shapes hsome

theorem normal_canonicalLayer (h : ∀ c ∈ kind.children, c.Normal) :
    (canonicalLayer kind e).Normal := by
  cases kind with
  | variants records => exact normal_mk_iff.mpr ⟨⟨rfl, nofun⟩, nofun⟩
  | union branches => exact normal_collapse h
  | mixedArray items => exact normal_itemsOf h
  | allOf branches => exact normal_merge h
  | _ => exact normal_mk_iff.mpr ⟨⟨rfl, nofun⟩, h⟩

theorem normal_canonical (s : Schema) : s.canonical.Normal := by
  induction s using Schema.induct with
  | h kind e ih =>
    rw [canonical_mk]
    apply normal_canonicalLayer
    rw [Kind.children_map]
    exact List.forall_mem_map.mpr ih

theorem canonicalLayer_eq (h : (mk kind e).NormalLayer) : canonicalLayer kind e = mk kind e := by
  obtain ⟨hraw, hallOf⟩ := h
  cases kind with
  | variants _ | union _ | mixedArray _ => cases hraw
  | allOf branches =>
    have hapart := hallOf branches rfl
    rw [canonicalLayer, merge]
    split
    · next shape shapes hshapes =>
      obtain ⟨hne, hobjects⟩ := exists_mapM_object?_iff.mp ⟨shape, shapes, hshapes⟩
      obtain rfl | ⟨b, hb, hnone⟩ := hapart
      · exact (hne rfl).elim
      · exact (hobjects b hb hnone).elim
    · rfl
  | _ => rfl

/-- A schema of normal layers is its own canonical form. -/
theorem Normal.canonical_eq (h : s.Normal) : s.canonical = s := by
  induction s using Schema.induct with
  | h kind e ih =>
    obtain ⟨hself, hchildren⟩ := normal_mk_iff.mp h
    have hkind : kind.map Schema.canonical = kind :=
      (Kind.map_congr fun c hc => ih c hc (hchildren c hc)).trans kind.map_id
    rw [canonical_mk, hkind, canonicalLayer_eq hself]

theorem canonical_eq_self_iff : s.canonical = s ↔ s.Normal := by
  constructor
  · intro h
    rw [← h]
    exact normal_canonical s
  · exact Normal.canonical_eq

theorem isCanonical_iff : s.isCanonical = true ↔ ∀ t, s.Contains t → t.kind.isRaw = false := by
  induction s using Schema.induct with
  | h kind e ih =>
    rw [isCanonical_mk, forall_contains_mk_iff, Bool.and_eq_true, List.all_eq_true]
    exact and_congr (iff_of_eq (Bool.not_eq_true' _)) (forall₂_congr ih)

/-- The canonical form has no raw layer and no intersection of objects only, at any depth, and
bringing it into canonical form once more changes nothing. -/
theorem canonical_normal_idempotent (s : Schema) : s.canonical.isCanonical = true ∧
    s.canonical.Normal ∧ s.canonical.canonical = s.canonical := by
  have hnormal := normal_canonical s
  refine ⟨?_, hnormal, canonical_eq_self_iff.mpr hnormal⟩
  rw [isCanonical_iff]
  intro t ht
  exact (hnormal t ht).1

theorem tidy_takenLeaf {types : TypeTag} (htypes : types.Nodup) (hdistinct : e.Distinct)
    (he : Outline.NoItems e) : (takenLeaf types e).Tidy := by
  have hpart := Outline.partOf_leafTake hdistinct types
  have hnodup : (Leaf.take types e).1.types.Nodup := by rwa [Outline.types_leafTake]
  exact ⟨hpart.distinct, he.of_partOf hpart, hnodup, Outline.get?_leafTake hdistinct types⟩

theorem tidy_collapse (hdistinct : e.Distinct) (he : Outline.NoItems e)
    (h : ∀ b ∈ branches, ∀ t, b.Contains t → t.Tidy) :
    ∀ t, (collapse branches e).Contains t → t.Tidy := by
  unfold collapse
  split
  · exact forall_contains_mk_iff.mpr ⟨tidy_takenLeaf (nodup_firstSeen _) hdistinct he, nofun⟩
  · exact forall_contains_mk_iff.mpr ⟨⟨hdistinct, he, nofun⟩, h⟩

theorem noItems_nil : Outline.NoItems [] where
  pointer := rfl
  type := nofun
  values := rfl
  array := rfl
  items := rfl

theorem tidy_itemsOf (hdistinct : e.Distinct) (he : Outline.BesideArray e)
    (h : ∀ b ∈ items, ∀ t, b.Contains t → t.Tidy) :
    ∀ t, (mk (itemsOf items) e).Contains t → t.Tidy := by
  unfold itemsOf
  split
  · exact forall_contains_mk_iff.mpr ⟨⟨hdistinct, he⟩, nofun⟩
  · exact forall_contains_mk_iff.mpr ⟨⟨hdistinct, he⟩, h⟩
  · refine forall_contains_mk_iff.mpr ⟨⟨hdistinct, he⟩, fun c hc => ?_⟩
    rw [List.mem_singleton.mp hc]
    exact tidy_collapse List.nodup_nil noItems_nil h

/-- The node wins every keyword that is kept beside it, and of the branches the first. -/
theorem get?_mergedExtensions (hdistinct : e.Distinct) (key : String) :
    (mergedExtensions branches e).get? key =
      (e.get? key).or (branches.findSome? fun b => b.extensions.get? key) := by
  have hbranches : ∀ m : Members Json,
      (branches.foldl (fun m b => m.orElse b.extensions) m).get? key =
        (m.get? key).or (branches.findSome? fun b => b.extensions.get? key) := by
    induction branches with
    | nil => exact fun m => Option.or_none.symm
    | cons b branches ih =>
      intro m
      rw [List.foldl_cons, ih, Members.get?_orElse, Option.or_assoc, List.findSome?_cons]
      cases b.extensions.get? key <;> rfl
  rw [mergedExtensions, Members.get?_putAll _ hdistinct, hbranches, Members.get?, Option.none_or]

/-- A member of merged extensions comes from a branch or from the node. -/
theorem exists_of_get?_mergedExtensions (hdistinct : e.Distinct) {key : String} {value : Json}
    (h : (mergedExtensions branches e).get? key = some value) :
    e.get? key = some value ∨ ∃ b ∈ branches, b.extensions.get? key = some value := by
  rw [get?_mergedExtensions hdistinct, Option.or_eq_some_iff] at h
  exact h.imp_right fun h => List.exists_of_findSome?_eq_some h.2

theorem noItems_of_object? (h : s.Tidy) (hobject : s.object? ≠ none) :
    Outline.NoItems s.extensions := by
  obtain ⟨kind, e⟩ := s
  cases kind with
  | object shape => exact h.admits
  | _ => exact (hobject rfl).elim

theorem distinct_mergedExtensions (branches : List Schema) (e : Members Json) :
    (mergedExtensions branches e).Distinct := by
  have hbranches : ∀ m : Members Json, m.Distinct →
      (branches.foldl (fun m b => m.orElse b.extensions) m).Distinct := by
    induction branches with
    | nil => exact fun _ h => h
    | cons b branches ih => exact fun m h => ih _ (h.orElse _)
  exact (hbranches [] List.nodup_nil).putAll e

theorem tidy_merge (hdistinct : e.Distinct) (he : Outline.NoItems e)
    (h : ∀ b ∈ branches, ∀ t, b.Contains t → t.Tidy) :
    ∀ t, (merge branches e).Contains t → t.Tidy := by
  unfold merge
  split
  · next shape shapes hshapes =>
    have hobjects := (exists_mapM_object?_iff.mp ⟨shape, shapes, hshapes⟩).2
    refine forall_contains_mk_iff.mpr ⟨⟨distinct_mergedExtensions branches e, ?_⟩, fun c hc => ?_⟩
    · -- merged extensions tell items only where those of a branch or of the node do
      refine Outline.NoItems.of_sources fun key value hget => ?_
      rcases exists_of_get?_mergedExtensions hdistinct hget with hget | ⟨b, hb, hget⟩
      · exact ⟨e, he, hget⟩
      · exact ⟨_, noItems_of_object? (h b hb b (.self b)) (hobjects b hb), hget⟩
    · have hmerged := ObjectShape.children_foldl_merge_subset .empty (shape :: shapes) hc
      obtain ⟨b, hb, hc⟩ := List.mem_flatMap.mp (children_subset_of_mapM_object? hshapes hmerged)
      exact fun t ht => h b hb t (.child hc ht)
  · exact forall_contains_mk_iff.mpr ⟨⟨hdistinct, he⟩, h⟩

theorem tidy_canonicalLayer (hself : (mk kind e).Tidy)
    (h : ∀ c ∈ kind.children, ∀ t, c.Contains t → t.Tidy) :
    ∀ t, (canonicalLayer kind e).Contains t → t.Tidy := by
  obtain ⟨hdistinct, hadmits⟩ := hself
  cases kind with
  | variants records =>
    obtain ⟨hpointer, htype⟩ := hadmits
    change e.get? "type" = none at htype
    refine forall_contains_mk_iff.mpr ⟨⟨hdistinct, hpointer, ?_, nodup_firstSeen _, ?_⟩,
      List.forall_mem_nil _⟩
    · change Outline.textAt e "type" ≠ some "enum"
      rw [Outline.textAt, htype]
      rintro ⟨⟩
    · change _ → Outline.typesAt e = []
      rw [Outline.typesAt, htype]
      exact fun _ => rfl
  | union branches => exact tidy_collapse hdistinct hadmits.1 h
  | mixedArray items => exact tidy_itemsOf hdistinct hadmits.1 h
  | allOf branches => exact tidy_merge hdistinct hadmits h
  | _ => exact forall_contains_mk_iff.mpr ⟨⟨hdistinct, hadmits⟩, h⟩

/-- The canonical form keeps beside each layer what the layer admits. -/
theorem tidy_canonical (h : ∀ t, s.Contains t → t.Tidy) : ∀ t, s.canonical.Contains t → t.Tidy := by
  induction s using Schema.induct with
  | h kind e ih =>
    obtain ⟨hself, hchildren⟩ := forall_contains_mk_iff.mp h
    rw [canonical_mk]
    refine tidy_canonicalLayer ⟨hself.distinct, ?_⟩ ?_
    · exact (Kind.admits_map _ _ _).mpr hself.admits
    · rw [Kind.children_map]
      exact List.forall_mem_map.mpr fun c hc => ih c hc (hchildren c hc)

end Schema

end MockBuilders
