import MockBuilders.Proofs.Members.Alike
import MockBuilders.Schema.Canonical
import MockBuilders.Schema.References

/-!
What a schema leaves in place: references, and pointers under keywords that carry no structure.
The canonical form moves keywords and drops branches, and leaves nothing that was not there.
Main statement: `Schema.Leaves.canonical`.
-/
namespace MockBuilders

theorem flatMap_subset_iff {α β : Type} {f : α → List β} {xs : List α} {ys : List β} :
    xs.flatMap f ⊆ ys ↔ ∀ x ∈ xs, f x ⊆ ys := by
  constructor
  · intro h x hx y hy
    exact h (List.mem_flatMap.mpr ⟨x, hx, hy⟩)
  · intro h y hy
    obtain ⟨x, hx, hy⟩ := List.mem_flatMap.mp hy
    exact h x hx hy

/-- If one step adds nothing to a result but what it is given, all steps add nothing else. -/
theorem foldl_subset {α β σ : Type} (step : σ → α → σ) (held : σ → List β) (given : α → List β)
    (hstep : ∀ s x, held (step s x) ⊆ held s ++ given x) (s : σ) (xs : List α) :
    held (xs.foldl step s) ⊆ held s ++ xs.flatMap given := by
  induction xs generalizing s with
  | nil => exact List.subset_append_left _ _
  | cons x xs ih =>
    rw [List.flatMap_cons, ← List.append_assoc]
    refine List.Subset.trans (ih (step s x)) ?_
    exact List.append_subset.mpr ⟨List.subset_append_of_subset_left _ (hstep s x),
      List.subset_append_right _ _⟩

namespace Members

variable {α : Type}

theorem take_subset (m : Members α) (key : String) : m.take key ⊆ m := by
  intro p hp
  cases hget : m.get? key with
  | none => rwa [take_of_not_mem (get?_eq_none_iff.mp hget)] at hp
  | some value => exact (take_perm hget).subset (List.mem_cons_of_mem _ hp)

theorem putAll_subset (m n : Members α) : m.putAll n ⊆ m ++ n := by
  have hput : ∀ (m : Members α) (p : String × α), m.put p.1 p.2 ⊆ m ++ [p] := by
    intro m p q hq
    rcases mem_put hq with rfl | hq
    · exact List.mem_append_right _ List.mem_cons_self
    · exact List.mem_append_left _ hq
  have hfold := foldl_subset (fun (m : Members α) (p : String × α) => m.put p.1 p.2) id
    (fun p => [p]) hput m n
  rwa [List.flatMap_singleton'] at hfold

theorem orElse_subset (m n : Members α) : m.orElse n ⊆ m ++ n := by
  have hput : ∀ (m : Members α) (p : String × α), m.putNew p.1 p.2 ⊆ m ++ [p] := by
    intro m p
    unfold putNew
    split
    · exact List.subset_append_left _ _
    · exact List.Subset.refl _
  have hfold := foldl_subset (fun (m : Members α) (p : String × α) => m.putNew p.1 p.2) id
    (fun p => [p]) hput m n
  rwa [List.flatMap_singleton'] at hfold

end Members

theorem Leaf.snd_take_subset (types : TypeTag) (m : Members Json) : (Leaf.take types m).2 ⊆ m := by
  have hrest : m.take "default" ⊆ m := m.take_subset "default"
  have hboth : (m.take "default").take "examples" ⊆ m :=
    List.Subset.trans (Members.take_subset _ _) hrest
  unfold Leaf.take
  split
  · exact hboth
  · next found _ hfound =>
    -- examples that are no list are put back as they were found
    refine List.append_subset.mpr ⟨hboth, ?_⟩
    intro p hp
    exact List.mem_singleton.mp hp ▸ Members.mem_of_get? hfound
  · exact hrest

namespace ObjectShape

variable {σ : Type}

theorem children_merge_subset (s t : ObjectShape σ) :
    (s.merge t).children ⊆ s.children ++ t.children := by
  intro c hc
  rcases List.mem_append.mp hc with hc | hc
  · obtain ⟨p, hp, rfl⟩ := List.mem_map.mp hc
    rcases List.mem_append.mp (Members.putAll_subset _ _ hp) with hp | hp
    · exact List.mem_append_left _ (List.mem_append_left _ (List.mem_map_of_mem hp))
    · exact List.mem_append_right _ (List.mem_append_left _ (List.mem_map_of_mem hp))
  · rcases Option.or_eq_some_iff.mp (Option.mem_toList.mp hc) with hc | ⟨-, hc⟩
    · exact List.mem_append_right _ (List.mem_append_right _ (Option.mem_toList.mpr hc))
    · exact List.mem_append_left _ (List.mem_append_right _ (Option.mem_toList.mpr hc))

theorem children_foldl_merge_subset (s : ObjectShape σ) (shapes : List (ObjectShape σ)) :
    (shapes.foldl merge s).children ⊆ s.children ++ shapes.flatMap children :=
  foldl_subset merge children children children_merge_subset s shapes

end ObjectShape

namespace Schema

variable {branches records : List Schema} {extensions : Members Json} {kind : Kind Schema}
  {s : Schema} {ps : List String} {us : List Unfollowed}

theorem unfollowedIn_subset {m n : Members Json} (h : m ⊆ n) :
    unfollowedIn m ⊆ unfollowedIn n := by
  intro u hu
  obtain ⟨p, hp, hu⟩ := List.mem_flatMap.mp hu
  exact List.mem_flatMap.mpr ⟨p, h hp, hu⟩

theorem mergedExtensions_subset (branches : List Schema) (extensions : Members Json) :
    mergedExtensions branches extensions ⊆
      branches.flatMap Schema.extensions ++ extensions := by
  have hbranches := foldl_subset (fun (m : Members Json) (b : Schema) => m.orElse b.extensions)
    id Schema.extensions (fun m b => m.orElse_subset b.extensions) [] branches
  refine List.Subset.trans (Members.putAll_subset _ _) ?_
  exact List.append_subset.mpr ⟨List.subset_append_of_subset_left _ hbranches,
    List.subset_append_right _ _⟩

/-- All that a schema leaves in place is listed: pointers of its references, and pointers that are
not followed. -/
structure Leaves (ps : List String) (us : List Unfollowed) (s : Schema) : Prop where
  references : s.references ⊆ ps
  unfollowed : s.unfollowed ⊆ us

theorem leaves_mk_iff : Leaves ps us (mk kind extensions) ↔
    kind.pointer?.toList ⊆ ps ∧ unfollowedIn extensions ⊆ us ∧
      ∀ c ∈ kind.children, Leaves ps us c := by
  constructor
  · rintro ⟨href, hun⟩
    rw [references_mk, List.append_subset, flatMap_subset_iff] at href
    rw [unfollowed_mk, List.append_subset, flatMap_subset_iff] at hun
    exact ⟨href.1, hun.1, fun c hc => ⟨href.2 c hc, hun.2 c hc⟩⟩
  · rintro ⟨hpointer, hext, hchildren⟩
    constructor
    · rw [references_mk, List.append_subset, flatMap_subset_iff]
      exact ⟨hpointer, fun c hc => (hchildren c hc).references⟩
    · rw [unfollowed_mk, List.append_subset, flatMap_subset_iff]
      exact ⟨hext, fun c hc => (hchildren c hc).unfollowed⟩

theorem Leaves.children (h : s.Leaves ps us) : ∀ c ∈ s.children, c.Leaves ps us := by
  cases s
  exact (leaves_mk_iff.mp h).2.2

theorem Leaves.keywords (h : s.Leaves ps us) : unfollowedIn s.extensions ⊆ us := by
  cases s
  exact (leaves_mk_iff.mp h).2.1

theorem leaves_takenLeaf {types : TypeTag} (h : unfollowedIn extensions ⊆ us) :
    (takenLeaf types extensions).Leaves ps us := by
  have hrest := unfollowedIn_subset (Leaf.snd_take_subset types extensions)
  exact leaves_mk_iff.mpr ⟨List.nil_subset _, List.Subset.trans hrest h, fun _ hc => nomatch hc⟩

theorem leaves_collapse (hbranches : ∀ b ∈ branches, b.Leaves ps us)
    (h : unfollowedIn extensions ⊆ us) : (collapse branches extensions).Leaves ps us := by
  unfold collapse
  split
  · exact leaves_takenLeaf h
  · exact leaves_mk_iff.mpr ⟨List.nil_subset _, h, hbranches⟩

theorem leaves_itemsOf {items : List Schema} (hitems : ∀ b ∈ items, b.Leaves ps us)
    (h : unfollowedIn extensions ⊆ us) : (mk (itemsOf items) extensions).Leaves ps us := by
  refine leaves_mk_iff.mpr ⟨?_, h, ?_⟩
  · unfold itemsOf
    split <;> exact List.nil_subset _
  · unfold itemsOf
    split
    · exact fun _ hc => nomatch hc
    · exact hitems
    · intro c hc
      rw [List.mem_singleton.mp hc]
      exact leaves_collapse hitems (List.nil_subset _)

theorem children_subset_of_mapM_object? {shapes : List (ObjectShape Schema)}
    (h : branches.mapM object? = some shapes) :
    shapes.flatMap ObjectShape.children ⊆ branches.flatMap Schema.children := by
  intro c hc
  obtain ⟨shape, hshape, hc⟩ := List.mem_flatMap.mp hc
  obtain ⟨b, hb, hobject⟩ := exists_left_of_mem (mapM_eq_some_iff.mp h) hshape
  refine List.mem_flatMap.mpr ⟨b, hb, ?_⟩
  obtain ⟨kind, extensions⟩ := b
  cases kind <;> cases hobject
  exact hc

theorem leaves_merge (hbranches : ∀ b ∈ branches, b.Leaves ps us)
    (h : unfollowedIn extensions ⊆ us) : (merge branches extensions).Leaves ps us := by
  unfold merge
  split
  · next shape shapes hshapes =>
    refine leaves_mk_iff.mpr ⟨List.nil_subset _, ?_, ?_⟩
    · refine List.Subset.trans (unfollowedIn_subset (mergedExtensions_subset _ _)) ?_
      unfold unfollowedIn
      rw [List.flatMap_append, List.append_subset, List.flatMap_assoc, flatMap_subset_iff]
      exact ⟨fun b hb => (hbranches b hb).keywords, h⟩
    · intro c hc
      have hmerged := ObjectShape.children_foldl_merge_subset .empty (shape :: shapes) hc
      have hbranch := children_subset_of_mapM_object? hshapes hmerged
      obtain ⟨b, hb, hc⟩ := List.mem_flatMap.mp hbranch
      exact (hbranches b hb).children c hc
  · exact leaves_mk_iff.mpr ⟨List.nil_subset _, h, hbranches⟩

/-- Bringing one layer into canonical form leaves nothing that was not there. -/
theorem leaves_canonicalLayer (h : (mk kind extensions).Leaves ps us) :
    (canonicalLayer kind extensions).Leaves ps us := by
  obtain ⟨-, hext, hchildren⟩ := leaves_mk_iff.mp h
  cases kind with
  | variants records => exact leaves_mk_iff.mpr ⟨List.nil_subset _, hext, fun _ hc => nomatch hc⟩
  | union branches => exact leaves_collapse hchildren hext
  | mixedArray items => exact leaves_itemsOf hchildren hext
  | allOf branches => exact leaves_merge hchildren hext
  | _ => exact h

/-- The canonical form of a schema leaves nothing that the schema did not leave. -/
theorem Leaves.canonical (h : s.Leaves ps us) : s.canonical.Leaves ps us := by
  induction s using Schema.induct with
  | h kind extensions ih =>
    obtain ⟨hpointer, hext, hchildren⟩ := leaves_mk_iff.mp h
    rw [canonical_mk]
    apply leaves_canonicalLayer
    refine leaves_mk_iff.mpr ⟨by rwa [Kind.pointer?_map], hext, ?_⟩
    intro canonicalChild hcanonical
    rw [Kind.children_map] at hcanonical
    obtain ⟨c, hc, rfl⟩ := List.mem_map.mp hcanonical
    exact ih c hc (hchildren c hc)

end Schema

end MockBuilders
