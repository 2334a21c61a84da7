import MockBuilders.Proofs.Schema.MergedObject

/-!
Intersections inside intersections, and unions inside unions. An inner one with nothing kept beside
it stands for its branches, so that the canonical form is that of all leaves from left to right.
Main statements: `Schema.canonical_allOf_of_flattens`, `Schema.canonical_union`.
-/
namespace MockBuilders

namespace ObjectShape
variable {σ : Type} {s t : ObjectShape σ}

theorem merge_merge (hs : Members.Distinct s.properties) (ht : Members.Distinct t.properties)
    (u : ObjectShape σ) : s.merge (t.merge u) = (s.merge t).merge u := by
  simp only [merge, Members.putAll_putAll hs ht, addAllNew_addAllNew, Option.or_assoc]

theorem empty_merge (hproperties : Members.Distinct s.properties) (hrequired : s.required.Nodup) :
    empty.merge s = s := by
  have hkept : Members.putAll [] s.properties = s.properties :=
    Members.ofPairs_of_distinct hproperties
  have hlisted : addAllNew [] s.required = s.required := firstSeen_of_nodup hrequired
  simp only [merge, empty, hkept, hlisted, Option.or_none]

/-- Shapes may be merged among themselves first. -/
theorem foldl_merge_eq (hs : Members.Distinct s.properties) (shapes : List (ObjectShape σ)) :
    shapes.foldl merge s = s.merge (shapes.foldl merge .empty) := by
  induction shapes using List.reverseRecOn with
  | nil => rfl
  | append_singleton shapes t ih =>
    have hempty : Members.Distinct (empty : ObjectShape σ).properties := List.nodup_nil
    simp only [List.foldl_append, List.foldl_cons, List.foldl_nil]
    rw [ih, merge_merge hs (distinct_foldl_merge hempty shapes)]

end ObjectShape

namespace Schema

variable {branches leaves inside : List Schema} {e : Members Json} {s : Schema}

section Flattens
variable {list : List Schema → Kind Schema}

/-- The leaves of branches, some of which may be lists of branches themselves. An inner list is not
empty and has nothing kept beside it. -/
inductive Flattens (list : List Schema → Kind Schema) : List Schema → List Schema → Prop
  | nil : Flattens list [] []
  | leaf (s : Schema) {branches leaves : List Schema} :
      Flattens list branches leaves → Flattens list (s :: branches) (s :: leaves)
  | inner {inside held branches leaves : List Schema} : inside ≠ [] →
      Flattens list inside held → Flattens list branches leaves →
      Flattens list (mk (list inside) [] :: branches) (held ++ leaves)

theorem Flattens.ne_nil (h : Flattens list branches leaves) (hne : branches ≠ []) :
    leaves ≠ [] := by
  induction h with
  | nil => exact hne
  | leaf s _ _ => exact List.cons_ne_nil _ _
  | inner hinside _ _ ih _ => exact List.append_ne_nil_of_left_ne_nil (ih hinside) _

/-- If an inner list of branches of one sort is of that sort and gives what its branches give, then
all branches give what the leaves give. -/
theorem Flattens.gather_eq {α : Type} (sort : Schema → Prop) (gather : List Schema → α)
    (combine : α → α → α) (happend : ∀ as bs, gather (as ++ bs) = combine (gather as) (gather bs))
    (hinner : ∀ inside, inside ≠ [] → (∀ b ∈ inside, sort b.canonical) →
      sort (mk (list inside) []).canonical ∧
        gather [(mk (list inside) []).canonical] = gather (inside.map canonical))
    (h : Flattens list branches leaves) (hleaves : ∀ l ∈ leaves, sort l.canonical) :
    (∀ b ∈ branches, sort b.canonical) ∧
      gather (branches.map canonical) = gather (leaves.map canonical) := by
  induction h with
  | nil => exact ⟨List.forall_mem_nil _, rfl⟩
  | leaf s _ ih =>
    obtain ⟨hs, hrest⟩ := List.forall_mem_cons.mp hleaves
    obtain ⟨hbranches, hsame⟩ := ih hrest
    refine ⟨List.forall_mem_cons.mpr ⟨hs, hbranches⟩, ?_⟩
    rw [List.map_cons, List.map_cons, ← List.singleton_append, happend, hsame, ← happend,
      List.singleton_append]
  | @inner inside held branches leaves hne _ _ ihInside ih =>
    obtain ⟨hheld, hrest⟩ := List.forall_mem_append.mp hleaves
    obtain ⟨hinside, hsameInside⟩ := ihInside hheld
    obtain ⟨hbranches, hsame⟩ := ih hrest
    obtain ⟨hnode, hgather⟩ := hinner inside hne hinside
    refine ⟨List.forall_mem_cons.mpr ⟨hnode, hbranches⟩, ?_⟩
    rw [List.map_cons, List.map_append, ← List.singleton_append, happend, happend, hgather,
      hsameInside, hsame]

end Flattens

section Intersections

theorem mergedShape_append (as bs : List Schema) :
    mergedShape (as ++ bs) = (mergedShape as).merge (mergedShape bs) := by
  rw [mergedShape, List.filterMap_append, List.foldl_append]
  exact ObjectShape.foldl_merge_eq (distinct_mergedShape as) _

theorem mergedExtensions_append (as bs : List Schema) :
    mergedExtensions (as ++ bs) [] = (mergedExtensions as []).orElse (mergedExtensions bs []) := by
  induction bs using List.reverseRecOn with
  | nil =>
    rw [List.append_nil]
    rfl
  | append_singleton bs b ih =>
    have hconcat (cs : List Schema) : mergedExtensions (cs ++ [b]) [] =
        (mergedExtensions cs []).orElse b.extensions := List.foldl_concat ..
    rw [← List.append_assoc, hconcat, hconcat, ih,
      Members.orElse_orElse (distinct_mergedExtensions as [])]

/-- What a list of objects is merged to, with nothing kept beside their node. -/
def mergedParts (branches : List Schema) : ObjectShape Schema × Members Json :=
  (mergedShape branches, mergedExtensions branches [])

def joinParts (p q : ObjectShape Schema × Members Json) : ObjectShape Schema × Members Json :=
  (p.1.merge q.1, p.2.orElse q.2)

theorem mergedParts_append (as bs : List Schema) :
    mergedParts (as ++ bs) = joinParts (mergedParts as) (mergedParts bs) :=
  Prod.ext (mergedShape_append as bs) (mergedExtensions_append as bs)

theorem merge_eq_of_mergedParts (hne : branches ≠ [])
    (hobjects : ∀ b ∈ branches, b.object? ≠ none) :
    merge branches e = mk (.object (mergedParts branches).1) ((mergedParts branches).2.putAll e) :=
  merge_eq hne hobjects

/-- A merged object is merged to itself. -/
theorem mergedParts_merge (hne : branches ≠ []) (hobjects : ∀ b ∈ branches, b.object? ≠ none) :
    mergedParts [merge branches []] = mergedParts branches := by
  have hmerged := mergesTo_merge branches []
  rw [merge_eq hne hobjects]
  apply Prod.ext
  · exact ObjectShape.empty_merge hmerged.names.nodup hmerged.required.nodup
  · exact Members.nil_orElse (distinct_mergedExtensions branches [])

theorem inner_allOf (hne : inside ≠ []) (hobjects : ∀ b ∈ inside, b.canonical.object? ≠ none) :
    (mk (.allOf inside) []).canonical.object? ≠ none ∧
      mergedParts [(mk (.allOf inside) []).canonical] = mergedParts (inside.map canonical) := by
  have hne : inside.map canonical ≠ [] := by simpa using hne
  have hobjects : ∀ b ∈ inside.map canonical, b.object? ≠ none := List.forall_mem_map.mpr hobjects
  have hnode : (mk (.allOf inside) []).canonical = merge (inside.map canonical) [] :=
    canonical_mk _ _
  rw [hnode]
  refine ⟨?_, mergedParts_merge hne hobjects⟩
  rw [merge_eq hne hobjects]
  exact Option.some_ne_none _

/-- Intersections of intersections that end in objects are merged as one intersection of all
leaves. -/
theorem canonical_allOf_of_flattens (h : Flattens .allOf branches leaves)
    (hobjects : ∀ l ∈ leaves, l.canonical.object? ≠ none) (e : Members Json) :
    (mk (.allOf branches) e).canonical = (mk (.allOf leaves) e).canonical := by
  obtain ⟨hbranches, hsame⟩ := h.gather_eq (fun s => s.object? ≠ none) mergedParts
    joinParts mergedParts_append (fun _ => inner_allOf) hobjects
  by_cases hne : branches = []
  · subst hne
    cases h
    rfl
  · have hleaves := h.ne_nil hne
    rw [canonical_mk, canonical_mk]
    change merge (branches.map canonical) e = merge (leaves.map canonical) e
    rw [merge_eq_of_mergedParts (by simpa using hne) (List.forall_mem_map.mpr hbranches),
      merge_eq_of_mergedParts (by simpa using hleaves) (List.forall_mem_map.mpr hobjects), hsame]

section Shipment

def insured : Schema :=
  mk (.object ⟨[("owner", ofPrimitive .null), ("value", ofPrimitive .number)], ["value"],
    none⟩) [("title", .string "Insured")]

/-- Objects in two inner intersections and beside them. -/
def shipment : List Schema := [mk (.allOf [labelled, mk (.allOf [owned]) []]) [], insured]

theorem flattens_shipment : Flattens .allOf shipment [labelled, owned, insured] := by
  have howned : Flattens .allOf [owned] [owned] := .leaf _ .nil
  have hinside : Flattens .allOf [labelled, mk (.allOf [owned]) []] [labelled, owned] :=
    .leaf _ (.inner (List.cons_ne_nil _ _) howned .nil)
  exact .inner (List.cons_ne_nil _ _) hinside (.leaf _ .nil)

theorem canonical_shipment : Flattens .allOf shipment [labelled, owned, insured] ∧
    (∀ l ∈ [labelled, owned, insured], l.canonical.object? ≠ none) ∧
    (mk (.allOf shipment) parcelBeside).canonical =
      (mk (.allOf [labelled, owned, insured]) parcelBeside).canonical := by
  have hobjects : ∀ l ∈ [labelled, owned, insured], l.canonical.object? ≠ none := by
    simp only [List.forall_mem_cons, List.not_mem_nil, false_implies, implies_true, and_true]
    exact ⟨by rintro ⟨⟩, by rintro ⟨⟩, by rintro ⟨⟩⟩
  exact ⟨flattens_shipment, hobjects,
    canonical_allOf_of_flattens flattens_shipment hobjects parcelBeside⟩

end Shipment

end Intersections

section Unions

theorem canonical_of_isTypedLeaf (h : s.isTypedLeaf = true) : s.canonical = s := by
  obtain ⟨kind, e⟩ := s
  cases kind with
  | leaf l => rfl
  | _ => cases h

theorem types_ne_nil_of_isTypedLeaf (h : s.isTypedLeaf = true) : s.kind.types ≠ [] := by
  obtain ⟨kind, e⟩ := s
  cases kind with
  | leaf l => exact bne_iff_ne.mp h
  | _ => cases h

theorem isTypedLeaf_takenLeaf {types : TypeTag} (h : types ≠ []) (e : Members Json) :
    (takenLeaf types e).isTypedLeaf = true := by
  have htypes : (Leaf.take types e).1.types ≠ [] := by rwa [Outline.types_leafTake]
  exact bne_iff_ne.mpr htypes

/-- The types of branches, each where it first appears. -/
def unionTypes (branches : List Schema) : TypeTag :=
  firstSeen (branches.flatMap fun b => b.kind.types)

theorem unionTypes_append (as bs : List Schema) :
    unionTypes (as ++ bs) = addAllNew (unionTypes as) (unionTypes bs) := by
  rw [unionTypes, List.flatMap_append, firstSeen_append]
  rfl

theorem unionTypes_ne_nil (hne : branches ≠ []) (h : ∀ b ∈ branches, b.isTypedLeaf = true) :
    unionTypes branches ≠ [] := by
  obtain ⟨b, hb⟩ := List.exists_mem_of_ne_nil branches hne
  obtain ⟨p, hp⟩ := List.exists_mem_of_ne_nil _ (types_ne_nil_of_isTypedLeaf (h b hb))
  exact List.ne_nil_of_mem (mem_firstSeen.mpr (List.mem_flatMap.mpr ⟨b, hb, hp⟩))

theorem collapse_of_typed (h : ∀ b ∈ branches, b.isTypedLeaf = true) :
    collapse branches e = takenLeaf (unionTypes branches) e :=
  if_pos (List.all_eq_true.mpr h)

theorem collapse_of_not_typed (h : ∃ b ∈ branches, b.isTypedLeaf = false) :
    collapse branches e = mk (.choice .anyOf branches) e := by
  obtain ⟨b, hb, hfalse⟩ := h
  refine if_neg fun hall => ?_
  rw [List.all_eq_true.mp hall b hb] at hfalse
  cases hfalse

theorem inner_union (hne : inside ≠ []) (htyped : ∀ b ∈ inside, b.canonical.isTypedLeaf = true) :
    (mk (.union inside) []).canonical.isTypedLeaf = true ∧
      unionTypes [(mk (.union inside) []).canonical] = unionTypes (inside.map canonical) := by
  have htyped : ∀ b ∈ inside.map canonical, b.isTypedLeaf = true := List.forall_mem_map.mpr htyped
  have hsome := unionTypes_ne_nil (by simpa using hne) htyped
  have hnode : (mk (.union inside) []).canonical =
      takenLeaf (unionTypes (inside.map canonical)) [] := by
    rw [canonical_mk]
    exact collapse_of_typed htyped
  rw [hnode]
  refine ⟨isTypedLeaf_takenLeaf hsome [], ?_⟩
  rw [unionTypes, List.flatMap_singleton]
  exact firstSeen_of_nodup (nodup_firstSeen _)

/-- A union of unions that end in typed leaves is one leaf of all their types, as the union of the
leaves is. A union with any other branch keeps all its branches apart. -/
theorem canonical_union (e : Members Json) :
    (∀ branches leaves, Flattens .union branches leaves →
      (∀ l ∈ leaves, l.isTypedLeaf = true) →
      ∃ l rest, (mk (.union branches) e).canonical = mk (.leaf l) rest ∧
        FirstAppearances (leaves.flatMap fun s => s.kind.types) l.types ∧
        (mk (.union leaves) e).canonical = mk (.leaf l) rest) ∧
    ∀ branches, (∃ b ∈ branches, b.canonical.isTypedLeaf = false) →
      (mk (.union branches) e).canonical = mk (.choice .anyOf (branches.map canonical)) e := by
  constructor
  · intro branches leaves h htyped
    have hleaves : leaves.map canonical = leaves :=
      (List.map_congr_left fun l hl => canonical_of_isTypedLeaf (htyped l hl)).trans leaves.map_id
    have hcanonical : ∀ l ∈ leaves, l.canonical.isTypedLeaf = true := by
      intro l hl
      rw [canonical_of_isTypedLeaf (htyped l hl)]
      exact htyped l hl
    obtain ⟨hbranches, htypes⟩ := h.gather_eq (fun s => s.isTypedLeaf = true) unionTypes addAllNew
      unionTypes_append (fun _ => inner_union) hcanonical
    rw [hleaves] at htypes
    refine ⟨(Leaf.take (unionTypes leaves) e).1, (Leaf.take (unionTypes leaves) e).2, ?_, ?_, ?_⟩
    · rw [canonical_mk, ← htypes]
      exact collapse_of_typed (List.forall_mem_map.mpr hbranches)
    · rw [Outline.types_leafTake]
      exact firstAppearances_firstSeen _
    · rw [canonical_mk, Kind.map, hleaves]
      exact collapse_of_typed htyped
  · intro branches hother
    rw [canonical_mk]
    exact collapse_of_not_typed (by simpa using hother)

section Answer

def countOrNone : Schema := mk (.leaf ⟨[.integer, .null], none, none⟩) []

/-- Leaves in two inner unions and beside them. -/
def answer : List Schema :=
  [mk (.union [ofPrimitive .string, mk (.union [countOrNone]) []]) [], ofPrimitive .string]

def answerBeside : Members Json := [("default", .string "none")]

def level : Schema := mk (.enumeration [.string] [.string "low", .string "high"]) []

theorem flattens_answer :
    Flattens .union answer [ofPrimitive .string, countOrNone, ofPrimitive .string] := by
  have hcount : Flattens .union [countOrNone] [countOrNone] := .leaf _ .nil
  have hinside : Flattens .union [ofPrimitive .string, mk (.union [countOrNone]) []]
      [ofPrimitive .string, countOrNone] :=
    .leaf _ (.inner (List.cons_ne_nil _ _) hcount .nil)
  exact .inner (List.cons_ne_nil _ _) hinside (.leaf _ .nil)

theorem canonical_union_answer :
    Flattens .union answer [ofPrimitive .string, countOrNone, ofPrimitive .string] ∧
    (∀ l ∈ [ofPrimitive .string, countOrNone, ofPrimitive .string], l.isTypedLeaf = true) ∧
    (∃ l rest, (mk (.union answer) answerBeside).canonical = mk (.leaf l) rest ∧
      FirstAppearances [.string, .integer, .null, .string] l.types ∧
      (mk (.union [ofPrimitive .string, countOrNone, ofPrimitive .string])
        answerBeside).canonical = mk (.leaf l) rest) ∧
    level.canonical.isTypedLeaf = false ∧
    (mk (.union [level, ofPrimitive .string]) answerBeside).canonical =
      mk (.choice .anyOf [level, ofPrimitive .string]) answerBeside := by
  have htyped : ∀ l ∈ [ofPrimitive .string, countOrNone, ofPrimitive .string],
      l.isTypedLeaf = true := by decide
  have hlevel : level.canonical.isTypedLeaf = false := rfl
  obtain ⟨hleaf, hchoice⟩ := canonical_union answerBeside
  exact ⟨flattens_answer, htyped, hleaf _ _ flattens_answer htyped, hlevel,
    hchoice _ ⟨level, List.mem_cons_self, hlevel⟩⟩

end Answer

end Unions

end Schema

end MockBuilders
