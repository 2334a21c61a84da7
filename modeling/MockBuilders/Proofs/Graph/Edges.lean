import Mathlib
import MockBuilders.Graph.Basic
import MockBuilders.Proofs.FirstSeen

/-!
How the reference graph accounts for the references of its entries: each of them is an edge or
dangles, and the entries that an entry refers to are those that its references lead to.
Main statements: `ReferenceGraph.length_edges_add_length_dangling` and
`ReferenceGraph.firstAppearances_refersTo`.
-/
namespace MockBuilders

/-- What is gathered of the members of one name is what the member of that name gives. -/
theorem Members.flatMap_get? {α β : Type} {m : Members α} {key : String} {value : α}
    (hd : m.Distinct) (h : m.get? key = some value) (f : α → List β) :
    (m.flatMap fun p => if p.1 = key then f p.2 else []) = f value := by
  induction m with
  | nil => cases h
  | cons p m ih =>
    obtain ⟨hp, hm⟩ := List.nodup_cons.mp hd
    rw [List.flatMap_cons]
    by_cases hkey : p.1 = key
    · have hrest : (m.flatMap fun q => if q.1 = key then f q.2 else []) = [] := by
        apply List.flatMap_eq_nil_iff.mpr
        intro q hq
        have hne : q.1 ≠ key := fun e => hp (hkey.trans e.symm ▸ List.mem_map_of_mem hq)
        exact if_neg hne
      rw [get?, if_pos hkey] at h
      rw [if_pos hkey, hrest, List.append_nil, Option.some.inj h]
    · rw [get?, if_neg hkey] at h
      rw [if_neg hkey, List.nil_append, ih hm h]

namespace ReferenceGraph

variable {entries : Members Schema} {name pointer : String} {s : Schema}

theorem length_edges_add_length_dangling (entries : Members Schema) :
    (ofEntries entries).edges.length + (ofEntries entries).dangling.length =
      (entries.map fun p => p.2.references.length).sum := by
  simp only [ofEntries, List.length_flatMap, List.length_map, ← List.sum_map_add,
    length_targetsOf_add]

theorem successors_ofEntries (hd : entries.Distinct) (hs : entries.get? name = some s) :
    (ofEntries entries).successors name = targetsOf entries s := by
  have hedges (p : String × Schema) :
      (((targetsOf entries p.2).map (Edge.mk p.1)).filter fun e => e.source = name).map
        Edge.target = if p.1 = name then targetsOf entries p.2 else [] := by
    by_cases hp : p.1 = name <;> simp [List.filter_map, Function.comp_def, hp]
  simp only [successors, ofEntries, List.filter_flatMap, List.map_flatMap, hedges]
  exact Members.flatMap_get? hd hs _

/-- An entry refers to what its references lead to, in the order in which they first do. -/
theorem firstAppearances_refersTo (hd : entries.Distinct) (hs : entries.get? name = some s) :
    FirstAppearances (targetsOf entries s) ((ofEntries entries).refersTo name) := by
  rw [refersTo, successors_ofEntries hd hs]
  exact firstAppearances_firstSeen _

theorem mem_dangling_iff : ⟨name, pointer⟩ ∈ (ofEntries entries).dangling ↔
    ∃ s, (name, s) ∈ entries ∧ pointer ∈ s.references ∧ Pointer.lookup? entries pointer = none := by
  simp only [ofEntries, danglingOf, List.mem_flatMap, List.mem_map, List.mem_filter,
    Option.isNone_iff_eq_none]
  constructor
  · rintro ⟨⟨n, s⟩, hs, p, hp, he⟩
    obtain ⟨rfl, rfl⟩ := EntryPointer.mk.inj he
    exact ⟨s, hs, hp⟩
  · rintro ⟨s, hs, hp⟩
    exact ⟨(name, s), hs, pointer, hp, rfl⟩

end ReferenceGraph

end MockBuilders
