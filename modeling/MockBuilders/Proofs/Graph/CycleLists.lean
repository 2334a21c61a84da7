import MockBuilders.Graph.Components
import MockBuilders.Proofs.Graph.Shortest

/-!
The lists of entries on cycles: which entries they hold, and in which order. The first of them is
what a graph is refused for.
Main statements: `ReferenceGraph.listsCycles_cycles` and
`ReferenceGraph.exists_of_checkAcyclic_eq_error`.
-/
namespace MockBuilders.ReferenceGraph
open Relation

variable {g : ReferenceGraph} {a b : String} {members : List String}

/-- How entries on cycles are listed. -/
structure ListsCycles (g : ReferenceGraph) (lists : List (List String)) : Prop where
  disjoint : lists.Pairwise List.Disjoint
  /-- Two entries share a list if each leads to the other. -/
  shared : ∀ a ∈ g.names, ∀ b ∈ g.names,
    (∃ members ∈ lists, a ∈ members ∧ b ∈ members) ↔ g.LeadsTo a b ∧ g.LeadsTo b a
  found : ∀ a, (∃ members ∈ lists, a ∈ members) ↔ ∃ path, g.cyclePath? a = some path
  ordered : ∀ members ∈ lists, members.Sublist g.names
  /-- The lists have first members, which are in the order of intake too. -/
  sorted : (lists.map List.head?).Sublist (g.names.map some)
  /-- The walk that is told of a list is a cycle of its first member. -/
  walked : ∀ members ∈ lists, ∃ entry, members.head? = some entry ∧
    g.cyclePath? entry = some (g.walkOf members)

theorem cyclePath?_eq_some_iff : (∃ path, g.cyclePath? a = some path) ↔
    a ∈ g.names ∧ g.OnCycle a := by
  rw [← Option.ne_none_iff_exists', Ne, cyclePath?_eq_none_iff]
  tauto

theorem component_sublist (g : ReferenceGraph) (a : String) :
    (g.component a).Sublist g.names := by
  rw [component_eq]
  exact List.filter_sublist

/-- The lists are the components of the entries that come first in their own. -/
theorem cycles_eq (g : ReferenceGraph) :
    g.cycles = (g.names.filter fun a => (g.component a).head? = some a).map g.component := by
  rw [← List.filterMap_eq_map, List.filterMap_filter]
  simp only [decide_eq_true_eq]
  exact List.filterMap_map

/-- A list is the component of each of its members, and these lie on a cycle. -/
theorem of_mem_cycles (hmembers : members ∈ g.cycles) (ha : a ∈ members) :
    a ∈ g.names ∧ g.OnCycle a ∧ g.component a = members := by
  obtain ⟨b, -, rfl, -⟩ := mem_cycles.mp hmembers
  obtain ⟨hname, hba, hab⟩ := mem_component.mp ha
  exact ⟨hname, hab.trans hba, component_eq_of_mem ha⟩

theorem disjoint_cycles (hnames : g.names.Nodup) : g.cycles.Pairwise List.Disjoint := by
  rw [cycles_eq, List.pairwise_map]
  refine (hnames.filter _).imp_of_mem fun {a b} ha hb hne c hca hcb => hne ?_
  -- a shared entry has the component of both, and that has one first member
  have hsame := (component_eq_of_mem hca).symm.trans (component_eq_of_mem hcb)
  have hfirst := of_decide_eq_true (List.mem_filter.mp ha).2
  rw [hsame, of_decide_eq_true (List.mem_filter.mp hb).2] at hfirst
  exact (Option.some.inj hfirst).symm

theorem sorted_cycles (g : ReferenceGraph) :
    (g.cycles.map List.head?).Sublist (g.names.map some) := by
  have hheads : g.cycles.map List.head? =
      (g.names.filter fun a => (g.component a).head? = some a).map some := by
    rw [cycles_eq, List.map_map]
    exact List.map_congr_left fun a ha => of_decide_eq_true (List.mem_filter.mp ha).2
  rw [hheads]
  exact List.filter_sublist.map some

theorem exists_mem_cycles_iff : (∃ members ∈ g.cycles, a ∈ members) ↔
    a ∈ g.names ∧ g.OnCycle a := by
  constructor
  · rintro ⟨members, hmembers, ha⟩
    obtain ⟨hname, hcycle, -⟩ := of_mem_cycles hmembers ha
    exact ⟨hname, hcycle⟩
  · rintro ⟨hname, hcycle⟩
    exact ⟨_, component_mem_cycles hname hcycle, mem_component.mpr ⟨hname, hcycle, hcycle⟩⟩

/-- The first member of a list has a cycle, which is told of the list. -/
theorem exists_walkOf (hmembers : members ∈ g.cycles) : ∃ entry, members.head? = some entry ∧
    g.cyclePath? entry = some (g.walkOf members) := by
  obtain ⟨a, -, -, hhead⟩ := mem_cycles.mp hmembers
  obtain ⟨hname, hcycle, -⟩ := of_mem_cycles hmembers (List.mem_of_head? hhead)
  obtain ⟨path, hpath⟩ := cyclePath?_eq_some_iff.mpr ⟨hname, hcycle⟩
  refine ⟨a, hhead, ?_⟩
  rw [walkOf, hhead, Option.bind_some, hpath, Option.getD_some]

theorem listsCycles_cycles (hnames : g.names.Nodup) : g.ListsCycles g.cycles where
  disjoint := disjoint_cycles hnames
  shared a ha b hb := by
    constructor
    · rintro ⟨members, hmembers, hma, hmb⟩
      obtain ⟨-, -, rfl⟩ := of_mem_cycles hmembers hma
      exact (mem_component.mp hmb).2
    · rintro ⟨hab, hba⟩
      have hcycle : g.OnCycle a := hab.trans hba
      exact ⟨_, component_mem_cycles ha hcycle, mem_component.mpr ⟨ha, hcycle, hcycle⟩,
        mem_component.mpr ⟨hb, hab, hba⟩⟩
  found a := exists_mem_cycles_iff.trans cyclePath?_eq_some_iff.symm
  ordered members hmembers := by
    obtain ⟨a, -, rfl, -⟩ := mem_cycles.mp hmembers
    exact component_sublist g a
  sorted := sorted_cycles g
  walked members := exists_walkOf

theorem pairwise_place (hnames : g.names.Nodup) :
    g.names.Pairwise fun a b => g.place a < g.place b := by
  refine List.pairwise_iff_getElem.mpr fun i j hi hj hij => ?_
  rwa [place, place, hnames.idxOf_getElem, hnames.idxOf_getElem]

/-- The first member of a list comes before all others. -/
theorem place_le_of_mem (hnames : g.names.Nodup) (hmembers : members ∈ g.cycles)
    (hhead : members.head? = some a) (hb : b ∈ members) : g.place a ≤ g.place b := by
  have hordered := (pairwise_place hnames).sublist
    ((listsCycles_cycles hnames).ordered members hmembers)
  obtain ⟨rest, rfl⟩ := List.head?_eq_some_iff.mp hhead
  rcases List.mem_cons.mp hb with rfl | hb
  · exact Nat.le_refl _
  · exact Nat.le_of_lt ((List.pairwise_cons.mp hordered).1 b hb)

theorem pairwise_cycles (hnames : g.names.Nodup) : g.cycles.Pairwise fun members others =>
    ∀ a ∈ members.head?, ∀ b ∈ others.head?, g.place a < g.place b := by
  have hplaces :
      (g.names.map some).Pairwise fun x y => ∀ a ∈ x, ∀ b ∈ y, g.place a < g.place b := by
    refine List.pairwise_map.mpr ((pairwise_place hnames).imp ?_)
    rintro a b hlt _ ⟨⟩ _ ⟨⟩
    exact hlt
  exact List.pairwise_map.mp (hplaces.sublist (sorted_cycles g))

/-- A graph with cycles is refused for the earliest entry on any, with a cycle of that entry. -/
theorem exists_of_checkAcyclic_eq_error (hnames : g.names.Nodup) {f : Failure}
    (h : g.checkAcyclic = .error f) : ∃ entry path, f = .cyclic entry path ∧
      entry ∈ g.names ∧ g.OnCycle entry ∧
      (∀ b ∈ g.names, g.OnCycle b → g.place entry ≤ g.place b) ∧
      g.cyclePath? entry = some path := by
  unfold checkAcyclic at h
  split at h
  · cases h
  · next members rest hcycles =>
    have hmembers : members ∈ g.cycles := hcycles ▸ List.mem_cons_self
    obtain ⟨entry, hhead, hpath⟩ := exists_walkOf hmembers
    obtain ⟨hname, hcycle, -⟩ := of_mem_cycles hmembers (List.mem_of_head? hhead)
    refine ⟨entry, g.walkOf members, ?_, hname, hcycle, fun b hb hbcycle => ?_, hpath⟩
    · rw [← Except.error.inj h, List.headD_eq_head?_getD, hhead, Option.getD_some]
    · -- the entry comes before the first member of the list that holds the other one
      obtain ⟨others, hothers, hb⟩ := exists_mem_cycles_iff.mpr ⟨hb, hbcycle⟩
      obtain ⟨first, hfirst, -⟩ := exists_walkOf hothers
      have hle := place_le_of_mem hnames hothers hfirst hb
      rw [hcycles] at hothers
      rcases List.mem_cons.mp hothers with rfl | hothers
      · obtain rfl := Option.some.inj (hhead.symm.trans hfirst)
        exact hle
      · have hlater := (List.pairwise_cons.mp (hcycles ▸ pairwise_cycles hnames)).1 _ hothers
        exact Nat.le_of_lt (Nat.lt_of_lt_of_le (hlater entry hhead first hfirst) hle)

end MockBuilders.ReferenceGraph
