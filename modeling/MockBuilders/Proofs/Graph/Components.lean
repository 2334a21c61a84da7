import Mathlib.Data.List.Sort
import MockBuilders.Proofs.Graph.CycleLists

/-!
The strongly connected components of a reference graph, gathered in whatever order, make the same
lists of entries on cycles as looking at what each entry leads to.
Main statement: `ReferenceGraph.cycles_of_components`.
-/
namespace MockBuilders.ReferenceGraph
open Relation

variable {g : ReferenceGraph} {components : List (List String)} {members : List String}
  {a b : String}

/-- Strongly connected components: each entry is in one of them, once, together with all entries
that it reaches and that reach it. -/
structure AreComponents (g : ReferenceGraph) (components : List (List String)) : Prop where
  covers : components.flatten.Perm g.names
  nonempty : ∀ members ∈ components, members ≠ []
  connected : ∀ members ∈ components, ∀ a ∈ members, ∀ b,
    b ∈ members ↔ g.Reaches a b ∧ g.Reaches b a

theorem leadsTo_of_reaches (h : g.Reaches a b) (hne : a ≠ b) : g.LeadsTo a b :=
  (reflTransGen_iff_eq_or_transGen.mp h).resolve_left (Ne.symm hne)

namespace AreComponents
variable (h : g.AreComponents components)
include h

theorem mem_names_iff : a ∈ g.names ↔ ∃ members ∈ components, a ∈ members := by
  rw [← h.covers.mem_iff, List.mem_flatten]

theorem nodup (hnames : g.names.Nodup) (hmembers : members ∈ components) : members.Nodup :=
  (List.nodup_flatten.mp (h.covers.nodup_iff.mpr hnames)).1 members hmembers

/-- A component is cyclic if its members lie on cycles. -/
theorem isCyclic_iff (hnames : g.names.Nodup) (hmembers : members ∈ components)
    (ha : a ∈ members) : g.isCyclic members = true ↔ g.OnCycle a := by
  have hconnected := h.connected members hmembers a ha
  match members, h.nodup hnames hmembers with
  | [], _ => cases ha
  | [c], _ =>
    obtain rfl := List.mem_singleton.mp ha
    rw [isCyclic, List.contains_iff_mem, mem_successors_iff]
    refine ⟨.single, fun hcycle => ?_⟩
    -- all that the cycle leads over is in the component
    obtain ⟨b, hab, hba⟩ := TransGen.head'_iff.mp hcycle
    obtain rfl := List.mem_singleton.mp ((hconnected b).mpr ⟨.single hab, hba⟩)
    exact hab
  | c :: d :: rest, hnodup =>
    have hcd : c ≠ d := fun heq => (List.nodup_cons.mp hnodup).1 (heq ▸ List.mem_cons_self)
    obtain ⟨b, hb, hne⟩ : ∃ b ∈ c :: d :: rest, a ≠ b := by
      by_cases hc : a = c
      · exact ⟨d, List.mem_cons_of_mem _ List.mem_cons_self, hc ▸ hcd⟩
      · exact ⟨c, List.mem_cons_self, hc⟩
    obtain ⟨hab, hba⟩ := (hconnected b).mp hb
    have hcycle : g.OnCycle a :=
      (leadsTo_of_reaches hab hne).trans (leadsTo_of_reaches hba hne.symm)
    exact iff_of_true (by simp [isCyclic]) hcycle

end AreComponents

theorem pairwise_mergeSort_key {α : Type} (key : α → Nat) (xs : List α) :
    (xs.mergeSort fun a b => key a ≤ key b).Pairwise fun a b => key a ≤ key b := by
  have htrans : ∀ a b c, decide (key a ≤ key b) = true → decide (key b ≤ key c) = true →
      decide (key a ≤ key c) = true := by
    intro a b c hab hbc
    rw [decide_eq_true_eq] at *
    exact Nat.le_trans hab hbc
  have hsorted := List.pairwise_mergeSort htrans
    (fun a b => by simpa using Nat.le_total (key a) (key b)) xs
  simpa only [decide_eq_true_eq] using hsorted

theorem eq_of_place_le (ha : a ∈ g.names) (hle : g.place a ≤ g.place b)
    (hge : g.place b ≤ g.place a) : a = b :=
  (List.idxOf_inj ha).mp (Nat.le_antisymm hle hge)

theorem perm_inIntakeOrder (g : ReferenceGraph) (members : List String) :
    (g.inIntakeOrder members).Perm members :=
  List.mergeSort_perm _ _

/-- Lists that share no member, and are not empty, are distinct. -/
theorem nodup_of_disjoint {lists : List (List String)} (h : lists.Pairwise List.Disjoint)
    (hne : ∀ members ∈ lists, members ≠ []) : lists.Nodup := by
  refine h.imp_of_mem ?_
  rintro members _ hmembers - hdisjoint rfl
  obtain ⟨a, ha⟩ := List.exists_mem_of_ne_nil members (hne members hmembers)
  exact hdisjoint ha ha

namespace AreComponents
variable (h : g.AreComponents components) (hnames : g.names.Nodup)
include h hnames

/-- A cyclic component in the order of intake is what each of its members leads to and back. -/
theorem inIntakeOrder_eq (hmembers : members ∈ components) (ha : a ∈ members)
    (hcycle : g.OnCycle a) : g.inIntakeOrder members = g.component a := by
  have hordered : (g.component a).Pairwise fun a b => g.place a ≤ g.place b :=
    ((pairwise_place hnames).sublist (component_sublist g a)).imp Nat.le_of_lt
  have hsame : members.Perm (g.component a) := by
    refine (List.perm_ext_iff_of_nodup (h.nodup hnames hmembers)
      (hnames.sublist (component_sublist g a))).mpr fun b => ?_
    rw [mem_component, h.connected members hmembers a ha b]
    constructor
    · rintro ⟨hab, hba⟩
      have hb := (h.connected members hmembers a ha b).mpr ⟨hab, hba⟩
      exact ⟨h.mem_names_iff.mpr ⟨members, hmembers, hb⟩, hcycle.trans_left hab,
        TransGen.trans_right hba hcycle⟩
    · rintro ⟨-, hab, hba⟩
      exact ⟨hab.to_reflTransGen, hba.to_reflTransGen⟩
  refine List.Perm.eq_of_pairwise ?_ (pairwise_mergeSort_key g.place members) hordered
    ((perm_inIntakeOrder g members).trans hsame)
  intro b c _ hc
  exact fun hle hge => (eq_of_place_le (mem_component.mp hc).1 hge hle).symm

theorem perm_cycles : ((components.filter g.isCyclic).map g.inIntakeOrder).Perm g.cycles := by
  have hnonempty : ∀ members ∈ g.cycles, members ≠ [] := by
    rintro _ hmembers rfl
    obtain ⟨_, hhead, -⟩ := exists_walkOf hmembers
    cases hhead
  have hdisjoint : ((components.filter g.isCyclic).map g.inIntakeOrder).Pairwise List.Disjoint := by
    have hall := (List.nodup_flatten.mp (h.covers.nodup_iff.mpr hnames)).2
    refine List.pairwise_map.mpr ((hall.filter _).imp fun {c d} hcd a hac had => ?_)
    exact hcd ((perm_inIntakeOrder g c).mem_iff.mp hac) ((perm_inIntakeOrder g d).mem_iff.mp had)
  have hmem : ∀ members, members ∈ (components.filter g.isCyclic).map g.inIntakeOrder ↔
      members ∈ g.cycles := by
    intro members
    simp only [List.mem_map, List.mem_filter]
    constructor
    · rintro ⟨c, ⟨hc, hcyclic⟩, rfl⟩
      obtain ⟨a, ha⟩ := List.exists_mem_of_ne_nil c (h.nonempty c hc)
      have hcycle := (h.isCyclic_iff hnames hc ha).mp hcyclic
      rw [h.inIntakeOrder_eq hnames hc ha hcycle]
      exact component_mem_cycles (h.mem_names_iff.mpr ⟨c, hc, ha⟩) hcycle
    · intro hmembers
      obtain ⟨a, hhead, -⟩ := exists_walkOf hmembers
      obtain ⟨hname, hcycle, rfl⟩ := of_mem_cycles hmembers (List.mem_of_head? hhead)
      obtain ⟨c, hc, ha⟩ := h.mem_names_iff.mp hname
      exact ⟨c, ⟨hc, (h.isCyclic_iff hnames hc ha).mpr hcycle⟩,
        h.inIntakeOrder_eq hnames hc ha hcycle⟩
  refine (List.perm_ext_iff_of_nodup (nodup_of_disjoint hdisjoint fun members hmembers => ?_)
    (nodup_of_disjoint (disjoint_cycles hnames) hnonempty)).mpr hmem
  exact hnonempty members ((hmem members).mp hmembers)

theorem cyclesAmong_eq : g.cyclesAmong components = g.cycles := by
  have hsorted : g.cycles.Pairwise fun c d => g.place (c.headD "") ≤ g.place (d.headD "") := by
    refine (pairwise_cycles hnames).imp_of_mem fun {c d} hc hd hlt => ?_
    obtain ⟨a, hca, -⟩ := exists_walkOf hc
    obtain ⟨b, hdb, -⟩ := exists_walkOf hd
    rw [List.headD_eq_head?_getD, List.headD_eq_head?_getD, hca, hdb]
    exact Nat.le_of_lt (hlt a hca b hdb)
  have hperm : (g.cyclesAmong components).Perm g.cycles :=
    (List.mergeSort_perm _ _).trans (h.perm_cycles hnames)
  refine List.Perm.eq_of_pairwise ?_ (pairwise_mergeSort_key
    (fun c : List String => g.place (c.headD "")) _) hsorted hperm
  -- lists with the same first member are the same
  intro c d hc hd hle hge
  obtain ⟨a, hca, -⟩ := exists_walkOf (hperm.mem_iff.mp hc)
  obtain ⟨b, hdb, -⟩ := exists_walkOf hd
  obtain ⟨hname, -, hac⟩ := of_mem_cycles (hperm.mem_iff.mp hc) (List.mem_of_head? hca)
  obtain ⟨-, -, hbd⟩ := of_mem_cycles hd (List.mem_of_head? hdb)
  rw [List.headD_eq_head?_getD, List.headD_eq_head?_getD, hca, hdb] at hle hge
  obtain rfl : a = b := eq_of_place_le hname hle hge
  exact hac.symm.trans hbd

end AreComponents

theorem checkAcyclic_eq_error_iff : (∃ f, g.checkAcyclic = .error f) ↔ g.cycles ≠ [] := by
  unfold checkAcyclic
  cases g.cycles <;> simp

/-- Entries on cycles are listed as the strongly connected components say: no two lists share an
entry, entries share a list if each leads to the other, and those are listed from which a cycle is
found. Entries and lists are in the order of intake. A graph with such lists, and no other, is
refused for the earliest entry on a cycle, with a cycle that starts and ends at it. -/
theorem cycles_of_components (g : ReferenceGraph) (components : List (List String))
    (hnames : g.names.Nodup) (h : g.AreComponents components) :
    g.cyclesAmong components = g.cycles ∧ g.ListsCycles g.cycles ∧
    ((∃ f, g.checkAcyclic = .error f) ↔ g.cycles ≠ []) ∧
    ∀ f, g.checkAcyclic = .error f → ∃ entry path, f = .cyclic entry path ∧
      entry ∈ g.names ∧ g.OnCycle entry ∧
      (∀ b ∈ g.names, g.OnCycle b → g.place entry ≤ g.place b) ∧
      IsCircuit g.Refers path ∧ path.head? = some entry := by
  refine ⟨h.cyclesAmong_eq hnames, listsCycles_cycles hnames, checkAcyclic_eq_error_iff, ?_⟩
  intro f hf
  obtain ⟨entry, path, rfl, hname, hcycle, hfirst, hpath⟩ :=
    exists_of_checkAcyclic_eq_error hnames hf
  obtain ⟨hcircuit, hhead⟩ := isCircuit_of_cyclePath? hpath
  exact ⟨entry, path, rfl, hname, hcycle, hfirst, hcircuit, hhead⟩

section Kennel

/-- Two entries that refer to each other, one of them to a third as well, and one that refers to
itself. -/
def kennel : ReferenceGraph where
  nodes := [("Tag", .value), ("Pet", .object), ("Owner", .object), ("Node", .object)]
  edges := [⟨"Pet", "Owner"⟩, ⟨"Pet", "Tag"⟩, ⟨"Owner", "Pet"⟩, ⟨"Node", "Node"⟩]
  dangling := []
  unfollowed := []

/-- No edges lead out of entries that are closed under edges. -/
theorem mem_of_reaches {names : List String}
    (hclosed : ∀ e ∈ g.edges, e.source ∈ names → e.target ∈ names) (ha : a ∈ names)
    (h : g.Reaches a b) : b ∈ names := by
  induction h with
  | refl => exact ha
  | tail _ hedge ih => exact hclosed _ hedge ih

theorem areComponents_kennel :
    kennel.AreComponents [["Node"], ["Owner", "Pet"], ["Tag"]] where
  covers := by decide
  nonempty := by decide
  connected := by
    have hpet : kennel.Reaches "Pet" "Owner" :=
      .single (show ⟨"Pet", "Owner"⟩ ∈ kennel.edges by decide)
    have howner : kennel.Reaches "Owner" "Pet" :=
      .single (show ⟨"Owner", "Pet"⟩ ∈ kennel.edges by decide)
    have htag {b} (h : kennel.Reaches "Tag" b) : b ∈ ["Tag"] :=
      mem_of_reaches (by decide) (List.mem_singleton_self _) h
    have hnode {b} (h : kennel.Reaches "Node" b) : b ∈ ["Node"] :=
      mem_of_reaches (by decide) (List.mem_singleton_self _) h
    have hpair {a b} (ha : a ∈ ["Owner", "Pet"]) (hab : kennel.Reaches a b)
        (hba : kennel.Reaches b a) : b ∈ ["Owner", "Pet"] := by
      have hb : b ∈ ["Owner", "Pet", "Tag"] :=
        mem_of_reaches (by decide) (List.mem_append_left ["Tag"] ha) hab
      obtain hb | rfl : b ∈ ["Owner", "Pet"] ∨ b = "Tag" := by simpa [or_assoc] using hb
      · exact hb
      · -- nothing leads out of the tag
        obtain rfl := List.mem_singleton.mp (htag hba)
        exact absurd ha (by decide)
    intro members hmembers a ha b
    obtain rfl | rfl | rfl : members = ["Node"] ∨ members = ["Owner", "Pet"] ∨
        members = ["Tag"] := by simpa using hmembers
    · obtain rfl := List.mem_singleton.mp ha
      refine ⟨fun hb => ?_, fun h => hnode h.1⟩
      obtain rfl := List.mem_singleton.mp hb
      exact ⟨.refl, .refl⟩
    · refine ⟨fun hb => ?_, fun h => hpair ha h.1 h.2⟩
      obtain rfl | rfl : a = "Owner" ∨ a = "Pet" := by simpa using ha
      · obtain rfl | rfl : b = "Owner" ∨ b = "Pet" := by simpa using hb
        exacts [⟨.refl, .refl⟩, ⟨howner, hpet⟩]
      · obtain rfl | rfl : b = "Owner" ∨ b = "Pet" := by simpa using hb
        exacts [⟨hpet, howner⟩, ⟨.refl, .refl⟩]
    · obtain rfl := List.mem_singleton.mp ha
      refine ⟨fun hb => ?_, fun h => htag h.1⟩
      obtain rfl := List.mem_singleton.mp hb
      exact ⟨.refl, .refl⟩

theorem cycles_of_kennel : kennel.names.Nodup ∧
    kennel.AreComponents [["Node"], ["Owner", "Pet"], ["Tag"]] ∧
    kennel.cyclesAmong [["Node"], ["Owner", "Pet"], ["Tag"]] = [["Pet", "Owner"], ["Node"]] := by
  have hnames : kennel.names.Nodup := by decide
  have h := (cycles_of_components kennel _ hnames areComponents_kennel).1
  have hcycles : kennel.cycles = [["Pet", "Owner"], ["Node"]] := by
    simp [cycles, reach, leadsTo, trails, visit, fresh, companions, kennel, names, successors,
      firstSeen, addAllNew, addNew, Members.keys, Trail.extend]
  exact ⟨hnames, areComponents_kennel, h.trans hcycles⟩

end Kennel

end MockBuilders.ReferenceGraph
