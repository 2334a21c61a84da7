import Mathlib.Logic.Relation
import MockBuilders.Graph.Cycles

/-!
Reachability in the reference graph, and the search that decides it.
Main statements: `ReferenceGraph.mem_leadsTo`, the search finds what edges lead to, and
`ReferenceGraph.checkAcyclic_eq_ok_iff`, a graph is accepted if none of its entries lies on a cycle.
-/
namespace MockBuilders.ReferenceGraph
open Relation

variable (g : ReferenceGraph)

/-- An edge leads from one entry to the other. -/
def Refers (a b : String) : Prop := ⟨a, b⟩ ∈ g.edges

/-- Zero or more edges lead from one entry to the other. -/
abbrev Reaches := ReflTransGen g.Refers

/-- One or more edges lead from one entry to the other. -/
abbrev LeadsTo := TransGen g.Refers

/-- Edges lead from the entry back to it. -/
def OnCycle (a : String) : Prop := g.LeadsTo a a

def Acyclic : Prop := ∀ a, ¬ g.OnCycle a

variable {g}

theorem mem_successors_iff {a b : String} : b ∈ g.successors a ↔ g.Refers a b := g.mem_successors

theorem mem_fresh {seen : List String} {a b : String} :
    b ∈ g.fresh seen a ↔ g.Refers a b ∧ b ∉ seen := by
  simp [fresh, mem_firstSeen, mem_successors_iff]

theorem subset_visit {seen : List String} {queue : List Trail} {t : Trail} (h : t ∈ queue) :
    t ∈ g.visit seen queue := by
  fun_induction visit g seen queue with
  | case1 => simp at h
  | case2 seen u rest ih =>
    rcases List.mem_cons.mp h with rfl | h
    · exact List.mem_cons_self
    · exact List.mem_cons_of_mem _ (ih (List.mem_append_left _ h))

/-- The search goes along edges only. -/
theorem reaches_of_mem_visit {seen : List String} {queue : List Trail} {t : Trail}
    (h : t ∈ g.visit seen queue) : ∃ u ∈ queue, g.Reaches u.last t.last := by
  fun_induction visit g seen queue with
  | case1 => simp at h
  | case2 seen u rest ih =>
    rcases List.mem_cons.mp h with rfl | h
    · exact ⟨t, List.mem_cons_self, .refl⟩
    obtain ⟨v, hv, hreach⟩ := ih h
    rcases List.mem_append.mp hv with hv | hv
    · exact ⟨v, List.mem_cons_of_mem _ hv, hreach⟩
    · obtain ⟨b, hb, rfl⟩ := List.mem_map.mp hv
      exact ⟨u, List.mem_cons_self, .head (mem_fresh.mp hb).1 hreach⟩

/-- The search leaves no edge out: its end was seen before or is visited as well. -/
theorem visit_closed {seen : List String} {queue : List Trail} {t : Trail} {b : String}
    (h : t ∈ g.visit seen queue) (hb : g.Refers t.last b) :
    b ∈ seen ∨ ∃ u ∈ g.visit seen queue, u.last = b := by
  fun_induction visit g seen queue with
  | case1 => simp at h
  | case2 seen u rest ih =>
    have visited (hf : b ∈ g.fresh seen u.last) : ∃ v ∈ u :: g.visit (seen ++ g.fresh seen u.last)
        (rest ++ (g.fresh seen u.last).map u.extend), v.last = b :=
      ⟨u.extend b, List.mem_cons_of_mem _ (subset_visit
        (List.mem_append_right _ (List.mem_map_of_mem hf))), rfl⟩
    rcases List.mem_cons.mp h with rfl | h
    · by_cases hs : b ∈ seen
      · exact .inl hs
      · exact .inr (visited (mem_fresh.mpr ⟨hb, hs⟩))
    · rcases ih h with hs | ⟨v, hv, hlast⟩
      · exact (List.mem_append.mp hs).imp id visited
      · exact .inr ⟨v, List.mem_cons_of_mem _ hv, hlast⟩

/-- The search from an entry visits exactly what it reaches. -/
theorem exists_trail_iff {a b : String} : (∃ t ∈ g.trails a, t.last = b) ↔ g.Reaches a b := by
  constructor
  · rintro ⟨t, ht, rfl⟩
    obtain ⟨u, hu, h⟩ := reaches_of_mem_visit ht
    rw [List.mem_singleton.mp hu] at h
    exact h
  · intro h
    induction h with
    | refl => exact ⟨⟨a, []⟩, subset_visit (List.mem_singleton_self _), rfl⟩
    | tail _ hbc ih =>
      obtain ⟨t, ht, rfl⟩ := ih
      rcases visit_closed ht hbc with hs | hv
      · rw [List.mem_singleton.mp hs]
        exact ⟨⟨a, []⟩, subset_visit (List.mem_singleton_self _), rfl⟩
      · exact hv

theorem mem_leadsTo {a b : String} : b ∈ g.leadsTo a ↔ g.LeadsTo a b := by
  rw [show g.LeadsTo a b ↔ _ from TransGen.tail'_iff]
  simp only [leadsTo, mem_firstSeen, List.mem_flatMap, mem_successors_iff]
  constructor
  · rintro ⟨t, ht, hb⟩
    exact ⟨t.last, exists_trail_iff.mp ⟨t, ht, rfl⟩, hb⟩
  · rintro ⟨c, hc, hb⟩
    obtain ⟨t, ht, rfl⟩ := exists_trail_iff.mpr hc
    exact ⟨t, ht, hb⟩

/-- The entries that an entry leads to and that lead back to it, in the order of intake. -/
def component (g : ReferenceGraph) (a : String) : List String :=
  companions g.reach a (g.leadsTo a)

theorem component_eq (g : ReferenceGraph) (a : String) :
    g.component a =
      g.names.filter fun b => (g.leadsTo a).contains b && (g.leadsTo b).contains a := by
  simp only [component, companions, reach, List.filter_map, Members.keys, List.map_map]
  exact List.map_id' _

theorem mem_component {a b : String} :
    b ∈ g.component a ↔ b ∈ g.names ∧ g.LeadsTo a b ∧ g.LeadsTo b a := by
  simp [component_eq, mem_leadsTo]

/-- Entries that lead to each other have one component. -/
theorem component_eq_of_mem {a b : String} (h : b ∈ g.component a) :
    g.component b = g.component a := by
  obtain ⟨-, hab, hba⟩ := mem_component.mp h
  rw [component_eq, component_eq]
  apply List.filter_congr
  intro c _
  rw [Bool.eq_iff_iff]
  simp only [Bool.and_eq_true, List.contains_iff_mem, mem_leadsTo]
  exact ⟨fun ⟨hbc, hcb⟩ => ⟨hab.trans hbc, hcb.trans hba⟩,
    fun ⟨hac, hca⟩ => ⟨hba.trans hac, hca.trans hab⟩⟩

theorem mem_cycles {members : List String} :
    members ∈ g.cycles ↔
      ∃ a ∈ g.names, g.component a = members ∧ members.head? = some a := by
  have hp (p : String × List String) : p ∈ g.reach ↔ ∃ a ∈ g.names, (a, g.leadsTo a) = p := by
    simp only [reach, List.mem_map]
  simp only [cycles, List.mem_filterMap, hp, Option.ite_none_right_eq_some, Option.some.injEq]
  constructor
  · rintro ⟨p, ⟨a, ha, rfl⟩, hhead, rfl⟩
    exact ⟨a, ha, rfl, hhead⟩
  · rintro ⟨a, ha, rfl, hhead⟩
    exact ⟨_, ⟨a, ha, rfl⟩, hhead, rfl⟩

theorem component_mem_cycles (ha : a ∈ g.names) (h : g.OnCycle a) : g.component a ∈ g.cycles := by
  have hself : a ∈ g.component a := mem_component.mpr ⟨ha, h, h⟩
  obtain ⟨b, rest, hb⟩ := List.exists_cons_of_ne_nil (List.ne_nil_of_mem hself)
  have hfirst : b ∈ g.component a := hb ▸ List.mem_cons_self
  exact mem_cycles.mpr ⟨b, (mem_component.mp hfirst).1, component_eq_of_mem hfirst, by rw [hb]; rfl⟩

/-- A cycle is listed for every entry that lies on one. -/
theorem cycles_eq_nil_iff : g.cycles = [] ↔ ∀ a ∈ g.names, ¬ g.OnCycle a := by
  constructor
  · intro h a ha hcycle
    have hlisted := component_mem_cycles ha hcycle
    rw [h] at hlisted
    cases hlisted
  · intro h
    apply List.eq_nil_iff_forall_not_mem.mpr
    intro members hm
    obtain ⟨a, ha, rfl, hhead⟩ := mem_cycles.mp hm
    exact h a ha (mem_component.mp (List.mem_of_head? hhead)).2.1

theorem checkAcyclic_eq_ok_iff : g.checkAcyclic = .ok () ↔ ∀ a ∈ g.names, ¬ g.OnCycle a := by
  rw [← cycles_eq_nil_iff, checkAcyclic]
  split <;> simp_all

theorem checkAcyclic_eq_error {f : Failure} (h : g.checkAcyclic = .error f) :
    ∃ entry cycle, f = .cyclic entry cycle := by
  unfold checkAcyclic at h
  split at h
  · cases h
  · exact ⟨_, _, (Except.error.inj h).symm⟩

end MockBuilders.ReferenceGraph
