import MockBuilders.Proofs.Graph.Circuit
import MockBuilders.Proofs.Graph.Reachability

/-!
The search from an entry visits what it reaches in order of distance, by trails that no walk is
shorter than. So the first entry on its way that refers back to the start closes a shortest cycle.
Main statements: `ReferenceGraph.cyclePath?_eq_none_iff`,
`ReferenceGraph.isCircuit_of_cyclePath?` and `ReferenceGraph.length_le_of_isRoundTrip`.
-/
namespace MockBuilders

namespace Trail

/-- The number of edges. -/
def steps (t : Trail) : Nat := t.before.length

/-- The second trail has as many edges as the first, or one more. -/
def Near (t u : Trail) : Prop := t.steps ≤ u.steps ∧ u.steps ≤ t.steps + 1

theorem path_extend (t : Trail) (b : String) : (t.extend b).path = t.path ++ [b] := by
  simp [path, extend]

theorem length_path (t : Trail) : t.path.length = t.steps + 1 := by
  simp [path, steps]

theorem getLast?_path (t : Trail) : t.path.getLast? = some t.last := by
  simp [path]

end Trail

namespace ReferenceGraph
open Relation

variable {g : ReferenceGraph} {seen queue : List String} {trails : List Trail} {t u : Trail}
  {a b : String}

/-- The trails of a queue keep to names that were seen and are sorted by their edges, no two of
them further apart than one. -/
structure InOrder (seen : List String) (trails : List Trail) : Prop where
  held : ∀ t ∈ trails, t.path ⊆ seen
  near : trails.Pairwise Trail.Near

/-- Visiting the first trail of a queue keeps the queue in order. -/
theorem InOrder.visit (h : InOrder seen (t :: trails)) :
    InOrder (seen ++ g.fresh seen t.last) (trails ++ (g.fresh seen t.last).map t.extend) := by
  obtain ⟨hheld, hnear⟩ := h
  obtain ⟨hfirst, hrest⟩ := List.pairwise_cons.mp hnear
  constructor
  · intro u hu
    rcases List.mem_append.mp hu with hu | hu
    · exact List.subset_append_of_subset_left _ (hheld u (List.mem_cons_of_mem _ hu))
    · obtain ⟨b, hb, rfl⟩ := List.mem_map.mp hu
      rw [Trail.path_extend, List.append_subset]
      refine ⟨List.subset_append_of_subset_left _ (hheld t List.mem_cons_self), fun c hc => ?_⟩
      rw [List.mem_singleton.mp hc]
      exact List.mem_append_right _ hb
  · refine List.pairwise_append.mpr ⟨hrest, ?_, ?_⟩
    · exact List.pairwise_map.mpr
        (List.pairwise_of_forall fun _ _ => ⟨Nat.le_refl _, Nat.le_succ _⟩)
    · -- the new trails come last: each has one edge more than the first of the queue
      intro u hu _ hv
      obtain ⟨b, -, rfl⟩ := List.mem_map.mp hv
      obtain ⟨hle, hge⟩ := hfirst u hu
      exact ⟨hge, Nat.succ_le_succ hle⟩

/-- What holds of the trails of a queue, and still does when one is extended by a name that is not
on it, holds of all that are visited. -/
theorem forall_mem_visit {P : Trail → Prop} (h : InOrder seen trails) (hP : ∀ t ∈ trails, P t)
    (hextend : ∀ t b, P t → g.Refers t.last b → b ∉ t.path → P (t.extend b)) :
    ∀ t ∈ g.visit seen trails, P t := by
  fun_induction visit g seen trails with
  | case1 => exact fun _ h => by cases h
  | case2 seen t rest ih =>
    obtain ⟨ht, hrest⟩ := List.forall_mem_cons.mp hP
    refine List.forall_mem_cons.mpr ⟨ht, ih h.visit ?_⟩
    intro u hu
    rcases List.mem_append.mp hu with hu | hu
    · exact hrest u hu
    · obtain ⟨b, hb, rfl⟩ := List.mem_map.mp hu
      obtain ⟨hrefers, hunseen⟩ := mem_fresh.mp hb
      exact hextend t b ht hrefers fun hmem => hunseen (h.held t List.mem_cons_self hmem)

/-- No trail that is visited later has fewer edges than the first of a queue. -/
theorem steps_le_of_mem_visit (h : InOrder seen (t :: trails))
    (hu : u ∈ g.visit (seen ++ g.fresh seen t.last)
      (trails ++ (g.fresh seen t.last).map t.extend)) : t.steps ≤ u.steps := by
  refine forall_mem_visit h.visit (P := fun u => t.steps ≤ u.steps) ?_ ?_ u hu
  · intro u hu
    rcases List.mem_append.mp hu with hu | hu
    · exact ((List.pairwise_cons.mp h.near).1 u hu).1
    · obtain ⟨b, -, rfl⟩ := List.mem_map.mp hu
      exact Nat.le_succ _
  · exact fun v b hle _ _ => Nat.le_succ_of_le hle

theorem pairwise_visit (h : InOrder seen trails) :
    (g.visit seen trails).Pairwise fun t u => t.steps ≤ u.steps := by
  fun_induction visit g seen trails with
  | case1 => exact .nil
  | case2 seen t rest ih =>
    exact List.pairwise_cons.mpr ⟨fun u => steps_le_of_mem_visit h, ih h.visit⟩

/-- The end of an edge was seen before, or is visited by a trail that is not longer than the one to
the source of the edge with that edge. -/
theorem visit_closed_of_inOrder (h : InOrder seen trails) (ht : t ∈ g.visit seen trails)
    (hb : g.Refers t.last b) :
    b ∈ seen ∨ ∃ u ∈ g.visit seen trails, u.last = b ∧ u.steps ≤ t.steps + 1 := by
  fun_induction visit g seen trails with
  | case1 => cases ht
  | case2 seen v rest ih =>
    have visited (hf : b ∈ g.fresh seen v.last) (hle : v.steps ≤ t.steps) :
        ∃ u ∈ v :: g.visit (seen ++ g.fresh seen v.last)
          (rest ++ (g.fresh seen v.last).map v.extend), u.last = b ∧ u.steps ≤ t.steps + 1 :=
      ⟨v.extend b, List.mem_cons_of_mem _ (subset_visit
        (List.mem_append_right _ (List.mem_map_of_mem hf))), rfl, Nat.succ_le_succ hle⟩
    rcases List.mem_cons.mp ht with rfl | ht
    · by_cases hs : b ∈ seen
      · exact .inl hs
      · exact .inr (visited (mem_fresh.mpr ⟨hb, hs⟩) (Nat.le_refl _))
    · rcases ih h.visit ht with hs | ⟨u, hu, hlast⟩
      · exact (List.mem_append.mp hs).imp id fun hf => visited hf (steps_le_of_mem_visit h ht)
      · exact .inr ⟨u, List.mem_cons_of_mem _ hu, hlast⟩

theorem inOrder_start (a : String) : InOrder [a] [⟨a, []⟩] :=
  ⟨fun _ ht => List.mem_singleton.mp ht ▸ List.Subset.refl _, List.pairwise_singleton _ _⟩

/-- A walk from a name along edges that visits no name twice. -/
structure IsPathFrom (g : ReferenceGraph) (a : String) (path : List String) : Prop where
  head : path.head? = some a
  chain : path.IsChain g.Refers
  nodup : path.Nodup

theorem isPathFrom_of_mem_trails (h : t ∈ g.trails a) : g.IsPathFrom a t.path := by
  refine forall_mem_visit (inOrder_start a) (P := fun t => g.IsPathFrom a t.path) ?_ ?_ t h
  · intro t ht
    rw [List.mem_singleton.mp ht]
    exact ⟨rfl, List.isChain_singleton a, List.nodup_singleton a⟩
  · rintro t b ⟨hhead, hchain, hnodup⟩ hb hnew
    rw [Trail.path_extend]
    refine ⟨?_, isChain_concat hchain ?_, List.concat_eq_append ▸ hnodup.concat hnew⟩
    · rw [List.head?_append, hhead, Option.some_or]
    · rw [Trail.getLast?_path]
      rintro _ ⟨⟩
      exact hb

/-- To the end of each walk from the start there is a trail that is not longer. -/
theorem exists_trail_of_isChain {walk : List String} (hhead : walk.head? = some a)
    (hlast : walk.getLast? = some b) (hchain : walk.IsChain g.Refers) :
    ∃ t ∈ g.trails a, t.last = b ∧ t.steps + 1 ≤ walk.length := by
  induction walk using List.reverseRecOn generalizing b with
  | nil => cases hhead
  | append_singleton walk c ih =>
    have hstart : ∃ t ∈ g.trails a, t.last = a ∧ t.steps = 0 :=
      ⟨⟨a, []⟩, subset_visit (List.mem_singleton_self _), rfl, rfl⟩
    rw [List.getLast?_concat] at hlast
    obtain rfl : c = b := Option.some.inj hlast
    rw [List.length_append, List.length_singleton]
    cases hwalk : walk.getLast? with
    | none =>
      rw [List.getLast?_eq_none_iff.mp hwalk] at hhead ⊢
      obtain rfl : c = a := Option.some.inj hhead
      obtain ⟨t, ht, hlast, hsteps⟩ := hstart
      exact ⟨t, ht, hlast, by omega⟩
    | some d =>
      obtain ⟨hbefore, -, hstep⟩ := List.isChain_append.mp hchain
      have hne : walk ≠ [] := by
        rintro rfl
        cases hwalk
      rw [List.head?_append_of_ne_nil _ hne] at hhead
      obtain ⟨t, ht, rfl, hle⟩ := ih hhead hwalk hbefore
      have hedge : g.Refers t.last c := hstep _ hwalk c rfl
      rcases visit_closed_of_inOrder (inOrder_start a) ht hedge with hseen | ⟨u, hu, hlast, hsteps⟩
      · obtain rfl := List.mem_singleton.mp hseen
        obtain ⟨u, hu, hlast, hsteps⟩ := hstart
        exact ⟨u, hu, hlast, by omega⟩
      · exact ⟨u, hu, hlast, by omega⟩

theorem pairwise_trails (a : String) :
    (g.trails a).Pairwise fun t u => t.steps ≤ u.steps :=
  pairwise_visit (inOrder_start a)

/-- A walk back to the start comes from the end of a trail that is shorter than it. -/
theorem exists_trail_of_isRoundTrip {walk : List String} (h : IsRoundTrip g.Refers a walk) :
    ∃ t ∈ g.trails a, g.Refers t.last a ∧ t.steps + 2 ≤ walk.length := by
  obtain ⟨htwo, hhead, hlast, hchain⟩ := h
  obtain ⟨out, rfl⟩ := List.getLast?_eq_some_iff.mp hlast
  rw [List.length_append, List.length_singleton] at htwo ⊢
  have hne : out ≠ [] := by
    rintro rfl
    simp at htwo
  obtain ⟨b, hout⟩ := Option.isSome_iff_exists.mp (List.getLast?_isSome.mpr hne)
  obtain ⟨hchain, -, hback⟩ := List.isChain_append.mp hchain
  rw [List.head?_append_of_ne_nil _ hne] at hhead
  obtain ⟨t, ht, rfl, hle⟩ := exists_trail_of_isChain hhead hout hchain
  exact ⟨t, ht, hback _ hout a rfl, by omega⟩

/-- The cycle that is found is closed by the first trail from whose end an edge leads back. -/
theorem exists_of_cyclePath? {path : List String} (h : g.cyclePath? a = some path) :
    ∃ earlier t later, g.trails a = earlier ++ t :: later ∧ g.Refers t.last a ∧
      (∀ u ∈ earlier, ¬ g.Refers u.last a) ∧ t.path ++ [a] = path := by
  simp only [cyclePath?, Option.ite_none_right_eq_some, Option.map_eq_some_iff] at h
  obtain ⟨-, t, hfind, hpath⟩ := h
  obtain ⟨hback, earlier, later, hsplit, hearlier⟩ := List.find?_eq_some_iff_append.mp hfind
  simp only [List.contains_iff_mem, mem_successors_iff, Bool.not_eq_true', ← Bool.not_eq_true]
    at hback hearlier
  exact ⟨earlier, t, later, hsplit, hback, hearlier, hpath⟩

/-- A cycle is found from each entry that lies on one, and from nothing else. -/
theorem cyclePath?_eq_none_iff : g.cyclePath? a = none ↔ a ∉ g.names ∨ ¬ g.OnCycle a := by
  have hcycle : g.OnCycle a ↔ ∃ t ∈ g.trails a, (g.successors t.last).contains a = true := by
    simp only [OnCycle, TransGen.tail'_iff, List.contains_iff_mem, mem_successors_iff]
    constructor
    · rintro ⟨b, hb, hba⟩
      obtain ⟨t, ht, rfl⟩ := exists_trail_iff.mpr hb
      exact ⟨t, ht, hba⟩
    · rintro ⟨t, ht, hba⟩
      exact ⟨t.last, exists_trail_iff.mp ⟨t, ht, rfl⟩, hba⟩
  rw [cyclePath?, hcycle]
  by_cases hname : a ∈ g.names <;> simp [hname]

/-- The cycle that is found from an entry is a circuit. -/
theorem isCircuit_of_cyclePath? {path : List String} (h : g.cyclePath? a = some path) :
    IsCircuit g.Refers path ∧ path.head? = some a := by
  obtain ⟨earlier, t, later, hsplit, hback, -, rfl⟩ := exists_of_cyclePath? h
  have ht : t ∈ g.trails a := hsplit ▸ List.mem_append_right _ List.mem_cons_self
  obtain ⟨hhead, hchain, hnodup⟩ := isPathFrom_of_mem_trails ht
  have hstart : (t.path ++ [a]).head? = some a := by rw [List.head?_append, hhead, Option.some_or]
  refine ⟨⟨?_, ?_, ?_, ?_⟩, hstart⟩
  · rw [List.length_append, t.length_path]
    exact Nat.le_add_left 2 t.steps
  · rw [List.getLast?_concat, hstart]
  · rwa [List.dropLast_concat]
  · refine isChain_concat hchain ?_
    rw [Trail.getLast?_path]
    rintro _ ⟨⟩
    exact hback

/-- No walk back to an entry is shorter than the cycle that is found from it. -/
theorem length_le_of_isRoundTrip {path walk : List String} (h : g.cyclePath? a = some path)
    (hwalk : IsRoundTrip g.Refers a walk) : path.length ≤ walk.length := by
  obtain ⟨earlier, t, later, hsplit, -, hearlier, rfl⟩ := exists_of_cyclePath? h
  obtain ⟨u, hu, hback, hle⟩ := exists_trail_of_isRoundTrip hwalk
  -- the trail to where the walk comes back from is visited no earlier than the one that is found
  have hsteps : t.steps ≤ u.steps := by
    have hsorted := pairwise_trails (g := g) a
    rw [hsplit] at hsorted hu
    rcases List.mem_append.mp hu with hu | hu
    · exact (hearlier u hu hback).elim
    · rcases List.mem_cons.mp hu with rfl | hu
      · exact Nat.le_refl _
      · exact (List.pairwise_cons.mp (List.pairwise_append.mp hsorted).2.1).1 u hu
  rw [List.length_append, t.length_path]
  exact Nat.le_trans (Nat.add_le_add_right hsteps 2) hle

end ReferenceGraph

end MockBuilders
