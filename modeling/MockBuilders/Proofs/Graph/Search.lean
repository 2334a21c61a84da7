import MockBuilders.Graph.Search
import MockBuilders.Proofs.Graph.Shortest
import MockBuilders.Proofs.Members.Alike

/-!
The search that keeps an origin for each name takes the same way as the one that keeps whole
trails. So it comes to an end, never lacks an origin on its way back, and finds shortest cycles.
Main statement: `ReferenceGraph.search_finds_shortest`.
-/
namespace MockBuilders

namespace Frontier

variable {start name key : String} {f met : Frontier} {targets : List String}

/-- Names that are found keep their origins. -/
theorem get?_find (f : Frontier) (name target : String) {origin : String}
    (h : f.origins.get? key = some origin) :
    (f.find name target).origins.get? key = some origin := by
  unfold find
  split
  · exact h
  · rw [Members.get?_append, h, Option.some_or]

/-- An edge to the start ends it, and what was found until then keeps its origin. -/
theorem follow_of_mem (h : start ∈ targets) : ∃ met, follow start name f targets = .error met ∧
    ∀ key origin, f.origins.get? key = some origin → met.origins.get? key = some origin := by
  induction targets generalizing f with
  | nil => cases h
  | cons target targets ih =>
    rw [follow, List.foldlM_cons]
    by_cases htarget : target = start
    · rw [if_pos htarget]
      exact ⟨f, rfl, fun _ _ => id⟩
    · rw [if_neg htarget]
      obtain ⟨met, hmet, hkept⟩ :=
        ih (f := f.find name target) (List.mem_of_ne_of_mem (Ne.symm htarget) h)
      exact ⟨met, hmet,
        fun key origin horigin => hkept key origin (get?_find f name target horigin)⟩

theorem keys_map_found (names : List String) (name : String) :
    Members.keys (names.map (·, name)) = names := by
  rw [Members.keys, List.map_map]
  exact List.map_id' names

theorem get?_map_found {names : List String} (h : key ∈ names) (name : String) :
    Members.get? (names.map (·, name)) key = some name := by
  have hkey : key ∈ Members.keys (names.map (·, name)) := (keys_map_found names name).symm ▸ h
  obtain ⟨origin, horigin⟩ := Option.isSome_iff_exists.mp (Members.has_iff.mpr hkey)
  obtain ⟨_, -, heq⟩ := List.mem_map.mp (Members.mem_of_get? horigin)
  cases heq
  exact horigin

/-- The names among the targets of edges that were not found yet, in the order of the edges. -/
def unfound (start : String) (f : Frontier) (targets : List String) : List String :=
  firstSeen (targets.filter (· ∉ start :: f.origins.keys))

theorem unfound_concat {target : String} (h : target ≠ start) :
    f.unfound start (targets ++ [target]) =
      if target ∈ f.origins.keys then f.unfound start targets
      else addNew (f.unfound start targets) target := by
  rw [unfound, List.filter_append]
  split
  · next hfound =>
    rw [List.filter_cons_of_neg (by simp [hfound]), List.filter_nil, List.append_nil, unfound]
  · next hfound =>
    rw [List.filter_cons_of_pos (by simp [h, hfound]), List.filter_nil, firstSeen_concat, unfound]

/-- Without an edge to the start, all targets of edges that were not found yet are taken up. -/
theorem follow_of_not_mem (h : start ∉ targets) : follow start name f targets =
    .ok ⟨f.origins ++ (f.unfound start targets).map (·, name),
      f.queue ++ f.unfound start targets⟩ := by
  induction targets using List.reverseRecOn with
  | nil => simp [follow, unfound, firstSeen, addAllNew, pure, Except.pure]
  | append_singleton targets target ih =>
    rw [List.mem_append, List.mem_singleton, not_or] at h
    have htarget : target ≠ start := Ne.symm h.2
    have hstep : follow start name f (targets ++ [target]) = .ok (find
        ⟨f.origins ++ (f.unfound start targets).map (·, name),
          f.queue ++ f.unfound start targets⟩ name target) := by
      rw [follow, List.foldlM_append, ← follow, ih h.1]
      simp only [List.foldlM_cons, List.foldlM_nil, if_neg htarget, bind_pure]
      rfl
    rw [hstep, unfound_concat htarget, find, addNew]
    simp only [Members.has_iff, Members.keys_append, keys_map_found, List.mem_append]
    by_cases hfound : target ∈ f.origins.keys
    · simp [hfound]
    · by_cases hnew : target ∈ f.unfound start targets <;> simp [hfound, hnew]

end Frontier

namespace ReferenceGraph

variable {g : ReferenceGraph} {start cursor : String} {origins more : Members String}
  {passed : List String} {t : Trail} {stage stage' : SearchStage}

/-- Steps of the search lead from the one stage to the other. -/
def Passes (g : ReferenceGraph) (start : String) (stage stage' : SearchStage) : Prop :=
  ∃ n, (g.advance start)^[n] stage = stage'

theorem Passes.refl : g.Passes start stage stage := ⟨0, rfl⟩

theorem Passes.head (h : g.Passes start (g.advance start stage) stage') :
    g.Passes start stage stage' := by
  obtain ⟨n, hn⟩ := h
  exact ⟨n + 1, hn⟩

/-- The origins lead back along a trail to the start. -/
inductive Traced (start : String) (origins : Members String) : Trail → Prop
  | start : Traced start origins ⟨start, []⟩
  | extend {t : Trail} {b : String} : Traced start origins t → b ≠ start →
      origins.get? b = some t.last → Traced start origins (t.extend b)

theorem Traced.mono (h : Traced start origins t)
    (hkept : ∀ key origin, origins.get? key = some origin → more.get? key = some origin) :
    Traced start more t := by
  induction h with
  | start => exact .start
  | extend _ hne horigin ih => exact .extend ih hne (hkept _ _ horigin)

/-- Walking back from the end of a trail that origins lead along gives the trail. -/
theorem Traced.passes (h : Traced start origins t) (passed : List String) :
    g.Passes start (.returning origins t.last passed)
      (.ended (some (t.path ++ passed ++ [start]))) := by
  induction h generalizing passed with
  | start =>
    apply Passes.head
    rw [advance, if_pos rfl]
    exact .refl
  | @extend t b _ hne horigin ih =>
    have hpath : (t.extend b).path ++ passed = t.path ++ b :: passed := by
      rw [Trail.path_extend, List.append_assoc, List.singleton_append]
    have hstep : g.advance start (.returning origins b passed) =
        .returning origins t.last (b :: passed) := by
      rw [advance, if_neg hne, horigin]
    apply Passes.head
    rw [hpath]
    exact (congrArg (g.Passes start · _) hstep).mpr (ih (b :: passed))

/-- A frontier stands for the trails that wait in a queue, and for the names that were seen. -/
structure StandsFor (start : String) (f : Frontier) (seen : List String) (queue : List Trail) :
    Prop where
  seen_eq : seen = start :: f.origins.keys
  queue_eq : f.queue = queue.map Trail.last
  traced : ∀ t ∈ queue, Traced start f.origins t

/-- The frontier that is left when the edges of a name are followed stands for what is visited
next. -/
theorem StandsFor.follow {f : Frontier} {seen : List String} {queue : List Trail}
    (h : StandsFor start f seen (t :: queue)) :
    StandsFor start ⟨f.origins ++ (f.unfound start (g.successors t.last)).map (·, t.last),
        queue.map Trail.last ++ f.unfound start (g.successors t.last)⟩
      (seen ++ g.fresh seen t.last) (queue ++ (g.fresh seen t.last).map t.extend) := by
  obtain ⟨rfl, -, htraced⟩ := h
  have hfresh : g.fresh (start :: f.origins.keys) t.last =
      f.unfound start (g.successors t.last) := rfl
  rw [hfresh]
  have hkept : ∀ key origin, f.origins.get? key = some origin →
      (f.origins ++ (f.unfound start (g.successors t.last)).map (·, t.last)).get? key =
        some origin := by
    intro key origin h
    rw [Members.get?_append, h, Option.some_or]
  obtain ⟨ht, hqueue⟩ := List.forall_mem_cons.mp htraced
  constructor
  · rw [Members.keys_append, Frontier.keys_map_found, List.cons_append]
  · rw [List.map_append, List.map_map]
    exact congrArg _ (List.map_id' _).symm
  · intro u hu
    rcases List.mem_append.mp hu with hu | hu
    · exact (hqueue u hu).mono hkept
    · obtain ⟨b, hb, rfl⟩ := List.mem_map.mp hu
      obtain ⟨hstart, hfound⟩ := not_or.mp (mt List.mem_cons.mpr (mem_fresh.mp (hfresh ▸ hb)).2)
      refine .extend (ht.mono hkept) hstart ?_
      rw [Members.get?_append, Members.get?_eq_none_iff.mpr hfound, Option.none_or]
      exact Frontier.get?_map_found hb t.last

theorem passes_looking {f : Frontier} {seen : List String} {queue : List Trail}
    (h : StandsFor start f seen queue) : g.Passes start (.looking f)
      (.ended (((g.visit seen queue).find? fun t => (g.successors t.last).contains start).map
        fun t => t.path ++ [start])) := by
  fun_induction visit g seen queue generalizing f with
  | case1 seen =>
    obtain ⟨origins, waiting⟩ := f
    obtain rfl : waiting = [] := h.queue_eq
    exact ⟨1, rfl⟩
  | case2 seen t rest ih =>
    obtain ⟨origins, waiting⟩ := f
    obtain rfl : waiting = t.last :: rest.map Trail.last := h.queue_eq
    apply Passes.head
    by_cases hback : start ∈ g.successors t.last
    · obtain ⟨met, hmet, hkept⟩ : ∃ met, Frontier.follow start t.last
          ⟨origins, rest.map Trail.last⟩ (g.successors t.last) = .error met ∧
          ∀ key origin, origins.get? key = some origin → met.origins.get? key = some origin :=
        Frontier.follow_of_mem hback
      have hway := (h.traced t List.mem_cons_self).mono hkept
      simp only [List.find?_cons, List.contains_iff_mem.mpr hback, advance, hmet]
      simpa using hway.passes (g := g) []
    · have hgoes : (g.successors t.last).contains start = false := by simpa using hback
      simp only [List.find?_cons, hgoes, advance, Frontier.follow_of_not_mem hback]
      exact ih h.follow

/-- The search from a name ends, with the cycle that is found from it. -/
theorem passes_ended (g : ReferenceGraph) (name : String) :
    g.Passes name (g.beginSearch name) (.ended (g.cyclePath? name)) := by
  unfold beginSearch cyclePath?
  split
  · refine passes_looking ⟨rfl, rfl, fun t ht => ?_⟩
    rw [List.mem_singleton.mp ht]
    exact .start
  · exact .refl

/-- A search that ends never lacks an origin. -/
theorem not_passes_lost {path : Option (List String)} (h : g.Passes start stage (.ended path))
    (cursor : String) : ¬ g.Passes start stage (.lost cursor) := by
  rintro ⟨m, hlost⟩
  obtain ⟨n, hended⟩ := h
  -- both are stages that a search does not leave
  have hlater : (g.advance start)^[n + m] stage = .lost cursor := by
    rw [Function.iterate_add_apply, hlost]
    exact Function.iterate_fixed rfl n
  rw [Nat.add_comm, Function.iterate_add_apply, hended, Function.iterate_fixed rfl] at hlater
  cases hlater

/-- A cycle is found from exactly the entries that lie on one. It starts and ends at the entry,
follows edges, repeats no name but that one, and no walk back to the entry is shorter. The search
for it comes to an end, and finds the origin of each name on its way back. -/
theorem search_finds_shortest (g : ReferenceGraph) (name : String) :
    (g.cyclePath? name = none ↔ name ∉ g.names ∨ ¬ g.OnCycle name) ∧
    (∀ path, g.cyclePath? name = some path →
      IsCircuit g.Refers path ∧ path.head? = some name ∧
        ∀ walk, IsRoundTrip g.Refers name walk → path.length ≤ walk.length) ∧
    g.Passes name (g.beginSearch name) (.ended (g.cyclePath? name)) ∧
    ∀ cursor, ¬ g.Passes name (g.beginSearch name) (.lost cursor) := by
  have hended := passes_ended g name
  refine ⟨cyclePath?_eq_none_iff, fun path hpath => ?_, hended, not_passes_lost hended⟩
  obtain ⟨hcircuit, hhead⟩ := isCircuit_of_cyclePath? hpath
  exact ⟨hcircuit, hhead, fun walk => length_le_of_isRoundTrip hpath⟩

end ReferenceGraph

end MockBuilders
