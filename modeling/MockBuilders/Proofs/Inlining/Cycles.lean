import Mathlib
import MockBuilders.Proofs.Graph.Reachability
import MockBuilders.Proofs.Inlining.Success

/-!
Inlining and the reference graph refuse the same entries: an entry cannot be inlined if and only
if it reaches an entry that lies on a cycle.
Main statement: `entry_fails_iff_reaches_cycle`.
-/
namespace MockBuilders
open Relation ReferenceGraph

variable {entries : Members Schema} {opened : List String} {a b : String} {s : Schema}

theorem refers_iff : (ofEntries entries).Refers a b ↔
    ∃ s, (a, s) ∈ entries ∧ ∃ pointer ∈ s.references, ∃ target,
      Pointer.lookup? entries pointer = some (b, target) := by
  simp only [Refers, ofEntries, List.mem_flatMap, List.mem_map, targetsOf, List.mem_filterMap]
  constructor
  · rintro ⟨⟨n, s⟩, hs, c, ⟨pointer, hp, hc⟩, he⟩
    obtain ⟨rfl, rfl⟩ := Edge.mk.inj he
    obtain ⟨⟨key, target⟩, hl, rfl⟩ := Option.map_eq_some_iff.mp hc
    exact ⟨s, hs, pointer, hp, target, hl⟩
  · rintro ⟨s, hs, pointer, hp, target, hl⟩
    exact ⟨(a, s), hs, b, ⟨pointer, hp, by rw [hl]; rfl⟩, rfl⟩

/-- Edges lead to entries only. -/
theorem get?_of_refers (h : (ofEntries entries).Refers a b) :
    ∃ target, entries.get? b = some target := by
  obtain ⟨s, -, pointer, -, target, hl⟩ := refers_iff.mp h
  exact ⟨target, Pointer.get?_of_lookup? hl⟩

theorem names_ofEntries (entries : Members Schema) : (ofEntries entries).names = entries.keys := by
  simp only [names, ofEntries, Members.keys_mapValues]

/-- An entry can be inlined if all entries that it refers to can, and none of them is open. -/
theorem entry_succeeds_iff (hd : entries.Distinct) (hs : entries.get? a = some s) :
    (expand entries opened s).Succeeds ↔
      ∀ b target, (ofEntries entries).Refers a b → entries.get? b = some target →
        b ∉ opened ∧ (expand entries (opened ++ [b]) target).Succeeds := by
  rw [expand_succeeds_iff]
  constructor
  · intro h b target hb ht
    obtain ⟨s', hs', pointer, hp, target', hl⟩ := refers_iff.mp hb
    obtain rfl : s = s' :=
      Option.some.inj (hs.symm.trans ((Members.get?_eq_some_iff hd).mpr hs'))
    obtain rfl : target' = target :=
      Option.some.inj ((Pointer.get?_of_lookup? hl).symm.trans ht)
    exact h pointer hp b _ hl
  · intro h pointer hp key target hl
    exact h key target (refers_iff.mpr ⟨s, Members.mem_of_get? hs, pointer, hp, target, hl⟩)
      (Pointer.get?_of_lookup? hl)

/-- No walk from an entry that can be inlined goes on for ever. -/
theorem acc_of_succeeds (hd : entries.Distinct) (hs : entries.get? a = some s)
    (h : (expand entries opened s).Succeeds) :
    Acc (fun b a => (ofEntries entries).Refers a b) a := by
  induction hn : (unopened entries opened).length using Nat.strongRecOn
    generalizing opened a s with
  | ind n ih =>
    apply Acc.intro a
    intro b hb
    obtain ⟨target, ht⟩ := get?_of_refers hb
    obtain ⟨hopen, hsucc⟩ := (entry_succeeds_iff hd hs).mp h b target hb ht
    have hkey := Members.mem_keys_of_get? ht
    exact ih _ (hn ▸ unopened_lt hkey hopen) ht hsucc rfl

theorem not_leadsTo_self_of_acc {g : ReferenceGraph}
    (h : Acc (fun b a => g.Refers a b) a) : ¬ g.OnCycle a := by
  induction h with
  | intro a _ ih =>
    intro hcycle
    obtain ⟨b, hab, hba⟩ := TransGen.head'_iff.mp hcycle
    exact ih b hab (TransGen.tail' hba hab)

theorem acc_of_reaches {g : ReferenceGraph} (h : Acc (fun b a => g.Refers a b) a)
    (hab : g.Reaches a b) : Acc (fun b a => g.Refers a b) b := by
  induction hab with
  | refl => exact h
  | tail _ hbc ih => exact ih.inv hbc

/-- As long as the open entries reach the one that is inlined, failing means that a cycle can be
reached from it. -/
theorem exists_cycle_of_not_succeeds (hd : entries.Distinct) (hs : entries.get? a = some s)
    (hopened : ∀ c ∈ opened, (ofEntries entries).Reaches c a)
    (h : ¬ (expand entries opened s).Succeeds) :
    ∃ n, (ofEntries entries).Reaches a n ∧ (ofEntries entries).OnCycle n := by
  induction hn : (unopened entries opened).length using Nat.strongRecOn
    generalizing opened a s with
  | ind n ih =>
    rw [entry_succeeds_iff hd hs] at h
    push Not at h
    obtain ⟨b, target, hb, ht, h⟩ := h
    by_cases hopen : b ∈ opened
    · exact ⟨b, .single hb, TransGen.tail' (hopened b hopen) hb⟩
    · have hkey := Members.mem_keys_of_get? ht
      have hopened' : ∀ c ∈ opened ++ [b], (ofEntries entries).Reaches c b := by
        intro c hc
        rcases List.mem_append.mp hc with hc | hc
        · exact (hopened c hc).tail hb
        · rw [List.mem_singleton.mp hc]
      obtain ⟨n, hbn, hcycle⟩ := ih _ (hn ▸ unopened_lt hkey hopen) ht hopened' (h hopen) rfl
      exact ⟨n, .head hb hbn, hcycle⟩

theorem expand_entry_succeeds_iff (hd : entries.Distinct) (hs : entries.get? a = some s) :
    (expand entries [a] s).Succeeds ↔
      ¬ ∃ n, (ofEntries entries).Reaches a n ∧ (ofEntries entries).OnCycle n := by
  constructor
  · rintro h ⟨n, han, hcycle⟩
    exact not_leadsTo_self_of_acc (acc_of_reaches (acc_of_succeeds hd hs h) han) hcycle
  · intro h
    by_contra hfail
    refine h (exists_cycle_of_not_succeeds hd hs (fun c hc => ?_) hfail)
    rw [List.mem_singleton.mp hc]

theorem get?_of_onCycle (h : (ofEntries entries).OnCycle a) :
    ∃ target, entries.get? a = some target := by
  obtain ⟨b, -, hb⟩ := TransGen.tail'_iff.mp h
  exact get?_of_refers hb

theorem checkAcyclic_ofEntries_eq_ok_iff :
    (ofEntries entries).checkAcyclic = .ok () ↔ (ofEntries entries).Acyclic := by
  rw [checkAcyclic_eq_ok_iff, names_ofEntries]
  refine ⟨fun h a hcycle => ?_, fun h a _ => h a⟩
  obtain ⟨target, ht⟩ := get?_of_onCycle hcycle
  exact h a (Members.mem_keys_of_get? ht) hcycle

theorem acyclic_iff_succeeds (hd : entries.Distinct) : (ofEntries entries).Acyclic ↔
    ∀ a s, entries.get? a = some s → (expand entries [a] s).Succeeds := by
  constructor
  · intro h a s hs
    rw [expand_entry_succeeds_iff hd hs]
    exact fun ⟨n, _, hcycle⟩ => h n hcycle
  · intro h a hcycle
    obtain ⟨s, hs⟩ := get?_of_onCycle hcycle
    exact (expand_entry_succeeds_iff hd hs).mp (h a s hs) ⟨a, .refl, hcycle⟩

namespace Inlined

variable {x : Expansion Schema} {owner : String}

theorem exists_result_eq_ok_iff : (∃ r, (ofExpansion owner s x).result = .ok r) ↔ x.Succeeds := by
  simp only [ofExpansion_eq_ok_iff, Expansion.Succeeds]

theorem exists_result_eq_cyclic_iff :
    (∃ cycle, (ofExpansion owner s x).result = .error (.cyclic owner cycle)) ↔ ¬ x.Succeeds := by
  simp only [ofExpansion, Expansion.Succeeds]
  cases x.result <;> simp [Except.mapError]

end Inlined

/-- An entry is refused with a cycle if and only if it reaches an entry that lies on a cycle of
references; so a graph is accepted if and only if each of its entries can be inlined. -/
theorem entry_fails_iff_reaches_cycle (session : InliningSession)
    (hd : session.entries.Distinct) :
    (∀ name s, session.entries.get? name = some s →
      ((∃ cycle, (session.call (.entry name s)).1 = .error (.cyclic name cycle)) ↔
        ∃ n, (ofEntries session.entries).Reaches name n ∧
          (ofEntries session.entries).OnCycle n)) ∧
    ((ofEntries session.entries).checkAcyclic = .ok () ↔
      ∀ name s, session.entries.get? name = some s →
        ∃ r, (session.call (.entry name s)).1 = .ok r) := by
  have hcall (name : String) (s : Schema) : (session.call (.entry name s)).1 =
      (Inlined.ofExpansion name s (expand session.entries [name] s)).result := rfl
  simp only [hcall, Inlined.exists_result_eq_ok_iff, Inlined.exists_result_eq_cyclic_iff]
  constructor
  · intro name s hs
    rw [expand_entry_succeeds_iff hd hs, not_not]
  · rw [checkAcyclic_ofEntries_eq_ok_iff, acyclic_iff_succeeds hd]

/-- Two entries that refer to each other, one of them without its suffix. -/
def circle : Members Schema := [("A", .ofPointer "#/x/B"), ("BSchema", .ofPointer "A")]

theorem entry_fails_on_circle : circle.Distinct ∧
    ∃ n, (ofEntries circle).Reaches "A" n ∧ (ofEntries circle).OnCycle n := by
  have hd : circle.Distinct := by decide
  have ha : circle.get? "A" = some (.mk (.reference "#/x/B") []) := by cbv
  have hb : Pointer.lookup? circle "#/x/B" = some ("BSchema", .mk (.reference "A") []) := by cbv
  have hback : Pointer.lookup? circle "A" = some ("A", .mk (.reference "#/x/B") []) := by cbv
  have hfail : ((InliningSession.start circle).call
      (.entry "A" (.mk (.reference "#/x/B") []))).1 =
        .error (.cyclic "A" ["A", "BSchema", "A"]) := by
    simp [InliningSession.call, InliningCall.run, InliningSession.start, Inlined.entry,
      Inlined.ofExpansion, expand_reference, follow, hb, hback, cycleOf, Except.mapError]
  exact ⟨hd, ((entry_fails_iff_reaches_cycle (.start circle) hd).1 "A" _ ha).mp ⟨_, hfail⟩⟩

end MockBuilders
