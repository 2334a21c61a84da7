import MockBuilders.Proofs.Generation.Outcome
import MockBuilders.Proofs.Graph.Edges
import MockBuilders.Proofs.Inlining.Missing

/-!
The reference graph and inlining tell of the same references. The graph lists those of each entry
that lead nowhere; inlining an entry reports those of all entries that it reaches, under its name.
Main statement: `ReferenceGraph.accounts_for_references`.
-/
namespace MockBuilders
open Relation ReferenceGraph

variable {entries : Members Schema} {opened : List String} {name owner pointer : String}
  {s : Schema}

theorem missing_follow (opened : List String) (pointer : String) (extensions : Members Json) :
    (follow entries opened pointer extensions).missing =
      (follow entries opened pointer []).missing := by
  unfold follow
  split <;> rfl

/-- What inlining a schema reports is what following its references reports, one by one. -/
theorem missing_expand (h : (expand entries opened s).Succeeds) :
    (expand entries opened s).missing =
      s.references.flatMap fun pointer => (follow entries opened pointer []).missing := by
  induction s using Schema.induct with
  | h kind extensions ih =>
    rw [Schema.references_mk]
    cases hk : kind.pointer? with
    | some pointer =>
      obtain rfl := Kind.eq_reference_of_pointer? hk
      rw [expand_reference, missing_follow]
      simp [Kind.children]
    | none =>
      have hchildren := (expand_mk_succeeds_iff hk).mp h
      rw [missing_expand_mk hk hchildren, Option.toList_none, List.nil_append, List.flatMap_assoc]
      exact List.flatMap_congr fun c hc => ih c hc (hchildren c hc)

theorem mem_missing_iff (h : (expand entries opened s).Succeeds) :
    pointer ∈ (expand entries opened s).missing ↔
      (pointer ∈ s.references ∧ Pointer.lookup? entries pointer = none) ∨
      ∃ p ∈ s.references, ∃ key target, Pointer.lookup? entries p = some (key, target) ∧
        pointer ∈ (expand entries (opened ++ [key]) target).missing := by
  rw [missing_expand h, List.mem_flatMap]
  constructor
  · rintro ⟨p, hp, hmem⟩
    unfold follow at hmem
    split at hmem
    · next hnone =>
      obtain rfl := List.mem_singleton.mp hmem
      exact .inl ⟨hp, hnone⟩
    · next key target hlookup =>
      split at hmem
      · cases hmem
      · exact .inr ⟨p, hp, key, target, hlookup, hmem⟩
  · rintro (⟨hp, hnone⟩ | ⟨p, hp, key, target, hlookup, hmem⟩)
    · exact ⟨pointer, hp, by simp [follow, hnone]⟩
    · obtain ⟨hkey, -⟩ := expand_succeeds_iff.mp h p hp key target hlookup
      exact ⟨p, hp, by simpa [follow, hlookup, hkey] using hmem⟩

section Entry
variable (hd : entries.Distinct) (hs : entries.get? name = some s)
include hd hs

theorem refers_iff_of_get? {key : String} : (ofEntries entries).Refers name key ↔
    ∃ p ∈ s.references, ∃ target, Pointer.lookup? entries p = some (key, target) := by
  rw [← mem_successors_iff, successors_ofEntries hd hs, targetsOf]
  simp

theorem dangles_iff_of_get? : ⟨name, pointer⟩ ∈ (ofEntries entries).dangling ↔
    pointer ∈ s.references ∧ Pointer.lookup? entries pointer = none := by
  simp only [mem_dangling_iff, ← Members.get?_eq_some_iff hd, hs, Option.some.injEq,
    exists_eq_left']

/-- What inlining an entry reports dangles from it, or is reported of an entry it refers to. -/
theorem mem_missing_entry_iff (h : (expand entries opened s).Succeeds) :
    pointer ∈ (expand entries opened s).missing ↔
      ⟨name, pointer⟩ ∈ (ofEntries entries).dangling ∨
      ∃ key target, (ofEntries entries).Refers name key ∧ entries.get? key = some target ∧
        pointer ∈ (expand entries (opened ++ [key]) target).missing := by
  rw [mem_missing_iff h, dangles_iff_of_get? hd hs]
  apply or_congr_right
  constructor
  · rintro ⟨p, hp, key, target, hlookup, hmem⟩
    exact ⟨key, target, (refers_iff_of_get? hd hs).mpr ⟨p, hp, target, hlookup⟩,
      Pointer.get?_of_lookup? hlookup, hmem⟩
  · rintro ⟨key, target, hrefers, htarget, hmem⟩
    obtain ⟨p, hp, target', hlookup⟩ := (refers_iff_of_get? hd hs).mp hrefers
    obtain rfl := Option.some.inj (htarget.symm.trans (Pointer.get?_of_lookup? hlookup))
    exact ⟨p, hp, key, target, hlookup, hmem⟩

/-- What inlining an entry reports is what dangles from the entries that it reaches. -/
theorem mem_missing_iff_reaches (h : (expand entries opened s).Succeeds) :
    pointer ∈ (expand entries opened s).missing ↔ ∃ key,
      (ofEntries entries).Reaches name key ∧ ⟨key, pointer⟩ ∈ (ofEntries entries).dangling := by
  -- walks from an entry that can be inlined end, and along them more and more entries are open
  induction acc_of_succeeds hd hs h generalizing opened s with
  | intro name _ ih =>
    have hrefers := (entry_succeeds_iff hd hs).mp h
    rw [mem_missing_entry_iff hd hs h]
    constructor
    · rintro (hdangles | ⟨next, target, hnext, htarget, hmem⟩)
      · exact ⟨name, .refl, hdangles⟩
      · obtain ⟨key, hkey, hdangles⟩ :=
          (ih next hnext htarget (hrefers next target hnext htarget).2).mp hmem
        exact ⟨key, .head hnext hkey, hdangles⟩
    · rintro ⟨key, hkey, hdangles⟩
      rcases ReflTransGen.cases_head hkey with rfl | ⟨next, hnext, hkey⟩
      · exact .inl hdangles
      · obtain ⟨target, htarget⟩ := get?_of_refers hnext
        exact .inr ⟨next, target, hnext, htarget,
          (ih next hnext htarget (hrefers next target hnext htarget).2).mpr ⟨key, hkey, hdangles⟩⟩

end Entry

/-- An entry reaches itself and what it refers to; a name that is no entry has no references. -/
theorem get?_of_reaches_dangling {key : String} (hkey : (ofEntries entries).Reaches name key)
    (hdangles : ⟨key, pointer⟩ ∈ (ofEntries entries).dangling) :
    ∃ s, (name, s) ∈ entries := by
  rcases ReflTransGen.cases_head hkey with rfl | ⟨next, hnext, -⟩
  · obtain ⟨s, hs, -⟩ := mem_dangling_iff.mp hdangles
    exact ⟨s, hs⟩
  · obtain ⟨s, hs, -⟩ := refers_iff.mp hnext
    exact ⟨s, hs⟩

theorem Diagnostic.missing_inj {entry entry' pointer pointer' : String} :
    missing entry pointer = missing entry' pointer' ↔ entry = entry' ∧ pointer = pointer' := by
  simp [missing, String.append_right_inj]

theorem Inlined.missing_mem_diagnostics_iff {i : Inlined} :
    .missing owner pointer ∈ i.diagnostics ↔ i.owner = owner ∧ pointer ∈ i.missing := by
  have hfilter : .missing owner pointer ∈ i.diagnostics.filter Diagnostic.isMissing ↔
      .missing owner pointer ∈ i.diagnostics := by
    rw [List.mem_filter]
    exact and_iff_left (Diagnostic.isMissing_missing _ _)
  rw [← hfilter, Inlined.filter_isMissing_diagnostics]
  simp [Diagnostic.missing_inj, and_comm]

namespace Generation

/-- Inlining all entries reports under each of them what dangles from the entries it reaches. -/
theorem canonicalEntries_reports (hd : entries.Distinct) (h : (ofEntries entries).Acyclic) :
    ∃ es, (canonicalEntries entries (.start entries)).1 = .ok es ∧ ∀ name pointer,
      .missing name pointer ∈ (canonicalEntries entries (.start entries)).2.diagnostics ↔
        ∃ key, (ofEntries entries).Reaches name key ∧
          ⟨key, pointer⟩ ∈ (ofEntries entries).dangling := by
  have hsucceeds : ∀ p ∈ entries, (expand entries [p.1] p.2).Succeeds := fun p hp =>
    (acyclic_iff_succeeds hd).mp h p.1 p.2 ((Members.get?_eq_some_iff hd).mpr hp)
  obtain ⟨es, hok, -, hdiagnostics⟩ := canonicalEntries_of_ok (.start entries) fun p hp =>
    Inlined.exists_result_eq_ok_iff.mpr (hsucceeds p hp)
  refine ⟨es, hok, fun name pointer => ?_⟩
  rw [hdiagnostics]
  simp only [InliningSession.start, List.nil_append, List.mem_flatMap,
    Inlined.missing_mem_diagnostics_iff]
  constructor
  · rintro ⟨⟨_, s⟩, hp, rfl, hmem⟩
    exact (mem_missing_iff_reaches hd ((Members.get?_eq_some_iff hd).mpr hp)
      (hsucceeds _ hp)).mp hmem
  · rintro ⟨key, hkey, hdangles⟩
    obtain ⟨s, hs⟩ := get?_of_reaches_dangling hkey hdangles
    exact ⟨(name, s), hs, rfl, (mem_missing_iff_reaches hd
      ((Members.get?_eq_some_iff hd).mpr hs) (hsucceeds _ hs)).mpr ⟨key, hkey, hdangles⟩⟩

end Generation

/-- Every reference is an edge or dangles. An entry refers to the entries that its references lead
to, each once and in the order in which they first do. If no references lead in a circle, inlining
all entries succeeds and reports a pointer under an entry if and only if it dangles from an entry
that this one reaches. -/
theorem ReferenceGraph.accounts_for_references (hd : entries.Distinct) :
    (ofEntries entries).edges.length + (ofEntries entries).dangling.length =
      (entries.map fun p => p.2.references.length).sum ∧
    (∀ name s, entries.get? name = some s →
      FirstAppearances
        (s.references.filterMap fun pointer => (Pointer.lookup? entries pointer).map Prod.fst)
        ((ofEntries entries).refersTo name)) ∧
    ((ofEntries entries).Acyclic →
      ∃ es, (Generation.canonicalEntries entries (.start entries)).1 = .ok es ∧
        ∀ name pointer, .missing name pointer ∈
            (Generation.canonicalEntries entries (.start entries)).2.diagnostics ↔
          ∃ key, (ofEntries entries).Reaches name key ∧
            ⟨key, pointer⟩ ∈ (ofEntries entries).dangling) :=
  ⟨length_edges_add_length_dangling entries, fun _ _ hs => firstAppearances_refersTo hd hs,
    Generation.canonicalEntries_reports hd⟩

/-- A shelf with two places for one kind of book, of which the author is nowhere. -/
def shelf : Members Schema :=
  [("Shelf", .mk (.object ⟨[("first", .ofPointer "#/x/Book"), ("second", .ofPointer "Book")], [],
      none⟩) []),
    ("BookSchema", .mk (.object ⟨[("author", .ofPointer "#/x/Author")], [], none⟩) [])]

theorem ReferenceGraph.accounts_for_shelf : shelf.Distinct ∧ (ofEntries shelf).Acyclic ∧
    (shelf.map fun p => p.2.references.length).sum = 3 ∧
    FirstAppearances ["BookSchema", "BookSchema"] ((ofEntries shelf).refersTo "Shelf") ∧
    .missing "Shelf" "#/x/Author" ∈
      (Generation.canonicalEntries shelf (.start shelf)).2.diagnostics := by
  have hd : shelf.Distinct := by decide
  have hacyclic : (ofEntries shelf).Acyclic := checkAcyclic_ofEntries_eq_ok_iff.mp (by cbv)
  have hedges : (ofEntries shelf).edges =
      [⟨"Shelf", "BookSchema"⟩, ⟨"Shelf", "BookSchema"⟩] := by cbv
  have hdangling : (ofEntries shelf).dangling = [⟨"BookSchema", "#/x/Author"⟩] := by cbv
  obtain ⟨hcount, hrefersTo, hreports⟩ := accounts_for_references hd
  rw [hedges, hdangling] at hcount
  have hedge : (ofEntries shelf).Refers "Shelf" "BookSchema" := by
    rw [Refers, hedges]
    exact List.mem_cons_self
  obtain ⟨_, _, hmem⟩ := hreports hacyclic
  refine ⟨hd, hacyclic, hcount.symm, hrefersTo "Shelf" _ rfl, (hmem _ _).mpr ⟨_, .single hedge, ?_⟩⟩
  rw [hdangling]
  exact List.mem_singleton_self _

end MockBuilders
