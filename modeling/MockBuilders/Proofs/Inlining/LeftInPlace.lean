import MockBuilders.Proofs.Inlining.Replacement
import MockBuilders.Proofs.Schema.Unfollowed

/-!
Pointers that are not followed, and what inlining leaves of them. They are reported before anything
is inlined; a reference that leads to an entry then gives way to that entry with all the keywords
beside it, so a pointer that was reported may be gone.
Main statements: `InliningSession.left_in_place_iff` and `InliningSession.gone_beside_reference`.
-/
namespace MockBuilders

namespace Schema

variable {s : Schema} {u : Unfollowed}

/-- What is not followed after references were replaced: what stands in the layers that are no
reference, and what came with the replacements. -/
theorem mem_unfollowed_replaceReferences {f : String → Members Json → Schema} :
    u ∈ (s.replaceReferences f).unfollowed ↔
      (∃ t, s.Contains t ∧ t.kind.pointer? = none ∧ u ∈ unfollowedIn t.extensions) ∨
      ∃ t, s.Contains t ∧ ∃ pointer, t.kind.pointer? = some pointer ∧
        u ∈ (f pointer t.extensions).unfollowed := by
  induction s using Schema.induct with
  | h kind extensions ih =>
    cases hk : kind.pointer? with
    | some pointer =>
      obtain rfl := Kind.eq_reference_of_pointer? hk
      rw [replaceReferences_reference]
      constructor
      · exact fun h => .inr ⟨_, .self _, pointer, rfl, h⟩
      · rintro (⟨t, ht, hnone, -⟩ | ⟨t, ht, q, hq, h⟩)
        · cases ht with
          | self _ => cases hnone
          | child hc _ => cases hc
        · cases ht with
          | self _ =>
            cases hq
            exact h
          | child hc _ => cases hc
    | none =>
      rw [replaceReferences_mk hk, unfollowed_mk, List.mem_append, Kind.children_map,
        List.flatMap_map, List.mem_flatMap]
      constructor
      · rintro (h | ⟨c, hc, h⟩)
        · exact .inl ⟨_, .self _, hk, h⟩
        · rcases (ih c hc).mp h with ⟨t, ht, h⟩ | ⟨t, ht, h⟩
          · exact .inl ⟨t, .child hc ht, h⟩
          · exact .inr ⟨t, .child hc ht, h⟩
      · rintro (⟨t, ht, hnone, h⟩ | ⟨t, ht, q, hq, h⟩)
        · cases ht with
          | self _ => exact .inl h
          | child hc ht => exact .inr ⟨_, hc, (ih _ hc).mpr (.inl ⟨t, ht, hnone, h⟩)⟩
        · cases ht with
          | self _ => cases hk.symm.trans hq
          | child hc ht => exact .inr ⟨_, hc, (ih _ hc).mpr (.inr ⟨t, ht, q, hq, h⟩)⟩

/-- Inlining keeps the layer and the keywords beside it: it is no reference, or one that leads to
no entry. -/
def Stays (entries : Members Schema) (t : Schema) : Prop :=
  ∀ pointer, t.kind.pointer? = some pointer → Pointer.lookup? entries pointer = none

theorem stays_of_pointer?_eq_none {entries : Members Schema} {t : Schema}
    (h : t.kind.pointer? = none) : t.Stays entries := by
  intro pointer hpointer
  cases h.symm.trans hpointer

end Schema

variable {entries : Members Schema} {opened : List String} {s r : Schema} {u : Unfollowed}

/-- What inlining leaves unfollowed: what stands in a layer that stays, and what is left of an
entry that a reference leads to. -/
theorem mem_unfollowed_iff_of_result (h : (expand entries opened s).result = .ok r) :
    u ∈ r.unfollowed ↔
      (∃ t, s.Contains t ∧ t.Stays entries ∧ u ∈ Schema.unfollowedIn t.extensions) ∨
      ∃ pointer ∈ s.references, ∃ key target t,
        Pointer.lookup? entries pointer = some (key, target) ∧
        (Inlined.schema entries target).result = .ok t ∧ u ∈ t.unfollowed := by
  have hsucceeds : (expand entries opened s).Succeeds := ⟨r, h⟩
  rw [Except.ok.inj (h.symm.trans (result_expand hsucceeds)),
    Schema.mem_unfollowed_replaceReferences]
  constructor
  · rintro (⟨t, ht, hnone, hu⟩ | ⟨t, ht, pointer, hpointer, hu⟩)
    · exact .inl ⟨t, ht, Schema.stays_of_pointer?_eq_none hnone, hu⟩
    · cases hlookup : Pointer.lookup? entries pointer with
      | none =>
        -- a reference that leads nowhere is left with what stands beside it
        refine .inl ⟨t, ht, fun q hq => ?_, ?_⟩
        · cases hpointer.symm.trans hq
          exact hlookup
        · rw [standIn_dangling hlookup, Schema.unfollowed_mk] at hu
          simpa [Kind.children] using hu
      | some p =>
        obtain ⟨key, target⟩ := p
        have hreference := Schema.mem_references_iff.mpr ⟨t, ht, hpointer⟩
        obtain ⟨-, v, hv⟩ := expand_succeeds_iff.mp hsucceeds pointer hreference key target hlookup
        rw [standIn_followed hlookup hv] at hu
        have halone := expand_eq_of_subset ⟨v, hv⟩ (List.nil_subset _)
        refine .inr ⟨pointer, hreference, key, target, v, hlookup, ?_, hu⟩
        rw [Inlined.schema_eq_ok_iff, halone, hv]
  · rintro (⟨t, ht, hstays, hu⟩ | ⟨pointer, hreference, key, target, v, hlookup, hv, hu⟩)
    · cases hpointer : t.kind.pointer? with
      | none => exact .inl ⟨t, ht, hpointer, hu⟩
      | some pointer =>
        refine .inr ⟨t, ht, pointer, hpointer, ?_⟩
        rw [standIn_dangling (hstays pointer hpointer), Schema.unfollowed_mk]
        exact List.mem_append_left _ hu
    · obtain ⟨t, ht, hpointer⟩ := Schema.mem_references_iff.mp hreference
      refine .inr ⟨t, ht, pointer, hpointer, ?_⟩
      rwa [standIn_followed hlookup (Inlined.schema_eq_ok_iff.mp hv)]

theorem Diagnostic.unfollowed_injective (entry : String) :
    Function.Injective (Diagnostic.unfollowed entry) := by
  rintro ⟨keyword, pointer⟩ ⟨keyword', pointer'⟩ h
  obtain ⟨-, -, hmessage, hcontext⟩ := Diagnostic.mk.inj h
  obtain rfl : keyword = keyword' := (String.append_right_inj _).mp (List.cons.inj hcontext).1
  obtain rfl : pointer = pointer' := (String.append_right_inj _).mp hmessage
  rfl

/-- What is reported as not followed is what the schema does not follow. -/
theorem Inlined.unfollowed_mem_diagnostics_iff {i : Inlined} :
    .unfollowed i.owner u ∈ i.diagnostics ↔ u ∈ i.unfollowed := by
  rw [diagnostics, List.mem_append, List.mem_map_of_injective (Diagnostic.unfollowed_injective _)]
  refine or_iff_left ?_
  rintro h
  obtain ⟨pointer, -, h⟩ := List.mem_map.mp h
  cases (Diagnostic.mk.inj h).2.2.2

namespace InliningSession

/-- Of the pointers that are reported when an entry is inlined as not followed, those are left that
stand in a layer which stays or are left of an entry that a reference leads to; so all are, if
none stands beside a reference that leads to an entry. -/
theorem left_in_place_iff (session : InliningSession) {name : String}
    (h : (session.call (.entry name s)).1 = .ok r) :
    ∃ recorded, (session.call (.entry name s)).2.diagnostics = session.diagnostics ++ recorded ∧
      (∀ u, .unfollowed name u ∈ recorded → (u ∈ r.unfollowed ↔
        (∃ t, s.Contains t ∧ t.Stays session.entries ∧ u ∈ Schema.unfollowedIn t.extensions) ∨
        ∃ pointer ∈ s.references, ∃ key target t,
          Pointer.lookup? session.entries pointer = some (key, target) ∧
          (Inlined.schema session.entries target).result = .ok t ∧ u ∈ t.unfollowed)) ∧
      ((∀ t, s.Contains t → ¬ t.Stays session.entries → Schema.unfollowedIn t.extensions = []) →
        ∀ u, .unfollowed name u ∈ recorded → u ∈ r.unfollowed) := by
  have hresult := call_entry_eq_ok_iff.mp h
  refine ⟨(Inlined.entry session.entries name s).diagnostics, rfl, ?_, ?_⟩
  · exact fun u _ => mem_unfollowed_iff_of_result hresult
  · intro hbeside u hu
    have hmem : u ∈ s.unfollowed := Inlined.unfollowed_mem_diagnostics_iff.mp hu
    obtain ⟨t, ht, hu⟩ := Schema.mem_unfollowed_iff.mp hmem
    refine (mem_unfollowed_iff_of_result hresult).mpr (.inl ⟨t, ht, ?_, hu⟩)
    by_contra hgone
    rw [hbeside t ht hgone] at hu
    cases hu

section Badge

def nameEntries : Members Schema := [("Name", .ofPrimitive .string)]

/-- A text that may not be an old title. -/
def title : Schema :=
  .mk (.leaf ⟨[.string], none, none⟩) [("not", .object [("$ref", .string "#/x/Old")])]

def badge (name : Schema) : Schema :=
  .mk (.object ⟨[("name", name), ("title", title)], [], none⟩) []

theorem left_in_place_badge :
    ((start nameEntries).call (.entry "Badge" (badge (.ofPointer "Name")))).1 =
      .ok (badge (.ofPrimitive .string)) ∧
    .unfollowed "Badge" ⟨"not", "#/x/Old"⟩ ∈
      ((start nameEntries).call (.entry "Badge" (badge (.ofPointer "Name")))).2.diagnostics ∧
    ⟨"not", "#/x/Old"⟩ ∈ (badge (.ofPrimitive .string)).unfollowed := by
  have hname : Pointer.lookup? nameEntries "Name" = some ("Name", .ofPrimitive .string) := by cbv
  have hleaf : expand nameEntries ["Badge", "Name"] (.ofPrimitive .string) =
      ⟨[], .ok (.ofPrimitive .string)⟩ := expand_mk rfl
  have htitle : expand nameEntries ["Badge"] title = ⟨[], .ok title⟩ := expand_mk rfl
  have hexpand : expand nameEntries ["Badge"] (badge (.ofPointer "Name")) =
      ⟨[], .ok (badge (.ofPrimitive .string))⟩ := by
    rw [badge, expand_mk rfl]
    simp [Kind.traverse, Schema.ofPointer, expand_followed hname, hleaf, htitle, Expansion.bind,
      badge]
  have h : ((start nameEntries).call (.entry "Badge" (badge (.ofPointer "Name")))).1 =
      .ok (badge (.ofPrimitive .string)) :=
    call_entry_eq_ok_iff.mpr (congrArg Expansion.result hexpand)
  have hbeside : ⟨"not", "#/x/Old"⟩ ∈ Schema.unfollowedIn title.extensions :=
    List.mem_singleton_self _
  have hcontains : (badge (.ofPointer "Name")).Contains title :=
    .child (List.mem_cons_of_mem _ List.mem_cons_self) (.self _)
  obtain ⟨recorded, hrecorded, hiff, -⟩ := left_in_place_iff (start nameEntries) h
  have hreported : .unfollowed "Badge" ⟨"not", "#/x/Old"⟩ ∈ recorded := by
    rw [← List.append_cancel_left hrecorded]
    exact Inlined.unfollowed_mem_diagnostics_iff.mpr
      (Schema.mem_unfollowed_iff.mpr ⟨title, hcontains, hbeside⟩)
  refine ⟨h, hrecorded ▸ List.mem_append_right _ hreported, (hiff _ hreported).mpr (.inl ?_)⟩
  exact ⟨title, hcontains, Schema.stays_of_pointer?_eq_none rfl, hbeside⟩

/-- A reference to a name, but not to one that is banned. -/
def admitted : Schema :=
  .mk (.reference "#/x/Name") [("not", .object [("$ref", .string "#/x/Banned")])]

theorem gone_beside_reference :
    ((start nameEntries).call (.entry "Card" admitted)).1 = .ok (.ofPrimitive .string) ∧
    .unfollowed "Card" ⟨"not", "#/x/Banned"⟩ ∈
      ((start nameEntries).call (.entry "Card" admitted)).2.diagnostics ∧
    ⟨"not", "#/x/Banned"⟩ ∉ (Schema.ofPrimitive .string).unfollowed := by
  have hname : Pointer.lookup? nameEntries "#/x/Name" = some ("Name", .ofPrimitive .string) := by
    cbv
  have hexpand : expand nameEntries ["Card"] admitted = ⟨[], .ok (.ofPrimitive .string)⟩ := by
    rw [admitted, expand_followed hname (by decide)]
    exact expand_mk rfl
  refine ⟨?_, ?_, List.not_mem_nil⟩
  · exact call_entry_eq_ok_iff.mpr (congrArg Expansion.result hexpand)
  · exact Inlined.unfollowed_mem_diagnostics_iff.mpr (List.mem_singleton_self _)

end Badge

end InliningSession

end MockBuilders
