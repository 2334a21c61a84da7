import Mathlib
import MockBuilders.Proofs.Graph.Circuit
import MockBuilders.Proofs.Inlining.Success

/-!
The cycle that a failed call names: it is cut out of the names that are open when a reference leads
back to one of them, each of which was opened by a reference of the one before.
Main statement: `InliningSession.isCircuit_of_failure`.
-/
namespace MockBuilders

variable {entries : Members Schema} {opened cycle : List String} {s : Schema}

/-- What stops the inlining of a schema is a reference to an open entry, or what stops the inlining
of an entry that one leads to. -/
theorem exists_of_expand_eq_error (h : (expand entries opened s).result = .error cycle) :
    ∃ pointer ∈ s.references, ∃ key target,
      Pointer.lookup? entries pointer = some (key, target) ∧
      ((key ∈ opened ∧ cycle = cycleOf opened key) ∨
        (key ∉ opened ∧ (expand entries (opened ++ [key]) target).result = .error cycle)) := by
  induction s using Schema.induct with
  | h kind extensions ih =>
    cases hk : kind.pointer? with
    | some pointer =>
      obtain rfl := Kind.eq_reference_of_pointer? hk
      have hpointer : pointer ∈ (Schema.mk (.reference pointer) extensions).references := by
        rw [Schema.references_mk]
        exact List.mem_append_left _ (List.mem_singleton_self pointer)
      rw [expand_reference, follow] at h
      split at h
      · cases h
      · next key target hlookup =>
        refine ⟨pointer, hpointer, key, target, hlookup, ?_⟩
        split at h
        · next hkey => exact .inl ⟨hkey, (Except.error.inj h).symm⟩
        · next hkey => exact .inr ⟨hkey, h⟩
    | none =>
      rw [result_expand_mk hk] at h
      obtain ⟨c, hc, h⟩ := Kind.exists_of_traverse_eq_error (map_eq_error_iff.mp h)
      obtain ⟨pointer, hpointer, hfound⟩ := ih c hc h
      refine ⟨pointer, ?_, hfound⟩
      rw [Schema.references_mk]
      exact List.mem_append_right _ (List.mem_flatMap.mpr ⟨c, hc, hpointer⟩)

/-- While the open names are a walk without repetition, ending in the one whose schema is inlined,
the names of a cycle are a circuit. -/
theorem isCircuit_of_expand_eq_error {R : String → String → Prop} (hnodup : opened.Nodup)
    (hchain : opened.IsChain R)
    (hlast : ∀ last ∈ opened.getLast?, ∀ key ∈ ReferenceGraph.targetsOf entries s, R last key)
    (hentry : ∀ name ∉ opened, ∀ target, entries.get? name = some target →
      ∀ key ∈ ReferenceGraph.targetsOf entries target, R name key)
    (h : (expand entries opened s).result = .error cycle) : IsCircuit R cycle := by
  -- the entries left to open bound the chain of references
  induction hn : (unopened entries opened).length using Nat.strongRecOn generalizing opened s with
  | ind n ih =>
    obtain ⟨pointer, hpointer, key, target, hlookup, hfound⟩ := exists_of_expand_eq_error h
    have htarget := Pointer.get?_of_lookup? hlookup
    have hkey : key ∈ ReferenceGraph.targetsOf entries s :=
      List.mem_filterMap.mpr ⟨pointer, hpointer, by rw [hlookup]; rfl⟩
    have hstep : ∀ last ∈ opened.getLast?, R last key := fun last hmem => hlast last hmem key hkey
    rcases hfound with ⟨hopen, rfl⟩ | ⟨hopen, h⟩
    · exact isCircuit_cycleOf hnodup hchain hstep hopen
    · have hmem := Members.mem_keys_of_get? htarget
      refine ih _ (hn ▸ unopened_lt hmem hopen) ?_ (isChain_concat hchain hstep) ?_ ?_ h rfl
      · exact List.concat_eq_append ▸ hnodup.concat hopen
      · intro last hmem
        obtain rfl : key = last := by simpa using hmem
        exact hentry key hopen target htarget
      · intro name hname
        exact hentry name fun hmem => hname (List.mem_append_left _ hmem)

namespace InliningCall

/-- The one that a failure of the call is blamed on. -/
def owner : InliningCall → String
  | entry name _ => name
  | schema _ => Inlined.anonymous

/-- The schema behind a name during the call: the one that is inlined, behind the name that it is
inlined under, and entries behind all others. -/
def schemaOf? (entries : Members Schema) : InliningCall → String → Option Schema
  | entry name s, key => if key = name then some s else entries.get? key
  | schema _, key => entries.get? key

/-- Some reference in the schema behind the one name leads to the entry of the other. -/
def Leads (entries : Members Schema) (call : InliningCall) (a b : String) : Prop :=
  ∃ s, call.schemaOf? entries a = some s ∧
    ∃ pointer ∈ s.references, ∃ target, Pointer.lookup? entries pointer = some (b, target)

theorem leads_of_mem_targetsOf {call : InliningCall} {a b : String}
    (hs : call.schemaOf? entries a = some s) (hb : b ∈ ReferenceGraph.targetsOf entries s) :
    call.Leads entries a b := by
  obtain ⟨pointer, hpointer, hfound⟩ := List.mem_filterMap.mp hb
  obtain ⟨⟨key, target⟩, hlookup, rfl⟩ := Option.map_eq_some_iff.mp hfound
  exact ⟨s, hs, pointer, hpointer, target, hlookup⟩

end InliningCall

namespace InliningSession

variable {session : InliningSession} {f : Failure}

theorem call_entry_eq_error_iff {name : String} : (session.call (.entry name s)).1 = .error f ↔
    ∃ cycle, (expand session.entries [name] s).result = .error cycle ∧ .cyclic name cycle = f := by
  change (Inlined.ofExpansion name s (expand session.entries [name] s)).result = .error f ↔ _
  exact Inlined.ofExpansion_eq_error_iff

theorem call_schema_eq_error_iff : (session.call (.schema s)).1 = .error f ↔
    ∃ cycle, (expand session.entries [] s).result = .error cycle ∧
      .cyclic Inlined.anonymous cycle = f := by
  change (Inlined.ofExpansion Inlined.anonymous s (expand session.entries [] s)).result =
    .error f ↔ _
  exact Inlined.ofExpansion_eq_error_iff

/-- A call that fails is blamed on what it was to inline, with a cycle of names: at least two, the
last the same as the first and no other twice, where some reference of each one's schema leads to
the next. -/
theorem isCircuit_of_failure (session : InliningSession) (call : InliningCall)
    (h : (session.call call).1 = .error f) :
    ∃ cycle, f = .cyclic call.owner cycle ∧ IsCircuit (call.Leads session.entries) cycle := by
  cases call with
  | entry name s =>
    obtain ⟨cycle, hcycle, rfl⟩ := call_entry_eq_error_iff.mp h
    refine ⟨cycle, rfl, isCircuit_of_expand_eq_error ?_ ?_ ?_ ?_ hcycle⟩
    · exact List.nodup_singleton name
    · exact List.isChain_singleton name
    · intro last hlast key hkey
      obtain rfl : name = last := Option.some.inj hlast
      exact InliningCall.leads_of_mem_targetsOf (if_pos rfl) hkey
    · intro key hkey target htarget b hb
      have hne : key ≠ name := fun heq => hkey (heq ▸ List.mem_singleton_self name)
      exact InliningCall.leads_of_mem_targetsOf ((if_neg hne).trans htarget) hb
  | schema s =>
    obtain ⟨cycle, hcycle, rfl⟩ := call_schema_eq_error_iff.mp h
    refine ⟨cycle, rfl, isCircuit_of_expand_eq_error .nil .nil ?_ ?_ hcycle⟩
    · exact fun _ hlast => by cases hlast
    · exact fun _ _ _ htarget _ hb => InliningCall.leads_of_mem_targetsOf htarget hb

/-- A lamp, and a way up. -/
def hall : Schema :=
  .mk (.object ⟨[("lamp", .ofPrimitive .string), ("up", .ofPointer "#/x/Attic")], [], none⟩) []

/-- A hall below an attic with the way back down. -/
def rooms : Members Schema := [("Hall", hall), ("AtticSchema", .ofPointer "Hall")]

theorem isCircuit_of_house :
    ((start rooms).call (.entry "House" (.ofPointer "Hall"))).1 =
      .error (.cyclic "House" ["Hall", "AtticSchema", "Hall"]) ∧
    IsCircuit ((InliningCall.entry "House" (.ofPointer "Hall")).Leads rooms)
      ["Hall", "AtticSchema", "Hall"] := by
  have hdown : Pointer.lookup? rooms "Hall" = some ("Hall", hall) := by cbv
  have hup : Pointer.lookup? rooms "#/x/Attic" = some ("AtticSchema", .ofPointer "Hall") := by cbv
  have hlamp : expand rooms ["House", "Hall"] (.ofPrimitive .string) =
      ⟨[], .ok (.ofPrimitive .string)⟩ := expand_mk rfl
  have hback : expand rooms ["House", "Hall"] (.ofPointer "#/x/Attic") =
      ⟨[], .error ["Hall", "AtticSchema", "Hall"]⟩ := by
    simp [Schema.ofPointer, expand_reference, follow, hup, hdown, cycleOf]
  have hexpand : (expand rooms ["House"] (.ofPointer "Hall")).result =
      .error ["Hall", "AtticSchema", "Hall"] := by
    have hentered : expand rooms ["House", "Hall"] hall =
        ⟨[], .error ["Hall", "AtticSchema", "Hall"]⟩ := by
      rw [hall, expand_mk rfl]
      simp [Kind.traverse, hlamp, hback, Expansion.bind]
    simp [Schema.ofPointer, expand_reference, follow, hdown, hentered]
  have h : ((start rooms).call (.entry "House" (.ofPointer "Hall"))).1 =
      .error (.cyclic "House" ["Hall", "AtticSchema", "Hall"]) :=
    call_entry_eq_error_iff.mpr ⟨_, hexpand, rfl⟩
  obtain ⟨cycle, hcycle, hcircuit⟩ := isCircuit_of_failure (start rooms) _ h
  cases hcycle
  exact ⟨h, hcircuit⟩

end InliningSession

end MockBuilders
