import MockBuilders.Proofs.Resolver.Carried

/-!
What a resolver did before makes no difference to a call: neither the names that a failed call left
open, nor whom it was about. Its reports are added to those that there are.
Main statement: `Resolver.call_after_history`.
-/
namespace MockBuilders.Resolver

/-- The resolver after calls that were made one after the other, if all of them came to an end. -/
def after (r : Resolver) : List InliningCall → Option Resolver
  | [] => some r
  | c :: history => do
      let (_, r') ← r.perform (call c)
      r'.after history

theorem exists_after (r : Resolver) (history : List InliningCall) :
    ∃ used, r.after history = some used ∧ used.entries = r.entries ∧
      used.diagnostics =
        r.diagnostics ++ history.flatMap fun c => (c.run r.entries).diagnostics := by
  induction history generalizing r with
  | nil => exact ⟨r, rfl, rfl, (List.append_nil _).symm⟩
  | cons c history ih =>
    obtain ⟨opened, hcall⟩ := perform_call r c
    obtain ⟨used, hused, hentries, hdiagnostics⟩ := ih ⟨r.entries, (c.run r.entries).owner, opened,
      r.diagnostics ++ (c.run r.entries).diagnostics⟩
    refine ⟨used, ?_, hentries, ?_⟩
    · rw [after, hcall]
      exact hused
    · rw [hdiagnostics, List.flatMap_cons, List.append_assoc]

/-- After any calls, also failed ones, a call comes to the same as it does at first, and adds to the
reports of those calls what it reports at first. This is what it comes to and reports in a session,
and the earlier reports are those of each call on its own. -/
theorem call_after_history (entries : Members Schema) (history : List InliningCall)
    (c : InliningCall) :
    ∃ used, (start entries).after history = some used ∧
      (∃ result mine fresh, used.perform (call c) = some (result, mine) ∧
        (start entries).perform (call c) = some (result, fresh) ∧
        mine.diagnostics = used.diagnostics ++ fresh.diagnostics ∧
        ((InliningSession.start entries).call c).1 = result ∧
        ((InliningSession.start entries).call c).2.diagnostics = fresh.diagnostics) ∧
      used.diagnostics =
        history.flatMap fun c => ((InliningSession.start entries).call c).2.diagnostics := by
  obtain ⟨used, hused, hentries, hdiagnostics⟩ := exists_after (start entries) history
  obtain ⟨mineOpened, hmine⟩ := perform_call used c
  obtain ⟨freshOpened, hfresh⟩ := perform_call (start entries) c
  rw [hentries] at hmine
  refine ⟨used, hused, ⟨_, _, _, hmine, hfresh, rfl, rfl, rfl⟩, ?_⟩
  rw [hdiagnostics]
  rfl

/-- A call that meets a cycle leaves open what it had opened. -/
example : ((start [("A", .ofPointer "B"), ("BSchema", .ofPointer "#/x/A")]).perform
    (call (.entry "A" (.ofPointer "B")))).map (fun p => p.2.opened) = some ["A", "BSchema"] := by
  cbv

end MockBuilders.Resolver
