import MockBuilders.Proofs.Inlining.Success
import MockBuilders.Resolver

/-!
A resolver does what inlining says: it comes to the same result, reports the pointers that are
found missing, and has the same entries open afterwards as before, or more if it fails.
Main statements: `Resolver.carries_visit` and `Resolver.perform_call`.
-/
namespace MockBuilders

namespace Resolver

variable {α β : Type} {r r' : Resolver} {entries : Members Schema} {opened more : List String}

theorem perform_pure (a : α) : r.perform (pure a) = some (.ok a, r) := rfl

theorem perform_modify (f : Resolver → Resolver) : r.perform (modify f) = some (.ok ⟨⟩, f r) := rfl

theorem perform_get : r.perform get = some (.ok r, r) := rfl

theorem perform_bind_ok {m : Resolving α} {f : α → Resolving β} {a : α}
    (h : r.perform m = some (.ok a, r')) : r.perform (m >>= f) = r'.perform (f a) := by
  change Option.bind (r.perform m) _ = _
  rw [h]
  rfl

theorem perform_bind_error {m : Resolving α} {f : α → Resolving β} {e : Failure}
    (h : r.perform m = some (.error e, r')) : r.perform (m >>= f) = some (.error e, r') := by
  change Option.bind (r.perform m) _ = _
  rw [h]
  rfl

/-- Entries that are there and not open yet, each once. -/
structure MayOpen (entries : Members Schema) (opened more : List String) : Prop where
  nodup : more.Nodup
  fresh : ∀ key ∈ more, key ∈ entries.keys ∧ key ∉ opened

theorem MayOpen.nil : MayOpen entries opened [] := ⟨List.nodup_nil, fun _ h => by cases h⟩

theorem MayOpen.cons {key : String} (hkey : key ∈ entries.keys) (hopen : key ∉ opened)
    (h : MayOpen entries (opened ++ [key]) more) : MayOpen entries opened (key :: more) := by
  constructor
  · refine List.nodup_cons.mpr ⟨fun hmem => ?_, h.nodup⟩
    exact (h.fresh key hmem).2 (List.mem_append_right _ (List.mem_singleton_self key))
  · refine List.forall_mem_cons.mpr ⟨⟨hkey, hopen⟩, fun name hname => ?_⟩
    obtain ⟨hname, hclosed⟩ := h.fresh name hname
    exact ⟨hname, fun hmem => hclosed (List.mem_append_left _ hmem)⟩

/-- Whoever the owner is, the resolver comes to what the expansion says and reports what it finds
missing; if it fails, some entries are left open. -/
def Carries (entries : Members Schema) (opened : List String) (m : Resolving α)
    (x : Expansion α) : Prop :=
  ∀ owner diagnostics, ∃ more,
    perform ⟨entries, owner, opened, diagnostics⟩ m = some (x.result.mapError (.cyclic owner),
      ⟨entries, owner, opened ++ more, diagnostics ++ x.missing.map (.missing owner)⟩) ∧
    MayOpen entries opened more ∧ (x.Succeeds → more = [])

theorem carries_pure (a : α) : Carries entries opened (pure a) (pure a) :=
  fun _ _ => ⟨[], by simp [perform_pure, Except.mapError], .nil, fun _ => rfl⟩

theorem Carries.bind {m : Resolving α} {x : Expansion α} {f : α → Resolving β}
    {g : α → Expansion β} (h : Carries entries opened m x)
    (hf : ∀ a, Carries entries opened (f a) (g a)) :
    Carries entries opened (m >>= f) (x >>= g) := by
  intro owner diagnostics
  obtain ⟨more, hm, hmore, hsucceeds⟩ := h owner diagnostics
  obtain ⟨missing, result⟩ := x
  cases result with
  | error cycle =>
    refine ⟨more, perform_bind_error hm, hmore, ?_⟩
    rintro ⟨b, hb⟩
    cases hb
  | ok a =>
    obtain rfl := hsucceeds ⟨a, rfl⟩
    rw [List.append_nil] at hm
    obtain ⟨more', hm', hmore', hsucceeds'⟩ :=
      hf a owner (diagnostics ++ missing.map (.missing owner))
    refine ⟨more', ?_, hmore', hsucceeds'⟩
    rw [perform_bind_ok hm, hm', Expansion.bind_eq, Expansion.bind_ok, List.map_append,
      List.append_assoc]

theorem carries_mapM {f : α → Resolving β} {g : α → Expansion β} {xs : List α}
    (h : ∀ x ∈ xs, Carries entries opened (f x) (g x)) :
    Carries entries opened (xs.mapM f) (xs.mapM g) := by
  induction xs with
  | nil => exact carries_pure []
  | cons x xs ih =>
    obtain ⟨hx, hxs⟩ := List.forall_mem_cons.mp h
    rw [List.mapM_cons, List.mapM_cons]
    exact hx.bind fun y => (ih hxs).bind fun ys => carries_pure (y :: ys)

section Reference
variable {pointer key : String} {extensions : Members Json} {target : Schema}

theorem perform_visit_dangling (h : Pointer.lookup? r.entries pointer = none) :
    r.perform (visit (.mk (.reference pointer) extensions)) =
      some (.ok (.mk (.reference pointer) extensions), r.report (.missing r.owner pointer)) := by
  rw [visit]
  refine (perform_bind_ok perform_get).trans ?_
  simp only [h]
  rfl

theorem perform_visit_open (h : Pointer.lookup? r.entries pointer = some (key, target))
    (hkey : key ∈ r.opened) :
    r.perform (visit (.mk (.reference pointer) extensions)) =
      some (.error (.cyclic r.owner (cycleOf r.opened key)), r) := by
  rw [visit]
  refine (perform_bind_ok perform_get).trans ?_
  simp only [h, if_pos hkey]
  rfl

theorem perform_visit_followed (h : Pointer.lookup? r.entries pointer = some (key, target))
    (hkey : key ∉ r.opened) :
    r.perform (visit (.mk (.reference pointer) extensions)) =
      (r.enter key).perform (do
        let t ← visit target
        modify leave
        return t) := by
  rw [visit]
  refine (perform_bind_ok perform_get).trans ?_
  simp only [h, if_neg hkey]
  rfl

end Reference

theorem visit_layer {kind : Kind Schema} {extensions : Members Json} (h : kind.pointer? = none) :
    visit (.mk kind extensions) =
      (do return .mk (kind.withChildren (← kind.children.mapM visit)) extensions) := by
  rw [visit]
  simp only [Schema.kind, h]
  rfl

/-- What is done between entering an entry and leaving it is carried on in its place. -/
theorem Carries.enter {key : String} {target : Schema} {x : Expansion Schema}
    (hkey : key ∈ entries.keys) (hopen : key ∉ opened)
    (h : Carries entries (opened ++ [key]) (visit target) x) (owner : String)
    (diagnostics : Diagnostics) : ∃ more,
    (Resolver.enter ⟨entries, owner, opened, diagnostics⟩ key).perform (do
      let t ← visit target
      modify leave
      return t) = some (x.result.mapError (.cyclic owner),
        ⟨entries, owner, opened ++ more, diagnostics ++ x.missing.map (.missing owner)⟩) ∧
    MayOpen entries opened more ∧ (x.Succeeds → more = []) := by
  obtain ⟨more, hm, hmore, hsucceeds⟩ := h owner diagnostics
  obtain ⟨missing, result⟩ := x
  cases result with
  | error cycle =>
    refine ⟨key :: more, ?_, hmore.cons hkey hopen, ?_⟩
    · rw [List.append_assoc] at hm
      exact perform_bind_error hm
    · rintro ⟨t, ht⟩
      cases ht
  | ok t =>
    obtain rfl := hsucceeds ⟨t, rfl⟩
    refine ⟨[], ?_, .nil, fun _ => rfl⟩
    refine (perform_bind_ok hm).trans ((perform_bind_ok (perform_modify leave)).trans ?_)
    simp [perform_pure, leave, Except.mapError]

/-- A resolver visits a schema as inlining goes through it. -/
theorem carries_visit (entries : Members Schema) (opened : List String) (s : Schema) :
    Carries entries opened (visit s) (expand entries opened s) := by
  -- the entries left to open bound the chain of references, the schema the descent between two
  induction hn : (unopened entries opened).length using Nat.strongRecOn generalizing opened s with
  | ind n ih =>
    induction s using Schema.induct with
    | h kind extensions ihs =>
      cases hk : kind.pointer? with
      | some pointer =>
        obtain rfl := Kind.eq_reference_of_pointer? hk
        intro owner diagnostics
        rw [expand_reference, follow]
        split
        · next hlookup =>
          refine ⟨[], ?_, .nil, fun _ => rfl⟩
          rw [perform_visit_dangling hlookup]
          simp [report, Except.mapError]
        · next key target hlookup =>
          split
          · next hkey =>
            refine ⟨[], ?_, .nil, fun _ => rfl⟩
            rw [perform_visit_open hlookup hkey]
            simp [Except.mapError]
          · next hkey =>
            have hmem := Members.mem_keys_of_get? (Pointer.get?_of_lookup? hlookup)
            have htarget := ih _ (hn ▸ unopened_lt hmem hkey) (opened ++ [key]) target rfl
            rw [perform_visit_followed hlookup hkey]
            exact htarget.enter hmem hkey owner diagnostics
      | none =>
        rw [visit_layer hk, expand_mk hk, Kind.traverse_eq_mapM, bind_assoc]
        exact (carries_mapM ihs).bind fun cs => carries_pure _

theorem perform_visit_turnTo (r : Resolver) (owner : String) (opened : List String) (s : Schema) :
    ∃ more, (r.turnTo owner opened s).perform (visit s) =
      some ((Inlined.ofExpansion owner s (expand r.entries opened s)).result,
        ⟨r.entries, owner, opened ++ more, r.diagnostics ++
          (Inlined.ofExpansion owner s (expand r.entries opened s)).diagnostics⟩) := by
  obtain ⟨more, hm, -, -⟩ := carries_visit r.entries opened s owner
    (r.diagnostics ++ s.unfollowed.map (.unfollowed owner))
  rw [List.append_assoc] at hm
  exact ⟨more, hm⟩

/-- A call comes to what inlining says and adds its reports to those that there are, whatever was
done before it and left open. -/
theorem perform_call (r : Resolver) (c : InliningCall) : ∃ opened,
    r.perform (call c) = some ((c.run r.entries).result,
      ⟨r.entries, (c.run r.entries).owner, opened,
        r.diagnostics ++ (c.run r.entries).diagnostics⟩) := by
  cases c with
  | entry name s =>
    obtain ⟨more, hm⟩ := perform_visit_turnTo r name [name] s
    have hbegun : r.perform (call (.entry name s)) = (r.turnTo name [name] s).perform (do
      let t ← visit s
      modify fun r => { r with opened := [] }
      return t) := perform_bind_ok (perform_modify _)
    rw [hbegun]
    simp only [InliningCall.run, Inlined.entry]
    generalize hx : (Inlined.ofExpansion name s (expand r.entries [name] s)).result = result at hm ⊢
    cases result with
    | error f => exact ⟨_, perform_bind_error hm⟩
    | ok t => exact ⟨_, perform_bind_ok hm⟩
  | schema s =>
    obtain ⟨more, hm⟩ := perform_visit_turnTo r Inlined.anonymous [] s
    exact ⟨_, (perform_bind_ok (perform_modify _)).trans hm⟩

end Resolver

end MockBuilders
