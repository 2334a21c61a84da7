import Mathlib
import MockBuilders.Proofs.Resolver.Carried

/-!
Why a resolver comes to an end for any entries, in circles or not: each visit that another one
makes has fewer entries left to open, or as many and a smaller schema. The names of the open entries
are distinct all along, and a visit that succeeds closes what it opened.
Main statement: `Resolver.terminates_within_bounds`.
-/
namespace MockBuilders
open Relation

namespace Schema

/-- The number of layers. -/
def layers : Schema → Nat := fold fun kind _ => kind.children.sum + 1

theorem layers_mk (kind : Kind Schema) (extensions : Members Json) :
    (mk kind extensions).layers = (kind.children.map layers).sum + 1 := by
  rw [layers, fold_mk, Kind.children_map]

theorem layers_lt_of_mem {s c : Schema} (h : c ∈ s.children) : c.layers < s.layers := by
  obtain ⟨kind, extensions⟩ := s
  rw [layers_mk]
  exact Nat.lt_succ_of_le (List.le_sum_of_mem (List.mem_map_of_mem h))

end Schema

namespace Resolver

/-- A schema that is about to be visited, and the resolver as it is then. -/
structure Moment where
  resolver : Resolver
  schema : Schema

namespace Moment

/-- Visiting the one schema visits the other. -/
inductive Calls : Moment → Moment → Prop
  /-- A reference that leads to an entry which is not open enters it. -/
  | enter {r : Resolver} {extensions : Members Json} {pointer key : String} {target : Schema}
      (hlookup : Pointer.lookup? r.entries pointer = some (key, target)) (hkey : key ∉ r.opened) :
      Calls ⟨r, .mk (.reference pointer) extensions⟩ ⟨r.enter key, target⟩
  /-- A child is visited when those before it have been. -/
  | child {r r' : Resolver} {kind : Kind Schema} {extensions : Members Json} {c : Schema}
      {before rest ts : List Schema} (hkind : kind.pointer? = none)
      (hchildren : kind.children = before ++ c :: rest)
      (hbefore : r.perform (before.mapM visit) = some (.ok ts, r')) :
      Calls ⟨r, .mk kind extensions⟩ ⟨r', c⟩

/-- Visiting the one schema visits the other in the end. -/
abbrev Enters := ReflTransGen Calls

/-- The visit comes to an end. -/
def Terminates (m : Moment) : Prop := ∃ ended, m.resolver.perform (visit m.schema) = some ended

/-- The number of entries that are left to open, and the number of layers to visit. -/
def remaining (m : Moment) : Nat × Nat :=
  ((unopened m.resolver.entries m.resolver.opened).length, m.schema.layers)

end Moment
open Moment

variable {α : Type} {r r' : Resolver} {m m' : Moment}

/-- What succeeds leaves the entries as they were and as many of them open. -/
theorem Carries.restores {act : Resolving α} {x : Expansion α} {a : α}
    (h : Carries r.entries r.opened act x) (hact : r.perform act = some (.ok a, r')) :
    r'.entries = r.entries ∧ r'.opened = r.opened := by
  obtain ⟨more, hperform, -, hsucceeds⟩ := h r.owner r.diagnostics
  obtain ⟨hresult, hafter⟩ := Prod.mk.inj (Option.some.inj (hact.symm.trans hperform))
  have hok : x.Succeeds := by
    cases hx : x.result with
    | ok b => exact ⟨b, hx⟩
    | error cycle =>
      rw [hx] at hresult
      cases hresult
  rw [hafter, hsucceeds hok, List.append_nil]
  exact ⟨rfl, rfl⟩

theorem restores_mapM_visit {ss ts : List Schema}
    (h : r.perform (ss.mapM visit) = some (.ok ts, r')) :
    r'.entries = r.entries ∧ r'.opened = r.opened :=
  (carries_mapM fun s _ => carries_visit r.entries r.opened s).restores h

theorem remaining_lt_of_calls (h : m.Calls m') :
    Prod.Lex (· < ·) (· < ·) m'.remaining m.remaining := by
  cases h with
  | enter hlookup hkey =>
    have hmem := Members.mem_keys_of_get? (Pointer.get?_of_lookup? hlookup)
    exact .left _ _ (unopened_lt hmem hkey)
  | @child r r' kind extensions c before rest ts hkind hchildren hbefore =>
    obtain ⟨hentries, hopened⟩ := restores_mapM_visit hbefore
    have hc : c ∈ kind.children := hchildren ▸ List.mem_append_right _ List.mem_cons_self
    simp only [remaining, hentries, hopened]
    exact .right _ (Schema.layers_lt_of_mem (s := .mk kind extensions) hc)

theorem perform_mapM_concat {act : Schema → Resolving α} {r'' : Resolver} {before : List Schema}
    {ts : List α} {c : Schema} {t : α} (hbefore : r.perform (before.mapM act) = some (.ok ts, r'))
    (hc : r'.perform (act c) = some (.ok t, r'')) :
    r.perform ((before ++ [c]).mapM act) = some (.ok (ts ++ [t]), r'') := by
  have hconcat : (before ++ [c]).mapM act =
      (do let ts ← before.mapM act; let t ← act c; return ts ++ [t]) := by
    simp [List.mapM_append]
  rw [hconcat, perform_bind_ok hbefore, perform_bind_ok hc, perform_pure]

theorem terminates_mapM_visit {kind : Kind Schema} {extensions : Members Json}
    (hkind : kind.pointer? = none)
    (h : ∀ m', Calls ⟨r, .mk kind extensions⟩ m' → m'.Terminates) {before rest ts : List Schema}
    (hchildren : kind.children = before ++ rest)
    (hbefore : r.perform (before.mapM visit) = some (.ok ts, r')) :
    ∃ ended, r'.perform (rest.mapM visit) = some ended := by
  induction rest generalizing before ts r' with
  | nil => exact ⟨_, perform_pure []⟩
  | cons c rest ih =>
    obtain ⟨⟨result, r''⟩, hc⟩ := h _ (.child hkind hchildren hbefore)
    rw [List.mapM_cons]
    cases result with
    | error f => exact ⟨_, perform_bind_error hc⟩
    | ok t =>
      have hchildren' : kind.children = before ++ [c] ++ rest := by simp [hchildren]
      obtain ⟨⟨results, r₃⟩, hrest⟩ := ih hchildren' (perform_mapM_concat hbefore hc)
      rw [perform_bind_ok hc]
      cases results with
      | error f => exact ⟨_, perform_bind_error hrest⟩
      | ok ts' => exact ⟨_, perform_bind_ok hrest⟩

/-- A visit comes to an end if all that it makes do. -/
theorem terminates_of_calls (h : ∀ m', m.Calls m' → m'.Terminates) : m.Terminates := by
  obtain ⟨r, kind, extensions⟩ := m
  cases hkind : kind.pointer? with
  | some pointer =>
    obtain rfl := Kind.eq_reference_of_pointer? hkind
    cases hlookup : Pointer.lookup? r.entries pointer with
    | none => exact ⟨_, perform_visit_dangling hlookup⟩
    | some p =>
      obtain ⟨key, target⟩ := p
      by_cases hkey : key ∈ r.opened
      · exact ⟨_, perform_visit_open hlookup hkey⟩
      · obtain ⟨⟨result, r'⟩, htarget⟩ := h _ (.enter hlookup hkey)
        rw [Terminates, perform_visit_followed hlookup hkey]
        cases result with
        | error f => exact ⟨_, perform_bind_error htarget⟩
        | ok t => exact ⟨_, perform_bind_ok htarget⟩
  | none =>
    obtain ⟨⟨result, r'⟩, hchildren⟩ :=
      terminates_mapM_visit hkind h (List.nil_append _).symm (perform_pure [])
    rw [Terminates, visit_layer hkind]
    cases result with
    | error f => exact ⟨_, perform_bind_error hchildren⟩
    | ok ts => exact ⟨_, perform_bind_ok hchildren⟩

theorem terminates (m : Moment) : m.Terminates := by
  have hwf := InvImage.wf remaining (WellFounded.prod_lex Nat.lt_wfRel.wf Nat.lt_wfRel.wf)
  exact hwf.induction m fun m ih => terminates_of_calls fun m' h => ih m' (remaining_lt_of_calls h)

/-- The open names are distinct, and there are none but entries and those that were open from the
start. -/
structure Sound (entries : Members Schema) (base opened : List String) : Prop where
  nodup : opened.Nodup
  subset : opened ⊆ base ++ entries.keys

namespace Sound

variable {entries : Members Schema} {base opened more : List String}

theorem append (h : Sound entries base opened) (hmore : MayOpen entries opened more) :
    Sound entries base (opened ++ more) := by
  constructor
  · refine List.nodup_append.mpr ⟨h.nodup, hmore.nodup, ?_⟩
    rintro key hkey _ hkey' rfl
    exact (hmore.fresh key hkey').2 hkey
  · refine List.append_subset.mpr ⟨h.subset, fun key hkey => ?_⟩
    exact List.mem_append_right _ (hmore.fresh key hkey).1

theorem length_le (h : Sound entries base opened) :
    opened.length ≤ base.length + entries.length := by
  have hle := (List.subperm_of_subset h.nodup h.subset).length_le
  rwa [List.length_append, Members.keys, List.length_map] at hle

end Sound

/-- What a visit makes stays sound, over the same entries. -/
theorem sound_of_calls {base : List String} (h : m.Calls m')
    (hm : Sound m.resolver.entries base m.resolver.opened) :
    m'.resolver.entries = m.resolver.entries ∧
      Sound m.resolver.entries base m'.resolver.opened := by
  cases h with
  | enter hlookup hkey =>
    have hmem := Members.mem_keys_of_get? (Pointer.get?_of_lookup? hlookup)
    exact ⟨rfl, hm.append (MayOpen.nil.cons hmem hkey)⟩
  | child hkind hchildren hbefore =>
    obtain ⟨hentries, hopened⟩ := restores_mapM_visit hbefore
    exact ⟨hentries, hopened ▸ hm⟩

theorem sound_of_enters {base : List String} (h : m.Enters m')
    (hm : Sound m.resolver.entries base m.resolver.opened) :
    m'.resolver.entries = m.resolver.entries ∧
      Sound m.resolver.entries base m'.resolver.opened := by
  induction h with
  | refl => exact ⟨rfl, hm⟩
  | tail _ hcall ih =>
    obtain ⟨hentries, hsound⟩ := ih
    obtain ⟨hentries', hsound'⟩ := sound_of_calls hcall (hentries ▸ hsound)
    exact ⟨hentries'.trans hentries, hentries ▸ hsound'⟩

/-- A visit leaves the open names sound, also where it fails. -/
theorem Sound.perform_visit {base : List String} {s : Schema} {result : Except Failure Schema}
    (h : Sound r.entries base r.opened) (hvisit : r.perform (visit s) = some (result, r')) :
    Sound r.entries base r'.opened := by
  obtain ⟨more, hperform, hmore, -⟩ := carries_visit r.entries r.opened s r.owner r.diagnostics
  obtain ⟨-, hafter⟩ := Prod.mk.inj (Option.some.inj (hvisit.symm.trans hperform))
  rw [hafter]
  exact h.append hmore

/-- The first visit of a call. -/
def begin (r : Resolver) : InliningCall → Moment
  | .entry name s => ⟨r.turnTo name [name] s, s⟩
  | .schema s => ⟨r.turnTo Inlined.anonymous [] s, s⟩

theorem exists_sound_begin (r : Resolver) (c : InliningCall) :
    (r.begin c).resolver.entries = r.entries ∧
      ∃ base, base.length ≤ 1 ∧ Sound r.entries base (r.begin c).resolver.opened := by
  cases c with
  | entry name s =>
    refine ⟨rfl, [name], Nat.le_refl 1, List.nodup_singleton name, ?_⟩
    exact List.subset_append_left _ _
  | schema s => exact ⟨rfl, [], Nat.zero_le 1, List.nodup_nil, List.nil_subset _⟩

/-- Every call of a resolver comes to an end, with the result of inlining, whatever the entries and
whatever was done before. All visits that it makes come to an end, and each that one of them makes
in turn has less to do. The open names are distinct all along, no more than the entries and one, and
after a visit that succeeds they are what they were before it. -/
theorem terminates_within_bounds (r : Resolver) (c : InliningCall) :
    (∃ after, r.perform (call c) = some ((c.run r.entries).result, after)) ∧
    ∀ m, (r.begin c).Enters m →
      m.Terminates ∧
      (∀ m', m.Calls m' → Prod.Lex (· < ·) (· < ·) m'.remaining m.remaining) ∧
      m.resolver.opened.Nodup ∧ m.resolver.opened.length ≤ r.entries.length + 1 ∧
      ∀ result after, m.resolver.perform (visit m.schema) = some (result, after) →
        after.opened.Nodup ∧ after.opened.length ≤ r.entries.length + 1 ∧
        ∀ t, result = .ok t → after.opened = m.resolver.opened := by
  constructor
  · obtain ⟨_, hcall⟩ := perform_call r c
    exact ⟨_, hcall⟩
  · intro m hm
    obtain ⟨hentries, base, hbase, hbegin⟩ := exists_sound_begin r c
    obtain ⟨hkept, hsound⟩ := sound_of_enters hm (hentries ▸ hbegin)
    rw [hentries] at hkept hsound
    have hlength : ∀ opened, Sound r.entries base opened →
        opened.length ≤ r.entries.length + 1 := by
      intro opened hopened
      have := hopened.length_le
      omega
    refine ⟨terminates m, fun _ => remaining_lt_of_calls, hsound.nodup, hlength _ hsound, ?_⟩
    intro result after hvisit
    have hafter : Sound r.entries base after.opened :=
      hkept ▸ (hkept.symm ▸ hsound : Sound m.resolver.entries base _).perform_visit hvisit
    refine ⟨hafter.nodup, hlength _ hafter, ?_⟩
    rintro t rfl
    exact ((carries_visit _ _ _).restores hvisit).2

end Resolver

end MockBuilders
