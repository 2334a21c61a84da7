import Mathlib.Data.List.Forall2
import MockBuilders.Emission.TypeScript
import MockBuilders.Proofs.Emission.Decisions
import MockBuilders.Proofs.FirstOfKey
import MockBuilders.Proofs.Members.Union
import MockBuilders.Proofs.Relations

/-!
What a plan makes of its entries. The first entry of each type name gets a builder, the others are
reported; the first entry of each fingerprint among those with a builder gives the constant that
all of the fingerprint share. Main statement: `Plan.accounts_ofEntries`.
-/
namespace MockBuilders

namespace Members

variable {α : Type}

theorem get?_map {xs : List α} {β : Type} (name : α → String) (value : α → β) (key : String) :
    get? (xs.map fun x => (name x, value x)) key =
      (xs.find? fun x => name x = key).map value := by
  induction xs with
  | nil => rfl
  | cons x xs ih =>
    rw [List.map_cons, get?, List.find?_cons]
    by_cases h : name x = key
    · simp [h]
    · simpa [h] using ih

end Members

theorem Naming.constantName_injective : Function.Injective Naming.constantName :=
  fun _ _ h => String.append_left_inj _ |>.mp h

namespace CanonicalEntry

/-- The constant that is made for an entry, if none is shared. -/
def constant (e : CanonicalEntry) : Constant :=
  ⟨Naming.constantName e.typeName, e.fingerprint, e.schema⟩

/-- The report of an entry whose type name has an owner. -/
def collision (e owner : CanonicalEntry) : Diagnostic :=
  ⟨e.name, .typeNameCollision,
    "Type name " ++ e.typeName ++ " is already used by " ++ owner.name, ["Kept: " ++ owner.name]⟩

end CanonicalEntry

/-- The entry gets a builder with the constant of the first of its fingerprint. -/
def Builds (owning : List CanonicalEntry) (e : CanonicalEntry) (b : Builder) : Prop :=
  ∃ f, (owning.find? fun f => f.fingerprint = e.fingerprint) = some f ∧
    b = ⟨e.name, e.typeName, f.constant.name, .ofSchema e.schema⟩

/-- What becomes of an entry, given the first earlier entry of its type name. -/
inductive Decides (owning : List CanonicalEntry) :
    CanonicalEntry × Option CanonicalEntry → Decision → Prop
  | skipped (e owner : CanonicalEntry) :
      Decides owning (e, some owner) (.skipped e.name e.typeName owner.name)
  | built {e : CanonicalEntry} {b : Builder} (reused : Bool) :
      Builds owning e b → Decides owning (e, none) (.built b reused)

theorem Builds.append {owning : List CanonicalEntry} {e : CanonicalEntry} {b : Builder}
    (h : Builds owning e b) (others : List CanonicalEntry) : Builds (owning ++ others) e b := by
  obtain ⟨f, hf, rfl⟩ := h
  exact ⟨f, by rw [List.find?_append, hf, Option.some_or], rfl⟩

theorem Decides.append {owning : List CanonicalEntry}
    {p : CanonicalEntry × Option CanonicalEntry} {d : Decision} (h : Decides owning p d)
    (others : List CanonicalEntry) : Decides (owning ++ others) p d := by
  cases h with
  | skipped e owner => exact .skipped e owner
  | built reused h => exact .built reused (h.append others)

namespace Plan

open CanonicalEntry (typeName fingerprint constant)

/-- A plan holds what there is to know of the entries decided so far. -/
structure Reflects (entries : List CanonicalEntry) (p : Plan) : Prop where
  owners : p.owners = (firsts typeName entries).map fun e => (e.typeName, e.name)
  constants : p.constants = (firsts fingerprint (firsts typeName entries)).map constant
  decisions : List.Forall₂ (Decides (firsts typeName entries)) (withEarlier typeName entries)
    p.decisions

section Reflects
variable {entries : List CanonicalEntry} {p : Plan} (h : Reflects entries p)
include h

theorem Reflects.get?_owners (type : String) : p.owners.get? type =
    (entries.find? fun e => e.typeName = type).map CanonicalEntry.name := by
  rw [h.owners, Members.get?_map, find?_firsts]

theorem Reflects.constant?_eq (f : Fingerprint) : p.constant? f =
    ((firsts typeName entries).find? fun e => e.fingerprint = f).map constant := by
  rw [constant?, h.constants, List.find?_map, ← find?_firsts fingerprint]
  rfl

/-- One more entry is decided as it should be, and all that was decided still stands. -/
theorem Reflects.add (e : CanonicalEntry) : Reflects (entries ++ [e]) (p.add e) := by
  have howner := h.get?_owners e.typeName
  have hconstant := h.constant?_eq e.fingerprint
  unfold Plan.add
  cases hfirst : entries.find? fun f => f.typeName = e.typeName with
  | some owner =>
    rw [hfirst, Option.map_some] at howner
    rw [howner]
    refine ⟨?_, ?_, ?_⟩
    · rw [firsts_concat_of_some hfirst, h.owners]
    · rw [firsts_concat_of_some hfirst, h.constants]
    · rw [firsts_concat_of_some hfirst, withEarlier_concat, hfirst]
      exact List.rel_append h.decisions (.cons (.skipped e owner) .nil)
  | none =>
    rw [hfirst, Option.map_none] at howner
    rw [howner]
    have hdecisions := h.decisions.imp fun _ _ hd => hd.append [e]
    cases hshared : (firsts typeName entries).find? fun f => f.fingerprint = e.fingerprint with
    | some f =>
      rw [hshared, Option.map_some] at hconstant
      simp only [hconstant]
      refine ⟨?_, ?_, ?_⟩
      · rw [firsts_concat_of_none hfirst, h.owners, List.map_append, List.map_singleton]
      · rw [firsts_concat_of_none hfirst, firsts_concat_of_some hshared, h.constants]
      · rw [firsts_concat_of_none hfirst, withEarlier_concat, hfirst]
        refine List.rel_append hdecisions (.cons (.built true ⟨f, ?_, rfl⟩) .nil)
        rw [List.find?_append, hshared, Option.some_or]
    | none =>
      rw [hshared, Option.map_none] at hconstant
      simp only [hconstant]
      refine ⟨?_, ?_, ?_⟩
      · rw [firsts_concat_of_none hfirst, h.owners, List.map_append, List.map_singleton]
      · rw [firsts_concat_of_none hfirst, firsts_concat_of_none hshared, h.constants,
          List.map_append, List.map_singleton]
        rfl
      · rw [firsts_concat_of_none hfirst, withEarlier_concat, hfirst]
        -- the entry is the first of its fingerprint, so the constant is its own
        refine List.rel_append hdecisions (.cons (.built false ⟨e, ?_, rfl⟩) .nil)
        simp [List.find?_append, hshared]

end Reflects

theorem reflects_ofEntries (entries : List CanonicalEntry) :
    Reflects entries (ofEntries entries) := by
  induction entries using List.reverseRecOn with
  | nil => exact ⟨rfl, rfl, .nil⟩
  | append_singleton entries e ih =>
    rw [ofEntries, List.foldl_append]
    exact ih.add e

/-- Every entry is the first of its type name, and gets a builder, or repeats one, and is reported.
Constants are given in the order in which their fingerprints were first seen among the builders'
entries, under distinct names, and a builder's constant is found under its name in the table. -/
structure Accounts (entries : List CanonicalEntry) (p : Plan) : Prop where
  once : entries.Perm (firsts typeName entries ++ (repeats typeName entries).map Prod.fst)
  inOrder : (firsts typeName entries).Sublist entries
  builders : List.Forall₂
    (fun e b => b.entry = e.name ∧ b.type = e.typeName ∧ b.shape = .ofSchema e.schema)
    (firsts typeName entries) p.builders
  types : (p.builders.map Builder.type).Nodup
  collisions : (p.diagnostics.filter fun d => d.code = .typeNameCollision) =
    (repeats typeName entries).map fun r => r.1.collision r.2
  constants : p.constants = (firsts fingerprint (firsts typeName entries)).map constant
  names : (p.constants.map Constant.name).Nodup
  table : TypeScript.table p.constants = p.constants.map fun c => (c.name, c.schema.toJson)
  found : ∀ x ∈ (firsts typeName entries).zip p.builders, ∃ v,
    (TypeScript.table p.constants).get? x.2.constant = some v ∧
      Fingerprint.ofJson v = x.1.fingerprint
  shared : ∀ x ∈ (firsts typeName entries).zip p.builders,
    ∀ y ∈ (firsts typeName entries).zip p.builders,
      (x.2.constant = y.2.constant ↔ x.1.fingerprint = y.1.fingerprint)

section Reflects
variable {entries : List CanonicalEntry} {p : Plan} (h : Reflects entries p)
include h

theorem Reflects.builds :
    List.Forall₂ (Builds (firsts typeName entries)) (firsts typeName entries) p.builders := by
  change List.Forall₂ _ ((withEarlier typeName entries).filterMap _) _
  refine List.rel_filterMap ?_ h.decisions
  intro q d hd
  cases hd with
  | skipped e owner => exact .none
  | built reused hb => exact .some hb

theorem Reflects.collisions : (p.diagnostics.filter fun d => d.code = .typeNameCollision) =
    (repeats typeName entries).map fun r => r.1.collision r.2 := by
  have hdecisions := h.decisions
  rw [Plan.diagnostics, repeats]
  generalize withEarlier typeName entries = qs at hdecisions ⊢
  generalize p.decisions = ds at hdecisions ⊢
  induction hdecisions with
  | nil => rfl
  | cons hd _ ih =>
    rw [List.flatMap_cons, List.filter_append, ih]
    cases hd with
    | skipped e owner => rfl
    | built reused _ =>
      rw [List.filter_eq_nil_iff.mpr fun d hd => by simpa using Decision.code_ne_of_mem_built hd]
      rfl

theorem Reflects.names : (p.constants.map Constant.name).Nodup := by
  have hsub := (firsts_sublist fingerprint (firsts typeName entries)).map typeName
  have htypes := hsub.nodup (nodup_map_firsts typeName entries)
  rw [h.constants, List.map_map]
  have hnames := htypes.map Naming.constantName_injective
  rwa [List.map_map] at hnames

theorem Reflects.table : TypeScript.table p.constants =
    p.constants.map fun c => (c.name, c.schema.toJson) := by
  apply Members.ofPairs_of_distinct
  rw [Members.Distinct, Members.keys, List.map_map]
  exact h.names

/-- The constant of a builder is in the table, with the fingerprint of the builder's entry. -/
theorem Reflects.found {e : CanonicalEntry} {b : Builder}
    (hb : Builds (firsts typeName entries) e b) : ∃ v,
      (TypeScript.table p.constants).get? b.constant = some v ∧
        Fingerprint.ofJson v = e.fingerprint := by
  obtain ⟨f, hf, rfl⟩ := hb
  have hshared := List.find?_some hf
  rw [← find?_firsts] at hf
  have hmem : f.constant ∈ p.constants :=
    h.constants ▸ List.mem_map_of_mem (List.mem_of_find?_eq_some hf)
  refine ⟨f.schema.toJson, ?_, of_decide_eq_true hshared⟩
  have hdistinct : Members.Distinct (TypeScript.table p.constants) := by
    rw [h.table, Members.Distinct, Members.keys, List.map_map]
    exact h.names
  rw [Members.get?_eq_some_iff hdistinct, h.table]
  exact List.mem_map.mpr ⟨f.constant, hmem, rfl⟩

/-- Entries share a constant if and only if they have one fingerprint. -/
theorem Reflects.shared {e f : CanonicalEntry} {b c : Builder}
    (hb : Builds (firsts typeName entries) e b) (hc : Builds (firsts typeName entries) f c) :
    b.constant = c.constant ↔ e.fingerprint = f.fingerprint := by
  constructor
  · intro hname
    obtain ⟨v, hv, hfingerprint⟩ := h.found hb
    obtain ⟨w, hw, hfingerprint'⟩ := h.found hc
    rw [hname, hw] at hv
    rw [← hfingerprint, ← hfingerprint', Option.some.inj hv]
  · intro hfingerprint
    obtain ⟨first, hfirst, rfl⟩ := hb
    obtain ⟨first', hfirst', rfl⟩ := hc
    rw [hfingerprint, hfirst'] at hfirst
    rw [Option.some.inj hfirst]

end Reflects

/-- Every plan accounts for its entries. -/
theorem accounts_ofEntries (entries : List CanonicalEntry) :
    Accounts entries (ofEntries entries) := by
  have h := reflects_ofEntries entries
  have hbuilds := h.builds
  refine ⟨perm_firsts_append_repeats typeName entries, firsts_sublist typeName entries, ?builders,
    ?types, h.collisions, h.constants, h.names, h.table, ?found, ?shared⟩
  case builders =>
    refine hbuilds.imp ?_
    rintro e b ⟨f, -, rfl⟩
    exact ⟨rfl, rfl, rfl⟩
  case types =>
    have htypes : (firsts typeName entries).map typeName =
        (ofEntries entries).builders.map Builder.type := by
      refine map_eq_of_forall₂ hbuilds ?_
      rintro e b ⟨f, -, rfl⟩
      rfl
    rw [← htypes]
    exact nodup_map_firsts typeName entries
  case found =>
    rintro ⟨e, b⟩ hx
    exact h.found (List.forall₂_zip hbuilds hx)
  case shared =>
    rintro ⟨e, b⟩ hx ⟨f, c⟩ hy
    exact h.shared (List.forall₂_zip hbuilds hx) (List.forall₂_zip hbuilds hy)

end Plan

end MockBuilders
