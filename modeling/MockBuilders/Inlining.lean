import MockBuilders.Diagnostic
import MockBuilders.Event
import MockBuilders.Failure
import MockBuilders.Pointer
import MockBuilders.Schema.References

/-!
Inlining: every reference that leads to an entry is replaced by the inlined entry. References that
lead nowhere stay and are noted; a reference to an entry that is being inlined is a cycle.
Main statements: `expand_mk` and `expand_reference`, the equations of inlining.
-/
namespace MockBuilders

/-- A result, or the names of a cycle; and the pointers found to lead nowhere until then. -/
structure Expansion (α : Type) where
  missing : List String
  result : Except (List String) α

namespace Expansion

variable {α β : Type}

def bind (x : Expansion α) (f : α → Expansion β) : Expansion β :=
  match x.result with
  | .error cycle => ⟨x.missing, .error cycle⟩
  | .ok a =>
      let y := f a
      ⟨x.missing ++ y.missing, y.result⟩

instance : Monad Expansion where
  pure a := ⟨[], .ok a⟩
  bind := bind

@[simp] theorem pure_eq (a : α) : (pure a : Expansion α) = ⟨[], .ok a⟩ := rfl

@[simp] theorem bind_eq (x : Expansion α) (f : α → Expansion β) : x >>= f = x.bind f := rfl

theorem bind_ok (missing : List String) (a : α) (f : α → Expansion β) :
    (⟨missing, .ok a⟩ : Expansion α).bind f = ⟨missing ++ (f a).missing, (f a).result⟩ := rfl

instance : LawfulMonad Expansion :=
  LawfulMonad.mk' Expansion
    (fun ⟨_, r⟩ => by cases r <;> simp [Functor.map, bind])
    (fun _ _ => by simp [Bind.bind, bind])
    (fun ⟨_, r⟩ f g => by
      cases r with
      | error _ => rfl
      | ok a => cases h : (f a).result <;> simp [Bind.bind, bind, h])

end Expansion

namespace Schema

/-- What is to be done for one layer, given what is to be done for its children. -/
def substituteLayer (f : String → Members Json → Expansion Schema) :
    Kind (Unit → Expansion Schema) → Members Json → Unit → Expansion Schema
  | .reference pointer, extensions => fun _ => f pointer extensions
  | kind, extensions => fun _ => do return mk (← kind.traverse fun child => child ()) extensions

/-- Replaces every reference, given its pointer and its layer's extensions; after a cycle nothing
more is looked at. -/
def substitute (f : String → Members Json → Expansion Schema) (s : Schema) : Expansion Schema :=
  s.fold (substituteLayer f) ()

theorem substitute_reference (f : String → Members Json → Expansion Schema) (pointer : String)
    (extensions : Members Json) :
    substitute f (mk (.reference pointer) extensions) = f pointer extensions := by
  rw [substitute, fold_mk]
  rfl

theorem substitute_mk {f : String → Members Json → Expansion Schema} {kind : Kind Schema}
    {extensions : Members Json} (h : kind.pointer? = none) :
    substitute f (mk kind extensions) =
      (do return mk (← kind.traverse (substitute f)) extensions) := by
  have layer : ∀ k : Kind (Unit → Expansion Schema), k.pointer? = none →
      substituteLayer f k extensions () =
        (do return mk (← k.traverse fun child => child ()) extensions) := by
    intro k hk
    cases k <;> first | rfl | simp [Kind.pointer?] at hk
  rw [substitute, fold_mk, layer _ (by rw [Kind.pointer?_map, h]), Kind.traverse_map]
  rfl

end Schema

/-- The names of a cycle: those opened since the name was, and the name again. -/
def cycleOf (opened : List String) (key : String) : List String :=
  opened.dropWhile (· ≠ key) ++ [key]

/-- Entries whose inlining has not begun. -/
def unopened (entries : Members Schema) (opened : List String) : List String :=
  entries.keys.filter fun key => key ∉ opened

theorem unopened_lt {entries : Members Schema} {opened : List String} {key : String}
    (h : key ∈ entries.keys) (hk : key ∉ opened) :
    (unopened entries (opened ++ [key])).length < (unopened entries opened).length := by
  have hsub : unopened entries (opened ++ [key]) =
      (unopened entries opened).filter fun k => k ≠ key := by
    rw [unopened, unopened, List.filter_filter]
    refine List.filter_congr fun k _ => ?_
    by_cases hk : k = key <;> simp [hk]
  rw [hsub]
  refine List.length_filter_lt_length_iff_exists.2 ⟨key, ?_, by simp⟩
  exact List.mem_filter.2 ⟨h, by simpa using hk⟩

/-- Inlines a schema while the listed entries are open. Each entry that is opened leaves fewer to
open, so inlining ends for any entries. -/
def expand (entries : Members Schema) (opened : List String) (s : Schema) : Expansion Schema :=
  s.substitute fun pointer extensions =>
    match _h : Pointer.lookup? entries pointer with
    | none => ⟨[pointer], .ok (.mk (.reference pointer) extensions)⟩
    | some (key, target) =>
        if _hk : key ∈ opened then ⟨[], .error (cycleOf opened key)⟩
        else expand entries (opened ++ [key]) target
termination_by (unopened entries opened).length
decreasing_by
  refine unopened_lt ?_ ‹_›
  have := Pointer.get?_of_lookup? ‹_›
  exact Members.has_iff.1 (by rw [Members.has, this]; rfl)

/-- What stands in the place of a reference while the listed entries are open. -/
def follow (entries : Members Schema) (opened : List String) (pointer : String)
    (extensions : Members Json) : Expansion Schema :=
  match Pointer.lookup? entries pointer with
  | none => ⟨[pointer], .ok (.mk (.reference pointer) extensions)⟩
  | some (key, target) =>
      if key ∈ opened then ⟨[], .error (cycleOf opened key)⟩
      else expand entries (opened ++ [key]) target

theorem expand_eq (entries : Members Schema) (opened : List String) (s : Schema) :
    expand entries opened s = s.substitute (follow entries opened) := by
  rw [expand]
  congr 1
  funext pointer extensions
  unfold follow
  split
  · next h => rw [h]
  · next h => rw [h]; rfl

theorem expand_reference (entries : Members Schema) (opened : List String) (pointer : String)
    (extensions : Members Json) :
    expand entries opened (.mk (.reference pointer) extensions) =
      follow entries opened pointer extensions := by
  rw [expand_eq, Schema.substitute_reference]

theorem expand_mk {entries : Members Schema} {opened : List String} {kind : Kind Schema}
    {extensions : Members Json} (h : kind.pointer? = none) :
    expand entries opened (.mk kind extensions) =
      (do return .mk (← kind.traverse (expand entries opened)) extensions) := by
  rw [expand_eq, Schema.substitute_mk h]
  exact congrArg (fun f => kind.traverse f >>= fun k => pure (Schema.mk k extensions))
    (funext fun s => (expand_eq entries opened s).symm)

/-- What one call of inlining found, for the entry that owns the schema. -/
structure Inlined where
  owner : String
  unfollowed : List Unfollowed
  missing : List String
  result : Except Failure Schema

namespace Inlined

/-- Owner of schemas that are no entry. -/
def anonymous : String := "(inline)"

def ofExpansion (owner : String) (s : Schema) (x : Expansion Schema) : Inlined :=
  ⟨owner, s.unfollowed, x.missing, x.result.mapError (.cyclic owner)⟩

/-- Inlines an entry, which is open from the start. -/
def entry (entries : Members Schema) (name : String) (s : Schema) : Inlined :=
  ofExpansion name s (expand entries [name] s)

/-- Inlines a schema that is no entry. -/
def schema (entries : Members Schema) (s : Schema) : Inlined :=
  ofExpansion anonymous s (expand entries [] s)

def diagnostics (i : Inlined) : Diagnostics :=
  i.unfollowed.map (.unfollowed i.owner) ++ i.missing.map (.missing i.owner)

def events (i : Inlined) : List Event :=
  i.unfollowed.map (fun u => ⟨.warn, "Reference not followed",
    [("schema", i.owner), ("keyword", u.keyword), ("reference", u.pointer)]⟩) ++
  i.missing.map fun pointer => ⟨.warn, "Reference not found",
    [("schema", i.owner), ("reference", pointer)]⟩

end Inlined

/-- A request to inline a named entry, or a schema that is no entry. -/
inductive InliningCall where
  | entry (name : String) (s : Schema)
  | schema (s : Schema)

namespace InliningCall

def run (entries : Members Schema) : InliningCall → Inlined
  | entry name s => Inlined.entry entries name s
  | schema s => Inlined.schema entries s

def events (call : InliningCall) (result : Inlined) : List Event :=
  match call with
  | entry name _ => ⟨.debug, "resolving references", [("schema", name)]⟩ :: result.events
  | schema _ => result.events

end InliningCall

/-- Calls on the same entries, one after the other, with the diagnostics of all of them. -/
structure InliningSession where
  entries : Members Schema
  diagnostics : Diagnostics
  events : List Event

namespace InliningSession

def start (entries : Members Schema) : InliningSession := ⟨entries, [], []⟩

def call (s : InliningSession) (c : InliningCall) : Except Failure Schema × InliningSession :=
  let r := c.run s.entries
  (r.result, ⟨s.entries, s.diagnostics ++ r.diagnostics, s.events ++ c.events r⟩)

end InliningSession

end MockBuilders
