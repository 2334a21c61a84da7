import Mathlib
import MockBuilders.Proofs.Inlining.Success
import MockBuilders.Proofs.Members.Alike

/-!
What inlining makes of a schema: each reference that leads to an entry is replaced by that entry
as it is inlined on its own, whatever was open when the reference was met, and nothing else
changes. So entries may be inlined beforehand.
Main statement: `result_eq_replaceReferences`.
-/
namespace MockBuilders

namespace Schema

/-- Replaces every reference, given its pointer and its layer's extensions; all other layers stay
as they are. -/
def replaceReferences (f : String → Members Json → Schema) : Schema → Schema :=
  fold fun kind extensions =>
    match kind with
    | .reference pointer => f pointer extensions
    | kind => mk kind extensions

theorem replaceReferences_reference (f : String → Members Json → Schema) (pointer : String)
    (extensions : Members Json) :
    replaceReferences f (mk (.reference pointer) extensions) = f pointer extensions := by
  rw [replaceReferences, fold_mk]
  rfl

theorem replaceReferences_mk {f : String → Members Json → Schema} {kind : Kind Schema}
    {extensions : Members Json} (h : kind.pointer? = none) :
    replaceReferences f (mk kind extensions) =
      mk (kind.map (replaceReferences f)) extensions := by
  rw [replaceReferences, fold_mk]
  cases kind <;> first | rfl | simp [Kind.pointer?] at h

end Schema

/-- What a reference stands for: the entry that it leads to, inlined on its own, or itself. -/
def standIn (entries : Members Schema) (pointer : String) (extensions : Members Json) : Schema :=
  match Pointer.lookup? entries pointer with
  | none => .mk (.reference pointer) extensions
  | some (_, target) =>
      match (Inlined.schema entries target).result with
      | .ok r => r
      | .error _ => .mk (.reference pointer) extensions

variable {entries entries' : Members Schema} {opened opened' : List String} {s : Schema}

section Reference
variable {pointer : String} {extensions : Members Json}

theorem expand_dangling (h : Pointer.lookup? entries pointer = none) :
    expand entries opened (.mk (.reference pointer) extensions) =
      ⟨[pointer], .ok (.mk (.reference pointer) extensions)⟩ := by
  rw [expand_reference]
  simp only [follow, h]

theorem expand_followed {key : String} {target : Schema}
    (h : Pointer.lookup? entries pointer = some (key, target)) (hkey : key ∉ opened) :
    expand entries opened (.mk (.reference pointer) extensions) =
      expand entries (opened ++ [key]) target := by
  rw [expand_reference]
  simp only [follow, h, if_neg hkey]

end Reference

/-- Induction along the inlining of a schema that meets no cycle. -/
theorem expand_induct {P : List String → Schema → Prop}
    (dangling : ∀ opened pointer extensions, Pointer.lookup? entries pointer = none →
      P opened (.mk (.reference pointer) extensions))
    (followed : ∀ opened pointer extensions key target,
      Pointer.lookup? entries pointer = some (key, target) → key ∉ opened →
      (expand entries (opened ++ [key]) target).Succeeds → P (opened ++ [key]) target →
      P opened (.mk (.reference pointer) extensions))
    (layer : ∀ opened (kind : Kind Schema) extensions, kind.pointer? = none →
      (∀ c ∈ kind.children, (expand entries opened c).Succeeds ∧ P opened c) →
      P opened (.mk kind extensions))
    (h : (expand entries opened s).Succeeds) : P opened s := by
  -- the entries left to open bound the chain of references, the schema the descent between two
  induction hn : (unopened entries opened).length using Nat.strongRecOn
    generalizing opened s with
  | ind n ih =>
    induction s using Schema.induct with
    | h kind extensions ihs =>
      cases hk : kind.pointer? with
      | none =>
        have hchildren := (expand_mk_succeeds_iff hk).mp h
        exact layer opened kind extensions hk
          fun c hc => ⟨hchildren c hc, ihs c hc (hchildren c hc)⟩
      | some pointer =>
        obtain rfl := Kind.eq_reference_of_pointer? hk
        rw [expand_reference, follow_succeeds_iff] at h
        cases hlookup : Pointer.lookup? entries pointer with
        | none => exact dangling opened pointer extensions hlookup
        | some p =>
          obtain ⟨key, target⟩ := p
          obtain ⟨hkey, htarget⟩ := h key target hlookup
          have hmem := Members.mem_keys_of_get? (Pointer.get?_of_lookup? hlookup)
          refine followed opened pointer extensions key target hlookup hkey htarget ?_
          exact ih _ (hn ▸ unopened_lt hmem hkey) htarget rfl

/-- What is inlined while some entries are open is inlined alike while fewer are. -/
theorem expand_eq_of_subset (h : (expand entries opened s).Succeeds) (hsub : opened' ⊆ opened) :
    expand entries opened' s = expand entries opened s := by
  revert opened'
  refine expand_induct (P := fun opened s => ∀ {opened' : List String}, opened' ⊆ opened →
    expand entries opened' s = expand entries opened s) ?dangling ?followed ?layer h
  case dangling =>
    intro opened pointer extensions hlookup opened' _
    rw [expand_dangling hlookup, expand_dangling hlookup]
  case followed =>
    intro opened pointer extensions key target hlookup hkey _ ih opened' hsub
    have hkey' : key ∉ opened' := fun hmem => hkey (hsub hmem)
    rw [expand_followed hlookup hkey, expand_followed hlookup hkey']
    exact ih (List.append_subset.mpr ⟨List.subset_append_of_subset_left _ hsub,
      List.subset_append_right _ _⟩)
  case layer =>
    intro opened kind extensions hk hchildren opened' hsub
    rw [expand_mk hk, expand_mk hk, Kind.traverse_congr fun c hc => (hchildren c hc).2 hsub]

/-- An entry that is inlined where a reference leads to it is inlined on its own as well, and this
is what the reference stands for. -/
theorem standIn_followed {pointer key : String} {extensions : Members Json} {target r : Schema}
    (hlookup : Pointer.lookup? entries pointer = some (key, target))
    (h : (expand entries opened target).result = .ok r) :
    standIn entries pointer extensions = r := by
  have halone : expand entries [] target = expand entries opened target :=
    expand_eq_of_subset ⟨r, h⟩ (List.nil_subset _)
  simp only [standIn, hlookup, Inlined.schema, Inlined.ofExpansion, halone, h]
  rfl

theorem standIn_dangling {pointer : String} {extensions : Members Json}
    (hlookup : Pointer.lookup? entries pointer = none) :
    standIn entries pointer extensions = .mk (.reference pointer) extensions := by
  simp only [standIn, hlookup]

/-- A schema that meets no cycle is inlined by replacing its references and nothing else. -/
theorem result_expand (h : (expand entries opened s).Succeeds) :
    (expand entries opened s).result = .ok (s.replaceReferences (standIn entries)) := by
  refine expand_induct (P := fun opened s => (expand entries opened s).result =
    .ok (s.replaceReferences (standIn entries))) ?dangling ?followed ?layer h
  case dangling =>
    intro opened pointer extensions hlookup
    rw [expand_dangling hlookup, Schema.replaceReferences_reference, standIn_dangling hlookup]
  case followed =>
    intro opened pointer extensions key target hlookup hkey _ ih
    rw [expand_followed hlookup hkey, Schema.replaceReferences_reference,
      standIn_followed hlookup ih, ih]
  case layer =>
    intro opened kind extensions hk hchildren
    have htraverse := Kind.traverse_congr fun c hc => (hchildren c hc).2
    rw [result_expand_mk hk, htraverse, Schema.replaceReferences_mk hk]
    exact congrArg (Except.map _) (Kind.traverse_pure _ kind)

/-- Inlining an inlined schema again changes nothing and finds the same pointers to lead nowhere,
over any entries that have no more names. -/
theorem expand_replaceReferences (h : (expand entries opened s).Succeeds)
    (hnames : ∀ pointer, Pointer.lookup? entries pointer = none →
      Pointer.lookup? entries' pointer = none) :
    expand entries' opened' (s.replaceReferences (standIn entries)) = expand entries opened s := by
  refine expand_induct (P := fun opened s => expand entries' opened'
    (s.replaceReferences (standIn entries)) = expand entries opened s) ?dangling ?followed ?layer h
  case dangling =>
    intro opened pointer extensions hlookup
    rw [Schema.replaceReferences_reference, standIn_dangling hlookup, expand_dangling hlookup,
      expand_dangling (hnames pointer hlookup)]
  case followed =>
    intro opened pointer extensions key target hlookup hkey htarget ih
    rw [Schema.replaceReferences_reference, standIn_followed hlookup (result_expand htarget),
      expand_followed hlookup hkey, ih]
  case layer =>
    intro opened kind extensions hk hchildren
    have hmap : (kind.map (Schema.replaceReferences (standIn entries))).pointer? = none := by
      rw [Kind.pointer?_map, hk]
    rw [Schema.replaceReferences_mk hk, expand_mk hmap, expand_mk hk, Kind.traverse_map,
      Kind.traverse_congr fun c hc => (hchildren c hc).2]

/-- Entries of the same names, each as it was or inlined on its own. -/
def PartlyInlined (entries entries' : Members Schema) : Prop :=
  Members.Matched (fun s t => t = s ∨ (Inlined.schema entries s).result = .ok t) entries entries'

theorem Inlined.schema_eq_ok_iff {r : Schema} :
    (schema entries s).result = .ok r ↔ (expand entries [] s).result = .ok r :=
  ofExpansion_eq_ok_iff

namespace PartlyInlined

variable {pointer key : String} {target : Schema}

theorem lookup?_eq_none (h : PartlyInlined entries entries')
    (hlookup : Pointer.lookup? entries pointer = none) :
    Pointer.lookup? entries' pointer = none := by
  have hrel := Pointer.rel_lookup? h.get? pointer
  rw [hlookup] at hrel
  generalize Pointer.lookup? entries' pointer = found at hrel
  cases hrel
  rfl

theorem lookup?_eq_some (h : PartlyInlined entries entries')
    (hlookup : Pointer.lookup? entries pointer = some (key, target)) :
    ∃ t, Pointer.lookup? entries' pointer = some (key, t) ∧
      (t = target ∨ (Inlined.schema entries target).result = .ok t) := by
  have hrel := Pointer.rel_lookup? h.get? pointer
  rw [hlookup] at hrel
  obtain ⟨⟨name, t⟩, ht, hname, hinlined⟩ := exists_of_rel_some hrel
  obtain rfl : key = name := hname
  exact ⟨t, ht, hinlined⟩

end PartlyInlined

/-- Entries that are inlined beforehand make no difference to what meets no cycle. -/
theorem expand_eq_of_partlyInlined (hpartly : PartlyInlined entries entries')
    (h : (expand entries opened s).Succeeds) :
    expand entries' opened s = expand entries opened s := by
  refine expand_induct (P := fun opened s => expand entries' opened s = expand entries opened s)
    ?dangling ?followed ?layer h
  case dangling =>
    intro opened pointer extensions hlookup
    rw [expand_dangling hlookup, expand_dangling (hpartly.lookup?_eq_none hlookup)]
  case followed =>
    intro opened pointer extensions key target hlookup hkey htarget ih
    obtain ⟨t, hlookup', ht⟩ := hpartly.lookup?_eq_some hlookup
    rw [expand_followed hlookup hkey, expand_followed hlookup' hkey]
    rcases ht with rfl | ht
    · exact ih
    · have hresult := Inlined.schema_eq_ok_iff.mp ht
      have hreplaced := hresult.symm.trans (result_expand ⟨t, hresult⟩)
      rw [Except.ok.inj hreplaced]
      exact expand_replaceReferences htarget fun _ => hpartly.lookup?_eq_none
  case layer =>
    intro opened kind extensions hk hchildren
    rw [expand_mk hk, expand_mk hk, Kind.traverse_congr fun c hc => (hchildren c hc).2]

/-- A schema that can be inlined is inlined by replacing each reference that leads to an entry by
that entry, which can be inlined on its own and is so; references that lead nowhere and all other
layers stay as they are. The same comes out over entries of which any were inlined beforehand. -/
theorem result_eq_replaceReferences {r : Schema} (h : (Inlined.schema entries s).result = .ok r) :
    (∀ pointer ∈ s.references, ∀ key target,
      Pointer.lookup? entries pointer = some (key, target) →
        ∃ t, (Inlined.schema entries target).result = .ok t ∧
          ∀ extensions, standIn entries pointer extensions = t) ∧
    r = s.replaceReferences (standIn entries) ∧
    ∀ entries', PartlyInlined entries entries' → (Inlined.schema entries' s).result = .ok r := by
  have hresult := Inlined.schema_eq_ok_iff.mp h
  have hsucceeds : (expand entries [] s).Succeeds := ⟨r, hresult⟩
  refine ⟨?_, ?_, ?_⟩
  · intro pointer hpointer key target hlookup
    obtain ⟨-, htarget⟩ := expand_succeeds_iff.mp hsucceeds pointer hpointer key target hlookup
    obtain ⟨t, ht⟩ := htarget
    have halone := expand_eq_of_subset ⟨t, ht⟩ (List.nil_subset _)
    refine ⟨t, ?_, fun extensions => standIn_followed hlookup ht⟩
    rw [Inlined.schema_eq_ok_iff, halone, ht]
  · exact Except.ok.inj (hresult.symm.trans (result_expand hsucceeds))
  · intro entries' hpartly
    rw [Inlined.schema_eq_ok_iff, expand_eq_of_partlyInlined hpartly hsucceeds]
    exact hresult

/-- A name under an alias, and an alias for it that was inlined beforehand. -/
def directory : Members Schema := [("Alias", .ofPointer "#/x/Name"), ("Name", .ofPrimitive .string)]

def inlinedDirectory : Members Schema :=
  [("Alias", .ofPrimitive .string), ("Name", .ofPrimitive .string)]

/-- A record that refers to the alias and to an entry that there is not. -/
def card : Schema :=
  .mk (.object ⟨[("name", .ofPointer "Alias"), ("photo", .ofPointer "#/x/Photo")], ["name"], none⟩)
    [("title", .string "Card")]

def inlinedCard : Schema :=
  .mk (.object ⟨[("name", .ofPrimitive .string), ("photo", .ofPointer "#/x/Photo")], ["name"],
    none⟩) [("title", .string "Card")]

theorem replaceReferences_card : (Inlined.schema directory card).result = .ok inlinedCard ∧
    inlinedCard = card.replaceReferences (standIn directory) ∧
    (Inlined.schema inlinedDirectory card).result = .ok inlinedCard := by
  have halias : Pointer.lookup? directory "Alias" = some ("Alias", .ofPointer "#/x/Name") := by cbv
  have hname : Pointer.lookup? directory "#/x/Name" = some ("Name", .ofPrimitive .string) := by cbv
  have hphoto : Pointer.lookup? directory "#/x/Photo" = none := by cbv
  have hleaf : ∀ opened, expand directory opened (.ofPrimitive .string) =
      ⟨[], .ok (.ofPrimitive .string)⟩ := fun _ => expand_mk rfl
  have hexpand : expand directory [] card = ⟨["#/x/Photo"], .ok inlinedCard⟩ := by
    rw [card, expand_mk rfl]
    simp [Kind.traverse, Schema.ofPointer, expand_followed halias, expand_followed hname,
      expand_dangling hphoto, hleaf, Expansion.bind, inlinedCard]
  have h : (Inlined.schema directory card).result = .ok inlinedCard := by
    rw [Inlined.schema_eq_ok_iff, hexpand]
  have hinlined : (Inlined.schema directory (.ofPointer "#/x/Name")).result =
      .ok (.ofPrimitive .string) := by
    rw [Inlined.schema_eq_ok_iff, Schema.ofPointer, expand_followed hname List.not_mem_nil, hleaf]
  have hpartly : PartlyInlined directory inlinedDirectory :=
    .cons "Alias" (.inr hinlined) (.cons "Name" (.inl rfl) .nil)
  obtain ⟨-, hreplaced, hsame⟩ := result_eq_replaceReferences h
  exact ⟨h, hreplaced, hsame _ hpartly⟩

end MockBuilders
