import MockBuilders.Proofs.Generation.Outcome
import MockBuilders.Proofs.Inlining.KeyOrder
import MockBuilders.Proofs.Schema.KeyOrder

/-!
Neither the order of the entries nor that of the members of their payloads reaches a fingerprint.
Main statements: `Intake.wellFormed_document_addAll`, entries that are taken in have the distinct
names that this needs, and `fingerprint_of_reordered`.
-/
namespace MockBuilders

namespace Intake

/-- The entries taken in, as the members of one object. -/
def document (i : Intake) : Json := .object (i.entries.mapValues .object)

theorem wellFormed_document_iff {i : Intake} : i.document.WellFormed ↔
    i.entries.Distinct ∧ ∀ e ∈ i.entries, (Json.object e.2).WellFormed := by
  rw [document, Json.wellFormed_object_iff, Members.Distinct, Members.keys_mapValues,
    Members.mapValues, List.forall_mem_map]
  rfl

/-- Whatever is offered, each name is taken in once, and names stay distinct inside payloads. -/
theorem wellFormed_document_addAll {i : Intake} (h : i.document.WellFormed)
    {offered : List (String × Json)} (hoffered : ∀ e ∈ offered, e.2.WellFormed) :
    (i.addAll offered).document.WellFormed := by
  unfold addAll
  induction offered generalizing i with
  | nil => exact h
  | cons e offered ih =>
    obtain ⟨he, hrest⟩ := List.forall_mem_cons.mp hoffered
    refine ih ?_ hrest
    obtain ⟨name, payload⟩ := e
    cases payload with
    | object m =>
      obtain ⟨hd, hpayloads⟩ := wellFormed_document_iff.mp h
      refine wellFormed_document_iff.mpr ⟨hd.put name m, fun p hp => ?_⟩
      rcases Members.mem_put hp with rfl | hp
      · exact he
      · exact hpayloads p hp
    | null | bool _ | number _ | string _ | array _ => exact h

variable {i j : Intake}

theorem ReadsAs.matched {schemas : Members Schema} (h : i.ReadsAs schemas) :
    Members.Matched (fun m s => Schema.ofJson (.object m) = .ok s) i.entries schemas :=
  Members.matched_iff.mpr (h.imp fun _ _ hps => ⟨hps.1.symm, hps.2⟩)

theorem exists_readsAs_iff : (∃ schemas, i.ReadsAs schemas) ↔
    ∀ e ∈ i.entries, ∃ s, Schema.ofJson (.object e.2) = .ok s := by
  constructor
  · rintro ⟨schemas, h⟩ e he
    obtain ⟨p, -, -, hs⟩ := exists_right_of_mem h he
    exact ⟨p.2, hs⟩
  · intro h
    apply exists_forall₂
    intro e he
    obtain ⟨s, hs⟩ := h e he
    exact ⟨(e.1, s), rfl, hs⟩

theorem alike_entries (h : i.document.Alike j.document) :
    Members.Alike (fun m n => (Json.object m).Alike (.object n)) i.entries j.entries := by
  obtain ⟨hi, -⟩ := wellFormed_document_iff.mp h.left
  obtain ⟨hj, -⟩ := wellFormed_document_iff.mp h.right
  refine .mk hi hj fun key => ?_
  have hrel := (Json.alike_object_iff.mp h).get? key
  rw [Members.get?_mapValues, Members.get?_mapValues] at hrel
  generalize i.entries.get? key = a at hrel ⊢
  generalize j.entries.get? key = b at hrel ⊢
  cases a with
  | none =>
    cases b with
    | none => exact .none
    | some n => cases hrel
  | some m =>
    cases b with
    | none => cases hrel
    | some n =>
      cases hrel with
      | some hmn => exact .some hmn

/-- Collections that are equal up to order are both read, as alike schemas, or both refused. -/
theorem agree_schemas (h : i.document.Alike j.document) :
    Agree (Members.Alike Schema.Alike) i.schemas j.schemas := by
  have hentries := alike_entries h
  have hread {m n : Members Json} (hmn : (Json.object m).Alike (.object n)) :
      Agree Schema.Alike (Schema.ofJson (.object m)) (Schema.ofJson (.object n)) :=
    Schema.agree_read hmn "#" "#"
  apply agree_of
  · simp only [schemas_eq_ok_iff, exists_readsAs_iff]
    constructor
    · intro hok f hf
      obtain ⟨e, he, -, hef⟩ := hentries.flip.exists_right_of_mem hf
      exact (hread hef).exists_ok_iff.mp (hok e he)
    · intro hok e he
      obtain ⟨f, hf, -, hef⟩ := hentries.exists_right_of_mem he
      exact (hread hef).exists_ok_iff.mpr (hok f hf)
  · intro ss ts hss hts
    have hi := (schemas_eq_ok_iff.mp hss).matched
    have hj := (schemas_eq_ok_iff.mp hts).matched
    refine ⟨?_, ?_, fun key => ?_⟩
    · rw [Members.Distinct, ← hi.keys]
      exact hentries.left
    · rw [Members.Distinct, ← hj.keys]
      exact hentries.right
    · refine rel_square (hentries.get? key) (hi.get? key) (hj.get? key) ?_
      exact fun m _ n _ s t hmn hs ht => (hread hmn).rel hs ht

end Intake

/-- Alike schemas have one canonical text in canonical form, and so one fingerprint. -/
theorem Schema.Alike.canonicalText_eq {s t : Schema} (h : s.Alike t) :
    s.canonical.toJson.canonicalText = t.canonical.toJson.canonicalText := by
  rw [Json.canonicalText, Json.canonicalText, h.canonical.toJson.sorted_eq]

/-- Take two collections of entries that are equal up to the order of the entries and of members
at any depth. Both are read or none is; an entry can be inlined in both or in none; and then it
has the same canonical text in both, and the same fingerprint. -/
theorem fingerprint_of_reordered {i j : Intake} (hi : i.document.WellFormed)
    (hj : j.document.WellFormed) (h : i.document.Reordered j.document) :
    ((∃ ss, i.schemas = .ok ss) ↔ ∃ ts, j.schemas = .ok ts) ∧
    ∀ ss ts, i.schemas = .ok ss → j.schemas = .ok ts → ∀ name,
      ((∃ s, ss.get? name = some s) ↔ ∃ t, ts.get? name = some t) ∧
      ∀ s t, ss.get? name = some s → ts.get? name = some t →
        ((∃ r, (Inlined.entry ss name s).result = .ok r) ↔
          ∃ r, (Inlined.entry ts name t).result = .ok r) ∧
        ∀ r r', (Inlined.entry ss name s).result = .ok r →
          (Inlined.entry ts name t).result = .ok r' →
          (CanonicalEntry.ofSchema name r).schema.toJson.canonicalText =
            (CanonicalEntry.ofSchema name r').schema.toJson.canonicalText ∧
          (CanonicalEntry.ofSchema name r).fingerprint =
            (CanonicalEntry.ofSchema name r').fingerprint := by
  have hschemas := Intake.agree_schemas (Json.alike_iff_reordered.mpr ⟨hi, hj, h⟩)
  refine ⟨hschemas.exists_ok_iff, fun ss ts hss hts name => ?_⟩
  have hst := hschemas.rel hss hts
  have hname := hst.get? name
  refine ⟨?_, fun s t hs ht => ?_⟩
  · rw [← Option.isSome_iff_exists, ← Option.isSome_iff_exists, isSome_eq_of_rel hname]
  · rw [hs, ht] at hname
    have hinlined : Agree Schema.Alike (Inlined.entry ss name s).result
        (Inlined.entry ts name t).result := by
      cases hname with
      | some hname => exact Inlined.agree_entry hst name hname
    refine ⟨hinlined.exists_ok_iff, fun r r' hr hr' => ?_⟩
    have htext := (hinlined.rel hr hr').canonicalText_eq
    refine ⟨htext, ?_⟩
    change Fingerprint.ofJson r.canonical.toJson = Fingerprint.ofJson r'.canonical.toJson
    rw [Fingerprint.ofJson, Fingerprint.ofJson, htext]

/-- A pet that refers to its owner, taken in before the owner and after. -/
def households : Intake × Intake :=
  let owner : Json := .object [("$ref", .string "Owner")]
  let tag : Json := .object [("type", .string "string")]
  (⟨[("Pet", [("type", .string "object"),
      ("properties", .object [("owner", owner), ("tag", tag)])]),
    ("Owner", [("type", .string "string"), ("title", .string "Name")])]⟩,
  ⟨[("Owner", [("title", .string "Name"), ("type", .string "string")]),
    ("Pet", [("properties", .object [("tag", tag), ("owner", owner)]),
      ("type", .string "object")])]⟩)

/-- The schemas of the first of both. -/
def householdSchemas : Members Schema :=
  [("Pet", .mk (.object ⟨[("owner", .ofPointer "Owner"), ("tag", .ofPrimitive .string)], [],
    none⟩) []),
  ("Owner", .mk (.leaf ⟨[.string], none, none⟩) [("title", .string "Name")])]

theorem fingerprint_households :
    households.1.document.WellFormed ∧ households.2.document.WellFormed ∧
    households.1.document.Reordered households.2.document ∧
    ∃ ss ts s t r r', households.1.schemas = .ok ss ∧ households.2.schemas = .ok ts ∧
      ss.get? "Pet" = some s ∧ ts.get? "Pet" = some t ∧
      (Inlined.entry ss "Pet" s).result = .ok r ∧ (Inlined.entry ts "Pet" t).result = .ok r' ∧
      (CanonicalEntry.ofSchema "Pet" r).fingerprint =
        (CanonicalEntry.ofSchema "Pet" r').fingerprint := by
  have hleft : households.1.document.WellFormed := by
    simp [households, Intake.document, Json.WellFormed, Json.WellFormedMembers,
      Members.Distinct, Members.mapValues, Members.keys]
  have hright : households.2.document.WellFormed := by
    simp [households, Intake.document, Json.WellFormed, Json.WellFormedMembers,
      Members.Distinct, Members.mapValues, Members.keys]
  have hreordered : households.1.document.Reordered households.2.document := by
    have hstring (key text : String) : Members.Matched Json.Reordered
        [(key, .string text)] [(key, .string text)] := .cons key (.string text) .nil
    have hproperties : Members.Matched Json.Reordered _ _ :=
      .cons "owner" (.object (hstring "$ref" "Owner") (.refl _))
        (.cons "tag" (.object (hstring "type" "string") (.refl _)) .nil)
    have hpet : Members.Matched Json.Reordered _ _ :=
      .cons "type" (.string "object") (.cons "properties" (.object hproperties (.swap _ _ _)) .nil)
    have howner : Members.Matched Json.Reordered _ _ :=
      .cons "type" (.string "string") (hstring "title" "Name")
    exact .object (.cons "Pet" (.object hpet (.swap _ _ _))
      (.cons "Owner" (.object howner (.swap _ _ _)) .nil)) (.swap _ _ _)
  have h := fingerprint_of_reordered hleft hright hreordered
  have hschemas : households.1.schemas = .ok householdSchemas := by cbv
  have hacyclic : (ReferenceGraph.ofEntries householdSchemas).checkAcyclic = .ok () := by cbv
  have hs : householdSchemas.get? "Pet" = some _ := rfl
  have hsucceeds := (acyclic_iff_succeeds (by decide)).mp
    (checkAcyclic_ofEntries_eq_ok_iff.mp hacyclic) "Pet" _ hs
  obtain ⟨ts, hts⟩ := h.1.mp ⟨_, hschemas⟩
  obtain ⟨hnames, hentry⟩ := h.2 _ ts hschemas hts "Pet"
  obtain ⟨t, ht⟩ := hnames.mp ⟨_, hs⟩
  obtain ⟨hinlined, hequal⟩ := hentry _ t hs ht
  obtain ⟨r, hr⟩ : ∃ r, (Inlined.entry householdSchemas "Pet" _).result = .ok r :=
    Inlined.exists_result_eq_ok_iff.mpr hsucceeds
  obtain ⟨r', hr'⟩ := hinlined.mp ⟨r, hr⟩
  exact ⟨hleft, hright, hreordered, _, ts, _, t, r, r', hschemas, hts, hs, ht, hr, hr',
    (hequal r r' hr hr').2⟩

end MockBuilders
