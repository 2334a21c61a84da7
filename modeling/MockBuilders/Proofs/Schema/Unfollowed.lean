import MockBuilders.Proofs.Schema.Followed
import MockBuilders.Proofs.Schema.Layers
import MockBuilders.Schema.References

/-!
References under keywords that are kept aside. A keyword of structure is among them exactly where
other keywords of its object keep it from being followed, such as properties beside items that are
combined by `and`.
Main statements: `Schema.structure_followed_iff` and `Schema.bundle_keeps_properties`.
-/
namespace MockBuilders

namespace Kind

variable {σ τ : Type} {R : σ → τ → Prop} {k : Kind σ} {l : Kind τ}

theorem Pointwise.pointer?_eq (h : k.Pointwise R l) : k.pointer? = l.pointer? := by
  rw [← pointer?_map (fun _ => ()) k, h.form_eq, pointer?_map]

end Kind

namespace Outline

variable {m : Members Json} {o : Outline}

theorem pointer?_of_ofMembers (ho : ofMembers m = .ok o) : o.kind.pointer? = textAt m "$ref" := by
  cases rule_of_ofMembers ho with
  | reference hpointer => exact hpointer.symm
  | variants hpointer _ => exact hpointer.symm
  | enumeration hpointer _ _ => exact hpointer.symm
  | array hno _ =>
    rw [hno.pointer]
    unfold ofArray
    dsimp only
    split
    · rfl
    · split <;> rfl
    · rfl
  | itemList hno _ _ =>
    rw [hno.pointer]
    unfold ofItemList
    dsimp only
    split <;> rfl
  | shaped hno h =>
    rw [hno.pointer]
    cases h <;> rfl

end Outline

namespace Schema

variable {s t : Schema} {p : String} {e : Members Json}

theorem mem_references_iff : p ∈ s.references ↔ ∃ t, s.Contains t ∧ t.kind.pointer? = some p := by
  induction s using Schema.induct with
  | h kind e ih =>
    rw [references_mk, List.mem_append, Option.mem_toList, List.mem_flatMap]
    constructor
    · rintro (h | ⟨c, hc, h⟩)
      · exact ⟨_, .self _, h⟩
      · obtain ⟨t, ht, h⟩ := (ih c hc).mp h
        exact ⟨t, .child hc ht, h⟩
    · rintro ⟨t, ht, h⟩
      cases ht with
      | self _ => exact .inl h
      | child hc ht => exact .inr ⟨_, hc, (ih _ hc).mpr ⟨t, ht, h⟩⟩

theorem mem_unfollowed_iff {u : Unfollowed} :
    u ∈ s.unfollowed ↔ ∃ t, s.Contains t ∧ u ∈ unfollowedIn t.extensions := by
  induction s using Schema.induct with
  | h kind e ih =>
    rw [unfollowed_mk, List.mem_append, List.mem_flatMap]
    constructor
    · rintro (h | ⟨c, hc, h⟩)
      · exact ⟨_, .self _, h⟩
      · obtain ⟨t, ht, h⟩ := (ih c hc).mp h
        exact ⟨t, .child hc ht, h⟩
    · rintro ⟨t, ht, h⟩
      cases ht with
      | self _ => exact .inl h
      | child hc ht => exact .inr ⟨_, hc, (ih _ hc).mpr ⟨t, ht, h⟩⟩

theorem mem_unfollowedIn_iff {u : Unfollowed} : u ∈ unfollowedIn e ↔
    isData u.keyword = false ∧ ∃ value, (u.keyword, value) ∈ e ∧ u.pointer ∈ value.pointers := by
  rw [unfollowedIn, List.mem_flatMap]
  constructor
  · rintro ⟨⟨keyword, value⟩, hmem, hu⟩
    split at hu
    · cases hu
    · next hdata =>
      obtain ⟨pointer, hpointer, rfl⟩ := List.mem_map.mp hu
      exact ⟨by simpa using hdata, value, hmem, hpointer⟩
  · rintro ⟨hdata, value, hmem, hpointer⟩
    refine ⟨(u.keyword, value), hmem, ?_⟩
    rw [hdata]
    exact List.mem_map_of_mem hpointer

/-- Each value that is read with another is read as a layer of what the other is read as. -/
theorem exists_contains_of_reads {pointer : String} {v w : Json} (h : read pointer v = .ok s)
    (hw : v.Reads w) : ∃ q t, s.Contains t ∧ read q w = .ok t := by
  induction hw generalizing pointer s with
  | self v => exact ⟨pointer, s, .self s, h⟩
  | @part m o p w ho hp _ ih =>
    obtain ⟨o', k, ho', hk, rfl⟩ := read_object_eq_ok_iff.mp h
    obtain rfl := Except.ok.inj (ho.symm.trans ho')
    obtain ⟨c, hc, hread⟩ := exists_right_of_mem hk.children hp
    obtain ⟨q, t, ht, hq⟩ := ih hread
    exact ⟨q, t, .child hc ht, hq⟩

/-- Keywords whose schemas make the structure of a layer. -/
def structureKeywords : List String :=
  ["properties", "items", "additionalProperties", "allOf", "anyOf", "oneOf"]

theorem structureKeywords_subset : structureKeywords ⊆ Json.schemaKeywords := by
  decide

theorem isData_of_schemaKeyword : ∀ keyword ∈ Json.schemaKeywords, isData keyword = false := by
  decide

/-- A schema keeps no reference aside under a keyword of structure, other than beside a reference,
if and only if such a keyword is followed in each object that is read and has a reference in it. -/
theorem structure_followed_iff {v : Json} (hv : v.WellFormed) (h : ofJson v = .ok s) :
    (∀ t, s.Contains t → t.kind.pointer? = none →
      ∀ u ∈ unfollowedIn t.extensions, u.keyword ∉ structureKeywords) ↔
    ∀ m : Members Json, v.Reads (.object m) → Outline.textAt m "$ref" = none →
      ∀ keyword ∈ structureKeywords, ∀ value, m.get? keyword = some value → value.pointers ≠ [] →
        Outline.Follows m keyword := by
  constructor
  · intro hnone m hm hpointer keyword hkeyword value hvalue hreference
    by_contra hfollows
    obtain ⟨q, t, ht, hread⟩ := exists_contains_of_reads h hm
    obtain ⟨o, k, ho, hk, rfl⟩ := read_object_eq_ok_iff.mp hread
    have hdistinct := (Json.wellFormed_object_iff.mp (hm.wellFormed hv)).1
    have hkept := Outline.get?_of_not_follows hdistinct ho (structureKeywords_subset hkeyword)
      hfollows
    obtain ⟨reference, hreference⟩ := List.exists_mem_of_ne_nil _ hreference
    refine hnone _ ht ?_ ⟨keyword, reference⟩ (mem_unfollowedIn_iff.mpr ⟨?_, value, ?_, hreference⟩)
      hkeyword
    · exact hk.pointer?_eq.symm.trans ((Outline.pointer?_of_ofMembers ho).trans hpointer)
    · exact isData_of_schemaKeyword keyword (structureKeywords_subset hkeyword)
    · exact Members.mem_of_get? (hkept.trans hvalue)
  · intro hfollows t ht hpointer u hu hkeyword
    obtain ⟨-, value, hvalue, hreference⟩ := mem_unfollowedIn_iff.mp hu
    obtain ⟨q, w, hw, hread⟩ := exists_reads_of_contains h ht
    rcases read_cases hread with rfl | rfl | ⟨m, rfl⟩
    · cases hvalue
    · cases (show u ∈ ([] : List Unfollowed) from hu)
    · obtain ⟨o, k, ho, hk, rfl⟩ := read_object_eq_ok_iff.mp hread
      have hdistinct := (Json.wellFormed_object_iff.mp (hw.wellFormed hv)).1
      have hkept := (Members.get?_eq_some_iff (tidy_of_read hv h ht).distinct).mpr hvalue
      have hnone := (Outline.pointer?_of_ofMembers ho).symm.trans (hk.pointer?_eq.trans hpointer)
      -- had the keyword not been followed, its value would be the one that was found in the object
      have hfollowed : Outline.Follows m u.keyword := by
        by_contra hnot
        have hsame := Outline.get?_of_not_follows hdistinct ho (structureKeywords_subset hkeyword)
          hnot
        exact hnot (hfollows m hw hnone _ hkeyword value (hsame.symm.trans hkept)
          (List.ne_nil_of_mem hreference))
      have habsent := Outline.get?_of_follows hdistinct ho hfollowed
      cases habsent.symm.trans hkept

section Listing

def listingAlternatives : Members Json :=
  [("anyOf", .array [.object [("$ref", .string "#/x/Page")]])]

def listingTags : Members Json := [("items", .object [("$ref", .string "#/x/Tag")])]

def listingProperties : Members Json :=
  [("properties", .object [("tags", .object listingTags)])]

/-- Properties beside alternatives. -/
def listing : Members Json := listingAlternatives ++ listingProperties

def listingSchema : Schema :=
  mk (.allOf [
    mk (.object ⟨[("tags", mk (.arrayOf (ofPointer "#/x/Tag")) [])], [], none⟩) [],
    mk (.choice .anyOf [ofPointer "#/x/Page"]) []]) []

/-- Each keyword of the listing is followed, but for references. -/
theorem listing_follows : ∀ m : Members Json, (Json.object listing).Reads (.object m) →
    Outline.textAt m "$ref" = none → ∀ keyword ∈ m.keys, Outline.Follows m keyword := by
  have hlisting : Outline.ofMembers listing = .ok ⟨.allOf [⟨"", .object listingProperties⟩,
    ⟨"", .object listingAlternatives⟩], []⟩ := rfl
  have hproperties : Outline.ofMembers listingProperties = .ok ⟨.object
    ⟨[("tags", ⟨"/properties/tags", .object listingTags⟩)], [], none⟩, []⟩ := rfl
  have htags : Outline.ofMembers listingTags =
    .ok ⟨.arrayOf ⟨"/items", .object [("$ref", .string "#/x/Tag")]⟩, []⟩ := rfl
  have halternatives : Outline.ofMembers listingAlternatives = .ok ⟨.choice .anyOf
    [⟨"/anyOf/0", .object [("$ref", .string "#/x/Page")]⟩], []⟩ := rfl
  have hreference : ∀ pointer, Outline.ofMembers [("$ref", .string pointer)] =
    .ok ⟨.reference pointer, []⟩ := fun _ => rfl
  have hbeside : ∀ {pointer} {P : Prop},
      Outline.textAt [("$ref", .string pointer)] "$ref" = none → P := fun h => by cases h
  have hchoice : ∀ {m branches}, Outline.NoItems m → Outline.choice? m = some (.anyOf, branches) →
    Outline.Follows m "anyOf" := fun hno hchoice => .choice hno hchoice
  have hno : Outline.NoItems listing := ⟨⟨rfl, by decide, rfl⟩, rfl, rfl⟩
  simp only [Json.forall_reads_object_iff hlisting, Json.forall_reads_object_iff hproperties,
    Json.forall_reads_object_iff halternatives, Json.forall_reads_object_iff htags,
    Json.forall_reads_object_iff (hreference _), Kind.children, ObjectShape.children,
    List.forall_mem_cons, List.map_cons, List.map_nil, List.cons_append, List.nil_append,
    Option.toList_none, List.not_mem_nil, false_implies, implies_true, and_true]
  refine ⟨fun _ => ?_, ⟨fun _ => ?_, fun _ => ?_, hbeside⟩, fun _ => ?_, hbeside⟩
  · exact List.forall_mem_cons.mpr
      ⟨hchoice hno rfl, List.forall_mem_singleton.mpr (.properties hno)⟩
  · exact List.forall_mem_singleton.mpr (.properties ⟨⟨rfl, by decide, rfl⟩, rfl, rfl⟩)
  · exact List.forall_mem_singleton.mpr (.items rfl (.inr rfl))
  · exact List.forall_mem_singleton.mpr (hchoice ⟨⟨rfl, by decide, rfl⟩, rfl, rfl⟩ rfl)

theorem listing_structure_followed : (Json.object listing).WellFormed ∧
    ofJson (.object listing) = .ok listingSchema ∧
    ∀ t, listingSchema.Contains t → t.kind.pointer? = none →
      ∀ u ∈ unfollowedIn t.extensions, u.keyword ∉ structureKeywords := by
  have hwellFormed : (Json.object listing).WellFormed := by
    simp [listing, listingAlternatives, listingProperties, listingTags, Json.WellFormed,
      Json.WellFormedMembers, Json.WellFormedItems, Members.Distinct, Members.keys]
  have hread : ofJson (.object listing) = .ok listingSchema := by
    refine read_object_eq_ok_iff.mpr ⟨_, _, rfl, .allOf (.cons ?_ (.cons ?_ .nil)), rfl⟩
    · refine read_object_eq_ok_iff.mpr ⟨_, _, rfl, .object _ (.cons ⟨rfl, ?_⟩ .nil) .none, rfl⟩
      refine read_object_eq_ok_iff.mpr ⟨_, _, rfl, .arrayOf ?_, rfl⟩
      exact read_ofPointer _ _
    · refine read_object_eq_ok_iff.mpr ⟨_, _, rfl, .choice _ (.cons ?_ .nil), rfl⟩
      exact read_ofPointer _ _
  refine ⟨hwellFormed, hread, (structure_followed_iff hwellFormed hread).mpr ?_⟩
  intro m hm hpointer keyword _ value hvalue _
  exact listing_follows m hm hpointer keyword (Members.mem_keys_of_get? hvalue)

end Listing

section Bundle

/-- Items that are combined by `and`, with properties beside them. -/
def bundle : Json :=
  .object [("type", .string "object"),
    ("items", .array [.object [("$ref", .string "#/components/schemas/A")]]),
    ("logicalOperator", .string "and"),
    ("properties", .object [("a", .object [("$ref", .string "#/components/schemas/B")])])]

def bundleSchema : Schema :=
  mk (.allOf [ofPointer "#/components/schemas/A"]) [("type", .string "object"),
    ("properties", .object [("a", .object [("$ref", .string "#/components/schemas/B")])])]

theorem bundle_keeps_properties : bundle.WellFormed ∧ ofJson bundle = .ok bundleSchema ∧
    bundleSchema.kind.pointer? = none ∧
    ⟨"properties", "#/components/schemas/B"⟩ ∈ unfollowedIn bundleSchema.extensions ∧
    ¬ ∀ t, bundleSchema.Contains t → t.kind.pointer? = none →
      ∀ u ∈ unfollowedIn t.extensions, u.keyword ∉ structureKeywords := by
  have hkept : ⟨"properties", "#/components/schemas/B"⟩ ∈ unfollowedIn bundleSchema.extensions :=
    List.mem_singleton_self _
  refine ⟨?_, ?_, rfl, hkept, fun h => ?_⟩
  · simp [bundle, Json.WellFormed, Json.WellFormedMembers, Json.WellFormedItems, Members.Distinct,
      Members.keys]
  · refine read_object_eq_ok_iff.mpr ⟨_, _, rfl, .allOf (.cons ?_ .nil), rfl⟩
    exact read_ofPointer _ _
  · exact h _ (.self _) rfl _ hkept (by decide)

end Bundle

end Schema

end MockBuilders
