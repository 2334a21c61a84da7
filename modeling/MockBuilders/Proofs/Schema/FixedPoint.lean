import MockBuilders.Proofs.Schema.Rereading

/-!
A canonical schema that is written is read again as a schema whose canonical form is written in the
same way, if what is kept beside its layers is inert. A layer that keeps properties aside, where its
kind would be read together with them, is read as another one.
Main statements: `Schema.exists_ofJson_canonical_toJson` and
`Schema.canonical_gathered_not_reordered`.
-/
namespace MockBuilders.Schema

theorem wellFormed_canonical_toJson {v : Json} {s : Schema} (hv : v.WellFormed)
    (h : ofJson v = .ok s) : s.canonical.toJson.WellFormed :=
  ((agree_read (.refl hv) "#" "#").rel h h).canonical.toJson.left

/-- A canonical schema all of whose extensions are inert is a fixed point of writing, reading and
bringing into canonical form. -/
theorem exists_ofJson_canonical_toJson {v : Json} {s : Schema} (hv : v.WellFormed)
    (h : ofJson v = .ok s) (hinert : ∀ t, s.canonical.Contains t → t.kind.Inert t.extensions) :
    ∃ t, ofJson s.canonical.toJson = .ok t ∧
      t.canonical.toJson.Reordered s.canonical.toJson := by
  have htidy := tidy_canonical fun t => tidy_of_read hv h
  obtain ⟨t, hread, hst⟩ := exists_read_toJson (wellFormed_canonical_toJson hv h) htidy hinert
  refine ⟨t, hread _, ?_⟩
  rw [(hst.normal (normal_canonical s)).canonical_eq]
  exact hst.written.symm.reordered

section Notice

/-- Two objects to be merged, one of them with items of two types. -/
def noticeValue : Json :=
  .object [("allOf", .array [
      .object [("properties", .object [("title", .object [("type", .string "string")])])],
      .object [("properties", .object [("tags", .object [("type", .string "array"), ("items",
          .array [.object [("type", .string "string")], .object [("type", .string "integer")]])])]),
        ("required", .array [.string "tags"])]]),
    ("description", .string "A notice")]

def noticeSchema : Schema :=
  mk (.allOf [mk (.object ⟨[("title", ofPrimitive .string)], [], none⟩) [],
      mk (.object ⟨[("tags", mk (.mixedArray [ofPrimitive .string, ofPrimitive .integer]) [])],
        ["tags"], none⟩) []])
    [("description", .string "A notice")]

def canonicalNotice : Schema :=
  mk (.object ⟨[("title", ofPrimitive .string),
      ("tags", mk (.arrayOf (mk (.leaf ⟨[.string, .integer], none, none⟩) [])) [])],
      ["tags"], none⟩)
    [("description", .string "A notice")]

theorem exists_ofJson_canonicalNotice : noticeValue.WellFormed ∧
    ofJson noticeValue = .ok noticeSchema ∧ noticeSchema.canonical = canonicalNotice ∧
    (∀ t, canonicalNotice.Contains t → t.kind.Inert t.extensions) ∧
    ∃ t, ofJson canonicalNotice.toJson = .ok t ∧
      t.canonical.toJson.Reordered canonicalNotice.toJson := by
  have hwellFormed : noticeValue.WellFormed := by
    simp [noticeValue, Json.WellFormed, Json.WellFormedMembers, Json.WellFormedItems,
      Members.Distinct, Members.keys]
  have hread : ofJson noticeValue = .ok noticeSchema := by
    refine read_object_eq_ok_iff.mpr ⟨_, _, rfl, .allOf (.cons ?_ (.cons ?_ .nil)), rfl⟩
    · refine read_object_eq_ok_iff.mpr ⟨_, _, rfl, .object _ (.cons ⟨rfl, ?_⟩ .nil) .none, rfl⟩
      exact read_ofPrimitive _ .string
    · refine read_object_eq_ok_iff.mpr ⟨_, _, rfl, .object _ (.cons ⟨rfl, ?_⟩ .nil) .none, rfl⟩
      refine read_object_eq_ok_iff.mpr ⟨_, _, rfl, .mixedArray (.cons ?_ (.cons ?_ .nil)), rfl⟩
      · exact read_ofPrimitive _ .string
      · exact read_ofPrimitive _ .integer
  have hcanonical : noticeSchema.canonical = canonicalNotice := rfl
  have hinert : ∀ t, canonicalNotice.Contains t → t.kind.Inert t.extensions := by
    simp only [canonicalNotice, ofPrimitive, forall_contains_mk_iff, Kind.children,
      ObjectShape.children, List.map_cons, List.map_nil, Option.toList_none, List.append_nil,
      List.forall_mem_cons, List.not_mem_nil, false_implies, implies_true, and_true]
    simp [Kind.Inert, kind, extensions, Outline.listAt, Outline.choice?, Outline.additionalAt,
      Members.get?, Members.has]
  have h := exists_ofJson_canonical_toJson hwellFormed hread (hcanonical ▸ hinert)
  rw [hcanonical] at h
  exact ⟨hwellFormed, hread, hcanonical, hinert, h⟩

end Notice

section Gathered

/-- Items that are combined by `and`, with properties beside them. -/
def gatheredValue : Json :=
  .object [("items", .array [.object [("$ref", .string "#/x/Entry")]]),
    ("logicalOperator", .string "and"),
    ("properties", .object [("title", .object [("type", .string "string")])])]

def gatheredSchema : Schema :=
  mk (.allOf [ofPointer "#/x/Entry"])
    [("properties", .object [("title", .object [("type", .string "string")])])]

/-- What is read of the canonical form: the properties are a branch of their own. -/
def regathered : Schema :=
  mk (.allOf [mk (.object ⟨[("title", ofPrimitive .string)], [], none⟩) [],
    ofPointer "#/x/Entry"]) []

theorem canonical_gathered_not_reordered : gatheredValue.WellFormed ∧
    ofJson gatheredValue = .ok gatheredSchema ∧
    ¬ ∃ t, ofJson gatheredSchema.canonical.toJson = .ok t ∧
      t.canonical.toJson.Reordered gatheredSchema.canonical.toJson := by
  have hread : ofJson gatheredValue = .ok gatheredSchema := by
    refine read_object_eq_ok_iff.mpr ⟨_, _, rfl, .allOf (.cons ?_ .nil), rfl⟩
    exact read_ofPointer _ _
  have hreread : ofJson gatheredSchema.canonical.toJson = .ok regathered := by
    have hwritten : gatheredSchema.canonical.toJson = .object [
        ("allOf", .array [.object [("$ref", .string "#/x/Entry")]]),
        ("properties", .object [("title", .object [("type", .string "string")])])] := rfl
    rw [hwritten]
    refine read_object_eq_ok_iff.mpr ⟨_, _, rfl, .allOf (.cons ?_ (.cons ?_ .nil)), rfl⟩
    · refine read_object_eq_ok_iff.mpr ⟨_, _, rfl, .object _ (.cons ⟨rfl, ?_⟩ .nil) .none, rfl⟩
      exact read_ofPrimitive _ .string
    · exact read_ofPointer _ _
  refine ⟨?_, hread, ?_⟩
  · simp [gatheredValue, Json.WellFormed, Json.WellFormedMembers, Json.WellFormedItems,
      Members.Distinct, Members.keys]
  · rintro ⟨t, ht, hreordered⟩
    obtain rfl := Except.ok.inj (hreread.symm.trans ht)
    -- one keyword is left of two
    have hone : regathered.canonical.toJson = .object [("allOf", .array [
        .object [("type", .string "object"),
          ("properties", .object [("title", .object [("type", .string "string")])])],
        .object [("$ref", .string "#/x/Entry")]])] := rfl
    have htwo : gatheredSchema.canonical.toJson = .object [
        ("allOf", .array [.object [("$ref", .string "#/x/Entry")]]),
        ("properties", .object [("title", .object [("type", .string "string")])])] := rfl
    rw [hone, htwo] at hreordered
    cases hreordered with
    | object hmatched hperm =>
      have hkeys := congrArg List.length hmatched.keys
      have hlength := hperm.length_eq
      simp [Members.keys, hlength] at hkeys

end Gathered

end MockBuilders.Schema
