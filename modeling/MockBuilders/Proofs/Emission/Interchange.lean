import MockBuilders.Proofs.Emission.Setters
import MockBuilders.Proofs.Json.CanonicalText
import MockBuilders.Proofs.Schema.KeyOrder

/-!
When entries of one fingerprint have interchangeable builders. What is written of a schema tells
the class shape of its builder unless `enum` or `properties` stand among the keywords without
structure, and it tells the setters up to the order of the properties.
Main statement: `interchangeable_iff_of_fingerprint_eq`.
-/
namespace MockBuilders

namespace BuilderShape

/-- Both are of enumerations, both of objects or both of other values. -/
inductive SameClass : BuilderShape → BuilderShape → Prop
  | enumeration : SameClass enumeration enumeration
  | object (ps qs : List PropertyPlan) : SameClass (object ps) (object qs)
  | value : SameClass value value

/-- Shapes of one class, with the same setters. -/
structure Interchangeable (b c : BuilderShape) : Prop where
  sameClass : b.SameClass c
  setters : ∀ p m, .setter p m ∈ b.properties ↔ .setter p m ∈ c.properties

/-- The class shape and the properties that written keywords tell of. -/
inductive ToldBy : BuilderShape → Members Json → Prop
  | enumeration {m : Members Json} : (m.get? "enum").isSome → ToldBy enumeration m
  | object {m : Members Json} (properties : Members Json) : m.get? "enum" = none →
      m.get? "properties" = some (.object properties) →
      ToldBy (object (PropertyPlan.all [] properties.keys)) m
  | value {m : Members Json} : m.get? "enum" = none → m.get? "properties" = none → ToldBy value m

end BuilderShape

namespace Schema

/-- Only enumerations have an `enum`, and only objects and enumerations have `properties`. -/
def Evident (s : Schema) : Prop :=
  match s.kind with
  | .enumeration _ _ => True
  | .object _ => s.extensions.get? "enum" = none
  | _ => s.extensions.get? "enum" = none ∧ s.extensions.get? "properties" = none

theorem enum_not_mem_keywords {σ : Type} {k : Kind σ}
    (h : ∀ types values, k ≠ .enumeration types values) : "enum" ∉ k.keywords := by
  cases k with
  | enumeration types values => exact (h types values rfl).elim
  | choice keyword branches => cases keyword <;> simp [Kind.keywords, ChoiceKeyword.name]
  | _ => simp [Kind.keywords]

theorem properties_not_mem_keywords {σ : Type} {k : Kind σ} (h : ∀ shape, k ≠ .object shape) :
    "properties" ∉ k.keywords := by
  cases k with
  | object shape => exact (h shape rfl).elim
  | choice keyword branches => cases keyword <;> simp [Kind.keywords, ChoiceKeyword.name]
  | _ => simp [Kind.keywords]

theorem Evident.told {s : Schema} (h : s.Evident) :
    ∃ m, s.toJson = .object m ∧ (BuilderShape.ofSchema s).ToldBy m := by
  obtain ⟨kind, extensions⟩ := s
  refine ⟨_, toJson_mk kind extensions, ?_⟩
  -- a keyword that the layer is not written with is found where it is kept
  have hkept : ∀ {keyword : String}, keyword ∉ kind.keywords →
      (((kind.map toJson).written extensions).orElse extensions).get? keyword =
        Members.get? extensions keyword := by
    intro keyword hkeyword
    rw [← Kind.keywords_map toJson] at hkeyword
    rw [Members.get?_orElse, Kind.get?_written_eq_none extensions hkeyword, Option.none_or]
  cases kind with
  | enumeration types values =>
    have hwritten : ((Kind.enumeration types values).written extensions).get? "enum" =
        some (.array values) := by
      by_cases htypes : types = [] <;>
        simp [Kind.written, Kind.typeMember, htypes, Members.get?]
    refine .enumeration ?_
    change (Members.get? (((Kind.enumeration types values).written extensions).orElse
      extensions) "enum").isSome
    rw [Members.get?_orElse, hwritten]
    rfl
  | object shape =>
    have hproperties : (((Kind.map toJson (.object shape)).written extensions).orElse
        extensions).get? "properties" =
          some (.object (Members.mapValues toJson shape.properties)) := by
      rw [Members.get?_orElse]
      rfl
    have htold := BuilderShape.ToldBy.object _
      ((hkept (enum_not_mem_keywords (by simp))).trans h) hproperties
    rw [Members.keys_mapValues] at htold
    exact htold
  | _ =>
    have henum := (hkept (enum_not_mem_keywords (by simp))).trans h.1
    have hproperties := (hkept (properties_not_mem_keywords (by simp))).trans h.2
    exact .value henum hproperties

end Schema

namespace BuilderShape

open PropertyPlan (taken setter)

variable {b c : BuilderShape} {m n : Members Json}

/-- Shapes that alike keywords tell of are of one class. -/
theorem ToldBy.sameClass (hb : b.ToldBy m) (hc : c.ToldBy n)
    (h : Members.Alike Json.Alike m n) : b.SameClass c := by
  have henum := h.get? "enum"
  have hproperties := h.get? "properties"
  cases hb with
  | enumeration hb =>
    cases hc with
    | enumeration => exact .enumeration
    | object _ hc _ | value hc _ =>
      rw [isSome_eq_of_rel henum, hc] at hb
      cases hb
  | object _ hb hbp =>
    cases hc with
    | enumeration hc =>
      rw [← isSome_eq_of_rel henum, hb] at hc
      cases hc
    | object => exact .object _ _
    | value _ hcp =>
      rw [hbp, hcp] at hproperties
      cases hproperties
  | value hb hbp =>
    cases hc with
    | enumeration hc =>
      rw [← isSome_eq_of_rel henum, hb] at hc
      cases hc
    | object _ _ hcp =>
      rw [hbp, hcp] at hproperties
      cases hproperties
    | value => exact .value

/-- Properties that alike keywords tell of get the same setters if and only if the same of them are
reported, and so they do if none is reported on one side. -/
theorem ToldBy.setter_mem_iff (hb : b.ToldBy m) (hc : c.ToldBy n)
    (h : Members.Alike Json.Alike m n) :
    ((∀ p q, setter p q ∈ b.properties ↔ setter p q ∈ c.properties) ↔
      ∀ p q, taken p q ∈ b.properties ↔ taken p q ∈ c.properties) ∧
    ((∀ p q, taken p q ∉ b.properties) → ∀ p q, taken p q ∉ c.properties) := by
  have hproperties := h.get? "properties"
  cases hb.sameClass hc h with
  | enumeration | value => exact ⟨⟨fun _ _ _ => Iff.rfl, fun _ _ _ => Iff.rfl⟩, fun hnone => hnone⟩
  | object =>
    cases hb with
    | object ms _ hms =>
      cases hc with
      | object ns _ hns =>
        rw [hms, hns] at hproperties
        cases hproperties with
        | some hobjects =>
          have hmembers := Json.alike_object_iff.mp hobjects
          constructor
          · exact PropertyPlan.setter_mem_iff_iff_taken_mem_iff [] hmembers.left hmembers.right
              hmembers.keys_mem
          · exact PropertyPlan.taken_not_mem_of_mem_iff hmembers.left hmembers.right
              hmembers.keys_mem

end BuilderShape

theorem fingerprint_eq_of_canonicalText_eq {e f : CanonicalEntry}
    (h : e.schema.toJson.canonicalText = f.schema.toJson.canonicalText) :
    e.fingerprint = f.fingerprint := by
  change Fingerprint.ofJson e.schema.toJson = Fingerprint.ofJson f.schema.toJson
  rw [Fingerprint.ofJson, Fingerprint.ofJson, h]

/-- Entries of one fingerprint whose keywords tell their shapes have builders of one class. They
are interchangeable if and only if the same properties of both are reported for a setter name that
is taken, and so they are whenever one of them has no such property. -/
theorem interchangeable_iff_of_fingerprint_eq {e f : CanonicalEntry}
    (he : e.schema.toJson.Proper) (hf : f.schema.toJson.Proper)
    (hdigest : Sha256.hex e.schema.toJson.canonicalText.toUTF8.toList =
        Sha256.hex f.schema.toJson.canonicalText.toUTF8.toList →
      e.schema.toJson.canonicalText.toUTF8.toList = f.schema.toJson.canonicalText.toUTF8.toList)
    (h : e.fingerprint = f.fingerprint) (hevident : e.schema.Evident)
    (hevident' : f.schema.Evident) :
    (BuilderShape.ofSchema e.schema).SameClass (.ofSchema f.schema) ∧
    ((BuilderShape.ofSchema e.schema).Interchangeable (.ofSchema f.schema) ↔
      ∀ p m, .taken p m ∈ (BuilderShape.ofSchema e.schema).properties ↔
        .taken p m ∈ (BuilderShape.ofSchema f.schema).properties) ∧
    ((∀ p m, .taken p m ∉ (BuilderShape.ofSchema e.schema).properties) →
      (BuilderShape.ofSchema e.schema).Interchangeable (.ofSchema f.schema)) := by
  have htext := toUTF8_toList_injective (hdigest (congrArg Fingerprint.hex h))
  have halike : e.schema.toJson.Alike f.schema.toJson :=
    ⟨he.wellFormed, hf.wellFormed, (Json.canonicalText_eq_iff_sorted_eq he hf).mp htext⟩
  obtain ⟨m, hm, htold⟩ := hevident.told
  obtain ⟨n, hn, htold'⟩ := hevident'.told
  rw [hm, hn] at halike
  have hmembers := Json.alike_object_iff.mp halike
  have hclass := htold.sameClass htold' hmembers
  obtain ⟨hsetters, hnone⟩ := htold.setter_mem_iff htold' hmembers
  refine ⟨hclass, ⟨fun h => hsetters.mp h.setters, fun h => ⟨hclass, hsetters.mpr h⟩⟩, ?_⟩
  intro htaken
  exact ⟨hclass, hsetters.mpr fun p q => iff_of_false (htaken p q) (hnone htaken p q)⟩

/-- An object of two properties in the given order. -/
def numbered (first second : String) : Schema :=
  .mk (.object ⟨[(first, .ofPrimitive .integer), (second, .ofPrimitive .integer)], [], none⟩) []

theorem interchangeable_numbered :
    (CanonicalEntry.ofSchema "A" (numbered "a" "b")).fingerprint =
      (CanonicalEntry.ofSchema "B" (numbered "b" "a")).fingerprint ∧
    (BuilderShape.ofSchema (CanonicalEntry.ofSchema "A" (numbered "a" "b")).schema).Interchangeable
      (.ofSchema (CanonicalEntry.ofSchema "B" (numbered "b" "a")).schema) := by
  have hproper : ∀ first second, first ≠ second →
      (numbered first second).canonical.toJson.Proper := by
    intro first second hne
    have hjson : (numbered first second).canonical.toJson =
        .object [("type", .string "object"), ("properties", .object
          [(first, .object [("type", .string "integer")]),
            (second, .object [("type", .string "integer")])])] := rfl
    rw [hjson]
    refine ⟨?_, nofun⟩
    simp [Json.WellFormed, Json.WellFormedMembers, Members.Distinct, Members.keys, hne]
  have htext : (numbered "a" "b").canonical.toJson.canonicalText =
      (numbered "b" "a").canonical.toJson.canonicalText := congrArg Json.text (by cbv)
  have hfingerprint : (CanonicalEntry.ofSchema "A" (numbered "a" "b")).fingerprint =
      (CanonicalEntry.ofSchema "B" (numbered "b" "a")).fingerprint :=
    fingerprint_eq_of_canonicalText_eq htext
  have hshape : (BuilderShape.ofSchema (numbered "a" "b").canonical).properties =
      [.setter "a" "withA", .setter "b" "withB"] := by cbv
  have h := interchangeable_iff_of_fingerprint_eq (hproper "a" "b" (by decide))
    (hproper "b" "a" (by decide)) (fun _ => congrArg (fun text => text.toUTF8.toList) htext)
    hfingerprint rfl rfl
  refine ⟨hfingerprint, h.2.2 fun p m htaken => ?_⟩
  have htaken' : .taken p m ∈ [.setter "a" "withA", PropertyPlan.setter "b" "withB"] :=
    hshape ▸ htaken
  simp at htaken'

/-- Two entries of one fingerprint and two type names share the constant of the first. -/
theorem builders_of_fingerprint_eq {e f : CanonicalEntry} (h : e.fingerprint = f.fingerprint)
    (htype : e.typeName ≠ f.typeName) : (Plan.ofEntries [e, f]).builders =
      [⟨e.name, e.typeName, Naming.constantName e.typeName, .ofSchema e.schema⟩,
        ⟨f.name, f.typeName, Naming.constantName e.typeName, .ofSchema f.schema⟩] := by
  simp [Plan.ofEntries, Plan.add, Plan.empty, Plan.builders, Plan.constant?, Members.get?, h, htype,
    Decision.builder?]

/-- Entries of one fingerprint share a constant, but their builders are not interchangeable. -/
def Confused (e f : CanonicalEntry) : Prop :=
  e.fingerprint = f.fingerprint ∧ ∃ b c, (Plan.ofEntries [e, f]).builders = [b, c] ∧
    b.constant = c.constant ∧ ¬ b.shape.Interchangeable c.shape

theorem confused_of_canonicalText_eq {e f : CanonicalEntry}
    (h : e.schema.toJson.canonicalText = f.schema.toJson.canonicalText)
    (htype : e.typeName ≠ f.typeName)
    (hshape : ¬ (BuilderShape.ofSchema e.schema).Interchangeable (.ofSchema f.schema)) :
    Confused e f := by
  have hfingerprint := fingerprint_eq_of_canonicalText_eq h
  exact ⟨hfingerprint, _, _, builders_of_fingerprint_eq hfingerprint htype, rfl, hshape⟩

/-- A union of one type with properties beside it. -/
def propertiedUnion : Schema :=
  .mk (.union [.ofPrimitive .string])
    [("properties", .object [("a", .object [("type", .string "integer")])])]

/-- An object that is written as the union is in canonical form. -/
def lookalike : Schema :=
  .mk (.object ⟨[("a", .ofPrimitive .integer)], [], none⟩) [("type", .string "string")]

/-- Two properties that ask for one setter name get it in either order, and keywords without
structure can be written as an object is. -/
theorem confused_entries :
    Confused (.ofSchema "A" (numbered "a" "A")) (.ofSchema "B" (numbered "A" "a")) ∧
    Confused (.ofSchema "A" propertiedUnion) (.ofSchema "B" lookalike) := by
  constructor
  · have htext : (numbered "a" "A").canonical.toJson.canonicalText =
        (numbered "A" "a").canonical.toJson.canonicalText := congrArg Json.text (by cbv)
    have hleft : BuilderShape.ofSchema (numbered "a" "A").canonical =
        .object [.setter "a" "withA", .taken "A" "withA"] := by cbv
    have hright : BuilderShape.ofSchema (numbered "A" "a").canonical =
        .object [.setter "A" "withA", .taken "a" "withA"] := by cbv
    refine confused_of_canonicalText_eq htext (by decide) ?_
    change ¬ (BuilderShape.ofSchema (numbered "a" "A").canonical).Interchangeable
      (.ofSchema (numbered "A" "a").canonical)
    rw [hleft, hright]
    intro h
    have hsetter := (h.setters "a" "withA").mp List.mem_cons_self
    simp [BuilderShape.properties] at hsetter
  · have htext : propertiedUnion.canonical.toJson.canonicalText =
        lookalike.canonical.toJson.canonicalText := congrArg Json.text (by cbv)
    have hleft : BuilderShape.ofSchema propertiedUnion.canonical = .value := by cbv
    have hright : BuilderShape.ofSchema lookalike.canonical = .object [.setter "a" "withA"] := by
      cbv
    refine confused_of_canonicalText_eq htext (by decide) ?_
    change ¬ (BuilderShape.ofSchema propertiedUnion.canonical).Interchangeable
      (.ofSchema lookalike.canonical)
    rw [hleft, hright]
    intro h
    cases h.sameClass

end MockBuilders
