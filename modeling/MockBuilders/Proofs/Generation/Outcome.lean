import MockBuilders.Generation
import MockBuilders.Proofs.Emission.Decisions
import MockBuilders.Proofs.Inlining.Cycles

/-!
What a generation comes to: it succeeds if every payload is a schema and the schemas lead in no
circle, it fails with the first fault otherwise, and only a success reaches the host.
Main statement: `generateInto_outcome`.
-/
namespace MockBuilders
open ReferenceGraph

namespace Intake

/-- Each payload is read as the schema under its name. -/
def ReadsAs (i : Intake) (schemas : Members Schema) : Prop :=
  List.Forall₂ (fun e p => p.1 = e.1 ∧ Schema.ofJson (.object e.2) = .ok p.2) i.entries schemas

/-- The first payload that is no schema, and why it is none. -/
def FirstMalformed (i : Intake) (name : String) (m : Malformed) : Prop :=
  ∃ before members after, i.entries = before ++ (name, members) :: after ∧
    (∀ e ∈ before, ∃ s, Schema.ofJson (.object e.2) = .ok s) ∧
    Schema.ofJson (.object members) = .error m

theorem readEntry_eq_ok_iff {name : String} {payload : Json} {s : Schema} :
    readEntry name payload = .ok s ↔ Schema.ofJson payload = .ok s := by
  unfold readEntry
  cases Schema.ofJson payload <;> simp [Except.mapError]

theorem schemas_eq_ok_iff {i : Intake} {schemas : Members Schema} :
    i.schemas = .ok schemas ↔ i.ReadsAs schemas := by
  obtain ⟨entries⟩ := i
  simp only [Intake.schemas, ReadsAs]
  induction entries generalizing schemas with
  | nil => simp [readAll, eq_comm]
  | cons e rest ih =>
    obtain ⟨name, members⟩ := e
    simp only [readAll, bind_eq_ok_iff, pure_eq_ok_iff, readEntry_eq_ok_iff, ih,
      List.forall₂_cons_left_iff]
    constructor
    · rintro ⟨s, hs, ss, hss, rfl⟩
      exact ⟨(name, s), ss, ⟨rfl, hs⟩, hss, rfl⟩
    · rintro ⟨⟨_, s⟩, ss, ⟨rfl, hs⟩, hss, rfl⟩
      exact ⟨s, hs, ss, hss, rfl⟩

theorem schemas_eq_error {i : Intake} {f : Failure} (h : i.schemas = .error f) :
    ∃ name m, i.FirstMalformed name m ∧ f = .malformed name m.reason := by
  obtain ⟨entries⟩ := i
  simp only [Intake.schemas, FirstMalformed] at h ⊢
  induction entries with
  | nil => cases h
  | cons e rest ih =>
    obtain ⟨name, members⟩ := e
    rw [readAll] at h
    cases hs : Schema.ofJson (.object members) with
    | error m =>
      have hr : readEntry name (.object members) = .error (.malformed name m.reason) := by
        rw [readEntry, hs]
        rfl
      rw [hr] at h
      exact ⟨name, m, ⟨[], members, rest, rfl, by simp, hs⟩, (Except.error.inj h).symm⟩
    | ok s =>
      rw [readEntry_eq_ok_iff.mpr hs] at h
      cases hrest : readAll rest with
      | ok ss =>
        rw [hrest] at h
        cases h
      | error g =>
        rw [hrest] at h
        obtain rfl := Except.error.inj h
        obtain ⟨n, m, ⟨before, ms, after, rfl, hbefore, hm⟩, rfl⟩ := ih hrest
        refine ⟨n, m, ⟨(name, members) :: before, ms, after, rfl, ?_, hm⟩, rfl⟩
        exact List.forall_mem_cons.mpr ⟨⟨s, hs⟩, hbefore⟩

theorem ReadsAs.keys {i : Intake} {schemas : Members Schema} (h : i.ReadsAs schemas) :
    schemas.keys = i.names :=
  readAll_keys (schemas_eq_ok_iff.mpr h)

end Intake

namespace Generation

/-- Each entry is the canonical form of the inlined schema under its name. -/
def InlinesTo (schemas : Members Schema) (ps : Members Schema) (es : List CanonicalEntry) : Prop :=
  List.Forall₂ (fun p e => ∃ r, (Inlined.entry schemas p.1 p.2).result = .ok r ∧
    e = .ofSchema p.1 r) ps es

/-- Entries that can all be inlined are inlined in order, and their diagnostics are gathered. -/
theorem canonicalEntries_of_ok {ps : Members Schema} (session : InliningSession)
    (h : ∀ p ∈ ps, ∃ r, (Inlined.entry session.entries p.1 p.2).result = .ok r) :
    ∃ es, (canonicalEntries ps session).1 = .ok es ∧ InlinesTo session.entries ps es ∧
      (canonicalEntries ps session).2.diagnostics = session.diagnostics ++
        ps.flatMap fun p => (Inlined.entry session.entries p.1 p.2).diagnostics := by
  induction ps generalizing session with
  | nil => exact ⟨[], rfl, .nil, by simp [canonicalEntries]⟩
  | cons p ps ih =>
    obtain ⟨name, s⟩ := p
    obtain ⟨⟨r, hr⟩, hps⟩ := List.forall_mem_cons.mp h
    -- the state in which the other entries are inlined
    let noted : InliningSession :=
      { (session.call (.entry name s)).2 with
        events := (session.call (.entry name s)).2.events ++
          [(CanonicalEntry.ofSchema name r).event] }
    obtain ⟨es, hok, hes, hds⟩ := ih noted hps
    have hcons : canonicalEntries ((name, s) :: ps) session =
        (.ok (.ofSchema name r :: es), (canonicalEntries ps noted).2) := by
      have hcall : session.call (.entry name s) = (.ok r, (session.call (.entry name s)).2) :=
        Prod.ext hr rfl
      rw [canonicalEntries, hcall]
      simp only
      rw [show canonicalEntries ps _ = (.ok es, (canonicalEntries ps noted).2) from
        Prod.ext hok rfl]
    refine ⟨.ofSchema name r :: es, by rw [hcons], .cons ⟨r, hr, rfl⟩ hes, ?_⟩
    rw [hcons, hds, List.flatMap_cons, ← List.append_assoc]
    rfl

variable {generator path : String} {defaults : BuilderOptions} {schemas : Members Schema}

/-- All schemas were inlined and planned, and the module is the text of the plan. -/
structure Completed (generator path : String) (defaults : BuilderOptions)
    (schemas : Members Schema) (es : List CanonicalEntry) (g : Generated) : Prop where
  inlined : InlinesTo schemas schemas es
  plan : g.plan = .ofEntries es
  file : g.file = ⟨generator, path, TypeScript.moduleText g.plan defaults⟩
  schemaCount : g.schemaCount = schemas.length
  diagnostics : g.diagnostics =
    (schemas.flatMap fun p => (Inlined.entry schemas p.1 p.2).diagnostics) ++ g.plan.diagnostics

theorem ofSchemas_of_acyclic (hd : schemas.Distinct) (h : (ofEntries schemas).Acyclic) :
    ∃ es g, (ofSchemas generator path defaults schemas).result = .ok g ∧
      Completed generator path defaults schemas es g := by
  have hok : ∀ p ∈ schemas, ∃ r, (Inlined.entry schemas p.1 p.2).result = .ok r := by
    intro p hp
    exact Inlined.exists_result_eq_ok_iff.mpr
      ((acyclic_iff_succeeds hd).mp h p.1 p.2 ((Members.get?_eq_some_iff hd).mpr hp))
  obtain ⟨es, hes, hinlined, hds⟩ := canonicalEntries_of_ok (.start schemas) hok
  have hrun : canonicalEntries schemas (.start schemas) =
      (.ok es, (canonicalEntries schemas (.start schemas)).2) := Prod.ext hes rfl
  rw [ofSchemas, hrun]
  refine ⟨es, _, rfl, hinlined, rfl, rfl, rfl, ?_⟩
  simp only [hds]
  rfl

end Generation

namespace Intake
open Generation

variable {generator path : String} {defaults : BuilderOptions}

theorem generate_of_acyclic {i : Intake} {schemas : Members Schema} (hd : i.entries.Distinct)
    (hreads : i.ReadsAs schemas) (hacyclic : (ofEntries schemas).Acyclic) :
    ∃ es g, (i.generate generator path defaults).result = .ok g ∧
      Completed generator path defaults schemas es g := by
  have hd' : schemas.Distinct := by
    rw [Members.Distinct, hreads.keys]
    exact hd
  have hgenerate : i.generate generator path defaults =
      ofSchemas generator path defaults schemas := by
    simp only [generate, schemas_eq_ok_iff.mpr hreads,
      checkAcyclic_ofEntries_eq_ok_iff.mpr hacyclic]
  rw [hgenerate]
  exact ofSchemas_of_acyclic hd' hacyclic

/-- A generation is stopped by the first payload that is no schema, by a cycle, or by nothing. -/
theorem generate_cases (i : Intake) (hd : i.entries.Distinct) (generator path : String)
    (defaults : BuilderOptions) :
    (∃ name m, i.FirstMalformed name m ∧
      (i.generate generator path defaults).result = .error (.malformed name m.reason)) ∨
    (∃ schemas f, i.ReadsAs schemas ∧ (ofEntries schemas).checkAcyclic = .error f ∧
      (i.generate generator path defaults).result = .error f) ∨
    (∃ schemas es g, i.ReadsAs schemas ∧ (ofEntries schemas).Acyclic ∧
      (i.generate generator path defaults).result = .ok g ∧
      Completed generator path defaults schemas es g) := by
  cases hs : i.schemas with
  | error f =>
    obtain ⟨name, m, hm, rfl⟩ := schemas_eq_error hs
    exact .inl ⟨name, m, hm, by simp only [generate, hs]⟩
  | ok schemas =>
    have hreads := schemas_eq_ok_iff.mp hs
    cases hc : (ofEntries schemas).checkAcyclic with
    | error f => exact .inr (.inl ⟨schemas, f, hreads, hc, by simp only [generate, hs, hc]⟩)
    | ok _ =>
      have hacyclic := checkAcyclic_ofEntries_eq_ok_iff.mp hc
      obtain ⟨es, g, hg, hcompleted⟩ := generate_of_acyclic hd hreads hacyclic
      exact .inr (.inr ⟨schemas, es, g, hreads, hacyclic, hg, hcompleted⟩)

theorem generate_eq_error {i : Intake} {f : Failure} (hd : i.entries.Distinct)
    (h : (i.generate generator path defaults).result = .error f) :
    (∃ name m, i.FirstMalformed name m ∧ f = .malformed name m.reason) ∨
      ∃ schemas, i.ReadsAs schemas ∧ (ofEntries schemas).checkAcyclic = .error f ∧
        ∃ entry cycle, f = .cyclic entry cycle := by
  rcases i.generate_cases hd generator path defaults with
    ⟨name, m, hm, h'⟩ | ⟨schemas, f', hreads, hc, h'⟩ | ⟨_, _, _, _, _, h', _⟩
  · exact .inl ⟨name, m, hm, Except.error.inj (h.symm.trans h')⟩
  · obtain rfl := Except.error.inj (h.symm.trans h')
    exact .inr ⟨schemas, hreads, hc, checkAcyclic_eq_error hc⟩
  · cases h.symm.trans h'

theorem generate_eq_ok {i : Intake} {g : Generated} (hd : i.entries.Distinct)
    (h : (i.generate generator path defaults).result = .ok g) :
    ∃ schemas es, i.ReadsAs schemas ∧ (ofEntries schemas).Acyclic ∧
      Completed generator path defaults schemas es g := by
  rcases i.generate_cases hd generator path defaults with
    ⟨_, _, _, h'⟩ | ⟨_, _, _, _, h'⟩ | ⟨schemas, es, g', hreads, hacyclic, h', hcompleted⟩
  · cases h.symm.trans h'
  · cases h.symm.trans h'
  · obtain rfl := Except.ok.inj (h.symm.trans h')
    exact ⟨schemas, es, hreads, hacyclic, hcompleted⟩

theorem generateInto_fst (i : Intake) (sink : Sink) :
    (i.generateInto generator path defaults sink).1 = i.generate generator path defaults := by
  simp only [generateInto]
  split <;> rfl

end Intake

/-- Inlining reports references, never a collision of type names. -/
theorem Inlined.count_diagnostics (x : Inlined) :
    Diagnostics.count x.diagnostics .typeNameCollision = 0 := by
  simp only [Diagnostics.count, Inlined.diagnostics, List.countP_append, List.countP_map,
    Nat.add_eq_zero_iff, List.countP_eq_zero]
  exact ⟨fun _ _ => Bool.false_ne_true, fun _ _ => Bool.false_ne_true⟩

namespace Generation.Completed

variable {generator path : String} {defaults : BuilderOptions} {schemas : Members Schema}
  {es : List CanonicalEntry} {g : Generated}

theorem length_builders_add_count (h : Completed generator path defaults schemas es g) :
    g.plan.builders.length + g.diagnostics.count .typeNameCollision = g.schemaCount := by
  have hinlined : Diagnostics.count (schemas.flatMap fun p =>
      (Inlined.entry schemas p.1 p.2).diagnostics) .typeNameCollision = 0 := by
    apply List.countP_eq_zero.mpr
    intro d hd
    obtain ⟨p, -, hp⟩ := List.mem_flatMap.mp hd
    exact List.countP_eq_zero.mp (Inlined.count_diagnostics _) d hp
  have hplan := Plan.length_builders_add_count es
  have hlen : schemas.length = es.length := h.inlined.length_eq
  rw [h.diagnostics, h.schemaCount, h.plan, hlen, ← hplan]
  simp only [Diagnostics.count, List.countP_append] at hinlined ⊢
  rw [hinlined, Nat.zero_add]

end Generation.Completed

/-- A generation succeeds if and only if all payloads are schemas and their references lead in no
circle. If it fails, it is with the first payload that is no schema or with the cycle that the
graph is refused for, and the host is left as it was; if it succeeds, the host has one file more,
with the whole module, and every schema has a builder or is reported for its type name. -/
theorem generateInto_outcome (i : Intake) (hd : i.entries.Distinct) (generator path : String)
    (defaults : BuilderOptions) (sink : Sink) :
    ((∃ g, (i.generateInto generator path defaults sink).1.result = .ok g) ↔
      ∃ schemas, i.ReadsAs schemas ∧ (ofEntries schemas).Acyclic) ∧
    (∀ f, (i.generateInto generator path defaults sink).1.result = .error f →
      ((∃ name m, i.FirstMalformed name m ∧ f = .malformed name m.reason) ∨
        ∃ schemas, i.ReadsAs schemas ∧ (ofEntries schemas).checkAcyclic = .error f ∧
          ∃ entry cycle, f = .cyclic entry cycle) ∧
      (i.generateInto generator path defaults sink).2 = sink) ∧
    ∀ g, (i.generateInto generator path defaults sink).1.result = .ok g →
      (∃ schemas es, i.ReadsAs schemas ∧ Generation.InlinesTo schemas schemas es ∧
        g.plan = .ofEntries es) ∧
      (i.generateInto generator path defaults sink).2.files =
        sink.files ++ [⟨generator, path, TypeScript.moduleText g.plan defaults⟩] ∧
      g.schemaCount = g.plan.builders.length + g.diagnostics.count .typeNameCollision := by
  rw [Intake.generateInto_fst]
  refine ⟨⟨?_, ?_⟩, ?_, ?_⟩
  · rintro ⟨g, hg⟩
    obtain ⟨schemas, _, hreads, hacyclic, _⟩ := Intake.generate_eq_ok hd hg
    exact ⟨schemas, hreads, hacyclic⟩
  · rintro ⟨schemas, hreads, hacyclic⟩
    obtain ⟨_, g, hg, _⟩ := Intake.generate_of_acyclic hd hreads hacyclic
    exact ⟨g, hg⟩
  · intro f hf
    exact ⟨Intake.generate_eq_error hd hf, by simp only [Intake.generateInto, hf]⟩
  · intro g hg
    obtain ⟨schemas, es, hreads, _, hcompleted⟩ := Intake.generate_eq_ok hd hg
    refine ⟨⟨schemas, es, hreads, hcompleted.inlined, hcompleted.plan⟩, ?_,
      hcompleted.length_builders_add_count.symm⟩
    simp only [Intake.generateInto, hg, Sink.append_create, hcompleted.file]

/-- Two entries of one type name, of which one refers to the other. -/
def pets : Intake :=
  ⟨[("Pet", [("type", .string "string")]), ("PetSchema", [("$ref", .string "Pet")])]⟩

theorem generateInto_pets : pets.entries.Distinct ∧
    ∃ g, (pets.generateInto "mocks" "out.ts" .unset .empty).1.result = .ok g ∧
      (pets.generateInto "mocks" "out.ts" .unset .empty).2.files =
        [⟨"mocks", "out.ts", TypeScript.moduleText g.plan .unset⟩] ∧
      g.schemaCount = g.plan.builders.length + g.diagnostics.count .typeNameCollision := by
  have hd : pets.entries.Distinct := by decide
  have hreads : pets.ReadsAs
      [("Pet", .ofPrimitive .string), ("PetSchema", .ofPointer "Pet")] :=
    .cons ⟨rfl, by cbv⟩ (.cons ⟨rfl, by cbv⟩ .nil)
  have hc : (ofEntries [("Pet", .ofPrimitive .string),
      ("PetSchema", .ofPointer "Pet")]).checkAcyclic = .ok () := by cbv
  have h := generateInto_outcome pets hd "mocks" "out.ts" .unset .empty
  obtain ⟨g, hg⟩ := h.1.mpr ⟨_, hreads, checkAcyclic_ofEntries_eq_ok_iff.mp hc⟩
  exact ⟨hd, g, hg, (h.2.2 g hg).2⟩

end MockBuilders
