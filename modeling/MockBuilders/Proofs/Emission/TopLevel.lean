import MockBuilders.Proofs.Emission.Accounting

/-!
The names at top level of a module. The module is a row of statements, each of which introduces one
of them. Types have distinct names, but a type whose name is that of another after `create` has a
class that is called like the function for the other.
Main statements: `TypeScript.nodup_topLevel_iff` and `TypeScript.not_nodup_topLevel`.
-/
namespace MockBuilders

namespace Naming

theorem className_injective : Function.Injective className :=
  fun _ _ h => (String.append_left_inj _).mp h

theorem factoryName_injective : Function.Injective factoryName :=
  fun _ _ h => (String.append_right_inj _).mp h

theorem className_eq_factoryName_iff {t u : String} :
    className t = factoryName (className u) ↔ t = "create" ++ u := by
  rw [factoryName, className, className, ← String.append_assoc, String.append_left_inj]

/-- The class of a type and the function that creates it. -/
def builderNames (type : String) : List String := [className type, factoryName (className type)]

/-- Builders of distinct types share a name if one type is called like another after `create`. -/
theorem nodup_flatMap_builderNames_iff {types : List String} (h : types.Nodup) :
    (types.flatMap builderNames).Nodup ↔ ∀ t ∈ types, ∀ u ∈ types, t ≠ "create" ++ u := by
  have hclasses : (types.map className).Nodup := h.map className_injective
  have hfactories : (types.map fun t => factoryName (className t)).Nodup :=
    h.map (factoryName_injective.comp className_injective)
  have hperm := List.map_append_flatMap_perm types className fun t => [factoryName (className t)]
  rw [← List.map_eq_flatMap] at hperm
  change (types.flatMap fun t => className t :: [factoryName (className t)]).Nodup ↔ _
  rw [← hperm.nodup_iff, List.nodup_append]
  simp only [hclasses, hfactories, true_and, List.forall_mem_map, ne_eq,
    className_eq_factoryName_iff]

end Naming

namespace TypeScript

/-- Names of builders are told from fixed names by their ending. -/
theorem append_builder_not_mem {names : List String}
    (h : ∀ name ∈ names, ¬ "Builder".toList <:+ name.toList) (t : String) :
    t ++ "Builder" ∉ names := by
  intro hmem
  apply h _ hmem
  rw [String.toList_append]
  exact List.suffix_append _ _

theorem not_mem_of_mem_builderNames {names : List String}
    (h : ∀ name ∈ names, ¬ "Builder".toList <:+ name.toList) {type name : String}
    (hname : name ∈ Naming.builderNames type) : name ∉ names := by
  rcases List.mem_pair.mp hname with rfl | rfl
  · exact append_builder_not_mem h type
  · rw [Naming.factoryName, Naming.className, ← String.append_assoc]
    exact append_builder_not_mem h _

theorem topLevel_eq (p : Plan) :
    topLevel p = reserved ++ (p.builders.map Builder.type).flatMap Naming.builderNames := by
  rw [topLevel, List.flatMap_map]
  rfl

/-- How statements begin that introduce a name at top level. -/
def openings : List String :=
  ["import \x7b ", "import type * as ", "export type ", "const ", "export class ",
    "export function "]

/-- The text is that of a statement, after a blank line or not, which introduces the name. -/
def Introduces (name text : String) : Prop :=
  ∃ gap ∈ ["", blank], ∃ opening ∈ openings, ∃ stop ∈ [" ", "("], ∃ rest,
    text = gap ++ opening ++ name ++ stop ++ rest

theorem line_zero (text : String) : line 0 text = text ++ "\n" := by
  rw [line, Nat.mul_zero, List.replicate_zero]
  exact congrArg (· ++ "\n") String.empty_append

theorem introduces_builderClass (defaults : BuilderOptions) (b : Builder) :
    Introduces b.className (blank ++ builderClass defaults b) := by
  refine ⟨blank, by decide, "export class ", by decide, " ", by decide, ?_⟩
  simp only [builderClass, block, line_zero, String.append_assoc]
  exact ⟨_, rfl⟩

theorem introduces_factory (b : Builder) : Introduces b.factoryName (blank ++ factory b) := by
  have hhead : "(): " = "(" ++ "): " := rfl
  refine ⟨blank, by decide, "export function ", by decide, "(", by decide, ?_⟩
  simp only [factory, block, line_zero, String.append_assoc, hhead]
  exact ⟨_, rfl⟩

/-- The statements before the builders. -/
def preamble (constants : List Constant) : List String :=
  [line 0 ("import \x7b generateMock \x7d from " ++ quoted mockModule ++ ";"),
    line 0 ("import type * as types from " ++ quoted typesModule ++ ";"),
    blank ++ optionsType, blank ++ schemaTable constants]

theorem introduces_preamble (constants : List Constant) :
    List.Forall₂ Introduces reserved (preamble constants) := by
  refine .cons ?generateMock (.cons ?types (.cons ?options (.cons ?schemas .nil)))
  case generateMock =>
    have hhead : "import \x7b generateMock \x7d from " =
        "import \x7b " ++ ("generateMock" ++ (" " ++ "\x7d from ")) := rfl
    refine ⟨"", by decide, "import \x7b ", by decide, " ", by decide, ?_⟩
    simp only [line_zero, String.append_assoc, hhead, String.empty_append]
    exact ⟨_, rfl⟩
  case types =>
    have hhead : "import type * as types from " =
        "import type * as " ++ ("types" ++ (" " ++ "from ")) := rfl
    refine ⟨"", by decide, "import type * as ", by decide, " ", by decide, ?_⟩
    simp only [line_zero, String.append_assoc, hhead, String.empty_append]
    exact ⟨_, rfl⟩
  case options =>
    have hhead : "export type BuilderOptions = " =
        "export type " ++ ("BuilderOptions" ++ (" " ++ "= ")) := rfl
    refine ⟨blank, by decide, "export type ", by decide, " ", by decide, ?_⟩
    simp only [optionsType, block, line_zero, String.append_assoc, hhead]
    exact ⟨_, rfl⟩
  case schemas =>
    have hhead : "const schemas = " = "const " ++ ("schemas" ++ (" " ++ "= ")) := rfl
    refine ⟨blank, by decide, "const ", by decide, " ", by decide, ?_⟩
    simp only [schemaTable, line_zero, String.append_assoc, hhead]
    exact ⟨_, rfl⟩

/-- The statements of a builder: its class and the function that creates it. -/
def builderStatements (defaults : BuilderOptions) (b : Builder) : List String :=
  [blank ++ builderClass defaults b, blank ++ factory b]

theorem join_map_join {α : Type} (f : α → List String) (xs : List α) :
    String.join (xs.map fun x => String.join (f x)) = String.join (xs.flatMap f) := by
  induction xs with
  | nil => rfl
  | cons x xs ih =>
    rw [List.map_cons, List.flatMap_cons, String.join_cons, String.join_append, ih]

/-- The module is made of statements that introduce the names at top level, one each. -/
theorem exists_statements (p : Plan) (defaults : BuilderOptions) :
    ∃ statements, moduleText p defaults = String.join statements ∧
      List.Forall₂ Introduces (topLevel p) statements := by
  refine ⟨preamble p.constants ++ p.builders.flatMap (builderStatements defaults), ?_, ?_⟩
  · have hbuilder : (fun b => blank ++ builderClass defaults b ++ blank ++ factory b) =
        fun b => String.join (builderStatements defaults b) := by
      funext b
      simp [builderStatements, String.join_cons, String.append_assoc]
    rw [moduleText, hbuilder, join_map_join, String.join_append]
    refine congrArg (· ++ String.join (p.builders.flatMap (builderStatements defaults))) ?_
    simp [preamble, imports, String.join_cons, String.append_assoc]
  · refine List.rel_append (introduces_preamble _) ?_
    refine List.rel_flatMap (List.forall₂_same.mpr fun _ _ => rfl) ?_
    rintro b _ rfl
    exact .cons (introduces_builderClass defaults b) (.cons (introduces_factory b) .nil)

end TypeScript

namespace Plan

open CanonicalEntry (typeName)

theorem types_ofEntries (entries : List CanonicalEntry) :
    (ofEntries entries).builders.map Builder.type = (firsts typeName entries).map typeName := by
  refine (map_eq_of_forall₂ (reflects_ofEntries entries).builds ?_).symm
  rintro e b ⟨f, -, rfl⟩
  rfl

theorem nodup_types_ofEntries (entries : List CanonicalEntry) :
    ((ofEntries entries).builders.map Builder.type).Nodup := by
  rw [types_ofEntries]
  exact nodup_map_firsts typeName entries

/-- The types with builders are those of the entries. -/
theorem mem_types_ofEntries_iff {entries : List CanonicalEntry} {type : String} :
    type ∈ (ofEntries entries).builders.map Builder.type ↔ ∃ e ∈ entries, e.typeName = type := by
  rw [types_ofEntries, mem_map_firsts_iff]

end Plan

namespace TypeScript

/-- The statements of a module introduce its names at top level, one each; and these are distinct
if and only if no entry has the type name of another after `create`. -/
theorem nodup_topLevel_iff (entries : List CanonicalEntry) (defaults : BuilderOptions) :
    (∃ statements, moduleText (.ofEntries entries) defaults = String.join statements ∧
      List.Forall₂ Introduces (topLevel (.ofEntries entries)) statements) ∧
    ((topLevel (.ofEntries entries)).Nodup ↔
      ∀ e ∈ entries, ∀ f ∈ entries, e.typeName ≠ "create" ++ f.typeName) := by
  refine ⟨exists_statements _ defaults, ?_⟩
  have hreserved : reserved.Nodup := by decide
  have hends : ∀ name ∈ reserved, ¬ "Builder".toList <:+ name.toList := by decide
  have hapart : ∀ name ∈ reserved,
      ∀ other ∈ ((Plan.ofEntries entries).builders.map Builder.type).flatMap Naming.builderNames,
        name ≠ other := by
    rintro name hname _ hother rfl
    obtain ⟨type, -, hother⟩ := List.mem_flatMap.mp hother
    exact not_mem_of_mem_builderNames hends hother hname
  rw [topLevel_eq, List.nodup_append, and_iff_right hreserved, and_iff_left hapart,
    Naming.nodup_flatMap_builderNames_iff (Plan.nodup_types_ofEntries entries)]
  simp only [Plan.mem_types_ofEntries_iff, forall_exists_index, and_imp,
    forall_apply_eq_imp_iff₂]

/-- The class for the second entry and the function for the first are both `createPetBuilder`. -/
theorem not_nodup_topLevel : ¬ (topLevel (.ofEntries
    [.ofSchema "Pet" (.ofPrimitive .string), .ofSchema "createPet" (.ofPrimitive .integer)])).Nodup
    := by
  have htypes : (firsts CanonicalEntry.typeName [.ofSchema "Pet" (.ofPrimitive .string),
      .ofSchema "createPet" (.ofPrimitive .integer)]).map CanonicalEntry.typeName =
      ["Pet", "createPet"] := by decide
  rw [topLevel_eq, Plan.types_ofEntries, htypes]
  decide

end TypeScript

end MockBuilders
