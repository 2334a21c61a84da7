import MockBuilders.Proofs.Emission.TopLevel

/-!
Which names of a module are identifiers. Entries are called as components may be called, with dots
and hyphens, digits in front, or `Schema` alone; type names keep what they are made of, and with
them so do the names of builders.
Main statements: `TypeScript.isIdentifier_builder_iff` and `TypeScript.not_isIdentifier_builders`.
-/
namespace MockBuilders

namespace Text

/-- Text without blanks has none around it. -/
theorem trim_eq_self {cs : List Char} (h : ∀ c ∈ cs, isBlank c = false) : trim cs = cs := by
  have hdrop : ∀ ds : List Char, (∀ c ∈ ds, isBlank c = false) → ds.dropWhile isBlank = ds := by
    intro ds hds
    cases ds with
    | nil => rfl
    | cons d ds => exact List.dropWhile_cons_of_neg (by simp [hds d List.mem_cons_self])
  rw [trim, hdrop cs h, trimEnd, hdrop _ (by simpa using h), List.reverse_reverse]

end Text

namespace Naming

/-- ASCII letters, digits, dots, hyphens and underscores. -/
def isComponentPart (c : Char) : Bool := c.isAlphanum || c == '.' || c == '-' || c == '_'

/-- What components may be called. -/
structure IsComponentName (name : String) : Prop where
  ne_empty : name ≠ ""
  parts : ∀ c ∈ name.toList, isComponentPart c = true

theorem toNat_of_isComponentPart {c : Char} (h : isComponentPart c = true) :
    45 ≤ c.toNat ∧ c.toNat ≤ 122 := by
  simp only [isComponentPart, Bool.or_eq_true, beq_iff_eq] at h
  rcases h with ((h | rfl) | rfl) | rfl
  · have hval : c.val.toNat = c.toNat := rfl
    have hupper : 'A'.val.toNat = 65 ∧ 'Z'.val.toNat = 90 := ⟨rfl, rfl⟩
    have hlower : 'a'.val.toNat = 97 ∧ 'z'.val.toNat = 122 := ⟨rfl, rfl⟩
    have hdigit : '0'.val.toNat = 48 ∧ '9'.val.toNat = 57 := ⟨rfl, rfl⟩
    delta Char.isAlphanum Char.isAlpha Char.isUpper Char.isLower Char.isDigit at h
    simp only [Bool.or_eq_true, Bool.and_eq_true, decide_eq_true_eq, UInt32.le_iff_toNat_le,
      ge_iff_le] at h
    omega
  all_goals decide

theorem isBlank_of_isComponentPart {c : Char} (h : isComponentPart c = true) :
    Text.isBlank c = false := by
  have hapart : ∀ r ∈ Text.blanks, r.2 < 45 ∨ 122 < r.1 := by decide
  have hc := toNat_of_isComponentPart h
  rw [Bool.eq_false_iff, ne_eq, Text.isBlank, Text.Ranges.holds_iff]
  rintro ⟨r, hr, hle⟩
  have hr := hapart r hr
  omega

theorem append_dropSuffix (suffix cs : List Char) :
    dropSuffix suffix cs = cs ∨ dropSuffix suffix cs ++ suffix = cs := by
  unfold dropSuffix
  split
  next h =>
    obtain ⟨rest, rfl⟩ := List.isSuffixOf_iff_suffix.mp h
    exact .inr (by simp)
  next => exact .inl rfl

/-- Components have their names as type names, but for a final `Schema`. -/
theorem typeName_append {name : String} (h : IsComponentName name) :
    (typeName name).toList = name.toList ∨
      (typeName name).toList ++ schemaSuffix = name.toList := by
  have hblank : ∀ c ∈ name.toList, Text.isBlank c = false :=
    fun c hc => isBlank_of_isComponentPart (h.parts c hc)
  have hsplit := append_dropSuffix schemaSuffix name.toList
  have hrest : ∀ c ∈ dropSuffix schemaSuffix name.toList, Text.isBlank c = false := by
    intro c hc
    apply hblank
    rcases hsplit with h | h
    · exact h ▸ hc
    · exact h ▸ List.mem_append_left _ hc
  rwa [typeName, String.toList_ofList, Text.trim_eq_self hblank, Text.trim_eq_self hrest]

theorem typeName_eq_empty_iff {name : String} (h : IsComponentName name) :
    typeName name = "" ↔ name = "Schema" := by
  constructor
  · intro hempty
    rcases typeName_append h with hsame | hsuffix
    · exact absurd (String.toList_injective hsame ▸ hempty) h.ne_empty
    · rw [hempty] at hsuffix
      exact String.toList_injective hsuffix.symm
  · rintro rfl
    decide

end Naming

namespace TypeScript

open Naming (IsComponentName isComponentPart className factoryName typeName)

/-- ASCII letters, digits and the two marks that identifiers may have. -/
def isNamePart (c : Char) : Bool := c.isAlphanum || c == '_' || c == '$'

def LedByDigit (name : String) : Prop := name.toList.head?.any Char.isDigit = true

instance (name : String) : Decidable (LedByDigit name) := inferInstanceAs (Decidable (_ = true))

/-- Words of the language that no declaration in a module may use as a name. -/
def words : List String :=
  ["await", "break", "case", "catch", "class", "const", "continue", "debugger", "default",
    "delete", "do", "else", "enum", "export", "extends", "false", "finally", "for", "function",
    "if", "implements", "import", "in", "instanceof", "interface", "let", "new", "null",
    "package", "private", "protected", "public", "return", "static", "super", "switch", "this",
    "throw", "true", "try", "typeof", "var", "void", "while", "with", "yield"]

/-- An identifier of ASCII characters. -/
structure IsIdentifier (name : String) : Prop where
  ne_empty : name ≠ ""
  parts : ∀ c ∈ name.toList, isNamePart c = true
  not_ledByDigit : ¬ LedByDigit name
  not_word : name ∉ words

theorem isIdentifier_append_builder_iff {name : String} : IsIdentifier (name ++ "Builder") ↔
    (∀ c ∈ name.toList, isNamePart c = true) ∧ ¬ LedByDigit name := by
  have hchars : (name ++ "Builder").toList = name.toList ++ "Builder".toList :=
    String.toList_append
  have hparts : (∀ c ∈ (name ++ "Builder").toList, isNamePart c = true) ↔
      ∀ c ∈ name.toList, isNamePart c = true := by
    rw [hchars, List.forall_mem_append]
    exact and_iff_left (List.all_eq_true.mp (by decide))
  have hled : LedByDigit (name ++ "Builder") ↔ LedByDigit name := by
    rw [LedByDigit, LedByDigit, hchars]
    cases name.toList with
    | nil => simp
    | cons c cs => rfl
  constructor
  · exact fun h => ⟨hparts.mp h.parts, mt hled.mpr h.not_ledByDigit⟩
  · rintro ⟨h, hdigit⟩
    refine ⟨fun hempty => ?_, hparts.mpr h, mt hled.mp hdigit,
      append_builder_not_mem (by decide) name⟩
    rw [hempty] at hchars
    simp at hchars

theorem isIdentifier_className_iff {type : String} : IsIdentifier (className type) ↔
    (∀ c ∈ type.toList, isNamePart c = true) ∧ ¬ LedByDigit type :=
  isIdentifier_append_builder_iff

/-- The verb in front of a type's name is of letters, so no digit is in front then. -/
theorem isIdentifier_factoryName_iff {type : String} :
    IsIdentifier (factoryName (className type)) ↔ ∀ c ∈ type.toList, isNamePart c = true := by
  have hled : ¬ LedByDigit ("create" ++ type) := by
    rw [LedByDigit, String.toList_append]
    simp
  rw [factoryName, className, ← String.append_assoc, isIdentifier_append_builder_iff,
    and_iff_left hled, String.toList_append, List.forall_mem_append]
  exact and_iff_right (List.all_eq_true.mp (by decide))

/-- No dot and no hyphen breaks the name. -/
def Unbroken (name : String) : Prop := '.' ∉ name.toList ∧ '-' ∉ name.toList

instance (name : String) : Decidable (Unbroken name) := inferInstanceAs (Decidable (_ ∧ _))

section ComponentName
variable {name : String} (h : IsComponentName name)
include h

theorem unbroken_iff : Unbroken name ↔ ∀ c ∈ name.toList, isNamePart c = true := by
  constructor
  · rintro ⟨hdot, hhyphen⟩ c hc
    have hpart := h.parts c hc
    have hne : c ≠ '.' ∧ c ≠ '-' := ⟨by rintro rfl; exact hdot hc, by rintro rfl; exact hhyphen hc⟩
    simp only [isComponentPart, Bool.or_eq_true, beq_iff_eq, hne.1, hne.2, or_false] at hpart
    simp only [isNamePart, Bool.or_eq_true, beq_iff_eq]
    exact .inl hpart
  · intro hparts
    exact ⟨fun hc => absurd (hparts _ hc) (by decide), fun hc => absurd (hparts _ hc) (by decide)⟩

theorem forall_isNamePart_typeName_iff :
    (∀ c ∈ (typeName name).toList, isNamePart c = true) ↔ Unbroken name := by
  rw [unbroken_iff h]
  rcases Naming.typeName_append h with hsame | hsuffix
  · rw [hsame]
  · rw [← hsuffix, List.forall_mem_append]
    exact (and_iff_left (List.all_eq_true.mp (by decide))).symm

theorem ledByDigit_typeName_iff : LedByDigit (typeName name) ↔ LedByDigit name := by
  rw [LedByDigit, LedByDigit]
  rcases Naming.typeName_append h with hsame | hsuffix
  · rw [hsame]
  · rw [← hsuffix]
    cases (typeName name).toList with
    | nil => simp [Naming.schemaSuffix]
    | cons c cs => rfl

theorem isIdentifier_typeName_iff : IsIdentifier (typeName name) ↔
    Unbroken name ∧ ¬ LedByDigit name ∧ name ≠ "Schema" ∧ typeName name ∉ words := by
  rw [← forall_isNamePart_typeName_iff h, ← ledByDigit_typeName_iff h, ne_eq,
    ← Naming.typeName_eq_empty_iff h]
  constructor
  · exact fun h => ⟨h.parts, h.not_ledByDigit, h.ne_empty, h.not_word⟩
  · exact fun ⟨hparts, hdigit, hempty, hword⟩ => ⟨hempty, hparts, hdigit, hword⟩

end ComponentName

end TypeScript

namespace Plan

/-- Builders are made for entries, with their names and type names. -/
theorem exists_entry_of_mem_builders {entries : List CanonicalEntry} {b : Builder}
    (h : b ∈ (ofEntries entries).builders) :
    ∃ e ∈ entries, b.entry = e.name ∧ b.type = Naming.typeName e.name := by
  obtain ⟨e, he, hb⟩ := exists_left_of_mem (reflects_ofEntries entries).builds h
  obtain ⟨f, -, rfl⟩ := hb
  exact ⟨e, (firsts_sublist _ entries).subset he, rfl, rfl⟩

end Plan

namespace TypeScript

open Naming (IsComponentName)

/-- The function for a component has an identifier as its name if and only if the component's name
has no dot and no hyphen; its class, if moreover no digit is in front; its type, if moreover there
is more to the name than `Schema` and the rest is no word of the language. -/
theorem isIdentifier_builder_iff {entries : List CanonicalEntry}
    (h : ∀ e ∈ entries, IsComponentName e.name) :
    ∀ b ∈ (Plan.ofEntries entries).builders,
      (IsIdentifier b.className ↔ Unbroken b.entry ∧ ¬ LedByDigit b.entry) ∧
      (IsIdentifier b.factoryName ↔ Unbroken b.entry) ∧
      (IsIdentifier b.type ↔
        Unbroken b.entry ∧ ¬ LedByDigit b.entry ∧ b.entry ≠ "Schema" ∧ b.type ∉ words) := by
  intro b hb
  obtain ⟨e, he, hname, htype⟩ := Plan.exists_entry_of_mem_builders hb
  have hcomponent := h e he
  rw [Builder.factoryName, Builder.className, hname, htype, isIdentifier_className_iff,
    isIdentifier_factoryName_iff, forall_isNamePart_typeName_iff hcomponent,
    ledByDigit_typeName_iff hcomponent, isIdentifier_typeName_iff hcomponent]
  exact ⟨.rfl, .rfl, .rfl⟩

theorem isIdentifier_pet : (∀ e ∈ [CanonicalEntry.ofSchema "PetSchema" (.ofPrimitive .string)],
      IsComponentName e.name) ∧
    (∃ b ∈ (Plan.ofEntries [.ofSchema "PetSchema" (.ofPrimitive .string)]).builders,
      b.type = "Pet" ∧
        IsIdentifier b.className ∧ IsIdentifier b.factoryName ∧ IsIdentifier b.type) := by
  have hcomponents : ∀ e ∈ [CanonicalEntry.ofSchema "PetSchema" (.ofPrimitive .string)],
      IsComponentName e.name :=
    List.forall_mem_singleton.mpr ⟨by decide, List.all_eq_true.mp (by decide)⟩
  have hname : Unbroken "PetSchema" ∧ ¬ LedByDigit "PetSchema" := by decide
  have htype : Naming.typeName "PetSchema" = "Pet" := by decide
  refine ⟨hcomponents, _, List.mem_singleton_self _, htype, ?_⟩
  obtain ⟨hclass, hfactory, htypeName⟩ :=
    isIdentifier_builder_iff hcomponents _ (List.mem_singleton_self _)
  refine ⟨hclass.mpr hname, hfactory.mpr hname.1, htypeName.mpr ⟨hname.1, hname.2, by decide, ?_⟩⟩
  change Naming.typeName "PetSchema" ∉ words
  rw [htype]
  decide

/-- The names for `line-item` have its hyphen, and the type of `Schema` has no name. -/
theorem not_isIdentifier_builders :
    (IsComponentName "line-item" ∧
      ∃ b ∈ (Plan.ofEntries [.ofSchema "line-item" (.ofPrimitive .string)]).builders,
        ¬ IsIdentifier b.className ∧ ¬ IsIdentifier b.factoryName ∧ ¬ IsIdentifier b.type) ∧
    (IsComponentName "Schema" ∧
      ∃ b ∈ (Plan.ofEntries [.ofSchema "Schema" (.ofPrimitive .string)]).builders,
        b.type = "" ∧ ¬ IsIdentifier b.type) := by
  have hbroken : ¬ Unbroken "line-item" := by decide
  have hitem : IsComponentName "line-item" := ⟨by decide, List.all_eq_true.mp (by decide)⟩
  have hschema : IsComponentName "Schema" := ⟨by decide, List.all_eq_true.mp (by decide)⟩
  have hempty := (Naming.typeName_eq_empty_iff hschema).mpr rfl
  have hparts := mt (forall_isNamePart_typeName_iff hitem).mp hbroken
  refine ⟨⟨hitem, _, List.mem_singleton_self _, ?_, ?_, ?_⟩,
    ⟨hschema, _, List.mem_singleton_self _, hempty, fun h => h.ne_empty hempty⟩⟩
  · exact fun h => hparts (isIdentifier_className_iff.mp h).1
  · exact fun h => hparts (isIdentifier_factoryName_iff.mp h)
  · exact fun h => hparts h.parts

end TypeScript

end MockBuilders
