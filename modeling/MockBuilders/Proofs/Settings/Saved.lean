import MockBuilders.Proofs.Toml.Words
import MockBuilders.Settings.Format
import MockBuilders.Settings.Written

/-!
Saved settings as a document: which data their text says. Every table is found again with its
names, and all values but ratios come back as they are. Main statement: `Settings.read?_tomlText`.
-/
namespace MockBuilders

namespace Datum

/-- A value of a document that says some data when it is read. -/
def Told (value : Toml) (d : Datum) : Prop := ∃ v, Toml.Reread value v ∧ ofToml? v = some d

/-- A table under bare names, with values that say some data. -/
def ToldTable (table : Members Toml) (data : Members Datum) : Prop :=
  Toml.Named table ∧ Members.Matched Told table data

variable {m : Members Toml} {data : Members Datum}

theorem exists_of_matched (h : Members.Matched Told m data) :
    ∃ read, Members.Matched Toml.Reread m read ∧ ofTomlMembers? read = some data := by
  induction h with
  | nil => exact ⟨[], .nil, rfl⟩
  | cons key hvalue _ ih =>
    obtain ⟨v, hv, hd⟩ := hvalue
    obtain ⟨read, hread, hmembers⟩ := ih
    exact ⟨(key, v) :: read, .cons key hv hread, by rw [ofTomlMembers?, hd, hmembers]⟩

/-- No bare name stands for a date. -/
theorem moment?_eq_none (hbare : ∀ key ∈ Members.keys m, Toml.StatementState.Bare key) :
    moment? m = none := by
  cases m with
  | nil => rfl
  | cons p m =>
    rw [moment?, if_neg]
    intro hkey
    have hdollar := (hbare p.1 List.mem_cons_self).2 '$' (by rw [hkey]; decide)
    exact absurd hdollar (by decide)

theorem exists_of_toldTable (h : ToldTable m data) :
    ∃ read, Members.Matched Toml.Reread m read ∧ ofToml? (.table read) = some (.table data) := by
  obtain ⟨read, hread, hmembers⟩ := exists_of_matched h.2
  have hmoment : moment? read = none := by
    apply moment?_eq_none
    rw [← hread.keys]
    exact h.1.bare
  exact ⟨read, hread, by rw [ofToml?, hmoment, hmembers]; rfl⟩

theorem exists_of_toldTables {tables : Members (Members Toml)} {data : Members (Members Datum)}
    (h : Members.Matched ToldTable tables data) : ∃ read : Members (Members Toml),
      Members.Matched (fun m n => Toml.Named m ∧ Members.Matched Toml.Reread m n) tables read ∧
        ofTomlMembers? (read.mapValues Toml.table) = some (data.mapValues table) := by
  induction h with
  | nil => exact ⟨[], .nil, rfl⟩
  | cons key htable _ ih =>
    obtain ⟨m, hm, hd⟩ := exists_of_toldTable htable
    obtain ⟨read, hread, htables⟩ := ih
    refine ⟨(key, m) :: read, .cons key ⟨htable.1, hm⟩ hread, ?_⟩
    unfold Members.mapValues at htables ⊢
    rw [List.map_cons, ofTomlMembers?, hd, htables]
    rfl

/-- A written document says what its tables say. -/
theorem read?_documentChars {tables : Members (Members Toml)} {data : Members (Members Datum)}
    (hnamed : Toml.Named tables) (h : Members.Matched ToldTable tables data) :
    SettingsFormat.toml.read? (String.ofList (Toml.documentChars tables)) =
      some (.table (data.mapValues table)) := by
  obtain ⟨read, hread, hdata⟩ := exists_of_toldTables h
  have hmoment : moment? (read.mapValues Toml.table) = none := by
    apply moment?_eq_none
    rw [Members.keys_mapValues, ← hread.keys]
    exact hnamed.bare
  have hdocument := Toml.read?_documentChars ⟨hnamed, hread⟩
  rw [SettingsFormat.read?, hdocument, Option.bind_some, ofToml?, hmoment, hdata]
  rfl

theorem told_string (text : String) : Told (.string text) (string text) :=
  ⟨_, Toml.reread_string text, rfl⟩

theorem told_boolean (b : Bool) : Told (.boolean b) (boolean b) := ⟨_, Toml.reread_boolean b, rfl⟩

theorem told_strings (texts : List String) :
    Told (.array (texts.map .string)) (array (texts.map string)) := by
  have hitems : ofTomlItems? (texts.map Toml.string) = some (texts.map string) := by
    induction texts with
    | nil => rfl
    | cons text texts ih => rw [List.map_cons, ofTomlItems?, ofToml?, ih]; rfl
  exact ⟨_, Toml.reread_strings texts, by rw [ofToml?, hitems]; rfl⟩

end Datum

namespace Probability

/-- A valid probability is read as one value, though not always of the same number. -/
theorem exists_told {p : Probability} (h : p.isValid = true) :
    ∃ c, Datum.Told p.toToml (.scalar c) := by
  cases p with
  | flag b => exact ⟨_, Datum.told_boolean b⟩
  | ratio x =>
    cases x with
    | finite x =>
      obtain ⟨y, hy⟩ := Toml.exists_reread_float h
      exact ⟨_, _, hy, rfl⟩
    | infinite _ => cases h
    | undefined => cases h

end Probability

namespace BuilderOptions

variable {o : BuilderOptions}

theorem isValid_of_fault? (h : o.fault? = none) :
    ∀ p ∈ o.optionalsProbability, p.isValid = true := by
  intro p hp
  have hfault := Option.map_eq_none_iff.mp h
  rw [Option.filter_eq_none_iff] at hfault
  simpa using hfault p hp

theorem exists_told (h : o.fault? = none) {name : OptionName} {value : Toml}
    (hvalue : o.toml? name = some value) : ∃ c, Datum.Told value (.scalar c) := by
  have hboolean {b : Option Bool} (hb : b.map Toml.boolean = some value) :
      ∃ c, Datum.Told value (.scalar c) := by
    obtain ⟨b, -, rfl⟩ := Option.map_eq_some_iff.mp hb
    exact ⟨_, Datum.told_boolean b⟩
  cases name with
  | optionalsProbability =>
    obtain ⟨p, hp, rfl⟩ := Option.map_eq_some_iff.mp hvalue
    exact Probability.exists_told (isValid_of_fault? h p hp)
  | _ => exact hboolean hvalue

/-- Each option that is set says one value. -/
theorem exists_matched (h : o.fault? = none) : ∃ data, Members.Matched Datum.Told o.toToml data ∧
    ∀ p ∈ data, ∃ c, p.2 = .scalar c := by
  unfold toToml
  induction OptionName.all with
  | nil => exact ⟨[], .nil, by simp⟩
  | cons name names ih =>
    obtain ⟨data, hdata, hscalar⟩ := ih
    rw [List.filterMap_cons]
    cases hvalue : o.toml? name with
    | none => exact ⟨data, hdata, hscalar⟩
    | some value =>
      obtain ⟨c, hc⟩ := exists_told h hvalue
      exact ⟨(name.key, .scalar c) :: data, .cons _ hc hdata,
        List.forall_mem_cons.mpr ⟨⟨c, rfl⟩, hscalar⟩⟩

theorem keys_toToml_sublist (o : BuilderOptions) :
    o.toToml.keys.Sublist (OptionName.all.map OptionName.key) := by
  unfold toToml
  induction OptionName.all with
  | nil => exact .slnil
  | cons name names ih =>
    rw [List.filterMap_cons]
    cases o.toml? name with
    | none => exact ih.cons _
    | some value => exact ih.cons_cons _

theorem named_toToml (o : BuilderOptions) : Toml.Named o.toToml where
  distinct := o.keys_toToml_sublist.nodup (by decide)
  bare key hkey := by
    have hbare : ∀ key ∈ OptionName.all.map OptionName.key, Toml.StatementState.Bare key := by
      decide
    exact hbare key (o.keys_toToml_sublist.subset hkey)

end BuilderOptions

namespace PluginSettings

/-- What the settings of the module say. -/
def said (p : PluginSettings) : Members Datum :=
  [("name", .string p.name), ("output", .string p.output),
    ("export_from_index", .boolean p.exportFromIndex)]

theorem keys_said (p : PluginSettings) : p.said.keys = ["name", "output", "export_from_index"] :=
  rfl

end PluginSettings

namespace PathFilter

/-- What the settings of what is loaded say. -/
def said (f : PathFilter) : Members Datum :=
  [("skip_prefixes", .array (f.skipped.map .string)),
    ("include_prefixes", .array (f.included.map .string))]

theorem keys_said (f : PathFilter) : f.said.keys = ["skip_prefixes", "include_prefixes"] := rfl

end PathFilter

namespace Settings

def tables (s : Settings) : Members (Members Toml) :=
  [("plugin", s.plugin.toToml), ("input", s.input.toToml), ("options", s.options.toToml)]

theorem tomlText_eq (s : Settings) : s.tomlText = String.ofList (Toml.documentChars s.tables) := by
  rw [tomlText, tomlChars]
  simp [tables, Toml.documentChars]

theorem named_of_keys {α : Type} {m : Members α} (keys : List String) (h : m.keys = keys)
    (hdistinct : keys.Nodup) (hbare : ∀ key ∈ keys, Toml.StatementState.Bare key) :
    Toml.Named m :=
  ⟨by rwa [Members.Distinct, h], by rwa [h]⟩

/-- What saved settings say, given what their options say. -/
def saidWith (s : Settings) (options : Members Datum) : Members (Members Datum) :=
  [("plugin", s.plugin.said), ("input", s.input.said), ("options", options)]

/-- The names of the options that are set, with one value each. -/
structure SaidOptions (o : BuilderOptions) (data : Members Datum) : Prop where
  keys : data.keys = o.toToml.keys
  scalar : ∀ p ∈ data, ∃ c, p.2 = .scalar c

/-- The text of saved settings says all of them, the options under their names on a builder. -/
theorem read?_tomlText {s : Settings} (h : s.options.fault? = none) : ∃ options,
    SaidOptions s.options options ∧ SettingsFormat.toml.read? s.tomlText =
      some (.table ((s.saidWith options).mapValues .table)) := by
  obtain ⟨options, hoptions, hscalar⟩ := BuilderOptions.exists_matched h
  refine ⟨options, ⟨hoptions.keys.symm, hscalar⟩, ?_⟩
  have hplugin : Datum.ToldTable s.plugin.toToml s.plugin.said :=
    ⟨named_of_keys ["name", "output", "export_from_index"] rfl (by decide) (by decide),
      .cons "name" (Datum.told_string s.plugin.name)
      (.cons "output" (Datum.told_string s.plugin.output)
        (.cons "export_from_index" (Datum.told_boolean s.plugin.exportFromIndex) .nil))⟩
  have hinput : Datum.ToldTable s.input.toToml s.input.said :=
    ⟨named_of_keys ["skip_prefixes", "include_prefixes"] rfl (by decide) (by decide),
      .cons "skip_prefixes" (Datum.told_strings s.input.skipped)
      (.cons "include_prefixes" (Datum.told_strings s.input.included) .nil)⟩
  have htables : Members.Matched Datum.ToldTable s.tables (s.saidWith options) :=
    .cons _ hplugin (.cons _ hinput (.cons _ ⟨s.options.named_toToml, hoptions⟩ .nil))
  rw [tomlText_eq]
  exact Datum.read?_documentChars
    (named_of_keys ["plugin", "input", "options"] rfl (by decide) (by decide)) htables

end Settings

end MockBuilders
