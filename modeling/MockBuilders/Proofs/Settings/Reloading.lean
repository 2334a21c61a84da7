import MockBuilders.Proofs.Files.Writing
import MockBuilders.Proofs.Relations
import MockBuilders.Proofs.Settings.Layering
import MockBuilders.Proofs.Settings.Saved
import MockBuilders.Settings.Sources

/-!
Saved settings loaded again. Names are taken in lower case on the way, so options, which are
written under their names on a builder, are passed over; everything else comes back.
Main statements: `Settings.settings_of_save` and `Settings.reloaded_eq_iff`.
-/
namespace MockBuilders

namespace Record

variable {α : Type} {members : Members α} {name : String} {names : List String} {v : α}

theorem field?_named_of_not_mem (h : ∀ p ∈ members, p.1 ∉ names) (place : Nat) :
    (named members).field? place names = some none := by
  have hnone : members.filter (fun p => names.contains p.1) = [] := by
    simpa [List.filter_eq_nil_iff] using h
  rw [field?, hnone]

theorem field?_named (hm : members.Distinct) (h : members.get? name = some v) (place : Nat) :
    (named members).field? place [name] = some (some (name, v)) := by
  have hone : members.filter (fun p => [name].contains p.1) = [(name, v)] := by
    induction members with
    | nil => cases h
    | cons p members ih =>
      obtain ⟨hp, hm⟩ := List.nodup_cons.mp hm
      rw [Members.get?] at h
      split at h
      · next hkey =>
        have hrest : members.filter (fun q => [name].contains q.1) = [] := by
          rw [List.filter_eq_nil_iff]
          intro q hq hcontains
          have hname : q.1 = name := by simpa using hcontains
          exact hp (hkey.trans hname.symm ▸ List.mem_map_of_mem hq)
        rw [List.filter_cons_of_pos (by simp [hkey]), hrest, ← hkey, ← Option.some.inj h]
      · next hkey => rw [List.filter_cons_of_neg (by simpa using hkey), ih hm h]
  rw [field?, hone]

end Record

namespace Stored

variable {α : Type} {members : Members Stored} {v : Stored}

theorem field_named (hm : members.Distinct) (name : String) (h : members.get? name = some v)
    (key : String) (place : Nat) (read : String → Stored → Except SettingsFailure α)
    (standard : α) :
    reader.field (.named members) key place [name] read standard =
      read (Record.below key name) v := by
  rw [ValueReader.field, Record.field?_named hm h]

theorem ofItems_eq (source : String) (items : List Datum) :
    ofItems source items = items.map (ofDatum source) := by
  induction items with
  | nil => rfl
  | cons item items ih => rw [ofItems, ih, List.map_cons]

theorem asStrings_texts (source key : String) (texts : List String) :
    asStrings key (ofDatum source (.array (texts.map .string))) = .ok texts := by
  have hitems (places : List Nat) (h : texts.length ≤ places.length) :
      ((texts.map fun text => scalar (some source) (.string text)).zip places).mapM
        (fun p => asString (Record.below key ("[" ++ Nat.repr p.2 ++ "]")) p.1) = .ok texts := by
    rw [mapM_eq_ok_iff]
    induction texts generalizing places with
    | nil => exact .nil
    | cons text texts ih =>
      cases places with
      | nil => cases h
      | cons place places => exact .cons rfl (ih places (Nat.le_of_succ_le_succ h))
  rw [ofDatum, ofItems_eq, List.map_map, asStrings]
  exact hitems _ (by simp)

section Groups
variable {m : Members Datum} {d : Datum}

theorem record_group (h : ∀ key ∈ m.keys, Text.lower key = key) (source called : String)
    (count : Nat) : reader.record called count (group source m) =
      .ok (.named (m.mapValues (ofDatum source))) := by
  have hlowered : lowered m = m := by
    refine (List.map_congr_left fun p hp => ?_).trans (List.map_id m)
    rw [h p.1 (List.mem_map_of_mem hp)]
    rfl
  rw [group, hlowered]
  rfl

theorem field_group (hm : m.Distinct) (name : String) (h : m.get? name = some d)
    (source key : String) (place : Nat) (read : String → Stored → Except SettingsFailure α)
    (standard : α) :
    reader.field (.named (m.mapValues (ofDatum source))) key place [name] read standard =
      read (Record.below key name) (ofDatum source d) := by
  have hdistinct : (m.mapValues (ofDatum source)).Distinct := by
    rwa [Members.Distinct, Members.keys_mapValues]
  exact field_named hdistinct name (by rw [Members.get?_mapValues, h]; rfl) key place read standard

end Groups

theorem plugin_group (source key : String) (p : PluginSettings) :
    reader.plugin key (group source p.said) = .ok p := by
  have hlower : ∀ key ∈ p.said.keys, Text.lower key = key := by
    rw [p.keys_said]
    decide
  have hm : p.said.Distinct := by
    rw [Members.Distinct, p.keys_said]
    decide
  simp only [ValueReader.plugin, record_group hlower, bind, Except.bind]
  rw [field_group hm "name" rfl, field_group hm "output" rfl,
    field_group hm "export_from_index" rfl]
  rfl

theorem input_group (source key : String) (f : PathFilter) :
    reader.input key (group source f.said) = .ok f := by
  have hlower : ∀ key ∈ f.said.keys, Text.lower key = key := by
    rw [f.keys_said]
    decide
  have hm : f.said.Distinct := by
    rw [Members.Distinct, f.keys_said]
    decide
  have hstrings (name : String) (texts : List String)
      (h : f.said.get? name = some (.array (texts.map .string))) (place : Nat)
      (standard : List String) :
      reader.field (.named (f.said.mapValues (ofDatum source))) key place [name] reader.strings
        standard = .ok texts :=
    (field_group hm name h source key place reader.strings standard).trans
      (asStrings_texts source _ texts)
  simp only [ValueReader.input, record_group hlower, bind, Except.bind,
    hstrings "skip_prefixes" f.skipped rfl, hstrings "include_prefixes" f.included rfl]
  rfl

/-- Members under names that no option has are passed over. -/
theorem options_of_unknown {members : Members Stored}
    (h : ∀ p ∈ members, ∀ name ∈ OptionName.all, p.1 ≠ name.key ∧ p.1 ≠ name.lowerKey)
    (key : String) : reader.options key (table none members) = .ok .unset := by
  have hoption {α : Type} (name : OptionName) (hname : name ∈ OptionName.all) (place : Nat)
      (read : String → Stored → Except SettingsFailure α) :
      reader.option (.named members) key place name read = .ok none := by
    have hnames : ∀ p ∈ members, p.1 ∉ [name.key, name.lowerKey] := fun p hp => by
      simpa using h p hp name hname
    rw [ValueReader.option, ValueReader.field, Record.field?_named_of_not_mem hnames]
  have hrecord : reader.record "BuilderOptions" 5 (table none members) = .ok (.named members) := rfl
  simp only [ValueReader.options, hrecord, bind, Except.bind]
  rw [hoption .useDefault (by decide), hoption .useExamples (by decide),
    hoption .alwaysIncludeOptionals (by decide), hoption .optionalsProbability (by decide),
    hoption .omitNulls (by decide)]
  rfl

end Stored

namespace Settings

variable {s : Settings} {options : Members Datum}

theorem SaidOptions.sublist {o : BuilderOptions} (h : SaidOptions o options) :
    options.keys.Sublist (OptionName.all.map OptionName.key) := by
  rw [h.keys]
  exact o.keys_toToml_sublist

theorem layerable_saidWith (h : SaidOptions s.options options) :
    Stored.Layerable (s.saidWith options) where
  distinct := by
    change ["plugin", "input", "options"].Nodup
    decide
  plain := by
    intro name hname
    simp only [saidWith, Members.keys_cons, Members.keys_nil, List.mem_cons, List.not_mem_nil,
      or_false] at hname
    rcases hname with rfl | rfl | rfl
    · exact Stored.plain_of_chars (by decide) (List.all_eq_true.mp (by decide)) (by decide)
    · exact Stored.plain_of_chars (by decide) (List.all_eq_true.mp (by decide)) (by decide)
    · exact Stored.plain_of_chars (by decide) (List.all_eq_true.mp (by decide)) (by decide)
  flat := by
    have hplugin : Stored.Flat s.plugin.said := by
      simp [Stored.Flat, PluginSettings.said, Datum.table?, Datum.string, Datum.boolean]
    have hinput : Stored.Flat s.input.said := by simp [Stored.Flat, PathFilter.said, Datum.table?]
    have hoptions : Stored.Flat options := by
      intro p hp
      obtain ⟨c, hc⟩ := h.scalar p hp
      rw [hc]
      rfl
    simp [saidWith, hplugin, hinput, hoptions]
  lowered := by
    have hplugin : (Stored.lowered s.plugin.said).Distinct :=
      Stored.distinct_lowered (.refl _) (by rw [PluginSettings.keys_said]; decide)
    have hinput : (Stored.lowered s.input.said).Distinct :=
      Stored.distinct_lowered (.refl _) (by rw [PathFilter.keys_said]; decide)
    have hoptions : (Stored.lowered options).Distinct :=
      Stored.distinct_lowered h.sublist (by decide)
    simp [saidWith, hplugin, hinput, hoptions]

/-- No option goes by a name on a builder in lower case, so none is found. -/
theorem options_group (h : SaidOptions s.options options) (source key : String) :
    Stored.reader.options key (Stored.group source options) = .ok .unset := by
  refine Stored.options_of_unknown (fun p hp => ?_) key
  have hlower : ∀ name ∈ OptionName.all.map OptionName.key, ∀ other ∈ OptionName.all,
      Text.lower name ≠ other.key ∧ Text.lower name ≠ other.lowerKey := by decide
  have hkey : p.1 ∈ options.keys.map Text.lower := by
    rw [← Stored.keys_lowered, ← Members.keys_mapValues (Stored.ofDatum source)]
    exact List.mem_map_of_mem hp
  obtain ⟨name, hname, hp⟩ := List.mem_map.mp hkey
  rw [← hp]
  exact hlower name (h.sublist.subset hname)

/-- What saved settings leave when they are laid down is read as the settings without options. -/
theorem settings_groups (h : SaidOptions s.options options) (source : String) :
    Stored.reader.settings (.table none (Stored.groups source (s.saidWith options))) =
      .ok { s with options := .unset } := by
  have hm := Stored.distinct_groups (layerable_saidWith h).distinct source
  have hplugin : Stored.reader.field (.named (Stored.groups source (s.saidWith options))) "" 0
      ["plugin"] Stored.reader.plugin .standard = .ok s.plugin :=
    (Stored.field_named hm "plugin" rfl _ _ _ _).trans (Stored.plugin_group source _ s.plugin)
  have hinput : Stored.reader.field (.named (Stored.groups source (s.saidWith options))) "" 1
      ["input"] Stored.reader.input .standard = .ok s.input :=
    (Stored.field_named hm "input" rfl _ _ _ _).trans (Stored.input_group source _ s.input)
  have hoptions : Stored.reader.field (.named (Stored.groups source (s.saidWith options))) "" 2
      ["options"] Stored.reader.options .unset = .ok .unset :=
    (Stored.field_named hm "options" rfl _ _ _ _).trans (options_group h source _)
  have hrecord : Stored.reader.record "BuildersConfig" 3
      (.table none (Stored.groups source (s.saidWith options))) =
        .ok (.named (Stored.groups source (s.saidWith options))) := rfl
  simp only [ValueReader.settings, hrecord, bind, Except.bind, hplugin, hinput, hoptions]
  rfl

end Settings

namespace SettingsSources

variable {t : FileTree} {l : Location} {path other found text : String} {format : SettingsFormat}
  {data : Members (Members Datum)} {root : Members Stored}

/-- An ending that is tried on a path is that of TOML if it leads to a file with that ending. -/
theorem format_of_candidate {name : String} (hname : Path.fileName? path = some name)
    (htoml : (Path.splitName name).2 = some "toml") (hpath : t.locate path = .ok l)
    (hcandidate : (found, format) ∈ candidates other) (hfound : t.locate found = .ok l) :
    format = .toml := by
  unfold candidates at hcandidate
  split at hcandidate
  · cases hcandidate
  · obtain ⟨e, he, hcandidate⟩ := List.mem_map.mp hcandidate
    obtain ⟨rfl, rfl⟩ := Prod.mk.inj hcandidate
    have hplain : ∀ e ∈ SettingsFormat.endings,
        '/' ∉ e.1.toList ∧ '.' ∉ e.1.toList ∧ e.1.toList ≠ [] := by decide
    have hformat : ∀ e ∈ SettingsFormat.endings, "toml" = e.1 → e.2 = .toml := by decide
    obtain ⟨hslash, hpoint, hne⟩ := hplain e he
    obtain ⟨first, hfirst⟩ := Path.exists_fileName?_append hslash hpoint hne
      ((Path.ancestry other).headD "")
    rw [String.ofList_toList] at hfirst
    rw [FileTree.name_eq_of_locate hname hfirst hpath hfound] at htoml
    have hending := Path.ending_of_splitName hpoint htoml
    rw [String.ofList_toList] at hending
    exact hformat e he hending

/-- Whatever path leads to a file with the ending of TOML, it is taken for TOML. -/
theorem format_eq_toml (hending : Path.extension? path = some "toml")
    (hpath : t.locate path = .ok l) (hresolve : resolve t other = .ok (found, format))
    (hfound : t.locate found = .ok l) : format = .toml := by
  obtain ⟨name, hname, htoml⟩ := Option.bind_eq_some_iff.mp hending
  unfold resolve at hresolve
  split at hresolve
  · split at hresolve
    · next hformat =>
      cases hresolve
      obtain ⟨ending, hother, hending⟩ := Option.bind_eq_some_iff.mp hformat
      obtain ⟨name', hname', hsplit⟩ := Option.bind_eq_some_iff.mp hother
      rw [← FileTree.name_eq_of_locate hname hname' hpath hfound, htoml] at hsplit
      rw [← Option.some.inj hsplit] at hending
      exact (Option.some.inj hending).symm
    · cases hresolve
  · split at hresolve
    · next hfind =>
      cases hresolve
      exact format_of_candidate hname htoml hpath (List.mem_of_find?_eq_some hfind) hfound
    · cases hresolve

theorem resolve_of_isFile (hending : Path.extension? path = some "toml")
    (hfile : t.isFile path = true) : resolve t path = .ok (path, .toml) := by
  rw [resolve, if_pos hfile, hending]
  rfl

/-- A file of TOML is laid over the values of other sources. -/
theorem exists_layFile (hresolve : resolve t path = .ok (found, .toml))
    (hfind : t.find found = .ok (l, .file (.text text)))
    (hread : SettingsFormat.toml.read? text = some (.table (data.mapValues .table)))
    (needed : Bool) (root : Members Stored) : ∃ source, layFile t needed root path =
      .ok (Stored.layOver root (Stored.ofMembers source (data.mapValues .table))) := by
  have htext : t.readText found = .ok text := FileTree.readText_of_find hfind
  have htextOf : textOf t path = .ok (text, .toml, Path.relativeTo t.working found) := by
    rw [textOf, hresolve]
    simp only [bind, Except.bind, htext]
    rfl
  refine ⟨Path.relativeTo t.working found, ?_⟩
  rw [layFile, htextOf]
  simp only [hread, Option.bind_some]
  rfl

/-- Nothing is laid down yet, or some tables as one source leaves them. -/
def Laid (data : Members (Members Datum)) (root : Members Stored) : Prop :=
  root = [] ∨ ∃ source, root = Stored.groups source data

theorem Laid.layOver (hdata : Stored.Layerable data) (h : Laid data root) (source : String) :
    Stored.layOver root (Stored.ofMembers source (data.mapValues .table)) =
      Stored.groups source data := by
  rcases h with rfl | ⟨other, rfl⟩
  · exact Stored.layOver_nil hdata source
  · exact Stored.layOver_groups hdata other source

/-- No file is offered but the one at a path, and no variable is about settings. -/
structure Alone (s : SettingsSources) (path : String) : Prop where
  files : ∀ file ∈ s.offered, ∀ found format, resolve s.files file = .ok (found, format) →
    s.files.locate found = s.files.locate path
  environment : ∀ p ∈ s.environment, Environment.key? p.1 = none

theorem Alone.stored_environment {s : SettingsSources} (h : s.Alone path) :
    Environment.stored s.environment = [] := by
  have hnone : s.environment.filterMap (fun p => (Environment.key? p.1).map fun key =>
      (key, Environment.value p.2)) = [] := by
    rw [List.filterMap_eq_nil_iff]
    intro p hp
    rw [h.environment p hp]
    rfl
  rw [Environment.stored, hnone]
  rfl

section Offered
variable {s : SettingsSources} (halone : s.Alone path)
  (hending : Path.extension? path = some "toml") (hdata : Stored.Layerable data)
  (hfind : s.files.find path = .ok (l, .file (.text text)))
  (hread : SettingsFormat.toml.read? text = some (.table (data.mapValues .table)))
include halone hending hdata hfind hread

/-- An offered file is missing, or it is the file itself once more. -/
theorem Laid.offered {file : String} (hfile : file ∈ s.offered) (hroot : Laid data root) :
    ∃ root', layFile s.files false root file = .ok root' ∧ Laid data root' := by
  have hlocate := FileTree.locate_of_find hfind
  cases hresolve : resolve s.files file with
  | error f =>
    refine ⟨root, ?_, hroot⟩
    rw [layFile, textOf, hresolve]
    rfl
  | ok r =>
    obtain ⟨found, format⟩ := r
    have hfound := halone.files file hfile found format hresolve
    have hformat := format_eq_toml hending hlocate hresolve (hfound.trans hlocate)
    rw [hformat] at hresolve
    have hfindFound := (FileTree.find_congr hfound).trans hfind
    obtain ⟨source, hlaid⟩ := exists_layFile hresolve hfindFound hread false root
    exact ⟨_, hlaid, .inr ⟨source, hroot.layOver hdata source⟩⟩

theorem exists_offered :
    ∃ root, s.offered.foldlM (layFile s.files false) [] = .ok root ∧ Laid data root := by
  have hfold (files : List String) (hfiles : files ⊆ s.offered) (root : Members Stored)
      (hroot : Laid data root) : ∃ root', files.foldlM (layFile s.files false) root = .ok root' ∧
        Laid data root' := by
    induction files generalizing root with
    | nil => exact ⟨root, rfl, hroot⟩
    | cons file files ih =>
      obtain ⟨hfile, hfiles⟩ := List.cons_subset.mp hfiles
      obtain ⟨next, hnext, hlaid⟩ := hroot.offered halone hending hdata hfind hread hfile
      obtain ⟨last, hlast, hlaid⟩ := ih hfiles next hlaid
      refine ⟨last, ?_, hlaid⟩
      rw [List.foldlM_cons, hnext]
      exact hlast
  exact hfold s.offered (List.Subset.refl _) [] (.inl rfl)

end Offered

end SettingsSources

namespace Settings

variable {s : Settings} {t t' : FileTree} {path : String} {environment : List (String × String)}

theorem fault?_unset (h : s.fault? = none) : { s with options := .unset }.fault? = none := by
  unfold fault? at h ⊢
  split at h
  · cases h
  · next houtput => rw [if_neg houtput]; rfl

theorem fault?_options (h : s.fault? = none) : s.options.fault? = none := by
  unfold fault? at h
  split at h
  · cases h
  · exact h

/-- Settings that are saved and then loaded come back without their options. -/
theorem settings_of_save (hvalid : s.fault? = none) (hsave : s.save t path = .ok t')
    (hending : Path.extension? path = some "toml")
    (halone : SettingsSources.Alone ⟨t', environment, some path⟩ path) :
    (SettingsSources.mk t' environment (some path)).settings =
      .ok { s with options := .unset } := by
  obtain ⟨options, hoptions, hread⟩ := read?_tomlText (fault?_options hvalid)
  have hdata := layerable_saidWith hoptions
  obtain ⟨l, hfind⟩ := FileTree.find_write hsave
  have hfile : t'.isFile path = true := by rw [FileTree.isFile, hfind]
  obtain ⟨root, hoffered, hroot⟩ := SettingsSources.exists_offered halone hending hdata hfind hread
  have hresolve := SettingsSources.resolve_of_isFile hending hfile
  obtain ⟨source, hchosen⟩ := SettingsSources.exists_layFile hresolve hfind hread true root
  rw [hroot.layOver hdata] at hchosen
  have hvalues : (SettingsSources.mk t' environment (some path)).values =
      .ok (Stored.groups source (s.saidWith options)) := by
    have hstored : Environment.stored environment = [] := halone.stored_environment
    unfold SettingsSources.values
    simp [bind, Except.bind, hoffered, hchosen, hstored, Stored.layOver, pure, Except.pure]
  unfold SettingsSources.settings
  simp only [bind, Except.bind, hvalues, settings_groups hoptions source, fault?_unset hvalid]
  rfl

/-- Of valid settings that are saved to a file of TOML, what is about the module and about what is
loaded comes back, and the whole if and only if no option is set. -/
theorem reloaded_eq_iff (hvalid : s.fault? = none) (hsave : s.save t path = .ok t')
    (hending : Path.extension? path = some "toml")
    (halone : SettingsSources.Alone ⟨t', environment, some path⟩ path) :
    ∃ loaded, (SettingsSources.mk t' environment (some path)).settings = .ok loaded ∧
      loaded.plugin = s.plugin ∧ loaded.input = s.input ∧
        (loaded = s ↔ s.options = .unset) := by
  refine ⟨_, settings_of_save hvalid hsave hending halone, rfl, rfl, ?_⟩
  constructor
  · exact fun h => (congrArg options h).symm
  · intro h
    rw [← h]

/-- Standard settings, but with mocks that take the default values of schemas. -/
def prefilled : Settings :=
  { standard with options := { BuilderOptions.unset with useDefault := some true } }

/-- A folder with saved settings and nothing else. -/
def savedTree (s : Settings) : FileTree := ⟨[(["saved.toml"], .text s.tomlText)], [], []⟩

theorem save_empty (s : Settings) : s.save .empty "saved.toml" = .ok s.savedTree := by
  rfl

theorem alone_savedTree (s : Settings) :
    SettingsSources.Alone ⟨s.savedTree, [], some "saved.toml"⟩ "saved.toml" where
  files := by
    intro file hfile found format hresolve
    have hoffered : file ∈ SettingsSources.standardFiles := by
      simpa [SettingsSources.offered, SettingsSources.userFile?, SettingsSources.userFolder?,
        Members.get?] using hfile
    have hmissing : SettingsSources.resolve s.savedTree file = .error (.missing file) := by
      simp only [SettingsSources.standardFiles, List.mem_cons, List.not_mem_nil, or_false]
        at hoffered
      rcases hoffered with rfl | rfl | rfl <;> rfl
    rw [hmissing] at hresolve
    cases hresolve
  environment := by simp

theorem prefilled_reloaded : prefilled.fault? = none ∧
    prefilled.save .empty "saved.toml" = .ok prefilled.savedTree ∧
    Path.extension? "saved.toml" = some "toml" ∧
    SettingsSources.Alone ⟨prefilled.savedTree, [], some "saved.toml"⟩ "saved.toml" ∧
    ∃ loaded,
      (SettingsSources.mk prefilled.savedTree [] (some "saved.toml")).settings = .ok loaded ∧
      loaded.plugin = prefilled.plugin ∧ loaded.input = prefilled.input ∧
        (loaded = prefilled ↔ prefilled.options = .unset) :=
  ⟨rfl, save_empty _, rfl, alone_savedTree _,
    reloaded_eq_iff rfl (save_empty _) rfl (alone_savedTree _)⟩

/-- The option is saved as `useDefault` and laid down as `usedefault`, which is no option's name. -/
theorem prefilled_not_reloaded : prefilled.fault? = none ∧
    prefilled.save .empty "saved.toml" = .ok prefilled.savedTree ∧
    SettingsSources.Alone ⟨prefilled.savedTree, [], some "saved.toml"⟩ "saved.toml" ∧
    (SettingsSources.mk prefilled.savedTree [] (some "saved.toml")).settings ≠ .ok prefilled := by
  refine ⟨rfl, save_empty _, alone_savedTree _, ?_⟩
  have hloaded : (SettingsSources.mk prefilled.savedTree [] (some "saved.toml")).settings =
      .ok { prefilled with options := .unset } :=
    settings_of_save rfl (save_empty _) rfl (alone_savedTree _)
  rw [hloaded]
  decide

end Settings

end MockBuilders
