import MockBuilders.Proofs.CommandLine.Index

/-!
The module that an index exports. Where an importing file finds a module is read off the export:
the literal in it, and the path that the literal is from the folder of the index. Where the module
is written is what a generation leaves behind.
Main statements: `Command.entry?_of_run_runGenerate`, `Index.finds_iff` and
`Index.exports_of_run_runGenerate`.
-/
namespace MockBuilders

namespace Path

theorem isRooted_fileName (p : PluginSettings) : isRooted p.fileName = isRooted p.output := by
  by_cases h : p.output = ""
  · rw [PluginSettings.fileName, h]
    rfl
  · exact isRooted_append h _

theorem resolve_here (working : List String) (path : String) :
    resolve working ("./" ++ path) = follow working (segments path) := by
  have hpath : "./" ++ path = "." ++ "/" ++ path := rfl
  have hrooted : isRooted ("." ++ "/" ++ path) = false := by
    rw [String.append_assoc, isRooted_append (by decide)]
    rfl
  have hsegments : segments ("." ++ "/" ++ path) = "." :: segments path := segments_append "." path
  rw [hpath, resolve, hrooted, if_neg Bool.false_ne_true, hsegments, follow_blank (.inr rfl)]

end Path

namespace Command

variable {s : Settings} {c c' : Console} {input folder : String}

theorem eq_of_run_takeIn {intake : Intake} (h : (takeIn s input).run.run c = (.ok intake, c')) :
    c' = c := by
  obtain ⟨_, c₁, hget, h⟩ := Step.exists_of_run_bind h
  obtain ⟨_, c₂, hload, h⟩ := Step.exists_of_run_bind h
  rw [← (Prod.mk.inj h).2, Step.eq_of_run_ofExcept hload, ← (Prod.mk.inj hget).2]

/-- What a generation that succeeds does to the files when the folder for its module is there. -/
theorem exists_of_run_placed {target text said report : String}
    (h : (do
        Step.write target text
        Step.print said
        if s.plugin.exportFromIndex = true then do
          Index.ensure folder s.plugin
          Step.print report
        else Step.print report : Step Unit).run.run c = (.ok (), c')) :
    ∃ written, c.files.write target text = .ok written ∧
      if s.plugin.exportFromIndex then
        ∃ c₁ c₂, c₁.files = written ∧
          (Index.ensure folder s.plugin).run.run c₁ = (.ok (), c₂) ∧ c'.files = c₂.files
      else c'.files = written := by
  obtain ⟨_, c₁, hwrite, h⟩ := Step.exists_of_run_bind h
  obtain ⟨_, c₂, hsaid, h⟩ := Step.exists_of_run_bind h
  refine ⟨c₁.files, Step.exists_of_run_change hwrite, ?_⟩
  split at h
  · next hexport =>
    obtain ⟨_, c₃, hensure, h⟩ := Step.exists_of_run_bind h
    rw [if_pos hexport]
    exact ⟨c₂, c₃, Step.files_of_run_print hsaid, hensure, Step.files_of_run_print h⟩
  · next hexport =>
    rw [if_neg hexport]
    exact (Step.files_of_run_print h).trans (Step.files_of_run_print hsaid)

/-- What a generation that succeeds does to the files. -/
theorem exists_of_run_runGenerate (h : (runGenerate s input folder).run.run c = (.ok (), c')) :
    ∃ made text written, made.working = c.files.working ∧
      FileTree.write made (s.plugin.outputPath folder) text = .ok written ∧
      if s.plugin.exportFromIndex then
        ∃ c₁ c₂, c₁.files = written ∧
          (Index.ensure folder s.plugin).run.run c₁ = (.ok (), c₂) ∧ c'.files = c₂.files
      else c'.files = written := by
  obtain ⟨_, c₁, hheading, h⟩ := Step.exists_of_run_bind h
  obtain ⟨intake, c₂, htake, h⟩ := Step.exists_of_run_bind h
  obtain ⟨_, c₃, hcount, h⟩ := Step.exists_of_run_bind h
  obtain ⟨g, c₄, hgenerated, h⟩ := Step.exists_of_run_bind h
  obtain ⟨file, c₅, hfile, h⟩ := Step.exists_of_run_bind h
  have hfiles : c₅.files = c.files := by
    rw [Step.eq_of_run_ofExcept hfile, Step.eq_of_run_ofExcept hgenerated,
      Step.files_of_run_print hcount, eq_of_run_takeIn htake, Step.files_of_run_print hheading]
  dsimp only at h
  split at h
  · obtain ⟨written, hplaced⟩ := exists_of_run_placed h
    exact ⟨c₅.files, file.content, written, by rw [hfiles], hplaced⟩
  · next parent _ =>
    obtain ⟨_, c₆, hmake, h⟩ := Step.exists_of_run_bind h
    have hworking := FileTree.working_of_makeFolders (Step.exists_of_run_change hmake)
    obtain ⟨written, hplaced⟩ := exists_of_run_placed h
    exact ⟨c₆.files, file.content, written, by rw [hworking, hfiles], hplaced⟩

/-- The index is another file than the module, since their names end differently. -/
theorem locate_path_ne {t : FileTree} {l : Location}
    (hmodule : t.locate (s.plugin.outputPath folder) = .ok l) :
    t.locate (Index.path folder) ≠ .ok l := by
  intro hindex
  obtain ⟨above, habove⟩ := Path.exists_join_eq folder s.plugin.output ".gen.ts"
  obtain ⟨first, hname⟩ :=
    Path.exists_fileName?_eq ".gen.ts" (by decide) (by decide) above
  obtain ⟨above', habove'⟩ := Index.exists_path_eq folder
  obtain ⟨first', hname'⟩ :=
    Path.exists_fileName?_eq "index.ts" (by decide) (by decide) above'
  rw [← habove] at hname
  rw [← habove'] at hname'
  have hnames := String.ofList_inj.mp (FileTree.name_eq_of_locate hname hname' hmodule hindex)
  simpa using congrArg List.reverse hnames

/-- A generation that succeeds leaves the module where the path of the output comes to. -/
theorem entry?_of_run_runGenerate
    (h : (runGenerate s input folder).run.run c = (.ok (), c')) :
    ∃ text, c'.files.entry? (Path.resolve c.files.working (s.plugin.outputPath folder)) =
      some (.file (.text text)) := by
  obtain ⟨made, text, written, hworking, hwrite, hindex⟩ := exists_of_run_runGenerate h
  have hplace := FileTree.locate_of_write hwrite
  have hmodule := FileTree.entry?_of_write hwrite
  rw [hworking] at hplace hmodule
  refine ⟨text, ?_⟩
  split at hindex
  · obtain ⟨c₁, c₂, rfl, hensure, hdone⟩ := hindex
    rw [hdone, Index.entry?_of_run_ensure hensure (locate_path_ne hplace), hmodule]
  · rw [hindex, hmodule]

end Command

namespace Index

variable {p : PluginSettings}

/-- Whether a character stands for itself in a string literal. -/
def isPlain (c : Char) : Bool := c != '"' && c != '\\' && c != '\n' && c != '\r'

/-- The specifier of a line that exports a module. A literal with an escape in it is not read: it
stands for fewer characters than it is written with. -/
def specifier? (line : String) : Option String :=
  match line.toList.dropPrefix? opening with
  | none => none
  | some literal =>
      if literal.dropWhile isPlain = closing ++ ['\n'] then
        some (String.ofList (literal.takeWhile isPlain))
      else none

/-- The file that a specifier without its ending names, for an index in a folder. -/
def found (folder : List String) (specifier : String) : List String :=
  Path.resolve folder (specifier ++ ".ts")

/-- The export names the module if nothing in the name of the module ends the literal or is an
escape in it. -/
theorem specifier?_indexLine_iff :
    specifier? p.indexLine = some p.moduleName ↔ ∀ c ∈ p.output.toList, isPlain c = true := by
  have hline : p.indexLine.toList = opening ++ (p.moduleName.toList ++ (closing ++ ['\n'])) := by
    rw [p.toList_indexLine, p.toList_exported, List.append_assoc, List.append_assoc]
  have hdrop : p.indexLine.toList.dropPrefix? opening =
      some (p.moduleName.toList ++ (closing ++ ['\n'])) :=
    List.dropPrefix?_eq_some_iff.mpr ⟨opening, hline, beq_self_eq_true _⟩
  rw [specifier?, hdrop]
  dsimp only
  constructor
  · intro h c hc
    split at h
    · have hread := String.toList_inj.mpr (Option.some.inj h)
      rw [String.toList_ofList] at hread
      have hmem : c ∈ p.moduleName.toList := by simp [p.toList_moduleName, hc]
      rw [← hread] at hmem
      exact List.mem_takeWhile_imp hmem
    · cases h
  · intro h
    have hplain : ∀ c ∈ p.moduleName.toList, isPlain c = true := by
      simpa [p.toList_moduleName, isPlain, or_imp, forall_and] using h
    have hend : ∀ c ∈ (closing ++ ['\n']).head?, isPlain c = false := by simp [closing, isPlain]
    rw [dropWhile_append_of_head hplain hend, if_pos rfl, takeWhile_append_of_head hplain hend,
      String.ofList_toList]

theorem found_moduleName (folder : List String) (p : PluginSettings) :
    found folder p.moduleName = Path.follow folder (Path.segments p.fileName) := by
  have hname : p.moduleName ++ ".ts" = "./" ++ p.fileName := by
    simp only [PluginSettings.moduleName, PluginSettings.fileName, String.append_assoc]
    rfl
  rw [found, hname, Path.resolve_here]

/-- A generated module is found where it is written, unless the output is rooted: then the export
has to lead up to the root from the folder. -/
theorem found_moduleName_iff (working : List String) (p : PluginSettings) (folder : String) :
    found (Path.resolve working folder) p.moduleName =
        Path.resolve working (p.outputPath folder) ↔
      (Path.isRooted p.output = true →
        (Path.resolve working folder).length ≤ Path.rise 0 (Path.segments p.fileName)) := by
  rw [found_moduleName, PluginSettings.outputPath]
  by_cases hrooted : Path.isRooted p.output = true
  · have hfile : Path.isRooted p.fileName = true := by rwa [Path.isRooted_fileName]
    have hwritten : Path.resolve working (Path.join folder p.fileName) =
        Path.follow [] (Path.segments p.fileName) := by
      rw [Path.join, hfile, Bool.true_or, if_pos rfl, Path.resolve, if_pos hfile]
    rw [hwritten, Path.follow_eq_follow_nil_iff]
    exact ⟨fun h _ => h, fun h => h hrooted⟩
  · have hfile : ¬ Path.isRooted p.fileName = true := by rwa [Path.isRooted_fileName]
    have hwritten : Path.resolve working (Path.join folder p.fileName) =
        Path.follow (Path.resolve working folder) (Path.segments p.fileName) := by
      rw [Path.resolve_join (Bool.eq_false_of_not_eq_true hfile), Path.resolve, if_neg hfile]
    exact ⟨fun _ h => absurd h hrooted, fun _ => hwritten.symm⟩

theorem resolve_path (working : List String) (folder : String) :
    Path.resolve working (path folder) = Path.resolve working folder ++ ["index.ts"] := by
  rw [path, Path.resolve_join (by decide)]
  rfl

/-- The index lies in its folder, and a generated module where the path of the output comes to. The
export names the module if nothing in the output needs an escape, and the name leads to the module
unless the output is rooted. -/
theorem finds_iff (s : Settings) (folder : String) (c : Console) :
    Path.resolve c.files.working (path folder) =
        Path.resolve c.files.working folder ++ ["index.ts"] ∧
    (specifier? s.plugin.indexLine = some s.plugin.moduleName ↔
      ∀ x ∈ s.plugin.output.toList, isPlain x = true) ∧
    (found (Path.resolve c.files.working folder) s.plugin.moduleName =
        Path.resolve c.files.working (s.plugin.outputPath folder) ↔
      (Path.isRooted s.plugin.output = true →
        (Path.resolve c.files.working folder).length ≤
          Path.rise 0 (Path.segments s.plugin.fileName))) ∧
    ∀ input c', (Command.runGenerate s input folder).run.run c = (.ok (), c') →
      ∃ text, c'.files.entry? (Path.resolve c.files.working (s.plugin.outputPath folder)) =
        some (.file (.text text)) :=
  ⟨resolve_path _ folder, specifier?_indexLine_iff, found_moduleName_iff _ s.plugin folder,
    fun _ _ hrun => Command.entry?_of_run_runGenerate hrun⟩

/-- A generation that succeeds leaves an index that exports a module which is there, provided that
the output is plain and not rooted. -/
theorem exports_of_run_runGenerate {s : Settings} {c c' : Console} {input folder : String}
    (hexport : s.plugin.exportFromIndex = true)
    (hplain : ∀ x ∈ s.plugin.output.toList, isPlain x = true)
    (hrooted : Path.isRooted s.plugin.output = false)
    (h : (Command.runGenerate s input folder).run.run c = (.ok (), c')) :
    ∃ index text, c'.files.readText (path folder) = .ok index ∧
      HasOwnLine index s.plugin.exported ∧
      c'.files.entry? (found (Path.resolve c.files.working folder) s.plugin.moduleName) =
        some (.file (.text text)) := by
  have hline : '\n' ∉ s.plugin.output.toList := by
    intro hmem
    cases hplain '\n' hmem
  have hplace := (found_moduleName_iff c.files.working s.plugin folder).mpr fun h => by
    rw [hrooted] at h
    cases h
  obtain ⟨text, htext⟩ := Command.entry?_of_run_runGenerate h
  obtain ⟨made, _, written, -, -, hindex⟩ := Command.exists_of_run_runGenerate h
  rw [if_pos hexport] at hindex
  obtain ⟨c₁, c₂, -, hensure, hdone⟩ := hindex
  obtain ⟨old, -, hread⟩ := exists_of_run_ensure hensure
  rw [← hdone] at hread
  exact ⟨_, text, hread, (hasOwnLine_refreshed_iff old s.plugin).mpr hline, by rw [hplace, htext]⟩

/-- A working folder with an empty folder in it. -/
def emptyFolder : Console := ⟨⟨[], [["src"]], []⟩, ""⟩

theorem standard_finds :
    specifier? PluginSettings.standard.indexLine = some PluginSettings.standard.moduleName ∧
    ∃ c', (Command.runGenerate .standard "src" "src").run.run emptyFolder = (.ok (), c') ∧
      ∃ text, c'.files.entry? (found (Path.resolve emptyFolder.files.working "src")
        PluginSettings.standard.moduleName) = some (.file (.text text)) := by
  obtain ⟨-, hread, hfound, hwritten⟩ := finds_iff .standard "src" emptyFolder
  have hplain : ∀ c ∈ PluginSettings.standard.output.toList, isPlain c = true :=
    List.all_eq_true.mp (by decide)
  have hplace := hfound.mpr fun h => absurd h (by decide)
  have hsucceeds :
      ((Command.runGenerate .standard "src" "src").run.run emptyFolder).1.isOk = true := by
    decide +kernel
  generalize hrun : (Command.runGenerate .standard "src" "src").run.run emptyFolder = r
    at hsucceeds
  obtain ⟨_ | ⟨⟨⟩⟩, c'⟩ := r
  · cases hsucceeds
  · exact ⟨hread.mpr hplain, c', rfl, hplace.symm ▸ hwritten "src" c' hrun⟩

/-- Settings whose output is a rooted path. -/
def rooted : Settings :=
  { Settings.standard with plugin := { PluginSettings.standard with output := "/srv/builders" } }

/-- The module is written to `/srv`; the index of `src` exports one in `src/srv`. -/
theorem rooted_not_found : rooted.fault? = none ∧
    found (Path.resolve [] "src") rooted.plugin.moduleName ≠
      Path.resolve [] (rooted.plugin.outputPath "src") := by
  decide

end Index

end MockBuilders
