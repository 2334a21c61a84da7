import MockBuilders.Proofs.CommandLine.Steps
import MockBuilders.Proofs.Decimal.Numerals
import MockBuilders.Proofs.Files.Resolution

/-!
The index that is kept up to date. The line that exports a module is put at the end of the index
unless it stands there, so what was there stays, and a second run finds the line: unless the name of
the output breaks the line in two. Main statements: `Index.run_ensure`,
`Index.eq_of_run_ensure_error` and `Index.ensure_iff`.
-/
namespace MockBuilders

namespace Text

variable {said before after : List Char}

def Blank (cs : List Char) : Prop := ∀ c ∈ cs, isBlank c = true

theorem blank_nil : Blank [] := by
  simp [Blank]

theorem blank_newline : Blank ['\n'] := by
  rintro _ (_ | ⟨_, ⟨⟩⟩)
  decide

/-- Only blanks are trimmed. -/
theorem exists_eq_trim (cs : List Char) :
    ∃ before after, Blank before ∧ Blank after ∧ cs = before ++ trim cs ++ after := by
  refine ⟨cs.takeWhile isBlank, ((cs.dropWhile isBlank).reverse.takeWhile isBlank).reverse,
    fun c hc => List.mem_takeWhile_imp hc,
    fun c hc => List.mem_takeWhile_imp (List.mem_reverse.mp hc), ?_⟩
  rw [trim, trimEnd, List.append_assoc, ← List.reverse_append, List.takeWhile_append_dropWhile,
    List.reverse_reverse, List.takeWhile_append_dropWhile]

/-- What neither starts nor ends with a blank is left when blanks around it are trimmed. -/
theorem trim_between (hne : said ≠ []) (hfirst : ∀ c ∈ said.head?, isBlank c = false)
    (hlast : ∀ c ∈ said.getLast?, isBlank c = false) (hbefore : Blank before)
    (hafter : Blank after) : trim (before ++ said ++ after) = said := by
  have hstart : ∀ c ∈ (said ++ after).head?, isBlank c = false := by
    rwa [List.head?_append_of_ne_nil _ hne]
  have hend : ∀ c ∈ said.reverse.head?, isBlank c = false := by rwa [List.head?_reverse]
  have hblank : ∀ c ∈ after.reverse, isBlank c = true := fun c hc =>
    hafter c (List.mem_reverse.mp hc)
  rw [trim, List.append_assoc, dropWhile_append_of_head hbefore hstart, trimEnd,
    List.reverse_append, dropWhile_append_of_head hblank hend, List.reverse_reverse]

end Text

namespace Index

/-- How the lines of an index start that export a module. -/
def opening : List Char := "export * from \"".toList

/-- How they end. -/
def closing : List Char := ['"', ';']

theorem toList_between (before text after : String) :
    (before ++ text ++ after).toList = before.toList ++ (text.toList ++ after.toList) := by
  rw [String.toList_append, String.toList_append, List.append_assoc]

end Index

namespace PluginSettings

/-- What the line of an index says. -/
def exported (p : PluginSettings) : String := "export * from \"" ++ p.moduleName ++ "\";"

theorem toList_moduleName (p : PluginSettings) :
    p.moduleName.toList = ['.', '/'] ++ (p.output.toList ++ ['.', 'g', 'e', 'n']) :=
  Index.toList_between "./" p.output ".gen"

theorem toList_exported (p : PluginSettings) :
    p.exported.toList = Index.opening ++ (p.moduleName.toList ++ Index.closing) :=
  Index.toList_between "export * from \"" p.moduleName "\";"

theorem toList_indexLine (p : PluginSettings) :
    p.indexLine.toList = p.exported.toList ++ ['\n'] := by
  have hline : p.indexLine.toList =
      Index.opening ++ (p.moduleName.toList ++ ['"', ';', '\n']) :=
    Index.toList_between "export * from \"" p.moduleName "\";\n"
  rw [hline, toList_exported, List.append_assoc, List.append_assoc]
  rfl

/-- The name of the output is what can break the line in two. -/
theorem newline_mem_exported_iff (p : PluginSettings) :
    '\n' ∈ p.exported.toList ↔ '\n' ∈ p.output.toList := by
  have hopening : '\n' ∉ Index.opening := by decide
  have hclosing : '\n' ∉ Index.closing := by decide
  simp [toList_exported, toList_moduleName, hopening, hclosing]

theorem trim_exported (p : PluginSettings) {before after : List Char}
    (hbefore : Text.Blank before) (hafter : Text.Blank after) :
    Text.trim (before ++ p.exported.toList ++ after) = p.exported.toList := by
  have hhead : p.exported.toList.head? = some 'e' := by rw [toList_exported]; rfl
  have hlast : p.exported.toList.getLast? = some ';' := by
    simp [toList_exported, Index.closing]
  refine Text.trim_between (fun h => ?_) ?_ ?_ hbefore hafter
  · rw [h] at hhead
    cases hhead
  · rw [hhead]
    rintro _ ⟨⟩
    rfl
  · rw [hlast]
    rintro _ ⟨⟩
    rfl

end PluginSettings

namespace Index

variable {t : FileTree} {c c' : Console} {p : PluginSettings} {folder old text : String}

theorem exists_path_eq (folder : String) : ∃ above, path folder = above ++ "index.ts" :=
  Path.exists_join_eq folder "" "index.ts"

/-- The path of an index ends in a name. -/
theorem named_path (folder : String) :
    FileTree.named (path folder) = (Path.segments (path folder), true) := by
  obtain ⟨above, habove⟩ := exists_path_eq folder
  obtain ⟨init, first, hsegments⟩ :=
    Path.exists_segments_append "index.ts" (by decide) above
  have hlast : (Path.segments (path folder)).getLast? ≠ some "" := by
    rw [habove, hsegments, List.getLast?_concat]
    simp
  unfold FileTree.named
  simp [hlast]

/-- An index holds a text: there is nothing at its place and the text is empty, or a file with the
text. -/
def Holds (t : FileTree) (folder text : String) : Prop :=
  ∃ l, t.locate (path folder) = .ok l ∧
    (text = "" ∧ t.entry? l = none ∨ t.entry? l = some (.file (.text text)))

theorem Holds.textOf (h : Holds t folder text) : textOf t (path folder) = .ok text := by
  obtain ⟨l, hlocate, ⟨rfl, hnone⟩ | hfile⟩ := h
  · have hfind : t.find (path folder) = .error .notFound := by
      simp [FileTree.find, hlocate, hnone, bind, Except.bind]
    simp [Index.textOf, FileTree.contains, hfind]
  · have hfind : t.find (path folder) = .ok (l, .file (.text text)) := by
      simp [FileTree.find, hlocate, hfile, bind, Except.bind, pure, Except.pure]
    simp [Index.textOf, FileTree.contains, hfind, FileTree.readText_of_find hfind]

theorem readText_of_textOf {place : String} (h : textOf t place = .ok text) (hne : text ≠ "") :
    t.readText place = .ok text := by
  unfold textOf at h
  split at h
  · exact h
  · exact absurd (Except.ok.inj h).symm hne

theorem Holds.exists_write (h : Holds t folder old) (text : String) :
    ∃ t', t.write (path folder) text = .ok t' ∧ Holds t' folder text := by
  obtain ⟨l, hlocate, hentry⟩ := h
  have hl : t.entry? l ≠ some .folder := by
    rintro hfolder
    rcases hentry with ⟨-, hnone⟩ | hfile
    · simp [hfolder] at hnone
    · simp [hfolder] at hfile
  have hwrite := FileTree.write_of_locate (named_path folder) hlocate hl text
  obtain ⟨l', hfind⟩ := FileTree.find_write hwrite
  exact ⟨_, hwrite, l', FileTree.locate_of_find hfind, .inr (FileTree.entry?_of_find hfind)⟩

/-- What an update of an index comes to. -/
theorem run_ensure (folder : String) (p : PluginSettings) (c : Console) :
    (ensure folder p).run.run c =
      match textOf c.files (path folder) with
      | .error e => (.error (.unread (path folder) e), c)
      | .ok text =>
          match updated? text p.indexLine with
          | none => (.ok (), c)
          | some updated =>
              match c.files.write (path folder) updated with
              | .error e => (.error (.unwritten (path folder) e), c)
              | .ok t => (.ok (), ⟨t, c.printed ++ ("✅ Updated " ++ path folder ++ "\n")⟩) := by
  rw [ensure, Step.run_bind, Step.run_get]
  dsimp only
  rw [Step.run_bind, Step.run_ofExcept]
  cases textOf c.files (path folder) with
  | error => rfl
  | ok text =>
    simp only [Except.mapError]
    cases updated? text p.indexLine with
    | none => rfl
    | some updated =>
      dsimp only
      rw [Step.run_bind, Step.write, Step.run_change]
      cases c.files.write (path folder) updated <;> rfl

/-- A text has a line that says this and nothing else but blanks. -/
def HasOwnLine (text said : String) : Prop :=
  ∃ before after, Text.Blank before ∧ Text.Blank after ∧
    before ++ said.toList ++ after ∈ Text.split '\n' text.toList

theorem hasLine_iff (text : String) (p : PluginSettings) :
    hasLine text p.indexLine = true ↔ HasOwnLine text p.exported := by
  have hline : Text.trim p.indexLine.toList = p.exported.toList := by
    have htrim := p.trim_exported Text.blank_nil Text.blank_newline
    rwa [List.nil_append, ← PluginSettings.toList_indexLine] at htrim
  simp only [hasLine, List.any_eq_true, beq_iff_eq, hline]
  constructor
  · rintro ⟨cs, hcs, htrim⟩
    obtain ⟨before, after, hbefore, hafter, heq⟩ := Text.exists_eq_trim cs
    rw [htrim] at heq
    exact ⟨before, after, hbefore, hafter, heq ▸ hcs⟩
  · rintro ⟨before, after, hbefore, hafter, hcs⟩
    exact ⟨_, hcs, p.trim_exported hbefore hafter⟩

theorem not_mem_of_hasOwnLine (h : HasOwnLine text p.exported) : '\n' ∉ p.output.toList := by
  obtain ⟨before, after, -, -, hcs⟩ := h
  have hline := Text.not_mem_split '\n' _ _ hcs
  simp only [List.mem_append, not_or] at hline
  rw [← p.newline_mem_exported_iff]
  exact hline.1.2

/-- What is put to a text starts a line of its own. -/
theorem exists_append_eq (text line : String) :
    ∃ above : List Char, (append text line).toList = above ++ line.toList ∧
      text.toList <+: above ∧ (above = [] ∨ ∃ lines, above = lines ++ ['\n']) := by
  unfold append
  split
  · next h =>
    refine ⟨text.toList, String.toList_append, List.prefix_refl _, ?_⟩
    rcases Bool.or_eq_true_iff.mp h with h | h
    · exact .inl (by simpa using h)
    · exact .inr (List.getLast?_eq_some_iff.mp (beq_iff_eq.mp h))
  · exact ⟨text.toList ++ ['\n'], by rw [String.toList_append, String.toList_append]; rfl,
      List.prefix_append _ _, .inr ⟨_, rfl⟩⟩

theorem hasOwnLine_append (h : '\n' ∉ p.output.toList) (text : String) :
    HasOwnLine (append text p.indexLine) p.exported := by
  obtain ⟨above, happend, -, habove⟩ := exists_append_eq text p.indexLine
  have hline : Text.split '\n' p.indexLine.toList = [p.exported.toList, []] := by
    rw [PluginSettings.toList_indexLine, Text.split_append,
      Text.split_of_not_mem (mt p.newline_mem_exported_iff.mp h)]
    rfl
  refine ⟨[], [], Text.blank_nil, Text.blank_nil, ?_⟩
  rw [happend, List.nil_append, List.append_nil]
  rcases habove with rfl | ⟨lines, rfl⟩
  · simp [hline]
  · rw [List.append_assoc, List.singleton_append, Text.split_append, hline]
    simp

/-- The text that an index has after an update. -/
def refreshed (text : String) (p : PluginSettings) : String :=
  (updated? text p.indexLine).getD text

theorem refreshed_of_hasOwnLine (h : HasOwnLine text p.exported) : refreshed text p = text := by
  rw [refreshed, updated?, if_pos ((hasLine_iff text p).mpr h)]
  rfl

theorem refreshed_of_not_hasOwnLine (h : ¬HasOwnLine text p.exported) :
    refreshed text p = append text p.indexLine := by
  rw [refreshed, updated?, if_neg (mt (hasLine_iff text p).mp h)]
  rfl

theorem prefix_refreshed (text : String) (p : PluginSettings) :
    text.toList <+: (refreshed text p).toList := by
  by_cases h : HasOwnLine text p.exported
  · rw [refreshed_of_hasOwnLine h]
  · rw [refreshed_of_not_hasOwnLine h]
    obtain ⟨above, happend, hprefix, -⟩ := exists_append_eq text p.indexLine
    rw [happend]
    exact hprefix.trans (List.prefix_append _ _)

theorem hasOwnLine_refreshed_iff (text : String) (p : PluginSettings) :
    HasOwnLine (refreshed text p) p.exported ↔ '\n' ∉ p.output.toList := by
  refine ⟨not_mem_of_hasOwnLine, fun hplain => ?_⟩
  by_cases h : HasOwnLine text p.exported
  · rwa [refreshed_of_hasOwnLine h]
  · rw [refreshed_of_not_hasOwnLine h]
    exact hasOwnLine_append hplain text

theorem refreshed_ne_empty (text : String) (p : PluginSettings) : refreshed text p ≠ "" := by
  intro h
  by_cases hown : HasOwnLine text p.exported
  · rw [refreshed_of_hasOwnLine hown] at h
    obtain ⟨before, after, -, -, hcs⟩ := hown
    rw [h] at hcs
    simp [Text.split, PluginSettings.toList_exported, closing] at hcs
  · rw [refreshed_of_not_hasOwnLine hown] at h
    obtain ⟨above, happend, -⟩ := exists_append_eq text p.indexLine
    simp [h, PluginSettings.toList_indexLine] at happend

theorem append_ne (text : String) (p : PluginSettings) : append text p.indexLine ≠ text := by
  intro h
  obtain ⟨above, happend, hprefix, -⟩ := exists_append_eq text p.indexLine
  have hlength := congrArg List.length happend
  have hle := hprefix.length_le
  rw [h, PluginSettings.toList_indexLine] at hlength
  simp only [List.length_append, List.length_singleton] at hlength
  omega

theorem refreshed_eq_iff (text : String) (p : PluginSettings) :
    refreshed text p = text ↔ HasOwnLine text p.exported := by
  refine ⟨fun h => ?_, refreshed_of_hasOwnLine⟩
  by_contra hown
  rw [refreshed_of_not_hasOwnLine hown] at h
  exact append_ne text p h

/-- An update gives an index its new text. -/
theorem exists_run_ensure (p : PluginSettings) (h : Holds c.files folder old) :
    ∃ c', (ensure folder p).run.run c = (.ok (), c') ∧
      Holds c'.files folder (refreshed old p) ∧ (HasOwnLine old p.exported → c' = c) := by
  rw [run_ensure, h.textOf]
  dsimp only
  by_cases hown : HasOwnLine old p.exported
  · rw [updated?, if_pos ((hasLine_iff old p).mpr hown), refreshed_of_hasOwnLine hown]
    exact ⟨c, rfl, h, fun _ => rfl⟩
  · obtain ⟨t', hwrite, hholds⟩ := h.exists_write (append old p.indexLine)
    rw [updated?, if_neg (mt (hasLine_iff old p).mp hown), refreshed_of_not_hasOwnLine hown]
    dsimp only
    rw [hwrite]
    exact ⟨_, rfl, hholds, fun hline => absurd hline hown⟩

/-- After an update that succeeds the index has its new text. -/
theorem exists_of_run_ensure (h : (ensure folder p).run.run c = (.ok (), c')) :
    ∃ old, textOf c.files (path folder) = .ok old ∧
      c'.files.readText (path folder) = .ok (refreshed old p) := by
  rw [run_ensure] at h
  split at h
  · cases (Prod.mk.inj h).1
  · next old htext =>
    refine ⟨old, htext, ?_⟩
    have hne := refreshed_ne_empty old p
    unfold refreshed at hne ⊢
    split at h
    · next hkept =>
      rw [hkept] at hne ⊢
      rw [← (Prod.mk.inj h).2]
      exact readText_of_textOf htext hne
    · next updated hupdated =>
      split at h
      · cases (Prod.mk.inj h).1
      · next hwrite =>
        obtain ⟨l, hfind⟩ := FileTree.find_write hwrite
        rw [hupdated, ← (Prod.mk.inj h).2]
        exact FileTree.readText_of_find hfind

/-- An update that succeeds changes no file but the index. -/
theorem entry?_of_run_ensure {l : Location} (h : (ensure folder p).run.run c = (.ok (), c'))
    (hl : c.files.locate (path folder) ≠ .ok l) : c'.files.entry? l = c.files.entry? l := by
  rw [run_ensure] at h
  split at h
  · cases (Prod.mk.inj h).1
  split at h
  · rw [← (Prod.mk.inj h).2]
  split at h
  · cases (Prod.mk.inj h).1
  · next hwrite =>
    rw [← (Prod.mk.inj h).2]
    exact FileTree.entry?_of_write_of_ne hwrite hl

/-- An update that fails leaves everything as it was. -/
theorem eq_of_run_ensure_error {f : CommandFailure}
    (h : (ensure folder p).run.run c = (.error f, c')) : c' = c := by
  rw [run_ensure] at h
  split at h
  · exact (Prod.mk.inj h).2.symm
  split at h
  · cases (Prod.mk.inj h).1
  split at h
  · exact (Prod.mk.inj h).2.symm
  · cases (Prod.mk.inj h).1

/-- An update leaves the files as they are only if it finds the line. -/
theorem files_eq_iff (h : Holds c.files folder text)
    (hrun : (ensure folder p).run.run c = (.ok (), c')) :
    c'.files = c.files ↔ HasOwnLine text p.exported := by
  obtain ⟨c', hrun', hholds, hsame⟩ := exists_run_ensure p h
  obtain rfl := (Prod.mk.inj (hrun.symm.trans hrun')).2
  constructor
  · intro hfiles
    rw [hfiles] at hholds
    exact (refreshed_eq_iff text p).mp (Except.ok.inj (hholds.textOf.symm.trans h.textOf))
  · intro hown
    rw [hsame hown]

/-- What an index held stands at the start of what it holds after an update. There the line is one
of its own, and another update leaves the files as they are, if and only if the name of the output
does not break the line. -/
theorem ensure_iff (p : PluginSettings) (h : Holds c.files folder old) :
    ∃ c' new c'', (ensure folder p).run.run c = (.ok (), c') ∧
      c'.files.readText (path folder) = .ok new ∧ old.toList <+: new.toList ∧
      (∀ l, c.files.locate (path folder) ≠ .ok l → c'.files.entry? l = c.files.entry? l) ∧
      (HasOwnLine new p.exported ↔ '\n' ∉ p.output.toList) ∧
      (ensure folder p).run.run c' = (.ok (), c'') ∧
      (c''.files = c'.files ↔ '\n' ∉ p.output.toList) := by
  obtain ⟨c', hrun, hholds, -⟩ := exists_run_ensure p h
  obtain ⟨c'', hagain, -⟩ := exists_run_ensure p hholds
  have hread := readText_of_textOf hholds.textOf (refreshed_ne_empty old p)
  have hown := hasOwnLine_refreshed_iff old p
  exact ⟨c', refreshed old p, c'', hrun, hread, prefix_refreshed old p,
    fun _ hl => entry?_of_run_ensure hrun hl, hown, hagain,
    (files_eq_iff hholds hagain).trans hown⟩

/-- A folder with an index whose last line is not ended. -/
def indexed : Console := ⟨⟨[(["src", "index.ts"], .text "export {}")], [["src"]], []⟩, ""⟩

theorem indexed_ensure : Holds indexed.files "src" "export {}" ∧
    ∃ c' new c'', (ensure "src" .standard).run.run indexed = (.ok (), c') ∧
      c'.files.readText (path "src") = .ok new ∧ "export {}".toList <+: new.toList ∧
      HasOwnLine new PluginSettings.standard.exported ∧
      (ensure "src" .standard).run.run c' = (.ok (), c'') ∧ c''.files = c'.files := by
  have hholds : Holds indexed.files "src" "export {}" := ⟨["src", "index.ts"], rfl, .inr rfl⟩
  have hplain : '\n' ∉ PluginSettings.standard.output.toList := by decide
  obtain ⟨c', new, c'', hrun, hread, hprefix, -, hown, hagain, hfiles⟩ :=
    ensure_iff .standard hholds
  exact ⟨hholds, c', new, c'', hrun, hread, hprefix, hown.mpr hplain, hagain, hfiles.mpr hplain⟩

/-- Settings whose output has two lines. -/
def broken : Settings :=
  { Settings.standard with plugin := { PluginSettings.standard with output := "a\nb" } }

/-- The line is looked for among single lines, where none of two lines can be. -/
theorem broken_ensure : broken.fault? = none ∧ Holds .empty "" "" ∧
    ∃ c' new c'', (ensure "" broken.plugin).run.run ⟨.empty, ""⟩ = (.ok (), c') ∧
      c'.files.readText (path "") = .ok new ∧ ¬HasOwnLine new broken.plugin.exported ∧
      (ensure "" broken.plugin).run.run c' = (.ok (), c'') ∧ c''.files ≠ c'.files := by
  have hholds : Holds .empty "" "" := ⟨["index.ts"], rfl, .inl ⟨rfl, rfl⟩⟩
  obtain ⟨c', hrun, hkept, -⟩ := exists_run_ensure (c := ⟨.empty, ""⟩) broken.plugin hholds
  obtain ⟨c'', hagain, -⟩ := exists_run_ensure broken.plugin hkept
  have hown : ¬HasOwnLine (refreshed "" broken.plugin) broken.plugin.exported := by
    rw [hasOwnLine_refreshed_iff]
    decide
  have hread := readText_of_textOf hkept.textOf (refreshed_ne_empty "" broken.plugin)
  exact ⟨by decide, hholds, c', _, c'', hrun, hread, hown, hagain,
    mt (files_eq_iff hkept hagain).mp hown⟩

end Index

end MockBuilders
