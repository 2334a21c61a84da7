import MockBuilders.Files.Tree
import MockBuilders.Proofs.Json.Location
import MockBuilders.Proofs.Relations

/-!
Files that are written: what is found at a path behind a write, and which name there is at the
place that a path leads to. Main statements: `FileTree.find_write` and
`FileTree.getLast?_of_locate`.
-/
namespace MockBuilders

namespace FileTree

variable {t t' : FileTree} {l l' : Location} {path other text : String} {names paths : List String}

theorem find?_put (files : List (Location × Contents)) (l : Location) (c : Contents) :
    (put files l c).find? (fun f => f.1 = l) = some (l, c) := by
  induction files with
  | nil => simp [put]
  | cons f files ih =>
    rw [put]
    split
    · simp
    · next hne => rw [List.find?_cons_of_neg (by simpa using hne), ih]

theorem find?_put_of_ne (files : List (Location × Contents)) (c : Contents) (h : l' ≠ l) :
    (put files l c).find? (fun f => f.1 = l') = files.find? (fun f => f.1 = l') := by
  induction files with
  | nil => simp [put, h.symm]
  | cons f files ih =>
    rw [put]
    split
    · next hf =>
      subst hf
      simp [h.symm]
    · rw [List.find?_cons, List.find?_cons, ih]

theorem isFolder_iff_mem : t.entry? l = some .folder ↔ l = [] ∨ l ∈ t.folders := by
  unfold entry?
  split <;> simp_all

/-- Whoever follows names passes folders only, so files do not matter. -/
theorem walk_of_folders (hfolders : t'.folders = t.folders) (h : t.walk l names = .ok l') :
    t'.walk l names = .ok l' := by
  have hentry {l : Location} (h : t.entry? l = some .folder) : t'.entry? l = some .folder := by
    rwa [isFolder_iff_mem, hfolders, ← isFolder_iff_mem]
  fun_induction walk t l names with
  | case1 => exact h
  | case2 | case3 | case6 => cases h
  | case4 _ name _ hl hpoint ih =>
    rw [walk, hentry hl]
    exact (if_pos hpoint).trans (ih h)
  | case5 _ names hl _ ih =>
    rw [walk, hentry hl]
    exact ih h
  | case7 _ name names hl hpoint hup hlong ih =>
    rw [walk, hentry hl]
    simp only [hpoint, hup, hlong, if_false, ih h]

theorem locate_of_folders (hfolders : t'.folders = t.folders) (hworking : t'.working = t.working)
    (h : t.locate path = .ok l) : t'.locate path = .ok l := by
  unfold locate follow at h ⊢
  split at h
  · cases h
  · next hnul =>
    rw [if_neg hnul]
    split at h
    · cases h
    · next hlong =>
      rw [if_neg hlong]
      split at h
      · cases h
      · cases h
      · exact walk_of_folders hfolders h
      · rw [hworking]
        exact walk_of_folders hfolders h

theorem exists_of_write (h : t.write path text = .ok t') : ∃ l, t.locate path = .ok l ∧
    ¬ (l = [] ∨ l ∈ t.folders) ∧ t' = { t with files := put t.files l (.text text) } := by
  unfold write at h
  split at h
  · cases h
  · next l hfollow =>
    split at h
    · cases h
    · cases h
    · next hplain hfile =>
      have hnames : (named path).1 = Path.segments path := by
        unfold named at hplain ⊢
        dsimp only at hplain ⊢
        split at hplain
        · cases hplain
        · next hslash => rw [if_neg hslash]
      refine ⟨l, by rwa [hnames] at hfollow, fun hl => ?_, (Except.ok.inj h).symm⟩
      exact hfile (isFolder_iff_mem.mpr hl)

/-- A file that is written is found at its path. -/
theorem find_write (h : t.write path text = .ok t') :
    ∃ l, t'.find path = .ok (l, .file (.text text)) := by
  obtain ⟨l, hlocate, hl, rfl⟩ := exists_of_write h
  have hplace : locate { t with files := put t.files l (.text text) } path = .ok l :=
    locate_of_folders (t := t) rfl rfl hlocate
  refine ⟨l, ?_⟩
  rw [find, hplace]
  simp [bind, Except.bind, entry?, hl, find?_put, pure, Except.pure]

theorem write_of_locate (hpath : named path = (Path.segments path, true))
    (hlocate : t.locate path = .ok l) (hl : t.entry? l ≠ some .folder) (text : String) :
    t.write path text = .ok { t with files := put t.files l (.text text) } := by
  rw [write, hpath]
  dsimp only
  rw [← locate, hlocate]
  dsimp only
  split
  · next h => exact absurd h hl
  · next h _ => cases h
  · rfl

/-- A write changes nothing but the place that it is at. -/
theorem entry?_of_write_of_ne (h : t.write path text = .ok t') (hl : t.locate path ≠ .ok l) :
    t'.entry? l = t.entry? l := by
  obtain ⟨l', hlocate, -, rfl⟩ := exists_of_write h
  have hne : l ≠ l' := by
    rintro rfl
    exact hl hlocate
  simp only [find?_put_of_ne _ _ hne, entry?]

theorem working_of_makeFolder (h : t.makeFolder path = .ok t') : t'.working = t.working := by
  unfold makeFolder at h
  split at h
  · cases h
  split at h
  · cases h
  · rw [← Except.ok.inj h]

theorem working_of_makeFirst (h : t.makeFirst paths = .ok t') : t'.working = t.working := by
  induction paths generalizing t' with
  | nil => cases h
  | cons path above ih =>
    unfold makeFirst at h
    split at h
    · rw [← Except.ok.inj h]
    split at h
    · next hmake => rw [← Except.ok.inj h, working_of_makeFolder hmake]
    · split at h
      · cases h
      · next made habove =>
        split at h
        · next hmake => rw [← Except.ok.inj h, working_of_makeFolder hmake, ih habove]
        · split at h
          · rw [← Except.ok.inj h, ih habove]
          · cases h
    · split at h
      · rw [← Except.ok.inj h]
      · cases h

theorem working_of_makeFolders (h : t.makeFolders path = .ok t') : t'.working = t.working := by
  unfold makeFolders at h
  split at h
  · rw [← Except.ok.inj h]
  · exact working_of_makeFirst h

theorem locate_of_find {e : Entry} (h : t.find path = .ok (l, e)) : t.locate path = .ok l := by
  rw [find] at h
  obtain ⟨l', hlocate, hentry⟩ := bind_eq_ok_iff.mp h
  split at hentry
  · rw [hlocate, (Prod.mk.inj (Except.ok.inj hentry)).1]
  · cases hentry

theorem readText_of_find (h : t.find path = .ok (l, .file (.text text))) :
    t.readText path = .ok text := by
  simp [readText, contents, h, bind, Except.bind, Contents.text?]

theorem find_congr (h : t.locate path = t.locate other) : t.find path = t.find other := by
  unfold find
  rw [h]

end FileTree

/-- What holds no separator is put to the last part. -/
theorem Text.exists_split_append {sep : Char} {ys : List Char} (h : sep ∉ ys) (xs : List Char) :
    ∃ init last, split sep (xs ++ ys) = init ++ [last ++ ys] := by
  induction xs with
  | nil => exact ⟨[], [], split_of_not_mem h⟩
  | cons x xs ih =>
    obtain ⟨init, last, ih⟩ := ih
    rw [List.cons_append, split, ih]
    split
    · exact ⟨[] :: init, last, rfl⟩
    · cases init with
      | nil => exact ⟨[], x :: last, rfl⟩
      | cons part init => exact ⟨(x :: part) :: init, last, rfl⟩

namespace Path

/-- A segment that is the name of a file or of a folder. -/
structure Names (segment : String) : Prop where
  ne_empty : segment ≠ ""
  ne_here : segment ≠ "."
  ne_up : segment ≠ ".."

theorem find?_reverse_range {p : Nat → Bool} {n i : Nat}
    (h : (List.range n).reverse.find? p = some i) : ∀ j, i < j → j < n → p j = false := by
  induction n with
  | zero => cases h
  | succ n ih =>
    rw [List.range_succ, List.reverse_append, List.reverse_singleton, List.singleton_append,
      List.find?_cons] at h
    intro j hij hj
    split at h
    · cases h
      omega
    · next hn =>
      rcases Nat.lt_succ_iff_lt_or_eq.mp hj with hj | rfl
      · exact ih h j hij hj
      · exact hn

/-- Behind the last name of a path there is nothing with a meaning of its own. -/
theorem exists_segments_eq {path name : String} (h : fileName? path = some name) :
    ∃ before after, segments path = before ++ name :: after ∧ Names name ∧
      ∀ s ∈ after, s = "" ∨ s = "." := by
  unfold fileName? at h
  dsimp only at h
  split at h
  · cases h
  · next i hfind =>
    obtain ⟨hname, hnames⟩ := Option.filter_eq_some_iff.mp h
    simp only [Bool.and_eq_true, bne_iff_ne] at hnames
    obtain ⟨⟨hempty, hhere⟩, hup⟩ := hnames
    obtain ⟨hi, hget⟩ := List.getElem?_eq_some_iff.mp hname
    refine ⟨(segments path).take i, (segments path).drop (i + 1), ?_, ⟨hempty, hhere, hup⟩, ?_⟩
    · rw [← hget, ← List.drop_eq_getElem_cons hi, List.take_append_drop]
    · intro s hs
      obtain ⟨k, hk, rfl⟩ := List.mem_iff_getElem.mp hs
      rw [List.length_drop] at hk
      have hbehind := find?_reverse_range hfind (i + 1 + k) (by omega) (by omega)
      rw [List.getElem_drop]
      unfold isComponent at hbehind
      rw [List.getElem?_eq_getElem (by omega)] at hbehind
      split at hbehind
      · next hs => exact .inl (Option.some.inj hs)
      · next hs => exact .inr (Option.some.inj hs)
      · cases hbehind
      · next hs => cases hs

theorem fileName?_of_concat {path name : String} {before : List String}
    (h : segments path = before ++ [name]) (hname : Names name) : fileName? path = some name := by
  have hlength : (segments path).length = before.length + 1 := by rw [h]; simp
  have hget : (segments path)[before.length]? = some name := by rw [h]; simp
  have hcomponent : isComponent (segments path) before.length = true := by
    unfold isComponent
    rw [hget]
    split
    · next heq => exact absurd (Option.some.inj heq) hname.ne_empty
    · next heq => exact absurd (Option.some.inj heq) hname.ne_here
    · rfl
    · next heq => cases heq
  unfold fileName?
  dsimp only
  rw [hlength, List.range_succ, List.reverse_append, List.reverse_singleton,
    List.singleton_append, List.find?_cons_of_pos hcomponent]
  simp [hget, hname.ne_empty, hname.ne_here, hname.ne_up]

theorem exists_segments_append (ending : String) (hslash : '/' ∉ ending.toList) (path : String) :
    ∃ init first, segments (path ++ ending) = init ++ [String.ofList (first ++ ending.toList)] := by
  obtain ⟨init, first, hsplit⟩ := Text.exists_split_append hslash path.toList
  refine ⟨init.map String.ofList, first, ?_⟩
  rw [segments, String.toList_append, hsplit, List.map_append, List.map_singleton]

/-- An ending that is long enough for a name ends the last name of a path. -/
theorem exists_fileName?_eq (ending : String) (hslash : '/' ∉ ending.toList)
    (hlength : 2 < ending.toList.length) (path : String) :
    ∃ first, fileName? (path ++ ending) = some (String.ofList (first ++ ending.toList)) := by
  obtain ⟨init, first, hsegments⟩ := exists_segments_append ending hslash path
  have hne (short : String) (hshort : short.toList.length ≤ 2) :
      String.ofList (first ++ ending.toList) ≠ short := by
    rintro rfl
    rw [String.toList_ofList, List.length_append] at hshort
    omega
  exact ⟨first, fileName?_of_concat hsegments
    ⟨hne "" (by decide), hne "." (by decide), hne ".." (by decide)⟩⟩

/-- An ending that is put to a path is put to its last name. -/
theorem exists_fileName?_append {ending : List Char} (hslash : '/' ∉ ending)
    (hpoint : '.' ∉ ending) (hne : ending ≠ []) (path : String) : ∃ first : List Char,
      fileName? (path ++ "." ++ String.ofList ending) =
        some (String.ofList (first ++ '.' :: ending)) := by
  have hchars : ("." ++ String.ofList ending).toList = '.' :: ending := by simp
  have hplain : '/' ∉ ("." ++ String.ofList ending).toList := by simp [hchars, hslash]
  obtain ⟨init, first, hsegments⟩ := exists_segments_append _ hplain path
  rw [hchars, ← String.append_assoc] at hsegments
  have hend : (first ++ '.' :: ending).getLast? = ending.getLast? := by
    rw [List.getLast?_append_cons, List.getLast?_cons, List.getLast?_eq_some_getLast hne]
    rfl
  have hnames : ∀ s : String, '.' ∈ s.toList.getLast? ∨ s = "" →
      String.ofList (first ++ '.' :: ending) ≠ s := by
    rintro s hs rfl
    rw [String.toList_ofList, hend] at hs
    rcases hs with hs | hs
    · exact hpoint (List.mem_of_getLast? hs)
    · simpa using congrArg String.toList hs
  exact ⟨first, fileName?_of_concat hsegments
    ⟨hnames "" (.inr rfl), hnames "." (.inl rfl), hnames ".." (.inl rfl)⟩⟩

theorem getLast?_split_of_splitName {name ending : String}
    (h : (splitName name).2 = some ending) :
    (Text.split '.' name.toList).getLast? = some ending.toList := by
  unfold splitName at h
  split at h
  · cases h
  · cases h
  · next first second more hsplit =>
    dsimp only at h
    split at h
    · cases h
    · rw [hsplit, ← Option.some.inj h, String.toList_ofList,
        List.getLast?_eq_some_getLast (by simp), List.getLastD_eq_getLast?,
        List.getLast?_eq_some_getLast (by simp)]
      rfl

/-- The ending of a name that an ending was put to. -/
theorem ending_of_splitName {first ending : List Char} {found : String} (hpoint : '.' ∉ ending)
    (h : (splitName (String.ofList (first ++ '.' :: ending))).2 = some found) :
    found = String.ofList ending := by
  have hlast := getLast?_split_of_splitName h
  rw [String.toList_ofList, Text.split_append, Text.split_of_not_mem hpoint, List.getLast?_concat]
    at hlast
  rw [Option.some.inj hlast, String.ofList_toList]

end Path

namespace FileTree

variable {t : FileTree} {l l' : Location} {path name : String}

theorem walk_blank {names : List String} (hnames : ∀ s ∈ names, s = "" ∨ s = ".")
    (h : t.walk l names = .ok l') : l' = l := by
  induction names with
  | nil => exact (Except.ok.inj h).symm
  | cons s names ih =>
    obtain ⟨hs, hnames⟩ := List.forall_mem_cons.mp hnames
    rw [walk] at h
    split at h
    · cases h
    · cases h
    · rw [if_pos hs] at h
      exact ih hnames h

theorem getLast?_walk {before after : List String} (hname : Path.Names name)
    (hafter : ∀ s ∈ after, s = "" ∨ s = ".") (h : t.walk l (before ++ name :: after) = .ok l') :
    l'.getLast? = some name := by
  induction before generalizing l with
  | nil =>
    rw [List.nil_append, walk] at h
    split at h
    · cases h
    · cases h
    · rw [if_neg (not_or.mpr ⟨hname.ne_empty, hname.ne_here⟩), if_neg hname.ne_up] at h
      split at h
      · cases h
      · rw [walk_blank hafter h, List.getLast?_concat]
  | cons s before ih =>
    rw [List.cons_append, walk] at h
    split at h
    · cases h
    · cases h
    · split at h
      · exact ih h
      · split at h
        · exact ih h
        · split at h
          · cases h
          · exact ih h

/-- A path leads to a place of its own last name. -/
theorem getLast?_of_locate (hname : Path.fileName? path = some name)
    (h : t.locate path = .ok l) : l.getLast? = some name := by
  obtain ⟨before, after, hsegments, hplain, hafter⟩ := Path.exists_segments_eq hname
  unfold locate follow at h
  rw [hsegments] at h
  split at h
  · cases h
  split at h
  · cases h
  split at h
  · cases h
  · cases h
  · next names _ hfirst =>
    cases before with
    | nil => exact absurd (List.cons.inj hfirst).1 hplain.ne_empty
    | cons s before =>
      rw [← (List.cons.inj hfirst).2] at h
      exact getLast?_walk hplain hafter h
  · exact getLast?_walk hplain hafter h

/-- Paths that lead to one place have one last name. -/
theorem name_eq_of_locate {other name' : String} (hname : Path.fileName? path = some name)
    (hother : Path.fileName? other = some name') (h : t.locate path = .ok l)
    (h' : t.locate other = .ok l) : name = name' :=
  Option.some.inj ((getLast?_of_locate hname h).symm.trans (getLast?_of_locate hother h'))

end FileTree

end MockBuilders
