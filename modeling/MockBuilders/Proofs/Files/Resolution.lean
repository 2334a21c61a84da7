import MockBuilders.Proofs.Files.Writing

/-!
Paths followed on paper. From a folder a path comes to where it does when it is joined to the
folder, unless it is rooted; a rooted one does so only if it leads up as far as the folder is deep.
What is written at a path is found where the path comes to.
Main statements: `Path.resolve_join`, `Path.follow_eq_follow_nil_iff` and
`FileTree.entry?_of_write`.
-/
namespace MockBuilders

namespace Path

variable {working names : List String} {base path : String}

/-- How many folders names lead up from where they start; the depth counts the names below it that
are there to be left first. -/
def rise : Nat → List String → Nat
  | _, [] => 0
  | depth, name :: names =>
      if name = "" ∨ name = "." then rise depth names
      else if name = ".." then
        if depth = 0 then rise 0 names + 1 else rise (depth - 1) names
      else rise (depth + 1) names

theorem follow_append (folder names more : List String) :
    follow folder (names ++ more) = follow (follow folder names) more :=
  List.foldl_append

theorem follow_blank {name : String} (h : name = "" ∨ name = ".") (folder names : List String) :
    follow folder (name :: names) = follow folder names := by
  rw [follow, List.foldl_cons, if_pos h]
  rfl

theorem follow_up (folder names : List String) :
    follow folder (".." :: names) = follow folder.dropLast names :=
  rfl

theorem follow_name {name : String} (hblank : ¬(name = "" ∨ name = ".")) (hup : name ≠ "..")
    (folder names : List String) :
    follow folder (name :: names) = follow (folder ++ [name]) names := by
  rw [follow, List.foldl_cons, if_neg hblank, if_neg hup]
  rfl

/-- Names followed from a folder leave what they do not lead up from. -/
theorem follow_append_folder (folder below names : List String) :
    follow (folder ++ below) names =
      folder.take (folder.length - rise below.length names) ++ follow below names := by
  induction names generalizing folder below with
  | nil => simp [follow, rise]
  | cons name names ih =>
    rw [rise]
    by_cases hblank : name = "" ∨ name = "."
    · rw [follow_blank hblank, follow_blank hblank, ih, if_pos hblank]
    rw [if_neg hblank]
    by_cases hup : name = ".."
    · subst hup
      rw [follow_up, follow_up, if_pos rfl]
      rcases below.eq_nil_or_concat with rfl | ⟨below, last, rfl⟩
      · -- nothing is left below the folder, so its own last name is left
        have hrise := ih folder.dropLast []
        rw [List.append_nil, List.length_nil] at hrise
        rw [List.append_nil, hrise, List.dropLast_eq_take, List.take_take, List.length_take,
          List.length_nil, if_pos rfl, List.dropLast_nil]
        congr 2
        omega
      · rw [List.concat_eq_append, ← List.append_assoc, List.dropLast_concat, List.dropLast_concat,
          ih, List.length_append, List.length_singleton, if_neg (Nat.succ_ne_zero _),
          Nat.add_sub_cancel]
    · rw [follow_name hblank hup, follow_name hblank hup, List.append_assoc, ih, if_neg hup,
        List.length_append, List.length_singleton]

/-- Names lead from a folder to where they lead from the root only if they lead up to it. -/
theorem follow_eq_follow_nil_iff (folder names : List String) :
    follow folder names = follow [] names ↔ folder.length ≤ rise 0 names := by
  have hfollow := follow_append_folder folder [] names
  rw [List.append_nil] at hfollow
  rw [hfollow, List.append_left_eq_self, List.take_eq_nil_iff]
  constructor
  · rintro (h | h)
    · exact Nat.le_of_sub_eq_zero h
    · rw [h]
      exact Nat.zero_le _
  · exact fun h => .inl (Nat.sub_eq_zero_of_le h)

theorem segments_append (path other : String) :
    segments (path ++ "/" ++ other) = segments path ++ segments other := by
  have hchars : (path ++ "/" ++ other).toList = path.toList ++ '/' :: other.toList := by simp
  rw [segments, hchars, Text.split_append, List.map_append]
  rfl

theorem isRooted_append (hbase : base ≠ "") (path : String) :
    isRooted (base ++ path) = isRooted base := by
  have hchars : base.toList ≠ [] := by simpa using hbase
  rw [isRooted, isRooted, String.toList_append, List.head?_append_of_ne_nil _ hchars]

/-- The first segment of a rooted path is empty, and others follow. -/
theorem isRooted_iff {first : String} (h : segments path = first :: names) :
    isRooted path = true ↔ first = "" ∧ names ≠ [] := by
  constructor
  · intro hrooted
    obtain ⟨cs, hcs⟩ := List.head?_eq_some_iff.mp (beq_iff_eq.mp hrooted)
    have hpath : path = "" ++ "/" ++ String.ofList cs := String.toList_inj.mp (by simp [hcs])
    have hrest : segments (String.ofList cs) ≠ [] := by simp [segments, Text.split_ne_nil]
    rw [hpath, segments_append] at h
    obtain ⟨rfl, rfl⟩ := List.cons.inj h
    exact ⟨rfl, hrest⟩
  · rintro ⟨rfl, hnames⟩
    obtain ⟨next, rest, rfl⟩ := List.exists_cons_of_ne_nil hnames
    have hpath := ofSegments_segments path
    rw [h] at hpath
    rw [← hpath, isRooted, ofSegments, String.toList_ofList]
    rfl

theorem resolve_append (hbase : base ≠ "") (working : List String) (hpath : isRooted path = false) :
    resolve working (base ++ "/" ++ path) = resolve (resolve working base) path := by
  rw [resolve, resolve, resolve, String.append_assoc, isRooted_append hbase, ← String.append_assoc,
    segments_append, follow_append, hpath, if_neg Bool.false_ne_true]

/-- A path joined to a folder comes to where it comes from the folder. -/
theorem resolve_join (hpath : isRooted path = false) (working : List String) (base : String) :
    resolve working (join base path) = resolve (resolve working base) path := by
  unfold join
  split
  · next h =>
    have hbase : base = "" := by simpa [hpath] using h
    rw [hbase]
    rfl
  · next h =>
    have hbase : base ≠ "" := by
      rintro rfl
      exact h (Bool.or_true _)
    split
    · next hslash =>
      -- the slash at the end of the folder is the one that parts it from the path
      obtain ⟨cs, hcs⟩ := List.getLast?_eq_some_iff.mp hslash
      obtain ⟨above, rfl⟩ : ∃ above, base = above ++ "/" :=
        ⟨String.ofList cs, String.toList_inj.mp (by simp [hcs])⟩
      have hsegments := segments_append above ""
      rw [String.append_empty] at hsegments
      rw [resolve, resolve, resolve, isRooted_append hbase, segments_append, hsegments,
        follow_append, follow_append, hpath, if_neg Bool.false_ne_true]
      rfl
    · exact resolve_append hbase working hpath

theorem exists_join_eq (base path ending : String) :
    ∃ above, join base (path ++ ending) = above ++ ending := by
  unfold join
  split
  · exact ⟨path, rfl⟩
  split
  · exact ⟨base ++ path, by rw [String.append_assoc]⟩
  · exact ⟨base ++ "/" ++ path, by simp only [String.append_assoc]⟩

end Path

namespace FileTree

variable {t t' : FileTree} {l l' : Location} {path text : String} {names : List String}

/-- A tree is walked as paper has it. -/
theorem eq_follow_of_walk (h : t.walk l names = .ok l') : l' = Path.follow l names := by
  fun_induction walk t l names with
  | case1 => exact (Except.ok.inj h).symm
  | case2 | case3 | case6 => cases h
  | case4 _ _ _ _ hblank ih => rw [ih h, Path.follow_blank hblank]
  | case5 _ _ _ _ ih => rw [ih h, Path.follow_up]
  | case7 _ _ _ _ hblank hup _ ih => rw [ih h, Path.follow_name hblank hup]

theorem eq_resolve_of_locate (h : t.locate path = .ok l) : l = Path.resolve t.working path := by
  unfold locate follow at h
  split at h
  · cases h
  split at h
  · cases h
  split at h
  · cases h
  · cases h
  · next names hone hsegments =>
    have hrooted : Path.isRooted path = true :=
      (Path.isRooted_iff hsegments).mpr ⟨rfl, hone⟩
    rw [eq_follow_of_walk h, Path.resolve, if_pos hrooted, hsegments]
    rfl
  · next names hnone hone hfirst =>
    have hrooted : ¬ Path.isRooted path = true := by
      obtain ⟨first, rest, hsegments⟩ := List.exists_cons_of_ne_nil hnone
      rw [Path.isRooted_iff hsegments]
      rintro ⟨rfl, -⟩
      exact hfirst rest hsegments
    rw [eq_follow_of_walk h, Path.resolve, if_neg hrooted]

theorem entry?_of_find {e : Entry} (h : t.find path = .ok (l, e)) : t.entry? l = some e := by
  rw [find] at h
  obtain ⟨l', -, hentry⟩ := bind_eq_ok_iff.mp h
  split at hentry
  · next hfound =>
    obtain ⟨rfl, rfl⟩ := Prod.mk.inj (Except.ok.inj hentry)
    exact hfound
  · cases hentry

/-- A path leads to the same place when something is written at it. -/
theorem locate_of_write (h : t.write path text = .ok t') :
    t'.locate path = .ok (Path.resolve t.working path) := by
  obtain ⟨l, hlocate, -, rfl⟩ := exists_of_write h
  rw [← eq_resolve_of_locate hlocate]
  exact locate_of_folders (t := t) rfl rfl hlocate

/-- What is written at a path is found where the path comes to. -/
theorem entry?_of_write (h : t.write path text = .ok t') :
    t'.entry? (Path.resolve t.working path) = some (.file (.text text)) := by
  obtain ⟨l, hfind⟩ := find_write h
  rw [← Except.ok.inj ((locate_of_find hfind).symm.trans (locate_of_write h))]
  exact entry?_of_find hfind

end FileTree

end MockBuilders
