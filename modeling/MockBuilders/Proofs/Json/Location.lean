import MockBuilders.Json.Basic
import MockBuilders.Proofs.Relations
import MockBuilders.Text.Split

/-!
Places in a value, by the names of members and the places of items that lead there, and pointers,
in which the names stand after slashes: `~1` is read as a slash and `~0` as a tilde.
Main statement: `Pointer.path?_spelled_iff`.
-/
namespace MockBuilders

namespace Members

variable {α : Type}

theorem get?_mapIdx {name : Nat → String} (hname : name.Injective) (xs : List α) (i : Nat) :
    get? (xs.mapIdx fun j x => (name j, x)) (name i) = xs[i]? := by
  induction xs generalizing name i with
  | nil => rfl
  | cons x xs ih =>
    rw [List.mapIdx_cons, get?]
    cases i with
    | zero => rw [if_pos rfl, List.getElem?_cons_zero]
    | succ i =>
      have hnext : (fun j => name (j + 1)).Injective := fun j k h => by simpa using hname h
      rw [if_neg fun h => Nat.succ_ne_zero i (hname h).symm, List.getElem?_cons_succ]
      exact ih hnext i

end Members

namespace Json

/-- The values of an object by name, or of an array by place. -/
def entries : Json → Members Json
  | array items => items.mapIdx fun i item => (Nat.repr i, item)
  | object members => members
  | _ => []

/-- The value that a path leads to. -/
def at? : Json → List String → Option Json
  | value, [] => some value
  | value, name :: path => (value.entries.get? name).bind fun next => next.at? path

theorem at?_append (value : Json) (path rest : List String) :
    value.at? (path ++ rest) = (value.at? path).bind fun found => found.at? rest := by
  induction path generalizing value with
  | nil => rfl
  | cons name path ih => simp [at?, ih, Option.bind_assoc]

theorem at?_member {m : Members Json} {name : String} {value : Json}
    (h : m.get? name = some value) : (object m).at? [name] = some value := by
  simp [at?, entries, h]

theorem repr_injective : Nat.repr.Injective := by
  intro i j h
  have hdigits := congrArg (fun s : String => Nat.ofDigitChars 10 s.toList 0) h
  simpa [Nat.repr, Nat.ofDigitChars_ten_toDigits] using hdigits

theorem at?_item {items : List Json} {i : Nat} {value : Json} (h : items[i]? = some value) :
    (array items).at? [Nat.repr i] = some value := by
  have hget := Members.get?_mapIdx repr_injective items i
  simp [at?, entries, hget, h]

end Json

namespace Text

variable {sep : Char} {cs : List Char}

theorem split_append (sep : Char) (xs ys : List Char) :
    split sep (xs ++ sep :: ys) = split sep xs ++ split sep ys := by
  induction xs with
  | nil => simp [split]
  | cons x xs ih =>
    rw [List.cons_append, split, split, ih]
    split
    · rfl
    · cases h : split sep xs with
      | nil => exact absurd h (split_ne_nil sep xs)
      | cons part parts => rfl

theorem split_join {parts : List (List Char)} (h : parts ≠ []) :
    split sep (join sep parts) = parts.flatMap (split sep) := by
  induction parts with
  | nil => exact absurd rfl h
  | cons part parts ih =>
    cases parts with
    | nil => simp [join]
    | cons next parts =>
      rw [join, split_append, ih (List.cons_ne_nil _ _)]
      rfl

theorem split_of_not_mem (h : sep ∉ cs) : split sep cs = [cs] := by
  induction cs with
  | nil => rfl
  | cons c cs ih =>
    rw [List.mem_cons, not_or] at h
    rw [split, if_neg (Ne.symm h.1), ih h.2]

theorem not_mem_of_length_split (h : (split sep cs).length = 1) : sep ∉ cs := by
  obtain ⟨part, hpart⟩ := List.length_eq_one_iff.mp h
  have hjoin := join_split sep cs
  rw [hpart, join] at hjoin
  exact hjoin ▸ not_mem_split sep cs part (hpart ▸ List.mem_singleton_self part)

theorem length_le_flatMap_split (sep : Char) (parts : List (List Char)) :
    parts.length ≤ (parts.flatMap (split sep)).length := by
  induction parts with
  | nil => exact Nat.zero_le _
  | cons part parts ih =>
    have hpos := List.length_pos_iff.mpr (split_ne_nil sep part)
    rw [List.flatMap_cons, List.length_append, List.length_cons]
    omega

/-- Parts that are not split any further do not hold the separator. -/
theorem not_mem_of_length_flatMap_split {parts : List (List Char)}
    (h : (parts.flatMap (split sep)).length = parts.length) : ∀ part ∈ parts, sep ∉ part := by
  induction parts with
  | nil => exact nofun
  | cons part parts ih =>
    have hpos := List.length_pos_iff.mpr (split_ne_nil sep part)
    have hle := length_le_flatMap_split sep parts
    rw [List.flatMap_cons, List.length_append, List.length_cons] at h
    exact List.forall_mem_cons.mpr ⟨not_mem_of_length_split (by omega), ih (by omega)⟩

theorem flatMap_split_of_not_mem {parts : List (List Char)} (h : ∀ part ∈ parts, sep ∉ part) :
    parts.flatMap (split sep) = parts := by
  induction parts with
  | nil => rfl
  | cons part parts ih =>
    obtain ⟨hpart, hparts⟩ := List.forall_mem_cons.mp h
    rw [List.flatMap_cons, split_of_not_mem hpart, ih hparts]
    rfl

end Text

namespace Pointer

/-- A path as names after slashes, just as they are. -/
def spelled : List String → String
  | [] => ""
  | name :: path => "/" ++ name ++ spelled path

/-- A name as it was before its slashes and tildes were written as `~1` and `~0`. -/
def unescape? : List Char → Option (List Char)
  | [] => some []
  | '~' :: '0' :: cs => (unescape? cs).map ('~' :: ·)
  | '~' :: '1' :: cs => (unescape? cs).map ('/' :: ·)
  | '~' :: _ => none
  | c :: cs => (unescape? cs).map (c :: ·)

/-- The path that stands after the number sign of a pointer. -/
def path? (pointer : String) : Option (List String) :=
  match pointer.toList with
  | ['#'] => some []
  | '#' :: '/' :: cs => ((Text.split '/' cs).mapM unescape?).map (·.map String.ofList)
  | _ => none

/-- A name that stands in a pointer as it is. -/
def Plain (name : String) : Prop := '/' ∉ name.toList ∧ '~' ∉ name.toList

instance (name : String) : Decidable (Plain name) :=
  inferInstanceAs (Decidable (_ ∧ _))

theorem spelled_append (path rest : List String) :
    spelled (path ++ rest) = spelled path ++ spelled rest := by
  induction path with
  | nil => simp [spelled]
  | cons name path ih => simp only [List.cons_append, spelled, ih, String.append_assoc]

theorem toList_spelled (name : String) (path : List String) :
    (spelled (name :: path)).toList = '/' :: Text.join '/' ((name :: path).map String.toList) := by
  induction path generalizing name with
  | nil => simp [spelled, Text.join]
  | cons next path ih =>
    rw [spelled, String.toList_append, ih]
    simp [Text.join]

/-- Each tilde is read with the character after it as one. -/
theorem length_unescape? {cs ds : List Char} (h : unescape? cs = some ds) :
    ds.length + cs.count '~' = cs.length := by
  fun_induction unescape? cs generalizing ds with
  | case1 =>
    obtain rfl := Option.some.inj h
    rfl
  | case2 cs ih | case3 cs ih =>
    obtain ⟨ds, hds, rfl⟩ := Option.map_eq_some_iff.mp h
    have := ih hds
    rw [List.count_cons_self, List.count_cons_of_ne (by decide)]
    simp only [List.length_cons]
    omega
  | case4 => cases h
  | case5 c cs _ _ hc ih =>
    obtain ⟨ds, hds, rfl⟩ := Option.map_eq_some_iff.mp h
    have := ih hds
    rw [List.count_cons_of_ne hc, List.length_cons, List.length_cons]
    omega

theorem unescape?_eq_self_iff {cs : List Char} : unescape? cs = some cs ↔ '~' ∉ cs := by
  constructor
  · intro h
    have hcount := length_unescape? h
    exact List.count_eq_zero.mp (by omega)
  · intro h
    fun_induction unescape? cs with
    | case1 => rfl
    | case2 | case3 | case4 => simp at h
    | case5 c cs _ _ hc ih =>
      rw [ih fun hcs => h (List.mem_cons_of_mem c hcs)]
      rfl

/-- Names are read back from between slashes if and only if they hold no slash and no tilde. -/
theorem mapM_unescape?_eq_some_iff {names : List (List Char)} :
    (names.flatMap (Text.split '/')).mapM unescape? = some names ↔
      ∀ name ∈ names, '/' ∉ name ∧ '~' ∉ name := by
  rw [mapM_eq_some_iff]
  constructor
  · intro hread name hname
    have hslash := Text.not_mem_of_length_flatMap_split hread.length_eq
    rw [Text.flatMap_split_of_not_mem hslash] at hread
    exact ⟨hslash name hname, unescape?_eq_self_iff.mp (List.forall₂_same.mp hread name hname)⟩
  · intro hplain
    rw [Text.flatMap_split_of_not_mem fun name hname => (hplain name hname).1]
    exact List.forall₂_same.mpr fun name hname => unescape?_eq_self_iff.mpr (hplain name hname).2

theorem map_ofList_eq_iff {parts : List (List Char)} {names : List String} :
    parts.map String.ofList = names ↔ parts = names.map String.toList := by
  constructor
  · rintro rfl
    simp [Function.comp_def]
  · rintro rfl
    simp [Function.comp_def]

theorem path?_cons (name : String) (path : List String) :
    path? ("#" ++ spelled (name :: path)) =
      ((((name :: path).map String.toList).flatMap (Text.split '/')).mapM unescape?).map
        (·.map String.ofList) := by
  rw [← Text.split_join (by simp)]
  simp [path?, toList_spelled]

/-- A spelled path is read back if and only if its names stand in a pointer as they are. -/
theorem path?_spelled_iff {path : List String} :
    path? ("#" ++ spelled path) = some path ↔ ∀ name ∈ path, Plain name := by
  cases path with
  | nil => simp [path?, spelled]
  | cons name path =>
    rw [path?_cons, Option.map_eq_some_iff]
    simp only [map_ofList_eq_iff, exists_eq_right, mapM_unescape?_eq_some_iff, List.forall_mem_map]
    rfl

example : path? "#/paths/~1items/a~0b" = some ["paths", "/items", "a~b"] := by decide

end Pointer

/-- The value that a pointer leads to. -/
def Json.designated? (value : Json) (pointer : String) : Option Json :=
  (Pointer.path? pointer).bind value.at?

end MockBuilders
