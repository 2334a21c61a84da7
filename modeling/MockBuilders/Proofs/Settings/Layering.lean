import Mathlib.Data.List.TakeWhile
import MockBuilders.Proofs.Members.Union
import MockBuilders.Settings.KeyPath

/-!
Sources laid over each other: a source of tables without tables in them, all under plain names,
leaves its own values, whether or not it was laid down before. Main statements:
`Stored.layOver_nil` and `Stored.layOver_groups`.
-/
namespace MockBuilders

namespace Members

variable {α : Type} {m n : Members α} {key : String} {value : α}

theorem put_of_not_mem (h : key ∉ m.keys) (value : α) : m.put key value = m ++ [(key, value)] := by
  induction m with
  | nil => rfl
  | cons p m ih =>
    rw [keys_cons, List.mem_cons, not_or] at h
    rw [put, if_neg (Ne.symm h.1), ih h.2, List.cons_append]

theorem put_eq_self (h : m.get? key = some value) : m.put key value = m := by
  induction m with
  | nil => cases h
  | cons p m ih =>
    rw [get?] at h
    rw [put]
    split at h
    · next hkey => rw [if_pos hkey, ← Option.some.inj h]
    · next hkey => rw [if_neg hkey, ih h]

/-- Members written over others of the same names take their place. -/
theorem putAll_eq_of_keys (hm : m.Distinct) (hkeys : m.keys = n.keys) : m.putAll n = n := by
  have hn : n.Distinct := by rwa [Distinct, ← hkeys]
  apply eq_of_get?_eq (hm.putAll n)
  · rw [keys_putAll, hkeys]
    have hself (xs : List String) : ∀ ys ⊆ xs, addAllNew xs ys = xs := by
      intro ys hys
      induction ys with
      | nil => rfl
      | cons y ys ih =>
        obtain ⟨hy, hys⟩ := List.cons_subset.mp hys
        rw [addAllNew_cons, addNew, if_pos hy, ih hys]
    exact hself n.keys n.keys (List.Subset.refl _)
  · intro key
    rw [get?_putAll m hn]
    cases h : n.get? key with
    | some value => rfl
    | none =>
      rw [Option.none_or, get?_eq_none_iff, hkeys]
      exact get?_eq_none_iff.mp h

end Members

namespace Stored

variable {source : String} {root : Members Stored} {m : Members Datum}

/-- No value is a table. -/
def Flat (m : Members Datum) : Prop := ∀ p ∈ m, p.2.table? = none

/-- Members under their names in lower case. -/
def lowered (m : Members Datum) : Members Datum := m.map fun p => (Text.lower p.1, p.2)

theorem keys_lowered (m : Members Datum) : (lowered m).keys = m.keys.map Text.lower := by
  simp [Stored.lowered, Members.keys]

theorem distinct_lowered {m : Members Datum} {names : List String} (h : m.keys.Sublist names)
    (hnames : (names.map Text.lower).Nodup) : (lowered m).Distinct := by
  rw [Members.Distinct, keys_lowered]
  exact (h.map Text.lower).nodup hnames

theorem lay_ofDatum {d : Datum} (h : d.table? = none) (root : Members Stored) (key : String) :
    lay root key (ofDatum source d) = root.put (Text.lower key) (ofDatum source d) := by
  cases d with
  | scalar value => rfl
  | array items => rfl
  | table members => cases h

theorem layAll_of_flat (h : Flat m) (root : Members Stored) :
    layAll root (ofMembers source m) = root.putAll ((lowered m).mapValues (ofDatum source)) := by
  unfold Members.putAll lowered Members.mapValues
  induction m generalizing root with
  | nil => rfl
  | cons p m ih =>
    obtain ⟨hp, hm⟩ := List.forall_mem_cons.mp h
    rw [ofMembers, layAll, lay_ofDatum hp]
    exact ih hm _

/-- A table as a source leaves it under a name that was free. -/
def group (source : String) (m : Members Datum) : Stored :=
  table none ((lowered m).mapValues (ofDatum source))

/-- A name in lower case that is no longer path. -/
structure Plain (name : String) : Prop where
  step : ∃ first, KeyPath.read? name = some ⟨first, []⟩
  lower : Text.lower name = name

theorem plain_of_chars {name : String} (hne : name.toList ≠ [])
    (hchars : ∀ c ∈ name.toList, KeyPath.isNameChar c = true) (hlower : Text.lower name = name) :
    Plain name where
  step := by
    have htake := List.takeWhile_eq_self_iff.mpr hchars
    have hdrop := List.dropWhile_eq_nil_iff.mpr hchars
    exact ⟨KeyPath.lowered name.toList, by
      simp only [KeyPath.read?, htake, hdrop, hne, if_false, KeyPath.steps?, Option.map_some]⟩
  lower := hlower

theorem layMember_of_plain {name : String} (h : Plain name) (root : Members Stored)
    (value : Stored) : layMember root name value = lay root name value := by
  obtain ⟨first, hstep⟩ := h.step
  rw [layMember, hstep]

/-- Nothing is under a name, or the same table of another source. -/
def Free (root : Members Stored) (name : String) (m : Members Datum) : Prop :=
  root.get? name = none ∨ ∃ other, root.get? name = some (group other m)

/-- A table takes the place of the same table of another source. -/
theorem layMember_table {name : String} (hname : Plain name) (hm : Flat m)
    (hdistinct : (lowered m).Distinct) (hfree : Free root name m) :
    layMember root name (ofDatum source (.table m)) = root.put name (group source m) := by
  rw [layMember_of_plain hname, ofDatum]
  match m with
  | [] =>
    rw [ofMembers, lay, hname.lower, Members.putNew]
    rcases hfree with hnone | ⟨other, hsome⟩
    · have hhas : root.has name = false := by rw [Members.has, hnone]; rfl
      rw [hhas, Members.put_of_not_mem (Members.get?_eq_none_iff.mp hnone)]
      rfl
    · have hhas : root.has name = true := by rw [Members.has, hsome]; rfl
      rw [hhas]
      exact (Members.put_eq_self hsome).symm
  | p :: m =>
    have hkeys (other : String) :
        Members.Distinct ((lowered (p :: m)).mapValues (ofDatum other)) := by
      rwa [Members.Distinct, Members.keys_mapValues]
    have hcons : ofMembers source (p :: m) =
        (p.1, ofDatum source p.2) :: ofMembers source m := rfl
    rw [hcons, lay, hname.lower, ← hcons, layAll_of_flat hm]
    rcases hfree with hnone | ⟨other, hsome⟩
    · have hat : at? root name = nothing := by rw [at?, hnone]; rfl
      rw [hat]
      have hown := Members.ofPairs_of_distinct (hkeys source)
      exact congrArg (fun n => root.put name (table none n)) hown
    · have hat : at? root name = group other (p :: m) := by rw [at?, hsome]; rfl
      have hsame := Members.putAll_eq_of_keys (hkeys other)
        (n := (lowered (p :: m)).mapValues (ofDatum source)) (by simp)
      rw [hat]
      exact congrArg (fun n => root.put name (table none n)) hsame

/-- Tables without tables in them, under plain names, with names that differ in lower case. -/
structure Layerable (data : Members (Members Datum)) : Prop where
  distinct : data.Distinct
  plain : ∀ name ∈ data.keys, Plain name
  flat : ∀ p ∈ data, Flat p.2
  lowered : ∀ p ∈ data, (lowered p.2).Distinct

theorem Layerable.tail {p : String × Members Datum} {data : Members (Members Datum)}
    (h : Layerable (p :: data)) : Layerable data where
  distinct := (List.nodup_cons.mp h.distinct).2
  plain name hname := h.plain name (List.mem_cons_of_mem _ hname)
  flat q hq := h.flat q (List.mem_cons_of_mem _ hq)
  lowered q hq := h.lowered q (List.mem_cons_of_mem _ hq)

theorem layOver_of_free {data : Members (Members Datum)} (h : Layerable data)
    (hfree : ∀ p ∈ data, Free root p.1 p.2) :
    layOver root (ofMembers source (data.mapValues .table)) =
      root.putAll (data.mapValues (group source)) := by
  unfold layOver Members.putAll
  induction data generalizing root with
  | nil => rfl
  | cons p data ih =>
    obtain ⟨hp, hdata⟩ := List.forall_mem_cons.mp hfree
    have hfirst : layMember root p.1 (ofDatum source (.table p.2)) =
        root.put p.1 (group source p.2) :=
      layMember_table (h.plain p.1 List.mem_cons_self) (h.flat p List.mem_cons_self)
        (h.lowered p List.mem_cons_self) hp
    have hrest : ∀ q ∈ data, Free (root.put p.1 (group source p.2)) q.1 q.2 := by
      intro q hq
      have hne : p.1 ≠ q.1 := fun e =>
        (List.nodup_cons.mp h.distinct).1 (e ▸ List.mem_map_of_mem hq)
      rw [Free, Members.get?_put, if_neg hne]
      exact hdata q hq
    have hcons : ofMembers source (Members.mapValues .table (p :: data)) =
        (p.1, ofDatum source (.table p.2)) ::
          ofMembers source (Members.mapValues .table data) := rfl
    rw [hcons, List.foldl_cons, hfirst]
    exact ih h.tail hrest

variable {data : Members (Members Datum)}

/-- Tables as a source leaves them. -/
def groups (source : String) (data : Members (Members Datum)) : Members Stored :=
  data.mapValues (group source)

theorem distinct_groups (h : data.Distinct) (source : String) : (groups source data).Distinct := by
  rwa [Members.Distinct, groups, Members.keys_mapValues]

/-- What a source leaves on its own. -/
theorem layOver_nil (h : Layerable data) (source : String) :
    layOver [] (ofMembers source (data.mapValues .table)) = groups source data := by
  rw [layOver_of_free h fun _ _ => .inl rfl]
  exact Members.ofPairs_of_distinct (distinct_groups h.distinct source)

/-- What it leaves over the same tables of another source. -/
theorem layOver_groups (h : Layerable data) (other source : String) :
    layOver (groups other data) (ofMembers source (data.mapValues .table)) =
      groups source data := by
  rw [layOver_of_free h fun p hp => .inr ⟨other, ?_⟩]
  · exact Members.putAll_eq_of_keys (distinct_groups h.distinct other) (by simp [groups])
  · rw [groups, Members.get?_mapValues, (Members.get?_eq_some_iff h.distinct).mpr hp]
    rfl

end Stored

end MockBuilders
