import MockBuilders.Json.Reader
import MockBuilders.Proofs.Decimal.Nearest
import MockBuilders.Proofs.Json.CanonicalText

/-!
Every value read from a text is proper: no object has a name twice, however often it is written,
and every number can be represented. Main statement: `Json.proper_of_read?`.
-/
namespace MockBuilders

namespace Json

theorem proper_number_iff {n : Number} : (number n).Proper ↔ n.Representable := by
  constructor
  · exact fun h => h.representable n (List.mem_singleton_self n)
  · intro h
    refine ⟨trivial, fun m hm => ?_⟩
    rw [List.mem_singleton.mp hm]
    exact h

theorem proper_array_iff {items : List Json} : (array items).Proper ↔ ∀ v ∈ items, v.Proper := by
  constructor
  · intro h v hv
    refine ⟨wellFormed_array_iff.mp h.wellFormed v hv, fun n hn => ?_⟩
    exact h.representable n (mem_numbersItems.mpr ⟨v, hv, hn⟩)
  · intro h
    refine ⟨wellFormed_array_iff.mpr fun v hv => (h v hv).wellFormed, fun n hn => ?_⟩
    obtain ⟨v, hv, hn⟩ := mem_numbersItems.mp hn
    exact (h v hv).representable n hn

theorem proper_object_iff {m : Members Json} :
    (object m).Proper ↔ m.Distinct ∧ ∀ p ∈ m, p.2.Proper := by
  constructor
  · intro h
    obtain ⟨hd, hm⟩ := wellFormed_object_iff.mp h.wellFormed
    refine ⟨hd, fun p hp => ⟨hm p hp, fun n hn => ?_⟩⟩
    exact h.representable n (mem_numbersMembers.mpr ⟨p, hp, hn⟩)
  · rintro ⟨hd, hm⟩
    refine ⟨wellFormed_object_iff.mpr ⟨hd, fun p hp => (hm p hp).wellFormed⟩, fun n hn => ?_⟩
    obtain ⟨p, hp, hn⟩ := mem_numbersMembers.mp hn
    exact (hm p hp).representable n hn

theorem proper_string (s : String) : (string s).Proper := ⟨trivial, by simp [numbers]⟩

theorem proper_nil : (object []).Proper :=
  proper_object_iff.mpr ⟨List.nodup_nil, by simp⟩

theorem proper_reverse {items : List Json} (h : ∀ v ∈ items, v.Proper) :
    (array items.reverse).Proper :=
  proper_array_iff.mpr fun v hv => h v (List.mem_reverse.mp hv)

theorem proper_put {m : Members Json} {value : Json} (hm : (object m).Proper)
    (hvalue : value.Proper) (key : String) : (object (m.put key value)).Proper := by
  obtain ⟨hd, hm⟩ := proper_object_iff.mp hm
  refine proper_object_iff.mpr ⟨hd.put key value, fun p hp => ?_⟩
  rcases Members.mem_put hp with rfl | hp
  · exact hvalue
  · exact hm p hp

end Json

theorem Numeral.representable_value? {n : Numeral} {value : Number} (h : n.value? = some value) :
    value.Representable := by
  unfold value? at h
  split at h
  · obtain rfl := Option.some.inj h
    trivial
  · obtain ⟨x, hx, rfl⟩ := Option.map_eq_some_iff.mp h
    exact representable_binary? hx

namespace Lexeme

/-- A constant or a number that is proper as a value. -/
def Proper : Lexeme → Prop
  | scalar value => value.Proper
  | _ => True

theorem proper_first? {cs rest : List Char} {l : Lexeme} (h : first? cs = some (l, rest)) :
    l.Proper := by
  unfold first? at h
  split at h
  case h_7 =>
    unfold string? at h
    split at h
    · cases h
    · obtain ⟨text, -, e⟩ := Option.map_eq_some_iff.mp h
      obtain ⟨rfl, -⟩ := Prod.mk.inj e
      trivial
  case h_11 =>
    unfold number? at h
    split at h
    · cases h
    · obtain ⟨value, hvalue, e⟩ := Option.map_eq_some_iff.mp h
      obtain ⟨rfl, -⟩ := Prod.mk.inj e
      exact Json.proper_number_iff.mpr (Numeral.representable_value? hvalue)
  all_goals
    obtain ⟨rfl, -⟩ := Prod.mk.inj (Option.some.inj h)
    first | trivial | exact ⟨trivial, by simp [Json.numbers]⟩

theorem proper_all? {cs : List Char} {ls : List Lexeme} (h : all? cs = some ls) :
    ∀ l ∈ ls, l.Proper := by
  fun_induction all? cs generalizing ls with
  | case1 =>
    obtain rfl := Option.some.inj h
    simp
  | case2 c cs hblank ih => exact ih h
  | case3 => cases h
  | case4 c cs hblank l rest hfirst ih =>
    obtain ⟨ls, hls, rfl⟩ := Option.map_eq_some_iff.mp h
    exact List.forall_mem_cons.mpr ⟨proper_first? hfirst, ih hls⟩

end Lexeme

namespace Json

/-- What a container holds so far is proper. -/
def Frame.Proper : Frame → Prop
  | items done => ∀ v ∈ done, v.Proper
  | members done => (object done).Proper
  | member done _ => (object done).Proper

namespace ReaderState

/-- All that has been read is proper. -/
structure Proper (s : ReaderState) : Prop where
  frames : ∀ f ∈ s.frames, f.Proper
  result : ∀ v, s.expected = .nothing v → v.Proper

variable {s t : ReaderState} {frames : List Frame} {value : Json} {l : Lexeme}

theorem proper_deliver (hframes : ∀ f ∈ frames, f.Proper) (hvalue : value.Proper)
    (h : deliver frames value = some t) : t.Proper := by
  unfold deliver at h
  split at h
  · obtain rfl := Option.some.inj h
    refine ⟨by simp, fun v hv => ?_⟩
    cases hv
    exact hvalue
  · obtain rfl := Option.some.inj h
    obtain ⟨hdone, houter⟩ := List.forall_mem_cons.mp hframes
    refine ⟨List.forall_mem_cons.mpr ⟨?_, houter⟩, by simp⟩
    exact List.forall_mem_cons.mpr ⟨hvalue, hdone⟩
  · obtain rfl := Option.some.inj h
    obtain ⟨hdone, houter⟩ := List.forall_mem_cons.mp hframes
    exact ⟨List.forall_mem_cons.mpr ⟨proper_put hdone hvalue _, houter⟩, by simp⟩
  · cases h

theorem proper_openWith {frame : Frame} {expected : Expected} (hframes : ∀ f ∈ frames, f.Proper)
    (hframe : frame.Proper) (hexpected : ∀ v, expected ≠ .nothing v)
    (h : openWith frames frame expected = some t) : t.Proper := by
  unfold openWith at h
  split at h
  · obtain rfl := Option.some.inj h
    exact ⟨List.forall_mem_cons.mpr ⟨hframe, hframes⟩, fun v hv => absurd hv (hexpected v)⟩
  · cases h

theorem proper_value (hframes : ∀ f ∈ frames, f.Proper) (hl : l.Proper)
    (h : ReaderState.value frames l = some t) : t.Proper := by
  unfold ReaderState.value at h
  split at h
  · have hframe : (Frame.members []).Proper := proper_nil
    exact proper_openWith hframes hframe (by simp) h
  · have hframe : (Frame.items []).Proper := by simp [Frame.Proper]
    exact proper_openWith hframes hframe (by simp) h
  · exact proper_deliver hframes (proper_string _) h
  · exact proper_deliver hframes hl h
  · cases h

/-- Each lexeme leaves what has been read proper. -/
theorem proper_step (hs : s.Proper) (hl : l.Proper) (h : s.step l = some t) : t.Proper := by
  have hframes := hs.frames
  unfold step at h
  split at h
  case h_1 | h_3 => exact proper_value hframes hl h
  case h_2 | h_8 =>
    rename_i hstack
    obtain ⟨hdone, houter⟩ := List.forall_mem_cons.mp (hstack ▸ hframes)
    exact proper_deliver houter (proper_reverse hdone) h
  case h_4 | h_10 =>
    rename_i hstack
    obtain ⟨hdone, houter⟩ := List.forall_mem_cons.mp (hstack ▸ hframes)
    exact proper_deliver houter hdone h
  case h_5 | h_6 =>
    obtain rfl := Option.some.inj h
    exact ⟨hframes, by simp⟩
  case h_7 | h_9 | h_11 =>
    rename_i hstack
    obtain rfl := Option.some.inj h
    obtain ⟨hdone, houter⟩ := List.forall_mem_cons.mp (hstack ▸ hframes)
    exact ⟨List.forall_mem_cons.mpr ⟨hdone, houter⟩, by simp⟩
  case h_12 => cases h

theorem proper_foldlM {ls : List Lexeme} (hs : s.Proper) (hls : ∀ l ∈ ls, l.Proper)
    (h : ls.foldlM step s = some t) : t.Proper := by
  induction ls generalizing s with
  | nil =>
    obtain rfl := Option.some.inj h
    exact hs
  | cons l ls ih =>
    obtain ⟨hl, hls⟩ := List.forall_mem_cons.mp hls
    rw [List.foldlM_cons] at h
    obtain ⟨u, hu, h⟩ := Option.bind_eq_some_iff.mp h
    exact ih (proper_step hs hl hu) hls h

end ReaderState

/-- Whatever text is read, the value is proper. -/
theorem proper_of_read? {text : String} {value : Json} (h : read? text = some value) :
    value.Proper := by
  obtain ⟨ls, hls, h⟩ := Option.bind_eq_some_iff.mp h
  obtain ⟨final, hfinal, h⟩ := Option.bind_eq_some_iff.mp h
  have hstart : ReaderState.start.Proper := by
    constructor <;> simp [ReaderState.start]
  have hproper := ReaderState.proper_foldlM hstart (Lexeme.proper_all? hls) hfinal
  unfold ReaderState.result? at h
  split at h
  · next hexpected =>
    obtain rfl := Option.some.inj h
    exact hproper.result _ hexpected
  · cases h

end Json

end MockBuilders
