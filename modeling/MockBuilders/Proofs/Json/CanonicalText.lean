import MockBuilders.Fingerprint
import MockBuilders.Proofs.Json.Decoding

/-!
The canonical text of a value stands for the value up to the order of its members.
Main statement: `canonicalText_eq_iff_reordered`.
-/
namespace MockBuilders

namespace Json

theorem mem_numbers_sorted (v : Json) (n : Number) : n ∈ v.sorted.numbers ↔ n ∈ v.numbers := by
  induction v using induct with
  | array items ih =>
    simp only [sorted, numbers, sortedItems_eq, mem_numbersItems, List.mem_map]
    constructor
    · rintro ⟨_, ⟨w, hw, rfl⟩, hn⟩
      exact ⟨w, hw, (ih w hw).mp hn⟩
    · rintro ⟨w, hw, hn⟩
      exact ⟨_, ⟨w, hw, rfl⟩, (ih w hw).mpr hn⟩
  | object m ih =>
    simp only [sorted, numbers, sortedMembers_eq, mem_numbersMembers,
      (Members.sorted_perm _).mem_iff, Members.mapValues, List.mem_map]
    constructor
    · rintro ⟨_, ⟨p, hp, rfl⟩, hn⟩
      exact ⟨p, hp, (ih p hp).mp hn⟩
    · rintro ⟨p, hp, hn⟩
      exact ⟨_, ⟨p, hp, rfl⟩, (ih p hp).mpr hn⟩
  | null | bool _ | number _ | string _ => rfl

/-- A value as documents hold them: no object has a name twice, and every number is one of 64
bits. -/
structure Proper (v : Json) : Prop where
  wellFormed : v.WellFormed
  representable : ∀ n ∈ v.numbers, n.Representable

theorem canonicalText_eq_iff_sorted_eq {a b : Json} (ha : a.Proper) (hb : b.Proper) :
    a.canonicalText = b.canonicalText ↔ a.sorted = b.sorted := by
  constructor
  · intro h
    refine eq_of_text_eq (fun x hx y hy hxy => ?_) h
    rw [mem_numbers_sorted] at hx hy
    exact Number.chars_injective (ha.representable x hx) (hb.representable y hy) hxy
  · intro h
    rw [canonicalText, canonicalText, h]

end Json

theorem toList_loop_eq (bs : ByteArray) (i : Nat) (r : List UInt8) :
    ByteArray.toList.loop bs i r = r.reverse ++ bs.data.toList.drop i := by
  fun_induction ByteArray.toList.loop bs i r with
  | case1 i r h ih =>
    have hsize : i < bs.data.toList.length := h
    have hget : bs.get! i = bs.data.toList[i] := getElem!_pos bs.data i h
    rw [ih, List.reverse_cons, List.append_assoc, List.drop_eq_getElem_cons hsize, hget]
    rfl
  | case2 i r h =>
    have hsize : bs.data.toList.length ≤ i := Nat.not_lt.mp h
    rw [List.drop_eq_nil_of_le hsize, List.append_nil]

theorem toUTF8_toList_injective {s t : String} (h : s.toUTF8.toList = t.toUTF8.toList) : s = t := by
  have hdata : s.toUTF8.data = t.toUTF8.data := by
    simpa [ByteArray.toList, toList_loop_eq] using h
  exact String.toByteArray_inj.mp (ByteArray.ext hdata)

/-- Two values have one canonical text if and only if they are equal up to the order of members;
so fingerprints tell apart what the digest tells apart. -/
theorem canonicalText_eq_iff_reordered {a b : Json} (ha : a.Proper) (hb : b.Proper) :
    (a.canonicalText = b.canonicalText ↔ a.Reordered b) ∧
    ((Sha256.hex a.canonicalText.toUTF8.toList = Sha256.hex b.canonicalText.toUTF8.toList →
        a.canonicalText.toUTF8.toList = b.canonicalText.toUTF8.toList) →
      (Fingerprint.ofJson a = Fingerprint.ofJson b ↔ a.Reordered b)) := by
  have htext : a.canonicalText = b.canonicalText ↔ a.Reordered b := by
    rw [Json.canonicalText_eq_iff_sorted_eq ha hb, Json.sorted_eq_iff ha.wellFormed hb.wellFormed]
  refine ⟨htext, fun hdigest => ?_⟩
  rw [← htext]
  constructor
  · intro h
    exact toUTF8_toList_injective (hdigest (congrArg Fingerprint.hex h))
  · intro h
    rw [Fingerprint.ofJson, Fingerprint.ofJson, h]

/-- Two objects of the same members, with numbers of either kind among them. -/
def points : Json × Json :=
  let ys : Json := .array [.number (.integer (-3)), .number (.binary ⟨true, 0⟩)]
  (.object [("y", ys), ("x", .null)], .object [("x", .null), ("y", ys)])

theorem fingerprint_points : points.1.Proper ∧ points.2.Proper ∧
    points.1.canonicalText = points.2.canonicalText ∧
    Fingerprint.ofJson points.1 = Fingerprint.ofJson points.2 := by
  have hnumbers : ∀ n ∈ [Number.integer (-3), .binary ⟨true, 0⟩], n.Representable := by
    intro n hn
    rcases List.mem_cons.mp hn with rfl | hn
    · trivial
    · rw [List.mem_singleton.mp hn]
      exact Binary64.representable_zero
  have hleft : points.1.Proper := ⟨⟨by decide, by simp [Json.WellFormedMembers, Json.WellFormed,
    Json.WellFormedItems]⟩, hnumbers⟩
  have hright : points.2.Proper := ⟨⟨by decide, by simp [Json.WellFormedMembers, Json.WellFormed,
    Json.WellFormedItems]⟩, hnumbers⟩
  have hreordered : points.1.Reordered points.2 :=
    .object (.cons "y" (.array (.cons (.number _) (.cons (.number _) .nil)))
      (.cons "x" .null .nil)) (.swap _ _ _)
  have h := canonicalText_eq_iff_reordered hleft hright
  have htext := h.1.mpr hreordered
  exact ⟨hleft, hright, htext, (h.2 fun _ => by rw [htext]).mpr hreordered⟩

end MockBuilders
