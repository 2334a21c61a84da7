import MockBuilders.Json.Text
import MockBuilders.Schema.Outline

/-!
Reading schemas from JSON: the layer of an object first, then its parts, in document order.
Main statements: `Outline.size_of_mem`, no part is larger than the members of its object, and
`Schema.read_object`, the equation of reading an object.
-/
namespace MockBuilders

/-- What cannot be read, where a schema or an object of properties is needed. -/
inductive Malformed where
  | noSchema (found : Json) (pointer : String)
  | noProperties (found : Json) (pointer : String)
  deriving BEq, Repr

namespace Malformed

def reason : Malformed → String
  | noSchema found pointer => "expected a schema object, found " ++ found.text ++ " at " ++ pointer
  | noProperties found pointer =>
      "expected an object of properties, found " ++ found.text ++ " at " ++ pointer

end Malformed

namespace Outline

theorem size_of_parts {keyword : String} {items : List Json} {p : Part}
    (h : p ∈ parts keyword items) : p.value.size ≤ Json.sizeItems items := by
  obtain ⟨i, hi, rfl⟩ := List.mem_mapIdx.1 h
  exact Json.size_le_of_mem (List.getElem_mem hi)

theorem get?_of_listAt {m : Members Json} {keyword : String} {items : List Json}
    (h : listAt m keyword = some items) : m.get? keyword = some (.array items) := by
  obtain ⟨v, hv, h⟩ := Option.bind_eq_some_iff.1 h
  cases v <;> simp_all [Json.asArray?]

theorem size_of_listAt {m : Members Json} {keyword : String} {items : List Json}
    (h : listAt m keyword = some items) : Json.sizeItems items < Json.sizeMembers m := by
  have := Json.size_le_of_get? (get?_of_listAt h)
  rw [Json.size] at this
  exact this

/-- Two members of different names fit into the object side by side. -/
theorem size_add_le {m : Members Json} {k l : String} {v w : Json} (hk : m.get? k = some v)
    (hl : m.get? l = some w) (h : k ≠ l) : v.size + w.size ≤ Json.sizeMembers m := by
  induction m with
  | nil => simp [Members.get?] at hk
  | cons p m ih =>
    obtain ⟨n, u⟩ := p
    rw [Json.sizeMembers]
    simp only [Members.get?] at hk hl
    split at hk
    · next hn =>
      obtain rfl := Option.some.inj hk
      rw [if_neg (hn ▸ h)] at hl
      exact Nat.add_le_add_left (Json.size_le_of_get? hl) _
    · split at hl
      · obtain rfl := Option.some.inj hl
        rw [Nat.add_comm]
        exact Nat.add_le_add_left (Json.size_le_of_get? hk) _
      · exact Nat.le_add_left_of_le (ih hk hl)

theorem size_filter_lt {m : Members Json} {f : String × Json → Bool} {p : String × Json}
    (h : p ∈ m) (hp : f p = false) : Json.sizeMembers (m.filter f) < Json.sizeMembers m := by
  have le : ∀ n : Members Json, Json.sizeMembers (n.filter f) ≤ Json.sizeMembers n := by
    intro n
    induction n with
    | nil => exact Nat.le_refl _
    | cons q n ih =>
      by_cases hq : f q = true
      · rw [List.filter_cons_of_pos hq]
        exact Nat.add_le_add_left ih _
      · rw [List.filter_cons_of_neg hq]
        exact Nat.le_add_left_of_le ih
  induction m with
  | nil => simp at h
  | cons q m ih =>
    rw [Json.sizeMembers]
    rcases List.mem_cons.1 h with rfl | h
    · rw [List.filter_cons_of_neg (by simp [hp])]
      exact Nat.lt_of_le_of_lt (le m) (Nat.lt_add_of_pos_left (Json.size_pos _))
    · by_cases hq : f q = true
      · rw [List.filter_cons_of_pos hq]
        exact Nat.add_lt_add_left (ih h) _
      · rw [List.filter_cons_of_neg hq]
        exact Nat.lt_add_left _ (ih h)

theorem size_of_additional {m : Members Json} {p : Part} (h : additionalAt m = some p) :
    p.value.size ≤ Json.sizeMembers m := by
  unfold additionalAt at h
  split at h
  · next hm => exact Option.some.inj h ▸ Json.size_le_of_get? hm
  · simp at h

theorem size_of_shape {m : Members Json} {s : ObjectShape Part} (h : shape m = .ok s) :
    ∀ p ∈ s.children, p.value.size ≤ Json.sizeMembers m := by
  intro p hp
  unfold shape at h
  split at h
  · obtain rfl := Except.ok.inj h
    exact size_of_additional (by simpa [ObjectShape.children] using hp)
  · next properties hm =>
    obtain rfl := Except.ok.inj h
    rcases List.mem_append.1 hp with hp | hp
    · obtain ⟨q, hq, rfl⟩ := List.mem_map.1 hp
      obtain ⟨source, hs, rfl⟩ := List.mem_map.1 hq
      have := Json.size_le_of_get? hm
      rw [Json.size] at this
      exact Nat.le_of_lt (Nat.lt_of_le_of_lt (Json.size_le_of_mem_members hs) this)
    · exact size_of_additional (Option.mem_toList.1 hp)
  · cases h

/-- What stands beside a composition is smaller than the object if some member is no part of it. -/
theorem size_of_ownObject {m : Members Json} {q : String × Json} (hq : q ∈ m)
    (h : isOwn q = false) : ∀ p ∈ ownObject m, p.value.size ≤ Json.sizeMembers m := by
  intro p hp
  unfold ownObject at hp
  split at hp
  · rw [List.mem_singleton.1 hp]
    exact size_filter_lt hq h
  · simp at hp

theorem get?_of_choice? {m : Members Json} {keyword : ChoiceKeyword} {branches : List Json}
    (h : choice? m = some (keyword, branches)) : m.get? keyword.name = some (.array branches) := by
  unfold choice? at h
  split at h
  · next ha =>
    obtain ⟨rfl, rfl⟩ := Prod.mk.inj (Option.some.inj h)
    exact get?_of_listAt ha
  · obtain ⟨bs, hb, e⟩ := Option.map_eq_some_iff.1 h
    obtain ⟨rfl, rfl⟩ := Prod.mk.inj e
    exact get?_of_listAt hb

theorem size_of_ownChoice {m : Members Json} {k : String} {v : Json} (hk : m.get? k = some v)
    (h : ∀ keyword : ChoiceKeyword, k ≠ keyword.name) :
    ∀ p ∈ ownChoice m, p.value.size ≤ Json.sizeMembers m := by
  intro p hp
  obtain ⟨⟨keyword, branches⟩, hc, rfl⟩ := List.mem_map.1 hp
  have := size_add_le hk (get?_of_choice? (Option.mem_toList.1 hc)) (h keyword)
  have := v.size_pos
  simp only [Json.size, Json.sizeMembers] at *
  omega

/-- Every part of an object is smaller than the object. -/
theorem size_of_mem {m : Members Json} {o : Outline} (h : ofMembers m = .ok o) :
    ∀ p ∈ o.kind.children, p.value.size ≤ Json.sizeMembers m := by
  have listed : ∀ {keyword key : String} {items : List Json}, listAt m key = some items →
      ∀ p ∈ parts keyword items, p.value.size ≤ Json.sizeMembers m := fun hi p hp =>
    Nat.le_of_lt (Nat.lt_of_le_of_lt (size_of_parts hp) (size_of_listAt hi))
  unfold ofMembers at h
  split at h
  · obtain rfl := Except.ok.inj h
    simp [Kind.children]
  split at h
  · obtain rfl := Except.ok.inj h
    cases hi : listAt m "items" with
    | none => simp [ofVariants, Kind.children, hi, parts]
    | some items => simpa [ofVariants, Kind.children, hi] using listed hi
  split at h
  · obtain rfl := Except.ok.inj h
    simp [ofEnumeration, Kind.children]
  split at h
  · obtain rfl := Except.ok.inj h
    unfold ofArray
    simp only
    split
    · simp [Kind.children]
    · next items hi =>
      have hi : listAt m "items" = some items := by rw [listAt, hi]; rfl
      split <;> exact listed hi
    · next hi =>
      intro p hp
      rw [List.mem_singleton.1 hp]
      exact Json.size_le_of_get? hi
  split at h
  · next hi =>
    obtain rfl := Except.ok.inj h
    unfold ofItemList
    simp only
    split <;> exact listed hi
  split at h
  · next hb =>
    obtain rfl := Except.ok.inj h
    intro p hp
    simp only [ofAllOf, Kind.children, List.mem_append] at hp
    rcases hp with (hp | hp) | hp
    · exact size_of_ownObject (Members.mem_of_get? (get?_of_listAt hb)) rfl p hp
    · exact listed hb p hp
    · exact size_of_ownChoice (get?_of_listAt hb) (by rintro (_ | _) <;> decide) p hp
  split at h
  · next keyword branches hc =>
    have hk := get?_of_choice? hc
    obtain rfl := Except.ok.inj h
    split
    · next hp' =>
      obtain ⟨v, hv⟩ := Option.isSome_iff_exists.1 hp'
      intro p hp
      rcases List.mem_append.1 hp with hp | hp
      · exact size_of_ownObject (Members.mem_of_get? hk) (by cases keyword <;> rfl) p hp
      · exact size_of_ownChoice hv (by rintro (_ | _) <;> decide) p hp
    · intro p hp
      refine Nat.le_of_lt (Nat.lt_of_le_of_lt (size_of_parts hp) ?_)
      have := Json.size_le_of_get? hk
      rw [Json.size] at this
      exact this
  split at h
  · cases hs : shape m with
    | error found => rw [hs] at h; cases h
    | ok s =>
      rw [hs] at h
      obtain rfl := Except.ok.inj h
      exact size_of_shape hs
  · obtain rfl := Except.ok.inj h
    simp [ofLeaf, Kind.children]

end Outline

namespace Schema

/-- Reads a value at a pointer: an object by its keywords, `true` as any value, `false` as none. -/
def read (pointer : String) (value : Json) : Except Malformed Schema :=
  match value with
  | .object m =>
      match _h : Outline.ofMembers m with
      | .error found => .error (.noProperties found (pointer ++ "/properties"))
      | .ok o => do
          let kind ← o.kind.attach.traverse fun p => read (pointer ++ p.1.step) p.1.value
          return mk kind o.extensions
  | .bool true => .ok any
  | .bool false => .ok never
  | found => .error (.noSchema found pointer)
termination_by value.size
decreasing_by
  rw [Json.size]
  exact Nat.lt_succ_of_le (Outline.size_of_mem ‹_› _ p.2)

theorem read_object (pointer : String) (m : Members Json) :
    read pointer (.object m) =
      match Outline.ofMembers m with
      | .error found => .error (.noProperties found (pointer ++ "/properties"))
      | .ok o => do
          let kind ← o.kind.traverse fun p => read (pointer ++ p.step) p.value
          return mk kind o.extensions := by
  rw [read]
  split
  · next h => rw [h]
  · next o h =>
    rw [h]
    exact congrArg (· >>= fun kind => pure (mk kind o.extensions))
      (Kind.traverse_attach (fun p : Part => read (pointer ++ p.step) p.value) o.kind)

/-- Reads a whole document. -/
def ofJson (value : Json) : Except Malformed Schema := read "#" value

end Schema

end MockBuilders
