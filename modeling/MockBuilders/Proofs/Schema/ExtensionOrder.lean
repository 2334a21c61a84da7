import MockBuilders.Proofs.Members.Gaps
import MockBuilders.Proofs.Schema.Layers

/-!
The order of what is kept beside a layer. Each rule takes names out of the object one after the
other, so what is kept fills the gaps; examples of a leaf that are no list are put back at the end.
Main statement: `Schema.extensionOrder_of_read`.
-/
namespace MockBuilders

namespace Members

variable {α : Type} {m e f : Members α}

/-- What is left of members when some names are taken out, in some order. -/
def LeftOf (e m : Members α) : Prop := ∃ names, e = m.takeAll names

theorem LeftOf.refl (m : Members α) : m.LeftOf m := ⟨[], rfl⟩

theorem LeftOf.trans (h : e.LeftOf f) (h' : f.LeftOf m) : e.LeftOf m := by
  obtain ⟨later, rfl⟩ := h
  obtain ⟨names, rfl⟩ := h'
  exact ⟨names ++ later, (takeAll_append m names later).symm⟩

theorem leftOf_take (m : Members α) (key : String) : (m.take key).LeftOf m := ⟨[key], rfl⟩

theorem LeftOf.take (h : e.LeftOf m) (key : String) : (e.take key).LeftOf m :=
  (leftOf_take e key).trans h

end Members

namespace Outline

variable {m : Members Json} {o : Outline}

theorem leftOf_takeTypes (m : Members Json) : (takeTypes m).LeftOf m := by
  unfold takeTypes
  split
  · exact .refl m
  · exact Members.leftOf_take m "type"

theorem leftOf_takeType (m : Members Json) (keyword : String) : (takeType m keyword).LeftOf m := by
  unfold takeType
  split
  · exact Members.leftOf_take m "type"
  · exact .refl m

theorem leftOf_takeAdditional (m : Members Json) : (takeAdditional m).LeftOf m := by
  unfold takeAdditional
  split
  · exact Members.leftOf_take m "additionalProperties"
  · exact .refl m

theorem leftOf_takeShape (m : Members Json) : (takeShape m).LeftOf m :=
  (leftOf_takeAdditional _).trans ((Members.leftOf_take m "properties").take "required")

theorem leftOf_takeOwnObject (m : Members Json) : (takeOwnObject m).LeftOf m := by
  unfold takeOwnObject
  split
  · exact (leftOf_takeShape m).take "type"
  · exact .refl m

theorem leftOf_takeOwnChoice (m : Members Json) : (takeOwnChoice m).LeftOf m := by
  unfold takeOwnChoice
  split
  · exact Members.leftOf_take m _
  · exact .refl m

/-- A leaf puts examples that are no list back behind what is left. -/
theorem leftOf_leafTake (types : TypeTag) (m : Members Json) : (Leaf.take types m).2.LeftOf m ∨
    ∃ e found, e.LeftOf m ∧ m.get? "examples" = some found ∧ found.asArray? = none ∧
      (Leaf.take types m).2 = e ++ [("examples", found)] := by
  have hrest := Members.leftOf_take m "default"
  unfold Leaf.take
  split
  · exact .inl (hrest.take "examples")
  · next found hlist hfound =>
    refine .inr ⟨_, found, hrest.take "examples", hfound, ?_, rfl⟩
    cases found with
    | array examples => exact (hlist examples rfl).elim
    | _ => rfl
  · exact .inl hrest

/-- What is kept beside a layer is what is left, but for examples that a leaf puts back. -/
theorem leftOf_of_ofMembers (hm : m.Distinct) (h : ofMembers m = .ok o) :
    o.extensions.LeftOf m ∨ ∃ l e found, o.kind = .leaf l ∧ e.LeftOf m ∧
      m.get? "examples" = some found ∧ found.asArray? = none ∧
      o.extensions = e ++ [("examples", found)] := by
  have htake := Members.leftOf_take m
  cases rule_of_ofMembers h with
  | reference _ => exact .inl (htake "$ref")
  | variants _ _ => exact .inl ((htake "type").take "items")
  | enumeration _ _ _ => exact .inl ((leftOf_takeTypes m).take "enum")
  | array _ _ =>
    rw [extensions_ofArray]
    exact .inl (((leftOf_takeType m "array").take "logicalOperator").take "items")
  | itemList _ _ _ =>
    rw [extensions_ofItemList]
    exact .inl ((htake "items").take "logicalOperator")
  | shaped _ hshape =>
    cases hshape with
    | allOf _ =>
      exact .inl ((leftOf_takeOwnChoice _).trans ((leftOf_takeOwnObject _).trans (htake "allOf")))
    | own _ _ _ => exact .inl ((leftOf_takeOwnChoice _).trans (leftOf_takeOwnObject m))
    | choice _ _ _ => exact .inl (htake _)
    | object _ _ _ _ => exact .inl ((leftOf_takeShape _).trans (leftOf_takeType m "object"))
    | leaf _ _ _ _ =>
      rw [ofLeaf_eq]
      have htypes := leftOf_takeTypes m
      rcases leftOf_leafTake (typesAt m) (takeTypes m) with
        hleft | ⟨e, found, he, hget, hfound, heq⟩
      · exact .inl (hleft.trans htypes)
      · rw [get?_takeTypes_of_ne hm (by decide)] at hget
        exact .inr ⟨_, e, found, rfl, he.trans htypes, hget, hfound, heq⟩

end Outline

namespace Schema

open Members (FillsGaps late concat_sublist_iff)

variable {v : Json} {m : Members Json} {t : Schema} {q : String}

/-- What a node puts back behind its other extensions: nothing, or examples of a leaf that are no
list. -/
def PutBack (m : Members Json) (t : Schema) (returned : List String) : Prop :=
  returned = [] ∨ returned = ["examples"] ∧ "examples" ∈ m.keys ∧
    Outline.listAt m "examples" = none ∧ ∃ l, t.kind = .leaf l

/-- Where the extension keys of a node stand, beside the keys of the object it was read from. -/
structure ExtensionOrder (m : Members Json) (t : Schema) (kept returned : List String) : Prop where
  keys_eq : t.extensions.keys = kept ++ returned
  putBack : PutBack m t returned
  fillsGaps : FillsGaps m.keys kept
  ordered_of_late : (late m.keys kept).length ≤ 1 → kept.Sublist m.keys
  gap_of_ordered : kept.Sublist m.keys →
    ∀ key ∈ (m.keys.dropWhile (· ∈ kept)).take (late m.keys kept).length, key ∉ kept
  ordered_iff : t.extensions.keys.Sublist m.keys ↔
    kept.Sublist m.keys ∧ ∀ key ∈ kept, ∀ last ∈ returned, [key, last].Sublist m.keys

theorem extensionOrder_of (hm : m.Distinct) {kept returned : List String}
    (hkeys : t.extensions.keys = kept ++ returned) (hreturned : PutBack m t returned)
    (hgaps : FillsGaps m.keys kept) : ExtensionOrder m t kept returned where
  keys_eq := hkeys
  putBack := hreturned
  fillsGaps := hgaps
  ordered_of_late := hgaps.sublist_of_late hm
  gap_of_ordered := hgaps.gap_of_sublist hm
  ordered_iff := by
    rw [hkeys]
    obtain rfl | ⟨rfl, hexamples, -, -⟩ := hreturned
    · simp
    · rw [concat_sublist_iff hm hexamples]
      simp

/-- Wherever an object stands in a document, the extension keys of its node stay in place or fill
gaps. They are in the order of the object if at most one of them stood behind a key that was taken;
and if they are, the first keys that were taken stood next to one another, one for each of those
behind. Examples that are put back must have stood last. -/
theorem extensionOrder_of_read (hv : v.WellFormed) (hm : v.Reads (.object m))
    (h : read q (.object m) = .ok t) : ∃ kept returned, ExtensionOrder m t kept returned := by
  have hdistinct : m.Distinct := (Json.wellFormed_object_iff.mp (hm.wellFormed hv)).1
  obtain ⟨o, k, ho, hk, rfl⟩ := read_object_eq_ok_iff.mp h
  rcases Outline.leftOf_of_ofMembers hdistinct ho with ⟨names, hleft⟩ |
    ⟨l, e, found, hkind, ⟨names, rfl⟩, hfound, hlist, hleft⟩
  · refine ⟨(m.takeAll names).keys, [], ?_⟩
    refine extensionOrder_of hdistinct ?_ (.inl rfl) (Members.fillsGaps_takeAll hdistinct names)
    rw [List.append_nil]
    exact congrArg Members.keys hleft
  · refine ⟨(m.takeAll names).keys, ["examples"], ?_⟩
    refine extensionOrder_of hdistinct ?_ (.inr ⟨rfl, Members.mem_keys_of_get? hfound, ?_, l, ?_⟩)
      (Members.fillsGaps_takeAll hdistinct names)
    · exact (congrArg Members.keys hleft).trans (Members.keys_append _ _)
    · rw [Outline.listAt, hfound]
      exact hlist
    · rw [hkind] at hk
      cases hk
      rfl

section Contact

def phoneMembers : Members Json :=
  [("title", .string "Phone"), ("format", .string "e164"), ("type", .string "string"),
    ("minLength", .number (.integer 3)), ("default", .null), ("x-unit", .string "digits")]

/-- An object with a leaf below it, two of whose keys are taken. -/
def contactValue : Json :=
  .object [("properties", .object [("phone", .object phoneMembers)])]

def phone : Schema :=
  mk (.leaf ⟨[.string], some .null, none⟩) [("title", .string "Phone"), ("format", .string "e164"),
    ("x-unit", .string "digits"), ("minLength", .number (.integer 3))]

theorem extensionOrder_phone : contactValue.WellFormed ∧
    contactValue.Reads (.object phoneMembers) ∧
    read "#/properties/phone" (.object phoneMembers) = .ok phone ∧
    ∃ kept returned, ExtensionOrder phoneMembers phone kept returned := by
  have hwellFormed : contactValue.WellFormed := by
    simp [contactValue, phoneMembers, Json.WellFormed, Json.WellFormedMembers, Members.Distinct,
      Members.keys]
  have hreads : contactValue.Reads (.object phoneMembers) :=
    .part rfl (List.mem_singleton_self _) (.self _)
  have hread : read "#/properties/phone" (.object phoneMembers) = .ok phone :=
    read_object_eq_ok_iff.mpr ⟨_, _, rfl, .leaf _, rfl⟩
  exact ⟨hwellFormed, hreads, hread, extensionOrder_of_read hwellFormed hreads hread⟩

end Contact

section Date

def dateMembers : Members Json :=
  [("type", .string "string"), ("title", .string "Date"), ("description", .string "Day of entry"),
    ("format", .string "date")]

/-- The last key has moved to the place of the type. -/
theorem date_not_ordered : (Json.object dateMembers).WellFormed ∧
    ∃ t, ofJson (.object dateMembers) = .ok t ∧
      t.extensions.keys = ["format", "title", "description"] ∧
      ¬t.extensions.keys.Sublist dateMembers.keys := by
  refine ⟨?_, _, read_object_eq_ok_iff.mpr ⟨_, _, rfl, .leaf _, rfl⟩, rfl, by decide⟩
  simp [dateMembers, Json.WellFormed, Json.WellFormedMembers, Members.Distinct, Members.keys]

end Date

end Schema

end MockBuilders
