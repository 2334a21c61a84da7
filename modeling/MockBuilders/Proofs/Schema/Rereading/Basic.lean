import MockBuilders.Proofs.Schema.Kept
import MockBuilders.Proofs.Schema.KeyOrder

/-!
What a layer is written as and what is read from it: which keywords make an object a layer of which
kind, and when the members kept beside a layer are inert, so that they make no other layer of it.
Main definitions: `Kind.Inert`, `Outline.Returns`.
-/
namespace MockBuilders

namespace Kind

variable {σ τ : Type}

open Outline in
/-- What is kept beside a layer makes no other layer of it when it is written: no keyword by which
an object is read in another way, and none that the layer would take up in another form. -/
def Inert (e : Members Json) : Kind σ → Prop
  | anyArray => e.has "type" = true → hasType e "array" = true
  | allOf _ => e.has "properties" = false ∧ choice? e = none
  | choice _ _ => e.has "properties" = false ∧ listAt e "allOf" = none
  | object shape =>
      listAt e "allOf" = none ∧ choice? e = none ∧
        (shape.required = [] → e.has "required" = true → ∃ name names,
          e.get? "required" = some (.array ((name :: names).map .string))) ∧
        (shape.additional = none → additionalAt e = none)
  | leaf l =>
      e.has "properties" = false ∧ listAt e "allOf" = none ∧ choice? e = none ∧
        (l.types = [] → typesAt e = [] ∧ hasType e "object" = false)
  | _ => True

/-- The required names that an object is told with when it is read again: its own, or those that
were kept beside it. -/
def toldRequired (e : Members Json) (required : List String) : List String :=
  if required = [] then ((Outline.listAt e "required").getD []).filterMap Json.asString?
  else required

/-- The layer as it is read again. -/
def told (e : Members Json) : Kind σ → Kind σ
  | object shape => object { shape with required := toldRequired e shape.required }
  | k => k

@[simp] theorem children_told (e : Members Json) (k : Kind σ) :
    (k.told e).children = k.children := by
  cases k <;> rfl

theorem told_map (f : σ → τ) (e : Members Json) (k : Kind σ) :
    (k.map f).told e = (k.told e).map f := by
  cases k <;> rfl

theorem inert_map (f : σ → τ) (e : Members Json) (k : Kind σ) :
    (k.map f).Inert e ↔ k.Inert e := by
  cases k with
  | object shape => simp [Inert, map, ObjectShape.map]
  | _ => exact Iff.rfl

end Kind

namespace Members

variable {α : Type} {w e m : Members α}

/-- Written members and the rest are the members that they come from. -/
theorem get?_orElse_of (hwritten : ∀ p ∈ w, m.get? p.1 = some p.2)
    (hrest : ∀ key, key ∉ w.keys → e.get? key = m.get? key) (key : String) :
    (w.orElse e).get? key = m.get? key := by
  rw [get?_orElse]
  cases hw : w.get? key with
  | none => exact hrest key (get?_eq_none_iff.mp hw)
  | some value => exact (hwritten _ (mem_of_get? hw)).symm

end Members

namespace Kind

variable {k : Kind Json} {e : Members Json} {key : String}

/-- What a layer whose children are written is written as. -/
def members (k : Kind Json) (e : Members Json) : Members Json := (k.written e).orElse e

theorem distinct_members (k : Kind Json) (e : Members Json) : (k.members e).Distinct :=
  (distinct_written e k).orElse e

theorem get?_members (k : Kind Json) (e : Members Json) (key : String) :
    (k.members e).get? key = ((k.written e).get? key).or (e.get? key) :=
  Members.get?_orElse _ _ _

theorem get?_members_kept (h : key ∉ k.keywords) : (k.members e).get? key = e.get? key := by
  rw [get?_members, get?_written_eq_none e h, Option.none_or]

variable (types : TypeTag) (required : List String) (name : String) (value : Option Json)

theorem get?_typeMember_of_ne {key : String} (h : "type" ≠ key) :
    Members.get? (typeMember types) key = none := by
  unfold typeMember
  split
  · rfl
  · exact if_neg h

theorem get?_requiredMember (key : String) :
    Members.get? (requiredMember required) key =
      if required = [] then none
      else if "required" = key then some (.array (required.map .string)) else none := by
  unfold requiredMember
  split <;> rfl

theorem get?_optionalMember (key : String) :
    Members.get? (optionalMember name value) key = if name = key then value else none := by
  cases value with
  | none => exact (ite_self none).symm
  | some v => rfl

/-- The shape of an object is written before what is kept beside it. -/
theorem get?_members_object (shape : ObjectShape Json) (e : Members Json) (key : String) :
    ((object shape).members e).get? key =
      (Members.get? [("type", keptType e "object"), ("properties", .object shape.properties)]
        key).or
      ((if shape.required = [] then none
        else if "required" = key then some (.array (shape.required.map .string)) else none).or
      ((if "additionalProperties" = key then shape.additional else none).or (e.get? key))) := by
  rw [get?_members, written, Members.get?_append, Members.get?_append, get?_requiredMember,
    get?_optionalMember, Option.or_assoc, Option.or_assoc]

end Kind

namespace Outline

variable {k : Kind Json} {e m : Members Json}

/-- The outline of what a layer is written as: the layer itself, which is written in the same
way. -/
structure Retells (k : Kind Json) (e : Members Json) (o : Outline) : Prop where
  kind : o.kind.map Part.value = k.told e
  get? : ∀ key, ((k.told e).members o.extensions).get? key = (k.members e).get? key

/-- A layer that is found again in what it is written as. -/
def Returns (k : Kind Json) (e : Members Json) : Prop :=
  ∃ o, ofMembers (k.members e) = .ok o ∧ o.Retells k e

section Kept
variable {keyword : String}

theorem textAt_kept (h : keyword ∉ k.keywords) :
    textAt (k.members e) keyword = textAt e keyword := by
  rw [textAt, textAt, Kind.get?_members_kept h]

theorem listAt_kept (h : keyword ∉ k.keywords) :
    listAt (k.members e) keyword = listAt e keyword := by
  rw [listAt, listAt, Kind.get?_members_kept h]

theorem hasType_kept (h : "type" ∉ k.keywords) (keyword : String) :
    hasType (k.members e) keyword = hasType e keyword := by
  rw [hasType, hasType, Kind.get?_members_kept h]

end Kept

theorem NoItems.of_kept (he : NoItems e)
    (h : ∀ key ∈ ["$ref", "enum", "items"], m.get? key = e.get? key)
    (htype : textAt m "type" ≠ some "enum") (harray : hasType m "array" = false) : NoItems m where
  pointer := by rw [textAt, h _ (by simp)]; exact he.pointer
  type := htype
  values := by rw [listAt, h _ (by simp)]; exact he.values
  array := harray
  items := (h _ (by simp)).trans he.items

theorem choice?_kept (hany : "anyOf" ∉ k.keywords) (hone : "oneOf" ∉ k.keywords) :
    choice? (k.members e) = choice? e :=
  choice?_congr (Kind.get?_members_kept hany) (Kind.get?_members_kept hone)

theorem has_kept {key : String} (h : key ∉ k.keywords) : (k.members e).has key = e.has key := by
  rw [Members.has, Members.has, Kind.get?_members_kept h]

/-- Nothing tells an array beside a layer that is written without a type. -/
theorem NoItems.members (he : NoItems e)
    (h : ∀ key ∈ ["type", "$ref", "enum", "items"], key ∉ k.keywords) : NoItems (k.members e) := by
  have htype := h "type" (by simp)
  refine he.of_kept (fun key hkey => Kind.get?_members_kept (h key (List.mem_cons_of_mem _ hkey)))
    ?_ ?_
  · rw [textAt_kept htype]
    exact he.type
  · exact (hasType_kept htype _).trans he.array

section Types

theorem asString?_keptType_ne {keyword text : String} (hne : keyword ≠ text)
    (he : textAt e "type" ≠ some text) : (keptType e keyword).asString? ≠ some text := by
  unfold keptType
  unfold textAt at he
  cases htype : e.get? "type" with
  | none => exact fun h => hne (Option.some.inj h)
  | some type => rwa [htype] at he

theorem keptType_of_takeType (hm : m.Distinct) {keyword : String} {type : Json}
    (htype : m.get? "type" = some type)
    (he : e.get? "type" = (takeType m keyword).get? "type") : keptType e keyword = type := by
  rw [keptType, he, takeType]
  split
  · next htext =>
    rw [Members.get?_take_self hm, Option.getD_none, ← Option.some.injEq, ← htype,
      get?_of_textAt htext]
  · rw [htype, Option.getD_some]

theorem hasType_of_keptType {keyword : String} (h : m.get? "type" = some (keptType e keyword))
    (he : e.has "type" = true → hasType e keyword = true) : hasType m keyword = true := by
  rw [hasType, h, keptType]
  cases htype : e.get? "type" with
  | none => exact beq_self_eq_true keyword
  | some type =>
    have hnamed := he (by rw [Members.has, htype]; rfl)
    rwa [hasType, htype] at hnamed

theorem hasType_keptType_eq_false {keyword other : String} (hne : keyword ≠ other)
    (h : m.get? "type" = some (keptType e keyword)) (he : hasType e other = false) :
    hasType m other = false := by
  rw [hasType, h, keptType]
  cases htype : e.get? "type" with
  | none => exact beq_eq_false_iff_ne.mpr hne
  | some type => rwa [hasType, htype] at he

end Types

theorem mem_requiredMember {required : List String} {p : String × Json}
    (hrequired : m.get? "required" =
      if required = [] then none else some (.array (required.map .string)))
    (hp : p ∈ Kind.requiredMember required) : m.get? p.1 = some p.2 := by
  unfold Kind.requiredMember at hp
  split at hp
  · cases hp
  · next hne => rw [List.mem_singleton.mp hp, hrequired, if_neg hne]

theorem get?_of_mem_optionalMember {name : String} {value : Option Json} {p : String × Json}
    (h : ∀ v, value = some v → m.get? name = some v) (hp : p ∈ Kind.optionalMember name value) :
    m.get? p.1 = some p.2 := by
  obtain ⟨v, hv, rfl⟩ := List.mem_map.mp hp
  exact h v (Option.mem_toList.mp hv)

end Outline

end MockBuilders
