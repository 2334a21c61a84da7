import MockBuilders.Proofs.Schema.Followed
import MockBuilders.Proofs.Schema.Merging

/-!
The marks of a raw list, its items and the operator that combines them, and what is left of them in
what is written for its canonical form. An enumeration keeps an operator that was found beside it.
Main statements: `Outline.get?_operator_of_listed` and `Schema.unmarked_canonical_iff`.
-/
namespace MockBuilders

/-- A layer whose values or alternatives were listed as items. -/
def Kind.isListed {σ : Type} : Kind σ → Bool
  | variants _ | union _ => true
  | _ => false

theorem Kind.Pointwise.isListed_eq {σ τ : Type} {R : σ → τ → Prop} {k : Kind σ} {l : Kind τ}
    (h : k.Pointwise R l) : k.isListed = l.isListed := by
  cases h <;> rfl

/-- No mark of a raw list is among the members. -/
structure Unmarked (m : Members Json) : Prop where
  items : m.get? "items" = none
  operator : m.get? "logicalOperator" = none

namespace Outline

variable {m : Members Json} {o : Outline}

theorem isListed_ofArray (m : Members Json) : (ofArray m).kind.isListed = false := by
  unfold ofArray
  dsimp only
  split
  · rfl
  · split <;> rfl
  · rfl

/-- Enumerations and items that are combined by `or` are the only listed layers. -/
theorem listed_cases (h : Rule m o) (hlisted : o.kind.isListed = true) :
    (textAt m "$ref" = none ∧ textAt m "type" = some "enum" ∧ o = ofVariants m) ∨
      textAt m "type" ≠ some "enum" ∧ ∃ items, o = ofItemList m items := by
  cases h with
  | variants hpointer htype => exact .inl ⟨hpointer, htype, rfl⟩
  | itemList hno _ _ => exact .inr ⟨hno.type, _, rfl⟩
  | array _ _ =>
    rw [isListed_ofArray] at hlisted
    cases hlisted
  | reference _ | enumeration _ _ _ => cases hlisted
  | shaped _ h => cases h <;> cases hlisted

variable (hm : m.Distinct) (ho : ofMembers m = .ok o) (hlisted : o.kind.isListed = true)
include hm ho hlisted

theorem get?_items_of_listed : o.extensions.get? "items" = none := by
  rcases listed_cases (rule_of_ofMembers ho) hlisted with ⟨hpointer, htype, -⟩ | ⟨-, _, rfl⟩
  · exact get?_items_of_ofMembers hm ho hpointer (.inl htype)
  · rw [extensions_ofItemList]
    exact ((Members.PartOf.refl (hm.take _)).take _).get?_eq_none (Members.get?_take_self hm _)

/-- An operator is kept beside an enumeration, and taken from combined items. -/
theorem get?_operator_of_listed : o.extensions.get? "logicalOperator" =
    if textAt m "type" = some "enum" then m.get? "logicalOperator" else none := by
  rcases listed_cases (rule_of_ofMembers ho) hlisted with ⟨-, htype, rfl⟩ | ⟨htype, _, rfl⟩
  · rw [if_pos htype]
    exact (Members.get?_take_of_ne (hm.take _) (by decide)).trans
      (Members.get?_take_of_ne hm (by decide))
  · rw [if_neg htype, extensions_ofItemList]
    exact Members.get?_take_self (hm.take _) _

end Outline

namespace Schema

variable {s t : Schema} {records branches : List Schema} {e : Members Json} {key : String}

theorem get?_members_flatten (hkey : key ∉ ["type", "enum"]) :
    (flatten records e).members.get? key = e.get? key :=
  Kind.get?_members_kept hkey

theorem get?_members_takenLeaf (hdistinct : e.Distinct) (types : TypeTag)
    (hkey : key ∉ ["type", "default", "examples"]) :
    (takenLeaf types e).members.get? key = e.get? key := by
  have hkept : (takenLeaf types e).members.get? key = (takenLeaf types e).extensions.get? key :=
    Kind.get?_members_kept hkey
  simp only [List.mem_cons, List.not_mem_nil, or_false, not_or] at hkey
  obtain ⟨-, hdefault, hexamples⟩ := hkey
  rw [hkept]
  exact Outline.get?_leafTake_of_ne hdistinct types (Ne.symm hdefault) fun h => (hexamples h).elim

theorem get?_members_collapse (hdistinct : e.Distinct)
    (hkey : key ∉ ["type", "default", "examples", "anyOf"]) :
    (collapse branches e).members.get? key = e.get? key := by
  unfold collapse
  split
  · exact get?_members_takenLeaf hdistinct _ fun h => hkey (List.mem_append_left ["anyOf"] h)
  · have hany : key ∉ ["anyOf"] := fun h =>
      hkey (List.mem_append_right ["type", "default", "examples"] h)
    exact Kind.get?_members_kept hany

/-- The marks that were kept beside a raw list are written for its canonical form. -/
theorem get?_members_canonical_of_listed (hdistinct : t.extensions.Distinct)
    (hlisted : t.kind.isListed = true) (hkey : key ∈ ["items", "logicalOperator"]) :
    t.canonical.members.get? key = t.extensions.get? key := by
  obtain ⟨kind, e⟩ := t
  have hother : ∀ {keywords : List String}, "items" ∉ keywords → "logicalOperator" ∉ keywords →
      key ∉ keywords := by
    intro keywords hitems hoperator
    rcases List.mem_cons.mp hkey with rfl | hkey
    · exact hitems
    · rwa [List.mem_singleton.mp hkey]
  rw [canonical_mk]
  cases kind with
  | variants records => exact get?_members_flatten (hother (by decide) (by decide))
  | union branches => exact get?_members_collapse hdistinct (hother (by decide) (by decide))
  | _ => cases hlisted

/-- What is written for the canonical form of an enumeration or a union has no items, and no
operator but one that was found beside an enumeration. -/
theorem unmarked_canonical_iff {v : Json} (hv : v.WellFormed) (h : ofJson v = .ok s)
    (ht : s.Contains t) (hlisted : t.kind.isListed = true) :
    ∃ (q : String) (m written : Members Json), v.Reads (.object m) ∧ read q (.object m) = .ok t ∧
      t.canonical.toJson = .object written ∧ written.get? "items" = none ∧
      (Unmarked written ↔
        (Outline.textAt m "type" = some "enum" → m.get? "logicalOperator" = none)) := by
  obtain ⟨q, w, hw, hread⟩ := exists_reads_of_contains h ht
  have hdistinct := (tidy_of_read hv h ht).distinct
  rcases read_cases hread with rfl | rfl | ⟨m, rfl⟩
  · cases hlisted
  · cases hlisted
  have hmarks : ∀ key ∈ ["items", "logicalOperator"],
      t.canonical.members.get? key = t.extensions.get? key :=
    fun _ => get?_members_canonical_of_listed hdistinct hlisted
  obtain ⟨o, k, ho, hk, rfl⟩ := read_object_eq_ok_iff.mp hread
  have hm := (Json.wellFormed_object_iff.mp (hw.wellFormed hv)).1
  have hlayer : o.kind.isListed = true := hk.isListed_eq.trans hlisted
  have hitems := (hmarks "items" (by simp)).trans (Outline.get?_items_of_listed hm ho hlayer)
  have hoperator := (hmarks "logicalOperator" (by simp)).trans
    (Outline.get?_operator_of_listed hm ho hlayer)
  refine ⟨q, m, _, hw, hread, toJson_eq _, hitems, ?_⟩
  constructor
  · intro hunmarked htype
    rw [if_pos htype] at hoperator
    exact hoperator.symm.trans hunmarked.operator
  · intro hnone
    refine ⟨hitems, hoperator.trans ?_⟩
    split
    · next htype => exact hnone htype
    · rfl

section Ticket

def remarkMembers : Members Json :=
  [("items", .array [.object [("type", .string "string")], .object [("type", .string "null")]]),
    ("description", .string "Free text"), ("logicalOperator", .string "or")]

/-- An object with a union below it. -/
def ticketValue : Json :=
  .object [("properties", .object [("remark", .object remarkMembers)])]

def remark : Schema :=
  mk (.union [ofPrimitive .string, ofPrimitive .null]) [("description", .string "Free text")]

def ticket : Schema := mk (.object ⟨[("remark", remark)], [], none⟩) []

theorem unmarked_remark : ticketValue.WellFormed ∧ ofJson ticketValue = .ok ticket ∧
    ticket.Contains remark ∧ remark.kind.isListed = true ∧
    ∃ (q : String) (m written : Members Json), ticketValue.Reads (.object m) ∧
      read q (.object m) = .ok remark ∧ remark.canonical.toJson = .object written ∧
      written.get? "items" = none ∧
      (Unmarked written ↔
        (Outline.textAt m "type" = some "enum" → m.get? "logicalOperator" = none)) := by
  have hwellFormed : ticketValue.WellFormed := by
    simp [ticketValue, remarkMembers, Json.WellFormed, Json.WellFormedMembers,
      Json.WellFormedItems, Members.Distinct, Members.keys]
  have hremark : ∀ pointer, read pointer (.object remarkMembers) = .ok remark := by
    intro pointer
    refine read_object_eq_ok_iff.mpr ⟨_, _, rfl, .union (.cons ?_ (.cons ?_ .nil)), rfl⟩
    · exact read_ofPrimitive _ .string
    · exact read_ofPrimitive _ .null
  have hread : ofJson ticketValue = .ok ticket :=
    read_object_eq_ok_iff.mpr ⟨_, _, rfl, .object _ (.cons ⟨rfl, hremark _⟩ .nil) .none, rfl⟩
  have hcontains : ticket.Contains remark := .child (List.mem_singleton_self _) (.self _)
  exact ⟨hwellFormed, hread, hcontains, rfl,
    unmarked_canonical_iff hwellFormed hread hcontains rfl⟩

end Ticket

section Weekday

/-- An enumeration whose records are combined by an operator, too. -/
def weekdayValue : Json :=
  .object [("type", .string "enum"), ("items", .array [
      .object [("const", .string "monday")], .object [("const", .string "friday")]]),
    ("logicalOperator", .string "or")]

def weekday : Schema :=
  mk (.variants [mk (.leaf ⟨[], none, none⟩) [("const", .string "monday")],
    mk (.leaf ⟨[], none, none⟩) [("const", .string "friday")]])
    [("logicalOperator", .string "or")]

/-- The operator is written beside the values. -/
theorem weekday_keeps_operator : weekdayValue.WellFormed ∧ ofJson weekdayValue = .ok weekday ∧
    weekday.kind.isListed = true ∧
    weekday.canonical.toJson = .object [("type", .string "string"),
      ("enum", .array [.string "monday", .string "friday"]), ("logicalOperator", .string "or")] ∧
    ¬Unmarked weekday.canonical.members := by
  refine ⟨?_, ?_, rfl, rfl, fun h => ?_⟩
  · simp [weekdayValue, Json.WellFormed, Json.WellFormedMembers, Json.WellFormedItems,
      Members.Distinct, Members.keys]
  · refine read_object_eq_ok_iff.mpr ⟨_, _, rfl, .variants (.cons ?_ (.cons ?_ .nil)), rfl⟩
    · exact read_object_eq_ok_iff.mpr ⟨_, _, rfl, .leaf _, rfl⟩
    · exact read_object_eq_ok_iff.mpr ⟨_, _, rfl, .leaf _, rfl⟩
  · cases h.operator

end Weekday

end Schema

end MockBuilders
