import MockBuilders.Decimal.Binary64
import MockBuilders.Members

/-! JSON values. Objects keep the order of their members. -/
namespace MockBuilders

/-- A whole number of 64 bits, signed or unsigned, or any other number as a binary one. -/
inductive Number where
  | integer (value : Int)
  | binary (value : Binary64)
  deriving DecidableEq, Repr

inductive Json where
  | null
  | bool (value : Bool)
  | number (value : Number)
  | string (value : String)
  | array (items : List Json)
  | object (members : List (String × Json))
  deriving BEq, Repr

namespace Number

/-- The nearest binary number. -/
def toBinary : Number → Binary64
  | integer value => .nearest (decide (value < 0)) value.natAbs 1
  | binary value => value

end Number

namespace Json

def asString? : Json → Option String
  | string value => some value
  | _ => none

def asArray? : Json → Option (List Json)
  | array items => some items
  | _ => none

def asObject? : Json → Option (Members Json)
  | object members => some members
  | _ => none

/-- The value under a name of an object. -/
def get? (value : Json) (key : String) : Option Json :=
  match value with
  | object members => Members.get? members key
  | _ => none

def isObject (value : Json) : Bool := value.asObject?.isSome

mutual

/-- Number of values in the tree. -/
def size : Json → Nat
  | array items => sizeItems items + 1
  | object members => sizeMembers members + 1
  | _ => 1

def sizeItems : List Json → Nat
  | [] => 0
  | item :: items => item.size + sizeItems items

def sizeMembers : List (String × Json) → Nat
  | [] => 0
  | (_, value) :: members => value.size + sizeMembers members

end

mutual

/-- No object in the tree holds a name twice. -/
def WellFormed : Json → Prop
  | array items => WellFormedItems items
  | object members => Members.Distinct members ∧ WellFormedMembers members
  | _ => True

def WellFormedItems : List Json → Prop
  | [] => True
  | item :: items => item.WellFormed ∧ WellFormedItems items

def WellFormedMembers : List (String × Json) → Prop
  | [] => True
  | (_, value) :: members => value.WellFormed ∧ WellFormedMembers members

end

theorem size_pos (value : Json) : 0 < value.size := by
  cases value <;> simp [size]

theorem size_le_of_mem {items : List Json} {value : Json} (h : value ∈ items) :
    value.size ≤ sizeItems items := by
  induction items with
  | nil => simp at h
  | cons item items ih =>
    rw [sizeItems]
    rcases List.mem_cons.1 h with rfl | h
    · exact Nat.le_add_right _ _
    · exact Nat.le_add_left_of_le (ih h)

theorem size_le_of_mem_members {members : Members Json} {key : String} {value : Json}
    (h : (key, value) ∈ members) : value.size ≤ sizeMembers members := by
  induction members with
  | nil => simp at h
  | cons p members ih =>
    rw [sizeMembers]
    rcases List.mem_cons.1 h with rfl | h
    · exact Nat.le_add_right _ _
    · exact Nat.le_add_left_of_le (ih h)

theorem size_le_of_get? {members : Members Json} {key : String} {value : Json}
    (h : members.get? key = some value) : value.size ≤ sizeMembers members :=
  size_le_of_mem_members (Members.mem_of_get? h)

theorem wellFormedItems_iff {items : List Json} :
    WellFormedItems items ↔ ∀ item ∈ items, item.WellFormed := by
  induction items <;> simp_all [WellFormedItems]

theorem wellFormedMembers_iff {members : Members Json} :
    WellFormedMembers members ↔ ∀ p ∈ members, p.2.WellFormed := by
  induction members <;> simp_all [WellFormedMembers]

end Json

end MockBuilders
