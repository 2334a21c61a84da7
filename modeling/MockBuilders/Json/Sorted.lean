import MockBuilders.Json.Text

/-! JSON values with the members of every object in the order of their names. -/
namespace MockBuilders

namespace Members

variable {α : Type}

/-- Puts a member before the first one whose name is not smaller. -/
def insertSorted (p : String × α) : Members α → Members α
  | [] => [p]
  | q :: m => if p.1 ≤ q.1 then p :: q :: m else q :: insertSorted p m

def sorted : Members α → Members α
  | [] => []
  | p :: m => insertSorted p (sorted m)

theorem insertSorted_perm (p : String × α) (m : Members α) : (insertSorted p m).Perm (p :: m) := by
  induction m with
  | nil => exact .refl _
  | cons q m ih =>
    rw [insertSorted]
    split
    · exact .refl _
    · exact (ih.cons q).trans (.swap p q m)

theorem sorted_perm (m : Members α) : (sorted m).Perm m := by
  induction m with
  | nil => exact .refl _
  | cons p m ih => exact (insertSorted_perm p _).trans (ih.cons p)

end Members

namespace Json

mutual

def sorted : Json → Json
  | array items => .array (sortedItems items)
  | object members => .object (Members.sorted (sortedMembers members))
  | value => value

def sortedItems : List Json → List Json
  | [] => []
  | item :: items => item.sorted :: sortedItems items

def sortedMembers : List (String × Json) → List (String × Json)
  | [] => []
  | (key, value) :: members => (key, value.sorted) :: sortedMembers members

end

/-- The text without blanks and with sorted names: equal for values that differ in the order of
members only. -/
def canonicalText (value : Json) : String := value.sorted.text

theorem sortedItems_eq (items : List Json) : sortedItems items = items.map sorted := by
  induction items <;> simp_all [sortedItems]

theorem sortedMembers_eq (members : Members Json) :
    sortedMembers members = members.mapValues sorted := by
  induction members <;> simp_all [sortedMembers, Members.mapValues]

end Json

end MockBuilders
