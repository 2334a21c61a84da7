import MockBuilders.Intake
import MockBuilders.Proofs.Json.NumberText
import MockBuilders.Proofs.Json.Quoting
import MockBuilders.Proofs.Json.Reordering

/-!
A value can be told from its text: as long as its numbers can be told from theirs, two values of
one text are equal. Main statement: `Json.eq_of_text_eq`.
-/
namespace MockBuilders

/-- What may stand after a value: nothing, or a mark that closes or separates. -/
def Ends (cs : List Char) : Prop := ∀ c ∈ cs.head?, c = ',' ∨ c = ']' ∨ c = '\x7d'

theorem ends_nil : Ends [] := by simp [Ends]

theorem ends_comma (cs : List Char) : Ends (',' :: cs) := by simp [Ends]

/-- What follows the text of one value or the other can be told from it. -/
def Decodes {α : Type} (f : α → List Char) (a b : α) : Prop :=
  ∀ r r', Ends r → Ends r' → f a ++ r = f b ++ r' → a = b ∧ r = r'

section Joined
variable {α : Type} {f : α → List Char}

/-- Texts with commas between them. -/
def joined (f : α → List Char) : List α → List Char
  | [] => []
  | [x] => f x
  | x :: y :: xs => f x ++ ',' :: joined f (y :: xs)

theorem joined_append_inj {close : Char} (hclose : close = ']' ∨ close = '\x7d')
    (hstart : ∀ x, ∃ c cs, f x = c :: cs ∧ c ≠ close) {as bs : List α}
    (hdec : ∀ a ∈ as, ∀ b ∈ bs, Decodes f a b) {r r' : List Char}
    (h : joined f as ++ close :: r = joined f bs ++ close :: r') : as = bs ∧ r = r' := by
  have hends (cs : List Char) : Ends (close :: cs) := by
    rcases hclose with rfl | rfl <;> simp [Ends]
  have hcomma : close ≠ ',' := by
    rcases hclose with rfl | rfl <;> decide
  -- the first text of a list cannot be mistaken for the closing mark
  have hopen (x : α) (xs : List α) (cs cs' : List Char) :
      joined f (x :: xs) ++ cs ≠ close :: cs' := by
    obtain ⟨c, rest, hc, hne⟩ := hstart x
    cases xs <;> simp [joined, hc, hne]
  induction as generalizing bs with
  | nil =>
    cases bs with
    | nil => exact ⟨rfl, by simpa [joined] using h⟩
    | cons b bs => exact absurd h.symm (hopen b bs _ _)
  | cons a as ih =>
    cases bs with
    | nil => exact absurd h (hopen a as _ _)
    | cons b bs =>
      have hab := hdec a List.mem_cons_self b List.mem_cons_self
      cases as with
      | nil =>
        cases bs with
        | nil =>
          obtain ⟨rfl, hrest⟩ := hab _ _ (hends r) (hends r') h
          simpa using hrest
        | cons b' bs =>
          simp only [joined, List.append_assoc, List.cons_append] at h
          obtain ⟨-, hrest⟩ := hab _ _ (hends r) (ends_comma _) h
          simp [hcomma] at hrest
      | cons a' as =>
        cases bs with
        | nil =>
          simp only [joined, List.append_assoc, List.cons_append] at h
          obtain ⟨-, hrest⟩ := hab _ _ (ends_comma _) (hends r') h
          simp [hcomma.symm] at hrest
        | cons b' bs =>
          simp only [joined, List.append_assoc, List.cons_append] at h
          obtain ⟨rfl, hrest⟩ := hab _ _ (ends_comma _) (ends_comma _) h
          obtain ⟨htail, hr⟩ := ih (fun x hx y hy => hdec x (List.mem_cons_of_mem _ hx) y
            (List.mem_cons_of_mem _ hy)) (List.cons.inj hrest).2
          exact ⟨by rw [htail], hr⟩

end Joined

namespace Json

mutual

/-- The numbers in the tree, from left to right. -/
def numbers : Json → List Number
  | number n => [n]
  | array items => numbersItems items
  | object members => numbersMembers members
  | _ => []

def numbersItems : List Json → List Number
  | [] => []
  | item :: items => item.numbers ++ numbersItems items

def numbersMembers : List (String × Json) → List Number
  | [] => []
  | (_, value) :: members => value.numbers ++ numbersMembers members

end

theorem mem_numbersItems {items : List Json} {n : Number} :
    n ∈ numbersItems items ↔ ∃ v ∈ items, n ∈ v.numbers := by
  induction items <;> simp_all [numbersItems]

theorem mem_numbersMembers {members : Members Json} {n : Number} :
    n ∈ numbersMembers members ↔ ∃ p ∈ members, n ∈ p.2.numbers := by
  induction members <;> simp_all [numbersMembers]

/-- The kind of the value whose text begins with a character. -/
def kindAt (c : Char) : String :=
  if c = 'n' then "null"
  else if c = 't' ∨ c = 'f' then "boolean"
  else if c = '"' then "string"
  else if c = '[' then "array"
  else if c = '\x7b' then "object"
  else if Number.isMark c then "number"
  else ""

theorem kindAt_of_isMark {c : Char} (h : Number.isMark c = true) : kindAt c = "number" := by
  have hne (d : Char) (hd : Number.isMark d = false) : c ≠ d := by
    rintro rfl
    rw [h] at hd
    cases hd
  simp [kindAt, h, hne 'n' rfl, hne 't' rfl, hne 'f' rfl, hne '"' rfl, hne '[' rfl,
    hne '\x7b' rfl]

theorem exists_first (v : Json) : ∃ c cs, v.chars = c :: cs ∧ kindAt c = v.kindName := by
  cases v with
  | number n =>
    obtain ⟨c, cs, hc⟩ := List.exists_cons_of_ne_nil n.chars_ne_nil
    have hmark := Number.isMark_of_mem_chars (hc ▸ List.mem_cons_self : c ∈ n.chars)
    exact ⟨c, cs, by rw [chars, hc], kindAt_of_isMark hmark⟩
  | bool b => cases b <;> exact ⟨_, _, rfl, rfl⟩
  | _ => exact ⟨_, _, rfl, rfl⟩

/-- No value begins with the mark that closes a list. -/
theorem exists_first_ne (v : Json) : ∃ c cs, v.chars = c :: cs ∧ c ≠ ']' := by
  obtain ⟨c, cs, hc, hkind⟩ := v.exists_first
  refine ⟨c, cs, hc, ?_⟩
  rintro rfl
  have hclose : kindAt ']' = "" := by decide
  rw [hclose] at hkind
  cases v <;> simp [kindName] at hkind

theorem kindName_eq_of_append {a b : Json} {r r' : List Char} (h : a.chars ++ r = b.chars ++ r') :
    a.kindName = b.kindName := by
  obtain ⟨c, cs, hc, hkind⟩ := a.exists_first
  obtain ⟨d, ds, hd, hkind'⟩ := b.exists_first
  rw [hc, hd] at h
  rw [← hkind, ← hkind', (List.cons.inj h).1]

theorem itemChars_eq (items : List Json) : itemChars items = joined chars items := by
  fun_induction joined chars items <;> simp_all [itemChars]

theorem memberChars_eq (members : Members Json) :
    memberChars members = joined (fun p => quoted p.1 ++ ':' :: p.2.chars) members := by
  induction members with
  | nil => rfl
  | cons p members ih => cases members <;> simp_all [memberChars, joined]

theorem decodes_member {p q : String × Json} (h : Decodes chars p.2 q.2) :
    Decodes (fun p : String × Json => quoted p.1 ++ ':' :: p.2.chars) p q := by
  intro r r' hr hr' heq
  simp only [List.append_assoc, List.cons_append] at heq
  obtain ⟨hkey, hrest⟩ := quoted_append_inj heq
  obtain ⟨hvalue, hr⟩ := h r r' hr hr' (List.cons.inj hrest).2
  exact ⟨Prod.ext hkey hvalue, hr⟩

theorem not_isMark_of_ends {cs : List Char} (h : Ends cs) :
    ∀ c ∈ cs.head?, Number.isMark c = false := by
  intro c hc
  rcases h c hc with rfl | rfl | rfl <;> rfl

/-- The text of a value is told apart from that of any other, whatever follows, if the texts of
their numbers are told apart. -/
theorem decodes (a b : Json)
    (h : ∀ x ∈ a.numbers, ∀ y ∈ b.numbers, x.chars = y.chars → x = y) : Decodes chars a b := by
  intro r r' hr hr' heq
  have hkind := kindName_eq_of_append heq
  induction a using induct generalizing b r r' with
  | null =>
    cases b with
    | null => exact ⟨rfl, List.append_cancel_left heq⟩
    | _ => simp [kindName] at hkind
  | bool p =>
    cases b with
    | bool q =>
      cases p <;> cases q <;> simp [chars] at heq ⊢
      all_goals exact heq
    | _ => simp [kindName] at hkind
  | number x =>
    cases b with
    | number y =>
      obtain ⟨hxy, hrest⟩ :=
        Number.chars_append_inj (not_isMark_of_ends hr) (not_isMark_of_ends hr') heq
      rw [h x (by simp [numbers]) y (by simp [numbers]) hxy]
      exact ⟨rfl, hrest⟩
    | _ => simp [kindName] at hkind
  | string s =>
    cases b with
    | string t =>
      obtain ⟨rfl, hrest⟩ := quoted_append_inj heq
      exact ⟨rfl, hrest⟩
    | _ => simp [kindName] at hkind
  | array as ih =>
    cases b with
    | array bs =>
      simp only [chars, itemChars_eq, List.cons_append, List.append_assoc, List.cons.injEq,
        true_and] at heq
      have hdec : ∀ v ∈ as, ∀ w ∈ bs, Decodes chars v w := fun v hv w hw r r' hr hr' heq =>
        ih v hv w (fun x hx y hy => h x (mem_numbersItems.mpr ⟨v, hv, hx⟩) y
          (mem_numbersItems.mpr ⟨w, hw, hy⟩)) r r' hr hr' heq (kindName_eq_of_append heq)
      obtain ⟨rfl, hrest⟩ := joined_append_inj (.inl rfl) exists_first_ne hdec heq
      exact ⟨rfl, hrest⟩
    | _ => simp [kindName] at hkind
  | object m ih =>
    cases b with
    | object n =>
      simp only [chars, memberChars_eq, List.cons_append, List.append_assoc, List.cons.injEq,
        true_and] at heq
      have hdec : ∀ p ∈ m, ∀ q ∈ n, Decodes chars p.2 q.2 := fun p hp q hq r r' hr hr' heq =>
        ih p hp q.2 (fun x hx y hy => h x (mem_numbersMembers.mpr ⟨p, hp, hx⟩) y
          (mem_numbersMembers.mpr ⟨q, hq, hy⟩)) r r' hr hr' heq (kindName_eq_of_append heq)
      obtain ⟨rfl, hrest⟩ := joined_append_inj (.inr rfl)
        (fun p => ⟨'"', _, rfl, by decide⟩) (fun p hp q hq => decodes_member (hdec p hp q hq)) heq
      exact ⟨rfl, hrest⟩
    | _ => simp [kindName] at hkind

/-- Values of one text are equal if their numbers are told apart by their texts. -/
theorem eq_of_text_eq {a b : Json}
    (h : ∀ x ∈ a.numbers, ∀ y ∈ b.numbers, x.chars = y.chars → x = y) (htext : a.text = b.text) :
    a = b := by
  have hchars : a.chars = b.chars := String.ofList_injective htext
  exact (decodes a b h [] [] ends_nil ends_nil (by rw [hchars])).1

end Json

end MockBuilders
