/-! Splitting text at a character. -/
namespace MockBuilders.Text

/-- The parts between the separators, one more than there are separators. -/
def split (sep : Char) : List Char → List (List Char)
  | [] => [[]]
  | c :: cs =>
      if c = sep then [] :: split sep cs
      else
        match split sep cs with
        | [] => [[c]]
        | part :: parts => (c :: part) :: parts

def join (sep : Char) : List (List Char) → List Char
  | [] => []
  | [part] => part
  | part :: next :: parts => part ++ sep :: join sep (next :: parts)

theorem split_ne_nil (sep : Char) (cs : List Char) : split sep cs ≠ [] := by
  cases cs with
  | nil => simp [split]
  | cons c cs =>
    rw [split]
    split
    · simp
    · split <;> simp

/-- Nothing is lost between the parts but the separators. -/
theorem join_split (sep : Char) (cs : List Char) : join sep (split sep cs) = cs := by
  induction cs with
  | nil => rfl
  | cons c cs ih =>
    rw [split]
    by_cases h : c = sep
    · cases hs : split sep cs with
      | nil => exact absurd hs (split_ne_nil sep cs)
      | cons part parts => rw [hs] at ih; simp [h, join, ih]
    · cases hs : split sep cs with
      | nil => exact absurd hs (split_ne_nil sep cs)
      | cons part parts =>
        rw [hs] at ih
        cases parts <;> simpa [h, join] using ih

/-- No part holds the separator. -/
theorem not_mem_split (sep : Char) (cs : List Char) : ∀ part ∈ split sep cs, sep ∉ part := by
  induction cs with
  | nil => simp [split]
  | cons c cs ih =>
    rw [split]
    by_cases h : c = sep
    · simpa [h] using ih
    · cases hs : split sep cs with
      | nil => exact absurd hs (split_ne_nil sep cs)
      | cons part parts =>
        rw [hs] at ih
        simp only [h, if_false, List.forall_mem_cons] at ih ⊢
        exact ⟨by simp [Ne.symm h, ih.1], ih.2⟩

end MockBuilders.Text
