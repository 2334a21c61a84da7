import MockBuilders.Pointer

/-!
Pointers to entries. In a pointer a tilde is written `~0` and a slash `~1`, so a name has no slash
left when it is put behind the last one, and what is read back is the name.
Main statement: `Pointer.lookup?_pointerTo_eq_some_iff`.
-/
namespace MockBuilders.Pointer

variable {c : Char} {cs : List Char}

/-- Writes a tilde as `~0`. -/
def encodeTilde (cs : List Char) : List Char :=
  cs.flatMap fun c => if c = '~' then ['~', '0'] else [c]

/-- Writes a slash as `~1`. -/
def encodeSlash (cs : List Char) : List Char :=
  cs.flatMap fun c => if c = '/' then ['~', '1'] else [c]

/-- The tildes come first, so that those of the slashes are left alone. -/
def escaped (name : String) : String := String.ofList (encodeSlash (encodeTilde name.toList))

/-- The pointer to an entry among the schemas of a document. -/
def pointerTo (entry : String) : String := "#/components/schemas/" ++ escaped entry

theorem decodeSlash_cons (h : c ≠ '~') : decodeSlash (c :: cs) = c :: decodeSlash cs := by
  rw [decodeSlash]
  rintro _ rfl
  exact absurd rfl h

theorem decodeTilde_cons (h : c ≠ '~') : decodeTilde (c :: cs) = c :: decodeTilde cs := by
  rw [decodeTilde]
  rintro _ rfl
  exact absurd rfl h

/-- The tildes of a name are followed by a zero, so none of them is read as part of a slash. -/
theorem decodeSlash_encodeSlash_encodeTilde (cs : List Char) :
    decodeSlash (encodeSlash (encodeTilde cs)) = encodeTilde cs := by
  induction cs with
  | nil => rfl
  | cons c cs ih =>
    rw [encodeTilde, List.flatMap_cons, ← encodeTilde, encodeSlash, List.flatMap_append,
      ← encodeSlash, ← encodeSlash]
    split
    · next h =>
      subst h
      change '~' :: decodeSlash ('0' :: encodeSlash (encodeTilde cs)) = _
      rw [decodeSlash_cons (by decide), ih]
      rfl
    · next htilde =>
      by_cases hslash : c = '/'
      · subst hslash
        exact congrArg ('/' :: ·) ih
      · have hc : encodeSlash [c] = [c] := by simp [encodeSlash, hslash]
        rw [hc, List.singleton_append, decodeSlash_cons htilde, ih]
        rfl

theorem decodeTilde_encodeTilde (cs : List Char) : decodeTilde (encodeTilde cs) = cs := by
  induction cs with
  | nil => rfl
  | cons c cs ih =>
    rw [encodeTilde, List.flatMap_cons, ← encodeTilde]
    split
    · next h =>
      subst h
      exact congrArg ('~' :: ·) ih
    · next h => rw [List.singleton_append, decodeTilde_cons h, ih]

theorem slash_not_mem_encodeSlash (cs : List Char) : '/' ∉ encodeSlash cs := by
  intro h
  obtain ⟨c, -, hc⟩ := List.mem_flatMap.mp h
  split at hc
  · simp at hc
  · next hne => exact hne (List.mem_singleton.mp hc).symm

theorem lastSegment_append (base : List Char) (h : '/' ∉ cs) :
    lastSegment (base ++ '/' :: cs) = cs := by
  have hall : ∀ d ∈ cs.reverse, decide (d ≠ '/') = true := by
    intro d hd
    simpa using fun e : d = '/' => h (e ▸ List.mem_reverse.mp hd)
  rw [lastSegment, List.reverse_append, List.reverse_cons, List.append_assoc,
    List.takeWhile_append_of_pos hall]
  simp

theorem name_of_escaped {pointer entry : String} {base : List Char}
    (h : pointer.toList = '#' :: base ++ '/' :: (escaped entry).toList) : name pointer = entry := by
  have hhead : pointer.toList.head? = some '#' := by rw [h]; rfl
  rw [name, if_pos hhead, h, escaped, String.toList_ofList,
    lastSegment_append _ (slash_not_mem_encodeSlash _), decodeSlash_encodeSlash_encodeTilde,
    decodeTilde_encodeTilde, String.ofList_toList]

theorem name_pointerTo (entry : String) : name (pointerTo entry) = entry := by
  have hchars : (pointerTo entry).toList =
      "#/components/schemas/".toList ++ (escaped entry).toList := String.toList_append ..
  have hbase : (pointerTo entry).toList =
      '#' :: "/components/schemas".toList ++ '/' :: (escaped entry).toList := by
    rw [hchars]
    simp
  exact name_of_escaped hbase

/-- The pointer to a name leads to the entry of this name, whatever other entries there are. -/
theorem lookup?_pointerTo_eq_some_iff {α : Type} (entries : Members α) (entry : String)
    (value : α) :
    lookup? entries (pointerTo entry) = some (entry, value) ↔ entries.get? entry = some value := by
  constructor
  · exact get?_of_lookup?
  · intro h
    rw [lookup?, name_pointerTo, h]

end MockBuilders.Pointer
