import MockBuilders.Members

/-!
Reference pointers: the name that a pointer ends in, and the entry that it leads to.
-/
namespace MockBuilders.Pointer

/-- Characters after the last slash, or all of them. -/
def lastSegment (cs : List Char) : List Char := (cs.reverse.takeWhile (· ≠ '/')).reverse

/-- Reads `~1` as a slash. -/
def decodeSlash : List Char → List Char
  | '~' :: '1' :: cs => '/' :: decodeSlash cs
  | c :: cs => c :: decodeSlash cs
  | [] => []

/-- Reads `~0` as a tilde. -/
def decodeTilde : List Char → List Char
  | '~' :: '0' :: cs => '~' :: decodeTilde cs
  | c :: cs => c :: decodeTilde cs
  | [] => []

/-- A pointer into the document ends in the name; anything else is the name itself. -/
def name (pointer : String) : String :=
  let cs := pointer.toList
  let segment := if cs.head? = some '#' then lastSegment cs else cs
  String.ofList (decodeTilde (decodeSlash segment))

/-- Ending tried for names that are no entry as they stand. -/
def suffix : String := "Schema"

/-- The entry a pointer leads to: of its name as it stands, else of the name with the suffix. -/
def lookup? {α : Type} (entries : Members α) (pointer : String) : Option (String × α) :=
  match entries.get? (name pointer) with
  | some value => some (name pointer, value)
  | none => (entries.get? (name pointer ++ suffix)).map fun value => (name pointer ++ suffix, value)

/-- What is looked up is an entry. -/
theorem get?_of_lookup? {α : Type} {entries : Members α} {pointer key : String} {value : α}
    (h : lookup? entries pointer = some (key, value)) : entries.get? key = some value := by
  unfold lookup? at h
  split at h
  · next hv =>
    obtain ⟨rfl, rfl⟩ := Prod.mk.inj (Option.some.inj h)
    exact hv
  · obtain ⟨v, hv, e⟩ := Option.map_eq_some_iff.1 h
    obtain ⟨rfl, rfl⟩ := Prod.mk.inj e
    exact hv

end MockBuilders.Pointer
