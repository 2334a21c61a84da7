import MockBuilders.Proofs.Decimal.Numerals
import MockBuilders.Proofs.Json.Location
import MockBuilders.Proofs.Toml.Quoting
import MockBuilders.Toml.Document
import MockBuilders.Toml.Written

/-!
Statements of TOML read back, one token after the other: what is written for a header or for a
name with its value takes the reader over that text and adds the statement.
Main statements: `Toml.StatementState.after?_header` and `Toml.StatementState.after?_assignment`.
-/
namespace MockBuilders.Toml

variable {cs rest : List Char}

namespace Token

variable {t : Token} {c : Char}

theorem all?_of_first? (h : first? cs = some (t, rest)) : all? cs = (all? rest).map (t :: ·) := by
  cases cs with
  | nil => cases h
  | cons c cs =>
    rw [all?]
    split
    · next hnone => rw [hnone] at h; cases h
    · next hsome =>
      rw [hsome] at h
      obtain ⟨rfl, rfl⟩ := Prod.mk.inj (Option.some.inj h)
      rfl

/-- What may follow a word: no character of a word, and no digit after a blank. -/
structure EndsWord (rest : List Char) : Prop where
  head : ∀ d ∈ rest.head?, isWordChar d = false
  blank : ∀ d ds, rest = ' ' :: d :: ds → d.isDigit = false

theorem word?_append (hcs : ∀ c ∈ cs, isWordChar c = true) (hrest : EndsWord rest) :
    word? (cs ++ rest) = (cs, rest) := by
  unfold word?
  rw [takeWhile_append_of_head hcs hrest.head, dropWhile_append_of_head hcs hrest.head]
  split
  · next d ds =>
    simp [hrest.blank d ds rfl]
  · rfl

theorem first?_mark (h : isMark c = true) (cs : List Char) :
    first? (c :: cs) = some (mark c, cs) := by
  have hbreak : c ≠ '\n' := by rintro rfl; cases h
  have hblank : ¬(c = ' ' ∨ c = '\t') := by rintro (rfl | rfl) <;> cases h
  have hcomment : c ≠ '#' := by rintro rfl; cases h
  simp only [first?, hbreak, hblank, hcomment, h, if_false, if_true]

theorem first?_word (hne : cs ≠ []) (hcs : ∀ c ∈ cs, isWordChar c = true) (hrest : EndsWord rest) :
    first? (cs ++ rest) = some (word cs, rest) := by
  obtain ⟨c, cs, rfl⟩ := List.exists_cons_of_ne_nil hne
  have h : isWordChar c = true := hcs c List.mem_cons_self
  have hbreak : c ≠ '\n' := by rintro rfl; cases h
  have hblank : ¬(c = ' ' ∨ c = '\t') := by rintro (rfl | rfl) <;> cases h
  have hcomment : c ≠ '#' := by rintro rfl; cases h
  have hmark : isMark c = false := by
    rw [Bool.eq_false_iff]
    intro hmark
    simp only [isMark, Bool.or_eq_true, beq_iff_eq] at hmark
    rcases hmark with ((((rfl | rfl) | rfl) | rfl) | rfl) | rfl <;> cases h
  have hword := word?_append hcs hrest
  rw [List.cons_append] at hword ⊢
  simp only [first?, hbreak, hblank, hcomment, hmark, h, hword, if_false, if_true,
    Bool.false_eq_true]

theorem exists_quoted_cons (s : String) : ∃ q qs, quoted s = q :: qs ∧ (q = '"' ∨ q = '\'') := by
  unfold quoted quotedIn
  generalize QuoteStyle.ofChars s.toList = style
  cases style with
  | basic => exact ⟨_, _, rfl, .inl rfl⟩
  | literal => exact ⟨_, _, rfl, .inr rfl⟩
  | basicLines => exact ⟨_, _, rfl, .inl rfl⟩
  | literalLines => exact ⟨_, _, rfl, .inr rfl⟩

theorem first?_quoted (s : String) (hrest : ∀ d ∈ rest.head?, d ≠ '"' ∧ d ≠ '\'') :
    ∃ lines, first? (quoted s ++ rest) = some (string s.toList lines, rest) := by
  obtain ⟨lines, hread⟩ := string?_quoted s hrest
  obtain ⟨q, qs, hcons, hq⟩ := exists_quoted_cons s
  refine ⟨lines, ?_⟩
  rw [hcons, List.cons_append] at hread ⊢
  have hstring : first? (q :: (qs ++ rest)) =
      (string? (q :: (qs ++ rest))).map fun r => (string r.1 r.2.1, r.2.2) := by
    rcases hq with rfl | rfl <;> rfl
  rw [hstring, hread]
  rfl

end Token

namespace StatementState

variable {s s' : StatementState} {key : String}

/-- The state behind a text. -/
def after? (s : StatementState) (cs : List Char) : Option StatementState :=
  (Token.all? cs).bind fun tokens => tokens.foldlM step s

theorem after?_nil (s : StatementState) : s.after? [] = some s := by
  rw [after?, Token.all?]
  rfl

theorem after?_of_first? {t : Token} (h : Token.first? cs = some (t, rest)) :
    s.after? cs = (s.step t).bind fun s => s.after? rest := by
  rw [after?, Token.all?_of_first? h]
  cases hrest : Token.all? rest with
  | none => cases s.step t <;> simp [after?, hrest]
  | some tokens => cases hs : s.step t <;> simp [after?, hrest, hs]

theorem after?_mark {c : Char} (hc : Token.isMark c = true) (cs : List Char) :
    s.after? (c :: cs) = (s.mark c).bind fun s => s.after? cs :=
  after?_of_first? (Token.first?_mark hc cs)

theorem after?_lineBreak (cs : List Char) :
    s.after? ('\n' :: cs) = (s.step .lineBreak).bind fun s => s.after? cs :=
  after?_of_first? rfl

theorem after?_blank (cs : List Char) :
    s.after? (' ' :: cs) = (s.step .blank).bind fun s => s.after? cs :=
  after?_of_first? rfl

/-- A name that needs no quotes. -/
def Bare (key : String) : Prop := key.toList ≠ [] ∧ ∀ c ∈ key.toList, Token.isNameChar c = true

instance (key : String) : Decidable (Bare key) :=
  decidable_of_iff (key.toList ≠ [] ∧ key.toList.all Token.isNameChar = true)
    (and_congr_right fun _ => List.all_eq_true)

theorem names_of_bare (hkey : Bare key) (s : StatementState) :
    s.names key.toList = s.name key.toList := by
  have hpoint : '.' ∉ key.toList := by
    intro h
    have := hkey.2 '.' h
    cases this
  rw [names, Text.split_of_not_mem hpoint]
  simp only [part, if_neg hkey.1, List.all_eq_true.mpr hkey.2, if_true]
  cases s.name key.toList <;> rfl

theorem after?_name (hkey : Bare key) (hvalue : awaitsValue s.awaited = false)
    (hrest : Token.EndsWord rest) :
    s.after? (key.toList ++ rest) = (s.name key.toList).bind fun s => s.after? rest := by
  have hword : ∀ c ∈ key.toList, Token.isWordChar c = true := by
    intro c hc
    simp [Token.isWordChar, hkey.2 c hc]
  rw [after?_of_first? (Token.first?_word hkey.1 hword hrest), step, hvalue]
  simp only [Bool.false_eq_true, if_false, names_of_bare hkey]

/-- A header on a line adds the statement of its table. -/
theorem after?_header (hkey : Bare key) (done : List Statement) (rest : List Char) :
    after? ⟨done, [], .statement⟩ ('[' :: key.toList ++ ']' :: '\n' :: rest) =
      after? ⟨.table [key] :: done, [], .statement⟩ rest := by
  have hends : Token.EndsWord (']' :: '\n' :: rest) := ⟨by simp; decide, by simp⟩
  rw [List.cons_append, after?_mark rfl]
  show after? ⟨done, [], .header⟩ _ = _
  rw [after?_name hkey rfl hends]
  show after? ⟨done, [], .nameEnd .table [String.ofList key.toList]⟩ _ = _
  rw [after?_mark rfl, String.ofList_toList]
  show after? ⟨.table [key] :: done, [], .lineEnd⟩ _ = _
  rw [after?_lineBreak]
  rfl

/-- What may follow a value: the end of its line, a comma or a closing bracket. -/
def EndsValue (rest : List Char) : Prop := ∃ d ds, rest = d :: ds ∧ d ∈ ['\n', ',', ']']

theorem EndsValue.endsWord (h : EndsValue rest) : Token.EndsWord rest := by
  obtain ⟨d, ds, rfl, hd⟩ := h
  simp only [List.mem_cons, List.not_mem_nil, or_false] at hd
  rcases hd with rfl | rfl | rfl <;> exact ⟨by simp; decide, by simp⟩

theorem EndsValue.not_quote (h : EndsValue rest) : ∀ d ∈ rest.head?, d ≠ '"' ∧ d ≠ '\'' := by
  obtain ⟨d, ds, rfl, hd⟩ := h
  simp only [List.mem_cons, List.not_mem_nil, or_false] at hd
  rcases hd with rfl | rfl | rfl <;> simp

/-- A text that is read as a value wherever one is awaited and some brackets may still be opened. -/
def Yields (depth : Nat) (cs : List Char) (v : Toml) : Prop :=
  ∀ (s : StatementState) (rest : List Char), awaitsValue s.awaited = true →
    s.opened.length + depth ≤ nesting → EndsValue rest →
    s.after? (cs ++ rest) = (s.deliver v).bind fun s => s.after? rest

theorem yields_quoted (text : String) : Yields 0 (quoted text) (.string text) := by
  intro s rest hs _ hrest
  obtain ⟨lines, hread⟩ := Token.first?_quoted text hrest.not_quote
  rw [after?_of_first? hread, step, if_pos hs, String.ofList_toList]

theorem yields_word {v : Toml} (hne : cs ≠ []) (hcs : ∀ c ∈ cs, Token.isWordChar c = true)
    (hv : ofWord? cs = some v) : Yields 0 cs v := by
  intro s rest hs _ hrest
  rw [after?_of_first? (Token.first?_word hne hcs hrest.endsWord), step, if_pos hs, hv]
  rfl

theorem yields_boolean (b : Bool) : Yields 0 (chars (.boolean b)) (.boolean b) := by
  cases b with
  | false => exact yields_word (by simp [chars]) (by simp [chars]; decide) rfl
  | true => exact yields_word (by simp [chars]) (by simp [chars]; decide) rfl

section Items
variable {depth : Nat} {statements : List Statement} {done : List Toml} {outer : List Opened}
  {item v : Toml} {items vs : List Toml}

theorem after?_closing (rest : List Char) :
    after? ⟨statements, .items done :: outer, .valueOrEnd⟩ (']' :: rest) =
      (deliver ⟨statements, outer, .value⟩ (.array done.reverse)).bind fun s => s.after? rest :=
  after?_mark rfl rest

theorem after?_indent (opened : List Opened) (rest : List Char) :
    after? ⟨statements, opened, .valueOrEnd⟩ (' ' :: rest) =
      after? ⟨statements, opened, .valueOrEnd⟩ rest :=
  after?_blank rest

/-- An item on a line of its own is put to those that are done. -/
theorem after?_itemLine (h : Yields depth item.chars v)
    (houter : outer.length + 1 + depth ≤ nesting) (rest : List Char) :
    after? ⟨statements, .items done :: outer, .valueOrEnd⟩
        ([' ', ' ', ' ', ' '] ++ item.chars ++ [',', '\n'] ++ rest) =
      after? ⟨statements, .items (v :: done) :: outer, .valueOrEnd⟩ rest := by
  have hends : EndsValue (',' :: '\n' :: rest) := ⟨_, _, rfl, by simp⟩
  have hitem := h ⟨statements, .items done :: outer, .valueOrEnd⟩ _ rfl houter hends
  simp only [List.cons_append, List.nil_append, List.append_assoc, after?_indent]
  rw [hitem]
  show after? ⟨statements, .items (v :: done) :: outer, .commaOrEnd⟩ _ = _
  rw [after?_mark rfl]
  show after? ⟨statements, .items (v :: done) :: outer, .valueOrEnd⟩ _ = _
  rw [after?_lineBreak]
  rfl

theorem after?_itemLines (h : List.Forall₂ (fun item v => Yields depth item.chars v) items vs)
    (houter : outer.length + 1 + depth ≤ nesting) (rest : List Char) :
    after? ⟨statements, .items done :: outer, .valueOrEnd⟩
        (items.flatMap (fun item => [' ', ' ', ' ', ' '] ++ item.chars ++ [',', '\n']) ++ rest) =
      after? ⟨statements, .items (vs.reverse ++ done) :: outer, .valueOrEnd⟩ rest := by
  induction h generalizing done with
  | nil => rfl
  | cons hitem _ ih =>
    rw [List.flatMap_cons, List.append_assoc, after?_itemLine hitem houter, ih, List.reverse_cons,
      List.append_assoc]
    rfl

theorem mark_opening {s : StatementState} (hs : awaitsValue s.awaited = true)
    (hopened : s.opened.length ≤ nesting) :
    s.mark '[' = some ⟨s.statements, .items [] :: s.opened, .valueOrEnd⟩ := by
  have hopen : s.openWith (.items []) .valueOrEnd =
      some ⟨s.statements, .items [] :: s.opened, .valueOrEnd⟩ := if_pos hopened
  obtain ⟨statements, opened, awaited⟩ := s
  cases awaited with
  | value | valueOrEnd => exact hopen
  | _ => cases hs

theorem after?_opening {s : StatementState} (hs : awaitsValue s.awaited = true)
    (hopened : s.opened.length ≤ nesting) (cs : List Char) :
    s.after? ('[' :: cs) = after? ⟨s.statements, .items [] :: s.opened, .valueOrEnd⟩ cs := by
  rw [after?_mark rfl, mark_opening hs hopened]
  rfl

/-- A list is read as the list of what its items are read as. -/
theorem yields_array (h : List.Forall₂ (fun item v => Yields depth item.chars v) items vs) :
    Yields (depth + 1) (lineChars (.array items)) (.array vs) := by
  intro s rest hs hopened hrest
  have hstart := after?_opening hs (by omega)
  have hinside : s.opened.length + 1 + depth ≤ nesting := by omega
  match items, vs, h with
  | [], [], .nil => exact (hstart _).trans (after?_closing rest)
  | [item], [v], .cons hitem .nil =>
    have hends : EndsValue (']' :: rest) := ⟨_, _, rfl, by simp⟩
    have hread := hitem ⟨s.statements, .items [] :: s.opened, .valueOrEnd⟩ _ rfl hinside hends
    have hchars : lineChars (.array [item]) ++ rest = '[' :: (item.chars ++ ']' :: rest) := by
      simp [lineChars, chars, itemChars]
    rw [hchars, hstart, hread]
    show after? ⟨s.statements, .items [v] :: s.opened, .commaOrEnd⟩ _ = _
    exact after?_mark rfl rest
  | first :: second :: more, _, h =>
    have hchars : lineChars (.array (first :: second :: more)) ++ rest =
        '[' :: '\n' :: ((first :: second :: more).flatMap
          (fun item => [' ', ' ', ' ', ' '] ++ item.chars ++ [',', '\n']) ++ ']' :: rest) := by
      simp [lineChars]
    rw [hchars, hstart, after?_lineBreak]
    show after? ⟨s.statements, .items [] :: s.opened, .valueOrEnd⟩ _ = _
    rw [after?_itemLines h hinside, after?_closing, List.append_nil, List.reverse_reverse]
    rfl

end Items

/-- A name with its value on a line adds the statement that assigns it. -/
theorem after?_assignment (hkey : Bare key) {depth : Nat} {value v : Toml}
    (hdepth : depth < nesting) (hvalue : Yields depth (lineChars value) v)
    (done : List Statement) (rest : List Char) :
    after? ⟨done, [], .statement⟩ (assignment key value ++ rest) =
      after? ⟨.assignment [key] v :: done, [], .statement⟩ rest := by
  have hname : Token.EndsWord (' ' :: '=' :: ' ' :: (lineChars value ++ '\n' :: rest)) := by
    refine ⟨by simp; decide, ?_⟩
    rintro d ds ⟨⟩
    rfl
  have hends : EndsValue ('\n' :: rest) := ⟨_, _, rfl, by simp⟩
  have hchars : assignment key value ++ rest =
      key.toList ++ ' ' :: '=' :: ' ' :: (lineChars value ++ '\n' :: rest) := by
    simp [assignment]
  have hroom : [Opened.assignment [key]].length + depth ≤ nesting := by
    rw [List.length_singleton]
    omega
  have hread := hvalue ⟨done, [.assignment [key]], .value⟩ _ rfl hroom hends
  rw [hchars, after?_name hkey rfl hname]
  show after? ⟨done, [], .nameEnd .assignment [String.ofList key.toList]⟩ _ = _
  rw [after?_blank]
  show after? ⟨done, [], .nameEnd .assignment [String.ofList key.toList]⟩ _ = _
  rw [after?_mark rfl, String.ofList_toList]
  show after? ⟨done, [.assignment [key]], .value⟩ _ = _
  rw [after?_blank]
  show after? ⟨done, [.assignment [key]], .value⟩ _ = _
  rw [hread]
  show after? ⟨.assignment [key] v :: done, [], .lineEnd⟩ _ = _
  rw [after?_lineBreak]
  rfl

end StatementState

end MockBuilders.Toml
