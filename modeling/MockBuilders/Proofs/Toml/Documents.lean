import MockBuilders.Proofs.Members.Alike
import MockBuilders.Proofs.Toml.Statements

/-!
Documents of TOML read back: tables that are written one after the other are the tables of the
document that is read. Main statement: `Toml.read?_documentChars`.
-/
namespace MockBuilders.Toml

open StatementState (Bare Yields nesting)

/-- Tables one after the other, with an empty line between them. -/
def documentChars : Members (Members Toml) → List Char
  | [] => []
  | [(name, members)] => headed name members
  | (name, members) :: next :: tables =>
      headed name members ++ '\n' :: documentChars (next :: tables)

/-- What a value on the line of its name is read as. -/
structure Reread (value v : Toml) : Prop where
  yields : ∃ depth < nesting, Yields depth (lineChars value) v
  unbroken : '\r' ∉ lineChars value

theorem reread_string (text : String) : Reread (.string text) (.string text) :=
  ⟨⟨0, by decide, StatementState.yields_quoted text⟩, return_not_mem_quoted text⟩

theorem reread_boolean (b : Bool) : Reread (.boolean b) (.boolean b) :=
  ⟨⟨0, by decide, StatementState.yields_boolean b⟩, by cases b <;> decide⟩

theorem reread_strings (texts : List String) :
    Reread (.array (texts.map .string)) (.array (texts.map .string)) := by
  have hitem (text : String) : Yields 0 (chars (.string text)) (.string text) :=
    StatementState.yields_quoted text
  have hitems : List.Forall₂ (fun item v => Yields 0 item.chars v) (texts.map Toml.string)
      (texts.map Toml.string) := by
    induction texts with
    | nil => exact .nil
    | cons text _ ih => exact .cons (hitem text) ih
  refine ⟨⟨1, by decide, StatementState.yields_array hitems⟩, ?_⟩
  match texts with
  | [] => decide
  | [text] => simp [lineChars, chars, itemChars, return_not_mem_quoted]
  | first :: second :: more => simp [lineChars, chars, return_not_mem_quoted]

/-- Bare names, each once. -/
structure Named {α : Type} (m : Members α) : Prop where
  distinct : m.Distinct
  bare : ∀ key ∈ m.keys, Bare key

/-- Tables with values that are read, all under bare names, each once. -/
structure RereadTables (tables read : Members (Members Toml)) : Prop where
  named : Named tables
  matched : Members.Matched (fun m n => Named m ∧ Members.Matched Reread m n) tables read

def tableStatements (name : String) (members : Members Toml) : List Statement :=
  .table [name] :: members.map fun p => .assignment [p.1] p.2

section Statements
variable {name : String} {m n : Members Toml} {tables read : Members (Members Toml)}
  (done : List Statement)

open StatementState

theorem after?_assignments (hbare : ∀ key ∈ m.keys, Bare key) (h : Members.Matched Reread m n)
    (rest : List Char) :
    after? ⟨done, [], .statement⟩ (m.flatMap (fun p => assignment p.1 p.2) ++ rest) =
      after? ⟨(n.map fun p => .assignment [p.1] p.2).reverse ++ done, [], .statement⟩ rest := by
  induction h generalizing done with
  | nil => rfl
  | cons key hv _ ih =>
    obtain ⟨hkey, hkeys⟩ := List.forall_mem_cons.mp hbare
    obtain ⟨depth, hdepth, hyields⟩ := hv.yields
    rw [List.flatMap_cons, List.append_assoc, after?_assignment hkey hdepth hyields, ih _ hkeys]
    simp

theorem after?_headed (hname : Bare name) (hm : Named m) (h : Members.Matched Reread m n)
    (rest : List Char) :
    after? ⟨done, [], .statement⟩ (headed name m ++ rest) =
      after? ⟨(tableStatements name n).reverse ++ done, [], .statement⟩ rest := by
  have hchars : headed name m ++ rest = '[' :: name.toList ++ ']' :: '\n' ::
      (m.flatMap (fun p => assignment p.1 p.2) ++ rest) := by
    simp [headed]
  rw [hchars, after?_header hname, after?_assignments _ hm.bare h]
  simp [tableStatements]

theorem after?_documentChars (hbare : ∀ key ∈ tables.keys, Bare key)
    (h : Members.Matched (fun m n => Named m ∧ Members.Matched Reread m n) tables read) :
    after? ⟨done, [], .statement⟩ (documentChars tables) =
      some ⟨(read.flatMap fun t => tableStatements t.1 t.2).reverse ++ done, [], .statement⟩ := by
  induction h generalizing done with
  | nil => exact after?_nil _
  | cons key hm hrest ih =>
    obtain ⟨hkey, hkeys⟩ := List.forall_mem_cons.mp hbare
    cases hrest with
    | nil =>
      have hread := after?_headed done hkey hm.1 hm.2 []
      rw [List.append_nil, after?_nil] at hread
      rw [documentChars, hread]
      simp
    | cons next _ _ =>
      rw [documentChars, after?_headed done hkey hm.1 hm.2, after?_lineBreak]
      exact (ih _ hkeys).trans (by simp)

end Statements

section Drafts
variable {name key : String} {root : Members Draft} {m : Members Toml}
  {tables : Members (Members Toml)}

theorem addNew_eq (h : key ∉ root.keys) (d : Draft) :
    Draft.addNew key d root = some (root ++ [(key, d)]) := by
  have hhas : root.has key = false := by
    rw [Bool.eq_false_iff]
    exact fun hhas => h (Members.has_iff.mp hhas)
  rw [Draft.addNew, hhas]
  rfl

theorem step_table (h : name ∉ root.keys) (current : List String) :
    DocumentState.step ⟨root, current⟩ (.table [name]) =
      some ⟨root ++ [(name, .table .header [])], [name]⟩ := by
  simp only [DocumentState.step, Draft.openTable, List.getLast?_singleton, List.dropLast_singleton,
    Draft.within, Members.get?_eq_none_iff.mpr h, addNew_eq h, Option.map_some]

theorem get?_concat (h : name ∉ root.keys) (d : Draft) :
    Members.get? (root ++ [(name, d)]) name = some d := by
  rw [Members.get?_append, Members.get?_eq_none_iff.mpr h, Option.none_or, Members.get?, if_pos rfl]

theorem put_concat (h : name ∉ root.keys) (d d' : Draft) :
    Members.put (root ++ [(name, d)]) name d' = root ++ [(name, d')] := by
  induction root with
  | nil => simp [Members.put]
  | cons p root ih =>
    rw [Members.keys_cons, List.mem_cons, not_or] at h
    rw [List.cons_append, Members.put, if_neg (Ne.symm h.1), ih h.2]
    rfl

theorem step_assignment (hname : name ∉ root.keys) {inner : Members Draft}
    (hkey : key ∉ inner.keys) (v : Toml) :
    DocumentState.step ⟨root ++ [(name, .table .header inner)], [name]⟩ (.assignment [key] v) =
      some ⟨root ++ [(name, .table .header (inner ++ [(key, .value v)]))], [name]⟩ := by
  simp [DocumentState.step, Draft.assignIn, Draft.within, Draft.assign, get?_concat hname,
    addNew_eq hkey, put_concat hname]

theorem foldlM_assignments (hname : name ∉ root.keys) {inner : Members Draft}
    (hkeys : (inner.keys ++ Members.keys m).Nodup) :
    (m.map fun p => Statement.assignment [p.1] p.2).foldlM DocumentState.step
        ⟨root ++ [(name, .table .header inner)], [name]⟩ =
      some ⟨root ++ [(name, .table .header (inner ++ m.mapValues Draft.value))], [name]⟩ := by
  induction m generalizing inner with
  | nil => simp [Members.mapValues]
  | cons p m ih =>
    have hkey : p.1 ∉ inner.keys := by
      rw [Members.keys_cons, List.nodup_middle, List.nodup_cons, List.mem_append, not_or] at hkeys
      exact hkeys.1.1
    have hrest : (Members.keys (inner ++ [(p.1, Draft.value p.2)]) ++ Members.keys m).Nodup := by
      simpa using hkeys
    rw [List.map_cons, List.foldlM_cons, step_assignment hname hkey]
    exact (ih hrest).trans (by simp [Members.mapValues])

/-- The table of a header with some values. -/
def closedDraft (m : Members Toml) : Draft := .table .header (m.mapValues Draft.value)

theorem foldlM_tableStatements (hname : name ∉ root.keys) (hm : m.Distinct)
    (current : List String) :
    (tableStatements name m).foldlM DocumentState.step ⟨root, current⟩ =
      some ⟨root ++ [(name, closedDraft m)], [name]⟩ := by
  rw [tableStatements, List.foldlM_cons, step_table hname]
  exact foldlM_assignments hname hm

/-- Tables of different names are begun one after the other. -/
theorem exists_foldlM_tables (hkeys : (root.keys ++ Members.keys tables).Nodup)
    (htables : ∀ t ∈ tables, t.2.Distinct) (current : List String) :
    ∃ last, (tables.flatMap fun t => tableStatements t.1 t.2).foldlM DocumentState.step
        ⟨root, current⟩ =
      some ⟨root ++ tables.mapValues closedDraft, last⟩ := by
  induction tables generalizing root current with
  | nil => exact ⟨current, by simp [Members.mapValues]⟩
  | cons t tables ih =>
    obtain ⟨ht, htables⟩ := List.forall_mem_cons.mp htables
    have hname : t.1 ∉ root.keys := by
      rw [Members.keys_cons, List.nodup_middle, List.nodup_cons, List.mem_append, not_or] at hkeys
      exact hkeys.1.1
    have hrest : (Members.keys (root ++ [(t.1, closedDraft t.2)]) ++
        Members.keys tables).Nodup := by
      simpa using hkeys
    obtain ⟨last, hlast⟩ := ih hrest htables [t.1]
    refine ⟨last, ?_⟩
    rw [List.flatMap_cons, List.foldlM_append, foldlM_tableStatements hname ht]
    exact hlast.trans (by simp [Members.mapValues])

theorem closeMembers_values (m : Members Toml) :
    Draft.closeMembers (m.mapValues Draft.value) = m := by
  unfold Members.mapValues
  induction m with
  | nil => rfl
  | cons p m ih =>
    rw [List.map_cons, Draft.closeMembers, ih]
    rfl

theorem closeMembers_tables (tables : Members (Members Toml)) :
    Draft.closeMembers (tables.mapValues closedDraft) = tables.mapValues Toml.table := by
  unfold Members.mapValues
  induction tables with
  | nil => rfl
  | cons t tables ih =>
    rw [List.map_cons, Draft.closeMembers, ih, closedDraft, Draft.close, closeMembers_values]
    rfl

end Drafts

section Breaks
variable {cs ds : List Char}

theorem singleBreaks_eq_self (h : '\r' ∉ cs) : singleBreaks cs = cs := by
  induction cs with
  | nil => rfl
  | cons c cs ih =>
    rw [List.mem_cons, not_or] at h
    rw [singleBreaks, ih h.2]
    rintro _ rfl
    exact fun _ => h.1 rfl

theorem return_not_mem_of_bare {name : String} (h : Bare name) : '\r' ∉ name.toList := by
  intro hmem
  have := h.2 _ hmem
  cases this

theorem return_not_mem_headed {name : String} {m n : Members Toml} (hname : Bare name)
    (hm : Named m) (h : Members.Matched Reread m n) : '\r' ∉ headed name m := by
  have hmembers : '\r' ∉ m.flatMap fun p => assignment p.1 p.2 := by
    have hbare := hm.bare
    clear hm
    induction h with
    | nil => exact List.not_mem_nil
    | cons key hv _ ih =>
      obtain ⟨hkey, hkeys⟩ := List.forall_mem_cons.mp hbare
      rw [List.flatMap_cons, List.mem_append, not_or]
      exact ⟨by simp [assignment, return_not_mem_of_bare hkey, hv.unbroken], ih hkeys⟩
  simp [headed, return_not_mem_of_bare hname, hmembers]

theorem return_not_mem_documentChars {tables read : Members (Members Toml)}
    (hbare : ∀ key ∈ tables.keys, Bare key)
    (h : Members.Matched (fun m n => Named m ∧ Members.Matched Reread m n) tables read) :
    '\r' ∉ documentChars tables := by
  induction h with
  | nil => exact List.not_mem_nil
  | cons key hm hrest ih =>
    obtain ⟨hkey, hkeys⟩ := List.forall_mem_cons.mp hbare
    have hfirst := return_not_mem_headed hkey hm.1 hm.2
    cases hrest with
    | nil => exact hfirst
    | cons next _ _ =>
      rw [documentChars]
      simp [hfirst, ih hkeys]

theorem afterMark_documentChars (tables : Members (Members Toml)) :
    afterMark (documentChars tables) = documentChars tables := by
  match tables with
  | [] => rfl
  | [_] => rfl
  | _ :: _ :: _ => rfl

end Breaks

/-- A written document is read as its tables, with their values as they are read on their own. -/
theorem read?_documentChars {tables read : Members (Members Toml)}
    (h : RereadTables tables read) :
    read? (String.ofList (documentChars tables)) = some (read.mapValues Toml.table) := by
  have hstatements : Statement.all? (documentChars tables) =
      some (read.flatMap fun t => tableStatements t.1 t.2) := by
    have hafter := after?_documentChars [] h.named.bare h.matched
    rw [StatementState.after?] at hafter
    obtain ⟨tokens, htokens, hfinal⟩ := Option.bind_eq_some_iff.mp hafter
    simp [Statement.all?, htokens, StatementState.start, hfinal, StatementState.result?]
  have hunbroken := return_not_mem_documentChars h.named.bare h.matched
  have hkeys : (Members.keys ([] : Members Draft) ++ Members.keys read).Nodup := by
    rw [Members.keys_nil, List.nil_append, ← h.matched.keys]
    exact h.named.distinct
  have hdistinct : ∀ t ∈ read, t.2.Distinct := by
    intro t ht
    obtain ⟨p, -, -, hm, hmatched⟩ := exists_left_of_mem (Members.matched_iff.mp h.matched) ht
    have hkeys : t.2.keys = p.2.keys := hmatched.keys.symm
    rw [Members.Distinct, hkeys]
    exact hm.distinct
  obtain ⟨last, hlast⟩ := exists_foldlM_tables hkeys hdistinct []
  have hdocument : (read.flatMap fun t => tableStatements t.1 t.2).foldlM
      DocumentState.step .start = some ⟨read.mapValues closedDraft, last⟩ := hlast
  simp [read?, afterMark_documentChars, singleBreaks_eq_self hunbroken, hstatements, hdocument,
    closeMembers_tables]

end MockBuilders.Toml
