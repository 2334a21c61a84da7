import MockBuilders.Graph.Dot
import MockBuilders.Proofs.Graph.CycleLists

/-!
Drawings read back. A reader of DOT takes a quoted string up to its first quote that is not escaped
and undoes the escapes, so no name breaks out of its quotes, and what is read of the text of a
reference graph are its entries and its edges.
Main statements: `Dot.flatMap_escaped_eq`, `Dot.read?_dot` and
`ReferenceGraph.read?_dot_ofEntries`.
-/
namespace MockBuilders

namespace Dot

/-- What a DOT text is made of, blanks apart. -/
inductive Token where
  | word (text : String)
  | quoted (text : String)
  | mark (c : Char)
  deriving DecidableEq, Repr

def Token.text? : Token → Option String
  | word text | quoted text => some text
  | mark _ => none

/-- What the next character stands in. Texts that are being read have their last character
first. -/
inductive Place where
  | outside
  | word (cs : List Char)
  | quoted (cs : List Char)
  /-- Behind a backslash. -/
  | escape (cs : List Char)

structure Scan where
  /-- Last first. -/
  tokens : List Token
  place : Place

namespace Scan

def isBlank (c : Char) : Bool := c == ' ' || c == '\t' || c == '\n' || c == '\r'

def isMark (c : Char) : Bool :=
  c == '[' || c == ']' || c == '\x7b' || c == '\x7d' || c == '=' || c == ',' || c == ';'

def endsWord (c : Char) : Bool := isBlank c || isMark c || c == '"'

def outside (tokens : List Token) (c : Char) : Scan :=
  if isBlank c then ⟨tokens, .outside⟩
  else if isMark c then ⟨.mark c :: tokens, .outside⟩
  else if c = '"' then ⟨tokens, .quoted []⟩
  else ⟨tokens, .word [c]⟩

def step (s : Scan) (c : Char) : Scan :=
  match s.place with
  | .outside => outside s.tokens c
  | .word cs =>
      if endsWord c then outside (.word (String.ofList cs.reverse) :: s.tokens) c
      else ⟨s.tokens, .word (c :: cs)⟩
  | .quoted cs =>
      if c = '"' then ⟨.quoted (String.ofList cs.reverse) :: s.tokens, .outside⟩
      else if c = '\\' then ⟨s.tokens, .escape cs⟩
      else ⟨s.tokens, .quoted (c :: cs)⟩
  | .escape cs => ⟨s.tokens, .quoted (c :: cs)⟩

def run (s : Scan) (cs : List Char) : Scan := cs.foldl step s

/-- The tokens in order, unless a string is left open. -/
def result? (s : Scan) : Option (List Token) :=
  match s.place with
  | .outside => some s.tokens.reverse
  | .word cs => some (.word (String.ofList cs.reverse) :: s.tokens).reverse
  | .quoted _ | .escape _ => none

theorem run_append (s : Scan) (cs ds : List Char) : s.run (cs ++ ds) = (s.run cs).run ds :=
  List.foldl_append

end Scan

def tokens? (cs : List Char) : Option (List Token) := (Scan.run ⟨[], .outside⟩ cs).result?

inductive Statement where
  /-- A property of the whole drawing. -/
  | setting (key value : String)
  /-- What all nodes have, or all edges. -/
  | defaults (kind : String) (attributes : Members String)
  | node (name : String) (attributes : Members String)
  | edge (source target : String)
  deriving DecidableEq, Repr

/-- The attributes behind an opening bracket. -/
def attributes? : List Token → Option (Members String)
  | [.word key, .mark '=', value, .mark ']'] => value.text?.map fun text => [(key, text)]
  | .word key :: .mark '=' :: value :: .mark ',' :: rest =>
      value.text?.bind fun text => (attributes? rest).map ((key, text) :: ·)
  | _ => none

def statement? : List Token → Option Statement
  | [.word key, .mark '=', .word value] => some (.setting key value)
  | [.quoted source, .word "->", .quoted target] => some (.edge source target)
  | .word kind :: .mark '[' :: rest => (attributes? rest).map (.defaults kind)
  | .quoted name :: .mark '[' :: rest => (attributes? rest).map (.node name)
  | _ => none

/-- The statements up to a closing brace at the end, each of which ends with a semicolon. The
tokens of the first one that have been read have their last one first. -/
def body? (begun : List Token) : List Token → Option (List Statement)
  | [] => none
  | t :: rest =>
      if t = .mark ';' then
        (statement? begun.reverse).bind fun s => (body? [] rest).map (s :: ·)
      else if t = .mark '\x7d' then if begun = [] ∧ rest = [] then some [] else none
      else body? (t :: begun) rest

/-- The statements of a directed graph. -/
def read? (text : String) : Option (List Statement) :=
  (tokens? text.toList).bind fun tokens =>
    match tokens with
    | .word "digraph" :: .word _ :: .mark '\x7b' :: rest => body? [] rest
    | _ => none

/-- The text is scanned to the tokens if it stands behind others. -/
def Yields (cs : List Char) (tokens : List Token) : Prop :=
  ∀ before, Scan.run ⟨before, .outside⟩ cs = ⟨tokens.reverse ++ before, .outside⟩

section Scanning
variable {cs ds : List Char} {tokens more : List Token}

theorem Yields.append (h : Yields cs tokens) (h' : Yields ds more) :
    Yields (cs ++ ds) (tokens ++ more) := by
  intro before
  rw [Scan.run_append, h, h', List.reverse_append, List.append_assoc]

theorem Yields.flatMap {α : Type} {f : α → List Char} {ts : α → List Token}
    (h : ∀ x, Yields (f x) (ts x)) (xs : List α) : Yields (xs.flatMap f) (xs.flatMap ts) := by
  induction xs with
  | nil => exact fun _ => rfl
  | cons x xs ih => exact (h x).append ih

theorem Yields.tokens?_eq (h : Yields cs tokens) : tokens? cs = some tokens := by
  rw [tokens?, h, Scan.result?, List.append_nil, List.reverse_reverse]

/-- Backslashes escaped first, and the quotes in what that gives, come to escapes in one pass: the
first pass makes no quotes. -/
theorem flatMap_escaped_eq (cs : List Char) :
    (cs.flatMap fun c => if c = '\\' then ['\\', '\\'] else [c]).flatMap
      (fun c => if c = '"' then ['\\', '"'] else [c]) = cs.flatMap escaped := by
  rw [List.flatMap_assoc]
  refine List.flatMap_congr fun c _ => ?_
  unfold escaped
  split
  · rfl
  · exact List.flatMap_singleton ..

theorem run_escaped (before : List Token) (begun : List Char) (c : Char) :
    Scan.run ⟨before, .quoted begun⟩ (escaped c) = ⟨before, .quoted (c :: begun)⟩ := by
  unfold escaped
  split
  · next h => subst h; rfl
  · next hslash =>
    split
    · next h => subst h; rfl
    · next hquote => simp [Scan.run, Scan.step, hslash, hquote]

theorem run_flatMap_escaped (before : List Token) (begun cs : List Char) :
    Scan.run ⟨before, .quoted begun⟩ (cs.flatMap escaped) =
      ⟨before, .quoted (cs.reverse ++ begun)⟩ := by
  induction cs generalizing begun with
  | nil => rfl
  | cons c cs ih =>
    rw [List.flatMap_cons, Scan.run_append, run_escaped, ih, List.reverse_cons, List.append_assoc]
    rfl

/-- A name in quotes is scanned to the name, whatever characters it has. -/
theorem yields_quoted (name : String) : Yields (quoted name) [.quoted name] := by
  intro before
  calc Scan.run ⟨before, .outside⟩ (quoted name)
    _ = (Scan.run ⟨before, .quoted []⟩ (name.toList.flatMap escaped)).run ['"'] :=
      Scan.run_append _ ('"' :: name.toList.flatMap escaped) ['"']
    _ = ⟨.quoted (String.ofList (name.toList.reverse ++ []).reverse) :: before, .outside⟩ := by
      rw [run_flatMap_escaped]
      rfl
    _ = ⟨[.quoted name].reverse ++ before, .outside⟩ := by simp

/-- The tokens of the statement of an entry. -/
def nodeTokens (name : String) (shape : NodeShape) (onCycle : Bool) : List Token :=
  [.quoted name, .mark '[', .word "fillcolor", .mark '=', .quoted shape.fill, .mark ',',
    .word "color", .mark '=', .quoted (rim onCycle), .mark ']']

def edgeTokens (e : Edge) : List Token := [.quoted e.source, .word "->", .quoted e.target]

theorem yields_node (name : String) (shape : NodeShape) (onCycle : Bool) :
    Yields (node name shape onCycle) (nodeTokens name shape onCycle ++ [.mark ';']) := by
  have hindent : Yields [' ', ' '] [] := fun _ => rfl
  have hattributes : Yields
      (" [fillcolor=\"" ++ shape.fill ++ "\", color=\"" ++ rim onCycle ++ "\"];\n").toList
      ((nodeTokens name shape onCycle).tail ++ [.mark ';']) := by
    intro before
    simp only [String.toList_append]
    cases shape <;> cases onCycle <;> rfl
  exact (hindent.append (yields_quoted name)).append hattributes

theorem yields_edge (e : Edge) : Yields (edge e) (edgeTokens e ++ [.mark ';']) := by
  have hindent : Yields [' ', ' '] [] := fun _ => rfl
  have hclose : Yields [';', '\n'] [.mark ';'] := fun _ => rfl
  have harrow : Yields [' ', '-', '>', ' '] [.word "->"] := fun _ => rfl
  exact (((hindent.append (yields_quoted e.source)).append harrow).append
    (yields_quoted e.target)).append hclose

end Scanning

section Reading
variable {ts rest begun : List Token} {s : Statement}

/-- Whether a token ends neither its statement nor the body. -/
def Token.goesOn : Token → Bool
  | word _ | quoted _ => true
  | mark c => c != ';' && c != '\x7d'

/-- The tokens are those of the statement, and none of them ends it. -/
structure Says (ts : List Token) (s : Statement) : Prop where
  goesOn : ts.all Token.goesOn = true
  statement : statement? ts = some s

theorem body?_append (hts : ts.all Token.goesOn = true) :
    body? begun (ts ++ .mark ';' :: rest) =
      (statement? (begun.reverse ++ ts)).bind fun s => (body? [] rest).map (s :: ·) := by
  induction ts generalizing begun with
  | nil => rw [List.nil_append, body?, if_pos rfl, List.append_nil]
  | cons t ts ih =>
    obtain ⟨ht, hts⟩ := Bool.and_eq_true_iff.mp hts
    have hsemicolon : t ≠ .mark ';' := by rintro rfl; cases ht
    have hbrace : t ≠ .mark '\x7d' := by rintro rfl; cases ht
    rw [List.cons_append, body?, if_neg hsemicolon, if_neg hbrace, ih hts, List.reverse_cons,
      List.append_assoc]
    rfl

theorem body?_of_says {tss : List (List Token)} {ss : List Statement}
    (h : List.Forall₂ Says tss ss) :
    body? [] (tss.flatMap (· ++ [.mark ';']) ++ [.mark '\x7d']) = some ss := by
  induction h with
  | nil => rfl
  | @cons ts s tss ss hts _ ih =>
    rw [List.flatMap_cons, List.append_assoc, List.append_assoc, List.singleton_append,
      body?_append hts.goesOn, List.reverse_nil, List.nil_append, hts.statement, ih]
    rfl

end Reading

/-- The statements before those of the entries. -/
def settings : List Statement :=
  [.setting "rankdir" "LR",
    .defaults "node" [("shape", "box"), ("style", "filled,rounded"), ("fontname", "Helvetica"),
      ("fontsize", "10"), ("fontcolor", "white")],
    .defaults "edge" [("fontname", "Helvetica"), ("fontsize", "8")]]

def settingTokens : List (List Token) :=
  [[.word "rankdir", .mark '=', .word "LR"],
    [.word "node", .mark '[', .word "shape", .mark '=', .word "box", .mark ',', .word "style",
      .mark '=', .quoted "filled,rounded", .mark ',', .word "fontname", .mark '=',
      .quoted "Helvetica", .mark ',', .word "fontsize", .mark '=', .word "10", .mark ',',
      .word "fontcolor", .mark '=', .quoted "white", .mark ']'],
    [.word "edge", .mark '[', .word "fontname", .mark '=', .quoted "Helvetica", .mark ',',
      .word "fontsize", .mark '=', .word "8", .mark ']']]

theorem yields_header : Yields header.toList ([.word "digraph", .word "ReferenceGraph",
    .mark '\x7b'] ++ settingTokens.flatMap (· ++ [.mark ';'])) := by
  intro before
  cbv

theorem says_settings : List.Forall₂ Says settingTokens settings :=
  .cons ⟨rfl, rfl⟩ (.cons ⟨rfl, rfl⟩ (.cons ⟨rfl, rfl⟩ .nil))

/-- The statement of an entry: its name, the color of its shape, and the color of its rim. -/
def nodeStatement (name : String) (shape : NodeShape) (onCycle : Bool) : Statement :=
  .node name [("fillcolor", shape.fill), ("color", rim onCycle)]

theorem says_node (name : String) (shape : NodeShape) (onCycle : Bool) :
    Says (nodeTokens name shape onCycle) (nodeStatement name shape onCycle) :=
  ⟨rfl, rfl⟩

theorem says_edge (e : Edge) : Says (edgeTokens e) (.edge e.source e.target) :=
  ⟨rfl, rfl⟩

/-- The statements that a reference graph is drawn by. -/
def statements (g : ReferenceGraph) : List Statement :=
  settings ++ g.nodes.map (fun p => nodeStatement p.1 p.2 (g.cycles.flatten.contains p.1)) ++
    g.edges.map fun e => .edge e.source e.target

theorem tokens?_dotChars (g : ReferenceGraph) : tokens? g.dotChars =
    some ([.word "digraph", .word "ReferenceGraph", .mark '\x7b'] ++
      (settingTokens ++
        g.nodes.map (fun p => nodeTokens p.1 p.2 (g.cycles.flatten.contains p.1)) ++
        g.edges.map edgeTokens).flatMap (· ++ [.mark ';']) ++ [.mark '\x7d']) := by
  have hnodes := Yields.flatMap
    (fun p : String × NodeShape => yields_node p.1 p.2 (g.cycles.flatten.contains p.1)) g.nodes
  have hedges := Yields.flatMap yields_edge g.edges
  have hblank : Yields ['\n'] [] := fun _ => rfl
  have hclose : Yields ['\x7d', '\n'] [.mark '\x7d'] := fun _ => rfl
  have htext := (((yields_header.append hnodes).append hblank).append hedges).append hclose
  refine htext.tokens?_eq.trans (congrArg some ?_)
  simp only [List.flatMap_append, List.flatMap_map, List.append_assoc, List.nil_append]

/-- The text of a reference graph is read as the statements that it is drawn by. -/
theorem read?_dot (g : ReferenceGraph) : read? g.dot = some (statements g) := by
  have hsays : List.Forall₂ Says (settingTokens ++
      g.nodes.map (fun p => nodeTokens p.1 p.2 (g.cycles.flatten.contains p.1)) ++
      g.edges.map edgeTokens) (statements g) := by
    refine List.rel_append (List.rel_append says_settings ?_) ?_
    · exact List.forall₂_map_left_iff.mpr (List.forall₂_map_right_iff.mpr
        (List.forall₂_same.mpr fun p _ => says_node p.1 p.2 _))
    · exact List.forall₂_map_left_iff.mpr (List.forall₂_map_right_iff.mpr
        (List.forall₂_same.mpr fun e _ => says_edge e))
  rw [read?, ReferenceGraph.dot, String.toList_ofList, tokens?_dotChars, Option.bind_some,
    List.append_assoc]
  exact body?_of_says hsays

end Dot

namespace ReferenceGraph

theorem contains_flatten_cycles {g : ReferenceGraph} {name : String} (h : name ∈ g.names) :
    g.cycles.flatten.contains name = true ↔ g.OnCycle name := by
  rw [List.contains_iff_mem, List.mem_flatten, exists_mem_cycles_iff, and_iff_right h]

/-- What is read of the text of a reference graph are the entries in the order of intake, each with
the red rim if and only if it lies on a cycle, and behind them, in the order of the references, an
edge for each reference that leads to an entry. -/
theorem read?_dot_ofEntries (entries : Members Schema) :
    ∃ nodes : List (String × Members String),
      Dot.read? (ofEntries entries).dot =
        some (Dot.settings ++ nodes.map (fun n => .node n.1 n.2) ++
          entries.flatMap fun p => p.2.references.filterMap fun pointer =>
            (Pointer.lookup? entries pointer).map fun found => .edge p.1 found.1) ∧
      nodes.map Prod.fst = entries.keys ∧
      ∀ n ∈ nodes, n.2.get? "color" = some "#F44336" ↔ (ofEntries entries).OnCycle n.1 := by
  let g := ofEntries entries
  refine ⟨g.nodes.map fun p => (p.1, [("fillcolor", p.2.fill),
    ("color", Dot.rim (g.cycles.flatten.contains p.1))]), ?_, ?_, ?_⟩
  · have hedges : g.edges.map (fun e => Dot.Statement.edge e.source e.target) =
        entries.flatMap fun p => p.2.references.filterMap fun pointer =>
          (Pointer.lookup? entries pointer).map fun found => .edge p.1 found.1 := by
      simp only [g, ofEntries, targetsOf, List.map_flatMap, List.map_filterMap, Option.map_map]
      rfl
    rw [Dot.read?_dot, Dot.statements, ← hedges, List.map_map]
    rfl
  · rw [List.map_map]
    exact Members.keys_mapValues (fun s => NodeShape.ofKind s.kind) entries
  · intro n hn
    obtain ⟨p, hp, rfl⟩ := List.mem_map.mp hn
    have hname : p.1 ∈ g.names := List.mem_map_of_mem hp
    change some (Dot.rim (g.cycles.flatten.contains p.1)) = some "#F44336" ↔ _
    rw [← contains_flatten_cycles hname]
    generalize g.cycles.flatten.contains p.1 = onCycle
    cases onCycle <;> decide

end ReferenceGraph

end MockBuilders
