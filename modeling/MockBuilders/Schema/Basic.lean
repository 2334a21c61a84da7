import MockBuilders.Schema.Kind

/-!
Schemas: a closed tree over the JSON shapes that builders are made for. Keywords that carry no
structure are kept beside each layer, in document order, and written back untouched.
Main statement: `Schema.fold_mk`, the equation of every traversal of a schema.
-/
namespace MockBuilders

inductive Schema where
  | mk (kind : Kind Schema) (extensions : List (String × Json))
  deriving BEq, Repr

namespace Schema

def kind : Schema → Kind Schema
  | mk kind _ => kind

def extensions : Schema → Members Json
  | mk _ extensions => extensions

def children (s : Schema) : List Schema := s.kind.children

def object? (s : Schema) : Option (ObjectShape Schema) := s.kind.object?

/-- A schema that admits every value. -/
def any : Schema := mk (.leaf ⟨[], none, none⟩) []

/-- A schema that admits no value. -/
def never : Schema := mk (.leaf ⟨[], none, none⟩) [("not", .object [])]

def ofPrimitive (p : Primitive) : Schema := mk (.leaf ⟨[p], none, none⟩) []

def ofPointer (pointer : String) : Schema := mk (.reference pointer) []

variable {α : Type}

mutual

/-- Folds a schema from its leaves up, one layer at a time. -/
def fold (f : Kind α → Members Json → α) : Schema → α
  | mk kind extensions => f (foldKind f kind) extensions

def foldKind (f : Kind α → Members Json → α) : Kind Schema → Kind α
  | .reference pointer => .reference pointer
  | .object ⟨properties, required, additional⟩ =>
      .object ⟨foldProperties f properties, required, foldOption f additional⟩
  | .anyArray => .anyArray
  | .arrayOf item => .arrayOf (item.fold f)
  | .mixedArray items => .mixedArray (foldList f items)
  | .tuple items => .tuple (foldList f items)
  | .allOf branches => .allOf (foldList f branches)
  | .choice keyword branches => .choice keyword (foldList f branches)
  | .variants records => .variants (foldList f records)
  | .union branches => .union (foldList f branches)
  | .enumeration types values => .enumeration types values
  | .leaf leaf => .leaf leaf

def foldList (f : Kind α → Members Json → α) : List Schema → List α
  | [] => []
  | s :: rest => s.fold f :: foldList f rest

def foldProperties (f : Kind α → Members Json → α) : List (String × Schema) → List (String × α)
  | [] => []
  | (name, s) :: rest => (name, s.fold f) :: foldProperties f rest

def foldOption (f : Kind α → Members Json → α) : Option Schema → Option α
  | none => none
  | some s => some (s.fold f)

end

theorem foldList_eq (f : Kind α → Members Json → α) (ss : List Schema) :
    foldList f ss = ss.map (fold f) := by
  induction ss <;> simp_all [foldList]

theorem foldProperties_eq (f : Kind α → Members Json → α) (ps : Members Schema) :
    foldProperties f ps = ps.mapValues (fold f) := by
  induction ps <;> simp_all [foldProperties, Members.mapValues]

theorem foldOption_eq (f : Kind α → Members Json → α) (o : Option Schema) :
    foldOption f o = o.map (fold f) := by
  cases o <;> rfl

theorem foldKind_eq (f : Kind α → Members Json → α) (k : Kind Schema) :
    foldKind f k = k.map (fold f) := by
  cases k <;> simp [foldKind, Kind.map, ObjectShape.map, foldList_eq, foldProperties_eq,
    foldOption_eq]

/-- A fold applies its step to the layer with the children folded. -/
theorem fold_mk (f : Kind α → Members Json → α) (kind : Kind Schema) (extensions : Members Json) :
    fold f (mk kind extensions) = f (kind.map (fold f)) extensions := by
  rw [fold, foldKind_eq]

mutual

theorem induct {P : Schema → Prop}
    (h : ∀ kind extensions, (∀ c ∈ kind.children, P c) → P (mk kind extensions)) :
    ∀ s : Schema, P s
  | mk kind extensions => h kind extensions (inductKind h kind)

theorem inductKind {P : Schema → Prop}
    (h : ∀ kind extensions, (∀ c ∈ kind.children, P c) → P (mk kind extensions)) :
    ∀ kind : Kind Schema, ∀ c ∈ kind.children, P c
  | .object ⟨properties, _, additional⟩ => fun c hc =>
      (List.mem_append.1 hc).elim (inductProperties h properties c)
        fun hc => inductOption h additional c (Option.mem_toList.1 hc)
  | .arrayOf item => fun _ hc => List.mem_singleton.1 hc ▸ induct h item
  | .mixedArray items | .tuple items | .allOf items | .choice _ items | .variants items
  | .union items => inductList h items
  | .reference _ | .anyArray | .enumeration _ _ | .leaf _ => by simp [Kind.children]

theorem inductList {P : Schema → Prop}
    (h : ∀ kind extensions, (∀ c ∈ kind.children, P c) → P (mk kind extensions)) :
    ∀ ss : List Schema, ∀ c ∈ ss, P c
  | [] => by simp
  | s :: rest => fun c hc =>
      (List.mem_cons.1 hc).elim (fun e => e ▸ induct h s) (inductList h rest c)

theorem inductProperties {P : Schema → Prop}
    (h : ∀ kind extensions, (∀ c ∈ kind.children, P c) → P (mk kind extensions)) :
    ∀ ps : List (String × Schema), ∀ c ∈ ps.map Prod.snd, P c
  | [] => by simp
  | (_, s) :: rest => fun c hc =>
      (List.mem_cons.1 hc).elim (fun e => e ▸ induct h s) (inductProperties h rest c)

theorem inductOption {P : Schema → Prop}
    (h : ∀ kind extensions, (∀ c ∈ kind.children, P c) → P (mk kind extensions)) :
    ∀ o : Option Schema, ∀ c, o = some c → P c
  | none => by simp
  | some s => fun _ hc => Option.some.inj hc ▸ induct h s

end

/-- The single type of a leaf or an enumeration that declares exactly one. -/
def single? (s : Schema) : Option Primitive := s.kind.types.single?

/-- Whether no layer of the tree is raw. -/
def isCanonical (s : Schema) : Bool :=
  s.fold fun kind _ => !kind.isRaw && kind.children.all id

theorem isCanonical_mk (kind : Kind Schema) (extensions : Members Json) :
    (mk kind extensions).isCanonical = (!kind.isRaw && kind.children.all isCanonical) := by
  rw [isCanonical, fold_mk, Kind.isRaw_map, Kind.children_map, List.all_map]
  rfl

end Schema

end MockBuilders
