import MockBuilders.Schema.Primitive

/-!
One layer of a schema, over whatever stands at the places of its subschemas. What is done to a
whole schema is a fold over its layers, so each operation is stated here for one layer.
-/
namespace MockBuilders

/-- The keyword of a list of alternatives. -/
inductive ChoiceKeyword where
  | anyOf
  | oneOf
  deriving DecidableEq, Repr

def ChoiceKeyword.name : ChoiceKeyword → String
  | anyOf => "anyOf"
  | oneOf => "oneOf"

structure ObjectShape (σ : Type) where
  properties : List (String × σ)
  required : List String
  /-- The schema of properties that are not listed. -/
  additional : Option σ
  deriving BEq, Repr

structure Leaf where
  types : TypeTag
  default : Option Json
  examples : Option (List Json)
  deriving BEq, Repr

/-- Moves a default and listed examples out of the members; examples that are no list go to the
end of what is left. -/
def Leaf.take (types : TypeTag) (m : Members Json) : Leaf × Members Json :=
  let rest := m.take "default"
  match m.get? "examples" with
  | some (.array examples) => (⟨types, m.get? "default", some examples⟩, rest.take "examples")
  | some found =>
      (⟨types, m.get? "default", none⟩, rest.take "examples" ++ [("examples", found)])
  | none => (⟨types, m.get? "default", none⟩, rest)

inductive Kind (σ : Type) where
  /-- A `$ref` to another named schema. -/
  | reference (pointer : String)
  | object (shape : ObjectShape σ)
  /-- An array that says nothing about its items. -/
  | anyArray
  | arrayOf (item : σ)
  /-- An array whose items are of any of the listed types. -/
  | mixedArray (items : List σ)
  /-- An array with one schema for each position. -/
  | tuple (items : List σ)
  | allOf (branches : List σ)
  | choice (keyword : ChoiceKeyword) (branches : List σ)
  /-- An enumeration with one record for each value. -/
  | variants (records : List σ)
  /-- Alternatives listed as items that are combined by `or`. -/
  | union (branches : List σ)
  | enumeration (types : TypeTag) (values : List Json)
  | leaf (leaf : Leaf)
  deriving BEq, Repr

namespace ObjectShape

variable {σ τ : Type}

def empty : ObjectShape σ := ⟨[], [], none⟩

def children (s : ObjectShape σ) : List σ := s.properties.map Prod.snd ++ s.additional.toList

def map (f : σ → τ) (s : ObjectShape σ) : ObjectShape τ :=
  ⟨Members.mapValues f s.properties, s.required, s.additional.map f⟩

end ObjectShape

namespace Kind

variable {σ τ : Type}

/-- Subschemas in document order. -/
def children : Kind σ → List σ
  | object shape => shape.children
  | arrayOf item => [item]
  | mixedArray items | tuple items | allOf items | choice _ items | variants items
  | union items => items
  | reference _ | anyArray | enumeration _ _ | leaf _ => []

def map (f : σ → τ) : Kind σ → Kind τ
  | reference pointer => reference pointer
  | object shape => object (shape.map f)
  | anyArray => anyArray
  | arrayOf item => arrayOf (f item)
  | mixedArray items => mixedArray (items.map f)
  | tuple items => tuple (items.map f)
  | allOf branches => allOf (branches.map f)
  | choice keyword branches => choice keyword (branches.map f)
  | variants records => variants (records.map f)
  | union branches => union (branches.map f)
  | enumeration types values => enumeration types values
  | leaf l => leaf l

/-- The layer with its children replaced by those of a list, in document order. -/
def withChildren (k : Kind σ) (cs : List σ) : Kind σ :=
  match k with
  | object shape =>
      object ⟨shape.properties.zipWith (fun p c => (p.1, c)) cs, shape.required,
        shape.additional.bind fun _ => cs.getLast?⟩
  | arrayOf item => arrayOf (cs.headD item)
  | mixedArray _ => mixedArray cs
  | tuple _ => tuple cs
  | allOf _ => allOf cs
  | choice keyword _ => choice keyword cs
  | variants _ => variants cs
  | union _ => union cs
  | reference _ | anyArray | enumeration _ _ | leaf _ => k

/-- Runs an action at each child, in document order, and keeps the layer. -/
def traverse {m : Type → Type} [Monad m] (f : σ → m τ) : Kind σ → m (Kind τ)
  | reference pointer => pure (reference pointer)
  | object shape => do
      let properties ← shape.properties.mapM fun p => do return (p.1, ← f p.2)
      let additional ←
        match shape.additional with
        | none => pure none
        | some child => do pure (some (← f child))
      return object ⟨properties, shape.required, additional⟩
  | anyArray => pure anyArray
  | arrayOf item => do return arrayOf (← f item)
  | mixedArray items => do return mixedArray (← items.mapM f)
  | tuple items => do return tuple (← items.mapM f)
  | allOf branches => do return allOf (← branches.mapM f)
  | choice keyword branches => do return choice keyword (← branches.mapM f)
  | variants records => do return variants (← records.mapM f)
  | union branches => do return union (← branches.mapM f)
  | enumeration types values => pure (enumeration types values)
  | leaf l => pure (leaf l)

def pointer? : Kind σ → Option String
  | reference pointer => some pointer
  | _ => none

/-- The types that the layer declares, if it is a leaf or an enumeration. -/
def types : Kind σ → TypeTag
  | enumeration types _ => types
  | leaf l => l.types
  | _ => []

def object? : Kind σ → Option (ObjectShape σ)
  | object shape => some shape
  | _ => none

/-- A layer that canonical schemas do not have. -/
def isRaw : Kind σ → Bool
  | variants _ | union _ | mixedArray _ => true
  | _ => false

@[simp] theorem children_map (f : σ → τ) (k : Kind σ) : (k.map f).children = k.children.map f := by
  cases k with
  | object shape =>
    cases h : shape.additional <;>
      simp [children, map, ObjectShape.children, ObjectShape.map, Members.mapValues, h,
        Function.comp_def]
  | _ => rfl

theorem map_congr {f g : σ → τ} {k : Kind σ} (h : ∀ c ∈ k.children, f c = g c) :
    k.map f = k.map g := by
  cases k with
  | object shape =>
    simp only [children, ObjectShape.children, List.mem_append, List.mem_map,
      Option.mem_toList] at h
    have hp : Members.mapValues f shape.properties = Members.mapValues g shape.properties :=
      List.map_congr_left fun p hp => by rw [h p.2 (.inl ⟨p, hp, rfl⟩)]
    have ha : shape.additional.map f = shape.additional.map g := by
      cases ha : shape.additional with
      | none => rfl
      | some c => simp [h c (.inr ha)]
    simp [map, ObjectShape.map, hp, ha]
  | arrayOf item => simp [map, h item (by simp [children])]
  | _ => first | rfl | (simp only [map]; congr 1; exact List.map_congr_left h)

theorem map_id (k : Kind σ) : k.map id = k := by
  cases k <;> simp [map, ObjectShape.map, Members.mapValues]

/-- Each child with the fact that it is one. -/
def attach : (k : Kind σ) → Kind { c // c ∈ k.children }
  | reference pointer => reference pointer
  | object shape =>
      object ⟨shape.properties.attach.map fun p =>
          (p.1.1, ⟨p.1.2, List.mem_append_left _ (List.mem_map_of_mem p.2)⟩),
        shape.required,
        shape.additional.attach.map fun c =>
          ⟨c.1, List.mem_append_right _ (Option.mem_toList.2 c.2)⟩⟩
  | anyArray => anyArray
  | arrayOf item => arrayOf ⟨item, List.mem_singleton_self item⟩
  | mixedArray items => mixedArray items.attach
  | tuple items => tuple items.attach
  | allOf branches => allOf branches.attach
  | choice keyword branches => choice keyword branches.attach
  | variants records => variants records.attach
  | union branches => union branches.attach
  | enumeration types values => enumeration types values
  | leaf l => leaf l

theorem map_val_attach (k : Kind σ) : k.attach.map Subtype.val = k := by
  cases k with
  | object shape =>
    obtain ⟨properties, required, additional⟩ := shape
    simp only [attach, map, ObjectShape.map, Members.mapValues, List.map_map, Function.comp_def,
      Option.map_map, Option.attach_map_subtype_val]
    exact congrArg (fun ps => object ⟨ps, required, additional⟩)
      (List.attach_map_subtype_val properties)
  | reference _ | anyArray | enumeration _ _ | leaf _ => rfl
  | arrayOf item => rfl
  | mixedArray items => exact congrArg mixedArray (List.attach_map_subtype_val items)
  | tuple items => exact congrArg tuple (List.attach_map_subtype_val items)
  | allOf items => exact congrArg allOf (List.attach_map_subtype_val items)
  | choice keyword items => exact congrArg (choice keyword) (List.attach_map_subtype_val items)
  | variants items => exact congrArg variants (List.attach_map_subtype_val items)
  | union items => exact congrArg union (List.attach_map_subtype_val items)

theorem traverse_map {υ : Type} {m : Type → Type} [Monad m] [LawfulMonad m] (g : σ → τ)
    (f : τ → m υ) (k : Kind σ) : (k.map g).traverse f = k.traverse fun c => f (g c) := by
  cases k with
  | object shape =>
    cases h : shape.additional <;>
      simp [map, traverse, ObjectShape.map, Members.mapValues, h, List.mapM_map, Function.comp_def]
  | _ => simp [map, traverse, List.mapM_map, Function.comp_def]

/-- An action that ignores the fact may be run without it. -/
theorem traverse_attach {m : Type → Type} [Monad m] [LawfulMonad m] (f : σ → m τ) (k : Kind σ) :
    (k.attach.traverse fun c => f c.1) = k.traverse f := by
  rw [← traverse_map Subtype.val f k.attach, map_val_attach]

@[simp] theorem pointer?_map (f : σ → τ) (k : Kind σ) : (k.map f).pointer? = k.pointer? := by
  cases k <;> rfl

theorem eq_reference_of_pointer? {k : Kind σ} {pointer : String}
    (h : k.pointer? = some pointer) : k = reference pointer := by
  cases k <;> cases h
  rfl

@[simp] theorem isRaw_map (f : σ → τ) (k : Kind σ) : (k.map f).isRaw = k.isRaw := by
  cases k <;> rfl

end Kind

end MockBuilders
