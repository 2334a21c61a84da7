import MockBuilders.Proofs.Json.Alike
import MockBuilders.Proofs.Schema.Traversal
import MockBuilders.Schema.Basic

/-!
Schemas that are equal up to the order of members: of properties, of extensions and inside data.
Main statement: `Kind.Alike.traverse`.
-/
namespace MockBuilders

namespace ObjectShape

variable {σ τ : Type} {R : σ → τ → Prop} {s : ObjectShape σ} {t : ObjectShape τ}

/-- The same required names, and properties that are alike; spelled out, so that schemas can be
related by it. -/
inductive Alike (R : σ → τ → Prop) : ObjectShape σ → ObjectShape τ → Prop
  | intro (required : List String) {ps : Members σ} {qs : Members τ} {a b} :
      ps.Distinct → qs.Distinct → (∀ key, Option.Rel R (ps.get? key) (qs.get? key)) →
      Option.Rel R a b → Alike R ⟨ps, required, a⟩ ⟨qs, required, b⟩

theorem alike_iff : s.Alike R t ↔ Members.Alike R s.properties t.properties ∧
    s.required = t.required ∧ Option.Rel R s.additional t.additional := by
  constructor
  · intro h
    cases h with
    | intro required hp hq hget ha => exact ⟨⟨hp, hq, hget⟩, rfl, ha⟩
  · obtain ⟨ps, required, a⟩ := s
    obtain ⟨qs, _, b⟩ := t
    rintro ⟨h, rfl, ha⟩
    exact .intro required h.left h.right h.get? ha

theorem Alike.exists_right_of_mem (h : s.Alike R t) {c : σ} (hc : c ∈ s.children) :
    ∃ d ∈ t.children, R c d := by
  obtain ⟨hp, -, ha⟩ := alike_iff.mp h
  rcases List.mem_append.mp hc with hc | hc
  · obtain ⟨p, hp', rfl⟩ := List.mem_map.mp hc
    obtain ⟨q, hq, -, hpq⟩ := hp.exists_right_of_mem hp'
    exact ⟨q.2, List.mem_append_left _ (List.mem_map_of_mem hq), hpq⟩
  · rw [Option.mem_toList.mp hc] at ha
    obtain ⟨d, hd, hcd⟩ := exists_of_rel_some ha
    exact ⟨d, List.mem_append_right _ (Option.mem_toList.mpr hd), hcd⟩

theorem Alike.flip (h : s.Alike R t) : t.Alike (flip R) s := by
  obtain ⟨hp, hr, ha⟩ := alike_iff.mp h
  exact alike_iff.mpr ⟨hp.flip, hr.symm, rel_flip ha⟩

end ObjectShape

/-- The same types, and data that is alike. -/
structure Leaf.Alike (l m : Leaf) : Prop where
  types : l.types = m.types
  default : Option.Rel Json.Alike l.default m.default
  examples : Option.Rel (List.Forall₂ Json.Alike) l.examples m.examples

theorem Leaf.Alike.symm {l m : Leaf} (h : l.Alike m) : m.Alike l :=
  ⟨h.types.symm, rel_imp_of_mem (rel_flip h.default) fun _ _ _ _ => Json.Alike.symm,
    rel_imp_of_mem (rel_flip h.examples) fun _ _ _ _ hvs => hvs.flip.imp fun _ _ => Json.Alike.symm⟩

namespace Kind

variable {σ τ σ' τ' : Type}

/-- Two layers that are equal up to order, with related children. -/
inductive Alike (R : σ → τ → Prop) : Kind σ → Kind τ → Prop
  | reference (pointer : String) : Alike R (.reference pointer) (.reference pointer)
  | object {s t} : s.Alike R t → Alike R (.object s) (.object t)
  | anyArray : Alike R .anyArray .anyArray
  | arrayOf {a b} : R a b → Alike R (.arrayOf a) (.arrayOf b)
  | mixedArray {as bs} : List.Forall₂ R as bs → Alike R (.mixedArray as) (.mixedArray bs)
  | tuple {as bs} : List.Forall₂ R as bs → Alike R (.tuple as) (.tuple bs)
  | allOf {as bs} : List.Forall₂ R as bs → Alike R (.allOf as) (.allOf bs)
  | choice (keyword : ChoiceKeyword) {as bs} : List.Forall₂ R as bs →
      Alike R (.choice keyword as) (.choice keyword bs)
  | variants {as bs} : List.Forall₂ R as bs → Alike R (.variants as) (.variants bs)
  | union {as bs} : List.Forall₂ R as bs → Alike R (.union as) (.union bs)
  | enumeration (types : TypeTag) {vs ws} : List.Forall₂ Json.Alike vs ws →
      Alike R (.enumeration types vs) (.enumeration types ws)
  | leaf {l m} : l.Alike m → Alike R (.leaf l) (.leaf m)

variable {R : σ → τ → Prop} {S : σ' → τ' → Prop} {k : Kind σ} {l : Kind τ}

theorem Alike.exists_right_of_mem (h : k.Alike R l) {c : σ} (hc : c ∈ k.children) :
    ∃ d ∈ l.children, R c d := by
  cases h with
  | object h => exact h.exists_right_of_mem hc
  | arrayOf h => exact ⟨_, List.mem_singleton_self _, List.mem_singleton.mp hc ▸ h⟩
  | mixedArray h | tuple h | allOf h | choice _ h | variants h | union h =>
    exact MockBuilders.exists_right_of_mem h hc
  | reference _ | anyArray | enumeration _ _ | leaf _ => cases hc

theorem Alike.flip (h : k.Alike R l) : l.Alike (flip R) k := by
  cases h with
  | reference pointer => exact .reference pointer
  | object h => exact .object h.flip
  | anyArray => exact .anyArray
  | arrayOf h => exact .arrayOf h
  | mixedArray h => exact .mixedArray h.flip
  | tuple h => exact .tuple h.flip
  | allOf h => exact .allOf h.flip
  | choice keyword h => exact .choice keyword h.flip
  | variants h => exact .variants h.flip
  | union h => exact .union h.flip
  | enumeration types h => exact .enumeration types (h.flip.imp fun _ _ => Json.Alike.symm)
  | leaf h => exact .leaf h.symm

/-- Layers that differ from alike layers in their children only are alike, if the children are. -/
theorem Alike.square {P : σ → σ' → Prop} {Q : τ → τ' → Prop} {k' : Kind σ'} {l' : Kind τ'}
    (h : k.Alike R l) (hk : k.Pointwise P k') (hl : l.Pointwise Q l')
    (hS : ∀ c ∈ k.children, ∀ d ∈ l.children, ∀ c' d', R c d → P c c' → Q d d' → S c' d') :
    k'.Alike S l' := by
  cases h with
  | object h =>
    cases hk with
    | @object ps ps' required a a' hkp hka =>
      cases hl with
      | @object qs qs' required' b b' hlp hla =>
        obtain ⟨hp, rfl, ha⟩ := ObjectShape.alike_iff.mp h
        have hps := Members.matched_iff.mpr hkp
        have hqs := Members.matched_iff.mpr hlp
        refine .object (ObjectShape.alike_iff.mpr ⟨⟨?_, ?_, fun key => ?_⟩, rfl, ?_⟩)
        · rw [Members.Distinct, ← hps.keys]
          exact hp.left
        · rw [Members.Distinct, ← hqs.keys]
          exact hp.right
        · refine rel_square (hp.get? key) (hps.get? key) (hqs.get? key) ?_
          intro c hc d hd
          exact hS c (List.mem_append_left _ (List.mem_map_of_mem (Members.mem_of_get? hc))) d
            (List.mem_append_left _ (List.mem_map_of_mem (Members.mem_of_get? hd)))
        · apply rel_square ha hka hla
          intro c hc d hd
          exact hS c (List.mem_append_right _ (Option.mem_toList.mpr hc)) d
            (List.mem_append_right _ (Option.mem_toList.mpr hd))
  | arrayOf h =>
    cases hk with
    | arrayOf hk =>
      cases hl with
      | arrayOf hl =>
        exact .arrayOf (hS _ (List.mem_singleton_self _) _ (List.mem_singleton_self _) _ _ h hk hl)
  | mixedArray h | tuple h | allOf h | choice _ h | variants h | union h =>
    cases hk
    cases hl
    constructor
    exact forall₂_square h (by assumption) (by assumption) hS
  | reference _ | anyArray | enumeration _ _ | leaf _ =>
    cases hk
    cases hl
    constructor
    try assumption

theorem Alike.map {f : σ → σ'} {g : τ → τ'} (h : k.Alike R l)
    (hfg : ∀ c ∈ k.children, ∀ d ∈ l.children, R c d → S (f c) (g d)) :
    (k.map f).Alike S (l.map g) := by
  apply h.square (pointwise_map f k) (pointwise_map g l)
  rintro c hc d hd _ _ hcd rfl rfl
  exact hfg c hc d hd hcd

theorem Alike.types_eq (h : k.Alike R l) : k.types = l.types := by
  cases h with
  | leaf h => exact h.types
  | _ => rfl

theorem Alike.pointer?_eq (h : k.Alike R l) : k.pointer? = l.pointer? := by
  cases h <;> rfl

theorem Alike.rel_object? (h : k.Alike R l) :
    Option.Rel (ObjectShape.Alike R) k.object? l.object? := by
  cases h with
  | object h => exact .some h
  | _ => exact .none

/-- Runs at the children of alike layers end alike if they do at related children. -/
theorem Alike.traverse {ε δ : Type} {f : σ → Except ε σ'} {g : τ → Except δ τ'}
    (h : k.Alike R l)
    (hfg : ∀ c ∈ k.children, ∀ d ∈ l.children, R c d → Agree S (f c) (g d)) :
    Agree (Alike S) (k.traverse f) (l.traverse g) := by
  apply agree_of
  · rw [exists_traverse_eq_ok_iff, exists_traverse_eq_ok_iff]
    constructor
    · intro hok d hd
      obtain ⟨c, hc, hcd⟩ := h.flip.exists_right_of_mem hd
      exact (hfg c hc d hd hcd).exists_ok_iff.mp (hok c hc)
    · intro hok c hc
      obtain ⟨d, hd, hcd⟩ := h.exists_right_of_mem hc
      exact (hfg c hc d hd hcd).exists_ok_iff.mpr (hok d hd)
  · intro k' l' hk hl
    exact h.square (traverse_eq_ok_iff.mp hk) (traverse_eq_ok_iff.mp hl)
      fun c hc d hd c' d' hcd hfc hgd => (hfg c hc d hd hcd).rel hfc hgd

end Kind

/-- Two schemas that are equal up to the order of members. -/
inductive Schema.Alike : Schema → Schema → Prop
  | mk {k l e f} : Kind.Alike Schema.Alike k l → Members.Alike Json.Alike e f →
      Alike (.mk k e) (.mk l f)

end MockBuilders
