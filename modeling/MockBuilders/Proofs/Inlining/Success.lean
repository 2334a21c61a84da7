import MockBuilders.Graph.Basic
import MockBuilders.Inlining
import MockBuilders.Proofs.Schema.Traversal

/-!
When inlining succeeds: a schema can be inlined if all that it refers to can.
Main statement: `expand_succeeds_iff`.
-/
namespace MockBuilders

/-- Where lookups are related, a pointer leads to the same name and to related values. -/
theorem Pointer.rel_lookup? {α β : Type} {R : α → β → Prop} {m : Members α} {n : Members β}
    (h : ∀ key, Option.Rel R (m.get? key) (n.get? key)) (pointer : String) :
    Option.Rel (fun p q => p.1 = q.1 ∧ R p.2 q.2) (lookup? m pointer) (lookup? n pointer) := by
  have hname := h (name pointer)
  have hsuffixed := h (name pointer ++ suffix)
  unfold lookup?
  generalize m.get? (name pointer) = a at hname ⊢
  generalize n.get? (name pointer) = b at hname ⊢
  cases hname with
  | some hvw => exact .some ⟨rfl, hvw⟩
  | none => exact rel_map hsuffixed fun _ _ hvw => ⟨rfl, hvw⟩

namespace Expansion

variable {α β : Type}

/-- No cycle was met. -/
def Succeeds (x : Expansion α) : Prop := ∃ a, x.result = .ok a

theorem result_bind (x : Expansion α) (f : α → Expansion β) :
    (x >>= f).result = x.result >>= fun a => (f a).result := by
  obtain ⟨missing, r⟩ := x
  cases r <;> rfl

theorem isMorphism_result : IsMorphism fun α => @result α where
  map_pure _ := rfl
  map_bind := result_bind

end Expansion

theorem Inlined.ofExpansion_eq_ok_iff {owner : String} {s r : Schema} {x : Expansion Schema} :
    (ofExpansion owner s x).result = .ok r ↔ x.result = .ok r := by
  simp only [ofExpansion]
  cases x.result <;> simp [Except.mapError]

theorem Inlined.ofExpansion_eq_error_iff {owner : String} {s : Schema} {x : Expansion Schema}
    {f : Failure} : (ofExpansion owner s x).result = .error f ↔
      ∃ cycle, x.result = .error cycle ∧ .cyclic owner cycle = f := by
  simp only [ofExpansion]
  cases x.result <;> simp [Except.mapError]

theorem InliningSession.call_entry_eq_ok_iff {session : InliningSession} {name : String}
    {s r : Schema} : (session.call (.entry name s)).1 = .ok r ↔
      (expand session.entries [name] s).result = .ok r := by
  change (Inlined.ofExpansion name s (expand session.entries [name] s)).result = .ok r ↔ _
  exact Inlined.ofExpansion_eq_ok_iff

variable {entries : Members Schema} {opened : List String}

/-- A layer that is no reference is inlined child by child. -/
theorem result_expand_mk {kind : Kind Schema} {extensions : Members Json}
    (h : kind.pointer? = none) :
    (expand entries opened (.mk kind extensions)).result =
      (kind.traverse fun c => (expand entries opened c).result).map fun k => .mk k extensions := by
  rw [expand_mk h, Expansion.result_bind, Expansion.isMorphism_result.traverse]
  rfl

theorem follow_succeeds_iff {pointer : String} {extensions : Members Json} :
    (follow entries opened pointer extensions).Succeeds ↔
      ∀ key target, Pointer.lookup? entries pointer = some (key, target) →
        key ∉ opened ∧ (expand entries (opened ++ [key]) target).Succeeds := by
  unfold follow
  split
  · next h => simp [h, Expansion.Succeeds]
  · next key target h =>
    split
    · next hk => simp [h, hk, Expansion.Succeeds]
    · next hk => simp [h, hk]

theorem expand_mk_succeeds_iff {kind : Kind Schema} {extensions : Members Json}
    (h : kind.pointer? = none) :
    (expand entries opened (.mk kind extensions)).Succeeds ↔
      ∀ c ∈ kind.children, (expand entries opened c).Succeeds := by
  simp only [Expansion.Succeeds, result_expand_mk h, exists_map_eq_ok_iff,
    Kind.exists_traverse_eq_ok_iff]

/-- Inlining succeeds if no reference of the schema leads to an open entry, and each entry that
one leads to can be inlined in turn. -/
theorem expand_succeeds_iff {s : Schema} :
    (expand entries opened s).Succeeds ↔
      ∀ pointer ∈ s.references, ∀ key target,
        Pointer.lookup? entries pointer = some (key, target) →
          key ∉ opened ∧ (expand entries (opened ++ [key]) target).Succeeds := by
  induction s using Schema.induct with
  | h kind extensions ih =>
    cases hk : kind.pointer? with
    | some pointer =>
      obtain rfl := Kind.eq_reference_of_pointer? hk
      rw [expand_reference, follow_succeeds_iff, Schema.references_mk]
      simp [Kind.pointer?, Kind.children]
    | none =>
      rw [expand_mk_succeeds_iff hk, Schema.references_mk, hk]
      simp only [Option.toList_none, List.nil_append, List.mem_flatMap]
      constructor
      · rintro h pointer ⟨c, hc, hp⟩
        exact (ih c hc).mp (h c hc) pointer hp
      · exact fun h c hc => (ih c hc).mpr fun pointer hp => h pointer ⟨c, hc, hp⟩

end MockBuilders
