import MockBuilders.Proofs.Inlining.Success
import MockBuilders.Proofs.Schema.Alike

/-!
The order of entries and of members passes through inlining without a trace.
Main statement: `agree_expand`.
-/
namespace MockBuilders

variable {entries entries' : Members Schema}

/-- Alike schemas are both inlined over alike entries, as alike schemas, or both met a cycle. -/
theorem agree_expand (h : Members.Alike Schema.Alike entries entries') (opened : List String)
    {s t : Schema} (hst : s.Alike t) :
    Agree Schema.Alike (expand entries opened s).result (expand entries' opened t).result := by
  -- the entries left to open bound the chain of references, the schema the descent between two
  induction hn : (unopened entries opened).length using Nat.strongRecOn
    generalizing opened s t with
  | ind n ih =>
    induction s using Schema.induct generalizing t with
    | h kind extensions ihs =>
      cases hst with
      | @mk _ l _ f hkind hext =>
        cases hk : kind.pointer? with
        | some pointer =>
          obtain rfl := Kind.eq_reference_of_pointer? hk
          cases hkind
          rw [expand_reference, expand_reference]
          have hrel := Pointer.rel_lookup? h.get? pointer
          unfold follow
          generalize hlookup : Pointer.lookup? entries pointer = a at hrel ⊢
          generalize Pointer.lookup? entries' pointer = b at hrel ⊢
          cases hrel with
          | none => exact .ok (.mk (.reference pointer) hext)
          | @some p q hpq =>
            obtain ⟨key, target⟩ := p
            obtain ⟨_, target'⟩ := q
            obtain ⟨rfl, htargets⟩ := hpq
            dsimp only
            split
            · exact .error _ _
            · next hopened =>
              have hkey := Members.mem_keys_of_get? (Pointer.get?_of_lookup? hlookup)
              exact ih _ (hn ▸ unopened_lt hkey hopened) (opened ++ [key]) htargets rfl
        | none =>
          have hl : l.pointer? = none := by rw [← hkind.pointer?_eq, hk]
          rw [result_expand_mk hk, result_expand_mk hl]
          have hchildren := hkind.traverse fun c hc d _ hcd => ihs c hc hcd
          exact hchildren.map fun k k' hkk' => .mk hkk' hext

/-- The same holds of what is found for an entry of one name. -/
theorem Inlined.agree_entry (h : Members.Alike Schema.Alike entries entries') (name : String)
    {s t : Schema} (hst : s.Alike t) :
    Agree Schema.Alike (entry entries name s).result (entry entries' name t).result :=
  (agree_expand h [name] hst).mapError _ _

end MockBuilders
