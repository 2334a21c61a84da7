import MockBuilders.Emission.Plan

/-!
How a plan accounts for its entries: each is decided once, as a builder or as a collision.
Main statement: `Plan.length_builders_add_count`.
-/
namespace MockBuilders

namespace Decision

/-- A builder reports properties without a setter, never a collision of type names. -/
theorem code_ne_of_mem_built {b : Builder} {reused : Bool} {d : Diagnostic}
    (h : d ∈ (built b reused).diagnostics) : d.code ≠ .typeNameCollision := by
  obtain ⟨p, -, hp⟩ := List.mem_flatMap.mp h
  cases p with
  | setter _ _ => cases hp
  | bracketed _ | unnamed _ | taken _ _ =>
    obtain rfl := List.mem_singleton.mp hp
    exact nofun

/-- A decision makes one builder or reports one collision of type names. -/
theorem length_builder_add_count (d : Decision) :
    d.builder?.toList.length + Diagnostics.count d.diagnostics .typeNameCollision = 1 := by
  cases d with
  | skipped entry type owner => rfl
  | built b reused =>
    have hzero : Diagnostics.count (built b reused).diagnostics .typeNameCollision = 0 := by
      apply List.countP_eq_zero.mpr
      intro d hd
      simpa using code_ne_of_mem_built hd
    rw [hzero]
    rfl

end Decision

namespace Plan

theorem length_decisions_add (p : Plan) (e : CanonicalEntry) :
    (p.add e).decisions.length = p.decisions.length + 1 := by
  unfold add
  split
  · simp
  · split <;> simp

theorem length_decisions_ofEntries (entries : List CanonicalEntry) :
    (ofEntries entries).decisions.length = entries.length := by
  have hfold : ∀ (es : List CanonicalEntry) (p : Plan),
      (es.foldl add p).decisions.length = p.decisions.length + es.length := by
    intro es
    induction es with
    | nil => exact fun p => rfl
    | cons e es ih =>
      intro p
      rw [List.foldl_cons, ih, length_decisions_add, List.length_cons]
      omega
  rw [ofEntries, hfold]
  exact Nat.zero_add _

/-- Every entry gets a builder or is reported as a collision of type names. -/
theorem length_builders_add_count (entries : List CanonicalEntry) :
    (ofEntries entries).builders.length +
      Diagnostics.count (ofEntries entries).diagnostics .typeNameCollision = entries.length := by
  have hsum : ∀ ds : List Decision, (ds.filterMap Decision.builder?).length +
      Diagnostics.count (ds.flatMap Decision.diagnostics) .typeNameCollision = ds.length := by
    intro ds
    induction ds with
    | nil => rfl
    | cons d ds ih =>
      have hd := d.length_builder_add_count
      have hlen : ((d :: ds).filterMap Decision.builder?).length =
          d.builder?.toList.length + (ds.filterMap Decision.builder?).length := by
        cases hb : d.builder? <;> simp [hb, Nat.add_comm]
      simp only [Diagnostics.count, List.flatMap_cons, List.countP_append] at hd ih ⊢
      rw [hlen, List.length_cons]
      omega
  rw [← length_decisions_ofEntries]
  exact hsum _

end Plan

end MockBuilders
