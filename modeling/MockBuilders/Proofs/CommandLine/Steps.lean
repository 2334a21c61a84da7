import MockBuilders.CommandLine.Run

/-!
Steps of a command one after the other: what each of them comes to, and what a row of steps that
succeeds has passed through. Main statements: `Step.run_bind` and `Step.exists_of_run_bind`.
-/
namespace MockBuilders

namespace Step

variable {α β ε : Type} {c c' : Console}

theorem run_bind (x : Step α) (f : α → Step β) (c : Console) :
    (x >>= f).run.run c =
      match x.run.run c with
      | (.error e, c') => (.error e, c')
      | (.ok a, c') => (f a).run.run c' := by
  have hbind : (x >>= f).run.run c =
      match x.run.run c with
      | (r, c') => (ExceptT.bindCont f r).run c' :=
    rfl
  rw [hbind]
  obtain ⟨_ | _, _⟩ := x.run.run c <;> rfl

theorem run_get (c : Console) : (get : Step Console).run.run c = (.ok c, c) :=
  rfl

theorem run_ofExcept (cause : ε → CommandFailure) (x : Except ε α) (c : Console) :
    (ofExcept cause x).run.run c = (x.mapError cause, c) := by
  cases x <;> rfl

theorem run_change (cause : FileError → CommandFailure)
    (f : FileTree → Except FileError FileTree) (c : Console) :
    (change cause f).run.run c =
      match f c.files with
      | .error e => (.error (cause e), c)
      | .ok t => (.ok (), { c with files := t }) := by
  rw [change, run_bind, run_get]
  dsimp only
  rw [run_bind, run_ofExcept]
  cases f c.files <;> rfl

theorem exists_of_run_bind {x : Step α} {f : α → Step β} {b : β}
    (h : (x >>= f).run.run c = (.ok b, c')) :
    ∃ a c₁, x.run.run c = (.ok a, c₁) ∧ (f a).run.run c₁ = (.ok b, c') := by
  rw [run_bind] at h
  split at h
  · cases (Prod.mk.inj h).1
  · next a c₁ hx => exact ⟨a, c₁, hx, h⟩

theorem eq_of_run_ofExcept {cause : ε → CommandFailure} {x : Except ε α} {a : α}
    (h : (ofExcept cause x).run.run c = (.ok a, c')) : c' = c := by
  rw [run_ofExcept] at h
  exact (Prod.mk.inj h).2.symm

theorem exists_of_run_change {cause : FileError → CommandFailure}
    {f : FileTree → Except FileError FileTree} (h : (change cause f).run.run c = (.ok (), c')) :
    f c.files = .ok c'.files := by
  rw [run_change] at h
  split at h
  · cases (Prod.mk.inj h).1
  · next hf => rw [hf, ← (Prod.mk.inj h).2]

theorem files_of_run_print {text : String} (h : (print text).run.run c = (.ok (), c')) :
    c'.files = c.files := by
  rw [← (Prod.mk.inj h).2]

end Step

end MockBuilders
