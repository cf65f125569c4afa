/-!
# Work done in place

Work on a state that is changed in place and may be stopped by an error, as a function with a
mutable receiver and early returns. An error undoes nothing, so there is a state at the end in
either case.

Results:

* `Work.runOn_bind`, `Work.runOn_map`: one after the other;
* `Work.runOn_pure`, `Work.runOn_throw`, `Work.runOn_get`, `Work.runOn_modify`: single steps.
-/

namespace Skirmish

/-- Work on a state of type `σ` that an `ε` may stop. -/
abbrev Work (ε σ α : Type) := ExceptT ε (StateM σ) α

namespace Work

variable {ε σ α β : Type}

/-- The result and the state at the end. -/
def runOn (work : Work ε σ α) (s : σ) : Except ε α × σ :=
  work.run.run s

@[simp] theorem runOn_pure (x : α) (s : σ) : (pure x : Work ε σ α).runOn s = (.ok x, s) := rfl

@[simp] theorem runOn_throw (why : ε) (s : σ) :
    (throw why : Work ε σ α).runOn s = (.error why, s) := rfl

@[simp] theorem runOn_get (s : σ) : (get : Work ε σ σ).runOn s = (.ok s, s) := rfl

@[simp] theorem runOn_modify (f : σ → σ) (s : σ) :
    (modify f : Work ε σ Unit).runOn s = (.ok (), f s) := rfl

/-- `next` goes on from the state that `work` leaves, unless that was stopped. -/
@[simp] theorem runOn_bind (work : Work ε σ α) (next : α → Work ε σ β) (s : σ) :
    (work >>= next).runOn s =
      match work.runOn s with
      | (.ok x, t) => (next x).runOn t
      | (.error why, t) => (.error why, t) := by
  show ExceptT.bindCont next (work.runOn s).1 (work.runOn s).2 = _
  rcases work.runOn s with ⟨why | x, t⟩
  · rfl
  · rfl

@[simp] theorem runOn_map (f : α → β) (work : Work ε σ α) (s : σ) :
    (f <$> work).runOn s =
      match work.runOn s with
      | (.ok x, t) => (.ok (f x), t)
      | (.error why, t) => (.error why, t) := by
  rw [map_eq_pure_bind, runOn_bind]
  rfl

end Work

end Skirmish
