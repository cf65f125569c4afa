import Skirmish.Proofs.Session.Requests
import Skirmish.Session.Run

/-!
# The turn token

`Orderly s`: `turns.holder` is a living player in `characterSelect` and `main`, and `none` in
`pending` and `gameOver`. Every operation keeps it.

Results:

* `perform_elim`: the outcomes of `perform`;
* `perform_of_ok`, `perform_of_error`: `perform` of a request in either form, by its result;
* `Orderly.perform`, `Orderly.run`: the invariant over one operation and a run;
* `holder_isSome_iff_of_run`: the holder after any run.
-/

namespace Skirmish.Session

variable {δ : Type} [Dice δ] {s : Session δ}

/-- A motive that holds of every outcome of `request`, of every refusal, of `serverChat` and of
`disconnect` holds of `perform`. -/
theorem perform_elim {motive : Step δ → Prop} (opened : motive (s.opened, []))
    (granted : ∀ {id r step}, s.request id r = .ok step → motive step)
    (refused : ∀ (why : Refusal) id, motive (s, why.effects id)) (nothing : motive (s, []))
    (said : ∀ text, motive (s, Session.serverChat text))
    (lost : ∀ id, motive (s.disconnect id)) (op : Op) : motive (s.perform op) := by
  cases op with
  | opened => exact opened
  | handle id r =>
    show motive (s.handle id r)
    cases asked : s.request id r with
    | ok step => exact handle_of_ok asked ▸ granted asked
    | error why => exact handle_of_error asked ▸ refused why id
  | request id r =>
    unfold perform
    split
    · rename_i step asked
      exact granted asked
    · exact nothing
  | serverChat text => exact said text
  | disconnect id => exact lost id

section

variable {id : PlayerId} {r : Request} {op : Op}

theorem perform_of_ok {step : Step δ} (asked : op = .handle id r ∨ op = .request id r)
    (ok : s.request id r = .ok step) : s.perform op = step := by
  rcases asked with rfl | rfl
  · exact handle_of_ok ok
  · simp only [perform, attempt, ok]

theorem perform_of_error {why : Refusal} (asked : op = .handle id r ∨ op = .request id r)
    (refused : s.request id r = .error why) : (s.perform op).1 = s := by
  rcases asked with rfl | rfl
  · exact congrArg Prod.fst (handle_of_error refused)
  · simp only [perform, attempt, refused]

end

namespace Orderly

theorem handle (h : Orderly s) (id : PlayerId) (r : Request) : Orderly (s.handle id r).1 := by
  cases asked : s.request id r with
  | ok step => exact handle_of_ok asked ▸ (request_relayed h asked).orderly
  | error why => exact handle_of_error asked ▸ h

theorem perform (h : Orderly s) (op : Op) : Orderly (s.perform op).1 := by
  refine perform_elim (motive := fun step => Orderly step.1) ?_ ?_ ?_ ?_ ?_ ?_ op
  · exact h.opened
  · exact fun asked => (request_relayed h asked).orderly
  · exact fun _ _ => h
  · exact h
  · exact fun _ => h
  · exact fun id => (disconnect_relayed h id).orderly

theorem run (h : Orderly s) (ops : List Op) : Orderly (s.run ops).1 := by
  induction ops generalizing s with
  | nil => exact h
  | cons op rest ih => exact ih (h.perform op)

end Orderly

/-- After every run `turns.holder` is `some` exactly in `characterSelect` and `main`. The holder is
a player of the roster with `alive`, in `main` at least two are alive, and `connection` is
`inProgress` exactly if `game` is not `pending`. -/
theorem holder_isSome_iff_of_run (expected : Nat) (dice : δ) (ops : List Op) :
    let s := ((Session.new expected dice).run ops).1
    (s.turns.holder.isSome = true ↔ s.game = .characterSelect ∨ s.game = .main) ∧
      (∀ id, s.turns.holder = some id → ∃ p, s.roster.get? id = some p ∧ p.alive = true) ∧
      (s.game = .main → 2 ≤ s.roster.aliveCount) ∧
      (s.connection = .inProgress ↔ s.game ≠ .pending) := by
  have orderly := (Orderly.new expected dice).run ops
  exact ⟨orderly.holder_iff, orderly.holder_alive, orderly.two_alive, orderly.started_iff⟩

end Skirmish.Session
