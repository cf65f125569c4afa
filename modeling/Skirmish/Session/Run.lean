import Skirmish.Session

/-!
# Runs of a session

`Op` is `handle` of a request, one of the methods of the session called by itself, or `disconnect`.
`run` performs operations in order and collects their effects. An operation that returns an error
has no effects and keeps the session.
-/

namespace Skirmish.Session

/-- An operation of a session, as the server calls it or directly. -/
inductive Op
  /-- Players can connect from now on. -/
  | opened
  /-- A request of a connection, with what a refusal means for the connection. -/
  | handle (id : PlayerId) (r : Request)
  /-- A request by itself, which may be refused. -/
  | request (id : PlayerId) (r : Request)
  /-- A line said at the server itself. -/
  | serverChat (text : String)
  /-- The loss of a connection. -/
  | disconnect (id : PlayerId)
deriving DecidableEq, Repr

variable {δ : Type} [Dice δ]

/-- The outcome of an operation; only `Op.request` can fail. -/
def attempt (s : Session δ) : Op → Outcome δ
  | .opened => .ok (s.opened, [])
  | .handle id r => .ok (s.handle id r)
  | .request id r => s.request id r
  | .serverChat text => .ok (s, Session.serverChat text)
  | .disconnect id => .ok (s.disconnect id)

/-- `attempt`, where a refusal leaves the session as it is and has no effects. -/
def perform (s : Session δ) (op : Op) : Step δ :=
  match s.attempt op with
  | .ok step => step
  | .error _ => (s, [])

/-- `perform` of the operations in order, with all effects one behind the other. -/
def run (s : Session δ) : List Op → Step δ
  | [] => (s, [])
  | op :: rest =>
    let (next, now) := s.perform op
    let (last, later) := run next rest
    (last, now ++ later)

theorem run_cons (s : Session δ) (op : Op) (rest : List Op) :
    s.run (op :: rest) =
      (((s.perform op).1.run rest).1, (s.perform op).2 ++ ((s.perform op).1.run rest).2) := rfl

theorem run_append (s : Session δ) (ops more : List Op) :
    s.run (ops ++ more) =
      (((s.run ops).1.run more).1, (s.run ops).2 ++ ((s.run ops).1.run more).2) := by
  induction ops generalizing s with
  | nil => rfl
  | cons op rest ih => simp [run_cons, ih]

theorem fst_run_append (s : Session δ) (ops more : List Op) :
    (s.run (ops ++ more)).1 = ((s.run ops).1.run more).1 := by
  rw [run_append]

theorem fst_run_opened (s : Session δ) (ops : List Op) :
    (s.run (.opened :: ops)).1 = (s.opened.run ops).1 := rfl

end Skirmish.Session
