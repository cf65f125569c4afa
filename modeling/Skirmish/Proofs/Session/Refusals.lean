import Skirmish.Proofs.Session.InPlace
import Skirmish.Proofs.Session.Token

/-!
# What a session does not depend on

A request that is refused, or that only asks for talk, does not count: it leaves the whole session
as it was, indexes and dice included. Such requests can be deleted from any run: the session comes
out the same, and so do the effects of all others. So the state depends only on the requests that
are granted and on the disconnects.

Results:

* `effects_cases`: the effects of a refusal;
* `perform_of_counts_eq_false`: an operation that does not count keeps the session;
* `flatMap_told_log`: the effects of a run are those of its `log`;
* `run_kept`, `log_kept`: a run without what does not count;
* `run_of_kept_eq`: runs that differ only in what does not count;
* `eq_self_of_refusal`: all of this for any session.
-/

namespace Skirmish.Session

variable {δ : Type} [Dice δ] {s : Session δ} {id : PlayerId} {op : Op}

/-! ## What counts -/

/-- The operation can change the session: `opened`, `disconnect`, and a request that is granted and
is not `Request.isTalk`. -/
def counts (s : Session δ) : Op → Bool
  | .opened | .disconnect _ => true
  | .handle id r | .request id r => !r.isTalk && (s.request id r).isOk
  | .serverChat _ => false

/-- An operation of a run, its effects, and whether it `counts`. -/
structure Entry where
  op : Op
  told : List Effect
  counted : Bool
deriving DecidableEq, Repr

/-- The entries of a run of `ops`. -/
def log (s : Session δ) : List Op → List Entry
  | [] => []
  | op :: rest => ⟨op, (s.perform op).2, s.counts op⟩ :: log (s.perform op).1 rest

/-- The operations of a run that `counts`, in order. -/
def kept (s : Session δ) (ops : List Op) : List Op :=
  ((s.log ops).filter (·.counted)).map (·.op)

/-! ## What does not count -/

/-- `Refusal.effects` are none, or the `message` and the `close` of the same connection. -/
theorem effects_cases (why : Refusal) (id : PlayerId) :
    why.effects id = [] ∨
      why.effects id = [.unicast id (.disconnected why.message), .close id] := by
  unfold Refusal.effects
  split
  · exact .inr rfl
  · exact .inl rfl

/-- A request that is refused or `isTalk` keeps the session. -/
theorem perform_of_idle {r : Request} (asked : op = .handle id r ∨ op = .request id r)
    (idle : (!r.isTalk && (s.request id r).isOk) = false) : (s.perform op).1 = s := by
  cases outcome : s.request id r with
  | error why => exact perform_of_error asked outcome
  | ok step =>
    have talk : r.isTalk = true := by simpa [outcome, Except.isOk, Except.toBool] using idle
    rw [perform_of_ok asked outcome]
    exact (request_of_isTalk talk outcome).1

theorem perform_of_counts_eq_false (idle : s.counts op = false) : (s.perform op).1 = s := by
  cases op with
  | opened | disconnect => cases idle
  | handle id r => exact perform_of_idle (.inl rfl) idle
  | request id r => exact perform_of_idle (.inr rfl) idle
  | serverChat text => rfl

/-! ## Runs -/

/-- The effects of a run are those of its entries, in order. -/
theorem flatMap_told_log (s : Session δ) (ops : List Op) :
    (s.log ops).flatMap (·.told) = (s.run ops).2 := by
  induction ops generalizing s with
  | nil => rfl
  | cons op rest ih => rw [log, List.flatMap_cons, ih, run_cons]

theorem kept_cons_of_counts (counts : s.counts op = true) (rest : List Op) :
    s.kept (op :: rest) = op :: (s.perform op).1.kept rest := by
  rw [kept, log, counts]
  rfl

theorem kept_cons_of_idle (idle : s.counts op = false) (rest : List Op) :
    s.kept (op :: rest) = s.kept rest := by
  rw [kept, log, idle, perform_of_counts_eq_false idle]
  rfl

/-- A run of the operations that count leads to the same session. -/
theorem run_kept (s : Session δ) (ops : List Op) : (s.run (s.kept ops)).1 = (s.run ops).1 := by
  induction ops generalizing s with
  | nil => rfl
  | cons op rest ih =>
    rw [run_cons]
    cases counts : s.counts op with
    | true =>
      rw [kept_cons_of_counts counts, run_cons]
      exact ih (s.perform op).1
    | false =>
      rw [kept_cons_of_idle counts, perform_of_counts_eq_false counts]
      exact ih s

/-- A run of the operations that count has the entries that count. -/
theorem log_kept (s : Session δ) (ops : List Op) :
    s.log (s.kept ops) = (s.log ops).filter (·.counted) := by
  induction ops generalizing s with
  | nil => rfl
  | cons op rest ih =>
    rw [log]
    cases counts : s.counts op with
    | true =>
      rw [kept_cons_of_counts counts, log, counts, List.filter_cons_of_pos rfl, ih]
    | false =>
      rw [kept_cons_of_idle counts, perform_of_counts_eq_false counts, ih]
      rfl

/-- Runs with the same operations that count lead to the same session, and their entries that count
are the same. -/
theorem run_of_kept_eq {ops more : List Op} (same : s.kept ops = s.kept more) :
    (s.run ops).1 = (s.run more).1 ∧
      (s.log ops).filter (·.counted) = (s.log more).filter (·.counted) := by
  constructor
  · rw [← run_kept, same, run_kept]
  · rw [← log_kept, same, log_kept]

/-- For every session, reached or not: `Work.request` in place is `request`, so a refusal leaves the
session as it was, and `handle` has no effects then but, at most, the message and the `close` for
`id`. The effects of a run are those of its `log`. If the operations that do not count are struck
out of a run, the session at the end is the same and so are the entries that count. So both depend
only on `kept`. -/
theorem eq_self_of_refusal (s : Session δ) :
    (∀ id r, (Work.request id r).runOn s = s.settle (s.request id r) ∧
      s.handleInPlace id r = s.handle id r) ∧
    (∀ id r why t, (Work.request id r).runOn s = (.error why, t) →
      t = s ∧ (s.handle id r = (s, []) ∨
        s.handle id r = (s, [.unicast id (.disconnected why.message), .close id]))) ∧
    (∀ ops, (s.log ops).flatMap (·.told) = (s.run ops).2 ∧
      (s.run (s.kept ops)).1 = (s.run ops).1 ∧
      s.log (s.kept ops) = (s.log ops).filter (·.counted)) ∧
    ∀ ops more, s.kept ops = s.kept more → (s.run ops).1 = (s.run more).1 ∧
      (s.log ops).filter (·.counted) = (s.log more).filter (·.counted) := by
  refine ⟨fun id r => ⟨runOn_request s id r, handleInPlace_eq s id r⟩, ?_,
    fun ops => ⟨flatMap_told_log s ops, run_kept s ops, log_kept s ops⟩,
    fun ops more => run_of_kept_eq⟩
  intro id r why t stopped
  rw [runOn_request] at stopped
  cases outcome : s.request id r with
  | ok step =>
    rw [outcome] at stopped
    cases stopped
  | error refusal =>
    rw [outcome] at stopped
    cases stopped
    rw [handle_of_error outcome]
    rcases effects_cases why id with silent | farewell
    · exact ⟨rfl, .inl (by rw [silent])⟩
    · exact ⟨rfl, .inr (by rw [farewell])⟩

/-- One player joins and talks; a stranger sends `ready`, and another one an `intro` with the name
of the player. -/
def crossTalk : List Op :=
  [.opened, .handle ⟨1⟩ (.intro "A" true), .handle ⟨1⟩ (.chat "hello"), .handle ⟨3⟩ .ready,
    .handle ⟨2⟩ (.intro "A" true)]

/-- The last request is refused as `nameTaken` and leaves the session as it was. Only the first two
operations count. -/
theorem eq_self_of_refusal_crossTalk :
    let s := Session.new 2 (⟨[]⟩ : Script)
    let lobby := (s.run crossTalk).1
    let why := Refusal.roster (.nameTaken "A")
    ((Work.request ⟨2⟩ (.intro "A" true)).runOn lobby = (.error why, lobby) ∧
        (lobby.handle ⟨2⟩ (.intro "A" true) = (lobby, []) ∨
          lobby.handle ⟨2⟩ (.intro "A" true) =
            (lobby, [.unicast ⟨2⟩ (.disconnected why.message), .close ⟨2⟩]))) ∧
      s.kept crossTalk = [.opened, .handle ⟨1⟩ (.intro "A" true)] ∧
      lobby = (s.run [.opened, .handle ⟨1⟩ (.intro "A" true)]).1 ∧
      (s.run crossTalk).2 = (s.log crossTalk).flatMap (·.told) := by
  intro s lobby why
  have refused : lobby.request ⟨2⟩ (.intro "A" true) = .error why := rfl
  have counted : s.kept crossTalk = [.opened, .handle ⟨1⟩ (.intro "A" true)] := by decide +kernel
  obtain ⟨inPlace, quiet, -, -⟩ := eq_self_of_refusal lobby
  obtain ⟨-, -, struck, -⟩ := eq_self_of_refusal s
  have stopped : (Work.request ⟨2⟩ (.intro "A" true)).runOn lobby = (.error why, lobby) := by
    rw [(inPlace _ _).1, refused]
    rfl
  obtain ⟨told, same, -⟩ := struck crossTalk
  refine ⟨⟨stopped, (quiet _ _ why lobby stopped).2⟩, counted, ?_, told.symm⟩
  rw [← counted, same]

end Skirmish.Session
