import Mathlib.Data.List.Induction
import Skirmish.Proofs.Session.Members
import Skirmish.Proofs.Session.Token

/-!
# Who is told that it is their turn

`takers` are the recipients of `takeTurn`, in order, and `turns.holder` is the token. An operation
that starts the game, a granted move and the disconnect of the holder pass the turn (`PassesTurn`):
they have one taker, another player, who holds the token afterwards, or they end the game. No other
operation has a taker, and none takes the token from its holder, except a disconnect in `main` that
leaves only the holder alive.

Results:

* `Relayed.takers_cases`: the takers of an operation and the holder after it;
* `request_takers`, `disconnect_takers`: the granted requests and disconnects that have a taker;
* `perform_takers`: an operation passes the turn iff it `PassesTurn`, or ends the game by leaving
  one player alive;
* `getLast?_takers_run`: the last taker is the holder;
* `takers_eq_holder_of_run`: all of this after any run.
-/

namespace Skirmish

/-- The recipient of a `takeTurn`. -/
def Effect.taker? : Effect → Option PlayerId
  | .unicast id .takeTurn => some id
  | _ => none

/-- The recipients of `takeTurn` among `effects`, in order. -/
def takers (effects : List Effect) : List PlayerId :=
  effects.filterMap Effect.taker?

@[simp] theorem takers_append (es more : List Effect) :
    takers (es ++ more) = takers es ++ takers more :=
  List.filterMap_append ..

theorem takers_eq_nil {effects : List Effect} (h : ∀ e ∈ effects, e.taker? = none) :
    takers effects = [] :=
  List.filterMap_eq_nil_iff.mpr h

/-- A `takeTurn` is news, so `news` keeps all `takers`. -/
theorem takers_news (effects : List Effect) : takers (news effects) = takers effects := by
  induction effects with
  | nil => rfl
  | cons e rest ih =>
    rw [news_cons]
    split
    · rename_i talk
      have silent : e.taker? = none := by
        cases e with
        | unicast id n => cases n <;> first | rfl | cases talk
        | _ => rfl
      rw [ih, takers, takers, List.filterMap_cons_none silent]
    · rw [takers, List.filterMap_cons, ← takers, ih]
      rfl

theorem Effect.taker?_of_isHealth {e : Effect} (health : e.isHealth = true) : e.taker? = none := by
  cases e with
  | unicast id n => cases health
  | _ => rfl

theorem PhaseNews.takers_eq_nil {g h : GamePhase} {phases : List Effect}
    (told : PhaseNews g h phases) : takers phases = [] := by
  induction told with
  | stay | finish => rfl
  | start _ ih | enter _ _ ih => exact ih

namespace Session

theorem takers_refusal (why : Refusal) (id : PlayerId) : takers (why.effects id) = [] := by
  rcases refusal_cases why id with eq | ⟨reason, eq⟩ <;> rw [eq] <;> rfl

variable {δ : Type} {s : Session δ} {step : Step δ} {id : PlayerId}

/-! ## What an operation tells of the turn -/

/-- `step` keeps `turns` and `game`, and has no `takers`. -/
def Rests (s : Session δ) (step : Step δ) : Prop :=
  step.1.turns = s.turns ∧ step.1.game = s.game ∧ takers step.2 = []

/-- `step` has exactly one taker. It is the holder afterwards, and was not before. -/
def HandsOver (s : Session δ) (step : Step δ) : Prop :=
  ∃ i, takers step.2 = [i] ∧ step.1.turns.holder = some i ∧ s.turns.holder ≠ some i

/-- `step` ends in `gameOver` without a holder, and has no `takers`. -/
def Concludes (step : Step δ) : Prop :=
  takers step.2 = [] ∧ step.1.turns.holder = none ∧ step.1.game = .gameOver

theorem Relayed.takers_cases (h : Relayed id s step) :
    Rests s step ∨
      HandsOver s step ∧
        (s.game = .pending ∧ step.1.game ≠ .pending ∨ s.turns.holder = some id) ∨
      Concludes step ∧ (s.game = .characterSelect ∨ s.game = .main) := by
  obtain ⟨healths, ns, eq, only, goes, -⟩ := h
  have healthy : takers healths = [] :=
    takers_eq_nil fun e he => Effect.taker?_of_isHealth (only e he)
  have same : takers step.2 = takers ns := by
    rw [← takers_news, eq, takers_append, healthy, List.nil_append]
  rcases goes with ⟨rfl, turns, game⟩ | relay
  · exact .inl ⟨turns, game, same⟩
  · cases relay with
    | gives phases told playing member alive holder moves giver =>
      rename_i p
      rw [takers_append, told.takers_eq_nil] at same
      refine .inr (.inl ⟨⟨p.id, same, holder, moves⟩, giver.imp_left fun pending => ⟨pending, ?_⟩⟩)
      rcases playing with g | g <;> simp [g]
    | ends phases told playing ended holder =>
      exact .inr (.inr ⟨⟨same.trans told.takers_eq_nil, holder, ended⟩, playing⟩)

/-! ## Operations that pass the turn -/

/-- A granted request other than `chooseJob` and `act` rests, unless it starts the game. Those two
hand over or conclude. -/
theorem request_takers [Dice δ] (h : Orderly s) {r : Request} (ok : s.request id r = .ok step) :
    Rests s step ∧ r.isMove = false ∨
      HandsOver s step ∧ (s.game = .pending ∧ step.1.game ≠ .pending ∨ r.isMove = true) ∨
      Concludes step ∧ r.isMove = true := by
  have relayed := request_relayed h ok
  cases move : r.isMove with
  | true =>
    obtain ⟨holder, spent⟩ := holder_of_move h move ok
    rcases relayed.takers_cases with ⟨turns, -, -⟩ | ⟨hands, -⟩ | ⟨ends, -⟩
    · exact absurd (turns ▸ holder) spent
    · exact .inr (.inl ⟨hands, .inr rfl⟩)
    · exact .inr (.inr ⟨ends, rfl⟩)
  | false =>
    have still (playing : s.game ≠ .pending) : step.1.turns = s.turns :=
      turns_of_isMove_eq_false h playing move ok
    rcases relayed.takers_cases with rests | ⟨hands, start | holder⟩ | ⟨ends, playing⟩
    · exact .inl ⟨rests, rfl⟩
    · exact .inr (.inl ⟨hands, .inl start⟩)
    · obtain ⟨i, -, gets, other⟩ := hands
      exact absurd (still (h.ne_pending holder) ▸ gets) other
    · -- somebody has the turn as long as the game goes on
      have held := h.holder_iff.mpr playing
      obtain ⟨-, none, -⟩ := ends
      have turns := still (by rcases playing with g | g <;> simp [g])
      rw [← turns, none] at held
      cases held

/-- The holder that is lost does not hold the turn afterwards. -/
theorem holder_ne_of_disconnect (h : Orderly s) (holder : s.turns.holder = some id) :
    (s.disconnect id).1.turns.holder ≠ some id := by
  intro kept
  obtain ⟨p, found, alive⟩ := (disconnect_relayed h id).orderly.holder_alive id kept
  have dead := not_alive_of_disconnect (h.ne_gameOver holder) found
  rw [alive] at dead
  cases dead

/-- If the loss of a player other than the holder ends the game, the phase was `main` and the player
was alive. -/
theorem forfeit_of_concludes (other : s.turns.holder ≠ some id) (h : Orderly s)
    (going : s.game ≠ .gameOver) (ended : (s.disconnect id).1.game = .gameOver) :
    s.game = .main ∧ ∃ p, s.roster.get? id = some p ∧ p.alive = true := by
  rcases s.disconnect_cases id with ⟨eq, -⟩ | ⟨p, found, ⟨-, eq⟩ | ⟨started, -, alive, eq⟩⟩ <;>
    rw [eq] at ended
  · exact absurd ended going
  · exact absurd ended going
  · refine ⟨?_, p, found, alive⟩
    have idle : (s.forfeited id).turns.isHolder id = false := decide_eq_false other
    have game : (s.forfeited id).game = s.game := rfl
    cases phase : s.game with
    | pending => exact absurd phase (h.started_iff.mp started)
    | characterSelect => simp [afterForfeit, game, phase, idle] at ended
    | main => rfl
    | gameOver => exact absurd phase going

/-- Before `inProgress` the loss of a connection keeps `game`. -/
theorem game_disconnect_of_lobby (lobby : s.connection ≠ .inProgress) (id : PlayerId) :
    (s.disconnect id).1.game = s.game := by
  rcases s.disconnect_cases id with ⟨eq, -⟩ | ⟨p, found, ⟨-, eq⟩ | ⟨started, -, -, -⟩⟩
  · rw [eq]
  · rw [eq]
    rfl
  · exact absurd started lobby

/-- The loss of the holder hands over or concludes. Any other loss rests, or concludes in `main` if
the player was alive. -/
theorem disconnect_takers (h : Orderly s) (id : PlayerId) :
    Rests s (s.disconnect id) ∧ s.turns.holder ≠ some id ∨
      HandsOver s (s.disconnect id) ∧ s.turns.holder = some id ∨
      Concludes (s.disconnect id) ∧ (s.turns.holder = some id ∨ s.game = .main ∧
        ∃ p, s.roster.get? id = some p ∧ p.alive = true) := by
  rcases (disconnect_relayed h id).takers_cases with rests | ⟨hands, start | holder⟩ |
    ⟨ends, playing⟩
  · refine .inl ⟨rests, fun holder => holder_ne_of_disconnect h holder ?_⟩
    rw [rests.1, holder]
  · have lobby := mt h.started_iff.mp (not_not.mpr start.1)
    exact absurd ((game_disconnect_of_lobby lobby id).trans start.1) start.2
  · exact .inr (.inl ⟨hands, holder⟩)
  · refine .inr (.inr ⟨ends, ?_⟩)
    by_cases holder : s.turns.holder = some id
    · exact .inl holder
    · have going : s.game ≠ .gameOver := by rcases playing with g | g <;> simp [g]
      exact .inr (forfeit_of_concludes holder h going ends.2.2)

variable [Dice δ]

/-- The operation `op` starts the game, is a granted `chooseJob` or `act`, or is the loss of the
holder. -/
inductive PassesTurn (s : Session δ) : Op → Prop
  | start {op : Op} (lobby : s.game = .pending) (started : (s.perform op).1.game ≠ .pending) :
      PassesTurn s op
  | handle {id : PlayerId} {r : Request} {step : Step δ} (move : r.isMove = true)
      (granted : s.request id r = .ok step) : PassesTurn s (.handle id r)
  | request {id : PlayerId} {r : Request} {step : Step δ} (move : r.isMove = true)
      (granted : s.request id r = .ok step) : PassesTurn s (.request id r)
  | forfeit {id : PlayerId} (holder : s.turns.holder = some id) : PassesTurn s (.disconnect id)

/-- In `main` a living player that does not hold the turn is lost, and this ends the game and clears
the holder. -/
def EndsByForfeit (s : Session δ) (op : Op) : Prop :=
  ∃ id p, op = .disconnect id ∧ s.game = .main ∧ s.turns.holder ≠ some id ∧
    s.roster.get? id = some p ∧ p.alive = true ∧
    (s.perform op).1.game = .gameOver ∧ (s.perform op).1.turns.holder = none

/-- The converse of `PassesTurn.start`, `PassesTurn.handle` and `PassesTurn.request` for a request
in either form. -/
theorem PassesTurn.of_asked {op : Op} {r : Request} (passes : PassesTurn s op)
    (asked : op = .handle id r ∨ op = .request id r) :
    s.game = .pending ∧ (s.perform op).1.game ≠ .pending ∨
      r.isMove = true ∧ ∃ step, s.request id r = .ok step := by
  cases passes with
  | start lobby started => exact .inl ⟨lobby, started⟩
  | handle move granted | request move granted =>
    obtain ⟨rfl, rfl⟩ : _ = id ∧ _ = r := by simpa using asked
    exact .inr ⟨move, _, granted⟩
  | forfeit holder => simp at asked

theorem passesTurn_of_isMove {op : Op} {r : Request}
    (asked : op = .handle id r ∨ op = .request id r) (move : r.isMove = true)
    (granted : s.request id r = .ok step) : PassesTurn s op := by
  obtain rfl | rfl := asked
  · exact .handle move granted
  · exact .request move granted

/-- A refused request has no `takers`, whether its `Refusal.effects` are sent or not. -/
theorem takers_of_error {op : Op} {r : Request} {why : Refusal}
    (asked : op = .handle id r ∨ op = .request id r) (refused : s.request id r = .error why) :
    takers (s.perform op).2 = [] := by
  obtain rfl | rfl := asked
  · show takers (s.handle id r).2 = []
    rw [handle_of_error refused]
    exact takers_refusal why id
  · simp [perform, attempt, refused, takers]

/-- `request_takers` for a request in either form. -/
theorem asked_takers (h : Orderly s) {op : Op} {r : Request}
    (asked : op = .handle id r ∨ op = .request id r) :
    Rests s (s.perform op) ∧ ¬PassesTurn s op ∨ HandsOver s (s.perform op) ∧ PassesTurn s op ∨
      Concludes (s.perform op) ∧ PassesTurn s op := by
  cases outcome : s.request id r with
  | error why =>
    have still : (s.perform op).1 = s := perform_of_error asked outcome
    refine .inl ⟨⟨by rw [still], by rw [still], takers_of_error asked outcome⟩, fun passes => ?_⟩
    rcases passes.of_asked asked with ⟨lobby, started⟩ | ⟨-, step, granted⟩
    · exact started (by rw [still, lobby])
    · cases outcome.symm.trans granted
  | ok step =>
    have performed : s.perform op = step := perform_of_ok asked outcome
    rw [performed]
    rcases request_takers h outcome with ⟨rests, plain⟩ | ⟨hands, start | move⟩ | ⟨ends, move⟩
    · refine .inl ⟨rests, fun passes => ?_⟩
      rcases passes.of_asked asked with ⟨lobby, started⟩ | ⟨move, -⟩
      · rw [performed] at started
        exact started (rests.2.1.trans lobby)
      · simp [plain] at move
    · exact .inr (.inl ⟨hands, .start start.1 (performed ▸ start.2)⟩)
    · exact .inr (.inl ⟨hands, passesTurn_of_isMove asked move outcome⟩)
    · exact .inr (.inr ⟨ends, passesTurn_of_isMove asked move outcome⟩)

/-- An operation that `PassesTurn` hands over or concludes. Any other one rests, or concludes if it
`EndsByForfeit`. -/
theorem perform_takers (h : Orderly s) (op : Op) :
    Rests s (s.perform op) ∧ ¬PassesTurn s op ∨
      HandsOver s (s.perform op) ∧ PassesTurn s op ∨
      Concludes (s.perform op) ∧ (PassesTurn s op ∨ EndsByForfeit s op) := by
  cases op with
  | opened =>
    refine .inl ⟨⟨rfl, rfl, rfl⟩, fun passes => ?_⟩
    cases passes with
    | start lobby started => exact started lobby
  | serverChat text =>
    refine .inl ⟨⟨rfl, rfl, ?_⟩, fun passes => ?_⟩
    · show takers (Session.serverChat text) = []
      rcases serverChat_cases text with eq | eq <;> rw [eq] <;> rfl
    · cases passes with
      | start lobby started => exact started lobby
  | handle id r => exact (asked_takers h (.inl rfl)).imp_right (.imp_right (.imp_right .inl))
  | request id r => exact (asked_takers h (.inr rfl)).imp_right (.imp_right (.imp_right .inl))
  | disconnect id =>
    have performed : s.perform (.disconnect id) = s.disconnect id := rfl
    rw [performed]
    rcases disconnect_takers h id with ⟨rests, other⟩ | ⟨hands, holder⟩ | ⟨ends, why⟩
    · refine .inl ⟨rests, fun passes => ?_⟩
      cases passes with
      | start lobby started => exact started (rests.2.1.trans lobby)
      | forfeit holder => exact other holder
    · exact .inr (.inl ⟨hands, .forfeit holder⟩)
    · refine .inr (.inr ⟨ends, ?_⟩)
      by_cases holder : s.turns.holder = some id
      · exact .inl (.forfeit holder)
      · obtain ⟨main, p, found, alive⟩ := why.resolve_left holder
        exact .inr ⟨id, p, rfl, main, holder, found, alive, ends.2.2, ends.2.1⟩

/-! ## Runs -/

theorem run_concat (s : Session δ) (ops : List Op) (op : Op) :
    s.run (ops ++ [op]) =
      (((s.run ops).1.perform op).1, (s.run ops).2 ++ ((s.run ops).1.perform op).2) := by
  simp [run_append, run]

/-- If nobody holds the turn at first, the holder after a run is the last one of its `takers`. -/
theorem getLast?_takers_run (h : Orderly s) (idle : s.turns.holder = none) (ops : List Op)
    {i : PlayerId} (holder : (s.run ops).1.turns.holder = some i) :
    (takers (s.run ops).2).getLast? = some i := by
  induction ops using List.reverseRecOn generalizing i with
  | nil =>
    rw [run, idle] at holder
    cases holder
  | append_singleton ops op ih =>
    rw [run_concat] at holder ⊢
    rw [takers_append]
    rcases perform_takers (h.run ops) op with ⟨⟨turns, -, silent⟩, -⟩ | ⟨⟨j, told, gets, -⟩, -⟩ |
      ⟨⟨-, none, -⟩, -⟩
    · rw [silent, List.append_nil]
      exact ih (turns ▸ holder)
    · rw [told, List.getLast?_concat, ← gets, holder]
    · rw [none] at holder
      cases holder

/-- In a session after any run, `perform op` has at most one taker, and it is the holder afterwards.
If `op` `PassesTurn`, the taker was not the holder before, or there is none and the game is over.
Otherwise there is no taker, and the holder stays unless `op` `EndsByForfeit`. The holder after a
run is the last of its `takers`. -/
theorem takers_eq_holder_of_run (expected : Nat) (dice : δ) (ops : List Op) (op : Op) :
    let s := ((Session.new expected dice).run ops).1
    let next := s.perform op
    (takers next.2 = [] ∨ ∃ i, takers next.2 = [i] ∧ next.1.turns.holder = some i) ∧
      (PassesTurn s op →
        (∃ i, takers next.2 = [i] ∧ s.turns.holder ≠ some i) ∨
          takers next.2 = [] ∧ next.1.game = .gameOver) ∧
      (¬PassesTurn s op →
        takers next.2 = [] ∧ (next.1.turns.holder = s.turns.holder ∨ EndsByForfeit s op)) ∧
      ∀ i, s.turns.holder = some i →
        (takers ((Session.new expected dice).run ops).2).getLast? = some i := by
  have fresh := Orderly.new expected dice
  refine ⟨?_, ?_, ?_, fun i holder => getLast?_takers_run fresh rfl ops holder⟩
  all_goals
    rcases perform_takers (fresh.run ops) op with ⟨⟨turns, -, silent⟩, rests⟩ |
      ⟨⟨i, told, gets, other⟩, passes⟩ | ⟨⟨silent, none, ended⟩, how⟩
  · exact .inl silent
  · exact .inr ⟨i, told, gets⟩
  · exact .inl silent
  · exact fun passes => absurd passes rests
  · exact fun _ => .inl ⟨i, told, other⟩
  · exact fun _ => .inr ⟨silent, ended⟩
  · exact fun _ => ⟨silent, .inl (by rw [turns])⟩
  · exact fun rests => absurd passes rests
  · exact fun rests => ⟨silent, .inr (how.resolve_left rests)⟩

/-- A session of two in `main`; the first player holds the turn. -/
def duelBegun : List Op :=
  [.opened, .handle ⟨1⟩ (.intro "A" true), .handle ⟨2⟩ (.intro "B" true),
    .handle ⟨1⟩ (.chooseJob .wizard), .handle ⟨2⟩ (.chooseJob .warrior)]

/-- The first player is the last taker. Its attack `PassesTurn` and has another taker. The loss of
the second player does not, and `EndsByForfeit`. -/
theorem takers_eq_holder_of_run_duelBegun :
    let run := (Session.new 2 (⟨[]⟩ : Script)).run duelBegun
    let attack := Op.handle ⟨1⟩ (.act .attack "B")
    (takers run.2).getLast? = some ⟨1⟩ ∧
      (PassesTurn run.1 attack ∧
        ∃ i, takers (run.1.perform attack).2 = [i] ∧ run.1.turns.holder ≠ some i) ∧
      ¬PassesTurn run.1 (.disconnect ⟨2⟩) ∧ takers (run.1.perform (.disconnect ⟨2⟩)).2 = [] ∧
        EndsByForfeit run.1 (.disconnect ⟨2⟩) := by
  intro run attack
  have holder : run.1.turns.holder = some ⟨1⟩ := by decide +kernel
  obtain ⟨-, passed, -, last⟩ :=
    takers_eq_holder_of_run 2 (⟨[]⟩ : Script) duelBegun attack
  obtain ⟨-, -, other, -⟩ :=
    takers_eq_holder_of_run 2 (⟨[]⟩ : Script) duelBegun (.disconnect ⟨2⟩)
  have granted : (run.1.request ⟨1⟩ (.act .attack "B")).isOk = true := by decide +kernel
  have passes : PassesTurn run.1 attack := by
    cases asked : run.1.request ⟨1⟩ (.act .attack "B") with
    | ok step => exact .handle rfl asked
    | error why => simp [asked, Except.isOk, Except.toBool] at granted
  have idle : ¬PassesTurn run.1 (.disconnect ⟨2⟩) := by
    intro passes
    cases passes with
    | start lobby => exact absurd lobby (by decide +kernel)
    | forfeit holder => exact absurd holder (by decide +kernel)
  obtain ⟨silent, still | ends⟩ := other idle
  · exact absurd still (by decide +kernel)
  · have going : (run.1.perform attack).1.game ≠ .gameOver := by decide +kernel
    exact ⟨last ⟨1⟩ holder, ⟨passes, (passed passes).resolve_right fun quit => going quit.2⟩,
      idle, silent, ends⟩

end Session

end Skirmish
