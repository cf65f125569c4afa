import Skirmish.Proofs.Session.News
import Skirmish.Proofs.View

/-!
# What a view makes of several notices

`View.hearAll` of several notices, by what they change: the own player and the rows depend only on
`gameStarted`, `phaseChanged` and `healthChanged`, which are broadcast. Lists, chat, `takeTurn` and
`disconnected` change neither.

Results:

* `View.me_apply`, `View.roster_apply`, `View.connection_apply`: own player, rows and connection
  after a notice;
* `View.me_hearAll`, `View.inProgress_hearAll`: the same after several;
* `View.myTurn_hearAll`, `View.myTurn_hearAll_of_ended`: the turn, before `gameOver` and in it.
-/

namespace Skirmish

/-! ## Notices to everybody -/

/-- The notice of a broadcast. -/
def Effect.toAll? : Effect → Option Notice
  | .broadcast notice => some notice
  | _ => none

/-- The notices that are broadcast, in order. -/
def broadcasts (effects : List Effect) : List Notice :=
  effects.filterMap Effect.toAll?

@[simp] theorem broadcasts_append (es more : List Effect) :
    broadcasts (es ++ more) = broadcasts es ++ broadcasts more :=
  List.filterMap_append ..

/-! ## The own player and the roster -/

/-- The own player after a notice. -/
def Snapshot.hear (m : Snapshot) : Notice → Snapshot
  | .gameStarted => { m with ready := false }
  | .phaseChanged _ (some players) => (players.find? (·.name = m.name)).getD m
  | .healthChanged name health => if m.name = name then { m with health } else m
  | _ => m

/-- The own player after the notices. -/
def Snapshot.hearAll (m : Snapshot) (ns : List Notice) : Snapshot :=
  ns.foldl hear m

@[simp] theorem Snapshot.hearAll_cons (m : Snapshot) (n : Notice) (ns : List Notice) :
    m.hearAll (n :: ns) = (m.hear n).hearAll ns := rfl

/-- The rows after a notice. -/
def Notice.rows (rows : List Snapshot) : Notice → List Snapshot
  | .phaseChanged _ (some players) => players
  | .healthChanged name health => View.withHealth name health rows
  | _ => rows

/-- The rows after the notices. -/
def rowsAfter (rows : List Snapshot) (ns : List Notice) : List Snapshot :=
  ns.foldl Notice.rows rows

@[simp] theorem rowsAfter_cons (rows : List Snapshot) (n : Notice) (ns : List Notice) :
    rowsAfter rows (n :: ns) = rowsAfter (n.rows rows) ns := rfl

theorem rowsAfter_append (rows : List Snapshot) (ns more : List Notice) :
    rowsAfter rows (ns ++ more) = rowsAfter (rowsAfter rows ns) more :=
  List.foldl_append

theorem Snapshot.hear_of_isPersonal {n : Notice} (personal : n.isPersonal = true) (m : Snapshot) :
    m.hear n = m := by
  cases n <;> first | rfl | cases personal

theorem Notice.rows_of_isPersonal {n : Notice} (personal : n.isPersonal = true)
    (rows : List Snapshot) : n.rows rows = rows := by
  cases n <;> first | rfl | cases personal

/-! ## Views -/

namespace View

variable {v : View} {n : Notice} {ns : List Notice}

@[simp] theorem hearAll_cons (v : View) (n : Notice) (ns : List Notice) :
    v.hearAll (n :: ns) = (v.apply n).1.hearAll ns := rfl

theorem me_apply (v : View) (n : Notice) : (v.apply n).1.me = v.me.hear n := by
  cases n with
  | phaseChanged phase roster =>
    cases roster <;> simp only [apply, enterPhase, Snapshot.hear] <;> split <;> rfl
  | _ => rfl

theorem roster_apply (v : View) (n : Notice) : (v.apply n).1.roster = n.rows v.roster := by
  cases n with
  | phaseChanged phase roster =>
    cases roster <;> simp only [apply, enterPhase, Notice.rows] <;> split <;> rfl
  | _ => rfl

theorem connection_apply (v : View) (n : Notice) :
    (v.apply n).1.connection = if n = .gameStarted then .inProgress else v.connection := by
  cases n with
  | gameStarted => simp [apply]
  | phaseChanged phase roster =>
    cases roster <;> simp only [apply, enterPhase] <;> split <;> rfl
  | _ => rfl

theorem game_hearAll (v : View) (ns : List Notice) : (v.hearAll ns).game = v.game.hearAll ns := by
  induction ns generalizing v with
  | nil => rfl
  | cons n rest ih => rw [hearAll_cons, ih, game_apply, GamePhase.hearAll_cons]

theorem me_hearAll (v : View) (ns : List Notice) : (v.hearAll ns).me = v.me.hearAll ns := by
  induction ns generalizing v with
  | nil => rfl
  | cons n rest ih => rw [hearAll_cons, ih, me_apply, Snapshot.hearAll_cons]

theorem inProgress_hearAll (v : View) (ns : List Notice) :
    (v.hearAll ns).inProgress = true ↔ v.inProgress = true ∨ .gameStarted ∈ ns := by
  induction ns generalizing v with
  | nil => simp [hearAll]
  | cons n rest ih =>
    rw [hearAll_cons, ih, List.mem_cons]
    by_cases start : n = .gameStarted
    · simp [inProgress, connection_apply, start]
    · simp [inProgress, connection_apply, start, Ne.symm start]

/-- Without `gameOver` and `disconnected`, the view has the turn iff it had it or gets `takeTurn`.
-/
theorem myTurn_hearAll (going : v.game.hearAll ns ≠ .gameOver)
    (stays : ∀ reason, .disconnected reason ∉ ns) :
    (v.hearAll ns).myTurn = true ↔ v.myTurn = true ∨ .takeTurn ∈ ns := by
  induction ns generalizing v with
  | nil => simp [hearAll]
  | cons n rest ih =>
    simp only [List.mem_cons, not_or] at stays
    rw [GamePhase.hearAll_cons, ← game_apply] at going
    rw [hearAll_cons, ih going fun reason => (stays reason).2, List.mem_cons, myTurn_apply]
    cases n with
    | disconnected reason => exact absurd rfl (stays reason).1
    | phaseChanged phase roster =>
      cases phase with
      | gameOver =>
        -- nothing leads on from the end
        have last := (v.apply (.phaseChanged .gameOver roster)).1.game.rank_le_hearAll rest
        rw [game_apply, GamePhase.hear, GamePhase.advance_gameOver] at last going
        exact absurd (GamePhase.eq_gameOver_of_rank_le last) going
      | _ => simp
    | _ => simp

/-- Notices without `takeTurn` that lead to `gameOver` leave the view without the turn. -/
theorem myTurn_hearAll_of_ended (silent : .takeTurn ∉ ns) (ended : v.game.hearAll ns = .gameOver)
    (idle : v.game = .gameOver → v.myTurn = false) : (v.hearAll ns).myTurn = false := by
  induction ns generalizing v with
  | nil => exact idle ended
  | cons n rest ih =>
    simp only [List.mem_cons, not_or] at silent
    rw [GamePhase.hearAll_cons, ← game_apply] at ended
    apply ih silent.2 ended
    intro ended
    rw [game_apply] at ended
    rw [myTurn_apply]
    cases n with
    | takeTurn => exact absurd rfl silent.1
    | disconnected reason => rfl
    | gameStarted => exact idle (GamePhase.eq_gameOver_of_advance ended (by decide))
    | phaseChanged phase roster =>
      cases phase with
      | gameOver => rfl
      | _ => exact idle (GamePhase.eq_gameOver_of_advance ended (by decide))
    | _ => exact idle ended

end View

end Skirmish
