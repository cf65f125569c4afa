import Mathlib.Tactic.ByContra
import Skirmish.Proofs.Session.News
import Skirmish.Proofs.View.Sending

/-!
# What a view knows of the turn

What `apply` of the client does to the phase and to `my_turn`, and what `route` of a typed line
does: `end_turn` with each move.

Results:

* `View.game_apply`, `View.myTurn_apply`: phase and turn after a notice;
* `GamePhase.hearAll_append`, `GamePhase.atTurn_append`: the same of several notices, where
  `GamePhase.atTurn` is the phase at the first `takeTurn`;
* `View.route_routed`: a line ends the turn iff it routes to a move, and the move fits the phase.
-/

namespace Skirmish

/-- Whether the move is one of the phase `g`. -/
def Request.fits (g : GamePhase) : Request → Bool
  | .chooseJob job => g = .characterSelect ∧ job ≠ .unassigned
  | .act .. => g = .main
  | _ => false

theorem Request.isMove_of_fits {r : Request} {g : GamePhase} (h : r.fits g = true) :
    r.isMove = true := by
  cases r <;> first | rfl | cases h

/-! ## Phases -/

namespace GamePhase

variable {g : GamePhase} {n : Notice} {ns : List Notice}

/-- The phase after a notice. -/
def hear (g : GamePhase) : Notice → GamePhase
  | .gameStarted => g.advance .characterSelect
  | .phaseChanged phase _ => g.advance phase
  | _ => g

/-- The phase after the notices. -/
def hearAll (g : GamePhase) (ns : List Notice) : GamePhase :=
  ns.foldl hear g

/-- The phase at the first `takeTurn` of the notices. -/
def atTurn (g : GamePhase) : List Notice → Option GamePhase
  | [] => none
  | n :: rest => if n = .takeTurn then some g else (g.hear n).atTurn rest

@[simp] theorem hearAll_cons : g.hearAll (n :: ns) = (g.hear n).hearAll ns := rfl

theorem hearAll_append (g : GamePhase) (ns more : List Notice) :
    g.hearAll (ns ++ more) = (g.hearAll ns).hearAll more := by
  simp [hearAll]

theorem atTurn_append (g : GamePhase) (ns more : List Notice) :
    g.atTurn (ns ++ more) = (g.atTurn ns).or ((g.hearAll ns).atTurn more) := by
  induction ns generalizing g with
  | nil => rfl
  | cons n rest ih =>
    rw [List.cons_append, atTurn, atTurn]
    split
    · rfl
    · exact ih _

theorem atTurn_eq_none (g : GamePhase) (h : .takeTurn ∉ ns) : g.atTurn ns = none := by
  induction ns generalizing g with
  | nil => rfl
  | cons n rest ih =>
    rw [List.mem_cons, not_or] at h
    rw [atTurn, if_neg (Ne.symm h.1)]
    exact ih _ h.2

theorem takeTurn_mem_of_atTurn {phase : GamePhase} (h : g.atTurn ns = some phase) :
    .takeTurn ∈ ns := by
  by_contra missing
  rw [g.atTurn_eq_none missing] at h
  cases h

/-- Talk keeps the phase. -/
theorem hear_of_isTalk (talk : n.isTalk = true) : g.hear n = g := by
  cases n <;> first | rfl | cases talk

theorem hearAll_filter (g : GamePhase) (ns : List Notice) :
    g.hearAll (ns.filter (!·.isTalk)) = g.hearAll ns := by
  induction ns generalizing g with
  | nil => rfl
  | cons n rest ih =>
    cases talk : n.isTalk with
    | true =>
      rw [List.filter_cons_of_neg (by rw [talk]; decide), hearAll_cons, hear_of_isTalk talk]
      exact ih g
    | false =>
      rw [List.filter_cons_of_pos (by rw [talk]; decide)]
      exact ih _

theorem atTurn_filter (g : GamePhase) (ns : List Notice) :
    g.atTurn (ns.filter (!·.isTalk)) = g.atTurn ns := by
  induction ns generalizing g with
  | nil => rfl
  | cons n rest ih =>
    cases talk : n.isTalk with
    | true =>
      have other : n ≠ .takeTurn := by
        rintro rfl
        cases talk
      rw [List.filter_cons_of_neg (by rw [talk]; decide), atTurn, if_neg other,
        hear_of_isTalk talk]
      exact ih g
    | false => rw [List.filter_cons_of_pos (by rw [talk]; decide), atTurn, atTurn, ih]

/-- The rank of the phase does not fall. -/
theorem rank_le_hear (g : GamePhase) (n : Notice) : g.rank ≤ (g.hear n).rank := by
  cases n <;> simp only [hear, rank_advance] <;> omega

theorem rank_le_hearAll (g : GamePhase) (ns : List Notice) : g.rank ≤ (g.hearAll ns).rank := by
  induction ns generalizing g with
  | nil => exact Nat.le_refl _
  | cons n rest ih => exact Nat.le_trans (g.rank_le_hear n) (ih _)

theorem rank_injective {a b : GamePhase} (h : a.rank = b.rank) : a = b := by
  cases a <;> cases b <;> first | rfl | cases h

/-- `gameOver` has the highest rank. -/
theorem eq_gameOver_of_rank_le (h : gameOver.rank ≤ g.rank) : g = .gameOver := by
  cases g <;> first | rfl | exact absurd h (by decide)

/-- `advance` to another phase comes to `gameOver` only from there. -/
theorem eq_gameOver_of_advance {next : GamePhase} (h : g.advance next = .gameOver)
    (other : next ≠ .gameOver) : g = .gameOver := by
  unfold advance at h
  split at h
  · exact absurd h other
  · exact h

/-- If all the notices keep the phase, the first one does. -/
theorem hear_eq_of_hearAll_eq (h : g.hearAll (n :: ns) = g) : g.hear n = g := by
  have first := g.rank_le_hear n
  have rest := (g.hear n).rank_le_hearAll ns
  rw [hearAll_cons] at h
  rw [h] at rest
  exact rank_injective (Nat.le_antisymm rest first)

end GamePhase

/-! ## Views -/

namespace View

theorem game_apply (v : View) (n : Notice) : (v.apply n).1.game = v.game.hear n := by
  cases n with
  | phaseChanged phase roster =>
    cases roster <;> simp only [apply, enterPhase, GamePhase.hear] <;> split <;> rfl
  | _ => rfl

theorem myTurn_apply (v : View) (n : Notice) :
    (v.apply n).1.myTurn =
      match n with
      | .takeTurn => true
      | .phaseChanged .gameOver _ | .disconnected _ => false
      | _ => v.myTurn := by
  cases n with
  | phaseChanged phase roster =>
    cases roster <;> cases phase <;> rfl
  | _ => rfl

/-- What `route` of `v` does to phase and turn with this intent: both stay, or a move that fits the
phase ends a turn that the view had. -/
inductive Routed (v : View) : Intent → View → Prop
  | plain {intent : Intent} {w : View} (game : w.game = v.game) (turn : w.myTurn = v.myTurn)
      (only : ∀ r, intent = .send r → r.isMove = false) : Routed v intent w
  /-- A move, made with the turn that is given away. -/
  | move {r : Request} {w : View} (game : w.game = v.game) (had : v.myTurn = true)
      (spent : w.myTurn = false) (fits : r.fits v.game = true) : Routed v (.send r) w

variable {v w : View} {intent : Intent}

theorem Routed.refl (only : ∀ r, intent = .send r → r.isMove = false) : Routed v intent v :=
  .plain rfl rfl only

theorem route_routed {line : String} (h : v.route line = .ok (intent, w)) :
    Routed v intent w := by
  cases route_typed h with
  | keeps silent => exact .refl fun r sent => absurd sent (silent r)
  | @sends r allowed =>
    cases r with
    | intro name ready => exact allowed.elim
    | chooseJob job =>
      obtain ⟨select, had, chosen⟩ := allowed
      exact .move rfl had rfl (by simp [Request.fits, select, chosen])
    | act action name =>
      obtain ⟨main, had, -⟩ := allowed
      exact .move rfl had rfl (by simp [Request.fits, main])
    | ready | unready | listPlayers | listStats | chat text =>
      exact .plain rfl rfl (by simp [Request.isMove])

end View

end Skirmish
