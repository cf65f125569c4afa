import Mathlib.Data.Bool.Basic
import Skirmish.Proofs.View
import Skirmish.Proofs.View.InPlace

/-!
# A move for a turn

`route` lets a move through only while `my_turn` is set, and `end_turn` clears it with the move;
only `takeTurn` sets it again. So for any notices at any time, and any lines typed in between, a
view sends no more moves than it gets turns.

Results:

* `spends_happen`: what one happening does to the turn;
* `countP_isMove_le`: moves and turns of a history, from any view;
* `history_suffix`: the end of a history is a history;
* `countP_isMove_le_countP_isTurn`: the counting law of all histories, and the lines that change
  nothing.
-/

namespace Skirmish.View

/-- A connection, a notice or a typed line. -/
inductive Happening
  /-- The server is there. -/
  | connects
  | hears (n : Notice)
  | types (line : String)
deriving DecidableEq, Repr

/-- A happening with the result of its line. -/
inductive Note
  | connected
  | heard (n : Notice)
  | typed (line : String) (answer : Except InputError Intent)

/-- Whether a line sent a move. -/
def Note.isMove : Note → Bool
  | .typed _ (.ok (.send r)) => r.isMove
  | _ => false

/-- Whether the notice is `takeTurn`. -/
def Note.isTurn : Note → Bool
  | .heard .takeTurn => true
  | _ => false

/-- The view after a happening, and its note. -/
def happen (v : View) : Happening → View × Note
  | .connects => (v.connected, .connected)
  | .hears n => ((v.apply n).1, .heard n)
  | .types line => ((v.routeInPlace line).2, .typed line (v.routeInPlace line).1)

/-- The notes of the happenings in order. -/
def history (v : View) : List Happening → List Note
  | [] => []
  | h :: rest => (v.happen h).2 :: (v.happen h).1.history rest

/-- The turn over one happening from `v` to `w`: `takeTurn` gives it, a move needs it and ends it,
and nothing else sets it. -/
inductive Spends (v : View) (note : Note) (w : View) : Prop
  | given (turn : note.isTurn = true) (still : note.isMove = false)
  | spent (move : note.isMove = true) (had : v.myTurn = true) (gone : w.myTurn = false)
  | kept (still : note.isMove = false) (had : w.myTurn = true → v.myTurn = true)

variable {v : View} {note : Note} {before between after later told : List Note}
  {happenings : List Happening}

theorem Note.isTurn_of_isMove (move : note.isMove = true) : note.isTurn = false := by
  cases note with
  | connected | typed => rfl
  | heard n => cases move

theorem spends_hear (v : View) (n : Notice) : v.Spends (.heard n) (v.apply n).1 := by
  by_cases turn : n = .takeTurn
  · subst turn
    exact .given rfl rfl
  · refine .kept rfl fun had => ?_
    rw [myTurn_apply] at had
    split at had
    · exact absurd rfl turn
    · cases had
    · cases had
    · exact had

theorem spends_type (v : View) (line : String) :
    v.Spends (.typed line (v.routeInPlace line).1) (v.routeInPlace line).2 := by
  rw [routeInPlace_eq]
  cases routed : v.route line with
  | error why => exact .kept rfl id
  | ok out =>
    obtain ⟨intent, w⟩ := out
    cases route_routed routed with
    | plain _ turn only =>
      refine .kept ?_ fun had => turn ▸ had
      cases intent with
      | send r => exact only r rfl
      | _ => rfl
    | move _ had spent fits => exact .spent (Request.isMove_of_fits fits) had spent

theorem spends_happen (v : View) (h : Happening) : v.Spends (v.happen h).2 (v.happen h).1 := by
  cases h with
  | connects => exact .kept rfl id
  | hears n => exact v.spends_hear n
  | types line => exact v.spends_type line

/-- In the first part of any history, moves are at most the turns, and one more if the view starts
with the turn. -/
theorem countP_isMove_le (v : View) (happenings : List Happening)
    (part : told <+: v.history happenings) :
    told.countP Note.isMove ≤ told.countP Note.isTurn + v.myTurn.toNat := by
  -- the turn that a view has already is what its next move is paid with
  induction happenings generalizing v told with
  | nil =>
    rw [List.prefix_nil.mp part]
    exact Nat.zero_le _
  | cons h rest ih =>
    rcases told with _ | ⟨note, told⟩
    · exact Nat.zero_le _
    obtain ⟨rfl, partLater⟩ := List.cons_prefix_cons.mp part
    have later := ih (v.happen h).1 partLater
    rw [List.countP_cons, List.countP_cons]
    cases v.spends_happen h with
    | given turn still =>
      have one := (v.happen h).1.myTurn.toNat_le
      simp only [turn, still, if_true, Bool.false_eq_true, if_false]
      omega
    | spent move had gone =>
      rw [move, had, Note.isTurn_of_isMove move]
      rw [gone] at later
      simpa using later
    | kept still had =>
      have less : (v.happen h).1.myTurn.toNat ≤ v.myTurn.toNat := Bool.toNat_le_toNat had
      simp only [still, Bool.false_eq_true, if_false]
      omega

/-- What follows a note in a history is the history of the view after it. -/
theorem history_suffix (eq : v.history happenings = before ++ note :: later) :
    ∃ (u : View) (h : Happening) (rest : List Happening),
      (u.happen h).2 = note ∧ (u.happen h).1.history rest = later := by
  induction before generalizing v happenings with
  | nil =>
    cases happenings with
    | nil => cases eq
    | cons h rest =>
      obtain ⟨now, then_⟩ := List.cons.inj eq
      exact ⟨v, h, rest, now, then_⟩
  | cons first before ih =>
    cases happenings with
    | nil => cases eq
    | cons h rest => exact ih (List.cons.inj eq).2

/-- Between two moves of a history there is a turn. -/
theorem exists_isTurn_between {e f : Note}
    (eq : v.history happenings = before ++ e :: between ++ f :: after) (first : e.isMove = true)
    (second : f.isMove = true) : ∃ t ∈ between, t.isTurn = true := by
  rw [List.append_assoc, List.cons_append] at eq
  obtain ⟨u, h, rest, rfl, later⟩ := history_suffix eq
  have gone : (u.happen h).1.myTurn = false := by
    cases u.spends_happen h with
    | given _ still | kept still _ =>
      rw [first] at still
      cases still
    | spent _ _ gone => exact gone
  -- from the view after the first move, the second one has to be paid with a new turn
  have part : between ++ [f] <+: (u.happen h).1.history rest :=
    later ▸ ⟨after, List.append_cons .. |>.symm⟩
  have count : between.countP Note.isMove + 1 ≤ between.countP Note.isTurn := by
    simpa [gone, second, Note.isTurn_of_isMove second] using
      (u.happen h).1.countP_isMove_le rest part
  exact List.countP_pos_iff.mp (Nat.zero_lt_of_lt count)

/-- For a new view and any happenings, each initial part of the history has at most as many moves as
turns, and there is a turn between any two moves. For any view and line, a result that `isIdle`
comes with the view unchanged. -/
theorem countP_isMove_le_countP_isTurn (name : String) (happenings : List Happening) :
    (∀ told, told <+: (new name).history happenings →
      told.countP Note.isMove ≤ told.countP Note.isTurn) ∧
    (∀ before between after e f,
      (new name).history happenings = before ++ e :: between ++ f :: after →
        e.isMove = true → f.isMove = true → ∃ t ∈ between, t.isTurn = true) ∧
    ∀ (v : View) (line : String), isIdle (v.routeInPlace line).1 = true →
      (v.routeInPlace line).2 = v :=
  ⟨fun _ part => (new name).countP_isMove_le happenings part,
    fun _ _ _ _ _ eq first second => exists_isTurn_between eq first second,
    fun _ _ idle => routeInPlace_of_isIdle idle⟩

/-- Two turns, in each of which two jobs are typed. -/
def twoTurns : List Happening :=
  [.connects, .types ".ready", .hears .gameStarted, .hears .takeTurn, .types ".1", .types ".2",
    .hears .takeTurn, .types ".Warrior", .types ".3"]

/-- `twoTurns` has two moves, and `.3` in a new view changes nothing. -/
theorem countP_isMove_le_countP_isTurn_twoTurns :
    ((new "A").history twoTurns).countP Note.isMove = 2 ∧
      ((new "A").history twoTurns).countP Note.isMove ≤
        ((new "A").history twoTurns).countP Note.isTurn ∧
      (∃ t ∈ [Note.typed ".2" (.error .notYourTurn), .heard .takeTurn], t.isTurn = true) ∧
      isIdle ((new "A").routeInPlace ".3").1 = true ∧
      ((new "A").routeInPlace ".3").2 = new "A" := by
  have ⟨counts, between, idle⟩ := countP_isMove_le_countP_isTurn "A" twoTurns
  refine ⟨by decide +kernel, counts _ List.prefix_rfl, ?_, by decide +kernel,
    idle _ _ (by decide +kernel)⟩
  exact between
    [.connected, .typed ".ready" (.ok (.send .ready)), .heard .gameStarted, .heard .takeTurn]
    [.typed ".2" (.error .notYourTurn), .heard .takeTurn] [.typed ".3" (.error .notYourTurn)]
    (.typed ".1" (.ok (.send (.chooseJob .wizard))))
    (.typed ".Warrior" (.ok (.send (.chooseJob .warrior))))
    rfl rfl rfl

end Skirmish.View
