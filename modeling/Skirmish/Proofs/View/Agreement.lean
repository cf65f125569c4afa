import Skirmish.Proofs.View.Replica

/-!
# When a view agrees with the session

`Agrees s id v`: the view `v` of the client of `id` has the turn, both phases, the own player and,
from `main` on, the roster as the session has them. The client changes its view when it sends a
request, before the session handles it, so in between the view only `Expects` what the operation
will do.

Results:

* `Expects.agrees`: a view that `Expects` an operation `Agrees` after its notices;
* `Agrees.granted`: a request that the view `Allows` is granted;
* `Agrees.expects`, `Agrees.expects_sent`: a view that `Agrees` then `Expects` the operations of
  others, and what it sends itself;
* `expects_connected`: the view of a client that joins `Expects` its `intro`.
-/

namespace Skirmish

open Session

variable {δ : Type} {s : Session δ} {step : Step δ} {id j : PlayerId} {v : View} {roster : Roster}
  {es : List Effect}

/-! ## Notices to one connection -/

theorem Snapshot.hearAll_noticesFor (discreet : Discreet es) (m : Snapshot) (j : PlayerId) :
    m.hearAll (noticesFor j es) = m.hearAll (broadcasts es) := by
  induction es generalizing m with
  | nil => rfl
  | cons e rest ih =>
    have later : Discreet rest := discreet.tail
    cases e with
    | broadcast n => exact ih later (m.hear n)
    | unicast recipient n =>
      have personal : n.isPersonal = true := discreet recipient n List.mem_cons_self
      rw [noticesFor_unicast]
      split
      · rw [hearAll_cons, hear_of_isPersonal personal]
        exact ih later m
      · exact ih later m
    | close other => exact ih later m

/-- A notice that is not personal reaches `j` iff it is broadcast. -/
theorem mem_noticesFor_iff (discreet : Discreet es) {n : Notice} (common : n.isPersonal = false)
    (j : PlayerId) : n ∈ noticesFor j es ↔ n ∈ broadcasts es := by
  simp only [noticesFor, broadcasts, List.mem_filterMap]
  refine exists_congr fun e => and_congr_right fun he => ?_
  cases e with
  | broadcast n => rfl
  | unicast recipient other =>
    have differs : other ≠ n := by
      rintro rfl
      rw [discreet recipient other he] at common
      cases common
    simp [Effect.notice?, Effect.toAll?, differs]
  | close other => simp [Effect.notice?, Effect.toAll?]

/-! ## Agreement -/

/-- The view has the turn, the phases, the own player and the rows of the session. -/
structure Agrees (s : Session δ) (id : PlayerId) (v : View) : Prop where
  me : s.roster.Knows id v.me
  turn : v.myTurn = true ↔ s.turns.holder = some id
  game : v.game = s.game
  started : v.inProgress = true ↔ s.connection = .inProgress
  rows : s.Replicates v.roster

/-- What `v` must have so that the notices of `step` for `j` make it agree. `roster` is that of `s`
with what the operation changes without a notice. -/
structure Expects (s : Session δ) (roster : Roster) (step : Step δ) (j : PlayerId) (v : View) :
    Prop where
  me : roster.Knows j v.me
  had : v.myTurn = true → s.turns.holder = some j
  /-- Before its notices `v` has the turn iff `j` is the holder both in `s` and in `step.1`. -/
  keeps : step.1.game ≠ .gameOver →
    (v.myTurn = true ↔ s.turns.holder = some j ∧ step.1.turns.holder = some j)
  game : v.game = s.game
  started : v.inProgress = true ↔ s.connection = .inProgress
  rows : s.Replicates v.roster

theorem Expects.turn (h : Expects s roster step j v) (orderly : Orderly s)
    (relayed : Relayed id s step) :
    (v.hearAll (noticesFor j step.2)).myTurn = true ↔ step.1.turns.holder = some j := by
  have post := relayed.post j
  have told : .takeTurn ∈ noticesFor j step.2 ↔
      step.1.turns.holder = some j ∧ s.turns.holder ≠ some j := by
    rw [← List.count_pos_iff, post.turns]
    split <;> simp_all
  have phase : v.game.hearAll (noticesFor j step.2) = step.1.game := by rw [h.game, post.phase]
  by_cases ended : step.1.game = .gameOver
  · -- nobody has the turn, and nobody is told that it has
    have none := relayed.orderly.holder_eq_none (.inr ended)
    have lost : (v.hearAll (noticesFor j step.2)).myTurn = false := by
      apply View.myTurn_hearAll_of_ended
      · rw [told, none]
        simp
      · rw [phase, ended]
      · intro ended
        have idle := orderly.holder_eq_none (.inr (h.game ▸ ended))
        cases turn : v.myTurn with
        | false => rfl
        | true =>
          rw [h.had turn] at idle
          cases idle
    simp [lost, none]
  · rw [View.myTurn_hearAll (by rw [phase]; exact ended) post.stays, h.keeps ended, told]
    by_cases before : s.turns.holder = some j <;> simp [before]

theorem Expects.agrees (h : Expects s roster step j v) (orderly : Orderly s)
    (relayed : Relayed id s step) (quietly : Quietly s roster)
    (told : Accounted { s with roster } step) :
    Agrees step.1 j (v.hearAll (noticesFor j step.2)) := by
  have discreet : Discreet step.2 := fun _ _ => relayed.isPersonal_of_unicast
  refine ⟨?_, h.turn orderly relayed, ?_, ?_, ?_⟩
  · rw [View.me_hearAll, Snapshot.hearAll_noticesFor discreet]
    exact Account.knows told h.me
  · rw [View.game_hearAll, h.game, (relayed.post j).phase]
  · have left (playing : s.game ≠ .pending) : step.1.game ≠ .pending := fun back =>
      playing (relayed.pending_of_pending back)
    rw [View.inProgress_hearAll, mem_noticesFor_iff discreet rfl,
      Account.gameStarted_mem_iff told, h.started, orderly.started_iff,
      relayed.orderly.started_iff]
    tauto
  · rw [(View.follows_noticesFor v j step.2).roster_eq discreet]
    exact Reported.replicates ⟨discreet, roster, quietly, told⟩ h.rows

/-! ## Requests -/

namespace View

@[simp] theorem myTurn_sent_of_move {r : Request} (move : r.isMove = true) (v : View) :
    (v.sent r).myTurn = false := by
  cases r <;> first | rfl | cases move

theorem myTurn_sent_of_not_move {r : Request} (plain : r.isMove = false) (v : View) :
    (v.sent r).myTurn = v.myTurn := by
  cases r <;> first | rfl | cases plain

end View

/-- `View.sent` changes the own player as the request changes its player before any notice. -/
theorem Roster.Prepared.knows_sent {r : Roster} {req : Request}
    (prepared : r.Prepared id req roster) (allowed : v.Allows req) (known : r.Knows id v.me) :
    roster.Knows id (v.sent req).me := by
  cases prepared with
  | joins => exact allowed.elim
  | notes =>
    obtain ⟨p, found, eq⟩ := known
    refine ⟨p.mapStanding req.noted, by rw [get?_update, found]; simp, ?_⟩
    cases req <;> simp [View.sent, View.setReady, View.chooseJob, View.endTurn, ← eq,
      Player.snapshot, Player.mapStanding, Request.noted]

namespace Agrees

/-- A request that a view in agreement `Allows` is granted. -/
theorem granted [Dice δ] (h : Agrees s id v) (orderly : Orderly s) (vital : s.roster.Vital)
    {r : Request} (allowed : v.Allows r) : ∃ step, s.request id r = .ok step := by
  obtain ⟨p, found, -⟩ := h.me
  have lobby (waiting : v.inProgress = false) : s.connection ≠ .inProgress := fun started => by
    rw [h.started.mpr started] at waiting
    cases waiting
  cases r with
  | intro name ready => exact allowed.elim
  | ready | unready => exact ⟨_, setReady_eq_ok_iff.mpr ⟨lobby allowed, p, found, rfl⟩⟩
  | listPlayers => exact ⟨_, playerList_eq_ok_iff.mpr ⟨⟨p, found⟩, rfl⟩⟩
  | listStats => exact ⟨_, playerStats_eq_ok_iff.mpr ⟨⟨p, found⟩, rfl⟩⟩
  | chat text => exact ⟨_, chat_eq_ok_iff.mpr ⟨p, found, rfl⟩⟩
  | chooseJob job =>
    obtain ⟨select, turn, chosen⟩ := allowed
    exact (chooseJob_isOk_iff orderly).mpr ⟨h.game ▸ select, chosen, h.turn.mp turn⟩
  | act action name =>
    obtain ⟨main, turn, meant⟩ := allowed
    have late : s.game = .main := h.game ▸ main
    rw [vital.living?_isSome_iff (h.rows (.inl late))] at meant
    exact (takeAction_isOk_iff orderly action).mpr ⟨late, h.turn.mp turn, meant⟩

/-- A view that `Agrees` also `Expects` an operation of another player. -/
theorem expects (h : Agrees s j v) (orderly : Orderly s) (relayed : Relayed id s step)
    (other : j ≠ id) (me : roster.Knows j v.me) : Expects s roster step j v where
  me := me
  had := h.turn.mp
  keeps going := by
    rw [h.turn]
    refine ⟨fun holder => ⟨holder, ?_⟩, fun both => both.1⟩
    by_contra lost
    rcases relayed.giver orderly holder lost with own | ended
    · exact other own
    · exact going ended
  game := h.game
  started := h.started
  rows := h.rows

theorem expects_sent [Dice δ] (h : Agrees s id v) (orderly : Orderly s) {r : Request}
    (allowed : v.Allows r) (ok : s.request id r = .ok step)
    (prepared : s.roster.Prepared id r roster) : Expects s roster step id (v.sent r) where
  me := prepared.knows_sent allowed h.me
  had turn := by
    cases move : r.isMove with
    | true => simp [move] at turn
    | false =>
      rw [View.myTurn_sent_of_not_move move] at turn
      exact h.turn.mp turn
  keeps going := by
    cases move : r.isMove with
    | true =>
      obtain ⟨-, spent⟩ := holder_of_move orderly move ok
      simp [move, spent]
    | false =>
      rw [View.myTurn_sent_of_not_move move, h.turn]
      refine ⟨fun holder => ⟨holder, ?_⟩, fun both => both.1⟩
      rw [turns_of_isMove_eq_false orderly (orderly.ne_pending holder) move ok, holder]
  game := by rw [View.game_sent, h.game]
  started := by rw [View.inProgress_sent, h.started]
  rows := by
    rw [View.roster_sent]
    exact h.rows

end Agrees

/-- The view of a new client `Expects` its `intro`, when that is granted. -/
theorem expects_connected [Dice δ] (orderly : Orderly s) {name : String}
    (ok : s.request id (.intro name false) = .ok step)
    (prepared : s.roster.Prepared id (.intro name false) roster) :
    Expects s roster step id (View.new name).connected := by
  have lobby : s.connection ≠ .inProgress := (register_eq_ok_iff.mp ok).1
  have pending := orderly.pending_of_lobby lobby
  have idle := orderly.holder_eq_none (.inl pending)
  have waiting : (View.new name).connected.inProgress = false := rfl
  have turn : (View.new name).connected.myTurn = false := rfl
  refine ⟨?_, by simp [turn], by simp [turn, idle], pending.symm, by simp [waiting, lobby], ?_⟩
  · cases prepared with
    | joins joined => exact ⟨_, by rw [Roster.get?_of_register joined, if_pos rfl], rfl⟩
    | notes known => exact absurd rfl (known name false)
  · intro late
    simp [pending] at late

/-- A refusal of an `intro` closes the connection, unless the sender already has a player in the
lobby. -/
theorem closes_of_intro [Dice δ] {name : String} {ready : Bool} {why : Refusal}
    (refused : s.request id (.intro name ready) = .error why) :
    why.closes = true ∨ s.connection ≠ .inProgress ∧ (s.roster.get? id).isSome = true := by
  rcases register_eq_error_iff.mp refused with ⟨-, rfl⟩ | ⟨lobby, reason, unseated, rfl⟩
  · exact .inl rfl
  · rcases Roster.register_error_cases unseated with
      ⟨-, known⟩ | ⟨rfl, -⟩ | ⟨rfl, -⟩ | ⟨rfl, -⟩
    · exact .inr ⟨lobby, known⟩
    all_goals exact .inl rfl

end Skirmish
