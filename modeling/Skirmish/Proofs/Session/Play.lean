import Skirmish.Proofs.Session.Accounted
import Skirmish.Proofs.Session.Transcript
import Skirmish.Proofs.Turns.Round

/-!
# What can happen in a game

In a game, an operation does nothing, or it changes one living player and passes the turn (`Plays`).
The change is a job, a health or a forfeit (`Touches`). Then `advanceSelect` or `advanceMain`
follows, or the turn stays, or the game ends (`Passes`). All else about games follows from these
three.

Results:

* `perform_plays`: every operation in a game `Plays`;
* `Plays.roster_cases`: at most one player changes, and that one lived;
* `Plays.fades`: the seats stay, and nobody is raised;
* `Plays.get?_of_dead`: the dead do not change;
* `Plays.eq_of_gameOver`: `gameOver` keeps the session.
-/

namespace Skirmish.Session

variable {δ : Type} {s u : Session δ} {id : PlayerId} {p : Player} {f : Standing → Standing}
  {step next : Step δ}

/-! ## Moves -/

/-- The changes that an operation can make to the standing of the player `id`. -/
inductive Touches (s : Session δ) (id : PlayerId) : (Standing → Standing) → Prop
  | chooses {job : Job} (select : s.game = .characterSelect) (holder : s.turns.holder = some id)
      (real : job ≠ .unassigned) : Touches s id ({ · with job, ready := true })
  | suffers (main : s.game = .main) (delta : Int32) : Touches s id (·.change delta)
  | forfeits : Touches s id Standing.forfeit

/-- What follows such a change: `advanceSelect`, `advanceMain`, `finish` or nothing. -/
inductive Passes (u : Session δ) (id : PlayerId) : Step δ → Prop
  /-- `id` is the holder in `characterSelect`. -/
  | walks (select : u.game = .characterSelect) (holder : u.turns.holder = some id) :
      Passes u id u.advanceSelect
  /-- `main`, after an action or a forfeit of the holder. -/
  | rounds (main : u.game = .main) : Passes u id u.advanceMain
  /-- `main`, after a forfeit without the turn that leaves at most one player alive. -/
  | ends (main : u.game = .main) (few : u.roster.aliveCount ≤ 1) :
      Passes u id (u.finish u.roster.survivor?)
  /-- `id` is not the holder. -/
  | stays (other : u.turns.holder ≠ some id) : Passes u id (u, [])

/-- All that an operation does to a session that is `inProgress`. -/
inductive Plays (s : Session δ) (step : Step δ) : Prop
  /-- The session is kept, and every effect `isAside`. -/
  | rests (same : step.1 = s) (aside : ∀ e ∈ step.2, e.isAside = true)
  /-- `Touches` a living player, tells talk and healths only, and then `Passes` the turn on. -/
  | moves {id : PlayerId} {p : Player} {f : Standing → Standing} {dice : δ} {told : List Effect}
      {next : Step δ} (playing : s.game = .characterSelect ∨ s.game = .main)
      (found : s.roster.get? id = some p) (alive : p.alive = true) (touches : s.Touches id f)
      (tells : ∀ e ∈ told, e.isTalk = true ∨ e.isHealth = true)
      (passes : Passes { s with roster := s.roster.update id f, dice } id next)
      (eq : step = (next.1, told ++ next.2))

/-! ## Operations -/

theorem isAside_of_talk {es : List Effect} (talk : news es = []) :
    ∀ e ∈ es, e.isAside = true := by
  intro e he
  have silent : e.isTalk = true := by simpa using List.filter_eq_nil_iff.mp talk e he
  rw [Effect.isAside, silent, Bool.true_or]

theorem isAside_of_refusal (why : Refusal) (id : PlayerId) :
    ∀ e ∈ why.effects id, e.isAside = true := by
  intro e he
  rcases refusal_cases why id with eq | ⟨reason, eq⟩
  · rw [eq] at he
    cases he
  · rw [eq, List.mem_cons, List.mem_singleton] at he
    rcases he with rfl | rfl <;> rfl

theorem tells_announce (text : String) :
    ∀ e ∈ [Effect.announce text], e.isTalk = true ∨ e.isHealth = true := by
  simp

theorem tells_health (text name : String) (health : Int32) :
    ∀ e ∈ [Effect.announce text, .broadcast (.healthChanged name health)],
      e.isTalk = true ∨ e.isHealth = true := by
  simp [Effect.isHealth]

theorem opened_of_inProgress (started : s.connection = .inProgress) : s.opened = s := by
  cases s
  cases started
  rfl

theorem request_plays [Dice δ] (h : Orderly s) (started : s.connection = .inProgress)
    {r : Request} (ok : s.request id r = .ok step) : s.Plays step := by
  cases r with
  | intro name ready => exact absurd started (register_eq_ok_iff.mp ok).1
  | ready | unready => exact absurd started (setReady_eq_ok_iff.mp ok).1
  | listPlayers | listStats | chat =>
    obtain ⟨same, talk⟩ := request_of_isTalk rfl ok
    exact .rests same (isAside_of_talk talk)
  | chooseJob job =>
    obtain ⟨select, real, holder, p, found, rfl⟩ := chooseJob_eq_ok_iff.mp ok
    obtain ⟨q, there, alive⟩ := h.holder_alive id holder
    rw [found, Option.some.injEq] at there
    subst there
    exact .moves (.inl select) found alive (.chooses select holder real) (tells_announce _)
      (.walks select holder) rfl
  | act action name =>
    obtain ⟨main, holder, actor, other, p, acts, target, found, rfl⟩ := takeAction_eq_ok_iff.mp ok
    have alive : p.alive = true := alive_of_target h holder target found
    rw [Roster.update_resolve found]
    exact .moves (.inr main) found alive (.suffers main _) (tells_health _ _ _) (.rounds main) rfl

/-- `afterForfeit` is one of the cases of `Passes`. -/
theorem afterForfeit_passes (playing : u.game = .characterSelect ∨ u.game = .main) :
    Passes u id (u.afterForfeit id) := by
  unfold afterForfeit
  split
  · rename_i select
    split
    · exact .walks select (by simpa [Turns.isHolder] using ‹u.turns.isHolder id = true›)
    · exact .stays (by simpa [Turns.isHolder] using ‹¬u.turns.isHolder id = true›)
  · rename_i main
    split
    · exact .rounds main
    · rename_i other
      split
      · exact .ends main ‹_›
      · exact .stays (by simpa [Turns.isHolder] using other)
  · rename_i pending
    simp [pending] at playing
  · rename_i ended
    simp [ended] at playing

theorem Orderly.playing_of_inProgress (h : Orderly s) (started : s.connection = .inProgress)
    (going : s.game ≠ .gameOver) : s.game = .characterSelect ∨ s.game = .main := by
  have left := h.started_iff.mp started
  cases game : s.game with
  | pending => exact absurd game left
  | characterSelect => exact .inl rfl
  | main => exact .inr rfl
  | gameOver => exact absurd game going

theorem disconnect_plays (h : Orderly s) (started : s.connection = .inProgress) (id : PlayerId) :
    s.Plays (s.disconnect id) := by
  rcases s.disconnect_cases id with ⟨eq, -⟩ | ⟨p, found, ⟨lobby, -⟩ | ⟨-, going, alive, eq⟩⟩
  · rw [eq]
    exact .rests rfl (by simp)
  · exact absurd started lobby
  · have playing := h.playing_of_inProgress started going
    have passes : Passes (s.forfeited id) id ((s.forfeited id).afterForfeit id) :=
      afterForfeit_passes playing
    rw [eq]
    exact .moves playing found alive .forfeits (tells_health _ _ _) passes rfl

/-- Every operation of an `Orderly` session that is `inProgress` is one of the cases of `Plays`. -/
theorem perform_plays [Dice δ] (h : Orderly s) (started : s.connection = .inProgress) (op : Op) :
    s.Plays (s.perform op) := by
  refine perform_elim (motive := s.Plays) ?_ (request_plays h started) ?_ ?_ ?_
    (disconnect_plays h started) op
  · exact .rests (opened_of_inProgress started) (by simp)
  · exact fun why id => .rests rfl (isAside_of_refusal why id)
  · exact .rests rfl (by simp)
  · intro text
    refine .rests rfl (isAside_of_talk ?_)
    rcases serverChat_cases text with eq | eq <;> rw [eq] <;> simp

/-! ## What stays as it is -/

theorem Passes.roster_eq (h : Passes u id next) : next.1.roster = u.roster := by
  cases h with
  | walks select holder => exact roster_advanceSelect u
  | rounds main => exact roster_advanceMain u
  | ends main few => rfl
  | stays other => rfl

/-- The roster stays, or one living player is changed as `Touches` says. -/
theorem Plays.roster_cases (h : s.Plays step) :
    step.1.roster = s.roster ∨
      ∃ id p f, s.roster.get? id = some p ∧ p.alive = true ∧ s.Touches id f ∧
        step.1.roster = s.roster.update id f := by
  cases h with
  | rests same => exact .inl (by rw [same])
  | moves playing found alive touches tells passes eq =>
    refine .inr ⟨_, _, _, found, alive, touches, ?_⟩
    rw [eq, passes.roster_eq]

/-- Ids and names stay in order, and nobody who is dead is alive afterwards. -/
theorem Plays.fades (h : s.Plays step) : s.roster.Fades step.1.roster := by
  rcases h.roster_cases with same | ⟨id, p, f, found, alive, -, changed⟩
  · rw [same]
    exact .refl _
  · rw [changed]
    exact Roster.fades_update found alive f

/-- In `gameOver` the session stays. -/
theorem Plays.eq_of_gameOver (h : s.Plays step) (ended : s.game = .gameOver) : step.1 = s := by
  cases h with
  | rests same => exact same
  | moves playing => simp [ended] at playing

/-- A dead player stays as it is. -/
theorem Plays.get?_of_dead (h : s.Plays step) (found : s.roster.get? id = some p)
    (dead : p.alive = false) : step.1.roster.get? id = some p := by
  rcases h.roster_cases with same | ⟨other, q, f, there, alive, -, changed⟩
  · rw [same, found]
  · have differs : id ≠ other := by
      rintro rfl
      rw [found, Option.some.injEq] at there
      rw [← there, dead] at alive
      cases alive
    rw [changed, Roster.get?_update, found, Option.map_some, if_neg differs]

end Skirmish.Session
