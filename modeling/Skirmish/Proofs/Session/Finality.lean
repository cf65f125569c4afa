import Skirmish.Proofs.Session.Play
import Skirmish.Proofs.Session.Reported

/-!
# What is final

Nothing undoes the death of a player or `gameOver`.

A dead player keeps health, job and slot. The operation that ends a game broadcasts its result right
before `phaseChanged gameOver`: the name of the only player alive, or `Nobody wins.` if there is
none. Nobody is alive only if the last players left in `characterSelect`: in `main` at least two
live, and an operation kills at most one. After `gameOver` nothing changes.

Results:

* `perform_get?_of_dead`, `alive_iff_health_pos_of_run`: who is dead, for good;
* `Plays.declares`: the operation that ends a game ends with its result;
* `verdict_eq_wins`, `verdict_eq_nobody_iff`: the text of the result;
* `perform_eq_of_gameOver`, `perform_ends_with_result_of_run`: all of this after any run.
-/

namespace Skirmish

/-! ## How many live -/

namespace Roster

variable {r : Roster} {id : PlayerId} {p : Player} {f : Standing → Standing}

/-- `update` lowers `aliveCount` by at most one. -/
theorem aliveCount_le_update (found : r.get? id = some p) (alive : p.alive = true)
    (f : Standing → Standing) : r.aliveCount ≤ (r.update id f).aliveCount + 1 := by
  cases after : (f p.toStanding).alive with
  | false => exact Nat.le_of_eq (aliveCount_update_of_dies found alive after).symm
  | true =>
    -- the player comes through, so the change is one that leaves everybody alive or dead
    have same : f p.toStanding = { f p.toStanding with alive := p.alive } := by
      rw [alive, ← after]
    have kept : (r.update id fun st => { f p.toStanding with alive := st.alive }).aliveCount =
        r.aliveCount := aliveCount_update fun _ => rfl
    rw [update_congr (g := fun st => { f p.toStanding with alive := st.alive }) found same, kept]
    exact Nat.le_add_right ..

theorem exists_alive (somebody : 1 ≤ r.aliveCount) : ∃ p ∈ r.players, p.alive = true :=
  List.countP_pos_iff.mp somebody

end Roster

namespace Session

variable {δ : Type} {s u : Session δ} {id : PlayerId} {p : Player} {step next : Step δ}

/-! ## The dead -/

/-- A player that is not alive is in a game that is `inProgress`. -/
theorem started_of_dead (h : Orderly s) (found : s.roster.get? id = some p)
    (dead : p.alive = false) : s.connection = .inProgress := by
  refine h.started_iff.mpr fun lobby => ?_
  have alive := h.lobby_alive lobby p (Roster.mem_of_get? found)
  rw [dead] at alive
  cases alive

section Dead

variable [Dice δ]

theorem perform_get?_of_dead (h : Orderly s) (found : s.roster.get? id = some p)
    (dead : p.alive = false) (op : Op) : (s.perform op).1.roster.get? id = some p :=
  (perform_plays h (started_of_dead h found dead) op).get?_of_dead found dead

theorem run_get?_of_dead (h : Orderly s) (found : s.roster.get? id = some p)
    (dead : p.alive = false) (ops : List Op) : (s.run ops).1.roster.get? id = some p := by
  induction ops generalizing s with
  | nil => exact found
  | cons op rest ih => exact ih (h.perform op) (perform_get?_of_dead h found dead op)

/-- After every run a player is `alive` exactly if its `health` is positive, and `Snapshot.isAlive`
says the same. A player that is not alive is in the roster unchanged after every further run. -/
theorem alive_iff_health_pos_of_run (expected : Nat) (dice : δ) (ops : List Op) :
    let s := ((Session.new expected dice).run ops).1
    (∀ p ∈ s.roster.players, (p.alive = true ↔ 0 < p.health) ∧ p.snapshot.isAlive = p.alive) ∧
      ∀ id p, s.roster.get? id = some p → p.alive = false →
        ∀ more, (s.run more).1.roster.get? id = some p := by
  have fresh := Orderly.new expected dice
  have vital := vital_run fresh (vital_new expected dice) ops
  refine ⟨fun p hp => ⟨vital p hp, ?_⟩, fun id p found dead more => ?_⟩
  · have lives : p.alive = true ↔ 0 < p.health := vital p hp
    rw [Bool.eq_iff_iff, lives]
    exact decide_eq_true_iff
  · exact run_get?_of_dead (fresh.run ops) found dead more

end Dead

/-! ## The result -/

/-- The line of `finish` for the name of the winner. -/
def verdict : Option String → String
  | some name => name ++ " wins!"
  | none => "Nobody wins."

theorem finish_tells (s : Session δ) (winner : Option String) :
    (s.finish winner).2 = [.announce (verdict winner), .ended] := by
  cases winner <;> rfl

theorem verdict_eq_wins {r : Roster} (few : r.aliveCount ≤ 1) (hp : p ∈ r.players)
    (alive : p.alive = true) : verdict r.survivor? = p.name ++ " wins!" := by
  have one : r.aliveCount = 1 := by
    have := Roster.one_le_aliveCount hp alive
    omega
  rw [Roster.survivor?_of_one hp alive one]
  rfl

/-- The line of a winner is never that of nobody, since only one of them ends in an exclamation
mark. -/
theorem verdict_some_ne (name : String) : verdict (some name) ≠ verdict none := by
  intro same
  have chars := congrArg (fun line => line.toList.getLast?) same
  simp [verdict] at chars

theorem verdict_eq_nobody_iff {r : Roster} (few : r.aliveCount ≤ 1) :
    verdict r.survivor? = "Nobody wins." ↔ r.aliveCount = 0 := by
  constructor
  · intro nobody
    by_contra somebody
    obtain ⟨p, hp, alive⟩ := Roster.exists_alive (Nat.one_le_iff_ne_zero.mpr somebody)
    rw [verdict_eq_wins few hp alive] at nobody
    exact verdict_some_ne p.name nobody
  · intro dead
    rw [Roster.survivor?_of_none dead]
    rfl

/-- At most one player is alive after `step`, and its last two effects are the verdict and `ended`.
-/
structure Declares (step : Step δ) : Prop where
  few : step.1.roster.aliveCount ≤ 1
  tells : ∃ first, step.2 = first ++ [.announce (verdict step.1.roster.survivor?), .ended]

theorem Declares.of_finish (few : u.roster.aliveCount ≤ 1) :
    Declares (u.finish u.roster.survivor?) :=
  ⟨few, [], finish_tells u _⟩

theorem Declares.after (h : Declares step) (told : List Effect) :
    Declares (step.1, told ++ step.2) := by
  obtain ⟨first, eq⟩ := h.tells
  refine ⟨h.few, told ++ first, ?_⟩
  rw [List.append_assoc, ← eq]

theorem advanceMain_declares (main : u.game = .main) (ended : u.advanceMain.1.game = .gameOver) :
    Declares u.advanceMain := by
  rcases u.advanceMain_cases with ⟨p, -, -, -, -, eq⟩ | ⟨few, eq⟩ <;> rw [eq] at ended ⊢
  · cases main.symm.trans ended
  · exact .of_finish few

theorem advanceSelect_declares (select : u.game = .characterSelect)
    (ended : u.advanceSelect.1.game = .gameOver) : Declares u.advanceSelect := by
  rcases u.turns.advanceSelect_cases u.roster with ⟨p, -, -, -, eq⟩ | eq <;>
    simp only [advanceSelect, eq] at ended ⊢
  · cases select.symm.trans ended
  · have main : { u with game := u.game.advance .main }.game = .main := by
      rw [select]
      rfl
    exact (advanceMain_declares main ended).after [_]

theorem Passes.declares (h : Passes u id next) (going : u.game ≠ .gameOver)
    (ended : next.1.game = .gameOver) : Declares next := by
  cases h with
  | walks select holder => exact advanceSelect_declares select ended
  | rounds main => exact advanceMain_declares main ended
  | ends main few => exact .of_finish few
  | stays other => exact absurd ended going

/-- An operation that leads to `gameOver` `Declares` it. -/
theorem Plays.declares (h : s.Plays step) (going : s.game ≠ .gameOver)
    (ended : step.1.game = .gameOver) : Declares step := by
  cases h with
  | rests same =>
    rw [same] at ended
    exact absurd ended going
  | moves playing found alive touches tells passes eq =>
    rw [eq] at ended ⊢
    exact (passes.declares going ended).after _

/-- An operation in `main` leaves at least one player alive. -/
theorem Plays.one_alive (h : s.Plays step) (orderly : Orderly s) (main : s.game = .main) :
    1 ≤ step.1.roster.aliveCount := by
  have two := orderly.two_alive main
  rcases h.roster_cases with same | ⟨id, p, f, found, alive, -, changed⟩
  · rw [same]
    omega
  · have fewer := Roster.aliveCount_le_update found alive f
    rw [changed]
    omega

/-! ## The end -/

/-- An operation leads to `gameOver` only from `characterSelect` and `main`. -/
theorem Relayed.playing_of_ended (h : Relayed id s step) (going : s.game ≠ .gameOver)
    (ended : step.1.game = .gameOver) : s.game = .characterSelect ∨ s.game = .main := by
  obtain ⟨_, _, _, _, ⟨-, -, game⟩ | relay, -⟩ := h
  · exact absurd (game.symm.trans ended) going
  · cases relay with
    | gives phases told playing => simp [ended] at playing
    | ends phases told playing => exact playing

variable [Dice δ]

theorem playing_of_ended (h : Orderly s) (going : s.game ≠ .gameOver) (op : Op) :
    (s.perform op).1.game = .gameOver → s.game = .characterSelect ∨ s.game = .main := by
  refine perform_elim (motive := fun step => step.1.game = .gameOver →
    s.game = .characterSelect ∨ s.game = .main) ?_ ?_ ?_ ?_ ?_ ?_ op
  · exact fun ended => absurd ended going
  · exact fun ok => (request_relayed h ok).playing_of_ended going
  · exact fun _ _ ended => absurd ended going
  · exact fun ended => absurd ended going
  · exact fun _ ended => absurd ended going
  · exact fun id => (disconnect_relayed h id).playing_of_ended going

theorem perform_eq_of_gameOver (h : Orderly s) (ended : s.game = .gameOver) (op : Op) :
    (s.perform op).1 = s := by
  have started : s.connection = .inProgress := h.started_iff.mpr (by simp [ended])
  exact (perform_plays h started op).eq_of_gameOver ended

theorem run_eq_of_gameOver (h : Orderly s) (ended : s.game = .gameOver) (ops : List Op) :
    (s.run ops).1 = s := by
  induction ops with
  | nil => rfl
  | cons op rest ih =>
    show ((s.perform op).1.run rest).1 = s
    rw [perform_eq_of_gameOver h ended op, ih]

/-- If the effects of an operation end with `ended`, it is not among those before. -/
theorem ended_notMem_of_perform (h : Orderly s) {op : Op} {first : List Effect} {e : Effect}
    (tells : (s.perform op).2 = first ++ [e, .ended]) : .ended ∉ first := by
  intro early
  have told := perform_transcript h op
  rw [tells] at told
  obtain ⟨g, before, after⟩ := told.cut
  rw [before.gameOver_of_ended_mem early] at after
  have aside := after.isAside_of_gameOver .ended (by simp)
  cases aside

/-- If an operation after a run leads to `gameOver`, its effects end with one line and the only
`ended`, and at most one player is alive. The line is `name ++ " wins!"` for that player, and
`"Nobody wins."` exactly if nobody is alive, which happens only in `characterSelect`. In `gameOver`
every further run leaves the whole session as it is. -/
theorem perform_ends_with_result_of_run (expected : Nat) (dice : δ) (ops : List Op) :
    let s := ((Session.new expected dice).run ops).1
    (∀ op, s.game ≠ .gameOver → (s.perform op).1.game = .gameOver →
      let left := (s.perform op).1.roster
      ∃ first line, (s.perform op).2 = first ++ [.announce line, .ended] ∧ .ended ∉ first ∧
        left.aliveCount ≤ 1 ∧
        (∀ p ∈ left.players, p.alive = true → line = p.name ++ " wins!") ∧
        (line = "Nobody wins." ↔ left.aliveCount = 0) ∧
        (left.aliveCount = 0 → s.game = .characterSelect)) ∧
      (s.game = .gameOver → ∀ more, (s.run more).1 = s) := by
  intro s
  have orderly : Orderly s := (Orderly.new expected dice).run ops
  refine ⟨fun op going ended => ?_, fun finished more => run_eq_of_gameOver orderly finished more⟩
  have playing := playing_of_ended orderly going op ended
  have started : s.connection = .inProgress :=
    orderly.started_iff.mpr (by rcases playing with g | g <;> simp [g])
  have plays := perform_plays orderly started op
  obtain ⟨few, first, tells⟩ := plays.declares going ended
  refine ⟨first, _, tells, ended_notMem_of_perform orderly tells, few, ?_,
    verdict_eq_nobody_iff few, fun nobody => ?_⟩
  · exact fun p hp alive => verdict_eq_wins few hp alive
  · refine playing.resolve_right fun main => ?_
    have somebody := plays.one_alive orderly main
    omega

/-- A session of two in `characterSelect`; the first player is lost. -/
def deserted : List Op :=
  [.opened, .handle ⟨1⟩ (.intro "A" true), .handle ⟨2⟩ (.intro "B" true), .disconnect ⟨1⟩]

/-- The loss of the second player ends the game: nobody wins, and the session stays as it is. -/
theorem perform_ends_with_result_of_run_deserted :
    let s := ((Session.new 2 (⟨[]⟩ : Script)).run deserted).1
    let last := s.perform (.disconnect ⟨2⟩)
    let final := ((Session.new 2 (⟨[]⟩ : Script)).run (deserted ++ [.disconnect ⟨2⟩])).1
    (s.game ≠ .gameOver ∧ last.1.game = .gameOver) ∧
      (∃ first, last.2 = first ++ [.announce "Nobody wins.", .ended] ∧ .ended ∉ first) ∧
      final.game = .gameOver ∧ ∀ more, (final.run more).1 = final := by
  obtain ⟨ends, -⟩ := perform_ends_with_result_of_run 2 (⟨[]⟩ : Script) deserted
  obtain ⟨-, frozen⟩ :=
    perform_ends_with_result_of_run 2 (⟨[]⟩ : Script) (deserted ++ [.disconnect ⟨2⟩])
  have going : ((Session.new 2 (⟨[]⟩ : Script)).run deserted).1.game ≠ .gameOver := by
    decide +kernel
  have ended : (((Session.new 2 (⟨[]⟩ : Script)).run deserted).1.perform
      (.disconnect ⟨2⟩)).1.game = .gameOver := by
    decide +kernel
  have nobody : (((Session.new 2 (⟨[]⟩ : Script)).run deserted).1.perform
      (.disconnect ⟨2⟩)).1.roster.aliveCount = 0 := by
    decide +kernel
  have finished : ((Session.new 2 (⟨[]⟩ : Script)).run (deserted ++ [.disconnect ⟨2⟩])).1.game =
      .gameOver := by
    decide +kernel
  obtain ⟨first, line, tells, once, -, -, nobodyWins, -⟩ := ends _ going ended
  rw [nobodyWins.mpr nobody] at tells
  exact ⟨⟨going, ended⟩, ⟨first, tells, once⟩, finished, frozen finished⟩

end Session

end Skirmish
