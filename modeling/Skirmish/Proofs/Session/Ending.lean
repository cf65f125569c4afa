import Skirmish.Proofs.Session.Handover
import Skirmish.Proofs.Session.Transcript

/-!
# When the game ends

A game is to be over as soon as `aliveCount ≤ 1` (`Decided`). `advance_main` checks that, and so
does `disconnect` in `main`. In `characterSelect` nothing does: `disconnect` only calls
`advance_character_select`, and that only for the holder. So a disconnect of one of the last two
living players leaves the game on, if the other one holds the turn or comes later (`LeavesOne`).

Results:

* `Orderly.decided_iff`: only `characterSelect` can break `Decided`;
* `game_forfeited_iff`: whether a forfeit stays in `characterSelect`;
* `decided_perform_iff`: the operations that keep `Decided`;
* `decided_iff_of_run`: the runs that do.
-/

namespace Skirmish

/-- Somebody lives in a slot behind that of `id`. -/
def Roster.LivesBehind (r : Roster) (id : PlayerId) : Prop :=
  ∃ slot later, r.slot? id = some slot ∧ slot < later ∧ AliveAt r.players later

/-- `update id` changes no slot behind that of `id`. -/
theorem Roster.aliveAt_update_iff {r : Roster} {id : PlayerId} {f : Standing → Standing}
    {slot later : Nat} (own : r.slot? id = some slot) (behind : slot < later) :
    AliveAt (r.update id f).players later ↔ AliveAt r.players later := by
  have other {q : Player} (hq : r.players[later]? = some q) : q.id ≠ id := by
    intro same
    have there : r.slot? id = some later := Roster.slot?_eq_some_iff.mpr ⟨q, hq, same⟩
    rw [own, Option.some.injEq] at there
    omega
  rw [AliveAt, AliveAt, Roster.players_update, List.getElem?_map]
  cases here : r.players[later]? with
  | none => simp
  | some q => simp [if_neg (other here)]

namespace Session

variable {δ : Type} {s : Session δ} {id : PlayerId} {step : Step δ}

/-- A game in progress with at most one living player is in `gameOver`. -/
def Decided (s : Session δ) : Prop :=
  s.connection = .inProgress → s.roster.aliveCount ≤ 1 → s.game = .gameOver

/-- `s.LeavesOne op`: `op` is the disconnect of one of the two living players in `characterSelect`,
and either it does not hold the turn or the other one lives behind it. -/
inductive LeavesOne (s : Session δ) : Op → Prop
  | intro {id : PlayerId} {p : Player} (select : s.game = .characterSelect)
      (found : s.roster.get? id = some p) (alive : p.alive = true)
      (two : s.roster.aliveCount = 2)
      (goes : s.turns.holder ≠ some id ∨ s.roster.LivesBehind id) :
      LeavesOne s (.disconnect id)

theorem Orderly.decided_iff (h : Orderly s) :
    s.Decided ↔ (s.game = .characterSelect → 2 ≤ s.roster.aliveCount) := by
  constructor
  · intro decided select
    by_contra few
    have ended := decided (h.started_iff.mpr (by simp [select])) (by omega)
    rw [select] at ended
    cases ended
  · intro two started few
    have left := h.started_iff.mp started
    cases game : s.game with
    | pending => exact absurd game left
    | characterSelect =>
      have := two game
      omega
    | main =>
      have := h.two_alive game
      omega
    | gameOver => rfl

/-! ## Requests -/

/-- A game that starts has two or more living players. -/
theorem MayStart.two_alive (may : s.MayStart step) (h : Orderly s) (pending : s.game = .pending)
    (room : 2 ≤ s.roster.capacity) (select : step.1.game = .characterSelect) :
    2 ≤ step.1.roster.aliveCount := by
  rcases may with rfl | rfl
  · unfold tryStart at select ⊢
    split at select
    · rename_i can
      rw [if_pos can]
      have full : s.roster.capacity ≤ s.roster.players.length := by
        simp only [canStart, Roster.isFull, Bool.and_eq_true, decide_eq_true_eq] at can
        exact can.1.1.2
      have all : s.roster.aliveCount = s.roster.players.length :=
        List.countP_eq_length.mpr (h.lobby_alive pending)
      have same : s.start.1.roster.aliveCount = s.roster.aliveCount :=
        Roster.aliveCount_updateAll fun _ => rfl
      omega
    · rw [pending] at select
      cases select
  · rw [pending] at select
    cases select

theorem request_two_alive [Dice δ] (h : Orderly s) (decided : s.Decided)
    (room : 2 ≤ s.roster.capacity) {r : Request} (ok : s.request id r = .ok step)
    (select : step.1.game = .characterSelect) : 2 ≤ step.1.roster.aliveCount := by
  cases r with
  | intro name ready =>
    obtain ⟨lobby, roster, started, joins, may, rfl⟩ := register_cases ok
    obtain ⟨-, -, -, -, capacity, -⟩ := Roster.register_eq_ok_iff.mp joins
    have seats : 2 ≤ (s.joined roster).roster.capacity := by
      rw [joined, capacity]
      exact room
    exact may.two_alive (h.joined lobby joins) (h.pending_of_lobby lobby) seats select
  | ready | unready =>
    obtain ⟨lobby, line, started, may, rfl⟩ := setReady_cases ok
    refine may.two_alive (h.marked lobby id _) (h.pending_of_lobby lobby) ?_ select
    rw [marked, Roster.capacity_update]
    exact room
  | listPlayers | listStats | chat =>
    rw [(request_of_isTalk rfl ok).1] at select ⊢
    exact h.decided_iff.mp decided select
  | chooseJob job =>
    obtain ⟨choosing, -, -, p, -, rfl⟩ := chooseJob_eq_ok_iff.mp ok
    have same : (s.roster.update id ({ · with job, ready := true })).aliveCount =
        s.roster.aliveCount := Roster.aliveCount_update fun _ => rfl
    rw [roster_advanceSelect, same]
    exact h.decided_iff.mp decided choosing
  | act action name =>
    have main := (takeAction_eq_ok_iff.mp ok).1
    have forward := (request_transcript h ok).rank_le
    rw [main, select] at forward
    exact absurd forward (by decide)

/-! ## Lost connections -/

theorem game_startMain_ne (select : s.game = .characterSelect) :
    s.startMain.1.game ≠ .characterSelect := by
  obtain ⟨m, hm⟩ : ∃ m : Session δ, m = { s with game := s.game.advance .main } := ⟨_, rfl⟩
  have main : m.game = .main := by
    rw [hm, select]
    rfl
  have goes : s.startMain.1 = m.advanceMain.1 := by
    rw [hm]
    rfl
  rw [goes]
  rcases m.advanceMain_cases with ⟨p, -, -, -, -, eq⟩ | ⟨-, eq⟩ <;> rw [eq]
  · simp [main]
  · simp [finish]

/-- `advanceSelect` stays in `characterSelect` iff somebody lives behind the holder. -/
theorem game_advanceSelect_iff {slot : Nat} (select : s.game = .characterSelect)
    (holder : s.turns.holderSlot s.roster = some slot) :
    s.advanceSelect.1.game = .characterSelect ↔
      ∃ later, slot < later ∧ AliveAt s.roster.players later := by
  have finished := Turns.advanceSelect_eq_finished_iff (t := s.turns) (r := s.roster)
  rw [holder, slotAfter] at finished
  rcases s.turns.advanceSelect_cases s.roster with ⟨p, -, -, -, eq⟩ | eq
  · have goes : s.advanceSelect.1.game = .characterSelect := by simp [advanceSelect, eq, select]
    rw [eq] at finished
    simp only [goes, true_iff]
    by_contra nobody
    push Not at nobody
    cases finished.mpr fun k behind => nobody k behind
  · have ends : s.advanceSelect.1 = s.startMain.1 := by simp [advanceSelect, eq]
    rw [ends]
    constructor
    · intro still
      exact absurd still (game_startMain_ne select)
    · rintro ⟨later, behind, alive⟩
      exact absurd alive (finished.mp eq later behind)

/-- A forfeit stays in `characterSelect` iff `id` does not hold the turn or somebody lives behind
it. -/
theorem game_forfeited_iff (select : s.game = .characterSelect) {p : Player}
    (found : s.roster.get? id = some p) :
    ((s.forfeited id).afterForfeit id).1.game = .characterSelect ↔
      s.turns.holder ≠ some id ∨ s.roster.LivesBehind id := by
  have chosen : (s.forfeited id).game = .characterSelect := select
  by_cases holder : s.turns.holder = some id
  · have holds : (s.forfeited id).turns.isHolder id = true := decide_eq_true holder
    obtain ⟨slot, own⟩ := Roster.exists_slot? found
    have stands : (s.forfeited id).turns.holderSlot (s.forfeited id).roster = some slot := by
      simp only [forfeited, Turns.holderSlot, holder, Option.bind_some, Roster.slot?_update, own]
    have passes : (s.forfeited id).afterForfeit id = (s.forfeited id).advanceSelect := by
      simp only [afterForfeit, chosen, holds, if_true]
    rw [passes, game_advanceSelect_iff chosen stands]
    simp only [holder, ne_eq, not_true, false_or, Roster.LivesBehind, own, Option.some.injEq]
    constructor
    · rintro ⟨later, behind, alive⟩
      exact ⟨slot, later, rfl, behind, (Roster.aliveAt_update_iff own behind).mp alive⟩
    · rintro ⟨_, later, rfl, behind, alive⟩
      exact ⟨later, behind, (Roster.aliveAt_update_iff own behind).mpr alive⟩
  · have idle : (s.forfeited id).turns.isHolder id = false := decide_eq_false holder
    simp [afterForfeit, chosen, idle, holder]

/-- No disconnect enters `characterSelect`. -/
theorem select_of_disconnect (h : Orderly s) (started : s.connection = .inProgress)
    (again : (s.disconnect id).1.game = .characterSelect) : s.game = .characterSelect := by
  have told : Transcript s.game (s.disconnect id).2 (s.disconnect id).1.game :=
    (disconnect_relayed h id).transcript fun _ => playing_of_disconnect h
  have forward := told.rank_le
  rw [again] at forward
  cases game : s.game with
  | pending => exact absurd game (h.started_iff.mp started)
  | characterSelect => rfl
  | main | gameOver =>
    rw [game] at forward
    exact absurd forward (by decide)

/-- A disconnect keeps `Decided` iff it is not `LeavesOne`. -/
theorem decided_disconnect_iff (h : Orderly s) (decided : s.Decided) :
    (s.disconnect id).1.Decided ↔ ¬s.LeavesOne (.disconnect id) := by
  have next : Orderly (s.disconnect id).1 := (disconnect_relayed h id).orderly
  rcases s.disconnect_cases id with ⟨eq, idle⟩ | ⟨p, found, ⟨lobby, eq⟩ | ⟨started, -, alive, eq⟩⟩
  · -- nothing happens, and nobody was lost
    rw [eq]
    refine iff_of_true decided ?_
    rintro ⟨select, there, living, -, -⟩
    rcases (idle _ there).2 with ended | dead
    · rw [ended] at select
      cases select
    · rw [dead] at living
      cases living
  · rw [eq]
    refine iff_of_true (fun still => absurd still lobby) ?_
    rintro ⟨select, -, -, -, -⟩
    rw [h.pending_of_lobby lobby] at select
    cases select
  · have roster : (s.disconnect id).1.roster = s.roster.update id Standing.forfeit := by
      rw [eq, roster_afterForfeit]
      rfl
    have fewer : (s.disconnect id).1.roster.aliveCount + 1 = s.roster.aliveCount := by
      rw [roster]
      exact Roster.aliveCount_update_of_dies found alive rfl
    rw [next.decided_iff]
    by_cases select : s.game = .characterSelect
    · have two := h.decided_iff.mp decided select
      have goes : (s.disconnect id).1.game = .characterSelect ↔
          s.turns.holder ≠ some id ∨ s.roster.LivesBehind id := by
        rw [eq]
        exact game_forfeited_iff select found
      rw [goes]
      constructor
      · rintro enough ⟨-, -, -, last, behind⟩
        have := enough behind
        omega
      · intro fine behind
        by_contra few
        exact fine (.intro select found alive (by omega) behind)
    · refine iff_of_true (fun again => ?_) ?_
      · exact absurd (select_of_disconnect h started again) select
      · rintro ⟨choosing, -, -, -, -⟩
        exact select choosing

/-! ## Runs -/

/-- An operation keeps `Decided` iff it is not `LeavesOne`. -/
theorem decided_perform_iff [Dice δ] (h : Orderly s) (decided : s.Decided)
    (room : 2 ≤ s.roster.capacity) (op : Op) : (s.perform op).1.Decided ↔ ¬s.LeavesOne op := by
  have granted {id : PlayerId} {r : Request} {step : Step δ} (ok : s.request id r = .ok step) :
      step.1.Decided := by
    have next : Orderly step.1 := (request_relayed h ok).orderly
    exact next.decided_iff.mpr (request_two_alive h decided room ok)
  cases op with
  | disconnect id => exact decided_disconnect_iff h decided
  | opened =>
    refine iff_of_true (h.opened.decided_iff.mpr fun select => ?_) (nomatch ·)
    exact h.decided_iff.mp decided select
  | serverChat text => exact iff_of_true decided (nomatch ·)
  | handle id r =>
    refine iff_of_true ?_ (nomatch ·)
    show (s.handle id r).1.Decided
    cases asked : s.request id r with
    | ok step => exact handle_of_ok asked ▸ granted asked
    | error why => exact handle_of_error asked ▸ decided
  | request id r =>
    refine iff_of_true ?_ (nomatch ·)
    unfold perform
    split
    · rename_i asked
      exact granted asked
    · exact decided

theorem Decided.new (expected : Nat) (dice : δ) : (Session.new expected dice).Decided :=
  fun started => nomatch started

/-- With two or more seats, every stage of a run is `Decided` iff none of its operations is
`LeavesOne` of the stage before it. -/
theorem decided_iff_of_run [Dice δ] (expected : Nat) (two : 2 ≤ expected) (dice : δ)
    (ops : List Op) :
    (∀ before after, ops = before ++ after →
        ((Session.new expected dice).run before).1.Decided) ↔
      ∀ before op after, ops = before ++ op :: after →
        ¬((Session.new expected dice).run before).1.LeavesOne op := by
  have room (before : List Op) :
      2 ≤ ((Session.new expected dice).run before).1.roster.capacity := by
    rw [capacity_run]
    exact two
  have orderly (before : List Op) := (Orderly.new expected dice).run before
  constructor
  · intro always before op after eq
    have here := always before (op :: after) eq
    have further : ops = (before ++ [op]) ++ after := by
      rw [eq, List.append_assoc, List.singleton_append]
    have next := always (before ++ [op]) after further
    rw [run_concat] at next
    exact (decided_perform_iff (orderly before) here (room before) op).mp next
  · intro fine before
    induction before using List.reverseRecOn with
    | nil => exact fun _ _ => Decided.new expected dice
    | append_singleton before op ih =>
      intro after eq
      rw [List.append_assoc, List.singleton_append] at eq
      have here := ih (op :: after) eq
      have kept := fine before op after eq
      rw [run_concat]
      exact (decided_perform_iff (orderly before) here (room before) op).mpr kept

/-- A game of two; the first holds the turn in `characterSelect`, and the second disconnects. -/
def abandoned : List Op :=
  [.opened, .handle ⟨1⟩ (.intro "A" true), .handle ⟨2⟩ (.intro "B" true), .disconnect ⟨2⟩]

/-- The disconnect in `abandoned` is `LeavesOne`. -/
theorem decided_iff_of_run_abandoned :
    2 ≤ 2 ∧ ¬∀ before op after, abandoned = before ++ op :: after →
      ¬((Session.new 2 (⟨[]⟩ : Script)).run before).1.LeavesOne op := by
  refine ⟨Nat.le_refl 2, fun fine => ?_⟩
  have decided := (decided_iff_of_run 2 (Nat.le_refl 2) (⟨[]⟩ : Script) abandoned).mpr fine
  have last := decided abandoned [] (List.append_nil _).symm
  unfold Decided at last
  revert last
  decide +kernel

/-- After `abandoned` one player lives and the game is in `characterSelect`. -/
theorem abandoned_goes_on :
    let s := ((Session.new 2 (⟨[]⟩ : Script)).run abandoned).1
    s.connection = .inProgress ∧ s.roster.aliveCount = 1 ∧ s.game = .characterSelect ∧
      ¬s.Decided := by
  unfold Decided
  decide +kernel

end Session

end Skirmish
