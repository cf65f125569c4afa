import Skirmish.Proofs.Session.Start

/-!
# The order of getting ready

Several players send `ready` one after the other. Until the lobby is complete each only sets its own
flag. The one that completes it starts the game, which clears all flags, and later ones are refused.
As no lobby is full and ready, this is the same as setting all flags at once and then `tryStart`
(`run_readyAll`), where the order does not matter.

Results:

* `Roster.players_readied`, `Roster.readied_congr`: all flags at once;
* `run_readyAll`: one after the other as all at once;
* `readyAll_perm`: any order gives the same session, and starts the game iff any other does.
-/

namespace Skirmish

namespace Roster

variable {r : Roster} {id : PlayerId} {ids more : List PlayerId}

/-- The roster with `ready` set for every player of `ids`. -/
def readied (r : Roster) (ids : List PlayerId) : Roster :=
  ids.foldl (fun r id => r.update id ({ · with ready := true })) r

theorem readied_cons (r : Roster) (id : PlayerId) (rest : List PlayerId) :
    r.readied (id :: rest) = (r.update id ({ · with ready := true })).readied rest := rfl

theorem players_readied (r : Roster) (ids : List PlayerId) :
    (r.readied ids).players = r.players.map fun p =>
      if p.id ∈ ids then p.mapStanding ({ · with ready := true }) else p := by
  induction ids generalizing r with
  | nil => simp [readied]
  | cons id rest ih =>
    rw [readied_cons, ih, players_update, List.map_map]
    refine List.map_congr_left fun p _ => ?_
    rw [Function.comp]
    by_cases own : p.id = id
    · have meant : p.id ∈ id :: rest := own ▸ List.mem_cons_self
      rw [if_pos own, if_pos meant]
      split <;> rfl
    · simp only [List.mem_cons, own, false_or, if_false]

@[simp] theorem capacity_readied (r : Roster) (ids : List PlayerId) :
    (r.readied ids).capacity = r.capacity := by
  induction ids generalizing r with
  | nil => rfl
  | cons id rest ih => rw [readied_cons, ih, capacity_update]

/-- `readied` depends only on which numbers are in `ids`. -/
theorem readied_congr (same : ∀ id, id ∈ ids ↔ id ∈ more) : r.readied ids = r.readied more := by
  refine ext (by simp) ?_
  simp only [players_readied, same]

/-- `readied` keeps a roster that is `allReady`. -/
theorem readied_of_allReady (ready : r.allReady = true) (ids : List PlayerId) :
    r.readied ids = r := by
  refine ext (capacity_readied r ids) ?_
  have same : ∀ p ∈ r.players,
      (if p.id ∈ ids then p.mapStanding ({ · with ready := true }) else p) = p := by
    intro p hp
    have already : p.ready = true := List.all_eq_true.mp ready p hp
    split
    · rw [Player.mapStanding, ← already]
    · rfl
  rw [players_readied, List.map_congr_left same, List.map_id']

end Roster

namespace Session

variable {δ : Type} [Dice δ] {s : Session δ} {ids more : List PlayerId}

/-- A `ready` request from each of `ids`. -/
def readyAll (ids : List PlayerId) : List Op :=
  ids.map (.handle · .ready)

/-- Once the game is `inProgress`, `readyAll` is refused. -/
theorem run_readyAll_of_inProgress (started : s.connection = .inProgress)
    (ids : List PlayerId) : (s.run (readyAll ids)).1 = s := by
  induction ids with
  | nil => rfl
  | cons id rest ih =>
    have refused : s.request id .ready = .error (.wrongPhase .ready) := if_pos started
    have same : (s.perform (.handle id .ready)).1 = s := perform_of_error (.inl rfl) refused
    show ((s.perform (.handle id .ready)).1.run (readyAll rest)).1 = s
    rw [same, ih]

/-- Before `inProgress`, `readyAll` is `tryStart` with everybody of `ids` ready at once. -/
theorem run_readyAll (lobby : s.connection ≠ .inProgress) (missing : s.canStart = false)
    (ids : List PlayerId) :
    (s.run (readyAll ids)).1 = { s with roster := s.roster.readied ids }.tryStart.1 := by
  induction ids generalizing s with
  | nil =>
    have stays : s.tryStart = (s, []) := if_neg (by simp [missing])
    exact (congrArg Prod.fst stays).symm
  | cons id rest ih =>
    show ((s.perform (.handle id .ready)).1.run (readyAll rest)).1 = _
    rw [Roster.readied_cons]
    cases found : s.roster.get? id with
    | none =>
      have refused : s.request id .ready = .error (.unknownPlayer id) :=
        setReady_eq_error_iff.mpr (.inr ⟨lobby, found, rfl⟩)
      rw [perform_of_error (.inl rfl) refused, Roster.update_of_unknown found]
      exact ih lobby missing
    | some p =>
      obtain ⟨told, granted⟩ := (Readies.marks found).request_eq lobby
      rw [perform_of_ok (.inl rfl) granted]
      by_cases can : (s.marked id true).canStart = true
      · -- the lobby is complete, and the others come too late
        obtain ⟨-, -, -, ready⟩ := canStart_eq_true_iff.mp can
        have starts : (s.marked id true).tryStart = (s.marked id true).start := if_pos can
        have started : (s.marked id true).start.1.connection = .inProgress :=
          ConnectionPhase.advance_inProgress _
        have same : (s.roster.update id ({ · with ready := true })).readied rest =
            (s.marked id true).roster := Roster.readied_of_allReady ready rest
        rw [same, starts, run_readyAll_of_inProgress started]
        exact (congrArg Prod.fst starts).symm
      · have stays : (s.marked id true).tryStart = (s.marked id true, []) := if_neg can
        rw [stays]
        exact ih lobby (by simpa using can)

/-- Before `inProgress`, `readyAll` in another order leads to the same session, and it tells the
start exactly if the other one does. -/
theorem readyAll_perm (expected : Nat) (dice : δ) (ops : List Op) (ids more : List PlayerId) :
    let s := ((Session.new expected dice).run ops).1
    s.connection ≠ .inProgress → ids.Perm more →
      (s.run (readyAll ids)).1 = (s.run (readyAll more)).1 ∧
        ((∃ e ∈ (s.run (readyAll ids)).2, e.tellsStart = true) ↔
          ∃ e ∈ (s.run (readyAll more)).2, e.tellsStart = true) := by
  intro s lobby perm
  have fresh := Orderly.new expected dice
  have orderly : Orderly s := fresh.run ops
  have missing : s.canStart = false := canStart_run fresh (canStart_new expected dice) ops
  have same : (s.run (readyAll ids)).1 = (s.run (readyAll more)).1 := by
    rw [run_readyAll lobby missing, run_readyAll lobby missing,
      Roster.readied_congr fun id => perm.mem_iff]
  refine ⟨same, ?_⟩
  rw [← List.countP_pos_iff, ← List.countP_pos_iff, (run_transcript orderly _).countP_tellsStart,
    (run_transcript orderly _).countP_tellsStart, same]

/-- A full lobby of three players that are not ready. -/
def lobbyOfThree : List Op :=
  [.opened, .handle ⟨1⟩ (.intro "A" false), .handle ⟨2⟩ (.intro "B" false),
    .handle ⟨3⟩ (.intro "C" false)]

/-- In the first order the game starts with the third request, and two more are refused; in the
second order it starts with the last. -/
theorem readyAll_perm_lobbyOfThree :
    let s := ((Session.new 3 (⟨[]⟩ : Script)).run lobbyOfThree).1
    let ids : List PlayerId := [⟨3⟩, ⟨1⟩, ⟨2⟩, ⟨1⟩, ⟨9⟩]
    let more : List PlayerId := [⟨1⟩, ⟨9⟩, ⟨1⟩, ⟨2⟩, ⟨3⟩]
    (s.connection ≠ .inProgress ∧ ids.Perm more) ∧
      (∃ e ∈ (s.run (readyAll ids)).2, e.tellsStart = true) ∧
      (∃ e ∈ (s.run (readyAll more)).2, e.tellsStart = true) ∧
      (s.run (readyAll ids)).1 = (s.run (readyAll more)).1 := by
  have lobby : ((Session.new 3 (⟨[]⟩ : Script)).run lobbyOfThree).1.connection ≠ .inProgress := by
    decide +kernel
  have ⟨same, told⟩ := readyAll_perm 3 (⟨[]⟩ : Script) lobbyOfThree
    [⟨3⟩, ⟨1⟩, ⟨2⟩, ⟨1⟩, ⟨9⟩] [⟨1⟩, ⟨9⟩, ⟨1⟩, ⟨2⟩, ⟨3⟩] lobby (by decide)
  have starts : ∃ e ∈ (((Session.new 3 (⟨[]⟩ : Script)).run lobbyOfThree).1.run
      (readyAll [⟨3⟩, ⟨1⟩, ⟨2⟩, ⟨1⟩, ⟨9⟩])).2, e.tellsStart = true := by
    decide +kernel
  exact ⟨⟨lobby, by decide⟩, starts, told.mp starts, same⟩

end Session

end Skirmish
