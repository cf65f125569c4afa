import Skirmish.Proofs.Session.Selection

/-!
# The start of the game

`try_start` starts the game when the roster is full and all players are ready. It is called by a
`register` with readiness and by `set_ready` to ready, which are the operations that can complete
the lobby (`Completes`). So no lobby is ever full and ready without having started, and in a game
the seats stay.

Results:

* `Transcript.countP_tellsStart`: `gameStarted` is broadcast once, on leaving `pending`;
* `run_intros`: any number of newcomers, one after the other;
* `perform_assembles`: the operations of a lobby;
* `canStart_perform`, `canStart_run`: no lobby is full and ready;
* `exists_completes_iff`: an operation leaves `pending` iff it `Completes`;
* `start_fresh`: the session right after the start;
* `seats_run`: the seats of a game stay;
* `tellsStart_iff_completes_of_run`: all of this after any run.
-/

namespace Skirmish

/-- The effect sends `gameStarted`. -/
def Effect.tellsStart : Effect → Bool
  | .broadcast .gameStarted | .unicast _ .gameStarted => true
  | _ => false

/-- Number and name of each player, in order. -/
def Roster.seats (r : Roster) : List (PlayerId × String) :=
  r.players.map fun p => (p.id, p.name)

theorem Roster.seats_update (r : Roster) (id : PlayerId) (f : Standing → Standing) :
    (r.update id f).seats = r.seats := by
  rw [seats, players_update]
  exact map_update_of_keeps (fun _ => rfl) r.players id

theorem Roster.seats_updateAll (r : Roster) (f : Standing → Standing) :
    (r.updateAll f).seats = r.seats := by
  rw [seats, players_updateAll, List.map_map]
  rfl

/-- The roster of newcomers that have all joined ready. -/
def Roster.ofSeats (capacity : Nat) (seats : List (PlayerId × String))
    (ids : (seats.map (·.1)).Nodup) (names : (seats.map (·.2)).Nodup)
    (valid : ∀ seat ∈ seats, PlayerName.isValid seat.2 = true) (few : seats.length ≤ capacity) :
    Roster where
  capacity := capacity
  players := seats.map fun seat => .join seat.1 seat.2 true
  byId := Slots.ofKeys ((seats.map fun seat => Player.join seat.1 seat.2 true).map (·.id))
  byName := Slots.ofKeys ((seats.map fun seat => Player.join seat.1 seat.2 true).map (·.name))
  byId_eq := rfl
  byName_eq := rfl
  ids_nodup := by
    rw [List.map_map]
    exact ids
  names_nodup := by
    rw [List.map_map]
    exact names
  names_valid := by
    intro p hp
    obtain ⟨seat, hseat, rfl⟩ := List.mem_map.mp hp
    exact valid seat hseat
  length_le := by
    rw [List.length_map]
    exact few

/-! ## How often the start is told -/

theorem Effect.tellsStart_of_isAside {e : Effect} (aside : e.isAside = true) :
    e.tellsStart = false := by
  cases e with
  | broadcast n | unicast _ n => cases n <;> first | rfl | cases aside
  | close => rfl

theorem Effect.tellsStart_of_isPlay {e : Effect} (play : e.isPlay = true) :
    e.tellsStart = false := by
  cases e with
  | broadcast n | unicast _ n => cases n <;> first | rfl | cases play
  | close => rfl

/-- A transcript has one effect that `tellsStart` if it leaves `pending`, and none otherwise. -/
theorem Transcript.countP_tellsStart {g k : GamePhase} {es : List Effect}
    (told : Transcript g es k) :
    es.countP Effect.tellsStart = if g = .pending ∧ k ≠ .pending then 1 else 0 := by
  induction told with
  | nil g => simp
  | @cons g h k e es said rest ih =>
    rw [List.countP_cons, ih]
    cases said with
    | aside aside => rw [Effect.tellsStart_of_isAside aside]; simp
    | play _ play => rw [Effect.tellsStart_of_isPlay play]; simp
    | start =>
      have left : k ≠ .pending := by
        rintro rfl
        exact absurd rest.rank_le (by decide)
      simp [Effect.started, Effect.tellsStart, left]
    | enter roster => simp [Effect.entered, Effect.tellsStart]
    | finish => simp [Effect.ended, Effect.tellsStart]

namespace Session

variable {δ : Type} {s u : Session δ} {id : PlayerId} {p : Player} {r : Request}
  {step : Step δ} {op : Op}

/-! ## Getting ready -/

/-- `u` is the session before `tryStart` in a request by which the player `id` joins ready or gets
ready. -/
inductive Readies (s : Session δ) (id : PlayerId) : Request → Session δ → Prop
  | joins {name : String} {roster : Roster} (joins : s.roster.register id name true = .ok roster) :
      Readies s id (.intro name true) (s.joined roster)
  | marks {p : Player} (found : s.roster.get? id = some p) :
      Readies s id .ready (s.marked id true)

/-- `op` is such a request, and `u` is the session at its `tryStart`, full and `allReady`. -/
structure Completes (s : Session δ) (op : Op) (u : Session δ) : Prop where
  lobby : s.connection ≠ .inProgress
  asked : ∃ id r, (op = .handle id r ∨ op = .request id r) ∧ s.Readies id r u
  full : u.roster.isFull = true
  allReady : u.roster.allReady = true

theorem canStart_eq_true_iff :
    s.canStart = true ↔ s.connection ≠ .inProgress ∧ s.roster.isFull = true ∧
      s.roster.players ≠ [] ∧ s.roster.allReady = true := by
  simp [canStart, and_assoc]

theorem canStart_new (expected : Nat) (dice : δ) :
    (Session.new expected dice).canStart = false := by
  simp [canStart, Session.new, Roster.empty]

theorem canStart_of_inProgress (started : s.connection = .inProgress) : s.canStart = false := by
  simp [canStart, started]

/-- After `tryStart` a further one does nothing. -/
theorem canStart_tryStart (u : Session δ) : u.tryStart.1.canStart = false := by
  unfold tryStart
  split
  · exact canStart_of_inProgress (ConnectionPhase.advance_inProgress _)
  · rename_i missing
    simpa using missing

theorem joined_ne_inProgress (lobby : s.connection ≠ .inProgress) (roster : Roster) :
    (s.joined roster).connection ≠ .inProgress :=
  (ConnectionPhase.advance_eq_inProgress_iff (by decide)).not.mpr lobby

theorem joined_joined (s : Session δ) (first roster : Roster) :
    (s.joined first).joined roster = s.joined roster := by
  unfold joined
  cases s.connection <;> rfl

/-- Newcomers that all send a ready `intro`, one after the other, are in the lobby in that order,
and the last of them starts the game if it is full then. -/
theorem run_intros [Dice δ] (lobby : s.connection ≠ .inProgress) (seat : PlayerId × String)
    (seats : List (PlayerId × String)) {roster : Roster}
    (capacity : roster.capacity = s.roster.capacity)
    (players : roster.players =
      s.roster.players ++ (seat :: seats).map fun seat => .join seat.1 seat.2 true) :
    (s.run ((seat :: seats).map fun seat => .handle seat.1 (.intro seat.2 true))).1 =
      (s.joined roster).tryStart.1 := by
  induction seats generalizing s seat with
  | nil =>
    have joins := Roster.register_of_players capacity players
    have granted : s.request seat.1 (.intro seat.2 true) = .ok _ :=
      register_eq_ok_iff.mpr ⟨lobby, roster, joins, rfl⟩
    show (s.perform (.handle seat.1 (.intro seat.2 true))).1 = _
    rw [perform_of_ok (.inl rfl) granted]
    rfl
  | cons next rest ih =>
    -- the first of them joins, and there is still room for the others
    have part : (s.roster.players ++ [Player.join seat.1 seat.2 true]).Sublist roster.players := by
      rw [players]
      exact (List.singleton_sublist.mpr List.mem_cons_self).append_left _
    obtain ⟨first, joined, same⟩ : ∃ first : Roster,
        first.players = s.roster.players ++ [Player.join seat.1 seat.2 true] ∧
          first.capacity = roster.capacity := ⟨roster.restrict _ part, rfl, rfl⟩
    have behind : roster.players =
        first.players ++ (next :: rest).map fun seat => .join seat.1 seat.2 true := by
      rw [players, joined, List.map_cons, List.append_cons]
    have room : first.players.length < first.capacity := by
      have all := roster.length_le
      rw [behind, List.length_append, List.length_map, List.length_cons] at all
      omega
    have waits : (s.joined first).tryStart = (s.joined first, []) := by
      refine if_neg fun can => ?_
      obtain ⟨-, full, -⟩ := canStart_eq_true_iff.mp can
      exact Nat.not_le.mpr room (of_decide_eq_true full)
    have joins := Roster.register_of_players (same.trans capacity) joined
    have granted : s.request seat.1 (.intro seat.2 true) = .ok _ :=
      register_eq_ok_iff.mpr ⟨lobby, first, joins, rfl⟩
    have others := ih (joined_ne_inProgress lobby first) next same.symm behind
    rw [joined_joined] at others
    rw [List.map_cons, run_cons, perform_of_ok (.inl rfl) granted, settled, if_pos rfl, waits]
    exact others

namespace Readies

theorem lobby (h : s.Readies id r u) (lobby : s.connection ≠ .inProgress) :
    u.connection ≠ .inProgress := by
  cases h with
  | joins => exact joined_ne_inProgress lobby _
  | marks => exact lobby

theorem orderly (h : s.Readies id r u) (orderly : Orderly s)
    (lobby : s.connection ≠ .inProgress) : Orderly u := by
  cases h with
  | joins joins => exact orderly.joined lobby joins
  | marks => exact orderly.marked lobby id true

theorem players_ne_nil (h : s.Readies id r u) : u.roster.players ≠ [] := by
  cases h with
  | @joins name roster joins =>
    obtain ⟨-, -, -, -, -, players⟩ := Roster.register_eq_ok_iff.mp joins
    show roster.players ≠ []
    simp [players]
  | marks found =>
    show (s.roster.update id ({ · with ready := true })).players ≠ []
    rw [Roster.players_update]
    simp [List.ne_nil_of_mem (Roster.mem_of_get? found)]

/-- Before `inProgress` a request that `Readies` is granted, and leads to `tryStart`. -/
theorem request_eq [Dice δ] (h : s.Readies id r u) (lobby : s.connection ≠ .inProgress) :
    ∃ told, s.request id r = .ok (u.tryStart.1, told ++ u.tryStart.2) := by
  cases h with
  | @joins name roster joins =>
    refine ⟨.announce (name ++ " has joined.") :: (s.joined roster).waiting, ?_⟩
    exact register_eq_ok_iff.mpr ⟨lobby, roster, joins, rfl⟩
  | @marks p found =>
    refine ⟨[.announce (p.name ++ " is ready.")], ?_⟩
    exact setReady_eq_ok_iff.mpr ⟨lobby, p, found, rfl⟩

end Readies

/-! ## The lobby -/

/-- An operation before `inProgress`: it `Readies` a player, or afterwards the session is not
`inProgress` and cannot start. -/
inductive Assembles (s : Session δ) (op : Op) (step : Step δ) : Prop
  | readies {id : PlayerId} {r : Request} {u : Session δ}
      (asked : op = .handle id r ∨ op = .request id r) (readies : s.Readies id r u)
      (next : step.1 = u.tryStart.1)
  | waits (lobby : step.1.connection ≠ .inProgress) (missing : step.1.canStart = false)

theorem canStart_of_unready (hp : p ∈ s.roster.players) (unready : p.ready = false) :
    s.canStart = false := by
  by_contra can
  obtain ⟨-, -, -, ready⟩ := canStart_eq_true_iff.mp (by simpa using can)
  rw [List.all_eq_true.mp ready p hp] at unready
  cases unready

/-- With a new player that is not `ready`, `canStart` fails. -/
theorem canStart_joined {name : String} {roster : Roster}
    (joins : s.roster.register id name false = .ok roster) :
    (s.joined roster).canStart = false := by
  obtain ⟨-, -, -, -, -, players⟩ := Roster.register_eq_ok_iff.mp joins
  have newcomer : .join id name false ∈ (s.joined roster).roster.players := by
    show _ ∈ roster.players
    simp [players]
  exact canStart_of_unready newcomer rfl

/-- With a player that is no longer `ready`, `canStart` fails. -/
theorem canStart_marked (found : s.roster.get? id = some p) :
    (s.marked id false).canStart = false := by
  have unready : (s.marked id false).roster.get? id =
      some (p.mapStanding ({ · with ready := false })) := by
    rw [marked, Roster.get?_update, found, Option.map_some, if_pos rfl]
  exact canStart_of_unready (Roster.mem_of_get? unready) rfl

/-- Without one of its players a roster is not full, so `canStart` fails. -/
theorem canStart_left (found : s.roster.get? id = some p) : (s.left id).canStart = false := by
  by_contra can
  obtain ⟨-, full, -, -⟩ := canStart_eq_true_iff.mp (by simpa using can)
  obtain ⟨hp, rfl⟩ := Roster.get?_eq_some_iff.mp found
  have fewer : (s.roster.players.filter (·.id ≠ p.id)).length < s.roster.players.length :=
    List.length_filter_lt_length_iff_exists.mpr ⟨p, hp, by simp⟩
  have room := s.roster.length_le
  have crowded : s.roster.capacity ≤ (s.roster.players.filter (·.id ≠ p.id)).length := by
    simpa [Roster.isFull, left, Roster.without, Roster.restrict] using full
  omega

theorem Assembles.of_same (lobby : s.connection ≠ .inProgress) (missing : s.canStart = false)
    (same : step.1 = s) : s.Assembles op step :=
  .waits (by rwa [same]) (by rwa [same])

theorem request_assembles [Dice δ] (h : Orderly s) (lobby : s.connection ≠ .inProgress)
    (missing : s.canStart = false) (asked : op = .handle id r ∨ op = .request id r)
    (ok : s.request id r = .ok step) : s.Assembles op step := by
  have pending := h.pending_of_lobby lobby
  cases r with
  | intro name ready =>
    obtain ⟨-, roster, joins, rfl⟩ := register_eq_ok_iff.mp ok
    cases ready with
    | true => exact .readies asked (.joins joins) rfl
    | false => exact .waits (joined_ne_inProgress lobby roster) (canStart_joined joins)
  | ready =>
    obtain ⟨-, p, found, rfl⟩ := setReady_eq_ok_iff.mp ok
    exact .readies asked (.marks found) rfl
  | unready =>
    obtain ⟨-, p, found, rfl⟩ := setReady_eq_ok_iff.mp ok
    exact .waits lobby (canStart_marked found)
  | listPlayers | listStats | chat =>
    exact .of_same lobby missing (request_of_isTalk rfl ok).1
  | chooseJob job =>
    obtain ⟨select, -⟩ := chooseJob_eq_ok_iff.mp ok
    cases pending.symm.trans select
  | act action name =>
    obtain ⟨main, -⟩ := takeAction_eq_ok_iff.mp ok
    cases pending.symm.trans main

/-! ## The first moment -/

/-- `start` gives the turn to slot 0, since everybody is alive in the lobby. -/
theorem holderSlot_start (h : Orderly u) (lobby : u.connection ≠ .inProgress)
    (some_ : u.roster.players ≠ []) :
    u.start.1.turns.holderSlot u.start.1.roster = some 0 := by
  have pending := h.pending_of_lobby lobby
  obtain ⟨first, rest, eq⟩ := List.exists_cons_of_ne_nil some_
  have living : AliveAt u.start.1.roster.players 0 := by
    refine ⟨first.mapStanding ({ · with ready := false }), ?_, ?_⟩
    · show (u.roster.players.map _)[0]? = _
      rw [eq]
      rfl
    · exact h.lobby_alive pending first (by rw [eq]; exact List.mem_cons_self)
  rcases u.start_cases with ⟨slot, p, here, passed, turns, -⟩ | nobody
  · have front : slot = 0 := Nat.eq_zero_of_not_pos fun later => passed 0 later living
    subst front
    rw [turns]
    exact Roster.slot?_eq_some_iff.mpr ⟨p, here, rfl⟩
  · have begun : Relay first.id u u.start.1 (news u.start.2) ∧ Orderly u.start.1 :=
      start_relay h lobby some_
    have select : u.start.1.game = .characterSelect := by simp [start, pending]
    have held := begun.2.holder_iff.mpr (.inl select)
    rw [nobody] at held
    cases held

/-- The session after `start`: `characterSelect`, nobody `ready`, the turn at slot 0, and the seats
as before. -/
theorem start_fresh (h : Orderly u) (lobby : u.connection ≠ .inProgress)
    (some_ : u.roster.players ≠ []) :
    u.start.1.connection = .inProgress ∧ u.start.1.game = .characterSelect ∧
      (∀ p ∈ u.start.1.roster.players, p.ready = false) ∧
      u.start.1.turns.holderSlot u.start.1.roster = some 0 ∧
      u.start.1.roster.seats = u.roster.seats := by
  refine ⟨ConnectionPhase.advance_inProgress _, ?_, fun p hp => ?_,
    holderSlot_start h lobby some_, Roster.seats_updateAll ..⟩
  · simp [start, h.pending_of_lobby lobby]
  · obtain ⟨q, -, rfl⟩ := List.mem_map.mp hp
    rfl

/-! ## Leaving the lobby -/

variable [Dice δ]

theorem asked_assembles (h : Orderly s) (lobby : s.connection ≠ .inProgress)
    (missing : s.canStart = false) (asked : op = .handle id r ∨ op = .request id r) :
    s.Assembles op (s.perform op) := by
  cases outcome : s.request id r with
  | ok step =>
    rw [perform_of_ok asked outcome]
    exact request_assembles h lobby missing asked outcome
  | error why => exact .of_same lobby missing (perform_of_error asked outcome)

theorem perform_assembles (h : Orderly s) (lobby : s.connection ≠ .inProgress)
    (missing : s.canStart = false) (op : Op) : s.Assembles op (s.perform op) := by
  cases op with
  | opened =>
    have phase : s.opened.connection = .inProgress ↔ s.connection = .inProgress :=
      ConnectionPhase.advance_eq_inProgress_iff (by decide)
    have same : s.opened.canStart = s.canStart := by
      rw [Bool.eq_iff_iff, canStart_eq_true_iff, canStart_eq_true_iff]
      exact and_congr phase.not .rfl
    exact .waits (phase.not.mpr lobby) (same.trans missing)
  | handle id r => exact asked_assembles h lobby missing (.inl rfl)
  | request id r => exact asked_assembles h lobby missing (.inr rfl)
  | serverChat text => exact .of_same lobby missing rfl
  | disconnect id =>
    show s.Assembles _ (s.disconnect id)
    rcases s.disconnect_cases id with ⟨eq, -⟩ | ⟨p, found, ⟨-, eq⟩ | ⟨started, -⟩⟩
    · rw [eq]
      exact .of_same lobby missing rfl
    · rw [eq]
      exact .waits lobby (canStart_left found)
    · exact absurd started lobby

/-- `inProgress` is the last connection phase. -/
theorem inProgress_perform (h : Orderly s) (started : s.connection = .inProgress) (op : Op) :
    (s.perform op).1.connection = .inProgress := by
  have forward := connection_le_perform h op
  rw [started] at forward
  cases phase : (s.perform op).1.connection with
  | inProgress => rfl
  | initializing | acceptingConnections | lobbyOpen =>
    rw [phase] at forward
    exact absurd forward (by decide)

/-- If `canStart` fails, it fails after every operation. -/
theorem canStart_perform (h : Orderly s) (missing : s.canStart = false) (op : Op) :
    (s.perform op).1.canStart = false := by
  by_cases started : s.connection = .inProgress
  · exact canStart_of_inProgress (inProgress_perform h started op)
  · cases perform_assembles h started missing op with
    | readies asked readies next =>
      rw [next]
      exact canStart_tryStart _
    | waits lobby missing => exact missing

theorem canStart_run (h : Orderly s) (missing : s.canStart = false) (ops : List Op) :
    (s.run ops).1.canStart = false := by
  induction ops generalizing s with
  | nil => exact missing
  | cons op rest ih => exact ih (h.perform op) (canStart_perform h missing op)

theorem Completes.perform_eq (h : s.Completes op u) :
    ∃ told, s.perform op = (u.start.1, told ++ u.start.2) := by
  obtain ⟨lobby, ⟨id, r, asked, readies⟩, full, ready⟩ := h
  have can : u.canStart = true :=
    canStart_eq_true_iff.mpr ⟨readies.lobby lobby, full, readies.players_ne_nil, ready⟩
  have starts : u.tryStart = u.start := if_pos can
  obtain ⟨told, ok⟩ := readies.request_eq lobby
  rw [starts] at ok
  exact ⟨told, perform_of_ok asked ok⟩

/-- An operation `Completes` the lobby exactly if it leads to `inProgress`. -/
theorem exists_completes_iff (h : Orderly s) (missing : s.canStart = false) (op : Op) :
    (∃ u, s.Completes op u) ↔
      s.connection ≠ .inProgress ∧ (s.perform op).1.connection = .inProgress := by
  constructor
  · rintro ⟨u, completes⟩
    obtain ⟨told, eq⟩ := completes.perform_eq
    rw [eq]
    exact ⟨completes.lobby, ConnectionPhase.advance_inProgress _⟩
  · rintro ⟨lobby, left⟩
    cases perform_assembles h lobby missing op with
    | @readies id r u asked readies next =>
      by_cases can : u.canStart = true
      · obtain ⟨-, full, -, ready⟩ := canStart_eq_true_iff.mp can
        exact ⟨u, lobby, ⟨id, r, asked, readies⟩, full, ready⟩
      · have stays : u.tryStart = (u, []) := if_neg can
        rw [next, stays] at left
        exact absurd left (readies.lobby lobby)
    | waits open_ => exact absurd left open_

/-- An operation `tellsStart` exactly if it leads to `inProgress`. -/
theorem exists_tellsStart_iff (h : Orderly s) (op : Op) :
    (∃ e ∈ (s.perform op).2, e.tellsStart = true) ↔
      s.connection ≠ .inProgress ∧ (s.perform op).1.connection = .inProgress := by
  have count := (perform_transcript h op).countP_tellsStart
  have waiting : s.connection ≠ .inProgress ↔ s.game = .pending := by
    rw [ne_eq, h.started_iff, not_not]
  rw [← List.countP_pos_iff, count, waiting, (h.perform op).started_iff]
  split
  · rename_i both
    exact iff_of_true Nat.one_pos both
  · rename_i not_
    exact iff_of_false (Nat.lt_irrefl 0) not_

/-! ## In the game -/

theorem seats_perform (h : Orderly s) (started : s.connection = .inProgress) (op : Op) :
    (s.perform op).1.roster.seats = s.roster.seats := by
  rcases (perform_plays h started op).roster_cases with same | ⟨id, p, f, -, -, -, changed⟩
  · rw [same]
  · rw [changed, Roster.seats_update]

/-- Once the game is `inProgress`, every run keeps the seats. -/
theorem seats_run (h : Orderly s) (started : s.connection = .inProgress) (ops : List Op) :
    (s.run ops).1.roster.seats = s.roster.seats := by
  induction ops generalizing s with
  | nil => rfl
  | cons op rest ih =>
    have later := ih (h.perform op) (inProgress_perform h started op)
    exact later.trans (seats_perform h started op)

/-- After every run: a session that is not `inProgress` is not both full, with players, and
`allReady`. At most one effect `tellsStart`. An operation `tellsStart` exactly if it `Completes` the
lobby; then the phases are `inProgress` and `characterSelect`, nobody is `ready`, the turn is at
slot 0 and the seats are those of `u`. Once the game is `inProgress`, every further run keeps the
seats. -/
theorem tellsStart_iff_completes_of_run (expected : Nat) (dice : δ) (ops : List Op) :
    let s := ((Session.new expected dice).run ops).1
    let told := ((Session.new expected dice).run ops).2
    (s.connection ≠ .inProgress → ¬(s.roster.players ≠ [] ∧ s.roster.isFull = true ∧
      s.roster.allReady = true)) ∧
      told.countP Effect.tellsStart ≤ 1 ∧
      (∀ op, (∃ e ∈ (s.perform op).2, e.tellsStart = true) ↔ ∃ u, s.Completes op u) ∧
      (∀ op u, s.Completes op u →
        let next := (s.perform op).1
        next.connection = .inProgress ∧ next.game = .characterSelect ∧
          (∀ p ∈ next.roster.players, p.ready = false) ∧
          next.turns.holderSlot next.roster = some 0 ∧ next.roster.seats = u.roster.seats) ∧
      (s.connection = .inProgress → ∀ more, (s.run more).1.roster.seats = s.roster.seats) := by
  intro s told
  have fresh := Orderly.new expected dice
  have orderly : Orderly s := fresh.run ops
  have missing : s.canStart = false := canStart_run fresh (canStart_new expected dice) ops
  refine ⟨?_, ?_, fun op => ?_, fun op u completes => ?_, seats_run orderly⟩
  · rintro lobby ⟨some_, full, ready⟩
    rw [canStart_eq_true_iff.mpr ⟨lobby, full, some_, ready⟩] at missing
    cases missing
  · have count := (run_transcript fresh ops).countP_tellsStart
    show List.countP _ ((Session.new expected dice).run ops).2 ≤ 1
    rw [count]
    split <;> omega
  · rw [exists_tellsStart_iff orderly, exists_completes_iff orderly missing]
  · obtain ⟨told, eq⟩ := completes.perform_eq
    obtain ⟨lobby, ⟨id, r, -, readies⟩, -, -⟩ := completes
    rw [eq]
    exact start_fresh (readies.orderly orderly lobby) (readies.lobby lobby) readies.players_ne_nil

/-- A lobby of two: the first player has left, the second is not ready, the third is. -/
def swapped : List Op :=
  [.opened, .handle ⟨1⟩ (.intro "A" true), .disconnect ⟨1⟩, .handle ⟨2⟩ (.intro "B" false),
    .handle ⟨3⟩ (.intro "C" true)]

/-- The `ready` of the second player `Completes` the lobby, and no run changes the two seats after
it. -/
theorem tellsStart_iff_completes_of_run_swapped :
    let s := ((Session.new 2 (⟨[]⟩ : Script)).run swapped).1
    let next := s.perform (.handle ⟨2⟩ .ready)
    s.connection ≠ .inProgress ∧
      (∃ u, s.Completes (.handle ⟨2⟩ .ready) u ∧ next.1.roster.seats = u.roster.seats) ∧
      (next.1.game = .characterSelect ∧ next.1.turns.holderSlot next.1.roster = some 0 ∧
        ∀ p ∈ next.1.roster.players, p.ready = false) ∧
      ∀ more, (next.1.run more).1.roster.seats = [(⟨2⟩, "B"), (⟨3⟩, "C")] := by
  intro s next
  have lobby : s.connection ≠ .inProgress := by decide +kernel
  have told : ∃ e ∈ next.2, e.tellsStart = true := by decide +kernel
  have seats : next.1.roster.seats = [(⟨2⟩, "B"), (⟨3⟩, "C")] := by decide +kernel
  obtain ⟨-, -, tells, fresh, -⟩ :=
    tellsStart_iff_completes_of_run 2 (⟨[]⟩ : Script) swapped
  obtain ⟨-, -, -, -, stays⟩ :=
    tellsStart_iff_completes_of_run 2 (⟨[]⟩ : Script) (swapped ++ [.handle ⟨2⟩ .ready])
  obtain ⟨u, completes⟩ := (tells _).mp told
  obtain ⟨started, game, ready, first, same⟩ := fresh _ u completes
  refine ⟨lobby, ⟨u, completes, same⟩, ⟨game, first, ready⟩, fun more => ?_⟩
  rw [← seats]
  exact stays started more

end Session

end Skirmish
