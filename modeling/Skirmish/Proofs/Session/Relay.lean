import Skirmish.Proofs.Session.News
import Skirmish.Proofs.Turns

/-!
# How the turn goes on

What one operation does to `turns` and what its `news` report of that.

Every operation of an `Orderly` session keeps the token where it is, gives it to another living
player, or ends the game. `Relay` is either of the last two with its news, and `Relayed` any of the
three; the session is `Orderly` again afterwards.

Results:

* `Relayed.giver`, `Relayed.game_eq`, `Relayed.of_gameOver`: who loses the token, and when the phase
  stays;
* `Relayed.effect_cases`: the effects that are no broadcast;
* `advanceMain_relay`, `startMain_relay`, `advanceSelect_relay`: the functions that pass the token;
* `tryStart_relayed`: the start of the game.
-/

namespace Skirmish

/-- The name of the first player with `alive`. -/
def Roster.survivor? (r : Roster) : Option String :=
  (r.players.find? (·.alive)).map (·.name)

theorem Roster.survivor?_of_one {r : Roster} {p : Player} (hp : p ∈ r.players)
    (alive : p.alive = true) (one : r.aliveCount = 1) : r.survivor? = some p.name := by
  rw [aliveCount, List.countP_eq_length_filter] at one
  obtain ⟨q, hq⟩ := List.length_eq_one_iff.mp one
  have found : p = q := by
    have : p ∈ r.players.filter (·.alive) := List.mem_filter.mpr ⟨hp, alive⟩
    rw [hq] at this
    exact List.mem_singleton.mp this
  rw [survivor?, ← List.head?_filter, hq, found]
  rfl

theorem Roster.survivor?_of_none {r : Roster} (dead : r.aliveCount = 0) : r.survivor? = none := by
  rw [aliveCount, List.countP_eq_zero] at dead
  rw [survivor?, Option.map_eq_none_iff, List.find?_eq_none]
  exact dead

namespace Session

variable {δ : Type} {s t u : Session δ} {id : PlayerId} {ns : List Effect}

/-! ## The turn and the phase -/

/-- The turn token fits the phase, as `holder_isSome_iff_of_run` says, and everybody is alive in the
lobby. -/
structure Orderly (s : Session δ) : Prop where
  /-- The turn is held in `characterSelect` and `main` only, and always there. -/
  holder_iff : s.turns.holder.isSome = true ↔ s.game = .characterSelect ∨ s.game = .main
  holder_alive : ∀ id, s.turns.holder = some id → ∃ p, s.roster.get? id = some p ∧ p.alive = true
  two_alive : s.game = .main → 2 ≤ s.roster.aliveCount
  started_iff : s.connection = .inProgress ↔ s.game ≠ .pending
  lobby_alive : s.game = .pending → ∀ p ∈ s.roster.players, p.alive = true

namespace Orderly

theorem pending_of_lobby (h : Orderly s) (lobby : s.connection ≠ .inProgress) :
    s.game = .pending := by
  by_contra started
  exact lobby (h.started_iff.mpr started)

theorem playing (h : Orderly s) {p : PlayerId} (held : s.turns.holder = some p) :
    s.game = .characterSelect ∨ s.game = .main :=
  h.holder_iff.mp (by rw [held]; rfl)

theorem ne_pending (h : Orderly s) {p : PlayerId} (held : s.turns.holder = some p) :
    s.game ≠ .pending := by
  rcases h.playing held with g | g <;> simp [g]

theorem ne_gameOver (h : Orderly s) {p : PlayerId} (held : s.turns.holder = some p) :
    s.game ≠ .gameOver := by
  rcases h.playing held with g | g <;> simp [g]

theorem holder_eq_none (h : Orderly s) (idle : s.game = .pending ∨ s.game = .gameOver) :
    s.turns.holder = none := by
  cases held : s.turns.holder with
  | none => rfl
  | some p => exact absurd idle (not_or.mpr ⟨h.ne_pending held, h.ne_gameOver held⟩)

theorem pending_of_idle (h : Orderly s) (idle : s.turns.holder = none)
    (going : s.game ≠ .gameOver) : s.game = .pending := by
  have resting := mt h.holder_iff.mpr (by simp [idle])
  cases phase : s.game <;> simp_all

theorem inProgress_of_holder (h : Orderly s) {p : PlayerId} (held : s.turns.holder = some p) :
    s.connection = .inProgress :=
  h.started_iff.mpr (h.ne_pending held)

/-- The clauses of `Orderly` for a session that is not `inProgress`. -/
theorem of_lobby (lobby : s.connection ≠ .inProgress) (game : s.game = .pending)
    (holder : s.turns.holder = none) (alive : ∀ p ∈ s.roster.players, p.alive = true) :
    Orderly s where
  holder_iff := by simp [holder, game]
  holder_alive id held := by simp [holder] at held
  two_alive main := by simp [game] at main
  started_iff := by simp [lobby, game]
  lobby_alive _ := alive

/-- The clauses of `Orderly` for a session that is `inProgress` and whose holder is the player `p`.
-/
theorem of_turn {p : Player} (started : s.connection = .inProgress)
    (playing : s.game = .characterSelect ∨ s.game = .main) (holder : s.turns.holder = some p.id)
    (hp : p ∈ s.roster.players) (alive : p.alive = true)
    (two : s.game = .main → 2 ≤ s.roster.aliveCount) : Orderly s where
  holder_iff := by simp [holder, playing]
  holder_alive id held := by
    rw [holder, Option.some.injEq] at held
    exact ⟨p, held ▸ Roster.get?_id hp, alive⟩
  two_alive := two
  started_iff := by rcases playing with g | g <;> simp [started, g]
  lobby_alive pending := by rcases playing with g | g <;> simp [g] at pending

theorem finish (started : s.connection = .inProgress) (winner : Option String) :
    Orderly (s.finish winner).1 where
  holder_iff := by simp [Session.finish]
  holder_alive id held := by simp [Session.finish] at held
  two_alive main := by simp [Session.finish] at main
  started_iff := by simp [Session.finish, started]
  lobby_alive pending := by simp [Session.finish] at pending

theorem new (expected : Nat) (dice : δ) : Orderly (Session.new expected dice) :=
  of_lobby (by simp [Session.new]) rfl rfl (by simp [Session.new, Roster.empty])

theorem advance_connection (h : Orderly s) {next : ConnectionPhase} (lobby : next ≠ .inProgress) :
    Orderly { s with connection := s.connection.advance next } where
  holder_iff := h.holder_iff
  holder_alive := h.holder_alive
  two_alive := h.two_alive
  started_iff := (ConnectionPhase.advance_eq_inProgress_iff lobby).trans h.started_iff
  lobby_alive := h.lobby_alive

theorem opened (h : Orderly s) : Orderly s.opened :=
  h.advance_connection (by decide)

/-- Before `inProgress` any roster of living players will do. -/
theorem of_roster (h : Orderly s) (lobby : s.connection ≠ .inProgress) {roster : Roster}
    (alive : ∀ p ∈ roster.players, p.alive = true) : Orderly { s with roster } :=
  have pending := h.pending_of_lobby lobby
  of_lobby lobby pending (h.holder_eq_none (.inl pending)) alive

/-- A new standing of a player other than the holder keeps `Orderly`, if two are still alive in
`main`. -/
theorem update (h : Orderly s) (started : s.connection = .inProgress)
    (other : s.turns.holder ≠ some id) {f : Standing → Standing}
    (two : s.game = .main → 2 ≤ (s.roster.update id f).aliveCount) :
    Orderly { s with roster := s.roster.update id f } where
  holder_iff := h.holder_iff
  holder_alive holder held := by
    obtain ⟨p, found, alive⟩ := h.holder_alive holder held
    have differs : holder ≠ id := fun same => other (same ▸ held)
    exact ⟨p, by rw [Roster.get?_update, found]; simp [differs], alive⟩
  two_alive := two
  started_iff := h.started_iff
  lobby_alive pending := absurd pending (h.started_iff.mp started)

end Orderly

/-! ## What becomes of the turn -/

/-- An operation of player `id` takes the turn on from `s` to `t`, and the last list is its `news`
without healths: the phases, and then the `takeTurn` of the new holder unless the game is over. -/
inductive Relay (id : PlayerId) (s t : Session δ) : List Effect → Prop
  /-- A living player `p`, not the holder before, gets it: at the start, or from the holder `id`. -/
  | gives {p : Player} (phases : List Effect) (told : PhaseNews s.game t.game phases)
      (playing : t.game = .characterSelect ∨ t.game = .main) (member : p ∈ t.roster.players)
      (alive : p.alive = true) (holder : t.turns.holder = some p.id)
      (moves : s.turns.holder ≠ some p.id)
      (giver : s.game = .pending ∨ s.turns.holder = some id) :
      Relay id s t (phases ++ [.unicast p.id .takeTurn])
  | ends (phases : List Effect) (told : PhaseNews s.game t.game phases)
      (playing : s.game = .characterSelect ∨ s.game = .main) (ended : t.game = .gameOver)
      (holder : t.turns.holder = none) : Relay id s t phases

/-- `Relay` depends on `turns` and `game` of the first session only. -/
theorem Relay.of_prepared (h : Relay id s t ns) (turns : s.turns = u.turns)
    (game : s.game = u.game) : Relay id u t ns := by
  cases h with
  | gives phases told playing member alive holder moves giver =>
    exact .gives phases (game ▸ told) playing member alive holder (turns ▸ moves)
      (turns ▸ game ▸ giver)
  | ends _ told playing ended holder => exact .ends _ (game ▸ told) (game ▸ playing) ended holder

/-- The holder before a `Relay` is not the holder afterwards. -/
theorem Relay.holder_ne (h : Relay id s t ns) {j : PlayerId} (holder : s.turns.holder = some j) :
    t.turns.holder ≠ some j := by
  cases h with
  | gives phases told playing member alive given moves giver => rwa [given, ← holder, ne_comm]
  | ends phases told playing ended gone => simp [gone]

/-- `step` is an operation of player `id` whose `news` are healths and then the news of a `Relay`,
or nothing if `turns` and `game` stay. It leads to an `Orderly` session. -/
def Relayed (id : PlayerId) (s : Session δ) (step : Step δ) : Prop :=
  ∃ healths ns, news step.2 = healths ++ ns ∧ (∀ e ∈ healths, e.isHealth = true) ∧
    (ns = [] ∧ step.1.turns = s.turns ∧ step.1.game = s.game ∨ Relay id s step.1 ns) ∧
    Orderly step.1

namespace Relayed

variable {step : Step δ}

theorem orderly (h : Relayed id s step) : Orderly step.1 := by
  obtain ⟨_, _, _, _, _, orderly⟩ := h
  exact orderly

theorem of_relay (h : Relay id s step.1 (news step.2) ∧ Orderly step.1) : Relayed id s step :=
  ⟨[], _, rfl, by simp, .inr h.1, h.2⟩

/-- An operation without `news` that keeps `turns` and `game` is `Relayed`. -/
theorem of_talk (h : Orderly step.1) (talk : news step.2 = []) (turns : step.1.turns = s.turns)
    (game : step.1.game = s.game) : Relayed id s step :=
  ⟨[], [], talk, by simp, .inl ⟨rfl, turns, game⟩, h⟩

theorem of_prepared {told : List Effect} (h : Relayed id s step) (turns : s.turns = u.turns)
    (game : s.game = u.game) (talk : news told = news step.2) : Relayed id u (step.1, told) := by
  obtain ⟨healths, ns, eq, only, goes, orderly⟩ := h
  refine ⟨healths, ns, talk.trans eq, only, ?_, orderly⟩
  rcases goes with ⟨none, turns', game'⟩ | relay
  · exact .inl ⟨none, turns'.trans turns, game'.trans game⟩
  · exact .inr (relay.of_prepared turns game)

/-- If the holder stays, so does `game`. -/
theorem game_eq (h : Relayed id s step) {j : PlayerId} (before : s.turns.holder = some j)
    (after : step.1.turns.holder = some j) : step.1.game = s.game := by
  obtain ⟨_, _, _, _, ⟨-, -, game⟩ | relay, -⟩ := h
  · exact game
  · exact absurd after (relay.holder_ne before)

/-- If the holder changes, the operation is one of the holder, or the game is over. -/
theorem giver (h : Relayed id s step) (orderly : Orderly s) {j : PlayerId}
    (before : s.turns.holder = some j) (after : step.1.turns.holder ≠ some j) :
    j = id ∨ step.1.game = .gameOver := by
  obtain ⟨_, _, _, _, ⟨-, turns, -⟩ | relay, -⟩ := h
  · exact absurd (turns ▸ before) after
  · cases relay with
    | gives phases told playing member alive holder moves giver =>
      rcases giver with pending | own
      · exact absurd pending (orderly.ne_pending before)
      · exact .inl (Option.some.inj (before.symm.trans own))
    | ends phases told playing ended holder => exact .inr ended

theorem of_gameOver (h : Relayed id s step) (ended : s.game = .gameOver) :
    step.1.turns = s.turns ∧ step.1.game = .gameOver := by
  obtain ⟨_, _, _, _, ⟨-, turns, game⟩ | relay, -⟩ := h
  · exact ⟨turns, game.trans ended⟩
  · cases relay with
    | gives phases told playing member alive holder moves giver =>
      have still : step.1.game = .gameOver := (ended ▸ told).eq_gameOver
      simp [still] at playing
    | ends phases told playing gone holder => simp [ended] at playing

theorem pending_of_pending (h : Relayed id s step) (pending : step.1.game = .pending) :
    s.game = .pending := by
  obtain ⟨_, _, _, _, ⟨-, -, game⟩ | relay, -⟩ := h
  · exact game.symm.trans pending
  · cases relay with
    | gives phases told playing member alive holder moves giver => simp [pending] at playing
    | ends phases told playing ended holder => simp [pending] at ended

/-- An effect of a `Relayed` operation is talk, a `broadcast` or a `takeTurn`. -/
theorem effect_cases (h : Relayed id s step) {e : Effect} (he : e ∈ step.2) :
    e.isTalk = true ∨ (∃ n, e = .broadcast n) ∨ ∃ j, e = .unicast j .takeTurn := by
  obtain ⟨healths, ns, eq, only, goes, -⟩ := h
  by_cases talk : e.isTalk = true
  · exact .inl talk
  · have reported : e ∈ news step.2 := List.mem_filter.mpr ⟨he, by simpa using talk⟩
    rw [eq, List.mem_append] at reported
    rcases reported with health | turn
    · cases e with
      | broadcast n => exact .inr (.inl ⟨n, rfl⟩)
      | unicast | close => cases only _ health
    · rcases goes with ⟨rfl, -, -⟩ | relay
      · cases turn
      · cases relay with
        | gives phases told playing member alive holder moves giver =>
          rw [List.mem_append, List.mem_singleton] at turn
          rcases turn with phase | turn
          · exact .inr (.inl (told.broadcast_of_mem phase))
          · exact .inr (.inr ⟨_, turn⟩)
        | ends phases told playing ended holder => exact .inr (.inl (told.broadcast_of_mem turn))

/-- A `Relayed` operation closes no connection. -/
theorem close_notMem (h : Relayed id s step) (j : PlayerId) : .close j ∉ step.2 := by
  intro closes
  rcases h.effect_cases closes with talk | ⟨n, eq⟩ | ⟨i, eq⟩
  · cases talk
  · cases eq
  · cases eq

/-- A notice that a `Relayed` operation sends to one connection `isPersonal`. -/
theorem isPersonal_of_unicast (h : Relayed id s step) {j : PlayerId} {n : Notice}
    (told : .unicast j n ∈ step.2) : n.isPersonal = true := by
  rcases h.effect_cases told with talk | ⟨_, eq⟩ | ⟨_, eq⟩
  · exact Notice.isPersonal_of_isTalk talk
  · cases eq
  · cases eq
    rfl

end Relayed

/-! ## Passing the turn -/

theorem advanceMain_cases (s : Session δ) :
    (∃ p ∈ s.roster.players, p.alive = true ∧ 2 ≤ s.roster.aliveCount ∧
        s.turns.holder ≠ some p.id ∧
        s.advanceMain = ({ s with turns := ⟨some p.id⟩ },
          [.announce (p.name ++ "'s turn"), .unicast p.id .takeTurn])) ∨
      (s.roster.aliveCount ≤ 1 ∧ s.advanceMain = s.finish s.roster.survivor?) := by
  rcases s.turns.advanceMain_cases s.roster with
    ⟨p, hp, alive, two, moves, eq⟩ | ⟨p, hp, alive, one, eq⟩ | ⟨none, eq⟩
  · exact .inl ⟨p, hp, alive, two, moves, by simp [advanceMain, eq, Roster.get?_id hp]⟩
  · refine .inr ⟨by omega, ?_⟩
    rw [Roster.survivor?_of_one hp alive one]
    simp [advanceMain, eq, Roster.get?_id hp, finish]
  · refine .inr ⟨by omega, ?_⟩
    rw [Roster.survivor?_of_none none]
    simp [advanceMain, eq, finish]

@[simp] theorem news_finish (s : Session δ) (winner : Option String) :
    news (s.finish winner).2 = [.broadcast (.phaseChanged .gameOver none)] := by
  simp [finish, Notice.isTalk]

theorem finish_relay (playing : s.game = .main) (winner : Option String) :
    Relay id s (s.finish winner).1 (news (s.finish winner).2) := by
  rw [news_finish]
  refine .ends _ ?_ (.inr playing) (by simp [finish]) rfl
  simpa [finish, playing] using PhaseNews.finish

theorem advanceMain_relay (main : s.game = .main) (started : s.connection = .inProgress)
    (holder : s.turns.holder = some id) :
    Relay id s s.advanceMain.1 (news s.advanceMain.2) ∧ Orderly s.advanceMain.1 := by
  rcases s.advanceMain_cases with ⟨p, hp, alive, two, moves, eq⟩ | ⟨-, eq⟩ <;> rw [eq]
  · refine ⟨?_, .of_turn started (.inr main) rfl hp alive fun _ => two⟩
    have given : Relay id s { s with turns := ⟨some p.id⟩ } ([] ++ [.unicast p.id .takeTurn]) :=
      .gives [] (.stay _) (.inr main) hp alive rfl moves (.inr holder)
    simpa [Notice.isTalk] using given
  · exact ⟨finish_relay main _, .finish started _⟩

theorem startMain_relay (select : s.game = .characterSelect) (started : s.connection = .inProgress)
    (holder : s.turns.holder = some id) :
    Relay id s s.startMain.1 (news s.startMain.2) ∧ Orderly s.startMain.1 := by
  -- the main phase goes on from here as from any session in it
  obtain ⟨m, hm⟩ : ∃ m : Session δ, m = { s with game := s.game.advance .main } := ⟨_, rfl⟩
  have main : m.game = .main := by rw [hm, select]; rfl
  have turns : m.turns = s.turns := by rw [hm]
  have startedM : m.connection = .inProgress := by rw [hm, started]
  have told {g : GamePhase} {later : List Effect} (rest : PhaseNews .main g later) :
      PhaseNews s.game g (.broadcast (.phaseChanged .main (some s.roster.snapshots)) :: later) := by
    rw [select]
    exact .enter _ rest
  have eq : s.startMain = (m.advanceMain.1,
      .broadcast (.phaseChanged .main (some s.roster.snapshots)) :: m.advanceMain.2) := by
    rw [hm]; rfl
  rw [eq]
  rcases m.advanceMain_cases with ⟨p, hp, alive, two, moves, eq⟩ | ⟨-, eq⟩ <;> rw [eq]
  · refine ⟨?_, .of_turn startedM (.inr main) rfl hp alive fun _ => two⟩
    have stays : PhaseNews .main m.game [] := by rw [main]; exact .stay _
    have given : Relay id s { m with turns := ⟨some p.id⟩ } _ :=
      .gives _ (told stays) (.inr main) hp alive rfl (turns ▸ moves) (.inr holder)
    simpa [Notice.isTalk] using given
  · refine ⟨?_, .finish startedM m.roster.survivor?⟩
    have ended : (m.finish m.roster.survivor?).1.game = .gameOver := by simp [finish]
    rw [news_cons, if_neg (by simp [Notice.isTalk]), news_finish]
    refine .ends _ ?_ (.inl select) ended rfl
    show PhaseNews s.game (m.finish m.roster.survivor?).1.game _
    rw [ended]
    exact told .finish

theorem advanceSelect_relay (select : s.game = .characterSelect)
    (started : s.connection = .inProgress) (holder : s.turns.holder = some id) :
    Relay id s s.advanceSelect.1 (news s.advanceSelect.2) ∧ Orderly s.advanceSelect.1 := by
  rcases s.turns.advanceSelect_cases s.roster with ⟨p, hp, alive, moves, eq⟩ | eq <;>
    simp only [advanceSelect, eq]
  · refine ⟨?_, .of_turn started (.inl select) rfl hp alive fun main => by simp [select] at main⟩
    have given : Relay id s { s with turns := ⟨some p.id⟩ } ([] ++ [.unicast p.id .takeTurn]) :=
      .gives [] (.stay _) (.inl select) hp alive rfl moves (.inr holder)
    simpa [Notice.isTalk] using given
  · exact startMain_relay select started holder

/-! ## Starting -/

theorem start_relay (h : Orderly s) (lobby : s.connection ≠ .inProgress)
    (some_ : s.roster.players ≠ []) :
    Relay id s s.start.1 (news s.start.2) ∧ Orderly s.start.1 := by
  have pending := h.pending_of_lobby lobby
  have alive : ∀ p ∈ (s.roster.updateAll ({ · with ready := false })).players, p.alive = true := by
    intro p hp
    rw [Roster.players_updateAll, List.mem_map] at hp
    obtain ⟨q, hq, rfl⟩ := hp
    exact h.lobby_alive pending q hq
  rcases Turns.start_cases (s.roster.updateAll ({ · with ready := false })) with
    ⟨p, hp, living, eq⟩ | ⟨dead, -⟩
  · have select : s.start.1.game = .characterSelect := by simp [start, pending]
    have holder : s.start.1.turns.holder = some p.id := by simp [start, eq]
    refine ⟨?_, .of_turn (by simp [start]) (.inl select) holder hp living fun main => ?_⟩
    · have told : PhaseNews s.game s.start.1.game [.broadcast .gameStarted] := by
        rw [select, pending]
        exact .start (.stay _)
      have moves : s.turns.holder ≠ some p.id := by simp [h.holder_eq_none (.inl pending)]
      have given : Relay id s s.start.1 _ :=
        .gives _ told (.inl select) hp living holder moves (.inl pending)
      simpa [start, eq, Notice.isTalk] using given
    · rw [select] at main
      cases main
  · -- nobody is dead in the lobby
    obtain ⟨q, hq⟩ := List.exists_mem_of_ne_nil _ some_
    have member : q.mapStanding ({ · with ready := false }) ∈
        (s.roster.updateAll ({ · with ready := false })).players :=
      List.mem_map.mpr ⟨q, hq, rfl⟩
    have := dead _ member
    rw [alive _ member] at this
    cases this

theorem tryStart_relayed (id : PlayerId) (h : Orderly s) : Relayed id s s.tryStart := by
  rw [tryStart]
  split
  · rename_i can
    simp only [canStart, Bool.and_eq_true, Bool.not_eq_true', decide_eq_true_eq,
      List.isEmpty_eq_false_iff] at can
    exact .of_relay (start_relay h can.1.1.1 can.1.2)
  · exact .of_talk h rfl rfl rfl

end Session

end Skirmish
