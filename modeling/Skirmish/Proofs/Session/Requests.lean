import Skirmish.Proofs.Session.Relay

/-!
# What requests do to the turn

Spec lemmas of the requests: when each is granted, and the session and the effects then, with the
token followed to where it goes (`Relayed`). The other modules cite these and unfold no request.

Results:

* `request_of_isTalk`: `listPlayers`, `listStats` and `chat` keep the session;
* `register_cases`, `setReady_eq_ok_iff`, `setReady_tells`, `setReady_cases`,
  `playerList_eq_ok_iff`, `playerStats_eq_ok_iff`, `chat_eq_ok_iff`, `chooseJob_eq_ok_iff`,
  `takeAction_eq_ok_iff`: one request each;
* `disconnect_cases`: a disconnect;
* `request_relayed`, `disconnect_relayed`: both are `Relayed`;
* `holder_of_move`: a granted `chooseJob` or `act` is that of the holder;
* `turns_of_isMove_eq_false`: in a game other requests keep the token;
* `chooseJob_isOk_iff`, `takeAction_isOk_iff`: when a move is granted;
* `exists_intro_of_closes`: only the refusal of an `intro` closes the connection.
-/

namespace Skirmish.Session

variable {δ : Type} {s : Session δ} {id : PlayerId}

/-! ## Requests -/

theorem nameOf_eq_ok_iff {name : String} :
    s.nameOf id = .ok name ↔ ∃ p, s.roster.get? id = some p ∧ p.name = name := by
  unfold nameOf
  cases s.roster.get? id <;> simp

theorem nameOf_eq_error_iff {why : Refusal} :
    s.nameOf id = .error why ↔ s.roster.get? id = none ∧ why = .unknownPlayer id := by
  unfold nameOf
  cases s.roster.get? id <;> simp [eq_comm]

/-- The session in `register` before `tryStart`. -/
def joined (s : Session δ) (roster : Roster) : Session δ :=
  { s with roster, connection := s.connection.advance .lobbyOpen }

/-- The session in `setReady` before `tryStart`. -/
def marked (s : Session δ) (id : PlayerId) (ready : Bool) : Session δ :=
  { s with roster := s.roster.update id ({ · with ready }) }

/-- The end of `register` and `setReady`: `tryStart` if `ready`. -/
def settled (s : Session δ) (ready : Bool) : Step δ :=
  if ready then s.tryStart else (s, [])

/-! ### What each request comes to -/

/-- `register` is granted exactly if the game is not `inProgress` and `Roster.register` is; then the
waiting line and `settled` follow. -/
theorem register_eq_ok_iff {name : String} {ready : Bool} {step : Step δ} :
    s.register id name ready = .ok step ↔
      s.connection ≠ .inProgress ∧ ∃ roster, s.roster.register id name ready = .ok roster ∧
        let started := (s.joined roster).settled ready
        step = (started.1,
          .announce (name ++ " has joined.") :: ((s.joined roster).waiting ++ started.2)) := by
  unfold register settled joined
  cases s.roster.register id name ready <;> grind

/-- `register` in a game is refused as `full`, and in a lobby as `Roster.register` is. -/
theorem register_eq_error_iff {name : String} {ready : Bool} {why : Refusal} :
    s.register id name ready = .error why ↔
      s.connection = .inProgress ∧ why = .roster .full ∨
        s.connection ≠ .inProgress ∧
          ∃ reason, s.roster.register id name ready = .error reason ∧ why = .roster reason := by
  unfold register
  cases s.roster.register id name ready <;> grind

/-- `setReady` is granted exactly if the game is not `inProgress` and the player is registered; then
`settled` follows. -/
theorem setReady_eq_ok_iff {ready : Bool} {step : Step δ} :
    s.setReady id ready = .ok step ↔
      s.connection ≠ .inProgress ∧ ∃ p, s.roster.get? id = some p ∧
        let started := (s.marked id ready).settled ready
        step = (started.1,
          .announce (p.name ++ if ready then " is ready." else " is not ready.") :: started.2) := by
  unfold setReady nameOf settled marked
  cases s.roster.get? id <;> cases ready <;> grind

theorem setReady_eq_error_iff {ready : Bool} {why : Refusal} :
    s.setReady id ready = .error why ↔
      s.connection = .inProgress ∧ why = .wrongPhase (if ready then .ready else .unready) ∨
        s.connection ≠ .inProgress ∧ s.roster.get? id = none ∧ why = .unknownPlayer id := by
  unfold setReady nameOf
  cases s.roster.get? id <;> cases ready <;> grind

/-- `playerList` is granted exactly to a registered player, and keeps the session. -/
theorem playerList_eq_ok_iff {step : Step δ} :
    s.playerList id = .ok step ↔ (∃ p, s.roster.get? id = some p) ∧
      step = (s,
        [.unicast id (.playerList (s.roster.players.map fun p => (p.name, p.ready)))]) := by
  unfold playerList nameOf
  cases s.roster.get? id <;> grind

theorem playerList_eq_error_iff {why : Refusal} :
    s.playerList id = .error why ↔ s.roster.get? id = none ∧ why = .unknownPlayer id := by
  unfold playerList nameOf
  cases s.roster.get? id <;> grind

/-- `playerStats` is granted exactly to a registered player, and keeps the session. -/
theorem playerStats_eq_ok_iff {step : Step δ} :
    s.playerStats id = .ok step ↔ (∃ p, s.roster.get? id = some p) ∧
      step = (s, [.unicast id
        (.playerStats (s.roster.players.map fun p => (p.name, p.job, p.health)))]) := by
  unfold playerStats nameOf
  cases s.roster.get? id <;> grind

theorem playerStats_eq_error_iff {why : Refusal} :
    s.playerStats id = .error why ↔ s.roster.get? id = none ∧ why = .unknownPlayer id := by
  unfold playerStats nameOf
  cases s.roster.get? id <;> grind

/-- `chat` is granted exactly to a registered player, and keeps the session. A text that is
`Text.isBlankText` has no effect. -/
theorem chat_eq_ok_iff {text : String} {step : Step δ} :
    s.chat id text = .ok step ↔ ∃ p, s.roster.get? id = some p ∧
      step = (s, if Text.isBlankText text then []
        else [.broadcast (.chat (p.name ++ ": " ++ text))]) := by
  unfold chat nameOf
  cases s.roster.get? id <;> grind

theorem chat_eq_error_iff {text : String} {why : Refusal} :
    s.chat id text = .error why ↔ s.roster.get? id = none ∧ why = .unknownPlayer id := by
  unfold chat nameOf
  cases s.roster.get? id <;> grind

/-- `chooseJob` is granted exactly in `characterSelect`, to the holder, for a job other than
`unassigned`; then `advanceSelect` follows. -/
theorem chooseJob_eq_ok_iff {job : Job} {step : Step δ} :
    s.chooseJob id job = .ok step ↔
      s.game = .characterSelect ∧ job ≠ .unassigned ∧ s.turns.holder = some id ∧
        ∃ p, s.roster.get? id = some p ∧
          let chosen :=
            { s with roster := s.roster.update id ({ · with job, ready := true }) }.advanceSelect
          step = (chosen.1,
            .announce (p.name ++ " has chosen to be a " ++ job.title) :: chosen.2) := by
  unfold chooseJob nameOf Turns.isHolder
  cases s.roster.get? id <;> grind

theorem chooseJob_eq_error_iff {job : Job} {why : Refusal} :
    s.chooseJob id job = .error why ↔
      s.game ≠ .characterSelect ∧ why = .wrongPhase .chooseJob ∨
      s.game = .characterSelect ∧
        (job = .unassigned ∧ why = .invalidJob job ∨
        job ≠ .unassigned ∧
          (s.turns.holder ≠ some id ∧ why = .outOfTurn id ∨
          s.turns.holder = some id ∧ s.roster.get? id = none ∧ why = .unknownPlayer id)) := by
  unfold chooseJob nameOf Turns.isHolder
  cases s.roster.get? id <;> grind

/-- A granted request that `isTalk` keeps the session and has no `news`. -/
theorem request_of_isTalk [Dice δ] {r : Request} (talk : r.isTalk = true) {step : Step δ}
    (ok : s.request id r = .ok step) : step.1 = s ∧ news step.2 = [] := by
  cases r with
  | listPlayers =>
    obtain ⟨-, rfl⟩ := playerList_eq_ok_iff.mp ok
    simp [Notice.isTalk]
  | listStats =>
    obtain ⟨-, rfl⟩ := playerStats_eq_ok_iff.mp ok
    simp [Notice.isTalk]
  | chat text =>
    obtain ⟨p, -, rfl⟩ := chat_eq_ok_iff.mp ok
    split <;> simp [Notice.isTalk]
  | _ => cases talk

/-! ### Joining and readiness -/

/-- `step` is `tryStart` of the session, or the session itself without effects. -/
def MayStart (s : Session δ) (step : Step δ) : Prop :=
  step = s.tryStart ∨ step = (s, [])

theorem mayStart_settled (s : Session δ) (ready : Bool) : s.MayStart (s.settled ready) := by
  cases ready with
  | true => exact .inl rfl
  | false => exact .inr rfl

/-- `register_eq_ok_iff` from left to right, with `MayStart` for `settled`. -/
theorem register_cases {name : String} {ready : Bool} {step : Step δ}
    (ok : s.register id name ready = .ok step) :
    s.connection ≠ .inProgress ∧ ∃ roster started, s.roster.register id name ready = .ok roster ∧
      (s.joined roster).MayStart started ∧
      step = (started.1,
        .announce (name ++ " has joined.") :: ((s.joined roster).waiting ++ started.2)) := by
  obtain ⟨lobby, roster, joins, told⟩ := register_eq_ok_iff.mp ok
  exact ⟨lobby, roster, _, joins, mayStart_settled _ ready, told⟩

/-- `setReady_eq_ok_iff` from left to right, with `MayStart` for `settled`. -/
theorem setReady_tells {ready : Bool} {step : Step δ} (ok : s.setReady id ready = .ok step) :
    s.connection ≠ .inProgress ∧ ∃ p started, s.roster.get? id = some p ∧
      (s.marked id ready).MayStart started ∧
      step = (started.1,
        .announce (p.name ++ if ready then " is ready." else " is not ready.") :: started.2) := by
  obtain ⟨lobby, p, found, told⟩ := setReady_eq_ok_iff.mp ok
  exact ⟨lobby, p, _, found, mayStart_settled _ ready, told⟩

/-- `setReady_tells` without the text of the line. -/
theorem setReady_cases {ready : Bool} {step : Step δ} (ok : s.setReady id ready = .ok step) :
    s.connection ≠ .inProgress ∧ ∃ line started, (s.marked id ready).MayStart started ∧
      step = (started.1, .announce line :: started.2) := by
  obtain ⟨lobby, p, started, -, may, eq⟩ := setReady_tells ok
  exact ⟨lobby, _, started, may, eq⟩

theorem MayStart.relayed {step : Step δ} (may : s.MayStart step) (h : Orderly s) (id : PlayerId) :
    Relayed id s step := by
  rcases may with rfl | rfl
  · exact tryStart_relayed id h
  · exact .of_talk h rfl rfl rfl

theorem Orderly.joined (h : Orderly s) (lobby : s.connection ≠ .inProgress) {name : String}
    {ready : Bool} {roster : Roster} (joins : s.roster.register id name ready = .ok roster) :
    Orderly (s.joined roster) := by
  have seated : Orderly { s with roster } := by
    refine h.of_roster lobby fun p hp => ?_
    obtain ⟨-, -, -, -, -, players⟩ := Roster.register_eq_ok_iff.mp joins
    rw [players, List.mem_append, List.mem_singleton] at hp
    rcases hp with old | rfl
    · exact h.lobby_alive (h.pending_of_lobby lobby) p old
    · rfl
  exact seated.advance_connection (by decide)

theorem Orderly.marked (h : Orderly s) (lobby : s.connection ≠ .inProgress) (id : PlayerId)
    (ready : Bool) : Orderly (s.marked id ready) := by
  refine h.of_roster lobby fun p hp => ?_
  rw [Roster.players_update, List.mem_map] at hp
  obtain ⟨q, hq, rfl⟩ := hp
  have alive := h.lobby_alive (h.pending_of_lobby lobby) q hq
  split <;> exact alive

theorem register_relayed (h : Orderly s) {name : String} {ready : Bool} {step : Step δ}
    (ok : s.register id name ready = .ok step) : Relayed id s step := by
  obtain ⟨lobby, roster, started, joins, may, rfl⟩ := register_cases ok
  exact (may.relayed (h.joined lobby joins) id).of_prepared rfl rfl (by simp)

theorem setReady_relayed (h : Orderly s) {ready : Bool} {step : Step δ}
    (ok : s.setReady id ready = .ok step) : Relayed id s step := by
  obtain ⟨lobby, line, started, may, rfl⟩ := setReady_cases ok
  exact (may.relayed (h.marked lobby id ready) id).of_prepared rfl rfl (by simp)

theorem chooseJob_relay (h : Orderly s) {job : Job} {step : Step δ}
    (ok : s.chooseJob id job = .ok step) :
    s.turns.holder = some id ∧ Relay id s step.1 (news step.2) ∧ Orderly step.1 := by
  obtain ⟨select, -, holder, p, -, rfl⟩ := chooseJob_eq_ok_iff.mp ok
  obtain ⟨relay, orderly⟩ := advanceSelect_relay
    (s := { s with roster := s.roster.update id ({ · with job, ready := true }) })
    select (h.inProgress_of_holder holder) holder
  refine ⟨holder, ?_, orderly⟩
  simpa using relay.of_prepared (u := s) rfl rfl

/-- `target` is `id` itself for `Rules.selfWord`, and otherwise the number of a living player of
that name. -/
theorem target_eq_ok_iff {name : String} {other : PlayerId} :
    s.target id name = .ok other ↔
      if name = Rules.selfWord then other = id
      else ∃ p ∈ s.roster.players, p.name = name ∧ p.alive = true ∧ p.id = other := by
  unfold target
  by_cases own : name = Rules.selfWord
  · simp [own, eq_comm]
  · simp only [own, if_false]
    constructor
    · intro h
      split at h
      · rename_i p found
        obtain ⟨hp, rfl⟩ := Roster.find_eq_ok_iff.mp found
        split at h
        · rename_i alive
          cases h
          exact ⟨p, hp, rfl, alive, rfl⟩
        · cases h
      · cases h
    · rintro ⟨p, hp, rfl, alive, rfl⟩
      simp [Roster.find_eq_ok_iff.mpr ⟨hp, rfl⟩, alive]

/-- A `target` of the holder is alive. -/
theorem alive_of_target (h : Orderly s) (holder : s.turns.holder = some id) {name : String}
    {other : PlayerId} (target : s.target id name = .ok other) {p : Player}
    (found : s.roster.get? other = some p) : p.alive = true := by
  rw [target_eq_ok_iff] at target
  split at target
  · subst target
    obtain ⟨q, there, alive⟩ := h.holder_alive other holder
    rw [found, Option.some.injEq] at there
    exact there ▸ alive
  · obtain ⟨q, hq, -, alive, rfl⟩ := target
    rw [Roster.get?_id hq, Option.some.injEq] at found
    exact found ▸ alive

theorem takeAction_eq_ok_iff [Dice δ] {action : Action} {name : String} {step : Step δ} :
    s.takeAction id action name = .ok step ↔
      s.game = .main ∧ s.turns.holder = some id ∧
        ∃ actor other p, s.roster.get? id = some actor ∧ s.target id name = .ok other ∧
          s.roster.get? other = some p ∧
          let result := action.resolve p.toStanding s.dice
          let acted :=
            { s with roster := s.roster.update other fun _ => result.2.1
                     dice := result.2.2 }.advanceMain
          step = (acted.1,
            .announce (action.describe actor.name p.name result.1.delta) ::
            .broadcast (.healthChanged p.name result.1.health) :: acted.2) := by
  unfold takeAction nameOf Turns.isHolder
  cases s.roster.get? id with
  | none => grind
  | some actor =>
    cases s.target id name with
    | error why => grind
    | ok other => cases s.roster.get? other <;> grind

/-- `takeAction` fails with `wrongPhase`, `outOfTurn`, `unknownPlayer` or `invalidTarget`. -/
theorem takeAction_error_cases [Dice δ] {action : Action} {name : String} {why : Refusal}
    (refused : s.takeAction id action name = .error why) :
    why = .wrongPhase .act ∨ why = .outOfTurn id ∨ (∃ other, why = .unknownPlayer other) ∨
      why = .invalidTarget name := by
  have named : s.nameOf id = .error why → ∃ other, why = .unknownPlayer other := fun unknown =>
    ⟨id, (nameOf_eq_error_iff.mp unknown).2⟩
  have meant : s.target id name = .error why → why = .invalidTarget name := by
    unfold target
    grind
  unfold takeAction at refused
  grind

theorem takeAction_relay [Dice δ] (h : Orderly s) {action : Action} {name : String}
    {step : Step δ} (ok : s.takeAction id action name = .ok step) :
    s.turns.holder = some id ∧ Orderly step.1 ∧ ∃ player health ns,
      news step.2 = .broadcast (.healthChanged player health) :: ns ∧ Relay id s step.1 ns := by
  obtain ⟨main, holder, actor, other, p, -, -, -, rfl⟩ := takeAction_eq_ok_iff.mp ok
  generalize action.resolve p.toStanding s.dice = result
  obtain ⟨relay, orderly⟩ := advanceMain_relay
    (s := { s with roster := s.roster.update other fun _ => result.2.1, dice := result.2.2 })
    main (h.inProgress_of_holder holder) holder
  refine ⟨holder, orderly, p.name, result.1.health, _, ?_, relay.of_prepared rfl rfl⟩
  simp [Notice.isTalk]

/-- A granted request of an `Orderly` session is `Relayed`. -/
theorem request_relayed [Dice δ] (h : Orderly s) {r : Request} {step : Step δ}
    (ok : s.request id r = .ok step) : Relayed id s step := by
  cases r with
  | intro name ready => exact register_relayed h ok
  | ready => exact setReady_relayed h ok
  | unready => exact setReady_relayed h ok
  | listPlayers | listStats | chat =>
    obtain ⟨same, talk⟩ := request_of_isTalk rfl ok
    exact .of_talk (same ▸ h) talk (by rw [same]) (by rw [same])
  | chooseJob job => exact .of_relay (chooseJob_relay h ok).2
  | act action name =>
    obtain ⟨-, orderly, player, health, ns, told, relay⟩ := takeAction_relay h ok
    exact ⟨[.broadcast (.healthChanged player health)], ns, told, by simp [Effect.isHealth],
      .inr relay, orderly⟩

/-- A granted `chooseJob` or `act` is one of the holder, who does not hold the turn afterwards. -/
theorem holder_of_move [Dice δ] (h : Orderly s) {r : Request} (move : r.isMove = true)
    {step : Step δ} (ok : s.request id r = .ok step) :
    s.turns.holder = some id ∧ step.1.turns.holder ≠ some id := by
  cases r with
  | chooseJob job =>
    obtain ⟨holder, relay, -⟩ := chooseJob_relay h ok
    exact ⟨holder, relay.holder_ne holder⟩
  | act action name =>
    obtain ⟨holder, -, _, _, _, -, relay⟩ := takeAction_relay h ok
    exact ⟨holder, relay.holder_ne holder⟩
  | _ => cases move

/-- Any other granted request keeps `turns`, unless the game is `pending`. -/
theorem turns_of_isMove_eq_false [Dice δ] (h : Orderly s) (playing : s.game ≠ .pending)
    {r : Request} (plain : r.isMove = false) {step : Step δ} (ok : s.request id r = .ok step) :
    step.1.turns = s.turns := by
  have started := h.started_iff.mpr playing
  cases r with
  | intro name ready => exact absurd started (register_eq_ok_iff.mp ok).1
  | ready | unready => exact absurd started (setReady_eq_ok_iff.mp ok).1
  | listPlayers | listStats | chat => rw [(request_of_isTalk rfl ok).1]
  | chooseJob job => cases plain
  | act action name => cases plain

theorem chooseJob_isOk_iff (h : Orderly s) {job : Job} :
    (∃ step, s.chooseJob id job = .ok step) ↔
      s.game = .characterSelect ∧ job ≠ .unassigned ∧ s.turns.holder = some id := by
  simp only [chooseJob_eq_ok_iff]
  constructor
  · rintro ⟨step, select, chosen, holder, -⟩
    exact ⟨select, chosen, holder⟩
  · rintro ⟨select, chosen, holder⟩
    obtain ⟨p, found, -⟩ := h.holder_alive id holder
    exact ⟨_, select, chosen, holder, p, found, rfl⟩

theorem takeAction_isOk_iff [Dice δ] (h : Orderly s) (action : Action) {name : String} :
    (∃ step, s.takeAction id action name = .ok step) ↔
      s.game = .main ∧ s.turns.holder = some id ∧
        (name = Rules.selfWord ∨ ∃ p ∈ s.roster.players, p.name = name ∧ p.alive = true) := by
  simp only [takeAction_eq_ok_iff, target_eq_ok_iff]
  constructor
  · rintro ⟨step, main, holder, actor, other, p, -, target, -⟩
    refine ⟨main, holder, ?_⟩
    split at target
    · exact .inl ‹_›
    · obtain ⟨q, hq, named, alive, -⟩ := target
      exact .inr ⟨q, hq, named, alive⟩
  · rintro ⟨main, holder, meant⟩
    obtain ⟨actor, found, -⟩ := h.holder_alive id holder
    by_cases own : name = Rules.selfWord
    · exact ⟨_, main, holder, actor, id, actor, found, by rw [if_pos own], found, rfl⟩
    · obtain ⟨q, hq, named, alive⟩ := meant.resolve_left own
      refine ⟨_, main, holder, actor, q.id, q, found, ?_, Roster.get?_id hq, rfl⟩
      rw [if_neg own]
      exact ⟨q, hq, named, alive, rfl⟩

theorem handle_of_ok [Dice δ] {r : Request} {step : Step δ} (ok : s.request id r = .ok step) :
    s.handle id r = step := by
  rw [handle, ok]

theorem handle_of_error [Dice δ] {r : Request} {why : Refusal}
    (refused : s.request id r = .error why) : s.handle id r = (s, why.effects id) := by
  rw [handle, refused]

/-- `Refusal.effects` are none, or a `disconnected` notice and the `close` of the same connection.
-/
theorem refusal_cases (why : Refusal) (id : PlayerId) :
    why.effects id = [] ∨
      ∃ reason, why.effects id = [.unicast id (.disconnected reason), .close id] := by
  unfold Refusal.effects
  split
  · exact .inr ⟨_, rfl⟩
  · exact .inl rfl

theorem serverChat_cases (text : String) :
    Session.serverChat text = [] ∨ Session.serverChat text = [.announce text] := by
  unfold Session.serverChat
  split
  · exact .inl rfl
  · exact .inr rfl

/-- A refusal that `closes` is one of an `intro`. -/
theorem exists_intro_of_closes [Dice δ] {r : Request} {why : Refusal}
    (refused : s.request id r = .error why) (closes : why.closes = true) :
    ∃ name ready, r = .intro name ready := by
  cases r with
  | intro name ready => exact ⟨name, ready, rfl⟩
  | ready | unready =>
    rcases setReady_eq_error_iff.mp refused with ⟨-, rfl⟩ | ⟨-, -, rfl⟩ <;> cases closes
  | listPlayers =>
    obtain ⟨-, rfl⟩ := playerList_eq_error_iff.mp refused
    cases closes
  | listStats =>
    obtain ⟨-, rfl⟩ := playerStats_eq_error_iff.mp refused
    cases closes
  | chat text =>
    obtain ⟨-, rfl⟩ := chat_eq_error_iff.mp refused
    cases closes
  | chooseJob job =>
    rcases chooseJob_eq_error_iff.mp refused with
      ⟨-, rfl⟩ | ⟨-, ⟨-, rfl⟩ | ⟨-, ⟨-, rfl⟩ | ⟨-, -, rfl⟩⟩⟩ <;> cases closes
  | act action name =>
    rcases takeAction_error_cases refused with rfl | rfl | ⟨other, rfl⟩ | rfl <;> cases closes

/-! ## Lost connections -/

theorem afterForfeit_relayed (started : s.connection = .inProgress) (going : s.game ≠ .gameOver)
    (h : Orderly s) (id : PlayerId) (f : Standing → Standing) :
    Relayed id s (afterForfeit { s with roster := s.roster.update id f } id) := by
  obtain ⟨u, hu⟩ : ∃ u : Session δ, u = { s with roster := s.roster.update id f } := ⟨_, rfl⟩
  have turns : u.turns = s.turns := by rw [hu]
  have game : u.game = s.game := by rw [hu]
  have startedU : u.connection = .inProgress := by rw [hu, started]
  -- whoever else has the turn is as alive as before
  have rests (other : s.turns.holder ≠ some id) (two : s.game = .main → 2 ≤ u.roster.aliveCount) :
      Orderly u := by
    rw [hu] at two ⊢
    exact h.update started other two
  rw [← hu]
  suffices Relayed id u (u.afterForfeit id) from this.of_prepared turns game rfl
  unfold afterForfeit
  split
  · rename_i select
    split
    · rename_i holds
      exact .of_relay (advanceSelect_relay select startedU (by simpa [Turns.isHolder] using holds))
    · rename_i other
      refine .of_talk (rests ?_ fun main => ?_) rfl rfl rfl
      · simpa [Turns.isHolder, turns] using other
      · rw [← game, select] at main
        cases main
  · rename_i main
    split
    · rename_i holds
      exact .of_relay (advanceMain_relay main startedU (by simpa [Turns.isHolder] using holds))
    · rename_i other
      split
      · exact .of_relay ⟨finish_relay main _, .finish startedU _⟩
      · rename_i many
        refine .of_talk (rests ?_ fun _ => by omega) rfl rfl rfl
        simpa [Turns.isHolder, turns] using other
  · rename_i pending
    exact absurd (game ▸ pending) (h.started_iff.mp started)
  · rename_i ended
    exact absurd (game ▸ ended) going

/-- The session after `disconnect` in the lobby. -/
def left (s : Session δ) (id : PlayerId) : Session δ :=
  { s with roster := s.roster.without id }

/-- The session in `disconnect` before `afterForfeit`. -/
def forfeited (s : Session δ) (id : PlayerId) : Session δ :=
  { s with roster := s.roster.update id Standing.forfeit }

/-- The branches of `disconnect`: nothing; in the lobby `left` and the waiting line; in a game
`forfeited` and `afterForfeit`. -/
theorem disconnect_cases (s : Session δ) (id : PlayerId) :
    s.disconnect id = (s, []) ∧
        (∀ p, s.roster.get? id = some p →
          s.connection = .inProgress ∧ (s.game = .gameOver ∨ p.alive = false)) ∨
      ∃ p, s.roster.get? id = some p ∧
        (s.connection ≠ .inProgress ∧
            s.disconnect id =
              (s.left id, .announce (p.name ++ " has left.") :: (s.left id).waiting) ∨
          s.connection = .inProgress ∧ s.game ≠ .gameOver ∧ p.alive = true ∧
            s.disconnect id = (((s.forfeited id).afterForfeit id).1,
              .announce (p.name ++ " has left the game.") ::
              .broadcast (.healthChanged p.name p.toStanding.forfeit.health) ::
              ((s.forfeited id).afterForfeit id).2)) := by
  unfold disconnect
  split
  · rename_i missing
    exact .inl ⟨rfl, fun p found => by rw [missing] at found; cases found⟩
  · rename_i p found
    split
    · rename_i lobby
      rw [Roster.remove_of_found found]
      exact .inr ⟨p, found, .inl ⟨lobby, rfl⟩⟩
    · rename_i started
      rw [not_not] at started
      split
      · rename_i idle
        refine .inl ⟨rfl, fun q there => ⟨started, ?_⟩⟩
        rw [found, Option.some.injEq] at there
        subst there
        simpa using idle
      · rename_i playing
        rw [not_or, not_not] at playing
        exact .inr ⟨p, found, .inr ⟨started, playing.1, playing.2, rfl⟩⟩

theorem disconnect_relayed (h : Orderly s) (id : PlayerId) : Relayed id s (s.disconnect id) := by
  rcases s.disconnect_cases id with ⟨eq, -⟩ | ⟨p, found, ⟨lobby, eq⟩ | ⟨started, going, -, eq⟩⟩ <;>
    rw [eq]
  · exact .of_talk h rfl rfl rfl
  · refine .of_talk (h.of_roster lobby fun q hq => ?_) (by simp) rfl rfl
    exact h.lobby_alive (h.pending_of_lobby lobby) q (List.mem_of_mem_filter hq)
  · have passed : Relayed id s ((s.forfeited id).afterForfeit id) :=
      afterForfeit_relayed started going h id Standing.forfeit
    obtain ⟨healths, ns, told, only, goes⟩ := passed
    refine ⟨.broadcast (.healthChanged p.name p.toStanding.forfeit.health) :: healths, ns, ?_, ?_,
      goes⟩
    · simpa [Notice.isTalk] using told
    · simpa [Effect.isHealth] using only

end Skirmish.Session
