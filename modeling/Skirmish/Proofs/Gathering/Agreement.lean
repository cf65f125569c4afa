import Mathlib.Data.List.Induction
import Skirmish.Gathering
import Skirmish.Proofs.View.Agreement

/-!
# At rest, clients and session agree

In a gathering every notice is read at once, so after each event every connected client `Agrees`
with the session. Hence the session grants every move that `View.route` lets through.

Results:

* `Agreed.dispatch`: if every view `Expects` an operation, every view `Agrees` after it;
* `Agreed.connect`, `Agreed.send`, `Agreed.leave`, `Agreed.step`: what one event keeps;
* `agrees_of_run`: clients and session after any run, and the moves in it.
-/

namespace Skirmish

open Session

namespace Gathering

variable {δ : Type} {g : Gathering δ} {id : PlayerId} {v w : View} {roster : Roster}

/-- Every view `Agrees` with the session, and every player in `pending` has one. -/
structure Agreed (g : Gathering δ) : Prop where
  orderly : Orderly g.session
  vital : g.session.roster.Vital
  agrees : ∀ id v, g.views id = some v → Agrees g.session id v
  seated : g.session.game = .pending →
    ∀ id, (g.session.roster.get? id).isSome = true → (g.views id).isSome = true

theorem put_views (g : Gathering δ) (id other : PlayerId) (v : Option View) :
    (g.put id v).views other = if other = id then v else g.views other := rfl

theorem dispatch_views {step : Step δ} (stays : .close id ∉ step.2) :
    (g.dispatch step).views id = (g.views id).map (·.hearAll (noticesFor id step.2)) :=
  if_neg stays

/-- Putting a view where it is changes nothing. -/
theorem put_self (found : g.views id = some v) : g.put id (some v) = g := by
  ext1
  · rfl
  · funext j
    rw [put_views]
    split
    · rename_i here
      rw [here, found]
    · rfl

/-- A new connection that is refused and closed leaves the gathering as it was. -/
theorem dispatch_refusal (fresh : g.views id = none) {why : Refusal} (closes : why.closes = true) :
    (g.put id (some w)).dispatch (g.session, why.effects id) = g := by
  have sent : why.effects id = [.unicast id (.disconnected why.message), .close id] := by
    rw [Refusal.effects, if_pos closes]
  ext1
  · rfl
  · funext j
    by_cases here : j = id
    · subst here
      simp [dispatch, sent, fresh]
    · simp [dispatch, sent, put_views, here, Ne.symm here, Effect.notice?,
        View.hearAll]

namespace Agreed

/-- If every view `Expects` `step`, every view `Agrees` after its dispatch. -/
theorem dispatch {step : Step δ} (orderly : Orderly g.session) (vital : g.session.roster.Vital)
    (relayed : Relayed id g.session step) (quietly : Quietly g.session roster)
    (told : Accounted { g.session with roster } step)
    (expects : ∀ j v, g.views j = some v → Expects g.session roster step j v)
    (seated : step.1.game = .pending →
      ∀ j, (step.1.roster.get? j).isSome = true → (g.views j).isSome = true) :
    Agreed (g.dispatch step) where
  orderly := relayed.orderly
  vital := Account.vital told (quietly.vital vital)
  agrees j w found := by
    rw [dispatch_views (relayed.close_notMem j), Option.map_eq_some_iff] at found
    obtain ⟨v, before, rfl⟩ := found
    exact (expects j v before).agrees orderly relayed quietly told
  seated pending j known := by
    rw [dispatch_views (relayed.close_notMem j), Option.isSome_map]
    exact seated pending j known

theorem new (expected : Nat) (dice : δ) : Agreed (Gathering.new expected dice) where
  orderly := (Orderly.new expected dice).opened
  vital := vital_new expected dice
  agrees id v found := by cases found
  seated _ id known := by
    have nobody : (Gathering.new expected dice).session.roster.get? id = none := by
      rw [Roster.get?_eq]
      rfl
    rw [nobody] at known
    cases known

/-- A disconnect keeps `Agreed`. -/
theorem leave (h : Agreed g) (id : PlayerId) :
    Agreed ((g.put id none).dispatch (g.session.disconnect id)) := by
  have relayed := disconnect_relayed h.orderly id
  -- the others know their players whether or not somebody leaves the roster
  obtain ⟨roster, quietly, told, known⟩ : ∃ roster, Quietly g.session roster ∧
      Accounted { g.session with roster } (g.session.disconnect id) ∧
      ∀ j m, j ≠ id → g.session.roster.Knows j m → roster.Knows j m := by
    rcases disconnect_account h.orderly id with ⟨pending, told⟩ | told
    · exact ⟨_, quietly_without pending id, told, fun j m other known =>
        Roster.knows_without known other⟩
    · exact ⟨_, .refl _, told, fun j m _ known => known⟩
  refine dispatch h.orderly h.vital relayed quietly told (fun j v found => ?_)
    fun pending j registered => ?_
  · rw [put_views] at found
    split at found
    · cases found
    · rename_i other
      have agrees := h.agrees j v found
      exact agrees.expects h.orderly relayed other (known j v.me other agrees.me)
  · have before := relayed.pending_of_pending pending
    obtain ⟨p, found⟩ := Option.isSome_iff_exists.mp registered
    have other : j ≠ id := by
      -- whoever leaves the lobby is not in the roster, where everybody lives
      rintro rfl
      have dead := not_alive_of_disconnect (by simp [before]) found
      rw [relayed.orderly.lobby_alive pending p (Roster.mem_of_get? found)] at dead
      cases dead
    obtain ⟨q, there, -⟩ := disconnect_within g.session id j p found
    rw [put_views, if_neg other]
    exact h.seated before j (by rw [there]; rfl)

variable [Dice δ]

/-- A granted request keeps `Agreed`, if the view of its sender `Expects` it. -/
theorem grant (h : Agreed g) {r : Request} {step : Step δ} (ok : g.session.request id r = .ok step)
    (own : ∀ roster, g.session.roster.Prepared id r roster →
      Expects g.session roster step id w) :
    Agreed ((g.put id (some w)).dispatch step) := by
  have relayed := request_relayed h.orderly ok
  obtain ⟨roster, prepared, told⟩ := request_account h.orderly ok
  have quietly := quietly_of_prepared h.orderly ok prepared
  refine dispatch h.orderly h.vital relayed quietly told (fun j v found => ?_)
    fun pending j registered => ?_
  · rw [put_views] at found
    split at found
    · rename_i here
      cases found
      exact here ▸ own roster prepared
    · rename_i other
      have agrees := h.agrees j v found
      exact agrees.expects h.orderly relayed other (prepared.knows_of_ne agrees.me other)
  · rw [put_views]
    split
    · rfl
    · rename_i other
      obtain ⟨p, found⟩ := Option.isSome_iff_exists.mp registered
      obtain ⟨q, there, -⟩ := (request_members ok found).resolve_left fun own => other own.1
      exact h.seated (relayed.pending_of_pending pending) j (by rw [there]; rfl)

theorem connect (h : Agreed g) (fresh : g.views id = none) (name : String) :
    Agreed ((g.put id (some (View.new name).connected)).dispatch
      (g.session.handle id (.intro name false))) := by
  cases asked : g.session.request id (.intro name false) with
  | ok step =>
    rw [handle_of_ok asked]
    exact h.grant asked fun roster prepared => expects_connected h.orderly asked prepared
  | error why =>
    rw [handle_of_error asked]
    rcases closes_of_intro asked with closes | ⟨lobby, known⟩
    · rw [dispatch_refusal fresh closes]
      exact h
    · -- whoever is in the lobby is connected
      have there := h.seated (h.orderly.pending_of_lobby lobby) id known
      rw [fresh] at there
      cases there

theorem send (h : Agreed g) (found : g.views id = some v) {r : Request} (allowed : v.Allows r) :
    Agreed ((g.put id (some (v.sent r))).dispatch (g.session.handle id r)) := by
  have agrees := h.agrees id v found
  obtain ⟨step, ok⟩ := agrees.granted h.orderly h.vital allowed
  rw [handle_of_ok ok]
  exact h.grant ok fun roster prepared => agrees.expects_sent h.orderly allowed ok prepared

theorem step (h : Agreed g) (e : Event) : Agreed (g.step e) := by
  cases e with
  | connect id name =>
    simp only [Gathering.step]
    split
    · exact h
    · rename_i fresh
      exact h.connect fresh name
  | type id line =>
    simp only [Gathering.step]
    split
    · exact h
    · rename_i v found
      split
      · rename_i r w typed
        cases View.route_typed typed with
        | sends allowed => exact h.send found allowed
        | keeps silent => exact absurd rfl (silent r)
      · rename_i intent w other typed
        cases View.route_typed typed with
        | sends allowed => exact (other _ rfl).elim
        | keeps silent =>
          rw [put_self found]
          exact h
      · exact h
  | leave id =>
    simp only [Gathering.step]
    split
    · exact h
    · exact h.leave id

theorem run (h : Agreed g) (events : List Event) : Agreed (g.run events) := by
  induction events using List.reverseRecOn with
  | nil => exact h
  | append_singleton events e ih =>
    rw [run_concat]
    exact ih.step e

end Agreed

variable [Dice δ]

/-- After any events, every connected client has a player, and has in its view whether that is the
holder, both phases, and the snapshot of that player. Every move that a typed line led to was
granted. -/
theorem agrees_of_run (expected : Nat) (dice : δ) (events : List Event) :
    let g := (Gathering.new expected dice).run events
    (∀ id v, g.views id = some v → ∃ p, g.session.roster.get? id = some p ∧
        (v.myTurn = true ↔ g.session.turns.holder = some id) ∧
        v.game = g.session.game ∧
        (v.inProgress = true ↔ g.session.connection = .inProgress) ∧
        v.me = p.snapshot) ∧
      ∀ before id line after, events = before ++ .type id line :: after →
        let g := (Gathering.new expected dice).run before
        ∀ v r w, g.views id = some v → v.route line = .ok (.send r, w) → r.isMove = true →
          ∃ next, g.session.request id r = .ok next := by
  have fresh := Agreed.new expected dice
  refine ⟨fun id v found => ?_, fun before id line after _ v r w found typed _ => ?_⟩
  · have agrees := (fresh.run events).agrees id v found
    obtain ⟨p, registered, own⟩ := agrees.me
    exact ⟨p, registered, agrees.turn, agrees.game, agrees.started, own.symm⟩
  · have agreed := fresh.run before
    have agrees := agreed.agrees id v found
    cases View.route_typed typed with
    | sends allowed => exact agrees.granted agreed.orderly agreed.vital allowed
    | keeps silent => exact absurd rfl (silent r)

/-- Two clients type themselves into the main phase, and the first one attacks the second one. -/
example :
    let g := (Gathering.new 2 (⟨[]⟩ : Script)).run
      [.connect ⟨1⟩ "A", .connect ⟨2⟩ "B", .type ⟨1⟩ ".ready", .type ⟨2⟩ ".ready",
        .type ⟨1⟩ ".wizard", .type ⟨2⟩ ".2", .type ⟨1⟩ ".atk B"]
    g.session.turns.holder = some ⟨2⟩ ∧
      (g.views ⟨1⟩).map (·.myTurn) = some false ∧
      (g.views ⟨2⟩).map (fun v => (v.myTurn, v.game, v.me.health)) = some (true, .main, 88) := by
  decide +kernel

end Gathering

end Skirmish
