import Skirmish.Proofs.Roster.Account
import Skirmish.Proofs.Session.Members

/-!
# What operations tell of the players

The broadcasts of an operation are an `Account` of what it does to the roster, except for what has
no notice: a request may first set readiness or job of its own player (`Roster.Prepared`), and a
player who leaves a lobby is removed (`Roster.without`).

Results:

* `Roster.Prepared.knows_of_ne`, `Roster.Prepared.vital`: what has no notice concerns no other
  player, and nobody's life;
* `request_account`, `disconnect_account`: the `Account` of a granted request and of a disconnect;
* `prepared_eq_of_late`: from `main` on everything has a notice.
-/

namespace Skirmish

/-! ## What is done without a word -/

/-- What a granted request sets in the standing of its own player before any effect. -/
def Request.noted : Request → Standing → Standing
  | .ready, st => { st with ready := true }
  | .unready, st => { st with ready := false }
  | .chooseJob job, st => { st with job, ready := true }
  | .intro .., st | .listPlayers, st | .listStats, st | .chat _, st | .act .., st => st

theorem Request.vital_noted (r : Request) {st : Standing} (vital : st.Vital) :
    (r.noted st).Vital := by
  cases r <;> exact vital

namespace Roster

variable {r s : Roster} {id j : PlayerId} {p : Player} {m : Snapshot}

theorem update_congr {f g : Standing → Standing} (found : r.get? id = some p)
    (same : f p.toStanding = g p.toStanding) : r.update id f = r.update id g := by
  obtain ⟨hp, rfl⟩ := get?_eq_some_iff.mp found
  refine Roster.ext (by simp) ?_
  rw [players_update, players_update]
  refine List.map_congr_left fun q hq => ?_
  split
  · rename_i own
    rw [eq_of_id_eq hq hp own, Player.mapStanding, Player.mapStanding, same]
  · rfl

/-- `Action.resolve` of the standing of `id` is `Standing.change` by `Action.delta`. -/
theorem update_resolve {δ : Type} [Dice δ] (found : r.get? id = some p) {action : Action}
    {dice : δ} :
    r.update id (fun _ => (action.resolve p.toStanding dice).2.1) =
      r.update id (·.change (action.delta dice).1) :=
  update_congr found rfl

theorem update_self (r : Roster) (id : PlayerId) : r.update id (fun st => st) = r := by
  refine Roster.ext (by simp) ?_
  rw [players_update]
  exact List.map_id'' (fun p => by split <;> rfl) _

/-- The roster in a granted request before its first effect: with the new player, or with
`Request.noted`. -/
inductive Prepared (r : Roster) (id : PlayerId) : Request → Roster → Prop
  | joins {name : String} {ready : Bool} {s : Roster} (joined : r.register id name ready = .ok s) :
      Prepared r id (.intro name ready) s
  | notes {req : Request} (known : ∀ name ready, req ≠ .intro name ready) :
      Prepared r id req (r.update id req.noted)

variable {req : Request}

theorem Prepared.knows_of_ne (h : r.Prepared id req s) (known : r.Knows j m) (other : j ≠ id) :
    s.Knows j m := by
  cases h with
  | joins joined =>
    obtain ⟨p, found, eq⟩ := known
    exact ⟨p, by rw [get?_of_register joined, if_neg other, found], eq⟩
  | notes => exact known.update_of_ne other

theorem Prepared.vital (h : r.Prepared id req s) (vital : r.Vital) : s.Vital := by
  cases h with
  | joins joined =>
    obtain ⟨-, -, -, -, -, players⟩ := register_eq_ok_iff.mp joined
    intro p hp
    rw [players, List.mem_append, List.mem_singleton] at hp
    rcases hp with old | rfl
    · exact vital p old
    · simp [Player.join, Standing.Vital, Rules.startingHealth]
  | notes => exact vital.update fun _ => req.vital_noted

theorem knows_without (known : r.Knows j m) (other : j ≠ id) : (r.without id).Knows j m := by
  obtain ⟨p, found, eq⟩ := known
  exact ⟨p, by rw [get?_without, if_neg other, found], eq⟩

theorem Vital.without (vital : r.Vital) : (r.without id).Vital :=
  fun p hp => vital p (List.mem_of_mem_filter hp)

end Roster

namespace Session

variable {δ : Type} {s : Session δ} {id : PlayerId} {step : Step δ}

theorem isPersonal_of_talk {es : List Effect} (talk : news es = []) :
    ∀ n ∈ broadcasts es, n.isPersonal = true := by
  intro n told
  obtain ⟨e, he, eq⟩ := List.mem_filterMap.mp told
  have silent : e.isTalk = true := by simpa using List.filter_eq_nil_iff.mp talk e he
  cases e with
  | broadcast notice =>
    cases eq
    exact Notice.isPersonal_of_isTalk silent
  | unicast | close => cases eq

/-- `Account` for the broadcasts of `step`, from the roster of `s` to that of `step`. -/
def Accounted (s : Session δ) (step : Step δ) : Prop :=
  Account s.game s.roster (broadcasts step.2) step.1.game step.1.roster

theorem Accounted.after_talk (h : Accounted s step) (first : List Effect)
    (talk : news first = []) : Accounted s (step.1, first ++ step.2) := by
  rw [Accounted, broadcasts_append]
  exact h.after_personal (isPersonal_of_talk talk)

theorem accounted_of_talk {told : List Effect} (talk : news told = []) : Accounted s (s, told) :=
  .of_personal (isPersonal_of_talk talk) _ _

/-! ## Passing the turn -/

theorem finish_accounted (main : s.game = .main) (winner : Option String) :
    Accounted s (s.finish winner) := by
  have told : Account .main s.roster [.phaseChanged .gameOver none] .gameOver s.roster :=
    .ends (.done _ _)
  have ended : (s.finish winner).1.game = .gameOver := by simp [finish]
  rw [Accounted, main, ended]
  exact .talk rfl told

theorem advanceMain_accounted (main : s.game = .main) : Accounted s s.advanceMain := by
  rcases s.advanceMain_cases with ⟨p, -, -, -, -, eq⟩ | ⟨-, eq⟩ <;> rw [eq]
  · exact .talk rfl (.done _ _)
  · exact finish_accounted main _

theorem startMain_accounted (select : s.game = .characterSelect) : Accounted s s.startMain := by
  have main : { s with game := s.game.advance .main }.game = .main := by rw [select]; rfl
  have later := advanceMain_accounted main
  rw [Accounted, main] at later
  rw [Accounted, select]
  exact .enters later

theorem advanceSelect_accounted (select : s.game = .characterSelect) :
    Accounted s s.advanceSelect := by
  rcases s.turns.advanceSelect_cases s.roster with ⟨p, -, -, -, eq⟩ | eq <;>
    simp only [advanceSelect, eq]
  · exact .done _ _
  · exact startMain_accounted select

theorem tryStart_accounted (pending : s.game = .pending) : Accounted s s.tryStart := by
  unfold tryStart
  split
  · have told : broadcasts s.start.2 = [.gameStarted] := by
      simp only [start]
      split <;> rfl
    have select : s.start.1.game = .characterSelect := by simp [start, pending]
    rw [Accounted, told, pending, select]
    exact .started (.done _ _)
  · exact .done _ _

/-! ## Requests -/

theorem MayStart.accounted (may : s.MayStart step) (pending : s.game = .pending) :
    Accounted s step := by
  rcases may with rfl | rfl
  · exact tryStart_accounted pending
  · exact .done _ _

theorem register_account (h : Orderly s) {name : String} {ready : Bool}
    (ok : s.register id name ready = .ok step) :
    ∃ roster, s.roster.Prepared id (.intro name ready) roster ∧
      Accounted { s with roster } step := by
  obtain ⟨lobby, roster, started, joins, may, rfl⟩ := register_cases ok
  have told : Accounted (s.joined roster) started := may.accounted (h.pending_of_lobby lobby)
  refine ⟨roster, .joins joins, ?_⟩
  exact told.after_talk (.announce (name ++ " has joined.") :: (s.joined roster).waiting) (by simp)

theorem setReady_accounted (h : Orderly s) {ready : Bool}
    (ok : s.setReady id ready = .ok step) : Accounted (s.marked id ready) step := by
  obtain ⟨lobby, line, started, may, rfl⟩ := setReady_cases ok
  have told : Accounted (s.marked id ready) started := may.accounted (h.pending_of_lobby lobby)
  exact told.after_talk [.announce line] (by simp)

theorem takeAction_accounted [Dice δ] {action : Action} {name : String}
    (ok : s.takeAction id action name = .ok step) : Accounted s step := by
  obtain ⟨main, -, actor, other, p, -, -, found, rfl⟩ := takeAction_eq_ok_iff.mp ok
  have told : Standing.Told (·.change (action.delta s.dice).1) := .change _
  have later := advanceMain_accounted (s := { s with
    roster := s.roster.update other (·.change (action.delta s.dice).1)
    dice := (action.resolve p.toStanding s.dice).2.2 }) main
  rw [Roster.update_resolve found]
  exact .talk rfl (Account.health (f := (·.change (action.delta s.dice).1)) told found later)

theorem update_noted_of_isTalk {r : Request} (talk : r.isTalk = true) :
    s.roster.update id r.noted = s.roster := by
  cases r with
  | listPlayers | listStats | chat => exact Roster.update_self _ _
  | _ => cases talk

/-- A granted request is `Accounted` from a roster that is `Prepared`. -/
theorem request_account [Dice δ] (h : Orderly s) {r : Request} (ok : s.request id r = .ok step) :
    ∃ roster, s.roster.Prepared id r roster ∧ Accounted { s with roster } step := by
  -- all but an introduction note something about a player who is there
  have notes (known : ∀ name ready, r ≠ .intro name ready)
      (told : Accounted { s with roster := s.roster.update id r.noted } step) :
      ∃ roster, s.roster.Prepared id r roster ∧ Accounted { s with roster } step :=
    ⟨_, .notes known, told⟩
  cases r with
  | intro name ready => exact register_account h ok
  | ready => exact notes (by simp) (setReady_accounted h ok)
  | unready => exact notes (by simp) (setReady_accounted h ok)
  | listPlayers | listStats | chat =>
    obtain ⟨same, talk⟩ := request_of_isTalk rfl ok
    refine notes (by simp) ?_
    rw [update_noted_of_isTalk rfl, ← same]
    exact .of_personal (isPersonal_of_talk talk) _ _
  | chooseJob job =>
    obtain ⟨select, -, -, p, -, rfl⟩ := chooseJob_eq_ok_iff.mp ok
    have told := advanceSelect_accounted
      (s := { s with roster := s.roster.update id ({ · with job, ready := true }) }) select
    exact notes (by simp) (told.after_talk [_] (by simp))
  | act action name =>
    refine notes (by simp) ?_
    have same : s.roster.update id (Request.noted (.act action name)) = s.roster :=
      Roster.update_self _ _
    rw [same]
    exact takeAction_accounted ok

/-- In `main` and `gameOver` a granted request is `Prepared` by the roster as it is. -/
theorem prepared_eq_of_late [Dice δ] (h : Orderly s) (late : s.game = .main ∨ s.game = .gameOver)
    {r : Request} (ok : s.request id r = .ok step) {roster : Roster}
    (prepared : s.roster.Prepared id r roster) : roster = s.roster := by
  have started : s.connection = .inProgress := by
    apply h.started_iff.mpr
    rcases late with g | g <;> simp [g]
  cases prepared with
  | joins => exact absurd started (register_eq_ok_iff.mp ok).1
  | notes =>
    cases r with
    | ready | unready => exact absurd started (setReady_eq_ok_iff.mp ok).1
    | chooseJob job =>
      obtain ⟨select, -⟩ := chooseJob_eq_ok_iff.mp ok
      simp [select] at late
    | listPlayers | listStats | chat | act | intro => exact Roster.update_self _ _

/-! ## Lost connections -/

theorem afterForfeit_accounted (s : Session δ) (id : PlayerId) :
    Accounted s (s.afterForfeit id) := by
  unfold afterForfeit
  split
  · rename_i select
    split
    · exact advanceSelect_accounted select
    · exact .done _ _
  · rename_i main
    split
    · exact advanceMain_accounted main
    · split
      · exact finish_accounted main _
      · exact .done _ _
  · exact .done _ _
  · exact .done _ _

/-- `disconnect` is `Accounted`; in the lobby from the roster without the player. -/
theorem disconnect_account (h : Orderly s) (id : PlayerId) :
    s.game = .pending ∧ Accounted { s with roster := s.roster.without id } (s.disconnect id) ∨
      Accounted s (s.disconnect id) := by
  rcases s.disconnect_cases id with ⟨eq, -⟩ | ⟨p, found, ⟨lobby, eq⟩ | ⟨-, -, -, eq⟩⟩ <;> rw [eq]
  · exact .inr (.done _ _)
  · exact .inl ⟨h.pending_of_lobby lobby, accounted_of_talk (s := s.left id) (by simp)⟩
  · exact .inr (.talk rfl (.health .forfeit found (afterForfeit_accounted (s.forfeited id) id)))

end Session

end Skirmish
