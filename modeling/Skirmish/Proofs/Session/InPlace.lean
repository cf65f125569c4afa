import Skirmish.Proofs.Session.Requests
import Skirmish.Proofs.Work

/-!
# Requests as work done in place

The methods of the session change it in place, and an error does not undo what was changed before
it. Here every request is written that way (`Session.Work`), with its checks and changes in that
order, and shown to agree with `Session.request`: every error comes before the first change, so a
refused request leaves the session as it is.

Results:

* `Work.runOn_refuse`, `Work.runOn_demand`, `Work.runOn_proceed`: single steps;
* `runOn_register`, `runOn_setReady`, `runOn_playerList`, `runOn_playerStats`, `runOn_chat`,
  `runOn_chooseJob`, `runOn_takeAction`: one request each;
* `runOn_request`, `handleInPlace_eq`: in place, `request` and `handle` have the same results, and a
  refusal keeps the session.
-/

namespace Skirmish

/-- Two updates of one player are one. -/
theorem Roster.update_update (r : Roster) (id : PlayerId) (f g : Standing → Standing) :
    (r.update id f).update id g = r.update id (g ∘ f) := by
  refine Roster.ext ?_ ?_
  · rw [capacity_update, capacity_update, capacity_update]
  · rw [players_update, players_update, players_update, List.map_map]
    refine List.map_congr_left fun p _ => ?_
    rw [Function.comp]
    by_cases own : p.id = id
    · rw [if_pos own, if_pos own]
      exact if_pos own
    · rw [if_neg own, if_neg own, if_neg own]

namespace Session

variable {δ α : Type}

/-- A computation on a session in place: `Refusal` stops it, and the changes before stay. -/
abbrev Work (δ α : Type) := Skirmish.Work Refusal (Session δ) α

namespace Work

/-! ## Steps of work -/

/-- Stops with `why` if `against` holds. -/
def refuse (against : Session δ → Bool) (why : Refusal) : Work δ Unit := do
  if against (← get) then throw why

/-- The result of `look`, or its refusal. -/
def demand (look : Session δ → Except Refusal α) : Work δ α := do
  match look (← get) with
  | .ok x => return x
  | .error why => throw why

/-- `f` on the roster in place. -/
def changeRoster (f : Roster → Roster) : Work δ Unit :=
  modify fun s => { s with roster := f s.roster }

/-- A function of the session that is never refused, in place. -/
def proceed (part : Session δ → Step δ) : Work δ (List Effect) :=
  modifyGet fun s => ((part s).2, (part s).1)

/-! ## Requests -/

/-- `Session.register` in place. -/
def register (id : PlayerId) (name : String) (ready : Bool) : Work δ (List Effect) := do
  refuse (·.connection = .inProgress) (.roster .full)
  let roster ← demand fun s => (s.roster.register id name ready).mapError .roster
  changeRoster fun _ => roster
  modify fun s => { s with connection := s.connection.advance .lobbyOpen }
  let waiting := (← get).waiting
  let started ← if ready then proceed tryStart else pure []
  return .announce (name ++ " has joined.") :: (waiting ++ started)

/-- `Session.setReady` in place. -/
def setReady (id : PlayerId) (ready : Bool) : Work δ (List Effect) := do
  refuse (·.connection = .inProgress) (.wrongPhase (if ready then .ready else .unready))
  let name ← demand (·.nameOf id)
  changeRoster (·.update id ({ · with ready }))
  let line := if ready then name ++ " is ready." else name ++ " is not ready."
  let started ← if ready then proceed tryStart else pure []
  return .announce line :: started

/-- `Session.playerList` in place. -/
def playerList (id : PlayerId) : Work δ (List Effect) := do
  let _ ← demand (·.nameOf id)
  let players := (← get).roster.players
  return [.unicast id (.playerList (players.map fun p => (p.name, p.ready)))]

/-- `Session.playerStats` in place. -/
def playerStats (id : PlayerId) : Work δ (List Effect) := do
  let _ ← demand (·.nameOf id)
  let players := (← get).roster.players
  return [.unicast id (.playerStats (players.map fun p => (p.name, p.job, p.health)))]

/-- `Session.chat` in place. -/
def chat (id : PlayerId) (text : String) : Work δ (List Effect) := do
  let name ← demand (·.nameOf id)
  return if Text.isBlankText text then [] else [.broadcast (.chat (name ++ ": " ++ text))]

/-- `Session.chooseJob` in place. The job and `ready` are two changes, as in `choose_job`. -/
def chooseJob (id : PlayerId) (job : Job) : Work δ (List Effect) := do
  refuse (·.game ≠ .characterSelect) (.wrongPhase .chooseJob)
  refuse (fun _ => job = .unassigned) (.invalidJob job)
  refuse (!·.turns.isHolder id) (.outOfTurn id)
  let name ← demand (·.nameOf id)
  changeRoster (·.update id ({ · with job }))
  changeRoster (·.update id ({ · with ready := true }))
  let effects ← proceed advanceSelect
  return .announce (name ++ " has chosen to be a " ++ job.title) :: effects

/-- `Action.delta` with the dice of the session in place. -/
def roll [Dice δ] (action : Action) : Work δ Int32 :=
  modifyGet fun s => ((action.delta s.dice).1, { s with dice := (action.delta s.dice).2 })

/-- The player `id`, or `unknownPlayer`. -/
def player (id : PlayerId) : Work δ Player :=
  demand fun s =>
    match s.roster.get? id with
    | some p => .ok p
    | none => .error (.unknownPlayer id)

/-- `Session.takeAction` in place: the roll and the health are two changes, as in `take_action`. -/
def takeAction [Dice δ] (id : PlayerId) (action : Action) (name : String) :
    Work δ (List Effect) := do
  refuse (·.game ≠ .main) (.wrongPhase .act)
  refuse (!·.turns.isHolder id) (.outOfTurn id)
  let actor ← demand (·.nameOf id)
  let targetId ← demand (·.target id name)
  let p ← player targetId
  let delta ← roll action
  let standing := p.toStanding.change delta
  changeRoster (·.update targetId fun _ => standing)
  let effects ← proceed advanceMain
  return .announce (action.describe actor p.name delta) ::
    .broadcast (.healthChanged p.name standing.health) :: effects

/-- `Session.request` in place. -/
def request [Dice δ] (id : PlayerId) : Request → Work δ (List Effect)
  | .intro name ready => register id name ready
  | .ready => setReady id true
  | .unready => setReady id false
  | .listPlayers => playerList id
  | .listStats => playerStats id
  | .chat text => chat id text
  | .chooseJob job => chooseJob id job
  | .act action name => takeAction id action name

/-! ## Running work -/

section

variable {why : Refusal} {against : Session δ → Bool} {look : Session δ → Except Refusal α}

@[simp] theorem runOn_refuse (s : Session δ) :
    (refuse against why).runOn s = (if against s then .error why else .ok (), s) := by
  rw [refuse, Work.runOn_bind, Work.runOn_get]
  show (if against s then throw why else pure () : Work δ Unit).runOn s = _
  split <;> rfl

@[simp] theorem runOn_demand (s : Session δ) : (demand look).runOn s = (look s, s) := by
  rw [demand, Work.runOn_bind, Work.runOn_get]
  cases found : look s with
  | error why => simp only [found]; rfl
  | ok x => simp only [found]; rfl

@[simp] theorem runOn_changeRoster (f : Roster → Roster) (s : Session δ) :
    (changeRoster f).runOn s = (.ok (), { s with roster := f s.roster }) := rfl

@[simp] theorem runOn_proceed (part : Session δ → Step δ) (s : Session δ) :
    (proceed part).runOn s = (.ok (part s).2, (part s).1) := rfl

@[simp] theorem runOn_roll [Dice δ] (action : Action) (s : Session δ) :
    (roll action).runOn s =
      (.ok (action.delta s.dice).1, { s with dice := (action.delta s.dice).2 }) := rfl

end

end Work

/-- An outcome as the result of a computation in place that a refusal leaves unchanged. -/
def settle (s : Session δ) : Outcome δ → Except Refusal (List Effect) × Session δ
  | .ok step => (.ok step.2, step.1)
  | .error why => (.error why, s)

/-- `Session.handle` with `Work.request`: what a refused request has changed stays changed. -/
def handleInPlace [Dice δ] (s : Session δ) (id : PlayerId) (r : Request) : Step δ :=
  match (Work.request id r).runOn s with
  | (.ok effects, t) => (t, effects)
  | (.error why, t) => (t, why.effects id)

/-! ## Requests done in place -/

theorem runOn_register (s : Session δ) (id : PlayerId) (name : String) (ready : Bool) :
    (Work.register id name ready).runOn s = s.settle (s.register id name ready) := by
  unfold Session.register
  split
  · rename_i started
    simp [Work.register, started, settle]
  · rename_i lobby
    cases joins : s.roster.register id name ready with
    | error why => simp [Work.register, lobby, joins, settle, Except.mapError]
    | ok roster =>
      cases ready <;>
        simp [Work.register, lobby, joins, settle, Except.mapError]

theorem runOn_setReady (s : Session δ) (id : PlayerId) (ready : Bool) :
    (Work.setReady id ready).runOn s = s.settle (s.setReady id ready) := by
  unfold Session.setReady
  split
  · rename_i started
    simp [Work.setReady, started, settle]
  · rename_i lobby
    cases named : s.nameOf id with
    | error why => simp [Work.setReady, lobby, named, settle]
    | ok name => cases ready <;> simp [Work.setReady, lobby, named, settle]

theorem runOn_playerList (s : Session δ) (id : PlayerId) :
    (Work.playerList id).runOn s = s.settle (s.playerList id) := by
  unfold Session.playerList
  cases named : s.nameOf id <;> simp [Work.playerList, named, settle]

theorem runOn_playerStats (s : Session δ) (id : PlayerId) :
    (Work.playerStats id).runOn s = s.settle (s.playerStats id) := by
  unfold Session.playerStats
  cases named : s.nameOf id <;> simp [Work.playerStats, named, settle]

theorem runOn_chat (s : Session δ) (id : PlayerId) (text : String) :
    (Work.chat id text).runOn s = s.settle (s.chat id text) := by
  unfold Session.chat
  cases named : s.nameOf id with
  | error why => simp [Work.chat, named, settle]
  | ok name =>
    by_cases blank : Text.isBlankText text
    · simp [Work.chat, named, blank, settle]
    · simp [Work.chat, named, blank, settle]

theorem runOn_chooseJob (s : Session δ) (id : PlayerId) (job : Job) :
    (Work.chooseJob id job).runOn s = s.settle (s.chooseJob id job) := by
  unfold Session.chooseJob
  split
  · rename_i other
    simp [Work.chooseJob, other, settle]
  · rename_i select
    rw [not_not] at select
    split
    · rename_i none_
      simp [Work.chooseJob, select, none_, settle]
    · rename_i real
      split
      · rename_i waits
        simp [Work.chooseJob, select, real, waits, settle]
      · rename_i holds
        rw [not_not] at holds
        cases named : s.nameOf id with
        | error why => simp [Work.chooseJob, select, real, holds, named, settle]
        | ok name =>
          -- the job and the flag are noted one after the other
          simp [Work.chooseJob, select, real, holds, named, settle,
            Roster.update_update, Function.comp_def]

theorem runOn_takeAction [Dice δ] (s : Session δ) (id : PlayerId) (action : Action)
    (name : String) :
    (Work.takeAction id action name).runOn s = s.settle (s.takeAction id action name) := by
  unfold Session.takeAction
  split
  · rename_i other
    simp [Work.takeAction, other, settle]
  · rename_i main
    rw [not_not] at main
    split
    · rename_i waits
      simp [Work.takeAction, main, waits, settle]
    · rename_i holds
      rw [not_not] at holds
      cases named : s.nameOf id with
      | error why => simp [Work.takeAction, main, holds, named, settle]
      | ok actor =>
        cases meant : s.target id name with
        | error why => simp [Work.takeAction, main, holds, named, meant, settle]
        | ok other =>
          cases found : s.roster.get? other with
          | none =>
            simp [Work.takeAction, Work.player, main, holds, named, meant, found, settle]
          | some p =>
            simp [Work.takeAction, Work.player, main, holds, named, meant, found, settle,
              Action.resolve]

/-- Done in place, a request leads to what it leads to otherwise, and a refused one leaves the
session as it was. -/
theorem runOn_request [Dice δ] (s : Session δ) (id : PlayerId) (r : Request) :
    (Work.request id r).runOn s = s.settle (s.request id r) := by
  cases r with
  | intro name ready => exact runOn_register s id name ready
  | ready => exact runOn_setReady s id true
  | unready => exact runOn_setReady s id false
  | listPlayers => exact runOn_playerList s id
  | listStats => exact runOn_playerStats s id
  | chat text => exact runOn_chat s id text
  | chooseJob job => exact runOn_chooseJob s id job
  | act action name => exact runOn_takeAction s id action name

/-- Handled in place, a request leads to what it leads to otherwise. -/
theorem handleInPlace_eq [Dice δ] (s : Session δ) (id : PlayerId) (r : Request) :
    s.handleInPlace id r = s.handle id r := by
  unfold handleInPlace handle
  rw [runOn_request]
  cases s.request id r <;> rfl

end Session

end Skirmish
