import Skirmish.Proofs.Combat
import Skirmish.Proofs.Session.Handover
import Skirmish.Proofs.Session.Play

/-!
# What an action does

An accepted `act` is a `Deed`: it changes health and life of its target and takes at most one roll
off the dice, and everything else about the players stays. Its first two effects are the line about
the action and `healthChanged` with the new health; what `advance_main` has to say follows
(`Aftermath`).

Results:

* `advanceMain_aftermath`: the effects of `advanceMain`;
* `resolve_of_alive`, `meant_of_target`: `Action.resolve` of a living player, and whom a name means;
* `takeAction_deed`: an accepted action is a `Deed`;
* `exists_deed_of_takeAction`: the same after any run.
-/

namespace Skirmish.Session

variable {δ : Type} {s t : Session δ} {id : PlayerId} {action : Action} {name : String}
  {step : Step δ} {p : Player}

/-- The effects behind an action: the line and the `takeTurn` of a living player, or the verdict and
`ended`. -/
inductive Aftermath (t : Session δ) : List Effect → Prop
  | turn {q : Player} (main : t.game = .main) (holder : t.turns.holder = some q.id)
      (member : q ∈ t.roster.players) (alive : q.alive = true) (many : 2 ≤ t.roster.aliveCount) :
      Aftermath t [.announce (q.name ++ "'s turn"), .unicast q.id .takeTurn]
  | decided (ended : t.game = .gameOver) (holder : t.turns.holder = none)
      (few : t.roster.aliveCount ≤ 1) :
      Aftermath t
        [.announce (t.roster.survivor?.elim "Nobody wins." (· ++ " wins!")), .ended]

/-- An accepted `action` of `id` at the target `name`: `actor` acts, `p` is the target before it,
`n` is what is added to its health, `health` is the saturated sum, and `later` are the effects
behind the two of the action. -/
structure Deed [Dice δ] (s : Session δ) (id : PlayerId) (action : Action) (name : String)
    (step : Step δ) (actor p : Player) (n : Int) (health : Int32) (later : List Effect) : Prop where
  holder : s.turns.holder = some id
  acts : s.roster.get? id = some actor
  /-- The target `p` has the `name`; it is the `actor` if that is `Rules.selfWord`. -/
  meant : if name = Rules.selfWord then p = actor else p.name = name
  lived : p.alive = true
  deals : action.Deals s.dice n step.1.dice
  sum : health.toInt = max (-0x80000000) (min 0x7FFFFFFF (p.health.toInt + n))
  /-- Only `health` and `alive` of the target `p` change. -/
  others : ∃ before behind, s.roster.players = before ++ p :: behind ∧
    step.1.roster.players = before ++ { p with health, alive := 0 < health } :: behind
  capacity : step.1.roster.capacity = s.roster.capacity
  connection : step.1.connection = s.connection
  told : step.2 =
    .announce (actor.name ++ " " ++ action.verb ++ " " ++ p.name ++ " for " ++ toString n.natAbs) ::
      .broadcast (.healthChanged p.name health) :: later
  /-- `healthChanged` tells the health that `p` has in `step.1`. -/
  reported : (step.1.roster.get? p.id).map (·.health) = some health
  goesOn : Aftermath step.1 later
  /-- Neither `takeTurn` nor a milestone comes before `later`. -/
  first : ∀ e ∈ step.2.take 2, e.taker? = none ∧ e.isMilestone = false

/-! ## How the game goes on -/

theorem advanceMain_aftermath (main : s.game = .main) :
    Aftermath s.advanceMain.1 s.advanceMain.2 := by
  rcases s.advanceMain_cases with ⟨q, member, alive, many, -, eq⟩ | ⟨few, eq⟩ <;> rw [eq]
  · exact .turn main rfl member alive many
  · have ended : (s.finish s.roster.survivor?).1.game = .gameOver := by
      simp [finish]
    have line : (s.finish s.roster.survivor?).2 =
        [.announce (s.roster.survivor?.elim "Nobody wins." (· ++ " wins!")), .ended] := by
      cases won : s.roster.survivor? <;> rfl
    rw [line]
    exact .decided ended rfl few

@[simp] theorem connection_advanceMain (s : Session δ) :
    s.advanceMain.1.connection = s.connection := by
  rcases s.advanceMain_cases with ⟨q, -, -, -, -, eq⟩ | ⟨-, eq⟩ <;> rw [eq]
  rfl

@[simp] theorem dice_advanceMain (s : Session δ) : s.advanceMain.1.dice = s.dice := by
  rcases s.advanceMain_cases with ⟨q, -, -, -, -, eq⟩ | ⟨-, eq⟩ <;> rw [eq]
  rfl

/-! ## The action -/

/-- `Action.resolve` of a living standing, with its `addHealth`. -/
theorem resolve_of_alive [Dice δ] (action : Action) {st : Standing} (alive : st.alive = true)
    (dice : δ) :
    let health := addHealth st.health (action.delta dice).1
    (action.resolve st dice).1.health = health ∧
      (action.resolve st dice).2.1 = { st with health, alive := 0 < health } := by
  simp [Action.resolve, Standing.change, alive]

/-- What `Session.target` finds is the actor for `Rules.selfWord`, and otherwise the player of that
name. -/
theorem meant_of_target {actor : Player} (acts : s.roster.get? id = some actor)
    (found : s.roster.get? p.id = some p) (target : s.target id name = .ok p.id) :
    if name = Rules.selfWord then p = actor else p.name = name := by
  rw [target_eq_ok_iff] at target
  split at target
  · rename_i own
    rw [if_pos own]
    rw [target, acts, Option.some.injEq] at found
    exact found.symm
  · rename_i other
    rw [if_neg other]
    obtain ⟨q, hq, named, -, same⟩ := target
    rw [← Roster.eq_of_id_eq hq (Roster.mem_of_get? found) same, named]

/-- An accepted action of an `Orderly` session is a `Deed`. -/
theorem takeAction_deed [Dice δ] [Dice.Fair δ] (h : Orderly s)
    (ok : s.takeAction id action name = .ok step) :
    ∃ actor p n health later, s.Deed id action name step actor p n health later := by
  obtain ⟨main, holder, actor, other, p, acts, target, found, rfl⟩ := takeAction_eq_ok_iff.mp ok
  have lived : p.alive = true := alive_of_target h holder target found
  obtain ⟨-, rfl⟩ := Roster.get?_eq_some_iff.mp found
  obtain ⟨told, changed⟩ := resolve_of_alive action lived s.dice
  obtain ⟨before, behind, old, new⟩ := Roster.players_update_split found
    fun _ => (action.resolve p.toStanding s.dice).2.1
  have after := (s.roster.get?_update p.id p.id
    fun _ => (action.resolve p.toStanding s.dice).2.1)
  rw [found, Option.map_some, if_pos rfl] at after
  obtain ⟨u, hu⟩ : ∃ u : Session δ, u = { s with
      roster := s.roster.update p.id fun _ => (action.resolve p.toStanding s.dice).2.1
      dice := (action.resolve p.toStanding s.dice).2.2 } := ⟨_, rfl⟩
  have roster : u.advanceMain.1.roster = s.roster.update p.id
      fun _ => (action.resolve p.toStanding s.dice).2.1 := by
    rw [roster_advanceMain, hu]
  have dice : u.advanceMain.1.dice = (action.delta s.dice).2 := by
    rw [dice_advanceMain, hu]
    rfl
  have connection : u.advanceMain.1.connection = s.connection := by
    rw [connection_advanceMain, hu]
  rw [told, ← hu]
  refine ⟨actor, p, (action.delta s.dice).1.toInt, addHealth p.health (action.delta s.dice).1,
    u.advanceMain.2, ?_⟩
  exact {
    holder, acts, lived, connection
    meant := meant_of_target acts found target
    deals := by rw [dice]; exact action.deals_delta s.dice
    sum := toInt_addHealth _ _
    others := ⟨before, behind, old, by rw [roster, new, changed]; rfl⟩
    capacity := by rw [roster, Roster.capacity_update]
    told := rfl
    reported := by rw [roster, after, changed]; rfl
    goesOn := advanceMain_aftermath (by rw [hu]; exact main)
    first := by simp [Effect.taker?, Effect.isMilestone, Effect.announce, Notice.serverLine] }

/-- After every run with fair dice, `takeAction` that succeeds is a `Deed`: one roll for a random
action and none otherwise, `health` and `alive` of the target changed and nothing else in the
roster, the line and `healthChanged` as the first two effects, and the `Aftermath` behind them. -/
theorem exists_deed_of_takeAction [Dice δ] [Dice.Fair δ] (expected : Nat) (dice : δ)
    (ops : List Op) :
    let s := ((Session.new expected dice).run ops).1
    ∀ id action name step, s.takeAction id action name = .ok step →
      ∃ actor p n health later, s.Deed id action name step actor p n health later := by
  intro s id action name step ok
  exact takeAction_deed ((Orderly.new expected dice).run ops) ok

/-- A session of two in `main` in which both attack five times; the second player has 10 health
left. -/
def duelToTheDeath : List Op :=
  [.opened, .handle ⟨1⟩ (.intro "A" true), .handle ⟨2⟩ (.intro "B" true),
    .handle ⟨1⟩ (.chooseJob .wizard), .handle ⟨2⟩ (.chooseJob .warrior)] ++
  (List.replicate 5 [.handle ⟨1⟩ (.act .attackRandom "B"), .handle ⟨2⟩ (.act .attack "A")]).flatten

/-- The next attack takes one roll, is a `Deed` and ends the game. -/
theorem exists_deed_of_takeAction_deadly :
    let s := ((Session.new 2 (⟨List.replicate 6 18 ++ [7]⟩ : Script)).run duelToTheDeath).1
    ∃ step, s.takeAction ⟨1⟩ .attackRandom "B" = .ok step ∧
      step.1.game = .gameOver ∧ step.1.dice.rolls = [7] ∧
      ∃ actor p n health later, s.Deed ⟨1⟩ .attackRandom "B" step actor p n health later := by
  intro s
  have comes : (s.takeAction ⟨1⟩ .attackRandom "B").toOption.map
      (fun step => (step.1.game, step.1.dice.rolls)) = some (.gameOver, [7]) := by
    decide +kernel
  cases ok : s.takeAction ⟨1⟩ .attackRandom "B" with
  | error why =>
    rw [ok] at comes
    cases comes
  | ok step =>
    rw [ok] at comes
    obtain ⟨ended, rest⟩ := Prod.mk.inj (Option.some.inj comes)
    exact ⟨step, rfl, ended, rest, exists_deed_of_takeAction 2 _ duelToTheDeath _ _ _ step ok⟩

end Skirmish.Session
