import Skirmish.Proofs.Roster.Account
import Skirmish.Proofs.Session.Members
import Skirmish.Proofs.Session.Token

/-!
# Whom an action affects

`take_action` looks the target up with `find_by_name`, unless it is `Rules.selfWord`, which means
the actor. `validate_name` accepts `Rules.selfWord`, so a player can have it as its name, and no
other player can then aim at it.

Results:

* `target_name`: the player that the name of a living player means;
* `takeAction_affects`: an action affects that player and no other;
* `takeAction_affects_iff`: when that is the player with the name;
* `affects_iff_of_run`: the same after any run.
-/

namespace Skirmish

/-- Name and health of a `healthChanged` broadcast. -/
def Effect.health? : Effect → Option (String × Int32)
  | .broadcast (.healthChanged name health) => some (name, health)
  | _ => none

/-- The `healthChanged` broadcasts in `effects`, in order. -/
def healths (effects : List Effect) : List (String × Int32) :=
  effects.filterMap Effect.health?

namespace Session

variable {δ : Type} {s : Session δ} {id : PlayerId} {step : Step δ} {p : Player}

/-- `step` gives `p` the standing `after`, keeps every other player, and broadcasts `healthChanged`
once, with the name of `p` and the health in `after`. -/
structure Affects (s : Session δ) (step : Step δ) (p : Player) (after : Standing) : Prop where
  target : step.1.roster.get? p.id = some { p with toStanding := after }
  others : ∀ other, other ≠ p.id → step.1.roster.get? other = s.roster.get? other
  told : healths step.2 = [(p.name, after.health)]

/-- `advance_main` broadcasts no `healthChanged`. -/
theorem healths_advanceMain (s : Session δ) : healths s.advanceMain.2 = [] := by
  rcases s.advanceMain_cases with ⟨p, -, -, -, -, eq⟩ | ⟨-, eq⟩ <;> rw [eq]
  · rfl
  · rfl

/-- `target` of the name of a living `p` is `id` for `Rules.selfWord` and `p.id` for any other. -/
theorem target_name (hp : p ∈ s.roster.players) (alive : p.alive = true) (id : PlayerId) :
    s.target id p.name = .ok (if p.name = Rules.selfWord then id else p.id) := by
  rw [target_eq_ok_iff]
  split
  · rfl
  · exact ⟨p, hp, rfl, alive, rfl⟩

/-- A `takeAction` of the holder whose `target` is `p` is granted and `Affects` `p`, with the
standing of `Action.resolve`. -/
theorem takeAction_affects [Dice δ] {actor : Player} {name : String} (main : s.game = .main)
    (holder : s.turns.holder = some id) (acts : s.roster.get? id = some actor)
    (meant : s.target id name = .ok p.id) (found : s.roster.get? p.id = some p)
    (action : Action) :
    ∃ step, s.takeAction id action name = .ok step ∧
      s.Affects step p (action.resolve p.toStanding s.dice).2.1 := by
  refine ⟨_, takeAction_eq_ok_iff.mpr
    ⟨main, holder, actor, p.id, p, acts, meant, found, rfl⟩, ?_, ?_, ?_⟩
  · rw [roster_advanceMain, Roster.get?_update, found, Option.map_some, if_pos rfl]
    rfl
  · intro other differs
    rw [roster_advanceMain, Roster.get?_update]
    simp only [if_neg differs, Option.map_id']
  · have silent := healths_advanceMain { s with
      roster := s.roster.update p.id fun _ => (action.resolve p.toStanding s.dice).2.1
      dice := (action.resolve p.toStanding s.dice).2.2 }
    show (p.name, _) :: healths _ = _
    rw [silent]
    rfl

/-- One step does not affect two players. -/
theorem Affects.id_eq {q : Player} {after after' : Standing} (first : s.Affects step p after)
    (second : s.Affects step q after') (hp : s.roster.get? p.id = some p)
    (hq : s.roster.get? q.id = some q) : p.id = q.id := by
  by_contra differs
  have same : [(p.name, after.health)] = [(q.name, after'.health)] :=
    first.told.symm.trans second.told
  have named : p.name = q.name := by simpa using congrArg (List.map Prod.fst) same
  exact Roster.name_ne hq hp differs named

/-- An action of the holder at the name of a living `p` is granted, and `Affects` `p` iff the name
is not `Rules.selfWord` or `p` is the holder itself. -/
theorem takeAction_affects_iff [Dice δ] (h : Orderly s) (main : s.game = .main)
    (holder : s.turns.holder = some id) (hp : p ∈ s.roster.players) (alive : p.alive = true)
    (action : Action) :
    ∃ step, s.takeAction id action p.name = .ok step ∧
      (s.Affects step p (action.resolve p.toStanding s.dice).2.1 ↔
        p.name ≠ Rules.selfWord ∨ p.id = id) := by
  obtain ⟨actor, acts, -⟩ := h.holder_alive id holder
  have found := Roster.get?_id hp
  have meant := target_name hp alive id
  by_cases own : p.name = Rules.selfWord
  · -- the player with the turn is meant, whoever else has the name
    rw [if_pos own] at meant
    obtain ⟨-, rfl⟩ := Roster.get?_eq_some_iff.mp acts
    obtain ⟨step, ok, affects⟩ := takeAction_affects main holder acts meant acts action
    refine ⟨step, ok, ?_⟩
    constructor
    · intro other
      exact .inr (other.id_eq affects found acts)
    · intro free
      have same : p.id = actor.id := free.resolve_left (not_not_intro own)
      rw [same, acts, Option.some.injEq] at found
      rwa [← found]
  · rw [if_neg own] at meant
    obtain ⟨step, ok, affects⟩ := takeAction_affects main holder acts meant found action
    exact ⟨step, ok, iff_of_true affects (.inl own)⟩

/-- After any run that is in `main` with `id` as holder, and for every living `p`: an action of `id`
at the name of `p` is granted, and `Affects` `p` iff that name is not `Rules.selfWord` or `p` is the
holder. -/
theorem affects_iff_of_run [Dice δ] (expected : Nat) (dice : δ) (ops : List Op) :
    let s := ((Session.new expected dice).run ops).1
    s.game = .main → ∀ id, s.turns.holder = some id →
      ∀ p ∈ s.roster.players, p.alive = true → ∀ action : Action,
        ∃ step, s.takeAction id action p.name = .ok step ∧
          (s.Affects step p (action.resolve p.toStanding s.dice).2.1 ↔
            p.name ≠ Rules.selfWord ∨ p.id = id) := by
  intro s main id holder p hp alive action
  exact takeAction_affects_iff ((Orderly.new expected dice).run ops) main holder hp alive action

/-- A game of two, `A` and `me`, up to the first turn in `main`. -/
def namesake : List Op :=
  [.opened, .handle ⟨1⟩ (.intro "A" true), .handle ⟨2⟩ (.intro "me" true),
    .handle ⟨1⟩ (.chooseJob .wizard), .handle ⟨2⟩ (.chooseJob .warrior)]

/-- `A` can attack itself by its own name. -/
theorem affects_iff_of_run_namesake :
    let s := ((Session.new 2 (⟨[]⟩ : Script)).run namesake).1
    (s.game = .main ∧ s.turns.holder = some ⟨1⟩) ∧
      ∃ p ∈ s.roster.players, p.alive = true ∧ p.name = "A" ∧
        ∃ step, s.takeAction ⟨1⟩ .attack p.name = .ok step ∧
          s.Affects step p (Action.attack.resolve p.toStanding s.dice).2.1 := by
  have main : ((Session.new 2 (⟨[]⟩ : Script)).run namesake).1.game = .main := by decide +kernel
  have holder : ((Session.new 2 (⟨[]⟩ : Script)).run namesake).1.turns.holder = some ⟨1⟩ := by
    decide +kernel
  have there : ∃ p ∈ ((Session.new 2 (⟨[]⟩ : Script)).run namesake).1.roster.players,
      p.alive = true ∧ p.name = "A" := by
    decide +kernel
  obtain ⟨p, hp, alive, name⟩ := there
  obtain ⟨step, ok, affects⟩ :=
    affects_iff_of_run 2 (⟨[]⟩ : Script) namesake main ⟨1⟩ holder p hp alive .attack
  have other : p.name ≠ Rules.selfWord := by
    rw [name]
    decide
  exact ⟨⟨main, holder⟩, p, hp, alive, name, step, ok, affects.mpr (.inl other)⟩

/-- The attack of `A` on `me` changes the health of `A`. -/
theorem namesake_missed :
    let s := ((Session.new 2 (⟨[]⟩ : Script)).run namesake).1
    s.game = .main ∧ s.turns.holder = some ⟨1⟩ ∧
      ∃ p ∈ s.roster.players, p.alive = true ∧
        ¬∃ step, s.takeAction ⟨1⟩ .attack p.name = .ok step ∧
          s.Affects step p (Action.attack.resolve p.toStanding s.dice).2.1 := by
  intro s
  have there : ∃ p ∈ s.roster.players, p.alive = true ∧ p.name = "me" := by decide +kernel
  have hits : (s.takeAction ⟨1⟩ .attack "me").toOption.map (healths ·.2) = some [("A", 88)] := by
    decide +kernel
  obtain ⟨p, hp, alive, name⟩ := there
  refine ⟨by decide +kernel, by decide +kernel, p, hp, alive, ?_⟩
  rintro ⟨step, ok, affects⟩
  have told : healths step.2 = [("A", 88)] := by
    rw [← name, ok] at hits
    exact Option.some.inj hits
  rw [affects.told, name] at told
  simp at told

end Session

end Skirmish
