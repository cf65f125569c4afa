import Mathlib.Algebra.Group.Action.Defs
import Mathlib.Algebra.Order.BigOperators.Group.List
import Mathlib.Algebra.Order.Ring.Nat
import Skirmish.Proofs.Combat
import Skirmish.Proofs.Session.Finality
import Skirmish.Proofs.Session.Healths

/-!
# How long a fight lasts

If all `actions` of a run are attacks, each takes at least 6 off a health that starts at
`Rules.startingHealth`, which is 100. So a player takes at most 17 of them, and the survivor at most
16, whoever aims at whom and whoever gives up.

The potential is `Roster.endurance`, the number of weakest attacks that the living can still take:
`⌈health / 6⌉` each. In a game no operation raises it and every attack lowers it (`Spent`).

Results:

* `Condition.endurance_change`: an attack lowers the endurance of its target;
* `Roster.endurance_update`, `Roster.aliveCount_le_endurance`: the endurance of a roster;
* `Spent.perform`, `Spent.run`: the invariant over one operation and a run;
* `length_actions_le_of_run`: at most `17 * n - 1` attacks in any run.
-/

namespace Skirmish

/-! ## Endurance -/

namespace Condition

/-- `⌈health / 6⌉` for the living, `0` for the dead: how many attacks of `-6` can be taken. -/
def endurance (c : Condition) : Nat :=
  if c.alive then (c.health.toInt.toNat + 5) / 6 else 0

theorem endurance_le {c : Condition} (whole : c.health ≤ Rules.startingHealth) :
    c.endurance ≤ 17 := by
  have start : Rules.startingHealth.toInt = 100 := rfl
  rw [Int32.le_iff_toInt_le] at whole
  unfold endurance
  split <;> omega

theorem endurance_pos {c : Condition} (alive : c.alive = true) (health : 0 < c.health) :
    1 ≤ c.endurance := by
  have none : (0 : Int32).toInt = 0 := rfl
  rw [Int32.lt_iff_toInt_lt] at health
  rw [endurance, if_pos alive]
  omega

variable {st : Standing} {delta : Int32}

/-- Above health `0` an attack does not saturate at `Int32.minValue`. -/
theorem toInt_health_change (alive : st.alive = true) (health : 0 < st.health)
    (taken : -18 ≤ delta.toInt ∧ delta.toInt ≤ -6) :
    (st.change delta).health.toInt = st.health.toInt + delta.toInt := by
  have none : (0 : Int32).toInt = 0 := rfl
  have bound := st.health.toInt_lt
  have sum := toInt_addHealth st.health delta
  rw [Int32.lt_iff_toInt_lt] at health
  rw [Standing.change, if_pos alive, sum]
  omega

/-- An attack, of `-18` to `-6`, lowers the endurance by at least one. -/
theorem endurance_change (alive : st.alive = true) (health : 0 < st.health)
    (taken : -18 ≤ delta.toInt ∧ delta.toInt ≤ -6) :
    (st.change delta).condition.endurance + 1 ≤ st.condition.endurance := by
  have after := toInt_health_change alive health taken
  have before : st.condition.endurance = (st.health.toInt.toNat + 5) / 6 := if_pos alive
  have none : (0 : Int32).toInt = 0 := rfl
  rw [Int32.lt_iff_toInt_lt] at health
  rw [before, endurance]
  split
  · rw [Standing.condition, after]
    omega
  · omega

end Condition

namespace Roster

variable {r : Roster} {id : PlayerId} {p : Player} {f : Standing → Standing}

/-- The sum of `Condition.endurance` over all players. -/
def endurance (r : Roster) : Nat :=
  (r.conditions.map Condition.endurance).sum

theorem endurance_eq (r : Roster) :
    r.endurance = (r.players.map (·.condition.endurance)).sum := by
  rw [endurance, conditions, List.map_map]
  rfl

/-- `update` of a player that is found changes the sum by the endurance of that player alone. -/
theorem endurance_update (found : r.get? id = some p) :
    (r.update id f).endurance + p.condition.endurance =
      r.endurance + (f p.toStanding).condition.endurance := by
  obtain ⟨before, after, old, new⟩ := players_update_split found f
  have own : (p.mapStanding f).condition = (f p.toStanding).condition := rfl
  rw [endurance_eq, endurance_eq, old, new, List.map_append, List.map_append, List.map_cons,
    List.map_cons, List.sum_append, List.sum_append, List.sum_cons, List.sum_cons, own]
  omega

theorem endurance_le (whole : ∀ c ∈ r.conditions, c.health ≤ Rules.startingHealth) :
    r.endurance ≤ 17 * r.players.length := by
  have each : ∀ e ∈ r.conditions.map Condition.endurance, e ≤ 17 := by
    intro e he
    obtain ⟨c, hc, rfl⟩ := List.mem_map.mp he
    exact Condition.endurance_le (whole c hc)
  have all := List.sum_le_card_nsmul _ 17 each
  rwa [List.length_map, length_conditions, smul_eq_mul, Nat.mul_comm] at all

/-- `aliveCount ≤ endurance` if the living have health above `0`. -/
theorem aliveCount_le_endurance (vital : r.Vital) : r.aliveCount ≤ r.endurance := by
  have lives : ∀ p ∈ r.players, p.alive = true → 1 ≤ p.condition.endurance := fun p hp alive =>
    Condition.endurance_pos alive ((vital p hp).mp alive)
  rw [aliveCount, endurance_eq]
  generalize r.players = players at lives
  induction players with
  | nil => exact Nat.le_refl 0
  | cons p rest ih =>
    rw [List.forall_mem_cons] at lives
    have others := ih lives.2
    rw [List.countP_cons, List.map_cons, List.sum_cons]
    split
    · have own := lives.1 ‹_›
      omega
    · omega

end Roster

namespace Session

variable {δ : Type} {s : Session δ} {roster : Roster} {attacks : Nat}

/-! ## Attacks so far -/

/-- After `attacks` attacks and no other action: `none` in the lobby and `characterSelect`, no
health above `Rules.startingHealth`, at most `17` for each player less the endurance, and somebody
lives after the first. -/
structure Spent (s : Session δ) (attacks : Nat) : Prop where
  none : s.Early → attacks = 0
  whole : ∀ c ∈ s.roster.conditions, c.health ≤ Rules.startingHealth
  total : attacks + s.roster.endurance ≤ 17 * s.roster.players.length
  somebody : 0 < attacks → 1 ≤ s.roster.aliveCount

theorem Spent.new (expected : Nat) (dice : δ) : Spent (Session.new expected dice) 0 where
  none _ := rfl
  whole _ hc := nomatch hc
  total := Nat.le_refl 0
  somebody made := absurd made (Nat.lt_irrefl 0)

theorem started_of_not_early (h : Orderly s) (late : ¬s.Early) : s.connection = .inProgress :=
  h.started_iff.mpr fun pending => late (.inl pending)

/-- `attacks ≤ 17 * n - 1` for `n` players, and with `17 * n - 1` of them the game is over. -/
theorem Spent.lasts (spent : s.Spent attacks) (h : Orderly s) (vital : s.roster.Vital)
    (seated : 0 < s.roster.players.length) :
    attacks < 17 * s.roster.players.length ∧
      (17 * s.roster.players.length ≤ attacks + 1 → s.game = .gameOver) := by
  have left := Roster.aliveCount_le_endurance vital
  have total := spent.total
  constructor
  · by_cases made : 0 < attacks
    · have somebody := spent.somebody made
      omega
    · omega
  · intro many
    -- in the main phase two live, who could take one more each
    by_contra going
    by_cases early : s.Early
    · have none := spent.none early
      omega
    · have started := started_of_not_early h early
      have main := (h.playing_of_inProgress started going).resolve_left fun select =>
        early (.inr select)
      have two := h.two_alive main
      omega

/-- `gameOver` accepts no action. -/
theorem Alters.actions_eq_nil_of_gameOver [Dice δ] {accepted : List Action}
    (h : s.Alters accepted roster) (ended : s.game = .gameOver) : accepted = [] := by
  cases h with
  | keeps | joins | leaves | forfeits => rfl
  | acts main => cases main.symm.trans ended

variable [Dice δ] [Dice.Fair δ]

/-- Attacks keep every health at `Rules.startingHealth` or below. -/
theorem Alters.whole {accepted : List Action} (h : s.Alters accepted roster)
    (vital : s.roster.Vital) (attacks : ∀ a ∈ accepted, a.isAttack = true)
    (whole : ∀ c ∈ s.roster.conditions, c.health ≤ Rules.startingHealth) :
    ∀ c ∈ roster.conditions, c.health ≤ Rules.startingHealth := by
  cases h with
  | keeps same =>
    rw [same]
    exact whole
  | joins lobby grows =>
    intro c hc
    rw [grows, List.mem_append, List.mem_singleton] at hc
    rcases hc with old | rfl
    · exact whole c old
    · exact Int32.le_refl _
  | leaves lobby shrinks => exact fun c hc => whole c (shrinks.subset hc)
  | forfeits found alive =>
    refine Roster.forall_conditions_update whole fun q there => ?_
    show (if q.health ≤ 0 then q.health else 0) ≤ _
    split
    · exact whole _ (Roster.condition_mem (Roster.mem_of_get? there))
    · decide
  | @acts id p action main found alive =>
    -- the player that is found again is the one that is attacked
    refine Roster.forall_conditions_update whole fun q there => ?_
    rw [found, Option.some.injEq] at there
    subst there
    have before := whole _ (Roster.condition_mem (Roster.mem_of_get? found))
    have health : 0 < p.health := (vital p (Roster.mem_of_get? found)).mp alive
    have taken := Action.delta_of_isAttack (attacks action List.mem_cons_self) s.dice
    have after := Condition.toInt_health_change alive health taken
    rw [Int32.le_iff_toInt_le] at before ⊢
    show (p.toStanding.change _).health.toInt ≤ _
    rw [after]
    have same : p.condition.health = p.health := rfl
    rw [same] at before
    omega

/-- In a game, `n` attacks lower the endurance by at least `n`, and the number of players stays. -/
theorem Alters.endurance_le {accepted : List Action}
    (h : s.Alters accepted roster) (vital : s.roster.Vital) (started : s.connection = .inProgress)
    (attacks : ∀ a ∈ accepted, a.isAttack = true) :
    accepted.length + roster.endurance ≤ s.roster.endurance ∧
      roster.players.length = s.roster.players.length := by
  have seats (id : PlayerId) (f : Standing → Standing) :
      (s.roster.update id f).players.length = s.roster.players.length := by
    rw [Roster.players_update, List.length_map]
  cases h with
  | keeps same =>
    have length := congrArg List.length same
    rw [Roster.length_conditions, Roster.length_conditions] at length
    rw [Roster.endurance, same]
    exact ⟨Nat.le_of_eq (Nat.zero_add _), length⟩
  | joins lobby => exact absurd started lobby
  | leaves lobby => exact absurd started lobby
  | @forfeits id p found alive =>
    have change := Roster.endurance_update (f := Standing.forfeit) found
    have none : p.toStanding.forfeit.condition.endurance = 0 := rfl
    refine ⟨?_, seats id _⟩
    rw [List.length_nil]
    omega
  | @acts id p action main found alive =>
    have change := Roster.endurance_update (f := (·.change (action.delta s.dice).1)) found
    have health : 0 < p.health := (vital p (Roster.mem_of_get? found)).mp alive
    have taken := Action.delta_of_isAttack (attacks action List.mem_cons_self) s.dice
    have less := Condition.endurance_change alive health taken
    refine ⟨?_, seats id _⟩
    rw [List.length_singleton]
    omega

theorem Spent.perform (spent : s.Spent attacks) (h : Orderly s)
    (vital : s.roster.Vital) (op : Op) (fierce : ∀ a ∈ s.actions [op], a.isAttack = true) :
    (s.perform op).1.Spent (attacks + (s.actions [op]).length) := by
  have alters := perform_alters h op
  have whole := alters.whole vital fierce spent.whole
  by_cases early : s.Early
  · -- no attack has been made, and none is made now
    rw [alters.actions_eq_nil early, spent.none early]
    refine ⟨fun _ => rfl, whole, ?_, fun made => absurd made (Nat.lt_irrefl 0)⟩
    exact (Nat.zero_add _).trans_le (Roster.endurance_le whole)
  · have started := started_of_not_early h early
    obtain ⟨less, length⟩ := alters.endurance_le vital started fierce
    have total := spent.total
    refine ⟨fun before => absurd (before.of_perform h) early, whole, by omega, fun made => ?_⟩
    by_cases ended : s.game = .gameOver
    · rw [alters.actions_eq_nil_of_gameOver ended] at made
      rw [perform_eq_of_gameOver h ended]
      exact spent.somebody made
    · have main := (h.playing_of_inProgress started ended).resolve_left fun select =>
        early (.inr select)
      exact (perform_plays h started op).one_alive h main

theorem Spent.run (spent : s.Spent attacks) (h : Orderly s)
    (vital : s.roster.Vital) (ops : List Op) (fierce : ∀ a ∈ s.actions ops, a.isAttack = true) :
    (s.run ops).1.Spent (attacks + (s.actions ops).length) := by
  induction ops generalizing s attacks with
  | nil => exact spent
  | cons op rest ih =>
    rw [actions_cons, List.forall_mem_append] at fierce
    rw [actions_cons, List.length_append, ← Nat.add_assoc]
    have next := spent.perform h vital op fierce.1
    exact ih next (h.perform op) ((perform_reported h op).vital vital) fierce.2

/-- In a lobby and in `characterSelect` no action is accepted. If all `actions` of a run are attacks
and the dice deal from 6 to 18, a session of `n` players accepts at most `17 * n - 1`, and is in
`gameOver` when it has accepted that many. Targets and disconnects are arbitrary. -/
theorem length_actions_le_of_run (expected : Nat) (dice : δ) (ops : List Op) :
    let s := ((Session.new expected dice).run ops).1
    let actions := (Session.new expected dice).actions ops
    let n := s.roster.players.length
    (s.game = .pending ∨ s.game = .characterSelect → actions = []) ∧
      (0 < n → (∀ a ∈ actions, a = .attack ∨ a = .attackRandom) →
        actions.length ≤ 17 * n - 1 ∧ (actions.length = 17 * n - 1 → s.game = .gameOver)) := by
  intro s actions n
  refine ⟨fun early => (early_run expected dice ops early).1, fun seated all => ?_⟩
  have fresh := Orderly.new expected dice
  have vital := vital_new expected dice
  have fierce : ∀ a ∈ actions, a.isAttack = true := by
    intro a ha
    rcases all a ha with rfl | rfl <;> rfl
  have spent := (Spent.new expected dice).run fresh vital ops fierce
  rw [Nat.zero_add] at spent
  have lasts : actions.length < 17 * n ∧ (17 * n ≤ actions.length + 1 → s.game = .gameOver) :=
    spent.lasts (fresh.run ops) (vital_run fresh vital ops) seated
  exact ⟨by omega, fun last => lasts.2 (by omega)⟩

/-- Two players attack each other by turns, 33 times, each time for 6. -/
def longestFight : List Op :=
  [.opened, .handle ⟨1⟩ (.intro "A" true), .handle ⟨2⟩ (.intro "B" true),
    .handle ⟨1⟩ (.chooseJob .wizard), .handle ⟨2⟩ (.chooseJob .warrior)] ++
  (List.replicate 16 [Op.handle ⟨1⟩ (.act .attackRandom "B"),
    .handle ⟨2⟩ (.act .attackRandom "A")]).flatten ++
  [.handle ⟨1⟩ (.act .attackRandom "B")]

/-- `longestFight` has `17 * 2 - 1` actions, and is over. -/
theorem length_actions_le_of_run_longest :
    let s := ((Session.new 2 (⟨[]⟩ : Script)).run longestFight).1
    let actions := (Session.new 2 (⟨[]⟩ : Script)).actions longestFight
    (∀ a ∈ actions, a = .attack ∨ a = .attackRandom) ∧ s.roster.players.length = 2 ∧
      actions.length = 17 * 2 - 1 ∧ s.game = .gameOver := by
  have two : ((Session.new 2 (⟨[]⟩ : Script)).run longestFight).1.roster.players.length = 2 := by
    decide +kernel
  have fierce : (Session.new 2 (⟨[]⟩ : Script)).actions longestFight =
      List.replicate 33 .attackRandom := by
    decide +kernel
  have all : ∀ a ∈ (Session.new 2 (⟨[]⟩ : Script)).actions longestFight,
      a = .attack ∨ a = .attackRandom := by
    rw [fierce]
    exact fun a ha => .inr (List.eq_of_mem_replicate ha)
  have lasts := (length_actions_le_of_run 2 (⟨[]⟩ : Script) longestFight).2
  rw [two] at lasts
  have many : ((Session.new 2 (⟨[]⟩ : Script)).actions longestFight).length = 17 * 2 - 1 := by
    rw [fierce, List.length_replicate]
  exact ⟨all, two, many, (lasts (by decide) all).2 many⟩

end Session

end Skirmish
