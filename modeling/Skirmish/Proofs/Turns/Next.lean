import Skirmish.Proofs.Turns.Round

/-!
# Who is next

`advance_main` for every token and roster. `Turns.Next` says who gets the token by slots alone,
without the search: everybody between the slot of the holder and that of the next player, round the
roster, is dead. It does not matter whether the holder lives; without a registered holder it is the
first living player.

Results:

* `between_iff`, `nextAlive_eq_some_iff_first`: the slots that `next_alive` passes;
* `Turns.bind_nextAlive_eq_some_iff`: `next_alive` finds the player that is `Next`;
* `Roster.aliveCount_eq_zero_iff`, `Roster.aliveCount_eq_one_iff`, `Roster.two_le_aliveCount_iff`:
  `aliveCount` by who `Lives`;
* `Turns.passesOn_advanceMain`: the outcome of `advance_main` for every token and roster.
-/

namespace Skirmish

variable {players : List Player} {p q : Player}

/-! ## Places round the roster -/

/-- Slot `k` lies behind `start` and before `slot`, round the roster. -/
def Between (start slot k : Nat) : Prop :=
  if start < slot then start < k ∧ k < slot else start < k ∨ k < slot

/-- `p` in `slot` is the first living player behind `start`, round the roster. -/
structure FirstBehind (players : List Player) (start slot : Nat) (p : Player) : Prop where
  here : players[slot]? = some p
  alive : p.alive = true
  passed : ∀ k, Between start slot k → ¬AliveAt players k

/-- The slots between `start` and where a search stops are those of its earlier steps. -/
theorem between_iff {n start step k : Nat} (hs : start < n) (bound : step < n) (hk : k < n) :
    Between start ((start + 1 + step) % n) k ↔
      ∃ earlier < step, (start + 1 + earlier) % n = k := by
  -- each place is one of the first round or, past the last slot, of the second
  have stop := mod_of_lt_two_mul (a := start + 1 + step) (n := n) (by omega)
  unfold Between
  constructor
  · intro between
    obtain ⟨earlier, within, rfl, -⟩ := exists_step hs hk
    have place := mod_of_lt_two_mul (a := start + 1 + earlier) (n := n) (by omega)
    refine ⟨earlier, ?_, rfl⟩
    split at between <;> omega
  · rintro ⟨earlier, before, rfl⟩
    have place := mod_of_lt_two_mul (a := start + 1 + earlier) (n := n) (by omega)
    split <;> omega

theorem nextAlive_eq_some_iff_first {start slot : Nat} (hs : start < players.length)
    (here : players[slot]? = some p) :
    nextAlive players start = some slot ↔ FirstBehind players start slot p := by
  have inside : slot < players.length := (List.getElem?_eq_some_iff.mp here).1
  rw [nextAlive_eq_some_iff]
  constructor
  · rintro ⟨step, bound, rfl, ⟨p', here', alive⟩, first⟩
    rw [here, Option.some.injEq] at here'
    refine ⟨here, here' ▸ alive, fun k between living => ?_⟩
    obtain ⟨earlier, before, rfl⟩ := (between_iff hs bound living.lt).mp between
    exact first earlier before living
  · rintro ⟨-, alive, passed⟩
    obtain ⟨step, bound, rfl, -⟩ := exists_step hs inside
    refine ⟨step, bound, rfl, ⟨p, here, alive⟩, fun earlier before living => ?_⟩
    exact passed _ ((between_iff hs bound living.lt).mpr ⟨earlier, before, rfl⟩) living

/-- The first living player behind the last slot is the first of all. -/
theorem firstBehind_last_iff {slot : Nat} :
    FirstBehind players (players.length - 1) slot p ↔ FrontAt players slot p := by
  constructor
  · rintro ⟨here, alive, passed⟩
    have inside : slot < players.length := (List.getElem?_eq_some_iff.mp here).1
    refine ⟨here, alive, fun k before => passed k ?_⟩
    rw [Between, if_neg (by omega)]
    exact .inr before
  · rintro ⟨here, alive, passed⟩
    have inside : slot < players.length := (List.getElem?_eq_some_iff.mp here).1
    refine ⟨here, alive, fun k between living => ?_⟩
    have within := living.lt
    rw [Between, if_neg (by omega)] at between
    exact passed k (by omega) living

/-! ## How many live -/

namespace Roster

variable {r : Roster} {id : PlayerId}

/-- The ids of the living players. -/
def livingIds (r : Roster) : List PlayerId :=
  (r.players.filter (·.alive)).map (·.id)

theorem length_livingIds (r : Roster) : r.livingIds.length = r.aliveCount := by
  rw [livingIds, List.length_map, aliveCount, List.countP_eq_length_filter]

theorem livingIds_nodup (r : Roster) : r.livingIds.Nodup :=
  r.ids_nodup.sublist (List.filter_sublist.map _)

theorem mem_livingIds : id ∈ r.livingIds ↔ r.Lives id := by
  simp only [livingIds, Lives, List.mem_map, List.mem_filter]
  constructor
  · rintro ⟨p, ⟨hp, alive⟩, own⟩
    exact ⟨p, hp, own, alive⟩
  · rintro ⟨p, hp, own, alive⟩
    exact ⟨p, ⟨hp, alive⟩, own⟩

theorem aliveCount_eq_zero_iff : r.aliveCount = 0 ↔ ∀ id, ¬r.Lives id := by
  rw [← length_livingIds, List.length_eq_zero_iff, List.eq_nil_iff_forall_not_mem]
  simp only [mem_livingIds]

/-- `id` is the only one in `livingIds` iff it is the only one that `Lives`. -/
theorem livingIds_eq_singleton_iff : r.livingIds = [id] ↔ ∀ other, r.Lives other ↔ other = id := by
  rw [← List.perm_singleton, List.perm_ext_iff_of_nodup r.livingIds_nodup (List.nodup_singleton id)]
  simp only [mem_livingIds, List.mem_singleton]

theorem aliveCount_eq_one_iff (lives : r.Lives id) :
    r.aliveCount = 1 ↔ ∀ other, r.Lives other ↔ other = id := by
  rw [← livingIds_eq_singleton_iff, ← length_livingIds, List.length_eq_one_iff]
  constructor
  · rintro ⟨only, eq⟩
    have there := mem_livingIds.mpr lives
    rw [eq, List.mem_singleton] at there
    rw [eq, there]
  · exact fun eq => ⟨id, eq⟩

theorem two_le_aliveCount_iff :
    2 ≤ r.aliveCount ↔ ∃ a b, r.Lives a ∧ r.Lives b ∧ a ≠ b := by
  constructor
  · intro two
    obtain ⟨p, hp, alive, -⟩ := exists_other_alive two default
    obtain ⟨q, hq, living, other⟩ := exists_other_alive two p.id
    exact ⟨p.id, q.id, ⟨p, hp, rfl, alive⟩, ⟨q, hq, rfl, living⟩, other.symm⟩
  · rintro ⟨a, b, livesA, livesB, differ⟩
    have some_ : r.aliveCount ≠ 0 := fun none => aliveCount_eq_zero_iff.mp none a livesA
    have more : r.aliveCount ≠ 1 := fun one =>
      differ (((aliveCount_eq_one_iff livesA).mp one b).mp livesB).symm
    omega

end Roster

/-! ## The token -/

/-- The holder after a step of `advance_main`. -/
def MainStep.holder? : MainStep → Option PlayerId
  | .turn id => some id
  | .winner _ | .noSurvivors => none

namespace Turns

variable {t : Turns} {r : Roster} {id : PlayerId}

/-- `p` is the first living player behind the slot of the holder, or the first of all if the holder
is not registered or there is none. -/
inductive Next (t : Turns) (r : Roster) (p : Player) : Prop
  | behind {start slot : Nat} {holder : Player} (has : t.holder = some holder.id)
      (own : r.players[start]? = some holder) (first : FirstBehind r.players start slot p)
  | front {slot : Nat} (absent : ∀ q ∈ r.players, t.holder ≠ some q.id)
      (first : FrontAt r.players slot p)

theorem holderSlot_eq_some_iff {slot : Nat} :
    t.holderSlot r = some slot ↔ ∃ q, r.players[slot]? = some q ∧ t.holder = some q.id := by
  rw [holderSlot, Option.bind_eq_some_iff]
  constructor
  · rintro ⟨id, has, own⟩
    obtain ⟨q, here, rfl⟩ := Roster.slot?_eq_some_iff.mp own
    exact ⟨q, here, has⟩
  · rintro ⟨q, here, has⟩
    exact ⟨q.id, has, Roster.slot?_eq_some_iff.mpr ⟨q, here, rfl⟩⟩

theorem holderSlot_eq_none_iff :
    t.holderSlot r = none ↔ ∀ q ∈ r.players, t.holder ≠ some q.id := by
  constructor
  · intro none q hq has
    obtain ⟨slot, here⟩ := List.mem_iff_getElem?.mp hq
    rw [holderSlot_eq_some_iff.mpr ⟨q, here, has⟩] at none
    cases none
  · intro absent
    by_contra registered
    obtain ⟨slot, found⟩ := Option.ne_none_iff_exists'.mp registered
    obtain ⟨q, here, has⟩ := holderSlot_eq_some_iff.mp found
    exact absent q (List.mem_of_getElem? here) has

/-- `Next` by `Turns.fromSlot`. -/
theorem next_iff : t.Next r p ↔ ∃ slot, FirstBehind r.players (t.fromSlot r) slot p := by
  cases own : t.holderSlot r with
  | some start =>
    obtain ⟨holder, here, has⟩ := holderSlot_eq_some_iff.mp own
    rw [fromSlot, own, Option.getD_some]
    constructor
    · rintro (⟨has', own', first⟩ | ⟨absent, -⟩)
      · rw [holderSlot_eq_some_iff.mpr ⟨_, own', has'⟩, Option.some.injEq] at own
        exact ⟨_, own ▸ first⟩
      · exact absurd has (absent holder (List.mem_of_getElem? here))
    · rintro ⟨slot, first⟩
      exact .behind has here first
  | none =>
    rw [fromSlot, own, Option.getD_none]
    simp only [firstBehind_last_iff]
    constructor
    · rintro (⟨has, own', -⟩ | ⟨-, first⟩)
      · exact absurd has (holderSlot_eq_none_iff.mp own _ (List.mem_of_getElem? own'))
      · exact ⟨_, first⟩
    · rintro ⟨slot, first⟩
      exact .front (holderSlot_eq_none_iff.mp own) first

/-- `next_alive` from `fromSlot` finds `p` iff it is `Next`. -/
theorem bind_nextAlive_eq_some_iff :
    (nextAlive r.players (t.fromSlot r)).bind (r.players[·]?) = some p ↔ t.Next r p := by
  rw [next_iff, Option.bind_eq_some_iff]
  refine exists_congr fun slot => ?_
  constructor
  · rintro ⟨found, here⟩
    have start := t.fromSlot_lt (List.ne_nil_of_mem (List.mem_of_getElem? here))
    exact (nextAlive_eq_some_iff_first start here).mp found
  · intro first
    have start := t.fromSlot_lt (List.ne_nil_of_mem (List.mem_of_getElem? first.here))
    exact ⟨(nextAlive_eq_some_iff_first start first.here).mpr first, first.here⟩

/-- At most one player is `Next`. -/
theorem Next.unique (h : t.Next r p) (other : t.Next r q) : p = q := by
  rw [← bind_nextAlive_eq_some_iff] at h other
  exact Option.some.inj (h.symm.trans other)

/-- The player that `advance_main` gives the token to is `Next`. -/
theorem next_of_turn {u : Turns} (passed : t.advanceMain r = (.turn id, u)) :
    ∃ p, t.Next r p ∧ p.id = id := by
  obtain ⟨p, found, own⟩ := find?_of_advanceMain passed
  rw [← bind_nextAlive, bind_nextAlive_eq_some_iff] at found
  exact ⟨p, found, own⟩

theorem noSurvivors_iff (t : Turns) (r : Roster) :
    (t.advanceMain r).1 = .noSurvivors ↔ ∀ id, ¬r.Lives id := by
  rw [← Roster.aliveCount_eq_zero_iff]
  rcases t.advanceMain_cases r with ⟨p, -, -, count, -, eq⟩ | ⟨p, -, -, count, eq⟩ | ⟨count, eq⟩
  · simp only [eq, reduceCtorEq, false_iff]
    omega
  · simp only [eq, reduceCtorEq, false_iff]
    omega
  · simp only [eq, count]

theorem winner_iff (t : Turns) (r : Roster) (id : PlayerId) :
    (t.advanceMain r).1 = .winner id ↔ ∀ other, r.Lives other ↔ other = id := by
  have one (only : ∀ other, r.Lives other ↔ other = id) : r.aliveCount = 1 :=
    (Roster.aliveCount_eq_one_iff ((only id).mpr rfl)).mpr only
  rcases t.advanceMain_cases r with
    ⟨p, -, -, count, -, eq⟩ | ⟨p, hp, alive, count, eq⟩ | ⟨count, eq⟩
  · simp only [eq, reduceCtorEq, false_iff]
    intro only
    have := one only
    omega
  · have lives : r.Lives p.id := ⟨p, hp, rfl, alive⟩
    rw [eq, MainStep.winner.injEq]
    constructor
    · rintro rfl
      exact (Roster.aliveCount_eq_one_iff lives).mp count
    · exact fun only => (only p.id).mp lives
  · simp only [eq, reduceCtorEq, false_iff]
    intro only
    have := one only
    omega

theorem turn_iff (t : Turns) (r : Roster) (id : PlayerId) :
    (t.advanceMain r).1 = .turn id ↔
      (∃ a b, r.Lives a ∧ r.Lives b ∧ a ≠ b) ∧ ∃ p, t.Next r p ∧ p.id = id := by
  rw [← Roster.two_le_aliveCount_iff]
  rcases t.advanceMain_cases r with ⟨p, -, -, count, -, eq⟩ | ⟨p, -, -, count, eq⟩ | ⟨count, eq⟩
  · obtain ⟨p', next, same⟩ := next_of_turn eq
    rw [eq, MainStep.turn.injEq]
    constructor
    · rintro rfl
      exact ⟨count, p', next, same⟩
    · rintro ⟨-, q, other, rfl⟩
      rw [other.unique next, same]
  · simp only [eq, reduceCtorEq, false_iff]
    omega
  · simp only [eq, reduceCtorEq, false_iff]
    omega

/-- What `advance_main` answers (`step`) and leaves as token (`u`), by who `Lives` and who is
`Next`. -/
structure PassesOn (t : Turns) (r : Roster) (step : MainStep) (u : Turns) : Prop where
  noSurvivors : step = .noSurvivors ↔ ∀ id, ¬r.Lives id
  /-- One player lives, and nobody else. -/
  winner : ∀ w, step = .winner w ↔ ∀ id, r.Lives id ↔ id = w
  /-- At least two players live, and the one who is next gets the turn. -/
  turn : ∀ id, step = .turn id ↔
    (∃ a b, r.Lives a ∧ r.Lives b ∧ a ≠ b) ∧ ∃ p, t.Next r p ∧ p.id = id
  lives : ∀ id, step = .turn id → r.Lives id
  changes : ∀ id, step = .turn id → t.holder ≠ some id
  holder : u.holder = step.holder?

/-- For every token and roster, `advance_main` answers `noSurvivors` iff nobody lives, `winner w`
iff `w` is the only one alive, and `turn id` iff two players live and `id` is `Next`. That player
lives and was not the holder. Afterwards it holds the token; without a `turn` nobody does. -/
theorem passesOn_advanceMain (t : Turns) (r : Roster) :
    t.PassesOn r (t.advanceMain r).1 (t.advanceMain r).2 := by
  have moved : (∀ id, (t.advanceMain r).1 = .turn id → r.Lives id ∧ t.holder ≠ some id) ∧
      (t.advanceMain r).2.holder = (t.advanceMain r).1.holder? := by
    rcases t.advanceMain_cases r with
      ⟨p, hp, alive, -, other, eq⟩ | ⟨p, -, -, -, eq⟩ | ⟨-, eq⟩ <;> rw [eq]
    · refine ⟨?_, rfl⟩
      rintro _ ⟨⟩
      exact ⟨⟨p, hp, rfl, alive⟩, other⟩
    · exact ⟨nofun, rfl⟩
    · exact ⟨nofun, rfl⟩
  exact ⟨noSurvivors_iff t r, winner_iff t r, turn_iff t r, fun id turn => (moved.1 id turn).1,
    fun id turn => (moved.1 id turn).2, moved.2⟩

end Turns

end Skirmish
