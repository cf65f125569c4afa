import Skirmish.Proofs.Session.Phases

/-!
# Fairness of the main phase

`advance_main` gives the turn to the first living player behind, round the roster. So between two
turns of one player in `main`, everybody else who still lives at the second has had exactly one, in
the order of their slots from behind that player, whatever healths change and whoever disconnects.

The invariant `Rounds` is about every turn so far: while its player lives, the `Round` that began
with it goes on, or that player's next turn has made it a `WholeRound`.

Results:

* `advanceMain_next`, `advanceMain_behind`: who gets the turn;
* `Rounds.perform`, `rounds_run`: the invariant over one operation and a run;
* `wholeRound_of_run`: the turns between two of one player, in any run.
-/

namespace Skirmish.Session

variable {δ : Type} {s t u : Session δ} {id : PlayerId} {p : Player} {turns : List PlayerId}
  {step next : Step δ}

/-! ## The next turn -/

/-- `advanceMain` in terms of the roster rotated behind the holder: the first living player there
gets the turn and is told, or the game is over with at most one alive. -/
theorem advanceMain_next {slot : Nat} (holder : u.turns.holder = some id)
    (own : u.roster.slot? id = some slot) :
    (∃ p, (u.roster.players.rotate (slot + 1)).find? (·.alive) = some p ∧
        u.advanceMain = ({ u with turns := ⟨some p.id⟩ },
          [.announce (p.name ++ "'s turn"), .unicast p.id .takeTurn])) ∨
      u.roster.aliveCount ≤ 1 ∧ u.advanceMain = u.finish u.roster.survivor? := by
  have here : u.turns.fromSlot u.roster = slot := by
    simp [Turns.fromSlot, Turns.holderSlot, holder, own]
  rcases u.turns.advanceMain_cases u.roster with
    ⟨p, hp, -, -, -, eq⟩ | ⟨p, hp, alive, one, eq⟩ | ⟨none, eq⟩
  · obtain ⟨q, found, same⟩ := Turns.find?_of_advanceMain eq
    rw [here] at found
    have hq : q ∈ u.roster.players := List.mem_rotate.mp (List.mem_of_find?_eq_some found)
    rw [Roster.eq_of_id_eq hq hp same] at found
    exact .inl ⟨p, found, by simp [advanceMain, eq, Roster.get?_id hp]⟩
  · refine .inr ⟨by omega, ?_⟩
    rw [Roster.survivor?_of_one hp alive one]
    simp [advanceMain, eq, Roster.get?_id hp, finish]
  · refine .inr ⟨by omega, ?_⟩
    rw [Roster.survivor?_of_none none]
    simp [advanceMain, eq, finish]

/-- `advanceMain_next` without the other effects. -/
theorem advanceMain_behind {slot : Nat} (holder : u.turns.holder = some id)
    (own : u.roster.slot? id = some slot) :
    (∃ p, (u.roster.players.rotate (slot + 1)).find? (·.alive) = some p ∧
        u.advanceMain.1 = { u with turns := ⟨some p.id⟩ } ∧ takers u.advanceMain.2 = [p.id]) ∨
      u.advanceMain = u.finish u.roster.survivor? := by
  rcases advanceMain_next holder own with ⟨p, found, eq⟩ | ⟨-, eq⟩
  · exact .inl ⟨p, found, by rw [eq], by rw [eq]; rfl⟩
  · exact .inr eq

/-! ## The rounds so far -/

/-- An occurrence of `b` in `l ++ [a]` is the end of the list, or it lies in `l`. -/
theorem append_singleton_cases {α : Type} {l before after : List α} {a b : α}
    (eq : l ++ [a] = before ++ b :: after) :
    b = a ∧ after = [] ∨ ∃ rest, after = rest ++ [a] ∧ l = before ++ b :: rest := by
  rcases List.eq_nil_or_concat' after with rfl | ⟨rest, last, rfl⟩
  · obtain ⟨-, same⟩ := List.append_inj' eq rfl
    exact .inl ⟨(List.cons.inj same).1.symm, rfl⟩
  · rw [← List.cons_append, ← List.append_assoc] at eq
    obtain ⟨shorter, same⟩ := List.append_inj' eq rfl
    rw [List.singleton_inj.mp same]
    exact .inr ⟨rest, rfl, shorter⟩

/-- The invariant of the `mainTurns`. Behind the last turn of a living player a `Round` goes on to
the holder, and between two successive turns of a player there is a `WholeRound`. -/
structure Rounds (s : Session δ) (turns : List PlayerId) : Prop where
  going : s.game = .main → ∀ earlier first had, turns = earlier ++ first :: had → first ∉ had →
    s.roster.Lives first →
    ∃ holder, s.turns.holder = some holder ∧ s.roster.Round first holder had
  whole : ∀ earlier first had, turns = earlier ++ first :: (had ++ [first]) → first ∉ had →
    s.roster.WholeRound first had

namespace Rounds

theorem nil (s : Session δ) : Rounds s [] where
  going _ earlier first had eq := by simp at eq
  whole earlier first had eq := by simp at eq

theorem singleton {slot : Nat} (holder : s.turns.holder = some id)
    (own : s.roster.slot? id = some slot) : Rounds s [id] where
  going _ earlier first had eq _ _ := by
    obtain ⟨-, rfl, rfl⟩ : earlier = [] ∧ first = id ∧ had = [] := by
      cases earlier <;> simp_all
    exact ⟨first, holder, .start own⟩
  whole earlier first had eq := by
    have := congrArg List.length eq
    simp at this
    omega

/-- A change of the roster that `Fades` and keeps `turns` keeps `Rounds`. -/
theorem mono (h : Rounds s turns) (fades : s.roster.Fades t.roster) (same : t.turns = s.turns)
    (game : t.game = .main → s.game = .main) : Rounds t turns where
  going main earlier first had eq fresh lives := by
    obtain ⟨holder, held, round⟩ :=
      h.going (game main) earlier first had eq fresh (fades.lives first lives)
    exact ⟨holder, by rw [same, held], round.mono fades⟩
  whole earlier first had eq fresh := (h.whole earlier first had eq fresh).mono fades

/-- Outside `main` no round goes on. -/
theorem closed (h : Rounds s turns) (same : t.roster = s.roster) (game : t.game ≠ .main) :
    Rounds t turns where
  going main := absurd main game
  whole earlier first had eq fresh := by
    rw [same]
    exact h.whole earlier first had eq fresh

/-- The turn of the first living player behind the holder keeps `Rounds`. -/
theorem turn (h : Rounds u turns) (main : u.game = .main) {slot : Nat}
    (holder : u.turns.holder = some id) (own : u.roster.slot? id = some slot)
    (found : (u.roster.players.rotate (slot + 1)).find? (·.alive) = some p) :
    Rounds { u with turns := ⟨some p.id⟩ } (turns ++ [p.id]) := by
  have hp : p ∈ u.roster.players := List.mem_rotate.mp (List.mem_of_find?_eq_some found)
  have alive : p.alive = true := by simpa using List.find?_some found
  -- a round that goes on has come to the holder, and the search is the rest of it
  have goes {earlier had : List PlayerId} {first : PlayerId}
      (eq : turns = earlier ++ first :: had) (fresh : first ∉ had) (lives : u.roster.Lives first) :
      p.id = first ∧ u.roster.WholeRound first had ∨
        p.id ≠ first ∧ u.roster.Round first p.id (had ++ [p.id]) := by
    obtain ⟨held, holds, round⟩ := h.going main earlier first had eq fresh lives
    rw [holder, Option.some.injEq] at holds
    subst holds
    exact round.next lives own found
  constructor
  · intro _ earlier first had eq fresh lives
    refine ⟨p.id, rfl, ?_⟩
    rcases append_singleton_cases eq with ⟨rfl, rfl⟩ | ⟨before, rfl, earlierTurns⟩
    · obtain ⟨_, here⟩ := Roster.exists_slot? (Roster.get?_id hp)
      exact .start here
    · rw [List.mem_append, not_or, List.mem_singleton] at fresh
      rcases goes earlierTurns fresh.1 lives with ⟨back, -⟩ | ⟨-, round⟩
      · exact absurd back.symm fresh.2
      · exact round
  · intro earlier first had eq fresh
    rw [← List.cons_append, ← List.append_assoc] at eq
    obtain ⟨earlierTurns, same⟩ := List.append_inj' eq rfl
    obtain rfl := List.singleton_inj.mp same
    rcases goes earlierTurns fresh ⟨p, hp, rfl, alive⟩ with ⟨-, whole⟩ | ⟨other, -⟩
    · exact whole
    · exact absurd rfl other

theorem finish (h : Rounds u turns) (winner : Option String) :
    Rounds (u.finish winner).1 (turns ++ takers (u.finish winner).2) := by
  have silent : takers (u.finish winner).2 = [] := by cases winner <;> rfl
  rw [silent, List.append_nil]
  exact h.closed rfl (by simp [Session.finish])

end Rounds

/-! ## Operations -/

/-- Passing the turn in `main` keeps `Rounds`. -/
theorem Rounds.passes (rounds : Rounds u turns) (h : Passes u id next) (main : u.game = .main)
    {holder : PlayerId} {slot : Nat} (held : u.turns.holder = some holder)
    (own : u.roster.slot? holder = some slot) : Rounds next.1 (turns ++ takers next.2) := by
  cases h with
  | walks select => cases main.symm.trans select
  | rounds =>
    rcases advanceMain_behind held own with ⟨p, first, same, told⟩ | ended
    · rw [same, told]
      exact rounds.turn main held own first
    · rw [ended]
      exact rounds.finish _
  | ends main few => exact rounds.finish _
  | stays other =>
    show Rounds u (turns ++ [])
    rwa [List.append_nil]

/-- An operation in `main` or `gameOver` keeps `Rounds`. -/
theorem Plays.rounds (h : s.Plays step) (orderly : Orderly s) (rounds : Rounds s turns)
    (late : s.game = .main ∨ s.game = .gameOver) : Rounds step.1 (turns ++ takers step.2) := by
  cases h with
  | rests same aside =>
    rw [same, takers_of_quiet fun e he => Effect.isQuiet_of_isAside (aside e he), List.append_nil]
    exact rounds
  | @moves id p f dice told next playing found alive touches tells passes eq =>
    have quiet : ∀ e ∈ told, e.isQuiet = true := fun e he =>
      (tells e he).elim Effect.isQuiet_of_isTalk Effect.isQuiet_of_isHealth
    have main : s.game = .main := by
      rcases playing with select | main
      · simp [select] at late
      · exact main
    obtain ⟨holder, held⟩ := Option.isSome_iff_exists.mp (orderly.holder_iff.mpr (.inr main))
    obtain ⟨q, there, -⟩ := orderly.holder_alive holder held
    obtain ⟨slot, own⟩ := Roster.exists_slot? there
    -- what happens to a player is no turn, so the rounds are the same until the turn is passed
    have fades := Roster.fades_update found alive f
    have touched : Rounds { s with roster := s.roster.update id f, dice } turns :=
      rounds.mono fades rfl fun main => main
    rw [eq, takers_append, takers_of_quiet quiet, List.nil_append]
    exact touched.passes passes main held ((fades.slot?_eq holder).trans own)

variable [Dice δ]

/-- The takers of one operation, of which there is at most one, are `Rounds` by themselves. -/
theorem Rounds.of_takers (h : Orderly s) (op : Op) {turns : List PlayerId}
    (part : turns.Sublist (takers (s.perform op).2)) : Rounds (s.perform op).1 turns := by
  have alone {i : PlayerId} (told : takers (s.perform op).2 = [i])
      (holder : (s.perform op).1.turns.holder = some i) : Rounds (s.perform op).1 turns := by
    rw [told] at part
    rcases List.sublist_singleton.mp part with rfl | rfl
    · exact .nil _
    · obtain ⟨p, found, -⟩ := (h.perform op).holder_alive i holder
      obtain ⟨slot, own⟩ := Roster.exists_slot? found
      exact .singleton holder own
  have nobody (silent : takers (s.perform op).2 = []) : Rounds (s.perform op).1 turns := by
    rw [silent, List.sublist_nil] at part
    rw [part]
    exact .nil _
  rcases perform_takers h op with ⟨⟨-, -, silent⟩, -⟩ | ⟨⟨i, told, holder, -⟩, -⟩ |
    ⟨⟨silent, -, -⟩, -⟩
  · exact nobody silent
  · exact alone told holder
  · exact nobody silent

theorem Rounds.perform (h : Orderly s) {told : List Effect}
    (script : Transcript .pending told s.game) (rounds : Rounds s (mainTurns told)) (op : Op) :
    Rounds (s.perform op).1 (mainTurns (told ++ (s.perform op).2)) := by
  by_cases late : s.game = .main ∨ s.game = .gameOver
  · have started := h.started_iff.mpr (GamePhase.ne_pending_of_late late)
    rw [mainTurns_append_of_late (script.exists_entry_of_late late)]
    exact (perform_plays h started op).rounds h rounds late
  · have early : s.game = .pending ∨ s.game = .characterSelect := by
      cases game : s.game <;> simp_all
    rw [mainTurns_append_of_early (script.isEntry_of_early early)]
    exact .of_takers h op (mainTurns_sublist _)

/-! ## Runs -/

theorem rounds_run (expected : Nat) (dice : δ) (ops : List Op) :
    Rounds ((Session.new expected dice).run ops).1
      (mainTurns ((Session.new expected dice).run ops).2) := by
  have fresh := Orderly.new expected dice
  induction ops using List.reverseRecOn with
  | nil => exact .nil _
  | append_singleton ops op ih =>
    rw [run_concat]
    exact ih.perform (fresh.run ops) (run_transcript fresh ops) op

/-- Let `between` be the `mainTurns` between the last one and the one before of the same player
`first`. They are in the order of the roster behind `first`, round its end, and every other player
that is alive now is among them exactly once. -/
theorem wholeRound_of_run (expected : Nat) (dice : δ) (ops : List Op)
    {earlier between : List PlayerId} {first : PlayerId}
    (turns : mainTurns ((Session.new expected dice).run ops).2 =
      earlier ++ first :: (between ++ [first]))
    (successive : first ∉ between) :
    let roster := ((Session.new expected dice).run ops).1.roster
    (∃ slot, roster.slot? first = some slot ∧
        between.Sublist (roster.ids.drop (slot + 1) ++ roster.ids.take slot)) ∧
      ∀ p ∈ roster.players, p.alive = true → p.id ≠ first → between.count p.id = 1 := by
  have round := (rounds_run expected dice ops).whole earlier first between turns successive
  exact ⟨round.inOrder, round.once⟩

/-- A session of four in `main`: after the attack of the first player the third is lost, and then
the second, whose turn it is. The fourth heals itself. -/
def shrinkingRound : List Op :=
  [.opened, .handle ⟨1⟩ (.intro "A" true), .handle ⟨2⟩ (.intro "B" true),
    .handle ⟨3⟩ (.intro "C" true), .handle ⟨4⟩ (.intro "D" true),
    .handle ⟨1⟩ (.chooseJob .wizard), .handle ⟨2⟩ (.chooseJob .warrior),
    .handle ⟨3⟩ (.chooseJob .assassin), .handle ⟨4⟩ (.chooseJob .wizard),
    .handle ⟨1⟩ (.act .attack "D"), .disconnect ⟨3⟩, .disconnect ⟨2⟩,
    .handle ⟨4⟩ (.act .heal "me")]

/-- The second and the fourth player are `between`; the fourth is alive. -/
theorem wholeRound_of_run_shrinking :
    let run := (Session.new 4 (⟨[]⟩ : Script)).run shrinkingRound
    mainTurns run.2 = [] ++ ⟨1⟩ :: ([⟨2⟩, ⟨4⟩] ++ [⟨1⟩]) ∧ (⟨1⟩ : PlayerId) ∉ [⟨2⟩, ⟨4⟩] ∧
      (∃ p ∈ run.1.roster.players, p.alive = true ∧ p.id ≠ ⟨1⟩ ∧
        [⟨2⟩, ⟨4⟩].count p.id = 1) ∧
      ∃ slot, run.1.roster.slot? ⟨1⟩ = some slot ∧
        [⟨2⟩, ⟨4⟩].Sublist (run.1.roster.ids.drop (slot + 1) ++ run.1.roster.ids.take slot) := by
  have turns : mainTurns ((Session.new 4 (⟨[]⟩ : Script)).run shrinkingRound).2 =
      [] ++ ⟨1⟩ :: ([⟨2⟩, ⟨4⟩] ++ [⟨1⟩]) := by
    decide +kernel
  have successive : (⟨1⟩ : PlayerId) ∉ [⟨2⟩, ⟨4⟩] := by decide
  have living : ∃ p ∈ ((Session.new 4 (⟨[]⟩ : Script)).run shrinkingRound).1.roster.players,
      p.alive = true ∧ p.id ≠ ⟨1⟩ := by
    decide +kernel
  obtain ⟨inOrder, once⟩ := wholeRound_of_run 4 (⟨[]⟩ : Script) shrinkingRound turns successive
  obtain ⟨p, hp, alive, other⟩ := living
  exact ⟨turns, successive, ⟨p, hp, alive, other, once p hp alive other⟩, inOrder⟩

end Skirmish.Session
