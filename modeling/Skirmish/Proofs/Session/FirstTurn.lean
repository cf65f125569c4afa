import Skirmish.Proofs.Session.Rounds
import Skirmish.Proofs.Session.Selection

/-!
# The first turn of the main phase

`start_main` does not move the token to the front of the roster. `advance_character_select` is
finished when nobody lives behind the slot of the holder, and `advance_main` searches from behind
that slot, round the roster. So it finds the first living player of all.

Results:

* `find?_rotate_of_dead`, `exists_front`: a search from where nobody lives behind;
* `advanceSelect_opens`: `advanceSelect` when it enters `main`;
* `Plays.opens`, `lastWord_of_takers`, `select_of_begins`: the operation that does;
* `exists_opens_of_enters_main`: all of this after any run.
-/

namespace Skirmish

variable {players : List Player} {p : Player}

theorem exists_front (found : players.find? (·.alive) = some p) :
    ∃ slot, FrontAt players slot p := by
  obtain ⟨alive, before, behind, rfl, dead⟩ := List.find?_eq_some_iff_append.mp found
  refine ⟨before.length, by simp, alive, ?_⟩
  rintro k inside ⟨q, hq, living⟩
  rw [List.getElem?_append_left inside] at hq
  have dies := dead q (List.mem_of_getElem? hq)
  rw [living] at dies
  cases dies

/-- If nobody is alive from `slot` on, the first living player behind it, round the end, is the
first one of all. -/
theorem find?_rotate_of_dead {slot : Nat} (bound : slot ≤ players.length)
    (dead : ∀ k, slot ≤ k → ¬AliveAt players k) :
    (players.rotate slot).find? (·.alive) = players.find? (·.alive) := by
  -- the search passes the part behind the slot and goes on at the front
  have behind : (players.drop slot).find? (·.alive) = none := by
    rw [List.find?_eq_none]
    intro q hq alive
    obtain ⟨k, here⟩ := List.mem_iff_getElem?.mp hq
    rw [List.getElem?_drop] at here
    exact dead _ (Nat.le_add_right slot k) ⟨q, here, alive⟩
  rw [List.rotate_eq_drop_append_take bound, List.find?_append, behind, Option.none_or]
  conv_rhs => rw [← List.take_append_drop slot players, List.find?_append, behind, Option.or_none]

namespace Session

variable {δ : Type} {s u : Session δ} {id : PlayerId} {step : Step δ} {op : Op}

/-- The effects of `step` end with the roster for `main`, the line for `p` and its `takeTurn`, which
is the only one. `p` is the first living player, at `slot`, and the holder. -/
structure Opens (step : Step δ) (slot : Nat) (p : Player) : Prop where
  main : step.1.game = .main
  front : FrontAt step.1.roster.players slot p
  holder : step.1.turns.holder = some p.id
  told : ∃ said, step.2 = said ++
    [.entered step.1.roster.snapshots, .announce (p.name ++ "'s turn"), .unicast p.id .takeTurn]
  takers_eq : takers step.2 = [p.id]

/-- A `chooseJob` of the holder in either form, or its loss. -/
inductive LastWord (s : Session δ) : Op → Prop
  | chooses {id : PlayerId} {job : Job} {op : Op} (holder : s.turns.holder = some id)
      (asked : op = .handle id (.chooseJob job) ∨ op = .request id (.chooseJob job)) :
      LastWord s op
  | lost {id : PlayerId} (holder : s.turns.holder = some id) : LastWord s (.disconnect id)

/-- `advanceSelect` that leads to `main` with two players alive `Opens` it. -/
theorem advanceSelect_opens {seat : Nat} (select : u.game = .characterSelect)
    (holder : u.turns.holder = some id) (own : u.roster.slot? id = some seat)
    (enters : ∃ e ∈ u.advanceSelect.2, e.isEntry = true) (many : 2 ≤ u.roster.aliveCount) :
    ∃ slot p, Opens u.advanceSelect slot p := by
  have here : u.turns.holderSlot u.roster = some seat := by
    simpa [Turns.holderSlot, holder] using own
  rcases u.turns.walk_cases u.roster with ⟨slot, p, -, -, -, eq⟩ | ⟨dead, eq⟩
  · have told : u.advanceSelect = ({ u with turns := ⟨some p.id⟩ }, [.unicast p.id .takeTurn]) := by
      simp [advanceSelect, eq]
    rw [told] at enters
    simp [Effect.isEntry] at enters
  · rw [here] at dead
    have bound : seat + 1 ≤ u.roster.players.length := Roster.slot?_lt own
    have main : u.game.advance .main = .main := by
      rw [select]
      rfl
    have begins : u.advanceSelect =
        ({ u with game := .main }.advanceMain.1,
          .entered u.roster.snapshots :: { u with game := .main }.advanceMain.2) := by
      simp [advanceSelect, eq, startMain, main, Effect.entered]
    rcases advanceMain_next (u := { u with game := .main }) holder own with
      ⟨p, found, next⟩ | ⟨few, -⟩
    · rw [find?_rotate_of_dead bound dead] at found
      obtain ⟨slot, front⟩ := exists_front found
      rw [begins, next]
      exact ⟨slot, p, rfl, front, rfl, ⟨[], rfl⟩, rfl⟩
    · have few : u.roster.aliveCount ≤ 1 := few
      omega

/-! ## The operation -/

theorem isEntry_of_append {told later : List Effect} (quiet : ∀ e ∈ told, e.isQuiet = true)
    (enters : ∃ e ∈ told ++ later, e.isEntry = true) : ∃ e ∈ later, e.isEntry = true := by
  obtain ⟨e, he, entry⟩ := enters
  rw [List.mem_append] at he
  rcases he with before | after
  · rw [isEntry_of_isQuiet (quiet e before)] at entry
    cases entry
  · exact ⟨e, after, entry⟩

theorem Opens.append {next : Step δ} {slot : Nat} {p : Player} {told : List Effect}
    (h : Opens next slot p) (quiet : ∀ e ∈ told, e.isQuiet = true) :
    Opens (next.1, told ++ next.2) slot p := by
  obtain ⟨main, front, holder, ⟨said, eq⟩, takers_eq⟩ := h
  refine ⟨main, front, holder, ⟨told ++ said, ?_⟩, ?_⟩
  · rw [eq, List.append_assoc]
  · rw [takers_append, takers_of_quiet quiet, List.nil_append, takers_eq]

/-- An operation that leads from `characterSelect` to `main` with two players alive `Opens` it. -/
theorem Plays.opens (h : s.Plays step) (select : s.game = .characterSelect)
    (enters : ∃ e ∈ step.2, e.isEntry = true) (many : 2 ≤ step.1.roster.aliveCount) :
    ∃ slot p, Opens step slot p := by
  cases h with
  | rests same aside =>
    obtain ⟨e, he, entry⟩ := enters
    rw [isEntry_of_isQuiet (Effect.isQuiet_of_isAside (aside e he))] at entry
    cases entry
  | @moves id p f dice told next playing found alive touches tells passes eq =>
    have quiet : ∀ e ∈ told, e.isQuiet = true := fun e he =>
      (tells e he).elim Effect.isQuiet_of_isTalk Effect.isQuiet_of_isHealth
    rw [eq] at enters many
    have later := isEntry_of_append quiet enters
    cases passes with
    | walks _ own =>
      obtain ⟨seat, here⟩ := Roster.exists_slot? found
      have seated := (Roster.slot?_update s.roster id id f).trans here
      rw [roster_advanceSelect] at many
      obtain ⟨slot, p, opens⟩ := advanceSelect_opens
        (u := { s with roster := s.roster.update id f, dice }) select own seated later many
      rw [eq]
      exact ⟨slot, p, opens.append quiet⟩
    | rounds main => cases select.symm.trans main
    | ends main => cases select.symm.trans main
    | stays => simp at later

variable [Dice δ]

/-- In `characterSelect` an operation with a `takeTurn` is a `LastWord`. -/
theorem lastWord_of_takers (h : Orderly s) (select : s.game = .characterSelect)
    (told : takers (s.perform op).2 ≠ []) : s.LastWord op := by
  have passes : PassesTurn s op := by
    rcases perform_takers h op with ⟨⟨-, -, silent⟩, -⟩ | ⟨-, passes⟩ | ⟨⟨silent, -⟩, -⟩
    · exact absurd silent told
    · exact passes
    · exact absurd silent told
  have moves {id : PlayerId} {r : Request} {step : Step δ} (move : r.isMove = true)
      (granted : s.request id r = .ok step) (asked : op = .handle id r ∨ op = .request id r) :
      s.LastWord op := by
    cases r with
    | chooseJob job =>
      obtain ⟨-, -, holder, -⟩ := chooseJob_eq_ok_iff.mp granted
      exact .chooses holder asked
    | act action name =>
      obtain ⟨main, -⟩ := takeAction_eq_ok_iff.mp granted
      cases select.symm.trans main
    | _ => cases move
  cases passes with
  | start lobby => cases select.symm.trans lobby
  | handle move granted => exact moves move granted (.inl rfl)
  | request move granted => exact moves move granted (.inr rfl)
  | forfeit holder => exact .lost holder

/-- An operation leads to `main` or beyond only from `characterSelect`. -/
theorem select_of_begins (h : Orderly s) {told : List Effect}
    (selection : Selection s (selectTurns told)) (early : s.game.rank < GamePhase.main.rank)
    (begun : GamePhase.main.rank ≤ (s.perform op).1.game.rank) : s.game = .characterSelect := by
  cases selection with
  | lobby pending jobless =>
    cases perform_gathers h pending jobless op with
    | waits still =>
      rw [still] at begun
      cases begun
    | starts lobby _ _ eq =>
      rw [eq] at begun
      simp [start, lobby, GamePhase.rank] at begun
  | select select => exact select
  | late late => rcases late with g | g <;> simp [g, GamePhase.rank] at early

/-- An operation after a run that leads from before `main` to `main` or beyond, with two players
alive afterwards, is a `LastWord` in `characterSelect` and `Opens` the main phase. -/
theorem exists_opens_of_enters_main (expected : Nat) (dice : δ) (ops : List Op) (op : Op) :
    let s := ((Session.new expected dice).run ops).1
    let next := s.perform op
    s.game.rank < GamePhase.main.rank → GamePhase.main.rank ≤ next.1.game.rank →
      2 ≤ next.1.roster.aliveCount →
        s.game = .characterSelect ∧ s.LastWord op ∧ ∃ slot p, Opens next slot p := by
  intro s next early begun many
  have orderly : Orderly s := (Orderly.new expected dice).run ops
  have select := select_of_begins orderly (selection_run expected dice ops) early begun
  have started : s.connection = .inProgress := orderly.started_iff.mpr (by simp [select])
  have enters : ∃ e ∈ next.2, e.isEntry = true :=
    (perform_transcript orderly op).entry_mem_iff.mpr ⟨early, begun⟩
  obtain ⟨slot, p, opens⟩ := (perform_plays orderly started op).opens select enters many
  have told : takers (s.perform op).2 ≠ [] := by
    rw [opens.takers_eq]
    exact List.cons_ne_nil _ _
  exact ⟨select, lastWord_of_takers orderly select told, slot, p, opens⟩

/-- A session of four in `characterSelect`: the first player is lost, and the fourth holds the turn.
-/
def thinnedOut : List Op :=
  [.opened, .handle ⟨1⟩ (.intro "A" true), .handle ⟨2⟩ (.intro "B" true),
    .handle ⟨3⟩ (.intro "C" true), .handle ⟨4⟩ (.intro "D" true), .disconnect ⟨1⟩,
    .handle ⟨2⟩ (.chooseJob .wizard), .handle ⟨3⟩ (.chooseJob .warrior)]

/-- The loss of the fourth player `Opens` the main phase with the second one. -/
theorem exists_opens_of_enters_main_thinnedOut :
    let s := ((Session.new 4 (⟨[]⟩ : Script)).run thinnedOut).1
    let next := s.perform (.disconnect ⟨4⟩)
    (s.game.rank < GamePhase.main.rank ∧ GamePhase.main.rank ≤ next.1.game.rank ∧
        2 ≤ next.1.roster.aliveCount) ∧
      takers next.2 = [⟨2⟩] ∧ s.LastWord (.disconnect ⟨4⟩) ∧ ∃ slot p, Opens next slot p := by
  have ⟨_, last, opens⟩ := exists_opens_of_enters_main 4 (⟨[]⟩ : Script) thinnedOut
    (.disconnect ⟨4⟩) (by decide +kernel) (by decide +kernel) (by decide +kernel)
  exact ⟨by decide +kernel, by decide +kernel, last, opens⟩

end Session

end Skirmish
