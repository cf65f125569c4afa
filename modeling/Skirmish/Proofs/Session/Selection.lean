import Skirmish.Proofs.Session.Phases
import Skirmish.Proofs.Turns.Walk

/-!
# The order of character select

Nobody in a lobby has a job. In `characterSelect` the slot of the holder divides the players
(`Roster.ChosenUpTo`): the living below have chosen, and nobody from there on has. The holder leaves
its slot by `chooseJob` or by dying, and nobody else can choose. So everybody alive in `main` has
chosen, and no job changes.

Results:

* `perform_gathers`: the operations of a lobby;
* `Selection.advanceSelect`: the invariant over `advanceSelect`;
* `Plays.selection_of_select`, `Plays.chosen_of_late`: over an operation in `characterSelect`, and
  later;
* `Selection.perform`, `selection_run`: over any operation, and a run;
* `Plays.job_of_chosen`: a job that is chosen stays;
* `chosen_below_holderSlot_of_run`: all of this after any run.
-/

namespace Skirmish.Session

variable {δ : Type} {s u : Session δ} {id : PlayerId} {p : Player} {turns : List PlayerId}
  {f : Standing → Standing} {step next : Step δ}

/-- The invariant of the choosing; `turns` are the players that had a turn in it. In
`characterSelect` the roster is `ChosenUpTo` the slot of the holder, and the turns are in the order
of the roster up to that slot. -/
inductive Selection (s : Session δ) (turns : List PlayerId) : Prop
  | lobby (pending : s.game = .pending) (jobless : s.roster.Jobless) (silent : turns = [])
  | select {slot : Nat} (select : s.game = .characterSelect)
      (holder : s.turns.holderSlot s.roster = some slot) (chosen : s.roster.ChosenUpTo slot)
      (inOrder : turns.Sublist (s.roster.ids.take (slot + 1)))
  | late (late : s.game = .main ∨ s.game = .gameOver) (chosen : s.roster.Chosen)
      (inOrder : turns.Sublist s.roster.ids)

/-! ## The turn goes on -/

theorem late_advanceMain (main : u.game = .main) :
    u.advanceMain.1.game = .main ∨ u.advanceMain.1.game = .gameOver := by
  rcases u.advanceMain_cases with ⟨p, -, -, -, -, eq⟩ | ⟨-, eq⟩ <;> rw [eq]
  · exact .inl main
  · refine .inr ?_
    show u.game.advance .gameOver = .gameOver
    rw [main]
    rfl

theorem late_startMain (select : u.game = .characterSelect) :
    u.startMain.1.game = .main ∨ u.startMain.1.game = .gameOver := by
  have main : { u with game := u.game.advance .main }.game = .main := by
    rw [select]
    rfl
  exact late_advanceMain main

/-- `advanceSelect` keeps `Selection`, if the roster is `ChosenUpTo` the slot behind the holder. -/
theorem Selection.advanceSelect (select : u.game = .characterSelect)
    (chosen : u.roster.ChosenUpTo (slotAfter (u.turns.holderSlot u.roster)))
    (inOrder : turns.Sublist (u.roster.ids.take (slotAfter (u.turns.holderSlot u.roster)))) :
    Selection u.advanceSelect.1 (turns ++ selectTurns u.advanceSelect.2) := by
  rcases u.turns.walk_cases u.roster with ⟨slot, p, onwards, here, passed, eq⟩ | ⟨passed, eq⟩
  · have own : u.roster.slot? p.id = some slot := Roster.slot?_eq_some_iff.mpr ⟨p, here, rfl⟩
    have told : u.advanceSelect = ({ u with turns := ⟨some p.id⟩ }, [.unicast p.id .takeTurn]) := by
      simp [Session.advanceSelect, eq]
    rw [told]
    exact .select select own (chosen.walk onwards passed)
      (Roster.append_sublist_ids inOrder onwards own)
  · have told : u.advanceSelect = u.startMain := by
      simp [Session.advanceSelect, eq]
    have silent : selectTurns u.startMain.2 = [] := rfl
    rw [told, silent, List.append_nil]
    have same := roster_startMain u
    refine .late (late_startMain select) ?_ ?_
    · rw [same]
      exact chosen.done passed
    · rw [same]
      exact inOrder.trans (List.take_sublist _ _)

/-! ## The lobby -/

/-- An operation in `pending`: nobody gets a job, and the game may `start`. -/
inductive Gathers (step : Step δ) : Prop
  | waits (pending : step.1.game = .pending) (jobless : step.1.roster.Jobless)
      (quiet : ∀ e ∈ step.2, e.isQuiet = true)
  | starts {u : Session δ} {told : List Effect} (pending : u.game = .pending)
      (jobless : u.roster.Jobless) (quiet : ∀ e ∈ told, e.isQuiet = true)
      (eq : step = (u.start.1, told ++ u.start.2))

theorem isQuiet_of_talk {es : List Effect} (talk : news es = []) : ∀ e ∈ es, e.isQuiet = true :=
  fun e he => Effect.isQuiet_of_isAside (isAside_of_talk talk e he)

theorem MayStart.gathers (may : u.MayStart next) (pending : u.game = .pending)
    (jobless : u.roster.Jobless) {told : List Effect} (talk : news told = []) :
    Gathers (next.1, told ++ next.2) := by
  have waits : Gathers (u, told ++ []) := by
    rw [List.append_nil]
    exact .waits pending jobless (isQuiet_of_talk talk)
  rcases may with rfl | rfl
  · unfold tryStart
    split
    · exact .starts pending jobless (isQuiet_of_talk talk) rfl
    · exact waits
  · exact waits

theorem request_gathers [Dice δ] (pending : s.game = .pending)
    (jobless : s.roster.Jobless) {r : Request} (ok : s.request id r = .ok step) :
    Gathers step := by
  have marks (ready : Bool) (ok : s.setReady id ready = .ok step) : Gathers step := by
    obtain ⟨-, line, started, may, rfl⟩ := setReady_cases ok
    show Gathers (started.1, [.announce line] ++ started.2)
    have marked : (s.marked id ready).roster.Jobless :=
      jobless.update (f := fun st => { st with ready }) (fun _ => rfl) id
    exact may.gathers pending marked (by simp)
  cases r with
  | intro name ready =>
    obtain ⟨lobby, roster, started, joins, may, rfl⟩ := register_cases ok
    obtain ⟨-, -, -, -, -, players⟩ := Roster.register_eq_ok_iff.mp joins
    rw [← List.cons_append]
    refine may.gathers pending (fun p hp => ?_) (by simp)
    have member : p ∈ s.roster.players ++ [.join id name ready] := players ▸ hp
    rw [List.mem_append, List.mem_singleton] at member
    rcases member with old | rfl
    · exact jobless p old
    · rfl
  | ready => exact marks true ok
  | unready => exact marks false ok
  | listPlayers | listStats | chat =>
    obtain ⟨same, talk⟩ := request_of_isTalk rfl ok
    refine .waits ?_ ?_ (isQuiet_of_talk talk) <;> rw [same]
    · exact pending
    · exact jobless
  | chooseJob job =>
    obtain ⟨select, -⟩ := chooseJob_eq_ok_iff.mp ok
    cases pending.symm.trans select
  | act action name =>
    obtain ⟨main, -⟩ := takeAction_eq_ok_iff.mp ok
    cases pending.symm.trans main

theorem disconnect_gathers (h : Orderly s) (pending : s.game = .pending)
    (jobless : s.roster.Jobless) (id : PlayerId) : Gathers (s.disconnect id) := by
  rcases s.disconnect_cases id with ⟨eq, -⟩ | ⟨p, -, ⟨-, eq⟩ | ⟨started, -⟩⟩
  · rw [eq]
    exact .waits pending jobless (by simp)
  · rw [eq]
    exact .waits pending (fun q hq => jobless q (List.mem_of_mem_filter hq))
      (isQuiet_of_talk (by simp))
  · exact absurd pending (h.started_iff.mp started)

theorem perform_gathers [Dice δ] (h : Orderly s) (pending : s.game = .pending)
    (jobless : s.roster.Jobless) (op : Op) : Gathers (s.perform op) := by
  refine perform_elim (motive := Gathers) ?_ (request_gathers pending jobless) ?_ ?_ ?_
    (disconnect_gathers h pending jobless) op
  · exact .waits pending jobless (by simp)
  · intro why id
    exact .waits pending jobless fun e he =>
      Effect.isQuiet_of_isAside (isAside_of_refusal why id e he)
  · exact .waits pending jobless (by simp)
  · intro text
    refine .waits pending jobless (isQuiet_of_talk ?_)
    rcases serverChat_cases text with eq | eq <;> rw [eq] <;> simp

/-- `start` gives the turn to the first living player and tells it, or there is none. -/
theorem start_cases (u : Session δ) :
    (∃ slot p, u.start.1.roster.players[slot]? = some p ∧
        (∀ k < slot, ¬AliveAt u.start.1.roster.players k) ∧ u.start.1.turns = ⟨some p.id⟩ ∧
        u.start.2 = [.started, .unicast p.id .takeTurn]) ∨
      u.start.1.turns.holder = none := by
  have turns := Turns.start_eq u.start.1.roster
  rcases (⟨none⟩ : Turns).walk_cases u.start.1.roster with ⟨slot, p, -, here, passed, eq⟩ | ⟨-, eq⟩
  · rw [eq] at turns
    have first : Turns.start (u.roster.updateAll ({ · with ready := false })) = ⟨some p.id⟩ :=
      turns
    have tells : u.start.2 = [.started, .unicast p.id .takeTurn] := by
      simp [start, first, Effect.started]
    exact .inl ⟨slot, p, here, fun k => passed k (Nat.zero_le k), turns, tells⟩
  · rw [eq] at turns
    exact .inr (congrArg Turns.holder turns)

theorem Gathers.selection (h : Gathers step) (orderly : Orderly step.1) :
    Selection step.1 (selectTurns step.2) := by
  cases h with
  | waits pending jobless quiet => exact .lobby pending jobless (selectTurns_of_quiet quiet)
  | @starts u told pending jobless quiet eq =>
    subst eq
    have select : u.start.1.game = .characterSelect := by
      show u.game.advance .characterSelect = .characterSelect
      rw [pending]
      rfl
    have held : u.start.1.turns.holder.isSome = true := orderly.holder_iff.mpr (.inl select)
    rw [selectTurns_append_of_quiet quiet]
    rcases u.start_cases with ⟨slot, p, here, passed, holder, tells⟩ | nobody
    · have own : u.start.1.roster.slot? p.id = some slot :=
        Roster.slot?_eq_some_iff.mpr ⟨p, here, rfl⟩
      have seat : u.start.1.turns.holderSlot u.start.1.roster = some slot := by
        rw [holder]
        exact own
      have chosen : u.start.1.roster.ChosenUpTo slot :=
        (Roster.ChosenUpTo.start jobless).walk (Nat.zero_le slot) fun k _ => passed k
      have inOrder := Roster.append_sublist_ids (List.nil_sublist _) (Nat.zero_le slot) own
      rw [tells]
      exact .select select seat chosen inOrder
    · rw [nobody] at held
      cases held

/-! ## The game -/

/-- Only the choice of the holder in `characterSelect` changes `job` and `ready` of a living player.
-/
theorem Touches.spares (h : s.Touches id f)
    (other : s.game = .characterSelect → s.turns.holder ≠ some id) (st : Standing) :
    st.Spared (f st) := by
  cases h with
  | chooses select holder => exact absurd holder (other select)
  | suffers main delta => exact st.spared_change delta
  | forfeits => exact st.spared_forfeit

/-- In `characterSelect`, a change of one player and the passing of the turn keep `Selection`. -/
theorem Passes.selection {dice : δ} {slot : Nat}
    (select : s.game = .characterSelect) (holder : s.turns.holderSlot s.roster = some slot)
    (chosen : s.roster.ChosenUpTo slot) (inOrder : turns.Sublist (s.roster.ids.take (slot + 1)))
    (found : s.roster.get? id = some p) (alive : p.alive = true) (touches : s.Touches id f)
    (passes : Passes { s with roster := s.roster.update id f, dice } id next) :
    Selection next.1 (turns ++ selectTurns next.2) := by
  have fades := Roster.fades_update found alive f
  have seat : s.turns.holderSlot (s.roster.update id f) = some slot := by
    rw [← holder, Turns.holderSlot, Turns.holderSlot]
    exact congrArg (Option.bind s.turns.holder) (funext fades.slot?_eq)
  have behind : turns.Sublist ((s.roster.update id f).ids.take (slot + 1)) := by
    rwa [fades.ids_eq]
  cases passes with
  | walks _ own =>
    have here : s.roster.slot? id = some slot := by
      simpa [Turns.holderSlot, show s.turns.holder = some id from own] using holder
    have settled : (s.roster.update id f).ChosenUpTo (slot + 1) := by
      refine chosen.settle here ?_
      cases touches with
      | chooses _ _ real => exact fun _ _ => ⟨rfl, real⟩
      | suffers main => cases select.symm.trans main
      | forfeits => exact fun _ lives => by cases lives
    refine .advanceSelect select ?_ ?_
    · rw [seat]
      exact settled
    · rw [seat]
      exact behind
  | rounds main => cases select.symm.trans main
  | ends main => cases select.symm.trans main
  | stays other =>
    have spared : (s.roster.update id f).ChosenUpTo slot :=
      chosen.spare (touches.spares fun _ => other) id
    show Selection _ (turns ++ [])
    rw [List.append_nil]
    exact .select select seat spared behind

theorem Plays.selection_of_select {slot : Nat} (h : s.Plays step)
    (select : s.game = .characterSelect) (holder : s.turns.holderSlot s.roster = some slot)
    (chosen : s.roster.ChosenUpTo slot)
    (inOrder : turns.Sublist (s.roster.ids.take (slot + 1))) :
    Selection step.1 (turns ++ selectTurns step.2) := by
  cases h with
  | rests same aside =>
    rw [same, selectTurns_of_quiet fun e he => Effect.isQuiet_of_isAside (aside e he),
      List.append_nil]
    exact .select select holder chosen inOrder
  | moves playing found alive touches tells passes eq =>
    rw [eq, selectTurns_append_of_quiet fun e he =>
      (tells e he).elim Effect.isQuiet_of_isTalk Effect.isQuiet_of_isHealth]
    exact passes.selection select holder chosen inOrder found alive touches

/-- In `main` and `gameOver`, everybody alive keeps its job. -/
theorem Plays.chosen_of_late (h : s.Plays step) (late : s.game = .main ∨ s.game = .gameOver)
    (chosen : s.roster.Chosen) : step.1.roster.Chosen := by
  rcases h.roster_cases with same | ⟨id, p, f, -, -, touches, changed⟩
  · rwa [same]
  · rw [changed]
    exact chosen.update (touches.spares fun select => by simp [select] at late) id

/-- The holder in `characterSelect` is `unassigned`. -/
theorem Selection.job_of_holder (h : Selection s turns) (select : s.game = .characterSelect)
    (holder : s.turns.holder = some id) (found : s.roster.get? id = some p) :
    p.job = .unassigned := by
  cases h with
  | lobby pending => cases select.symm.trans pending
  | @select slot _ seat chosen =>
    have own : s.roster.slot? id = some slot := by
      simpa [Turns.holderSlot, holder] using seat
    obtain ⟨q, here, same⟩ := Roster.slot?_eq_some_iff.mp own
    obtain ⟨hp, rfl⟩ := Roster.get?_eq_some_iff.mp found
    rw [← Roster.eq_of_id_eq (List.mem_of_getElem? here) hp same]
    exact (chosen.behind slot q here (Nat.le_refl slot)).2
  | late late => simp [select] at late

/-- A player with a job is in a game that is `inProgress`. -/
theorem Selection.started_of_chosen (h : Selection s turns) (orderly : Orderly s)
    (found : s.roster.get? id = some p) (chosen : p.job ≠ .unassigned) :
    s.connection = .inProgress := by
  refine orderly.started_iff.mpr fun pending => ?_
  cases h with
  | lobby _ jobless => exact chosen (jobless p (Roster.mem_of_get? found))
  | select select => cases pending.symm.trans select
  | late late => simp [pending] at late

/-- An operation keeps a job other than `unassigned`. -/
theorem Plays.job_of_chosen (h : s.Plays step) (selection : Selection s turns)
    (found : s.roster.get? id = some p) (chosen : p.job ≠ .unassigned) :
    ∃ q, step.1.roster.get? id = some q ∧ q.job = p.job := by
  rcases h.roster_cases with same | ⟨other, -, f, -, -, touches, changed⟩
  · exact ⟨p, by rw [same, found], rfl⟩
  · refine ⟨if id = other then p.mapStanding f else p, ?_, ?_⟩
    · rw [changed, Roster.get?_update, found, Option.map_some]
    · split
      · rename_i own
        subst own
        have unmoved (select : s.game = .characterSelect) : s.turns.holder ≠ some id :=
          fun holder => chosen (selection.job_of_holder select holder found)
        exact (touches.spares unmoved p.toStanding).job
      · rfl

variable [Dice δ]

theorem Selection.perform {told : List Effect} (h : Orderly s)
    (script : Transcript .pending told s.game) (selection : Selection s (selectTurns told))
    (op : Op) :
    Selection (s.perform op).1 (selectTurns (told ++ (s.perform op).2)) := by
  cases selection with
  | lobby pending jobless silent =>
    rw [selectTurns_append_of_early (script.isEntry_of_early (.inl pending)), silent,
      List.nil_append]
    exact (perform_gathers h pending jobless op).selection (h.perform op)
  | select select holder chosen inOrder =>
    have started : s.connection = .inProgress := h.started_iff.mpr (by simp [select])
    rw [selectTurns_append_of_early (script.isEntry_of_early (.inr select))]
    exact (perform_plays h started op).selection_of_select select holder chosen inOrder
  | late late chosen inOrder =>
    have started := h.started_iff.mpr (GamePhase.ne_pending_of_late late)
    have plays := perform_plays h started op
    rw [selectTurns_append_of_late (script.exists_entry_of_late late)]
    refine .late ?_ (plays.chosen_of_late late chosen) ?_
    · have later := (perform_transcript h op).rank_le
      exact GamePhase.late_iff.mpr (Nat.le_trans (GamePhase.late_iff.mp late) later)
    · rw [plays.fades.ids_eq]
      exact inOrder

/-! ## Runs -/

theorem selection_run (expected : Nat) (dice : δ) (ops : List Op) :
    Selection ((Session.new expected dice).run ops).1
      (selectTurns ((Session.new expected dice).run ops).2) := by
  have fresh := Orderly.new expected dice
  induction ops using List.reverseRecOn with
  | nil => exact .lobby rfl (by simp [Roster.Jobless, run, Session.new, Roster.empty]) rfl
  | append_singleton ops op ih =>
    rw [run_concat]
    exact ih.perform (fresh.run ops) (run_transcript fresh ops) op

/-- A run keeps a job other than `unassigned`. -/
theorem job_of_run (expected : Nat) (dice : δ) (ops : List Op)
    (found : ((Session.new expected dice).run ops).1.roster.get? id = some p)
    (chosen : p.job ≠ .unassigned) (more : List Op) :
    ∃ q, (((Session.new expected dice).run ops).1.run more).1.roster.get? id = some q ∧
      q.job = p.job := by
  have fresh := Orderly.new expected dice
  induction more using List.reverseRecOn with
  | nil => exact ⟨p, found, rfl⟩
  | append_singleton more op ih =>
    obtain ⟨q, there, same⟩ := ih
    have selection := selection_run expected dice (ops ++ more)
    have orderly := fresh.run (ops ++ more)
    rw [run_append] at selection orderly
    have real : q.job ≠ .unassigned := by rwa [same]
    have started := selection.started_of_chosen orderly there real
    obtain ⟨r, after, still⟩ :=
      (perform_plays orderly started op).job_of_chosen selection there real
    rw [run_concat]
    exact ⟨r, after, still.trans same⟩

/-- After every run: in `characterSelect` the holder has a slot, every living player below it is
`ready` and has a job, and every player from it on is not `ready` and `unassigned`. The slots of the
`selectTurns` increase. A job other than `unassigned` is kept by every further run. In `main` and
`gameOver` everybody alive is `ready` and has a job. -/
theorem chosen_below_holderSlot_of_run (expected : Nat) (dice : δ) (ops : List Op) :
    let s := ((Session.new expected dice).run ops).1
    let told := ((Session.new expected dice).run ops).2
    (s.game = .characterSelect → ∃ slot, s.turns.holderSlot s.roster = some slot ∧
      ∀ k p, s.roster.players[k]? = some p →
        (k < slot → p.alive = true → p.ready = true ∧ p.job ≠ .unassigned) ∧
        (slot ≤ k → p.ready = false ∧ p.job = .unassigned)) ∧
      (∃ slots : List Nat, (selectTurns told).map s.roster.slot? = slots.map some ∧
        slots.Pairwise (· < ·)) ∧
      (∀ id p, s.roster.get? id = some p → p.job ≠ .unassigned →
        ∀ more, ∃ q, (s.run more).1.roster.get? id = some q ∧ q.job = p.job) ∧
      (s.game = .main ∨ s.game = .gameOver →
        ∀ p ∈ s.roster.players, p.alive = true → p.ready = true ∧ p.job ≠ .unassigned) := by
  intro s told
  have selection : Selection s (selectTurns told) := selection_run expected dice ops
  refine ⟨fun phase => ?_, ?_, fun id p found chosen => job_of_run expected dice ops found chosen,
    fun phase => ?_⟩
  · cases selection with
    | lobby pending => cases phase.symm.trans pending
    | @select slot _ holder chosen =>
      exact ⟨slot, holder, fun k p here => ⟨chosen.below k p here, chosen.behind k p here⟩⟩
    | late late => simp [phase] at late
  · cases selection with
    | lobby _ _ silent => exact ⟨[], by rw [silent]; rfl, List.Pairwise.nil⟩
    | select _ _ _ inOrder =>
      exact Roster.exists_slots_of_sublist (inOrder.trans (List.take_sublist _ _))
    | late _ _ inOrder => exact Roster.exists_slots_of_sublist inOrder
  · cases selection with
    | lobby pending => simp [pending] at phase
    | select select => simp [select] at phase
    | late _ chosen => exact chosen

/-- A session of three in `characterSelect`: the second player is lost before its turn, and the
first has chosen. -/
def skipped : List Op :=
  [.opened, .handle ⟨1⟩ (.intro "A" true), .handle ⟨2⟩ (.intro "B" true),
    .handle ⟨3⟩ (.intro "C" true), .disconnect ⟨2⟩, .handle ⟨1⟩ (.chooseJob .wizard)]

/-- The holder is at slot 2 and the turns were at slots 0 and 2. With its choice the game is in
`main`. -/
theorem chosen_below_holderSlot_of_run_skipped :
    let run := (Session.new 3 (⟨[]⟩ : Script)).run skipped
    let main := ((Session.new 3 (⟨[]⟩ : Script)).run
      (skipped ++ [.handle ⟨3⟩ (.chooseJob .warrior)])).1
    (run.1.game = .characterSelect ∧ run.1.turns.holderSlot run.1.roster = some 2 ∧
        ∀ k p, run.1.roster.players[k]? = some p →
          (k < 2 → p.alive = true → p.ready = true ∧ p.job ≠ .unassigned) ∧
          (2 ≤ k → p.ready = false ∧ p.job = .unassigned)) ∧
      (selectTurns run.2 = [⟨1⟩, ⟨3⟩] ∧ ∃ slots : List Nat,
        [⟨1⟩, ⟨3⟩].map run.1.roster.slot? = slots.map some ∧ slots.Pairwise (· < ·)) ∧
      main.game = .main ∧
        ∀ p ∈ main.roster.players, p.alive = true → p.ready = true ∧ p.job ≠ .unassigned := by
  intro run main
  have choosing : run.1.game = .characterSelect := by decide +kernel
  have third : run.1.turns.holderSlot run.1.roster = some 2 := by decide +kernel
  have told : selectTurns run.2 = [⟨1⟩, ⟨3⟩] := by decide +kernel
  have phase : main.game = .main := by decide +kernel
  obtain ⟨split, inOrder, -, -⟩ := chosen_below_holderSlot_of_run 3 (⟨[]⟩ : Script) skipped
  obtain ⟨-, -, -, chosen⟩ := chosen_below_holderSlot_of_run 3 (⟨[]⟩ : Script)
    (skipped ++ [.handle ⟨3⟩ (.chooseJob .warrior)])
  obtain ⟨slot, holder, split⟩ := split choosing
  obtain rfl : slot = 2 := Option.some.inj (holder.symm.trans third)
  refine ⟨⟨choosing, third, split⟩, ⟨told, ?_⟩, phase, chosen (.inl phase)⟩
  rw [← told]
  exact inOrder

end Skirmish.Session
