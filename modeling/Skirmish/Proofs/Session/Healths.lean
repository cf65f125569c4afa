import Skirmish.Proofs.Session.Handover
import Skirmish.Proofs.Session.Play
import Skirmish.Proofs.Session.Refusals

/-!
# What becomes of healths

A health changes only when its player joins, forfeits, or is the target of an accepted action.
`Alters` says what an operation does to all healths at once (`conditions`), together with the
actions it accepts (`actions`).

No action is accepted before `main`, so until then everybody has `Rules.startingHealth` or has
forfeited (`Roster.Unhurt`).

Results:

* `actions_append`, `actions_of_ok`, `actions_of_error`: the actions of a run;
* `perform_alters`: every operation `Alters`;
* `early_run`: before `main` there are no actions, and the roster is `Unhurt`.
-/

namespace Skirmish

/-! ## Accepted actions -/

/-- The action of an `act`. -/
def Request.action? : Request → Option Action
  | .act action _ => some action
  | .intro .. | .ready | .unready | .listPlayers | .listStats | .chat _ | .chooseJob _ => none

theorem Request.action?_of_isTalk {r : Request} (talk : r.isTalk = true) : r.action? = none := by
  cases r <;> first | rfl | cases talk

namespace Session

/-- The action of a request in either form. -/
def Op.action? : Op → Option Action
  | .handle _ r | .request _ r => r.action?
  | .opened | .serverChat _ | .disconnect _ => none

variable {δ : Type} {s : Session δ} {id : PlayerId} {step next : Step δ}

section

variable [Dice δ] {op : Op} {r : Request}

/-- The actions of the granted `act` requests of a run, in order. -/
def actions (s : Session δ) (ops : List Op) : List Action :=
  (s.kept ops).filterMap Op.action?

@[simp] theorem actions_nil (s : Session δ) : s.actions [] = [] := rfl

theorem actions_singleton (s : Session δ) (op : Op) :
    s.actions [op] = if s.counts op then op.action?.toList else [] := by
  cases counts : s.counts op with
  | true =>
    rw [actions, kept_cons_of_counts counts]
    cases asks : op.action? <;> simp [asks, kept, log]
  | false =>
    rw [actions, kept_cons_of_idle counts]
    rfl

theorem actions_cons (s : Session δ) (op : Op) (rest : List Op) :
    s.actions (op :: rest) = s.actions [op] ++ (s.perform op).1.actions rest := by
  rw [actions_singleton]
  cases counts : s.counts op with
  | true =>
    rw [actions, kept_cons_of_counts counts]
    cases asks : op.action? <;> simp [asks, actions]
  | false =>
    rw [actions, kept_cons_of_idle counts, perform_of_counts_eq_false counts]
    rfl

theorem actions_append (s : Session δ) (ops more : List Op) :
    s.actions (ops ++ more) = s.actions ops ++ (s.run ops).1.actions more := by
  induction ops generalizing s with
  | nil => rfl
  | cons op rest ih =>
    rw [List.cons_append, actions_cons, ih, actions_cons s op rest, List.append_assoc, run_cons]

/-- The action of a granted request is accepted. -/
theorem actions_of_ok (asked : op = .handle id r ∨ op = .request id r)
    (ok : s.request id r = .ok step) : s.actions [op] = r.action?.toList := by
  have asks : op.action? = r.action? := by rcases asked with rfl | rfl <;> rfl
  have counts : s.counts op = !r.isTalk := by
    rcases asked with rfl | rfl <;> simp [Session.counts, ok, Except.isOk, Except.toBool]
  rw [actions_singleton, asks, counts]
  cases talk : r.isTalk with
  | true =>
    rw [Request.action?_of_isTalk talk]
    rfl
  | false => rfl

theorem actions_of_error {why : Refusal} (asked : op = .handle id r ∨ op = .request id r)
    (refused : s.request id r = .error why) : s.actions [op] = [] := by
  have idle : s.counts op = false := by
    rcases asked with rfl | rfl <;> simp [Session.counts, refused, Except.isOk, Except.toBool]
  rw [actions_singleton, idle]
  rfl

end

end Session

/-! ## Conditions -/

/-- The two fields of a `Standing` that `change` and `forfeit` set. -/
structure Condition where
  health : Int32
  alive : Bool
deriving DecidableEq, Repr

namespace Condition

/-- The condition of `Player.join`. -/
def fresh : Condition := ⟨Rules.startingHealth, true⟩

/-- The condition of `forfeit` with `0 ≤ health`. -/
def gone : Condition := ⟨0, false⟩

end Condition

/-- The condition of a standing. -/
def Standing.condition (st : Standing) : Condition :=
  ⟨st.health, st.alive⟩

namespace Roster

variable {r t : Roster} {id : PlayerId} {p : Player} {f : Standing → Standing}

/-- The conditions of all players, in order. -/
def conditions (r : Roster) : List Condition :=
  r.players.map (·.condition)

theorem condition_mem (hp : p ∈ r.players) : p.condition ∈ r.conditions :=
  List.mem_map_of_mem hp

@[simp] theorem length_conditions (r : Roster) : r.conditions.length = r.players.length :=
  List.length_map _

/-- A property of all conditions outlives `update`, if `f` keeps it for the player that is found. -/
theorem forall_conditions_update {P : Condition → Prop} (all : ∀ c ∈ r.conditions, P c)
    (kept : ∀ p, r.get? id = some p → P (f p.toStanding).condition) :
    ∀ c ∈ (r.update id f).conditions, P c := by
  intro c hc
  rw [conditions, players_update, List.map_map, List.mem_map] at hc
  obtain ⟨q, hq, rfl⟩ := hc
  rw [Function.comp]
  split
  · rename_i own
    exact kept q (get?_eq_some_iff.mpr ⟨hq, own⟩)
  · exact all _ (condition_mem hq)

theorem conditions_update_of_keeps (keeps : ∀ st : Standing, (f st).condition = st.condition) :
    (r.update id f).conditions = r.conditions := by
  rw [conditions, players_update, conditions]
  exact map_update_of_keeps (fun p => keeps p.toStanding) r.players id

theorem conditions_of_register {name : String} {ready : Bool}
    (joins : r.register id name ready = .ok t) : t.conditions = r.conditions ++ [.fresh] := by
  obtain ⟨-, -, -, -, -, players⟩ := register_eq_ok_iff.mp joins
  rw [conditions, players, List.map_append]
  rfl

theorem conditions_without_sublist (r : Roster) (id : PlayerId) :
    (r.without id).conditions.Sublist r.conditions :=
  List.filter_sublist.map _

/-- Every condition is `fresh` or `gone`. -/
def Unhurt (r : Roster) : Prop :=
  ∀ c ∈ r.conditions, c = .fresh ∨ c = .gone

theorem Unhurt.forfeit (h : r.Unhurt) (id : PlayerId) :
    (r.update id Standing.forfeit).Unhurt := by
  refine forall_conditions_update h fun p found => .inr ?_
  have health : p.health = Rules.startingHealth ∨ p.health = 0 :=
    (h _ (condition_mem (mem_of_get? found))).imp (congrArg Condition.health ·)
      (congrArg Condition.health ·)
  rw [Standing.condition, Standing.forfeit, Condition.gone]
  rcases health with eq | eq <;> rw [eq] <;> rfl

end Roster

namespace Session

variable {δ : Type} {s : Session δ} {id : PlayerId} {step next : Step δ} {roster : Roster}

/-- `s.Alters accepted roster`: an operation that accepts these actions leads to conditions like
those of `roster`. -/
inductive Alters [Dice δ] (s : Session δ) : List Action → Roster → Prop
  | keeps {roster : Roster} (same : roster.conditions = s.roster.conditions) :
      Alters s [] roster
  | joins {roster : Roster} (lobby : s.connection ≠ .inProgress)
      (grows : roster.conditions = s.roster.conditions ++ [.fresh]) : Alters s [] roster
  | leaves {roster : Roster} (lobby : s.connection ≠ .inProgress)
      (shrinks : roster.conditions.Sublist s.roster.conditions) : Alters s [] roster
  | forfeits {id : PlayerId} {p : Player} (found : s.roster.get? id = some p)
      (alive : p.alive = true) : Alters s [] (s.roster.update id Standing.forfeit)
  | acts {id : PlayerId} {p : Player} {action : Action} (main : s.game = .main)
      (found : s.roster.get? id = some p) (alive : p.alive = true) :
      Alters s [action] (s.roster.update id (·.change (action.delta s.dice).1))

theorem conditions_tryStart (s : Session δ) :
    s.tryStart.1.roster.conditions = s.roster.conditions := by
  unfold tryStart
  split
  · show (s.roster.updateAll ({ · with ready := false })).conditions = _
    rw [Roster.conditions, Roster.players_updateAll, List.map_map]
    rfl
  · rfl

theorem MayStart.conditions_eq (may : s.MayStart step) :
    step.1.roster.conditions = s.roster.conditions := by
  rcases may with rfl | rfl
  · exact conditions_tryStart s
  · rfl

variable [Dice δ]

theorem request_alters (h : Orderly s) {r : Request} (ok : s.request id r = .ok step) :
    s.Alters r.action?.toList step.1.roster := by
  cases r with
  | intro name ready =>
    obtain ⟨lobby, roster, started, joins, may, rfl⟩ := register_cases ok
    exact .joins lobby (may.conditions_eq.trans (Roster.conditions_of_register joins))
  | ready | unready =>
    obtain ⟨-, line, started, may, rfl⟩ := setReady_cases ok
    exact .keeps (may.conditions_eq.trans (Roster.conditions_update_of_keeps fun _ => rfl))
  | listPlayers | listStats | chat =>
    rw [(request_of_isTalk rfl ok).1]
    exact .keeps rfl
  | chooseJob job =>
    obtain ⟨-, -, -, p, -, rfl⟩ := chooseJob_eq_ok_iff.mp ok
    rw [roster_advanceSelect]
    exact .keeps (Roster.conditions_update_of_keeps fun _ => rfl)
  | act action name =>
    obtain ⟨main, holder, actor, other, p, -, target, found, rfl⟩ := takeAction_eq_ok_iff.mp ok
    rw [roster_advanceMain, Roster.update_resolve found]
    exact .acts main found (alive_of_target h holder target found)

theorem disconnect_alters (s : Session δ) (id : PlayerId) :
    s.Alters [] (s.disconnect id).1.roster := by
  rcases s.disconnect_cases id with ⟨eq, -⟩ | ⟨p, found, ⟨lobby, eq⟩ | ⟨-, -, alive, eq⟩⟩ <;>
    rw [eq]
  · exact .keeps rfl
  · exact .leaves lobby (s.roster.conditions_without_sublist id)
  · rw [roster_afterForfeit]
    exact .forfeits found alive

theorem asked_alters (h : Orderly s) {op : Op} {r : Request}
    (asked : op = .handle id r ∨ op = .request id r) :
    s.Alters (s.actions [op]) (s.perform op).1.roster := by
  cases outcome : s.request id r with
  | ok step =>
    rw [actions_of_ok asked outcome, perform_of_ok asked outcome]
    exact request_alters h outcome
  | error why =>
    rw [actions_of_error asked outcome, perform_of_error asked outcome]
    exact .keeps rfl

/-- Every operation is one of the cases of `Alters`, with at most one action. -/
theorem perform_alters (h : Orderly s) (op : Op) :
    s.Alters (s.actions [op]) (s.perform op).1.roster := by
  cases op with
  | opened | serverChat => exact .keeps rfl
  | handle id r => exact asked_alters h (.inl rfl)
  | request id r => exact asked_alters h (.inr rfl)
  | disconnect id => exact s.disconnect_alters id

/-! ## Before the main phase -/

/-- The game is `pending` or in `characterSelect`. -/
def Early (s : Session δ) : Prop :=
  s.game = .pending ∨ s.game = .characterSelect

/-- `Early` after an operation is `Early` before it. -/
theorem Early.of_perform (h : Orderly s) {op : Op} (early : (s.perform op).1.Early) :
    s.Early := by
  have forward := (perform_transcript h op).rank_le
  cases game : s.game with
  | pending => exact .inl game
  | characterSelect => exact .inr game
  | main | gameOver =>
    rcases early with g | g <;> rw [game, g] at forward <;> exact absurd forward (by decide)

theorem Alters.actions_eq_nil {accepted : List Action} (h : s.Alters accepted roster)
    (early : s.Early) : accepted = [] := by
  cases h with
  | keeps | joins | leaves | forfeits => rfl
  | acts main => simp [Early, main] at early

/-- An operation of an `Early` session keeps `Unhurt`. -/
theorem Alters.unhurt {accepted : List Action} (h : s.Alters accepted roster) (early : s.Early)
    (unhurt : s.roster.Unhurt) : roster.Unhurt := by
  cases h with
  | keeps same =>
    rw [Roster.Unhurt, same]
    exact unhurt
  | joins lobby grows =>
    intro c hc
    rw [grows, List.mem_append, List.mem_singleton] at hc
    exact hc.elim (unhurt c) .inl
  | leaves lobby shrinks => exact fun c hc => unhurt c (shrinks.subset hc)
  | forfeits found alive => exact unhurt.forfeit _
  | acts main => simp [Early, main] at early

/-- A run to an `Early` session accepts no action, and the roster is `Unhurt`. -/
theorem early_run (expected : Nat) (dice : δ) (ops : List Op)
    (early : ((Session.new expected dice).run ops).1.Early) :
    (Session.new expected dice).actions ops = [] ∧
      ((Session.new expected dice).run ops).1.roster.Unhurt := by
  have fresh := Orderly.new expected dice
  induction ops using List.reverseRecOn with
  | nil => exact ⟨rfl, fun c hc => nomatch hc⟩
  | append_singleton ops op ih =>
    rw [run_concat] at early ⊢
    have orderly := fresh.run ops
    have before := Early.of_perform orderly early
    have alters := perform_alters orderly op
    rw [actions_append, (ih before).1, alters.actions_eq_nil before]
    exact ⟨rfl, alters.unhurt before (ih before).2⟩

end Session

end Skirmish
