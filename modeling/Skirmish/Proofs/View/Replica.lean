import Skirmish.Proofs.Correspondence.Post
import Skirmish.Proofs.Session.Reported
import Skirmish.Proofs.View.Sending

/-!
# The roster of a view is the roster of the session

A client that is connected before `main` gets all rows with `phaseChanged`, and from then on only
`healthChanged`, by name. That suffices: in `main` and `gameOver` its rows are the snapshots of the
session. So `living_player` of the client finds just the names that `take_action` of the session
accepts.

Results:

* `View.Follows.roster_eq`: the rows of a view that `Follows` the effects;
* `Session.takeAction_eq_invalidTarget_iff`: when the holder gets `invalidTarget`;
* `View.roster_eq_snapshots_of_follows`: the rows and the targets after any run.
-/

namespace Skirmish

open Session

namespace View

/-! ## Following a session -/

/-- `Follows v es w`: the client gets every broadcast in `es` and any of the unicasts, in order, and
types any lines in between, which leads from `v` to `w`. -/
inductive Follows : View → List Effect → View → Prop
  | done (v : View) : Follows v [] v
  | hears {v w : View} {n : Notice} {es : List Effect} (rest : Follows (v.apply n).1 es w) :
      Follows v (.broadcast n :: es) w
  | reads {v w : View} {id : PlayerId} {n : Notice} {es : List Effect}
      (rest : Follows (v.apply n).1 es w) : Follows v (.unicast id n :: es) w
  | misses {v w : View} {id : PlayerId} {n : Notice} {es : List Effect} (rest : Follows v es w) :
      Follows v (.unicast id n :: es) w
  | closes {v w : View} {id : PlayerId} {es : List Effect} (rest : Follows v es w) :
      Follows v (.close id :: es) w
  | types {v u w : View} {line : String} {intent : Intent} {es : List Effect}
      (typed : v.route line = .ok (intent, u)) (rest : Follows u es w) : Follows v es w

/-- A client that gets what is for `id` follows. -/
theorem follows_noticesFor (v : View) (id : PlayerId) (es : List Effect) :
    Follows v es (v.hearAll (noticesFor id es)) := by
  induction es generalizing v with
  | nil => exact .done v
  | cons e rest ih =>
    cases e with
    | broadcast n => exact .hears (ih _)
    | unicast recipient n =>
      rw [noticesFor_unicast]
      split
      · exact .reads (ih _)
      · exact .misses (ih v)
    | close other => exact .closes (ih v)

theorem Follows.roster_eq {v w : View} {es : List Effect} (h : Follows v es w)
    (discreet : Discreet es) : w.roster = rowsAfter v.roster (broadcasts es) := by
  induction h with
  | done v => rfl
  | hears rest ih =>
    rw [ih discreet.tail, roster_apply]
    rfl
  | @reads v w id n es rest ih =>
    have personal : n.isPersonal = true := discreet id n List.mem_cons_self
    rw [ih discreet.tail, roster_apply, Notice.rows_of_isPersonal personal]
    rfl
  | misses rest ih | closes rest ih => exact ih discreet.tail
  | types typed rest ih => rw [ih discreet, roster_route typed]

end View

/-! ## Targets -/

/-- In `main` an action of the holder is refused as `invalidTarget` iff no living player has the
name, which is not `Rules.selfWord`. -/
theorem Session.takeAction_eq_invalidTarget_iff {δ : Type} [Dice δ] {s : Session δ}
    (h : Orderly s) (main : s.game = .main) {id : PlayerId} (holder : s.turns.holder = some id)
    (action : Action) {name : String} (other : name ≠ Rules.selfWord) :
    s.takeAction id action name = .error (.invalidTarget name) ↔
      ¬∃ p ∈ s.roster.players, p.name = name ∧ p.alive = true := by
  constructor
  · intro refused living
    obtain ⟨step, granted⟩ := (takeAction_isOk_iff h action).mpr ⟨main, holder, .inr living⟩
    rw [granted] at refused
    cases refused
  · intro dead
    obtain ⟨actor, found, -⟩ := h.holder_alive id holder
    have named : s.nameOf id = .ok actor.name := nameOf_eq_ok_iff.mpr ⟨actor, found, rfl⟩
    have none : s.target id name = .error (.invalidTarget name) := by
      rw [target, if_neg other]
      split
      · rename_i p there
        obtain ⟨hp, own⟩ := Roster.find_eq_ok_iff.mp there
        rw [if_neg fun alive => dead ⟨p, hp, own, alive⟩]
      · rfl
    simp [takeAction, main, Turns.isHolder, holder, named, none]

namespace View

variable {δ : Type} [Dice δ]

/-- A view that `Follows` from `pending` or `characterSelect` has the snapshots of the roster as its
rows in `main` and `gameOver`. In `main` its `living?` finds a name, other than `Rules.selfWord`,
iff the session does not refuse it to the holder as `invalidTarget`. -/
theorem roster_eq_snapshots_of_follows (expected : Nat) (dice : δ) (before after : List Op)
    {v w : View}
    (early : ((Session.new expected dice).run before).1.game = .pending ∨
      ((Session.new expected dice).run before).1.game = .characterSelect)
    (follows : Follows v (((Session.new expected dice).run before).1.run after).2 w) :
    let s := ((Session.new expected dice).run (before ++ after)).1
    (s.game = .main ∨ s.game = .gameOver → w.roster = s.roster.snapshots) ∧
      ∀ id action name, s.game = .main → s.turns.holder = some id → name ≠ Rules.selfWord →
        ((w.living? name).isSome = true ↔
          s.takeAction id action name ≠ .error (.invalidTarget name)) := by
  have fresh := Orderly.new expected dice
  have seen := fresh.run before
  have current : ((Session.new expected dice).run before).1.Replicates v.roster := by
    intro late
    rcases early with g | g <;> simp [g] at late
  have kept := replicates_run seen current after
  rw [← follows.roster_eq (discreet_run seen after)] at kept
  have vital := vital_run seen (vital_run fresh (vital_new expected dice) before) after
  rw [run_append]
  refine ⟨kept, fun id action name main holder other => ?_⟩
  rw [vital.living?_isSome_iff (kept (.inl main)), ne_eq,
    takeAction_eq_invalidTarget_iff (seen.run after) main holder action other, not_not]

/-- Two of three players join. -/
def arrivals : List Op :=
  [.handle ⟨1⟩ (.intro "A" true), .handle ⟨2⟩ (.intro "B" true)]

/-- The third joins, all choose jobs, the first attacks the second, and the third disconnects. -/
def brawl : List Op :=
  [.handle ⟨3⟩ (.intro "C" true), .handle ⟨1⟩ (.chooseJob .wizard),
    .handle ⟨2⟩ (.chooseJob .warrior), .handle ⟨3⟩ (.chooseJob .assassin),
    .handle ⟨1⟩ (.act .attack "B"), .disconnect ⟨3⟩]

/-- After `brawl` the first client has the rows of the session, and `C`, who has left, is no target.
-/
theorem roster_eq_snapshots_of_follows_brawl :
    let s := ((Session.new 3 (⟨[]⟩ : Script)).run arrivals).1
    let t := ((Session.new 3 (⟨[]⟩ : Script)).run (arrivals ++ brawl)).1
    let w := (View.new "A").hearAll (noticesFor ⟨1⟩ (s.run brawl).2)
    (s.game = .pending ∧ Follows (View.new "A") (s.run brawl).2 w) ∧
      t.game = .main ∧ t.turns.holder = some ⟨2⟩ ∧
      w.roster = t.roster.snapshots ∧
      ((w.living? "C").isSome = true ↔
        t.takeAction ⟨2⟩ .heal "C" ≠ .error (.invalidTarget "C")) := by
  have early : ((Session.new 3 (⟨[]⟩ : Script)).run arrivals).1.game = .pending := by
    decide +kernel
  have main : ((Session.new 3 (⟨[]⟩ : Script)).run (arrivals ++ brawl)).1.game = .main := by
    decide +kernel
  have holder : ((Session.new 3 (⟨[]⟩ : Script)).run (arrivals ++ brawl)).1.turns.holder =
      some ⟨2⟩ := by
    decide +kernel
  have follows := follows_noticesFor (View.new "A") ⟨1⟩
    (((Session.new 3 (⟨[]⟩ : Script)).run arrivals).1.run brawl).2
  have kept := roster_eq_snapshots_of_follows 3 (⟨[]⟩ : Script) arrivals brawl (.inl early) follows
  exact ⟨⟨early, follows⟩, main, holder, kept.1 (.inl main),
    kept.2 ⟨2⟩ .heal "C" main holder (by decide)⟩

end View

end Skirmish
