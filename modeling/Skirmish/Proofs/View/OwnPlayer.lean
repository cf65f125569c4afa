import Skirmish.Proofs.View.Hearing
import Skirmish.Proofs.View.Moves

/-!
# The own player of a view

A view has the health of its own player twice: in `me`, and in the first row of `roster` with its
name. `apply` of `healthChanged` and of `phaseChanged` with a roster changes each in its own way,
and the notices need not make sense: a roster may come at any time, with the own name in several
rows or none, and a health may name nobody. The two healths agree nevertheless, and the setters
`set_ready`, `choose_job` and `end_turn` touch neither.

Results:

* `find?_withHealth`: `withHealth` and the first row of a name;
* `Snapshot.name_hear`, `Snapshot.KeepsUp.hear`: name and healths after any notice;
* `change_cases`: all other changes keep name, health and rows;
* `rank_le_change`: neither phase goes back;
* `me_health_eq_of_changes`: all of this for every list of changes.
-/

namespace Skirmish

/-! ## Rows and notices -/

/-- `withHealth name` sets the health of the first row of `name`, and of no other first row. -/
theorem View.find?_withHealth (name own : String) (health : Int32) (rows : List Snapshot) :
    (withHealth name health rows).find? (·.name = own) =
      (rows.find? (·.name = own)).map fun p => if own = name then { p with health } else p := by
  induction rows with
  | nil => rfl
  | cons p rest ih =>
    rw [withHealth]
    by_cases named : p.name = name
    · -- the health is put in here, and whoever is found behind has another name
      rw [if_pos named, List.find?_cons, List.find?_cons, named]
      by_cases same : own = name
      · simp [same, named]
      · simp [same, Ne.symm same]
    · rw [if_neg named, List.find?_cons, List.find?_cons, ih]
      by_cases here : p.name = own
      · have other : own ≠ name := fun same => named (here.trans same)
        simp [here, other]
      · simp [here]

namespace Snapshot

variable {m : Snapshot} {rows : List Snapshot}

/-- `m` has the health of the first row of its name, if there is one. -/
def KeepsUp (m : Snapshot) (rows : List Snapshot) : Prop :=
  ∀ p, rows.find? (·.name = m.name) = some p → m.health = p.health

theorem name_hear (m : Snapshot) (n : Notice) : (m.hear n).name = m.name := by
  cases n with
  | phaseChanged phase roster =>
    cases roster with
    | none => rfl
    | some players =>
      rw [hear]
      cases own : players.find? (·.name = m.name) with
      | none => rfl
      | some p => simpa using List.find?_some own
  | healthChanged name health =>
    rw [hear]
    split <;> rfl
  | _ => rfl

/-- A notice keeps `KeepsUp`. -/
theorem KeepsUp.hear (h : m.KeepsUp rows) (n : Notice) : (m.hear n).KeepsUp (n.rows rows) := by
  unfold KeepsUp
  rw [name_hear]
  cases n with
  | phaseChanged phase roster =>
    cases roster with
    | none => exact h
    | some players =>
      -- the own player is taken over from the very row that counts
      intro p own
      rw [Notice.rows] at own
      rw [Snapshot.hear, own, Option.getD_some]
  | healthChanged name health =>
    intro p own
    rw [Notice.rows, View.find?_withHealth, Option.map_eq_some_iff] at own
    obtain ⟨q, found, rfl⟩ := own
    rw [Snapshot.hear]
    split
    · rfl
    · exact h q found
  | _ => exact h

end Snapshot

/-! ## Whatever is done to a view -/

namespace View

/-- What is done to a view: a happening, or one of its setters. -/
inductive Change
  | happens (h : Happening)
  | setReady (ready : Bool)
  | chooseJob (job : Job)
  | endTurn
deriving DecidableEq, Repr

/-- The view after a change. -/
def change (v : View) : Change → View
  | .happens h => (v.happen h).1
  | .setReady ready => v.setReady ready
  | .chooseJob job => v.chooseJob job
  | .endTurn => v.endTurn

/-- The view after the changes in order. -/
def changes (v : View) (cs : List Change) : View :=
  cs.foldl change v

@[simp] theorem changes_cons (v : View) (c : Change) (cs : List Change) :
    v.changes (c :: cs) = (v.change c).changes cs := rfl

/-- The same name, health, rows and game phase, and a connection phase that has not gone back. -/
structure Alike (v w : View) : Prop where
  name : w.me.name = v.me.name
  health : w.me.health = v.me.health
  roster : w.roster = v.roster
  game : w.game = v.game
  connection : v.connection.rank ≤ w.connection.rank

variable {v : View} {name : String}

theorem Alike.refl (v : View) : v.Alike v :=
  ⟨rfl, rfl, rfl, rfl, Nat.le_refl _⟩

theorem alike_sent (v : View) (r : Request) : v.Alike (v.sent r) := by
  cases r <;> exact ⟨rfl, rfl, rfl, rfl, Nat.le_refl _⟩

theorem alike_type (v : View) (line : String) : v.Alike (v.routeInPlace line).2 := by
  rw [routeInPlace_eq]
  cases routed : v.route line with
  | error why => exact .refl v
  | ok out =>
    obtain ⟨intent, w⟩ := out
    show v.Alike w
    cases route_typed routed with
    | sends => exact v.alike_sent _
    | keeps => exact .refl v

theorem alike_connected (v : View) : v.Alike v.connected where
  name := rfl
  health := rfl
  roster := rfl
  game := rfl
  connection := by
    rw [connected, ConnectionPhase.rank_advance]
    exact Nat.le_max_left ..

/-- A change is a notice, or leaves the view `Alike`. -/
theorem change_cases (v : View) (c : Change) :
    (∃ n, v.change c = (v.apply n).1) ∨ v.Alike (v.change c) := by
  cases c with
  | happens h =>
    cases h with
    | connects => exact .inr v.alike_connected
    | hears n => exact .inl ⟨n, rfl⟩
    | types line => exact .inr (v.alike_type line)
  | setReady | chooseJob | endTurn => exact .inr ⟨rfl, rfl, rfl, rfl, Nat.le_refl _⟩

theorem rank_le_connection_apply (v : View) (n : Notice) :
    v.connection.rank ≤ (v.apply n).1.connection.rank := by
  rw [connection_apply]
  split
  · cases v.connection <;> decide
  · exact Nat.le_refl _

theorem rank_le_change (v : View) (c : Change) :
    v.connection.rank ≤ (v.change c).connection.rank ∧ v.game.rank ≤ (v.change c).game.rank := by
  rcases v.change_cases c with ⟨n, eq⟩ | alike
  · rw [eq, game_apply]
    exact ⟨v.rank_le_connection_apply n, v.game.rank_le_hear n⟩
  · rw [alike.game]
    exact ⟨alike.connection, Nat.le_refl _⟩

theorem rank_le_changes (v : View) (cs : List Change) :
    v.connection.rank ≤ (v.changes cs).connection.rank ∧
      v.game.rank ≤ (v.changes cs).game.rank := by
  induction cs generalizing v with
  | nil => exact ⟨Nat.le_refl _, Nat.le_refl _⟩
  | cons c rest ih =>
    have first := v.rank_le_change c
    have later := ih (v.change c)
    rw [changes_cons]
    exact ⟨Nat.le_trans first.1 later.1, Nat.le_trans first.2 later.2⟩

/-- The invariant: the name is kept, and the healths agree. -/
structure Owned (name : String) (v : View) : Prop where
  name_eq : v.me.name = name
  keepsUp : v.me.KeepsUp v.roster

theorem owned_new (name : String) : Owned name (new name) :=
  ⟨rfl, fun _ nobody => nomatch nobody⟩

theorem Owned.change (h : Owned name v) (c : Change) : Owned name (v.change c) := by
  rcases v.change_cases c with ⟨n, eq⟩ | alike
  · rw [eq]
    constructor
    · rw [me_apply, Snapshot.name_hear, h.name_eq]
    · rw [me_apply, roster_apply]
      exact h.keepsUp.hear n
  · refine ⟨alike.name.trans h.name_eq, fun p own => ?_⟩
    rw [alike.name, alike.roster] at own
    exact alike.health.trans (h.keepsUp p own)

theorem Owned.changes (h : Owned name v) (cs : List Change) : Owned name (v.changes cs) := by
  induction cs generalizing v with
  | nil => exact h
  | cons c rest ih => exact ih (h.change c)

/-- For a new view and any changes in any order: it keeps its name, its health is that of the first
row of that name if there is one, and no later change takes either phase back. -/
theorem me_health_eq_of_changes (name : String) (before later : List Change) :
    let v := (new name).changes before
    v.me.name = name ∧
      (∀ p, v.roster.find? (·.name = name) = some p → v.me.health = p.health) ∧
      v.connection.rank ≤ (v.changes later).connection.rank ∧
      v.game.rank ≤ (v.changes later).game.rank := by
  intro v
  have owned : Owned name v := (owned_new name).changes before
  refine ⟨owned.name_eq, fun p own => ?_, v.rank_le_changes later⟩
  rw [← owned.name_eq] at own
  exact owned.keepsUp p own

/-- A roster before the game with the own name twice, the health of a name in no row, and one of the
own name. -/
def garbled : List Change :=
  [.happens (.hears (.phaseChanged .main
      (some [⟨"B", 5, true, .wizard⟩, ⟨"A", 7, true, .warrior⟩, ⟨"A", 9, true, .assassin⟩]))),
    .setReady false, .happens (.hears (.healthChanged "C" 1)),
    .happens (.hears (.healthChanged "A" 3))]

/-- After `garbled` the first row of the own name has health 3, as `me` has, and `characterSelect`
does not take `main` back. -/
theorem me_health_eq_of_changes_garbled :
    let v := (new "A").changes garbled
    v.roster.map (·.health) = [5, 3, 9] ∧
      v.roster.find? (·.name = "A") = some ⟨"A", 3, true, .warrior⟩ ∧ v.me.health = 3 ∧
      v.game = .main ∧
      v.game.rank ≤
        (v.changes [.happens (.hears (.phaseChanged .characterSelect none))]).game.rank := by
  have ⟨_, keeps, _, onwards⟩ := me_health_eq_of_changes "A" garbled
    [.happens (.hears (.phaseChanged .characterSelect none))]
  have own : ((new "A").changes garbled).roster.find? (·.name = "A") =
      some ⟨"A", 3, true, .warrior⟩ := by
    decide +kernel
  exact ⟨by decide +kernel, own, keeps _ own, by decide +kernel, onwards⟩

end View

end Skirmish
