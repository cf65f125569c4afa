import Skirmish.Proofs.Session.Accounted
import Skirmish.Proofs.Session.Token

/-!
# What a run tells of the players

A step is `Reported` if its broadcasts are an `Account` of what it does to the roster, from a roster
that `Quietly` differs from the old one. That difference concerns neither who is alive nor, from
`main` on, anything at all. So rows that match the roster when `main` begins match it until the end,
for everybody who hears all broadcasts.

Results:

* `perform_reported`: every operation is `Reported`;
* `replicates_run`: the rows after any run;
* `vital_run`: alive iff health above `0`, after any run;
* `discreet_run`: no unicast has a notice of the roster.
-/

namespace Skirmish.Session

variable {δ : Type} {s : Session δ} {id : PlayerId} {step : Step δ}

/-! ## Operations -/

/-- Every notice in a `unicast` of `effects` is `Notice.isPersonal`. -/
def Discreet (effects : List Effect) : Prop :=
  ∀ id n, .unicast id n ∈ effects → n.isPersonal = true

theorem Discreet.tail {e : Effect} {rest : List Effect} (h : Discreet (e :: rest)) :
    Discreet rest :=
  fun id n told => h id n (List.mem_cons_of_mem _ told)

theorem discreet_refusal (why : Refusal) (id : PlayerId) : Discreet (why.effects id) := by
  intro j n told
  rcases refusal_cases why id with eq | ⟨reason, eq⟩ <;> rw [eq] at told
  · cases told
  · obtain ⟨-, rfl⟩ : j = id ∧ n = .disconnected reason := by simpa using told
    rfl

theorem accounted_refusal (s : Session δ) (why : Refusal) (id : PlayerId) :
    Accounted s (s, why.effects id) := by
  rcases refusal_cases why id with eq | ⟨reason, eq⟩ <;> rw [eq] <;> exact .done _ _

/-- `roster` may replace that of `s` before the effects of an operation say so: in `main` and
`gameOver` it is the same, and it is `Vital` if the old one is. -/
structure Quietly (s : Session δ) (roster : Roster) : Prop where
  late : s.game = .main ∨ s.game = .gameOver → roster = s.roster
  vital : s.roster.Vital → roster.Vital

theorem Quietly.refl (s : Session δ) : Quietly s s.roster :=
  ⟨fun _ => rfl, fun vital => vital⟩

theorem quietly_without (pending : s.game = .pending) (id : PlayerId) :
    Quietly s (s.roster.without id) where
  late late := by simp [pending] at late
  vital := .without

/-- `step` is `Discreet`, and `Accounted` from a session whose roster has changed `Quietly`. -/
def Reported (s : Session δ) (step : Step δ) : Prop :=
  Discreet step.2 ∧ ∃ roster, Quietly s roster ∧ Accounted { s with roster } step

theorem Accounted.reported (h : Accounted s step) (discreet : Discreet step.2) : Reported s step :=
  ⟨discreet, s.roster, .refl s, h⟩

/-- In `main` and `gameOver`, `rows` are the snapshots of the roster. -/
def Replicates (s : Session δ) (rows : List Snapshot) : Prop :=
  s.game = .main ∨ s.game = .gameOver → rows = s.roster.snapshots

theorem Reported.replicates (h : Reported s step) {rows : List Snapshot}
    (current : s.Replicates rows) : step.1.Replicates (rowsAfter rows (broadcasts step.2)) := by
  obtain ⟨-, roster, quietly, told⟩ := h
  apply Account.replicates told
  intro late
  rw [current late]
  exact congrArg Roster.snapshots (quietly.late late).symm

theorem Reported.vital (h : Reported s step) (vital : s.roster.Vital) : step.1.roster.Vital := by
  obtain ⟨-, roster, quietly, told⟩ := h
  exact Account.vital told (quietly.vital vital)

theorem vital_new (expected : Nat) (dice : δ) : (Session.new expected dice).roster.Vital :=
  fun _ hp => by cases hp

theorem disconnect_reported (h : Orderly s) (id : PlayerId) : Reported s (s.disconnect id) := by
  have discreet : Discreet (s.disconnect id).2 := fun _ _ =>
    (disconnect_relayed h id).isPersonal_of_unicast
  rcases disconnect_account h id with ⟨pending, told⟩ | told
  · exact ⟨discreet, s.roster.without id, quietly_without pending id, told⟩
  · exact told.reported discreet

theorem serverChat_reported (s : Session δ) (text : String) :
    Reported s (s, Session.serverChat text) := by
  rcases serverChat_cases text with eq | eq <;> rw [eq]
  · exact (accounted_of_talk rfl).reported fun _ _ told => nomatch told
  · refine (accounted_of_talk rfl).reported fun _ _ told => ?_
    cases List.mem_singleton.mp told

variable [Dice δ]

theorem quietly_of_prepared (h : Orderly s) {r : Request} (ok : s.request id r = .ok step)
    {roster : Roster} (prepared : s.roster.Prepared id r roster) : Quietly s roster where
  late late := prepared_eq_of_late h late ok prepared
  vital := prepared.vital

theorem request_reported (h : Orderly s) {r : Request} (ok : s.request id r = .ok step) :
    Reported s step := by
  obtain ⟨roster, prepared, told⟩ := request_account h ok
  have discreet : Discreet step.2 := fun _ _ => (request_relayed h ok).isPersonal_of_unicast
  exact ⟨discreet, roster, quietly_of_prepared h ok prepared, told⟩

theorem perform_reported (h : Orderly s) (op : Op) : Reported s (s.perform op) := by
  have silent : Discreet [] := fun _ _ told => nomatch told
  refine perform_elim (motive := Reported s) ?_ (request_reported h) ?_ ?_ (serverChat_reported s)
    (disconnect_reported h) op
  · exact Accounted.reported (.done _ _) silent
  · exact fun why id => (accounted_refusal s why id).reported (discreet_refusal why id)
  · exact Accounted.reported (.done _ _) silent

/-! ## Runs -/

theorem replicates_run (h : Orderly s) {rows : List Snapshot} (current : s.Replicates rows)
    (ops : List Op) :
    (s.run ops).1.Replicates (rowsAfter rows (broadcasts (s.run ops).2)) := by
  induction ops generalizing s rows with
  | nil => exact current
  | cons op rest ih =>
    rw [run, broadcasts_append, rowsAfter_append]
    exact ih (h.perform op) ((perform_reported h op).replicates current)

theorem vital_run (h : Orderly s) (vital : s.roster.Vital) (ops : List Op) :
    (s.run ops).1.roster.Vital := by
  induction ops generalizing s with
  | nil => exact vital
  | cons op rest ih => exact ih (h.perform op) ((perform_reported h op).vital vital)

theorem discreet_run (h : Orderly s) (ops : List Op) : Discreet (s.run ops).2 := by
  induction ops generalizing s with
  | nil =>
    intro _ _ told
    cases told
  | cons op rest ih =>
    intro j n told
    rcases List.mem_append.mp told with now | later
    · exact (perform_reported h op).1 j n now
    · exact ih (h.perform op) j n later

end Skirmish.Session
