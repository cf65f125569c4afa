import Skirmish.Proofs.Roster
import Skirmish.Proofs.View.Hearing

/-!
# What everybody is told of the players

`Account g r ns k s` says of the broadcasts `ns` that they report how the session got from phase `g`
and roster `r` to phase `k` and roster `s`. Every notice in it that is not personal goes with a
change:

* `gameStarted` makes everybody unready;
* `phaseChanged main` brings the snapshots of the roster at that point;
* `healthChanged` brings name and health of a player that is healed, harmed or gives up.

So somebody who has the roster, or one row of it, and hears the broadcasts still has it.

Results:

* `Account.knows`: a row that matches its player goes on to match;
* `Account.replicates`: rows that match the roster go on to match;
* `Account.vital`: alive iff health above `0`;
* `Account.gameStarted_mem_iff`: `gameStarted` is among the broadcasts iff they lead out of
  `pending`.
-/

namespace Skirmish

/-! ## Standings -/

namespace Standing

/-- The changes that are broadcast as `healthChanged`: `Standing.change` and `Standing.forfeit`. -/
inductive Told : (Standing → Standing) → Prop
  | change (delta : Int32) : Told (·.change delta)
  | forfeit : Told Standing.forfeit

/-- Alive iff the health is above `0`. -/
def Vital (st : Standing) : Prop :=
  st.alive = true ↔ 0 < st.health

variable {f : Standing → Standing}

theorem Told.ready_eq (told : Told f) (st : Standing) : (f st).ready = st.ready := by
  cases told with
  | change delta => simp only [Standing.change]; split <;> rfl
  | forfeit => rfl

theorem Told.job_eq (told : Told f) (st : Standing) : (f st).job = st.job := by
  cases told with
  | change delta => simp only [Standing.change]; split <;> rfl
  | forfeit => rfl

theorem Told.vital (told : Told f) {st : Standing} (vital : st.Vital) : (f st).Vital := by
  cases told with
  | change delta =>
    simp only [Standing.change]
    split
    · exact decide_eq_true_iff
    · exact vital
  | forfeit =>
    have gone : ¬0 < st.forfeit.health := by
      simp only [Standing.forfeit]
      split
      · exact Int32.not_lt.mpr ‹_›
      · decide
    exact iff_of_false Bool.false_ne_true gone

end Standing

/-! ## Rosters -/

namespace Roster

variable {r s : Roster} {id j : PlayerId} {p : Player} {m : Snapshot} {f : Standing → Standing}

/-- The player `id` has the snapshot `m`. -/
def Knows (r : Roster) (id : PlayerId) (m : Snapshot) : Prop :=
  ∃ p, r.get? id = some p ∧ p.snapshot = m

/-- Every player is alive iff its health is above `0`. -/
def Vital (r : Roster) : Prop :=
  ∀ p ∈ r.players, p.toStanding.Vital

@[simp] theorem name_snapshot (p : Player) : p.snapshot.name = p.name := rfl

theorem snapshot_told (told : Standing.Told f) (p : Player) :
    (p.mapStanding f).snapshot = { p.snapshot with health := (f p.toStanding).health } := by
  simp [Player.mapStanding, Player.snapshot, told.ready_eq, told.job_eq]

theorem find?_snapshots (hp : p ∈ r.players) :
    r.snapshots.find? (·.name = p.name) = some p.snapshot := by
  have found : r.find p.name = .ok p := find_eq_ok_iff.mpr ⟨hp, rfl⟩
  rw [find_eq] at found
  have here : r.players.find? (·.name = p.name) = some p := by
    split at found <;> cases found
    assumption
  rw [snapshots, List.find?_map]
  have same : (fun m : Snapshot => decide (m.name = p.name)) ∘ Player.snapshot =
      fun q => decide (q.name = p.name) := rfl
  rw [same, here]
  rfl

/-- Another player has another name. -/
theorem name_ne (found : r.get? id = some p) {q : Player} (other : r.get? j = some q)
    (h : j ≠ id) : q.name ≠ p.name := by
  intro same
  obtain ⟨hp, rfl⟩ := get?_eq_some_iff.mp found
  obtain ⟨hq, rfl⟩ := get?_eq_some_iff.mp other
  exact h (congrArg Player.id (List.inj_on_of_nodup_map r.names_nodup hq hp same))

theorem withHealth_map {players : List Player} (names : (players.map (·.name)).Nodup)
    (ids : (players.map (·.id)).Nodup) (hp : p ∈ players) (told : Standing.Told f) :
    View.withHealth p.name (f p.toStanding).health (players.map Player.snapshot) =
      (players.map fun q => if q.id = p.id then q.mapStanding f else q).map Player.snapshot := by
  induction players with
  | nil => cases hp
  | cons q rest ih =>
    have ⟨freshName, restNames⟩ := List.nodup_cons.mp names
    have ⟨freshId, restIds⟩ := List.nodup_cons.mp ids
    rcases List.mem_cons.mp hp with rfl | later
    · -- the player is here, and the rest stays as it is
      have others : ∀ q ∈ rest, (if q.id = p.id then q.mapStanding f else q) = q := fun q hq =>
        if_neg fun same => freshId (List.mem_map.mpr ⟨q, hq, same⟩)
      rw [List.map_cons, List.map_cons, List.map_cons, View.withHealth, if_pos (name_snapshot p),
        if_pos rfl, List.map_congr_left others, List.map_id', snapshot_told told]
    · have name : q.name ≠ p.name := fun same =>
        freshName (List.mem_map.mpr ⟨p, later, same.symm⟩)
      have number : q.id ≠ p.id := fun same => freshId (List.mem_map.mpr ⟨p, later, same.symm⟩)
      rw [List.map_cons, List.map_cons, List.map_cons, View.withHealth, name_snapshot,
        if_neg name, if_neg number, ih restNames restIds later]

/-- Setting the health in the row of that name is `update` of the player. -/
theorem withHealth_snapshots (told : Standing.Told f) (found : r.get? id = some p) :
    View.withHealth p.name (f p.toStanding).health r.snapshots = (r.update id f).snapshots := by
  obtain ⟨hp, rfl⟩ := get?_eq_some_iff.mp found
  rw [snapshots, snapshots, players_update]
  exact withHealth_map r.names_nodup r.ids_nodup hp told

/-! ## What changes keep -/

theorem Knows.updateAll (h : r.Knows j m) :
    (r.updateAll ({ · with ready := false })).Knows j { m with ready := false } := by
  obtain ⟨p, found, rfl⟩ := h
  exact ⟨_, by rw [get?_updateAll, found]; rfl, rfl⟩

theorem Knows.update_of_ne (h : r.Knows j m) (other : j ≠ id) : (r.update id f).Knows j m := by
  obtain ⟨p, found, rfl⟩ := h
  exact ⟨p, by rw [get?_update, found]; simp [other], rfl⟩

/-- A row that `Knows` its player still does after the `healthChanged` of any player. -/
theorem Knows.health (h : r.Knows j m) (told : Standing.Told f) (found : r.get? id = some p) :
    (r.update id f).Knows j (m.hear (.healthChanged p.name (f p.toStanding).health)) := by
  by_cases here : j = id
  · subst here
    obtain ⟨q, there, rfl⟩ := h
    rw [found, Option.some.injEq] at there
    subst there
    refine ⟨p.mapStanding f, by rw [get?_update, found]; simp, ?_⟩
    rw [Snapshot.hear, if_pos (name_snapshot p), snapshot_told told]
  · obtain ⟨q, there, rfl⟩ := h
    have own : q.snapshot.name ≠ p.name := name_ne found there here
    rw [Snapshot.hear, if_neg own]
    exact Knows.update_of_ne ⟨q, there, rfl⟩ here

/-- A row that `Knows` its player still does after `phaseChanged` with the snapshots. -/
theorem Knows.snapshots (h : r.Knows j m) (g : GamePhase) :
    r.Knows j (m.hear (.phaseChanged g (some r.snapshots))) := by
  obtain ⟨p, found, rfl⟩ := h
  rw [Snapshot.hear, name_snapshot, find?_snapshots (mem_of_get? found)]
  exact ⟨p, found, rfl⟩

theorem Vital.update (h : r.Vital) (keeps : ∀ st : Standing, st.Vital → (f st).Vital) :
    (r.update id f).Vital := by
  intro p hp
  rw [players_update, List.mem_map] at hp
  obtain ⟨q, hq, rfl⟩ := hp
  split
  · exact keeps q.toStanding (h q hq)
  · exact h q hq

theorem Vital.updateAll (h : r.Vital) (keeps : ∀ st : Standing, st.Vital → (f st).Vital) :
    (r.updateAll f).Vital := by
  intro p hp
  rw [players_updateAll, List.mem_map] at hp
  obtain ⟨q, hq, rfl⟩ := hp
  exact keeps q.toStanding (h q hq)

/-- If the rows are the snapshots, `living?` finds a name iff its player is alive. -/
theorem Vital.living?_isSome_iff (vital : r.Vital) {v : View} (rows : v.roster = r.snapshots)
    (name : String) :
    (v.living? name).isSome = true ↔ ∃ p ∈ r.players, p.name = name ∧ p.alive = true := by
  have alive (p : Player) (hp : p ∈ r.players) : p.snapshot.isAlive = true ↔ p.alive = true := by
    rw [Snapshot.isAlive, decide_eq_true_iff]
    exact (vital p hp).symm
  rw [View.living?_isSome_iff, rows, snapshots]
  simp only [List.mem_map]
  constructor
  · rintro ⟨_, ⟨p, hp, rfl⟩, named, living⟩
    exact ⟨p, hp, named, (alive p hp).mp living⟩
  · rintro ⟨p, hp, named, living⟩
    exact ⟨_, ⟨p, hp, rfl⟩, named, (alive p hp).mpr living⟩

end Roster

/-! ## Accounts -/

/-- Each notice of `ns` in turn, with the phase and the roster that it leads to. -/
inductive Account : GamePhase → Roster → List Notice → GamePhase → Roster → Prop
  | done (g : GamePhase) (r : Roster) : Account g r [] g r
  | talk {g k : GamePhase} {r s : Roster} {ns : List Notice} {n : Notice}
      (personal : n.isPersonal = true) (rest : Account g r ns k s) : Account g r (n :: ns) k s
  | started {k : GamePhase} {r s : Roster} {ns : List Notice}
      (rest : Account .characterSelect (r.updateAll ({ · with ready := false })) ns k s) :
      Account .pending r (.gameStarted :: ns) k s
  | enters {k : GamePhase} {r s : Roster} {ns : List Notice} (rest : Account .main r ns k s) :
      Account .characterSelect r (.phaseChanged .main (some r.snapshots) :: ns) k s
  | ends {k : GamePhase} {r s : Roster} {ns : List Notice} (rest : Account .gameOver r ns k s) :
      Account .main r (.phaseChanged .gameOver none :: ns) k s
  | health {g k : GamePhase} {r s : Roster} {ns : List Notice} {id : PlayerId} {p : Player}
      {f : Standing → Standing} (told : Standing.Told f) (found : r.get? id = some p)
      (rest : Account g (r.update id f) ns k s) :
      Account g r (.healthChanged p.name (f p.toStanding).health :: ns) k s

namespace Account

variable {g k : GamePhase} {r s : Roster} {ns : List Notice}

theorem after_personal {first : List Notice} (personal : ∀ n ∈ first, n.isPersonal = true)
    (h : Account g r ns k s) : Account g r (first ++ ns) k s := by
  induction first with
  | nil => exact h
  | cons n rest ih =>
    rw [List.forall_mem_cons] at personal
    exact .talk personal.1 (ih personal.2)

theorem of_personal (personal : ∀ n ∈ ns, n.isPersonal = true) (g : GamePhase) (r : Roster) :
    Account g r ns g r := by
  have told := after_personal personal (.done g r)
  rwa [List.append_nil] at told

theorem knows (h : Account g r ns k s) {j : PlayerId} {m : Snapshot} (known : r.Knows j m) :
    s.Knows j (m.hearAll ns) := by
  induction h generalizing m with
  | done g r => exact known
  | talk personal rest ih =>
    rw [Snapshot.hearAll_cons, Snapshot.hear_of_isPersonal personal]
    exact ih known
  | started rest ih => exact ih known.updateAll
  | enters rest ih => exact ih (known.snapshots .main)
  | ends rest ih => exact ih known
  | health told found rest ih => exact ih (known.health told found)

/-- If the rows are the snapshots in `main` and `gameOver`, they are so after an `Account`. -/
theorem replicates (h : Account g r ns k s) {rows : List Snapshot}
    (current : g = .main ∨ g = .gameOver → rows = r.snapshots) :
    k = .main ∨ k = .gameOver → rowsAfter rows ns = s.snapshots := by
  induction h generalizing rows with
  | done g r => exact current
  | talk personal rest ih =>
    rw [rowsAfter_cons, Notice.rows_of_isPersonal personal]
    exact ih current
  | started rest ih =>
    apply ih
    rintro (g | g) <;> cases g
  | enters rest ih => exact ih fun _ => rfl
  | ends rest ih => exact ih fun _ => current (.inl rfl)
  | health told found rest ih =>
    apply ih
    intro late
    rw [Notice.rows, current late, Roster.withHealth_snapshots told found]

theorem vital (h : Account g r ns k s) (vital : r.Vital) : s.Vital := by
  induction h with
  | done g r => exact vital
  | talk personal rest ih => exact ih vital
  | started rest ih => exact ih (vital.updateAll fun _ vital => vital)
  | enters rest ih | ends rest ih => exact ih vital
  | health told found rest ih => exact ih (vital.update fun _ => told.vital)

theorem rank_le (h : Account g r ns k s) : g.rank ≤ k.rank := by
  induction h with
  | done => exact Nat.le_refl _
  | talk _ _ ih | health _ _ _ ih => exact ih
  | started rest ih | enters rest ih | ends rest ih => exact Nat.le_trans (by decide) ih

theorem gameStarted_mem_iff (h : Account g r ns k s) :
    .gameStarted ∈ ns ↔ g = .pending ∧ k ≠ .pending := by
  induction h with
  | done g r => simp
  | talk personal rest ih =>
    rw [List.mem_cons, ih, or_iff_right]
    rintro rfl
    cases personal
  | @started k r s ns rest ih =>
    have left : k ≠ .pending := by
      rintro rfl
      exact absurd rest.rank_le (by decide)
    simpa using left
  | enters rest ih | ends rest ih => simp [ih]
  | health told found rest ih => simp [ih]

end Account

end Skirmish
