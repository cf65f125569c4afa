import Skirmish.Proofs.Session.Token

/-!
# Who is in the game

`register` refuses while `inProgress`, and nothing sets `alive` again. So nobody joins a game, and
nobody in it is raised.

Results:

* `request_members`: a player after a granted request was there before, alive if it is now, or has
  just joined a lobby;
* `disconnect_within`: the same for a disconnect, without anybody new;
* `not_alive_of_disconnect`: the player of a disconnect is gone or dead, until `gameOver`;
* `capacity_run`: the capacity is constant.
-/

namespace Skirmish

/-- `Action.resolve` leaves a dead target dead. -/
theorem Action.alive_of_resolve {δ : Type} [Dice δ] {action : Action} {target : Standing} {dice : δ}
    (h : (action.resolve target dice).2.1.alive = true) : target.alive = true := by
  unfold resolve Standing.change at h
  cases alive : target.alive with
  | true => rfl
  | false => simp [alive] at h

namespace Roster

variable {r s u : Roster} {id : PlayerId} {f : Standing → Standing}

/-- Every player of `r` is in `s` by its number, and is alive in `s` if it is alive in `r`. -/
def Within (r s : Roster) : Prop :=
  ∀ id p, r.get? id = some p → ∃ q, s.get? id = some q ∧ (p.alive = true → q.alive = true)

theorem Within.refl (r : Roster) : r.Within r :=
  fun _ p found => ⟨p, found, fun alive => alive⟩

theorem Within.trans (first : r.Within s) (second : s.Within u) : r.Within u := by
  intro id p found
  obtain ⟨q, there, lives⟩ := first id p found
  obtain ⟨q', there', lives'⟩ := second id q there
  exact ⟨q', there', fun alive => lives' (lives alive)⟩

theorem update_within (r : Roster) (id : PlayerId)
    (keeps : ∀ p, r.get? id = some p → (f p.toStanding).alive = true → p.alive = true) :
    (r.update id f).Within r := by
  intro other p found
  rw [get?_update, Option.map_eq_some_iff] at found
  obtain ⟨q, there, rfl⟩ := found
  refine ⟨q, there, fun alive => ?_⟩
  split at alive
  · rename_i same
    exact keeps q (same ▸ there) alive
  · exact alive

theorem updateAll_within (r : Roster) (keeps : ∀ st, (f st).alive = true → st.alive = true) :
    (r.updateAll f).Within r := by
  intro other p found
  rw [get?_updateAll, Option.map_eq_some_iff] at found
  obtain ⟨q, there, rfl⟩ := found
  exact ⟨q, there, keeps q.toStanding⟩

end Roster

namespace Session

variable {δ : Type} {s : Session δ} {id : PlayerId} {step : Step δ}

/-! ## Passing the turn -/

@[simp] theorem roster_finish (s : Session δ) (winner : Option String) :
    (s.finish winner).1.roster = s.roster := rfl

@[simp] theorem roster_advanceMain (s : Session δ) : s.advanceMain.1.roster = s.roster := by
  rcases s.advanceMain_cases with ⟨p, -, -, -, -, eq⟩ | ⟨-, eq⟩ <;> rw [eq]
  rfl

@[simp] theorem roster_startMain (s : Session δ) : s.startMain.1.roster = s.roster :=
  roster_advanceMain { s with game := s.game.advance .main }

@[simp] theorem roster_advanceSelect (s : Session δ) : s.advanceSelect.1.roster = s.roster := by
  rcases s.turns.advanceSelect_cases s.roster with ⟨p, -, -, -, eq⟩ | eq <;>
    simp only [advanceSelect, eq]
  exact roster_startMain s

@[simp] theorem roster_afterForfeit (s : Session δ) (id : PlayerId) :
    (s.afterForfeit id).1.roster = s.roster := by
  unfold afterForfeit
  split
  · split <;> simp
  · split
    · simp
    · split <;> simp
  · rfl
  · rfl

theorem tryStart_within (s : Session δ) : s.tryStart.1.roster.Within s.roster := by
  unfold tryStart
  split
  · exact Roster.updateAll_within _ fun _ alive => alive
  · exact .refl _

/-! ## Requests -/

theorem MayStart.within (may : s.MayStart step) : step.1.roster.Within s.roster := by
  rcases may with rfl | rfl
  · exact tryStart_within s
  · exact .refl _

theorem register_members {name : String} {ready : Bool} (ok : s.register id name ready = .ok step)
    {j : PlayerId} {p : Player} (found : step.1.roster.get? j = some p) :
    j = id ∧ s.connection ≠ .inProgress ∨
      ∃ q, s.roster.get? j = some q ∧ (p.alive = true → q.alive = true) := by
  obtain ⟨lobby, roster, started, joins, may, rfl⟩ := register_cases ok
  obtain ⟨q, there, lives⟩ := may.within j p found
  have seated : (if j = id then some (.join id name ready) else s.roster.get? j) = some q :=
    (Roster.get?_of_register joins j).symm.trans there
  split at seated
  · exact .inl ⟨‹_›, lobby⟩
  · exact .inr ⟨q, seated, lives⟩

theorem setReady_within {ready : Bool} (ok : s.setReady id ready = .ok step) :
    step.1.roster.Within s.roster := by
  obtain ⟨lobby, line, started, may, rfl⟩ := setReady_cases ok
  exact may.within.trans (Roster.update_within _ _ fun _ _ alive => alive)

theorem request_members [Dice δ] {r : Request} (ok : s.request id r = .ok step) {j : PlayerId}
    {p : Player} (found : step.1.roster.get? j = some p) :
    j = id ∧ s.connection ≠ .inProgress ∨
      ∃ q, s.roster.get? j = some q ∧ (p.alive = true → q.alive = true) := by
  cases r with
  | intro name ready => exact register_members ok found
  | ready => exact .inr (setReady_within ok j p found)
  | unready => exact .inr (setReady_within ok j p found)
  | listPlayers | listStats | chat =>
    rw [(request_of_isTalk rfl ok).1] at found
    exact .inr (Roster.Within.refl _ j p found)
  | chooseJob job =>
    obtain ⟨-, -, -, q, -, rfl⟩ := chooseJob_eq_ok_iff.mp ok
    rw [roster_advanceSelect] at found
    exact .inr (Roster.update_within _ _ (fun _ _ alive => alive) j p found)
  | act action name =>
    obtain ⟨-, -, actor, other, q, -, -, there, rfl⟩ := takeAction_eq_ok_iff.mp ok
    rw [roster_advanceMain] at found
    refine .inr (Roster.update_within _ _ (fun q' there' alive => ?_) j p found)
    rw [there, Option.some.injEq] at there'
    exact there' ▸ Action.alive_of_resolve alive

/-! ## Lost connections -/

theorem disconnect_within (s : Session δ) (id : PlayerId) :
    (s.disconnect id).1.roster.Within s.roster := by
  rcases s.disconnect_cases id with ⟨eq, -⟩ | ⟨p, found, ⟨-, eq⟩ | ⟨-, -, -, eq⟩⟩ <;> rw [eq]
  · exact .refl _
  · intro other q there
    rw [left, Roster.get?_without] at there
    split at there
    · cases there
    · exact ⟨q, there, fun alive => alive⟩
  · rw [roster_afterForfeit]
    refine Roster.update_within _ _ fun _ _ alive => ?_
    cases alive

theorem not_alive_of_disconnect (going : s.game ≠ .gameOver) {p : Player}
    (found : (s.disconnect id).1.roster.get? id = some p) : p.alive = false := by
  rcases s.disconnect_cases id with ⟨eq, idle⟩ | ⟨q, there, ⟨-, eq⟩ | ⟨-, -, -, eq⟩⟩ <;>
    rw [eq] at found
  · exact (idle p found).2.resolve_left going
  · rw [left, Roster.get?_without, if_pos rfl] at found
    cases found
  · rw [roster_afterForfeit, forfeited, Roster.get?_update, there, Option.map_some, if_pos rfl,
      Option.some.injEq] at found
    rw [← found]
    rfl

/-! ## Room -/

theorem MayStart.capacity_eq (may : s.MayStart step) :
    step.1.roster.capacity = s.roster.capacity := by
  rcases may with rfl | rfl
  · unfold tryStart
    split <;> rfl
  · rfl

theorem capacity_request [Dice δ] {r : Request} (ok : s.request id r = .ok step) :
    step.1.roster.capacity = s.roster.capacity := by
  cases r with
  | intro name ready =>
    obtain ⟨-, roster, started, joins, may, rfl⟩ := register_cases ok
    obtain ⟨-, -, -, -, capacity, -⟩ := Roster.register_eq_ok_iff.mp joins
    exact may.capacity_eq.trans capacity
  | ready | unready =>
    obtain ⟨-, line, started, may, rfl⟩ := setReady_cases ok
    exact may.capacity_eq.trans (Roster.capacity_update ..)
  | listPlayers | listStats | chat => rw [(request_of_isTalk rfl ok).1]
  | chooseJob job =>
    obtain ⟨-, -, -, p, -, rfl⟩ := chooseJob_eq_ok_iff.mp ok
    rw [roster_advanceSelect, Roster.capacity_update]
  | act action name =>
    obtain ⟨-, -, actor, other, p, -, -, -, rfl⟩ := takeAction_eq_ok_iff.mp ok
    rw [roster_advanceMain, Roster.capacity_update]

theorem capacity_disconnect (s : Session δ) (id : PlayerId) :
    (s.disconnect id).1.roster.capacity = s.roster.capacity := by
  rcases s.disconnect_cases id with ⟨eq, -⟩ | ⟨p, -, ⟨-, eq⟩ | ⟨-, -, -, eq⟩⟩ <;> rw [eq]
  · rfl
  · rw [roster_afterForfeit, forfeited, Roster.capacity_update]

theorem capacity_perform [Dice δ] (s : Session δ) (op : Op) :
    (s.perform op).1.roster.capacity = s.roster.capacity := by
  refine perform_elim (motive := fun step => step.1.roster.capacity = s.roster.capacity)
    rfl capacity_request ?_ rfl ?_ s.capacity_disconnect op
  · exact fun _ _ => rfl
  · exact fun _ => rfl

/-- A run keeps `Roster.capacity`. -/
theorem capacity_run [Dice δ] (s : Session δ) (ops : List Op) :
    (s.run ops).1.roster.capacity = s.roster.capacity := by
  induction ops generalizing s with
  | nil => rfl
  | cons op rest ih => exact (ih (s.perform op).1).trans (capacity_perform s op)

end Session

end Skirmish
