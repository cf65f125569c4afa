import Skirmish.Hub
import Skirmish.Proofs.Session.Members
import Skirmish.Proofs.Session.Token

/-!
# Whom the hub holds

What `Hub.handle` of each event does to `Hub.held`, the keys of the table of connections, and which
living players have lost theirs (`Keeps`).

Results:

* `intro_of_closes`: a registered player loses its connection only by an `intro` in the game;
* `held_dispatch`, `held_dispatch_refusal`: `Hub.held` after `dispatch`;
* `orderly_step`, `nodup_step`: invariants of every event;
* `Keeps.received`, `Keeps.forfeited`: living players stay held, unless they are known to be lost.
-/

namespace Skirmish

open Session

/-! ## Requests that cost the connection -/

section Closing

variable {δ : Type} {s : Session δ} {id : PlayerId}

/-- A refusal of a registered player that `closes` is that of an `intro` while the game is
`inProgress`. -/
theorem intro_of_closes [Dice δ] (registered : (s.roster.get? id).isSome = true) {r : Request}
    {why : Refusal} (refused : s.request id r = .error why) (closes : why.closes = true) :
    s.connection = .inProgress ∧ ∃ name ready, r = .intro name ready := by
  obtain ⟨name, ready, rfl⟩ := exists_intro_of_closes refused closes
  refine ⟨?_, name, ready, rfl⟩
  rcases register_eq_error_iff.mp refused with ⟨started, -⟩ | ⟨-, reason, unseated, rfl⟩
  · exact started
  · rw [Roster.register_of_known registered, Except.error.injEq] at unseated
    subst unseated
    cases closes

theorem request_intro_of_inProgress [Dice δ] (started : s.connection = .inProgress) (name : String)
    (ready : Bool) : s.request id (.intro name ready) = .error (.roster .full) :=
  register_eq_error_iff.mpr (.inl ⟨started, rfl⟩)

end Closing

/-! ## What the hub holds -/

namespace Hub

variable {δ : Type} {h : Hub δ}

theorem held_performAll {held : List PlayerId} {effects : List Effect}
    (open_ : ∀ id, .close id ∉ effects) : (performAll held effects).1 = held := by
  induction effects with
  | nil => rfl
  | cons e rest ih =>
    have later := ih fun id closes => open_ id (List.mem_cons_of_mem _ closes)
    cases e with
    | broadcast n => exact later
    | unicast recipient n => exact later
    | close id => exact absurd List.mem_cons_self (open_ id)

theorem held_dispatch {step : Step δ} (open_ : ∀ id, .close id ∉ step.2) :
    (h.dispatch step).1.held = h.held :=
  held_performAll open_

/-- `dispatch` of effects without `close` keeps the hub. -/
theorem dispatch_session {effects : List Effect} (open_ : ∀ id, .close id ∉ effects) :
    (h.dispatch (h.session, effects)).1 = h := by
  have held : (h.dispatch (h.session, effects)).1.held = h.held := held_performAll open_
  exact congrArg (fun held => { h with held }) held

theorem close_notMem_serverChat (text : String) (id : PlayerId) : .close id ∉ serverChat text := by
  unfold serverChat
  split <;> simp [Effect.announce]

/-- `dispatch` of a refusal takes `id` out of `held` iff the refusal `closes`. -/
theorem held_dispatch_refusal (h : Hub δ) (s : Session δ) (why : Refusal) (id : PlayerId) :
    (h.dispatch (s, why.effects id)).1.held = if why.closes then h.held.erase id else h.held := by
  cases closes : why.closes <;> simp [dispatch, Refusal.effects, closes, performAll, perform]

theorem mem_hold {held : List PlayerId} {id other : PlayerId} :
    other ∈ hold held id ↔ other ∈ held ∨ other = id := by
  unfold hold
  split
  · rename_i there
    exact ⟨.inl, fun h => h.elim (fun h => h) fun same => same ▸ there⟩
  · rw [List.mem_append, List.mem_singleton]

theorem nodup_hold {held : List PlayerId} (distinct : held.Nodup) (id : PlayerId) :
    (hold held id).Nodup := by
  unfold hold
  split
  · exact distinct
  · rename_i fresh
    exact List.nodup_append.mpr ⟨distinct, List.nodup_singleton id, fun a ha b hb same =>
      fresh (List.mem_singleton.mp hb ▸ same ▸ ha)⟩

theorem performAll_sublist (held : List PlayerId) (effects : List Effect) :
    (performAll held effects).1.Sublist held := by
  induction effects generalizing held with
  | nil => exact .refl _
  | cons e rest ih =>
    refine (ih (perform held e).1).trans ?_
    cases e with
    | broadcast n => exact .refl _
    | unicast recipient n => exact .refl _
    | close id => exact List.erase_sublist

variable [Dice δ]

theorem step_of_running (running : h.running = true) (event : Event) :
    h.step event = h.handle event := by
  rw [step, if_pos running]

theorem handle_received (h : Hub δ) (id : PlayerId) (r : Request) :
    (h.handle (.received id r)).1 =
      if id ∈ h.held then (h.dispatch (h.session.handle id r)).1 else h := by
  rw [handle]
  split <;> rfl

theorem handle_lost (h : Hub δ) (id : PlayerId) :
    (h.handle (.lost id)).1 =
      ({ h with held := h.held.erase id }.dispatch (h.session.disconnect id)).1 := rfl

/-- Whether the trimmed console line is `quitWord` in any ASCII case. -/
def quits (line : String) : Bool :=
  (Text.trim line.toList).map Char.toLower = quitWord

theorem handle_console_of_quits {line : String} (quits : quits line = true) :
    (h.handle (.console line)).1 = { h with held := [], running := false } := by
  rw [handle, if_pos (by simpa [Hub.quits] using quits)]
  rfl

/-- `serverChat` keeps the hub. -/
theorem handle_console_of_not_quits {line : String} (talk : quits line = false) :
    (h.handle (.console line)).1 = h := by
  rw [handle, if_neg (by simpa [quits] using talk)]
  exact dispatch_session (close_notMem_serverChat _)

/-! ## What an event keeps -/

theorem orderly_handle (orderly : Orderly h.session) (event : Event) :
    Orderly (h.handle event).1.session := by
  cases event with
  | connected => exact orderly
  | received id r =>
    rw [handle_received]
    split
    · exact orderly.handle id r
    · exact orderly
  | lost id =>
    rw [handle_lost]
    exact (disconnect_relayed orderly id).orderly
  | console line =>
    cases quits : quits line with
    | true => rwa [handle_console_of_quits quits]
    | false => rwa [handle_console_of_not_quits quits]

theorem nodup_handle (distinct : h.held.Nodup) (event : Event) :
    (h.handle event).1.held.Nodup := by
  cases event with
  | connected => exact nodup_hold distinct _
  | received id r =>
    rw [handle_received]
    split
    · exact distinct.sublist (performAll_sublist _ _)
    · exact distinct
  | lost id =>
    rw [handle_lost]
    exact (distinct.erase id).sublist (performAll_sublist _ _)
  | console line =>
    cases quits : quits line with
    | true =>
      rw [handle_console_of_quits quits]
      exact List.nodup_nil
    | false => rwa [handle_console_of_not_quits quits]

theorem orderly_step (orderly : Orderly h.session) (event : Event) :
    Orderly (h.step event).1.session := by
  unfold step
  split
  · exact orderly_handle orderly event
  · exact orderly

theorem nodup_step (distinct : h.held.Nodup) (event : Event) : (h.step event).1.held.Nodup := by
  unfold step
  split
  · exact nodup_handle distinct event
  · exact distinct

/-- Before `gameOver` every living player is in `held` or counts as `lost`. -/
def Keeps (h : Hub δ) (lost : PlayerId → Prop) : Prop :=
  h.session.game ≠ .gameOver →
    ∀ id p, h.session.roster.get? id = some p → p.alive = true → id ∈ h.held ∨ lost id

namespace Keeps

variable {lost : PlayerId → Prop} {id : PlayerId}

omit [Dice δ] in
theorem mono (keeps : h.Keeps lost) {lost' : PlayerId → Prop} (more : ∀ id, lost id → lost' id) :
    h.Keeps lost' :=
  fun going id p found alive => (keeps going id p found alive).imp_right (more id)

theorem connected (keeps : h.Keeps lost) : (h.handle .connected).1.Keeps lost :=
  fun going id p found alive =>
    (keeps going id p found alive).imp_left fun held => mem_hold.mpr (.inl held)

/-- A request keeps `Keeps`, if an `intro` of a living player in the game counts as `lost`. -/
theorem received (keeps : h.Keeps lost) (orderly : Orderly h.session) {r : Request}
    (fine : ∀ p name ready, h.session.roster.get? id = some p → p.alive = true →
      h.session.connection = .inProgress → h.session.game ≠ .gameOver → id ∈ h.held →
      r = .intro name ready → lost id) :
    (h.handle (.received id r)).1.Keeps lost := by
  rw [handle_received]
  split
  · rename_i held
    cases asked : h.session.request id r with
    | ok step =>
      rw [handle_of_ok asked]
      have relayed := request_relayed orderly asked
      intro going j p found alive
      rw [held_dispatch relayed.close_notMem]
      rcases request_members asked found with ⟨rfl, -⟩ | ⟨q, there, lives⟩
      · exact .inl held
      · exact keeps (fun ended => going (relayed.of_gameOver ended).2) j q there (lives alive)
    | error why =>
      rw [handle_of_error asked]
      intro going j p found alive
      rw [held_dispatch_refusal]
      split
      · rename_i closes
        by_cases own : j = id
        · subst own
          obtain ⟨started, name, ready, again⟩ :=
            intro_of_closes (Option.isSome_iff_exists.mpr ⟨p, found⟩) asked closes
          exact .inr (fine p name ready found alive started going held again)
        · exact (keeps going j p found alive).imp_left
            fun held => (List.mem_erase_of_ne own).mpr held
      · exact keeps going j p found alive
  · exact keeps

/-- `lost id` removes `id` from those that count as `lost`: its player does not live any more. -/
theorem forfeited (keeps : h.Keeps fun j => j = id ∨ lost j) (orderly : Orderly h.session) :
    (h.handle (.lost id)).1.Keeps lost := by
  have relayed := disconnect_relayed orderly id
  rw [handle_lost]
  intro going j p found alive
  have before : h.session.game ≠ .gameOver := fun ended => going (relayed.of_gameOver ended).2
  rw [held_dispatch relayed.close_notMem]
  have other : j ≠ id := by
    rintro rfl
    rw [not_alive_of_disconnect before found] at alive
    cases alive
  obtain ⟨q, there, lives⟩ := disconnect_within h.session id j p found
  rcases keeps before j q there (lives alive) with held | own | gone
  · exact .inl ((List.mem_erase_of_ne other).mpr held)
  · exact absurd own other
  · exact .inr gone

end Keeps

end Hub

end Skirmish
