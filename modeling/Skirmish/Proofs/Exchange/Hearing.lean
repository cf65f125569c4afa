import Mathlib.Data.List.Induction
import Skirmish.Exchange
import Skirmish.Proofs.Hub

/-!
# When a living player cannot be heard any more

While a player lives in a game, the hub should hold its connection or have its loss in the mailbox;
else nobody can play its turn and nobody takes it away (`Heard`). There are two ways to break this.
A console line stops the hub. Or a registered player sends another `intro`: `register` checks the
phase first and refuses it as `full`, which `closes_connection`, and `dispatch` drops the connection
without `disconnect` of the session.

Results:

* `Attentive.step`: what a move keeps that is not `CutsOff`;
* `heard_iff`: a living player is cut off in these two ways only;
* `holder_cut_off`: a holder that is cut off.
-/

namespace Skirmish

open Session

namespace Exchange

variable {δ : Type} {x : Exchange δ}

/-- In a game every living player is held, or its loss is in the mailbox. -/
def Heard (x : Exchange δ) : Prop :=
  x.hub.session.connection = .inProgress → x.hub.session.game ≠ .gameOver →
    ∀ p ∈ x.hub.session.roster.players, p.alive = true →
      p.id ∈ x.hub.held ∨ .lost p.id ∈ x.mailbox

/-- In a game, the move serves another `intro` of a living player, or stops the hub, and the loss of
a living player is not in the mailbox. -/
def CutsOff (x : Exchange δ) (m : Move) : Prop :=
  x.hub.running = true ∧ x.hub.session.connection = .inProgress ∧
    x.hub.session.game ≠ .gameOver ∧
    ∃ p ∈ x.hub.session.roster.players, p.alive = true ∧ .lost p.id ∉ x.mailbox ∧
      ((∃ name ready rest, m = .serve ∧
          x.mailbox = .received p.id (.intro name ready) :: rest) ∨
        ∃ line, m = .console line ∧ Hub.quits line = true)

/-- The session is `Orderly`, and no connection is held twice. -/
structure Sound (x : Exchange δ) : Prop where
  orderly : x.hub.session.Orderly
  distinct : x.hub.held.Nodup

/-- `Hub.Keeps` with the losses in the mailbox, or a hub that has stopped and `Heard`. -/
def Attentive (x : Exchange δ) : Prop :=
  x.hub.Keeps (.lost · ∈ x.mailbox) ∨ x.hub.running = false ∧ x.Heard

theorem Attentive.heard (h : Attentive x) : x.Heard := by
  rcases h with keeps | ⟨-, heard⟩
  · intro _ going p hp alive
    exact keeps going p.id p (Roster.get?_id hp) alive
  · exact heard

theorem Sound.new (expected : Nat) (dice : δ) : Sound (.new expected dice) where
  orderly := (Orderly.new expected dice).opened
  distinct := List.nodup_nil

theorem Attentive.new (expected : Nat) (dice : δ) : Attentive (.new expected dice) := by
  refine .inl fun _ id p found => ?_
  cases Roster.mem_of_get? found

variable [Dice δ]

theorem serve_nil (mailbox : x.mailbox = []) : x.serve = x := by
  rw [serve, mailbox]

theorem serve_cons {m : Message} {rest : List Message} (mailbox : x.mailbox = m :: rest) :
    x.serve.hub = (x.hub.step m.event).1 ∧ x.serve.mailbox = rest := by
  rw [serve, mailbox]
  exact ⟨rfl, rfl⟩

theorem hub_act_hear (x : Exchange δ) (k : Nat) (r : Request) :
    (x.act (.hear k r)).hub = x.hub ∧ ∀ m ∈ x.mailbox, m ∈ (x.act (.hear k r)).mailbox := by
  rw [act]
  split
  · exact ⟨rfl, fun m hm => List.mem_append_left _ hm⟩
  · exact ⟨rfl, fun m hm => hm⟩

theorem hub_act_hangUp (x : Exchange δ) (k : Nat) :
    (x.act (.hangUp k)).hub = x.hub ∧ ∀ m ∈ x.mailbox, m ∈ (x.act (.hangUp k)).mailbox := by
  rw [act]
  split
  · exact ⟨rfl, fun m hm => List.mem_append_left _ hm⟩
  · exact ⟨rfl, fun m hm => hm⟩

theorem Sound.step (h : Sound x) (m : Move) : Sound (x.step m) := by
  have event (event : Hub.Event) : Sound { x with hub := (x.hub.step event).1 } :=
    ⟨Hub.orderly_step h.orderly event, Hub.nodup_step h.distinct event⟩
  unfold Exchange.step
  split
  · cases m with
    | connect => exact ⟨(event .connected).orderly, (event .connected).distinct⟩
    | hear k r =>
      obtain ⟨same, -⟩ := x.hub_act_hear k r
      exact ⟨same ▸ h.orderly, same ▸ h.distinct⟩
    | hangUp k =>
      obtain ⟨same, -⟩ := x.hub_act_hangUp k
      exact ⟨same ▸ h.orderly, same ▸ h.distinct⟩
    | serve =>
      show Sound x.serve
      cases mailbox : x.mailbox with
      | nil => rwa [serve_nil mailbox]
      | cons m rest =>
        obtain ⟨same, -⟩ := serve_cons mailbox
        exact ⟨same ▸ (event m.event).orderly, same ▸ (event m.event).distinct⟩
    | console line => exact event (.console line)
  · exact h

theorem Attentive.serve (h : x.hub.Keeps (.lost · ∈ x.mailbox)) (sound : Sound x)
    (running : x.hub.running = true) (fine : ¬x.CutsOff .serve) :
    x.serve.hub.Keeps (.lost · ∈ x.serve.mailbox) := by
  cases mailbox : x.mailbox with
  | nil => rwa [serve_nil mailbox]
  | cons m rest =>
    obtain ⟨hub, left⟩ := serve_cons mailbox
    rw [hub, left, Hub.step_of_running running]
    cases m with
    | received id r =>
      -- the message that is taken out is not about a loss
      have keeps : x.hub.Keeps (.lost · ∈ rest) :=
        h.mono fun j there => by simpa [mailbox] using there
      refine keeps.received sound.orderly fun p name ready found alive started going _ again => ?_
      by_contra unheard
      obtain ⟨hp, rfl⟩ := Roster.get?_eq_some_iff.mp found
      refine fine ⟨running, started, going, p, hp, alive, ?_, .inl ⟨name, ready, rest, rfl, ?_⟩⟩
      · simpa [mailbox] using unheard
      · rw [mailbox, again]
    | lost id =>
      have keeps : x.hub.Keeps fun j => j = id ∨ .lost j ∈ rest :=
        h.mono fun j there => by simpa [mailbox] using there
      exact keeps.forfeited sound.orderly

theorem Attentive.step (h : Attentive x) (sound : Sound x) {m : Move} (fine : ¬x.CutsOff m) :
    Attentive (x.step m) := by
  unfold Exchange.step
  split
  · rename_i running
    have keeps := h.resolve_right fun stopped => by simp [running] at stopped
    cases m with
    | connect =>
      refine .inl ?_
      show (x.hub.step .connected).1.Keeps _
      rw [Hub.step_of_running running]
      exact keeps.connected
    | hear k r =>
      obtain ⟨same, more⟩ := x.hub_act_hear k r
      rw [Attentive, same]
      exact .inl (keeps.mono fun id => more _)
    | hangUp k =>
      obtain ⟨same, more⟩ := x.hub_act_hangUp k
      rw [Attentive, same]
      exact .inl (keeps.mono fun id => more _)
    | serve => exact .inl (Attentive.serve keeps sound running fine)
    | console line =>
      rw [act, Hub.step_of_running running]
      cases quits : Hub.quits line with
      | true =>
        rw [Hub.handle_console_of_quits quits]
        refine .inr ⟨rfl, fun started going p hp alive => .inr ?_⟩
        by_contra unheard
        exact fine ⟨running, started, going, p, hp, alive, unheard, .inr ⟨line, rfl, quits⟩⟩
      | false =>
        rw [Hub.handle_console_of_not_quits quits]
        exact .inl keeps
  · exact h

/-- After a move that `CutsOff`, `Heard` fails. -/
theorem not_heard_of_cutsOff (heard : x.Heard) (sound : Sound x) {m : Move}
    (cut : x.CutsOff m) : ¬(x.step m).Heard := by
  obtain ⟨running, started, going, p, hp, alive, unheard, how⟩ := cut
  intro after
  rw [Exchange.step, if_pos running] at after
  rcases how with ⟨name, ready, rest, rfl, mailbox⟩ | ⟨line, rfl, quits⟩
  · have held := (heard started going p hp alive).resolve_right unheard
    obtain ⟨hub, left⟩ := serve_cons mailbox
    have refused : x.hub.session.request p.id (.intro name ready) = .error (.roster .full) :=
      request_intro_of_inProgress started name ready
    rw [Hub.step_of_running running, Message.event, Hub.handle_received, if_pos held,
      handle_of_error refused] at hub
    have session : x.serve.hub.session = x.hub.session := by rw [hub]; rfl
    have erased : x.serve.hub.held = x.hub.held.erase p.id := by
      rw [hub, Hub.held_dispatch_refusal]
      rfl
    rcases after (session ▸ started) (session ▸ going) p (session ▸ hp) alive with still | lost
    · rw [show (x.act .serve).hub.held = _ from erased] at still
      exact sound.distinct.not_mem_erase still
    · rw [show (x.act .serve).mailbox = _ from left] at lost
      exact unheard (mailbox ▸ List.mem_cons_of_mem _ lost)
  · have hub : (x.act (.console line)).hub = { x.hub with held := [], running := false } := by
      rw [act, Hub.step_of_running running, Hub.handle_console_of_quits quits]
    have session : (x.act (.console line)).hub.session = x.hub.session := by rw [hub]
    rcases after (session ▸ started) (session ▸ going) p (session ▸ hp) alive with still | lost
    · rw [hub] at still
      cases still
    · exact unheard lost

theorem sound_run (expected : Nat) (dice : δ) (moves : List Move) :
    Sound ((Exchange.new expected dice).run moves) := by
  induction moves using List.reverseRecOn with
  | nil => exact Sound.new expected dice
  | append_singleton moves m ih =>
    rw [run_concat]
    exact ih.step m

theorem attentive_run (expected : Nat) (dice : δ) (moves : List Move)
    (fine : ∀ before m after, moves = before ++ m :: after →
      ¬((Exchange.new expected dice).run before).CutsOff m) :
    Attentive ((Exchange.new expected dice).run moves) := by
  induction moves using List.reverseRecOn with
  | nil => exact Attentive.new expected dice
  | append_singleton moves m ih =>
    rw [run_concat]
    refine Attentive.step (ih fun before m' after eq => ?_) (sound_run expected dice moves)
      (fine moves m [] rfl)
    exact fine before m' (after ++ [m]) (by rw [eq, List.append_assoc, List.cons_append])

/-- Every stage of a run is `Heard` iff none of its moves `CutsOff` at the stage before it. -/
theorem heard_iff (expected : Nat) (dice : δ) (moves : List Move) :
    (∀ before after, moves = before ++ after →
        ((Exchange.new expected dice).run before).Heard) ↔
      ∀ before m after, moves = before ++ m :: after →
        ¬((Exchange.new expected dice).run before).CutsOff m := by
  constructor
  · intro heard before m after eq cut
    have sound := sound_run expected dice before
    refine not_heard_of_cutsOff (heard before (m :: after) eq) sound cut ?_
    rw [← run_concat]
    exact heard (before ++ [m]) after (by rw [eq, List.append_assoc, List.singleton_append])
  · intro fine before after eq
    refine (attentive_run expected dice before fun start m rest eq' => ?_).heard
    exact fine start m (rest ++ after) (by rw [eq, eq', List.append_assoc, List.cons_append])

/-- In a game of two the first player sends another `intro`. -/
def twice : List Move :=
  [.connect, .connect, .hear 0 (.intro "A" true), .hear 1 (.intro "B" true), .serve, .serve,
    .hear 0 (.intro "A" true), .serve]

/-- After `twice` player 1 is the holder, and not `Heard`. -/
theorem holder_cut_off :
    ((Exchange.new 2 (⟨[]⟩ : Script)).run twice).hub.session.turns.holder = some ⟨1⟩ ∧
      ¬((Exchange.new 2 (⟨[]⟩ : Script)).run twice).Heard := by
  unfold Heard
  decide +kernel

end Exchange

end Skirmish
