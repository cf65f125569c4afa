import Skirmish.Proofs.Correspondence.Exclusion

/-!
# Peers that keep up with the session

`Peer.InStep`: the inbox of a peer leads its view to the phase of the session, with `takeTurn`
behind the phase it belongs to. So a move that the peer sends fits the phase when it is handled, and
only `invalidTarget` can refuse it.

Results:

* `dead_of_refused`: that refusal, of an `act` on a dead player;
* `Peer.keepsTurn_iff`: a peer has a token iff it can play its turn or has played it;
* `Peer.InStep.type`, `Peer.InStep.read`, `Peer.InStep.leave`: the moves of a peer keep it in step;
* `Peer.InStep.receive`, `Peer.InStep.refused`: so do the effects of an operation, and a refusal.
-/

namespace Skirmish

open Session

/-! ## Moves that are refused -/

section Refused

variable {δ : Type} [Dice δ] {s : Session δ} {id : PlayerId}

/-- A move of the holder that fits the phase is refused only as an `act` on a name of no living
player. -/
theorem dead_of_refused (h : Orderly s) (holder : s.turns.holder = some id) {r : Request}
    (fits : r.fits s.game = true) {why : Refusal} (refused : s.request id r = .error why) :
    ∃ action name, r = .act action name ∧ s.game = .main ∧ name ≠ Rules.selfWord ∧
      ∀ p ∈ s.roster.players, p.name = name → p.alive = false := by
  cases r with
  | chooseJob job =>
    simp only [Request.fits, decide_eq_true_eq] at fits
    obtain ⟨step, ok⟩ := (chooseJob_isOk_iff h).mpr ⟨fits.1, fits.2, holder⟩
    cases ok.symm.trans refused
  | act action name =>
    simp only [Request.fits, decide_eq_true_eq] at fits
    have unmeant (meant : name = Rules.selfWord ∨
        ∃ p ∈ s.roster.players, p.name = name ∧ p.alive = true) : False := by
      obtain ⟨step, ok⟩ := (takeAction_isOk_iff h action).mpr ⟨fits, holder, meant⟩
      cases ok.symm.trans refused
    refine ⟨action, name, rfl, fits, fun own => unmeant (.inl own), fun p hp named => ?_⟩
    by_contra alive
    exact unmeant (.inr ⟨p, hp, named, by simpa using alive⟩)
  | _ => cases fits

theorem not_granted_of_dead (h : Orderly s) {action : Action} {name : String}
    (other : name ≠ Rules.selfWord)
    (dead : ∀ p ∈ s.roster.players, p.name = name → p.alive = false) {step : Step δ} :
    s.request id (.act action name) ≠ .ok step := by
  intro ok
  obtain ⟨-, -, own | ⟨p, hp, named, alive⟩⟩ := (takeAction_isOk_iff h action).mp ⟨step, ok⟩
  · exact other own
  · rw [dead p hp named] at alive
    cases alive

end Refused

/-! ## Peers with the turn -/

namespace Peer

variable {δ : Type} {s t : Session δ} {p q : Peer} {i id : PlayerId} {g : GamePhase}
  {missed : Prop}

/-- The turn is in the inbox, in the view, or in the outbox as a move. -/
def keepsTurn (p : Peer) : Prop :=
  .takeTurn ∈ p.inbox ∨ p.view.myTurn = true ∨ ∃ r ∈ p.outbox, r.isMove = true

theorem keepsTurn_iff : p.keepsTurn ↔ 0 < p.tokens := by
  have inbox : .takeTurn ∈ p.inbox ↔ 0 < p.inbox.count .takeTurn := List.count_pos_iff.symm
  have outbox : (∃ r ∈ p.outbox, r.isMove = true) ↔ 0 < p.outbox.countP (·.isMove) :=
    List.countP_pos_iff.symm
  have mine : p.view.myTurn = true ↔ 0 < p.view.myTurn.toNat := by
    cases p.view.myTurn <;> decide
  rw [keepsTurn, inbox, outbox, mine, tokens]
  omega

/-- `keepsTurn` for a turn of phase `g`. -/
def Ready (g : GamePhase) (p : Peer) : Prop :=
  p.view.myTurn = true ∧ p.view.game = g ∨ p.view.game.atTurn p.inbox = some g ∨
    ∃ r ∈ p.outbox, r.fits g = true

theorem Ready.keepsTurn (h : p.Ready g) : p.keepsTurn := by
  rcases h with ⟨mine, -⟩ | coming | ⟨r, sent, fits⟩
  · exact .inr (.inl mine)
  · exact .inl (GamePhase.takeTurn_mem_of_atTurn coming)
  · exact .inr (.inr ⟨r, sent, Request.isMove_of_fits fits⟩)

/-- More effects keep a peer `Ready`. -/
theorem Ready.receive (h : p.Ready g) (served : p.stage ≠ .gone) (effects : List Effect) :
    (p.receive i effects).Ready g := by
  rw [Peer.receive, if_neg served]
  rcases h with here | coming | sent
  · exact .inl here
  · refine .inr (.inl ?_)
    show p.view.game.atTurn (p.inbox ++ _) = _
    rw [GamePhase.atTurn_append, coming]
    rfl
  · exact .inr (.inr sent)

/-- A peer that becomes the holder is `Ready` for the new phase. -/
theorem ready_of_gets {effects : List Effect} (post : Post s t i (noticesFor i effects))
    (before : s.turns.holder ≠ some i) (after : t.turns.holder = some i)
    (served : p.stage ≠ .gone) (fresh : .takeTurn ∉ p.inbox)
    (heard : p.view.game.hearAll p.inbox = s.game) : (p.receive i effects).Ready t.game := by
  rw [Peer.receive, if_neg served]
  refine .inr (.inl ?_)
  show p.view.game.atTurn (p.inbox ++ _) = _
  rw [GamePhase.atTurn_append, GamePhase.atTurn_eq_none _ fresh, heard, post.atTurn after before]
  rfl

/-- Reading keeps a peer `Ready`, without `gameOver` and `disconnected` in its inbox. -/
theorem Ready.read (h : p.Ready g) (heard : p.view.game.hearAll p.inbox = g)
    (going : g ≠ .gameOver) (stays : ∀ reason, .disconnected reason ∉ p.inbox) :
    p.read.Ready g := by
  rcases p.read_cases with eq | ⟨n, rest, inbox, eq⟩
  · rwa [eq]
  rw [eq]
  rcases h with ⟨mine, phase⟩ | coming | sent
  · rw [inbox, ← phase] at heard
    have same := GamePhase.hear_eq_of_hearAll_eq heard
    refine .inl ⟨?_, by rw [View.game_apply, same, phase]⟩
    rw [View.myTurn_apply]
    split
    · rfl
    · rw [GamePhase.hear, GamePhase.advance_gameOver] at same
      exact absurd (phase ▸ same.symm) going
    · rename_i reason
      exact absurd (inbox ▸ List.mem_cons_self) (stays reason)
    · exact mine
  · rw [inbox, GamePhase.atTurn] at coming
    split at coming
    · rename_i turn
      refine .inl ?_
      rw [View.game_apply, View.myTurn_apply, turn]
      exact ⟨rfl, Option.some.inj coming⟩
    · exact .inr (.inl (by rw [View.game_apply, coming]))
  · exact .inr (.inr sent)

/-- The inbox leads the view to the phase of the session, holds no `disconnected`, and the holder is
`Ready` unless it has `missed` its turn. -/
structure InStep (s : Session δ) (missed : Prop) (i : PlayerId) (p : Peer) : Prop where
  phase : s.game = .pending ∨ (s.roster.get? i).isSome = true →
    p.view.game.hearAll p.inbox = s.game
  stays : ∀ reason, .disconnected reason ∉ p.inbox
  ready : s.turns.holder = some i → ¬missed → p.Ready s.game
  idle : missed → s.game = .gameOver ∨ s.turns.holder = some i ∧ p.tokens = 0

theorem InStep.congr (h : InStep s missed i p) (view : q.view = p.view) (inbox : q.inbox = p.inbox)
    (outbox : q.outbox = p.outbox) : InStep s missed i q := by
  obtain ⟨phase, stays, ready, idle⟩ := h
  refine ⟨?_, ?_, ?_, ?_⟩
  · rwa [view, inbox]
  · rwa [inbox]
  · rwa [Ready, view, inbox, outbox]
  · rwa [tokens, view, inbox, outbox]

theorem InStep.type (h : InStep s missed i p) (line : String) :
    InStep s missed i (p.type line) := by
  have idle (lost : missed) :
      s.game = .gameOver ∨ s.turns.holder = some i ∧ (p.type line).tokens = 0 :=
    (h.idle lost).imp_right fun ⟨holder, zero⟩ =>
      ⟨holder, Nat.le_zero.mp (zero ▸ p.tokens_type_le line)⟩
  cases p.type_typed line with
  | plain inbox stage game turn more outbox only =>
    refine ⟨?_, ?_, fun holder kept => ?_, idle⟩
    · rw [game, inbox]
      exact h.phase
    · rw [inbox]
      exact h.stays
    · rcases h.ready holder kept with ⟨mine, here⟩ | coming | ⟨r, sent, fits⟩
      · exact .inl ⟨turn.trans mine, game.trans here⟩
      · exact .inr (.inl (by rw [game, inbox, coming]))
      · exact .inr (.inr ⟨r, by simp [outbox, sent], fits⟩)
  | move inbox stage game had spent r outbox fits =>
    refine ⟨?_, ?_, fun holder kept => ?_, idle⟩
    · rw [game, inbox]
      exact h.phase
    · rw [inbox]
      exact h.stays
    · rcases h.ready holder kept with ⟨mine, here⟩ | coming | ⟨r', sent, fits'⟩
      · -- the turn that was here is on its way back
        exact .inr (.inr ⟨r, by simp [outbox], here ▸ fits⟩)
      · exact .inr (.inl (by rw [game, inbox, coming]))
      · exact .inr (.inr ⟨r', by simp [outbox, sent], fits'⟩)

theorem InStep.read (h : InStep s missed i p) (orderly : Orderly s) :
    InStep s missed i p.read := by
  refine ⟨fun known => ?_, fun reason later => ?_, fun holder kept => ?_, fun lost => ?_⟩
  · have heard := h.phase known
    rcases p.read_cases with eq | ⟨n, rest, inbox, eq⟩
    · rwa [eq]
    · rw [inbox, GamePhase.hearAll_cons, ← View.game_apply] at heard
      rwa [eq]
  · rcases p.read_cases with eq | ⟨n, rest, inbox, eq⟩ <;> rw [eq] at later
    · exact h.stays reason later
    · exact h.stays reason (inbox ▸ List.mem_cons_of_mem _ later)
  · obtain ⟨player, found, -⟩ := orderly.holder_alive i holder
    have heard := h.phase (.inr (by rw [found]; rfl))
    exact (h.ready holder kept).read heard (orderly.ne_gameOver holder) h.stays
  · exact (h.idle lost).imp_right fun ⟨holder, zero⟩ =>
      ⟨holder, Nat.le_zero.mp (zero ▸ p.tokens_read_le)⟩

theorem InStep.leave (h : InStep s missed i p) : InStep s missed i p.leave := by
  unfold Peer.leave
  split
  · exact h.congr rfl rfl rfl
  · exact h

/-- The effects of an operation of `id` keep a peer in step. `q` is the peer with some of its
requests taken out of the outbox, but no move unless the turn passes on. -/
theorem InStep.receive {step : Step δ} (h : InStep s missed i p) (orderly : Orderly s)
    (relayed : Relayed id s step)
    (known : (step.1.roster.get? i).isSome = true →
      s.game = .pending ∨ (s.roster.get? i).isSome = true)
    (zero : s.turns.holder ≠ some i → s.game ≠ .gameOver → p.tokens = 0)
    (served : q.stage ≠ .gone) (view : q.view = p.view) (inbox : q.inbox = p.inbox)
    (fewer : q.tokens ≤ p.tokens)
    (keeps : s.turns.holder = some i → step.1.turns.holder = some i → p.Ready s.game →
      q.Ready s.game)
    (stuck : i = id → s.game ≠ .pending → p.tokens = 0 → step.1.turns = s.turns) :
    InStep step.1 missed i (q.receive i step.2) := by
  have post := relayed.post i
  have tokens := q.tokens_receive served i step.2
  rw [post.turns] at tokens
  refine ⟨fun here => ?_, fun reason told => ?_, fun holder kept => ?_, fun lost => ?_⟩
  · have before : s.game = .pending ∨ (s.roster.get? i).isSome = true :=
      here.elim (fun pending => .inl (relayed.pending_of_pending pending)) known
    rw [Peer.receive, if_neg served]
    show q.view.game.hearAll (q.inbox ++ _) = _
    rw [view, inbox, GamePhase.hearAll_append, h.phase before, post.phase]
  · rw [Peer.receive, if_neg served] at told
    rcases List.mem_append.mp told with old | new
    · exact h.stays reason (inbox ▸ old)
    · exact post.stays reason new
  · by_cases before : s.turns.holder = some i
    · have game := relayed.game_eq before holder
      exact game ▸ (keeps before holder (h.ready before kept)).receive served step.2
    · obtain ⟨player, found, -⟩ := relayed.orderly.holder_alive i holder
      have going : s.game ≠ .gameOver := fun ended =>
        before ((relayed.of_gameOver ended).1 ▸ holder)
      have fresh : .takeTurn ∉ p.inbox := fun coming => by
        have := keepsTurn_iff.mp (.inl coming)
        have := zero before going
        omega
      refine ready_of_gets post before holder served (inbox ▸ fresh) ?_
      rw [view, inbox, h.phase (known (by rw [found]; rfl))]
  · rcases h.idle lost with ended | ⟨holder, idle⟩
    · exact .inl (relayed.of_gameOver ended).2
    · by_cases after : step.1.turns.holder = some i
      · refine .inr ⟨after, ?_⟩
        rw [tokens, if_neg (fun gets => gets.2 holder)]
        omega
      · rcases relayed.giver orderly holder after with own | ended
        · exact absurd (stuck own (orderly.ne_pending holder) idle ▸ holder) after
        · exact .inl ended

/-- A refused request leaves the outbox; `now` says whether the turn is missed by that. -/
theorem InStep.refused (h : InStep s missed id p) (one : p.tokens ≤ 1) {r : Request}
    {rest : List Request} (outbox : p.outbox = r :: rest) {now : Prop}
    (dead : s.turns.holder = some id → r.fits s.game = true → now)
    (move : now → s.turns.holder = some id ∧ r.isMove = true) :
    InStep s (missed ∨ now) id { p with outbox := rest } where
  phase := h.phase
  stays := h.stays
  ready holder kept := by
    rcases h.ready holder fun before => kept (.inl before) with here | coming | ⟨r', sent, fits⟩
    · exact .inl here
    · exact .inr (.inl coming)
    · rw [outbox, List.mem_cons] at sent
      rcases sent with rfl | later
      · exact absurd (.inr (dead holder fits)) kept
      · exact .inr (.inr ⟨r', later, fits⟩)
  idle lost := by
    rcases lost with before | now
    · exact (h.idle before).imp_right fun ⟨holder, zero⟩ =>
        ⟨holder, Nat.le_zero.mp (zero ▸ tokens_tail_le outbox)⟩
    · exact .inr ⟨(move now).1, tokens_eq_zero_of_move one outbox (move now).2⟩

end Peer

end Skirmish
