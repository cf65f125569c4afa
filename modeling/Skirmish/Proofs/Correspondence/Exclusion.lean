import Skirmish.Proofs.Correspondence.Post
import Skirmish.Proofs.Session.Token

/-!
# No two peers believe that it is their turn

`Peer.tokens` counts the turns that are on their way to a peer (`takeTurn` in its inbox), with it
(`my_turn` of its view) and on their way back (moves in its outbox). In whatever order the moves
come, only the peer that got the turn last has any, and at most one.

Results:

* `Exclusive.step`: what one move keeps;
* `claimsTurn_unique`: at most one peer has the turn in its view, and it is the holder, until
  `gameOver`.
-/

namespace Skirmish

open Session

/-! ## The last to have got the turn -/

namespace Session.Relayed

variable {δ : Type} {s : Session δ} {step : Step δ} {id i : PlayerId} {last : Option PlayerId}

/-- The holder after an operation is the last to have got the turn, until `gameOver`. -/
theorem current (h : Relayed id s step) (orderly : Orderly s)
    (current : s.turns.holder = last ∨ s.game = .gameOver) :
    step.1.turns.holder = step.1.turns.holder.or last ∨ step.1.game = .gameOver := by
  cases held : step.1.turns.holder with
  | some j => exact .inl rfl
  | none =>
    by_cases ended : step.1.game = .gameOver
    · exact .inr ended
    · -- nobody has the turn in the lobby, now or before
      have lobby := h.pending_of_pending (h.orderly.pending_of_idle held ended)
      have idle := orderly.holder_eq_none (.inl lobby)
      rcases current with same | ended'
      · exact .inl (same ▸ idle.symm)
      · simp [lobby] at ended'

theorem not_last_of_gets (h : Relayed id s step)
    (current : s.turns.holder = last ∨ s.game = .gameOver)
    (gets : step.1.turns.holder = some i) (other : s.turns.holder ≠ some i) : last ≠ some i := by
  intro was
  rcases current with same | ended
  · exact other (same.trans was)
  · exact other ((h.of_gameOver ended).1 ▸ gets)

/-- Nobody else gets the turn by an operation that does not pass it on. -/
theorem still_last (h : Relayed id s step) (orderly : Orderly s)
    (current : s.turns.holder = last ∨ s.game = .gameOver) (was : last = some i)
    (spent : i = id → s.game ≠ .pending → step.1.turns = s.turns) :
    step.1.turns.holder.or last = some i := by
  cases held : step.1.turns.holder with
  | none => rw [Option.none_or, was]
  | some j =>
    rw [Option.some_or]
    by_contra other
    have going := h.orderly.ne_gameOver held
    have before : s.turns.holder = some i := by
      rcases current with same | ended
      · rw [same, was]
      · exact absurd (h.of_gameOver ended).2 going
    have after : step.1.turns.holder ≠ some i := by rwa [held]
    rcases h.giver orderly before after with own | ended
    · exact after (spent own (orderly.ne_pending before) ▸ before)
    · exact going ended

end Session.Relayed

/-! ## Tokens -/

namespace Peer

variable {p q : Peer} {last : Option PlayerId} {i : PlayerId}

/-- The turns in the inbox, in the view, and in the outbox as moves. -/
def tokens (p : Peer) : Nat :=
  p.inbox.count .takeTurn + p.view.myTurn.toNat + p.outbox.countP (·.isMove)

@[simp] theorem tokens_join (name : String) (ready : Bool) : (join name ready).tokens = 0 := rfl

/-- What `View.route` of a typed line does to a peer. -/
inductive Typed (p : Peer) : Peer → Prop
  | plain {q : Peer} (inbox : q.inbox = p.inbox) (stage : q.stage = p.stage)
      (game : q.view.game = p.view.game) (turn : q.view.myTurn = p.view.myTurn)
      (more : List Request) (outbox : q.outbox = p.outbox ++ more)
      (only : ∀ r ∈ more, r.isMove = false) : Typed p q
  | move {q : Peer} (inbox : q.inbox = p.inbox) (stage : q.stage = p.stage)
      (game : q.view.game = p.view.game) (had : p.view.myTurn = true)
      (spent : q.view.myTurn = false) (r : Request) (outbox : q.outbox = p.outbox ++ [r])
      (fits : r.fits p.view.game = true) : Typed p q

theorem type_typed (p : Peer) (line : String) : Typed p (p.type line) := by
  have unchanged : Typed p p := .plain rfl rfl rfl rfl [] (by simp) (by simp)
  unfold type
  split
  · split
    · rename_i r w routed
      cases View.route_routed routed with
      | plain game turn only => exact .plain rfl rfl game turn [r] rfl (by simpa using only r rfl)
      | move game had spent fits => exact .move rfl rfl game had spent r rfl fits
    · rename_i w other routed
      cases View.route_routed routed with
      | plain game turn only => exact .plain rfl rfl game turn [] (by simp) (by simp)
      | move game had spent fits => exact absurd rfl (other _)
    · exact unchanged
  · exact unchanged

theorem tokens_type_le (p : Peer) (line : String) : (p.type line).tokens ≤ p.tokens := by
  cases p.type_typed line with
  | plain inbox stage game turn more outbox only =>
    have none : more.countP (·.isMove) = 0 := List.countP_eq_zero.mpr (by simpa using only)
    simp only [tokens, inbox, turn, outbox, List.countP_append]
    omega
  | move inbox stage game had spent r outbox fits =>
    have one : [r].countP (·.isMove) = 1 := by simp [Request.isMove_of_fits fits]
    simp only [tokens, inbox, had, spent, outbox, List.countP_append, Bool.toNat_true,
      Bool.toNat_false]
    omega

theorem read_cases (p : Peer) :
    p.read = p ∨ ∃ n rest, p.inbox = n :: rest ∧
      p.read = { p with view := (p.view.apply n).1, inbox := rest } := by
  unfold read
  split
  · split
    · rename_i n rest inbox
      exact .inr ⟨n, rest, inbox, rfl⟩
    · exact .inl rfl
  · exact .inl rfl

theorem tokens_read_le (p : Peer) : p.read.tokens ≤ p.tokens := by
  rcases p.read_cases with eq | ⟨n, rest, inbox, eq⟩
  · exact Nat.le_of_eq (congrArg tokens eq)
  · have : (p.view.apply n).1.myTurn.toNat ≤ [n].count .takeTurn + p.view.myTurn.toNat := by
      rw [View.myTurn_apply]
      split
      · simp
      · simp
      · simp
      · exact Nat.le_add_left ..
    simp only [eq, tokens, inbox, List.count_cons, List.count_nil] at this ⊢
    omega

@[simp] theorem tokens_leave (p : Peer) : p.leave.tokens = p.tokens := by
  unfold leave
  split <;> rfl

theorem tokens_receive (here : p.stage ≠ .gone) (id : PlayerId) (effects : List Effect) :
    (p.receive id effects).tokens = p.tokens + (noticesFor id effects).count .takeTurn := by
  rw [receive, if_neg here]
  simp only [tokens, List.count_append]
  omega

/-- Without the move it had in its outbox, a peer has no token. -/
theorem tokens_eq_zero_of_move (one : p.tokens ≤ 1) {r : Request} {rest : List Request}
    (outbox : p.outbox = r :: rest) (move : r.isMove = true) :
    { p with outbox := rest }.tokens = 0 := by
  simp only [tokens, outbox, List.countP_cons, move, if_true] at one ⊢
  omega

theorem tokens_tail_le {r : Request} {rest : List Request} (outbox : p.outbox = r :: rest) :
    { p with outbox := rest }.tokens ≤ p.tokens := by
  simp only [tokens, outbox, List.countP_cons]
  omega

@[simp] theorem stage_type (p : Peer) (line : String) : (p.type line).stage = p.stage := by
  cases p.type_typed line with
  | plain inbox stage => exact stage
  | move inbox stage => exact stage

@[simp] theorem stage_read (p : Peer) : p.read.stage = p.stage := by
  rcases p.read_cases with eq | ⟨n, rest, inbox, eq⟩ <;> rw [eq]

theorem stage_leave_eq_gone (p : Peer) : p.leave.stage = .gone ↔ p.stage = .gone := by
  unfold leave
  split
  · rename_i here
    simp [here]
  · rfl

theorem receive_of_gone (gone : p.stage = .gone) (id : PlayerId) (effects : List Effect) :
    p.receive id effects = p := by
  rw [receive, if_pos gone]

/-- A peer that is not `gone` has at most one token, and none if it is not the `last` to have got
the turn. -/
def Fair (last : Option PlayerId) (i : PlayerId) (p : Peer) : Prop :=
  p.stage ≠ .gone → p.tokens ≤ 1 ∧ (0 < p.tokens → last = some i)

theorem Fair.mono (h : Fair last i p) (fewer : q.tokens ≤ p.tokens)
    (stage : p.stage = .gone → q.stage = .gone) : Fair last i q := by
  intro served
  obtain ⟨one, only⟩ := h fun gone => served (stage gone)
  exact ⟨Nat.le_trans fewer one, fun some => only (Nat.lt_of_lt_of_le some fewer)⟩

/-- The effects of an operation of `id` keep a peer `Fair`; if it is that of `id` and has a token,
the operation must not pass the turn on. -/
theorem Fair.receive {δ : Type} {s : Session δ} {step : Step δ} {id : PlayerId} (h : Fair last i p)
    (orderly : Orderly s) (current : s.turns.holder = last ∨ s.game = .gameOver)
    (relayed : Relayed id s step) (served : p.stage ≠ .gone)
    (spent : i = id → 0 < p.tokens → s.game ≠ .pending → step.1.turns = s.turns) :
    Fair (step.1.turns.holder.or last) i (p.receive i step.2) := by
  intro _
  obtain ⟨one, only⟩ := h served
  rw [tokens_receive served, (relayed.post i).turns]
  split
  · rename_i gets
    have zero : p.tokens = 0 := by
      by_contra has
      exact relayed.not_last_of_gets current gets.1 gets.2 (only (Nat.pos_of_ne_zero has))
    rw [zero, gets.1]
    exact ⟨Nat.le_refl _, fun _ => rfl⟩
  · refine ⟨one, fun has => ?_⟩
    exact relayed.still_last orderly current (only has) fun own => spent own has

end Peer

namespace Correspondence

variable {δ : Type} {c : Correspondence δ} {last : Option PlayerId} {id : PlayerId}

/-! ## Moves and peers -/

theorem peers_put (c : Correspondence δ) (id other : PlayerId) (p : Peer) :
    (c.put id p).peers other = if other = id then some p else c.peers other := rfl

/-- Every peer is `Fair` for `last`, which is the holder until `gameOver`. -/
structure Exclusive (c : Correspondence δ) (last : Option PlayerId) : Prop where
  orderly : c.session.Orderly
  current : c.session.turns.holder = last ∨ c.session.game = .gameOver
  fair : ∀ i p, c.peers i = some p → p.Fair last i

namespace Exclusive

theorem new (expected : Nat) (dice : δ) : Exclusive (.new expected dice) none where
  orderly := (Orderly.new expected dice).opened
  current := .inl rfl
  fair i p found := by cases found

theorem put (h : Exclusive c last) {p : Peer} (fair : p.Fair last id) :
    Exclusive (c.put id p) last where
  orderly := h.orderly
  current := h.current
  fair i q found := by
    rw [peers_put] at found
    split at found
    · rename_i same
      cases found
      exact same ▸ fair
    · exact h.fair i q found

theorem alter (h : Exclusive c last) {f : Peer → Peer} (fewer : ∀ p, (f p).tokens ≤ p.tokens)
    (stage : ∀ p, p.stage = .gone → (f p).stage = .gone) : Exclusive (c.alter id f) last := by
  unfold Correspondence.alter
  split
  · rename_i p found
    exact h.put ((h.fair id p found).mono (fewer p) (stage p))
  · exact h

/-- An operation keeps `Exclusive`, if it passes the turn on only when its peer has no token left.
-/
theorem dispatch (h : Exclusive c last) {step : Step δ} (relayed : Relayed id c.session step)
    (spent : ∀ p, c.peers id = some p → p.stage ≠ .gone → 0 < p.tokens →
      c.session.game ≠ .pending → step.1.turns = c.session.turns) :
    Exclusive (c.dispatch step) (step.1.turns.holder.or last) where
  orderly := relayed.orderly
  current := relayed.current h.orderly h.current
  fair i q found := by
    obtain ⟨p, there, rfl⟩ := Option.map_eq_some_iff.mp found
    by_cases gone : p.stage = .gone
    · rw [Peer.receive_of_gone gone]
      exact fun served => absurd gone served
    · refine (h.fair i p there).receive h.orderly h.current relayed gone fun own some => ?_
      subst own
      exact spent p there gone some

theorem lose (h : Exclusive c last) (id : PlayerId) : ∃ last', Exclusive (c.lose id) last' := by
  unfold Correspondence.lose
  split
  · exact ⟨last, h⟩
  · split
    · rename_i p _ _
      have gone : Exclusive (c.put id { p with stage := .gone }) last :=
        h.put fun served => absurd rfl served
      refine ⟨_, gone.dispatch (disconnect_relayed h.orderly id) fun q there served => ?_⟩
      rw [peers_put, if_pos rfl, Option.some.injEq] at there
      exact absurd (there ▸ rfl) served
    · exact ⟨last, h⟩

variable [Dice δ]

theorem serve (h : Exclusive c last) (id : PlayerId) :
    ∃ last', Exclusive (c.serve id) last' := by
  unfold Correspondence.serve
  split
  · exact ⟨last, h⟩
  · rename_i p found
    split
    · exact ⟨last, h⟩
    · rename_i r rest outbox
      split
      · exact ⟨last, h⟩
      · rename_i served
        have taken : Exclusive (c.put id { p with outbox := rest }) last :=
          h.put ((h.fair id p found).mono (Peer.tokens_tail_le outbox) fun gone => gone)
        cases asked : c.session.request id r with
        | ok step =>
          rw [handle_of_ok asked]
          have relayed := request_relayed h.orderly asked
          refine ⟨_, taken.dispatch relayed fun q there _ has started => ?_⟩
          rw [peers_put, if_pos rfl, Option.some.injEq] at there
          subst there
          cases move : r.isMove with
          | true =>
            have zero := Peer.tokens_eq_zero_of_move (h.fair id p found served).1 outbox move
            omega
          | false => exact turns_of_isMove_eq_false h.orderly started move asked
        | error why =>
          rw [handle_of_error asked]
          refine ⟨last, h.orderly, h.current, fun j q there => ?_⟩
          obtain ⟨p', there', rfl⟩ := Option.map_eq_some_iff.mp there
          refine (taken.fair j p' there').mono ?_ fun gone => ?_
          · by_cases gone : p'.stage = .gone
            · exact Nat.le_of_eq (by rw [Peer.receive_of_gone gone])
            · rw [Peer.tokens_receive gone,
                List.count_eq_zero_of_not_mem (takeTurn_notMem_refusal why id j)]
              exact Nat.le_refl _
          · rwa [Peer.receive_of_gone gone]

theorem step (h : Exclusive c last) (m : Move) : ∃ last', Exclusive (c.step m) last' := by
  cases m with
  | connect id name ready =>
    simp only [Correspondence.step]
    split
    · exact ⟨last, h.put fun _ => by simp⟩
    · exact ⟨last, h⟩
  | type id line =>
    exact ⟨last, h.alter (·.tokens_type_le line) fun p gone => by rw [Peer.stage_type, gone]⟩
  | read id =>
    exact ⟨last, h.alter Peer.tokens_read_le fun p gone => by rw [Peer.stage_read, gone]⟩
  | leave id =>
    exact ⟨last, h.alter (fun p => Nat.le_of_eq p.tokens_leave) fun p gone =>
      p.stage_leave_eq_gone.mpr gone⟩
  | serve id => exact h.serve id
  | lose id => exact h.lose id

theorem run (h : Exclusive c last) (moves : List Move) :
    ∃ last', Exclusive (c.run moves) last' := by
  induction moves generalizing c last with
  | nil => exact ⟨last, h⟩
  | cons m rest ih =>
    obtain ⟨last', next⟩ := h.step m
    exact ih next

end Exclusive

theorem tokens_pos_of_claimsTurn {p : Peer} (h : p.claimsTurn) : 0 < p.tokens := by
  simp only [Peer.tokens, h.2, Bool.toNat_true]
  omega

/-- After any moves in any order, at most one peer `claimsTurn`; it is the holder of the session, or
the game is in `gameOver`. -/
theorem claimsTurn_unique [Dice δ] (expected : Nat) (dice : δ) (moves : List Move) :
    let c := (Correspondence.new expected dice).run moves
    (∀ i j p q, c.peers i = some p → c.peers j = some q → p.claimsTurn → q.claimsTurn → i = j) ∧
      ∀ i p, c.peers i = some p → p.claimsTurn →
        c.session.turns.holder = some i ∨ c.session.game = .gameOver := by
  obtain ⟨last, exclusive⟩ := (Exclusive.new expected dice).run moves
  have was {i : PlayerId} {p : Peer}
      (found : ((Correspondence.new expected dice).run moves).peers i = some p)
      (claims : p.claimsTurn) : last = some i :=
    (exclusive.fair i p found (by simp [claims.1])).2 (tokens_pos_of_claimsTurn claims)
  refine ⟨fun i j p q atI atJ claimsI claimsJ => ?_, fun i p found claims => ?_⟩
  · exact Option.some.inj ((was atI claimsI).symm.trans (was atJ claimsJ))
  · exact exclusive.current.imp_left (·.trans (was found claims))

end Correspondence

end Skirmish
