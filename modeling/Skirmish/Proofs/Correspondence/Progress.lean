import Mathlib.Data.List.Induction
import Skirmish.Proofs.Correspondence.InStep
import Skirmish.Proofs.Session.Members

/-!
# When a turn is lost

`handle_line` of the client ends the turn when it sends its move, and the session may refuse that:
`take_action` answers `invalidTarget` for an `act` on a player that has died meanwhile by a
disconnect, and keeps the turn with the sender. No notice says so. Then the session waits for a
client that does not have the turn.

Results:

* `Attended.step`: one move keeps in step every peer that has not missed its turn;
* `turnKept_iff`: a turn is lost in this way only;
* `turn_lost`: a game of three in which it is.
-/

namespace Skirmish

open Session

namespace Correspondence

variable {δ : Type} {c : Correspondence δ} {last : Option PlayerId} {id : PlayerId}
  {missed : PlayerId → Prop}

/-! ## The session and its peers -/

/-- The holder, if its peer is `here`, `keepsTurn`. -/
def TurnKept (c : Correspondence δ) : Prop :=
  ∀ i p, c.session.turns.holder = some i → c.peers i = some p → p.stage = .here → p.keepsTurn

/-- The next request of peer `id` is an `act` of the holder in `main` on a name of no living player.
-/
def Misses (c : Correspondence δ) (id : PlayerId) : Prop :=
  c.session.game = .main ∧ c.session.turns.holder = some id ∧
    ∃ p action name rest, c.peers id = some p ∧ p.stage ≠ .gone ∧
      p.outbox = .act action name :: rest ∧ name ≠ Rules.selfWord ∧
      ∀ q ∈ c.session.roster.players, q.name = name → q.alive = false

/-- Every peer is `InStep`, with `missed` for those that have missed their turn. -/
structure Attended (c : Correspondence δ) (missed : PlayerId → Prop) : Prop where
  known : ∀ i, (c.session.roster.get? i).isSome = true ∨ missed i → (c.peers i).isSome = true
  inStep : ∀ i p, c.peers i = some p → p.stage ≠ .gone → p.InStep c.session (missed i) i

/-- Until `gameOver` a peer that is not the holder has no token. -/
theorem Exclusive.tokens_eq_zero (h : Exclusive c last) {i : PlayerId} {p : Peer}
    (found : c.peers i = some p) (served : p.stage ≠ .gone)
    (other : c.session.turns.holder ≠ some i) (going : c.session.game ≠ .gameOver) :
    p.tokens = 0 := by
  by_contra some
  have was := (h.fair i p found served).2 (Nat.pos_of_ne_zero some)
  exact other ((h.current.resolve_right going).trans was)

namespace Attended

theorem new (expected : Nat) (dice : δ) : Attended (.new expected dice) fun _ => False where
  known i present := by
    rcases present with registered | impossible
    · cases registered
    · exact impossible.elim
  inStep i p found := by cases found

theorem put (h : Attended c missed) {p : Peer}
    (inStep : p.stage ≠ .gone → p.InStep c.session (missed id) id) :
    Attended (c.put id p) missed where
  known i present := by
    rw [peers_put]
    split
    · rfl
    · exact h.known i present
  inStep i q found served := by
    rw [peers_put] at found
    split at found
    · rename_i same
      cases found
      exact same ▸ inStep served
    · exact h.inStep i q found served

theorem alter (h : Attended c missed) {f : Peer → Peer}
    (stage : ∀ p, (f p).stage ≠ .gone → p.stage ≠ .gone)
    (inStep : ∀ p, p.InStep c.session (missed id) id → (f p).InStep c.session (missed id) id) :
    Attended (c.alter id f) missed := by
  unfold Correspondence.alter
  split
  · rename_i p found
    exact h.put fun served => inStep p (h.inStep id p found (stage p served))
  · exact h

/-- An operation of `id` keeps `Attended`, where `q` is its peer with some requests taken out of the
outbox. -/
theorem dispatch (h : Attended c missed) (exclusive : Exclusive c last) {step : Step δ}
    (relayed : Relayed id c.session step)
    (members : ∀ j p, step.1.roster.get? j = some p → j = id ∧ c.session.game = .pending ∨
      (c.session.roster.get? j).isSome = true)
    {p q : Peer} (found : c.peers id = some p) (served : q.stage ≠ .gone → p.stage ≠ .gone)
    (view : q.view = p.view) (inbox : q.inbox = p.inbox) (fewer : q.tokens ≤ p.tokens)
    (keeps : c.session.turns.holder = some id → step.1.turns.holder = some id →
      p.Ready c.session.game → q.Ready c.session.game)
    (stuck : q.stage ≠ .gone → c.session.game ≠ .pending → p.tokens = 0 →
      step.1.turns = c.session.turns) :
    Attended ((c.put id q).dispatch step) missed where
  known i present := by
    show (((c.put id q).peers i).map _).isSome = true
    rw [Option.isSome_map, peers_put]
    split
    · rfl
    · rename_i other
      refine h.known i (present.imp_left fun registered => ?_)
      obtain ⟨player, there⟩ := Option.isSome_iff_exists.mp registered
      exact (members i player there).resolve_left fun own => other own.1
  inStep i r there open_ := by
    obtain ⟨q', at_, rfl⟩ := Option.map_eq_some_iff.mp there
    have served' : q'.stage ≠ .gone := fun gone => open_ (by rw [Peer.receive_of_gone gone, gone])
    have known (registered : (step.1.roster.get? i).isSome = true) :
        c.session.game = .pending ∨ (c.session.roster.get? i).isSome = true := by
      obtain ⟨player, there⟩ := Option.isSome_iff_exists.mp registered
      exact (members i player there).imp_left And.right
    rw [peers_put] at at_
    split at at_
    · rename_i same
      cases at_
      subst same
      have before := served served'
      exact (h.inStep i p found before).receive exclusive.orderly relayed known
        (exclusive.tokens_eq_zero found before) served' view inbox fewer keeps
        fun _ => stuck served'
    · rename_i other
      exact (h.inStep i q' at_ served').receive exclusive.orderly relayed known
        (exclusive.tokens_eq_zero at_ served') served' rfl rfl (Nat.le_refl _)
        (fun _ _ kept => kept) fun same => absurd same other

theorem congr (h : Attended c missed) {missed' : PlayerId → Prop}
    (same : ∀ i, missed i ↔ missed' i) : Attended c missed' := by
  have : missed = missed' := funext fun i => propext (same i)
  exact this ▸ h

theorem lose (h : Attended c missed) (exclusive : Exclusive c last) (id : PlayerId) :
    Attended (c.lose id) missed := by
  unfold Correspondence.lose
  split
  · exact h
  · split
    · rename_i p found left
      refine h.dispatch exclusive (disconnect_relayed exclusive.orderly id) (fun j q there => ?_)
        found ?_ rfl rfl (Nat.le_refl _) (fun _ _ kept => kept) (fun served => absurd rfl served)
      · obtain ⟨q', there', -⟩ := disconnect_within c.session id j q there
        exact .inr (by rw [there']; rfl)
      · exact fun served => absurd rfl served
    · exact h

variable [Dice δ]

theorem granted (h : Attended c missed) (exclusive : Exclusive c last) {p : Peer}
    (found : c.peers id = some p) (served : p.stage ≠ .gone) {r : Request} {rest : List Request}
    (outbox : p.outbox = r :: rest) {step : Step δ} (ok : c.session.request id r = .ok step) :
    Attended ((c.put id { p with outbox := rest }).dispatch step) missed := by
  have orderly := exclusive.orderly
  refine h.dispatch exclusive (request_relayed orderly ok) (fun j q there => ?_) found
    (fun _ => served) rfl rfl (Peer.tokens_tail_le outbox) (fun before after => ?_)
    (fun _ started zero => ?_)
  · refine (request_members ok there).imp (.imp_right orderly.pending_of_lobby) ?_
    rintro ⟨q', there', -⟩
    rw [there']
    rfl
  · rintro (here | coming | ⟨r', sent, fits⟩)
    · exact .inl here
    · exact .inr (.inl coming)
    · rw [outbox, List.mem_cons] at sent
      rcases sent with rfl | later
      · -- the move would have taken the turn on
        exact absurd after (holder_of_move orderly (Request.isMove_of_fits fits) ok).2
      · exact .inr (.inr ⟨r', later, fits⟩)
  · cases move : r.isMove with
    | true =>
      have sent : p.keepsTurn := .inr (.inr ⟨r, by simp [outbox], move⟩)
      have := Peer.keepsTurn_iff.mp sent
      omega
    | false => exact turns_of_isMove_eq_false orderly started move ok

theorem refused (h : Attended c missed) (exclusive : Exclusive c last) {p : Peer}
    (found : c.peers id = some p) (served : p.stage ≠ .gone) {r : Request} {rest : List Request}
    (outbox : p.outbox = r :: rest) {why : Refusal} (no : c.session.request id r = .error why) :
    Attended ((c.put id { p with outbox := rest }).dispatch (c.session, why.effects id))
      fun i => missed i ∨ i = id ∧ c.Misses id where
  known i present := by
    show (((c.put id { p with outbox := rest }).peers i).map _).isSome = true
    rw [Option.isSome_map, peers_put]
    split
    · rfl
    · rename_i other
      refine h.known i (present.imp_right fun lost => lost.resolve_right fun own => other own.1)
  inStep i q there still := by
    obtain ⟨q', at_, rfl⟩ := Option.map_eq_some_iff.mp there
    rw [peers_put] at at_
    split at at_
    · rename_i same
      cases at_
      subst same
      have dead (holder : c.session.turns.holder = some i)
          (fits : r.fits c.session.game = true) : i = i ∧ c.Misses i := by
        obtain ⟨action, name, rfl, main, other, dead⟩ :=
          dead_of_refused exclusive.orderly holder fits no
        exact ⟨rfl, main, holder, p, action, name, rest, found, served, outbox, other, dead⟩
      have move : i = i ∧ c.Misses i → c.session.turns.holder = some i ∧ r.isMove = true := by
        rintro ⟨-, -, holder, p', action, name, rest', found', -, outbox', -⟩
        cases found.symm.trans found'
        cases outbox.symm.trans outbox'
        exact ⟨holder, rfl⟩
      have inStep := (h.inStep i p found served).refused (exclusive.fair i p found served).1 outbox
        dead move
      rcases Peer.receive_own_refusal { p with outbox := rest } why i with eq | gone
      · show Peer.InStep c.session _ i (Peer.receive _ i (why.effects i))
        rwa [eq]
      · exact absurd gone still
    · rename_i other
      rw [Peer.receive_refusal why other] at still ⊢
      obtain ⟨phase, stays, ready, idle⟩ := h.inStep i q' at_ still
      refine ⟨phase, stays, fun holder kept => ready holder fun before => kept (.inl before), ?_⟩
      exact fun lost => idle (lost.resolve_right fun own => other own.1)

theorem serve (h : Attended c missed) (exclusive : Exclusive c last) (id : PlayerId) :
    Attended (c.serve id) fun i => missed i ∨ i = id ∧ c.Misses id := by
  have fine {d : Correspondence δ} (still : Attended d missed) (keeps : ¬c.Misses id) :
      Attended d fun i => missed i ∨ i = id ∧ c.Misses id :=
    still.congr fun i => by simp [keeps]
  unfold Correspondence.serve
  split
  · rename_i absent
    refine fine h fun ⟨_, _, p, _, _, _, found, _⟩ => ?_
    cases absent.symm.trans found
  · rename_i p found
    split
    · rename_i outbox
      refine fine h fun ⟨_, _, p', _, _, _, found', _, outbox', _⟩ => ?_
      cases found.symm.trans found'
      cases outbox.symm.trans outbox'
    · rename_i r rest outbox
      split
      · rename_i gone
        refine fine h fun ⟨_, _, p', _, _, _, found', served, _⟩ => ?_
        cases found.symm.trans found'
        exact served gone
      · rename_i served
        cases asked : c.session.request id r with
        | ok step =>
          rw [handle_of_ok asked]
          refine fine (h.granted exclusive found served outbox asked) ?_
          rintro ⟨-, -, p', action, name, rest', found', -, outbox', other, dead⟩
          cases found.symm.trans found'
          cases outbox.symm.trans outbox'
          exact not_granted_of_dead exclusive.orderly other dead asked
        | error why =>
          rw [handle_of_error asked]
          exact h.refused exclusive found served outbox asked

theorem connect (h : Attended c missed) (exclusive : Exclusive c last) (id : PlayerId)
    (name : String) (ready : Bool) : Attended (c.step (.connect id name ready)) missed := by
  simp only [Correspondence.step]
  split
  · rename_i free
    -- whoever is new is not registered, and has missed nothing
    have unknown : ¬((c.session.roster.get? id).isSome = true ∨ missed id) := fun present => by
      have := h.known id present
      simp [free] at this
    rw [not_or] at unknown
    refine h.put fun _ => ⟨fun here => ?_, by simp [Peer.join], fun holder => ?_, fun lost => ?_⟩
    · exact (here.resolve_right unknown.1).symm
    · obtain ⟨player, found, -⟩ := exclusive.orderly.holder_alive id holder
      exact absurd (by rw [found]; rfl) unknown.1
    · exact absurd lost unknown.2
  · exact h

theorem step (h : Attended c missed) (exclusive : Exclusive c last) (m : Move) :
    Attended (c.step m) fun i => missed i ∨ m = .serve i ∧ c.Misses i := by
  cases m with
  | connect id name ready => exact (h.connect exclusive id name ready).congr fun i => by simp
  | type id line =>
    have typed : Attended (c.alter id (·.type line)) missed :=
      h.alter (fun p => by simp) fun p inStep => inStep.type line
    exact typed.congr fun i => by simp
  | read id =>
    have read : Attended (c.alter id Peer.read) missed :=
      h.alter (fun p => by simp) fun p inStep => inStep.read exclusive.orderly
    exact read.congr fun i => by simp
  | leave id =>
    have left : Attended (c.alter id Peer.leave) missed :=
      h.alter (fun p served gone => served (p.stage_leave_eq_gone.mpr gone)) fun p inStep =>
        inStep.leave
    exact left.congr fun i => by simp
  | serve id =>
    refine (h.serve exclusive id).congr fun i => or_congr_right ?_
    constructor
    · rintro ⟨rfl, misses⟩
      exact ⟨rfl, misses⟩
    · rintro ⟨same, misses⟩
      cases same
      exact ⟨rfl, misses⟩
  | lose id => exact (h.lose exclusive id).congr fun i => by simp

end Attended

variable [Dice δ]

/-- Some `serve id` of the run is of a correspondence that `Misses` it. -/
def Missed (c : Correspondence δ) (moves : List Move) (id : PlayerId) : Prop :=
  ∃ before after, moves = before ++ .serve id :: after ∧ (c.run before).Misses id

theorem missed_concat (c : Correspondence δ) (moves : List Move) (m : Move) (id : PlayerId) :
    c.Missed (moves ++ [m]) id ↔ c.Missed moves id ∨ m = .serve id ∧ (c.run moves).Misses id := by
  constructor
  · rintro ⟨before, after, eq, misses⟩
    rcases List.eq_nil_or_concat after with rfl | ⟨rest, n, rfl⟩
    · obtain ⟨rfl, same⟩ := List.append_inj' eq rfl
      cases same
      exact .inr ⟨rfl, misses⟩
    · rw [List.concat_eq_append, ← List.cons_append, ← List.append_assoc] at eq
      exact .inl ⟨before, rest, (List.append_inj' eq rfl).1, misses⟩
  · rintro (⟨before, after, rfl, misses⟩ | ⟨rfl, misses⟩)
    · exact ⟨before, after ++ [m], by simp, misses⟩
    · exact ⟨moves, [], rfl, misses⟩

/-- A run is `Attended`, with those that have `Missed`. -/
theorem attended_run (expected : Nat) (dice : δ) (moves : List Move) :
    Attended ((Correspondence.new expected dice).run moves)
      ((Correspondence.new expected dice).Missed moves) := by
  induction moves using List.reverseRecOn with
  | nil =>
    refine (Attended.new expected dice).congr fun i => ⟨False.elim, ?_⟩
    rintro ⟨before, after, eq, -⟩
    simp at eq
  | append_singleton moves m ih =>
    obtain ⟨last, exclusive⟩ := (Exclusive.new expected dice).run moves
    rw [run_concat]
    exact (ih.step exclusive m).congr fun i => (missed_concat _ moves m i).symm

/-- After any moves, `TurnKept` holds iff the holder, with a peer that is `here`, has not `Missed`
its turn. -/
theorem turnKept_iff (expected : Nat) (dice : δ) (moves : List Move) :
    let c := (Correspondence.new expected dice).run moves
    c.TurnKept ↔ ∀ i p, c.session.turns.holder = some i → c.peers i = some p → p.stage = .here →
      ¬(Correspondence.new expected dice).Missed moves i := by
  have attended := attended_run expected dice moves
  obtain ⟨last, exclusive⟩ := (Exclusive.new expected dice).run moves
  refine ⟨fun kept i p holder found here missed => ?_, fun kept i p holder found here => ?_⟩
  · have has := Peer.keepsTurn_iff.mp (kept i p holder found here)
    rcases (attended.inStep i p found (by simp [here])).idle missed with ended | ⟨-, zero⟩
    · exact exclusive.orderly.ne_gameOver holder ended
    · omega
  · have ready := (attended.inStep i p found (by simp [here])).ready holder
    exact (ready (kept i p holder found here)).keepsTurn

/-- In a game of three the first attacks the third, who disconnects before that is handled. -/
def lateAttack : List Move :=
  let choose (n : UInt32) : List Move :=
    List.replicate 9 (.read ⟨n⟩) ++ [.type ⟨n⟩ ".1", .serve ⟨n⟩]
  [.connect ⟨1⟩ "A" true, .connect ⟨2⟩ "B" true, .connect ⟨3⟩ "C" true,
    .serve ⟨1⟩, .serve ⟨2⟩, .serve ⟨3⟩] ++ choose 1 ++ choose 2 ++ choose 3 ++
    List.replicate 9 (.read ⟨1⟩) ++ [.type ⟨1⟩ ".3 C", .leave ⟨3⟩, .lose ⟨3⟩, .serve ⟨1⟩]

/-- After `lateAttack` the first is the holder, and its client does not have the turn. -/
theorem turn_lost : ¬((Correspondence.new 3 (⟨[]⟩ : Script)).run lateAttack).TurnKept := by
  intro kept
  have waits : (((Correspondence.new 3 (⟨[]⟩ : Script)).run lateAttack).peers ⟨1⟩).map
      (fun p => (p.stage, p.tokens)) = some (.here, 0) := by decide +kernel
  obtain ⟨p, found, eq⟩ := Option.map_eq_some_iff.mp waits
  rw [Prod.mk.injEq] at eq
  have has := Peer.keepsTurn_iff.mp (kept ⟨1⟩ p (by decide +kernel) found eq.1)
  omega

end Correspondence

end Skirmish
