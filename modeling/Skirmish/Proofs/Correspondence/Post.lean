import Skirmish.Correspondence
import Skirmish.Proofs.Session.Requests
import Skirmish.Proofs.View

/-!
# What a peer is told of the turn

The notices of one operation for one peer, as far as phase and turn go.

Results:

* `Relayed.post`: they bring the new phase, and `takeTurn` iff the peer becomes the holder, behind
  the phase;
* `Peer.receive_refusal`, `Peer.receive_own_refusal`: a refusal has a notice only for its sender,
  with which that is closed.
-/

namespace Skirmish

open Session

variable {δ : Type} {s t : Session δ} {id j : PlayerId} {step : Step δ} {effects : List Effect}

/-! ## Notices to one connection -/

@[simp] theorem noticesFor_nil (j : PlayerId) : noticesFor j [] = [] := rfl

@[simp] theorem noticesFor_cons (j : PlayerId) (e : Effect) (rest : List Effect) :
    noticesFor j (e :: rest) = (e.notice? j).toList ++ noticesFor j rest := by
  cases h : e.notice? j <;> simp [noticesFor, h]

theorem noticesFor_unicast (j recipient : PlayerId) (n : Notice) (rest : List Effect) :
    noticesFor j (.unicast recipient n :: rest) =
      if recipient = j then n :: noticesFor j rest else noticesFor j rest := by
  by_cases here : recipient = j <;> simp [Effect.notice?, here]

@[simp] theorem noticesFor_append (j : PlayerId) (es more : List Effect) :
    noticesFor j (es ++ more) = noticesFor j es ++ noticesFor j more := by
  simp [noticesFor]

/-- Filtering out talk commutes with `noticesFor`. -/
theorem filter_noticesFor (j : PlayerId) (es : List Effect) :
    (noticesFor j es).filter (!·.isTalk) = noticesFor j (news es) := by
  induction es with
  | nil => rfl
  | cons e rest ih =>
    rw [noticesFor_cons, List.filter_append, ih, news_cons]
    cases e with
    | broadcast n => cases talk : n.isTalk <;> simp [Effect.notice?, Effect.isTalk, talk]
    | unicast recipient n =>
      by_cases here : recipient = j <;> cases talk : n.isTalk <;>
        simp [Effect.notice?, Effect.isTalk, talk, here]
    | close other => simp [Effect.notice?]

/-! ## Phases and healths -/

/-- The notices lead from phase `g` to phase `h` without `takeTurn` and `disconnected`. -/
structure Tells (g h : GamePhase) (ns : List Notice) : Prop where
  phase : g.hearAll ns = h
  noTurn : .takeTurn ∉ ns
  stays : ∀ reason, .disconnected reason ∉ ns

theorem Tells.append {g h k : GamePhase} {ns more : List Notice} (first : Tells g h ns)
    (second : Tells h k more) : Tells g k (ns ++ more) where
  phase := by rw [GamePhase.hearAll_append, first.phase, second.phase]
  noTurn := by simp [first.noTurn, second.noTurn]
  stays reason := by simp [first.stays, second.stays]

theorem tells_of_isHealth (g : GamePhase) (j : PlayerId)
    (healths : ∀ e ∈ effects, e.isHealth = true) : Tells g g (noticesFor j effects) := by
  induction effects with
  | nil => exact ⟨rfl, List.not_mem_nil, fun _ => List.not_mem_nil⟩
  | cons e rest ih =>
    rw [noticesFor_cons]
    refine Tells.append ?_ (ih fun e he => healths e (List.mem_cons_of_mem _ he))
    have health := healths e List.mem_cons_self
    unfold Effect.isHealth at health
    split at health
    · exact ⟨rfl, by simp [Effect.notice?], by simp [Effect.notice?]⟩
    · cases health

theorem PhaseNews.tells {g h : GamePhase} {phases : List Effect} (told : PhaseNews g h phases)
    (j : PlayerId) : Tells g h (noticesFor j phases) := by
  induction told with
  | stay g => exact ⟨rfl, List.not_mem_nil, fun _ => List.not_mem_nil⟩
  | start _ ih =>
    have first : Tells .pending .characterSelect [.gameStarted] := ⟨rfl, by simp, by simp⟩
    exact first.append ih
  | enter roster _ ih =>
    have first : Tells .characterSelect .main [.phaseChanged .main (some roster)] :=
      ⟨rfl, by simp, by simp⟩
    exact first.append ih
  | finish => exact ⟨rfl, by simp [Effect.notice?], by simp [Effect.notice?]⟩

/-! ## Operations -/

/-- What the notices `ns` for peer `j` report of an operation from `s` to `t`. -/
structure Post (s t : Session δ) (j : PlayerId) (ns : List Notice) : Prop where
  phase : s.game.hearAll ns = t.game
  /-- `takeTurn` is among `ns` once if `j` becomes the holder, and not at all otherwise. -/
  turns : ns.count .takeTurn =
    if t.turns.holder = some j ∧ s.turns.holder ≠ some j then 1 else 0
  /-- At `takeTurn` the phase of `t` has been heard. -/
  atTurn : t.turns.holder = some j → s.turns.holder ≠ some j → s.game.atTurn ns = some t.game
  stays : ∀ reason, .disconnected reason ∉ ns

/-- Talk does not matter for `Post`. -/
theorem Post.of_news (h : Post s t j (noticesFor j (news effects))) :
    Post s t j (noticesFor j effects) := by
  rw [← filter_noticesFor] at h
  refine ⟨?_, ?_, ?_, fun reason told => ?_⟩
  · rw [← h.phase, GamePhase.hearAll_filter]
  · rw [← h.turns, List.count_filter rfl]
  · rw [← GamePhase.atTurn_filter]
    exact h.atTurn
  · exact h.stays reason (List.mem_filter.mpr ⟨told, rfl⟩)

theorem Tells.post {ns : List Notice} (h : Tells s.game t.game ns)
    (none : ¬(t.turns.holder = some j ∧ s.turns.holder ≠ some j)) : Post s t j ns where
  phase := h.phase
  turns := by rw [if_neg none, List.count_eq_zero_of_not_mem h.noTurn]
  atTurn gets other := absurd ⟨gets, other⟩ none
  stays := h.stays

theorem Tells.post_takeTurn {ns : List Notice} (h : Tells s.game t.game ns)
    (gets : t.turns.holder = some j) (other : s.turns.holder ≠ some j) :
    Post s t j (ns ++ [.takeTurn]) where
  phase := by rw [GamePhase.hearAll_append, h.phase]; rfl
  turns := by
    rw [if_pos ⟨gets, other⟩, List.count_append, List.count_eq_zero_of_not_mem h.noTurn]
    rfl
  atTurn _ _ := by
    rw [GamePhase.atTurn_append, GamePhase.atTurn_eq_none _ h.noTurn, h.phase]
    rfl
  stays reason := by simp [h.stays]

theorem Session.Relayed.post (h : Relayed id s step) (j : PlayerId) :
    Post s step.1 j (noticesFor j step.2) := by
  obtain ⟨healths, ns, eq, only, goes, -⟩ := h
  refine .of_news ?_
  rw [eq, noticesFor_append]
  have before := tells_of_isHealth s.game j only
  rcases goes with ⟨rfl, turns, game⟩ | relay
  · have told : Tells s.game step.1.game (noticesFor j healths ++ noticesFor j []) := by
      simpa [game] using before
    exact told.post (by simp [turns])
  · cases relay with
    | gives phases told playing member alive holder moves giver =>
      have pre := before.append (told.tells j)
      rename_i p
      by_cases here : p.id = j
      · subst here
        have := pre.post_takeTurn holder moves
        simpa [Effect.notice?] using this
      · have := pre.post (j := j) (by simp [holder, here])
        simpa [Effect.notice?, here] using this
    | ends phases told playing ended holder =>
      exact (before.append (told.tells j)).post (by simp [holder])

/-! ## Refusals -/

theorem takeTurn_notMem_refusal (why : Refusal) (id j : PlayerId) :
    .takeTurn ∉ noticesFor j (why.effects id) := by
  rcases refusal_cases why id with eq | ⟨reason, eq⟩ <;> rw [eq]
  · exact List.not_mem_nil
  · by_cases here : id = j <;> simp [Effect.notice?, here]

theorem Peer.receive_nil (p : Peer) (j : PlayerId) : p.receive j [] = p := by
  unfold receive
  split
  · rfl
  · simp

/-- The refusal of another peer brings nothing. -/
theorem Peer.receive_refusal {p : Peer} (why : Refusal) (other : j ≠ id) :
    p.receive j (why.effects id) = p := by
  rcases refusal_cases why id with eq | ⟨reason, eq⟩ <;> rw [eq]
  · exact p.receive_nil j
  · unfold receive
    split
    · rfl
    · simp [Effect.notice?, other, other.symm]

/-- Its own refusal brings a peer nothing, or makes it `gone`. -/
theorem Peer.receive_own_refusal (p : Peer) (why : Refusal) (id : PlayerId) :
    p.receive id (why.effects id) = p ∨ (p.receive id (why.effects id)).stage = .gone := by
  rcases refusal_cases why id with eq | ⟨reason, eq⟩ <;> rw [eq]
  · exact .inl (p.receive_nil id)
  · unfold receive
    split
    · exact .inl rfl
    · exact .inr (by simp)

end Skirmish
