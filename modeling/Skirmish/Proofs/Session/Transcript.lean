import Skirmish.Proofs.Session.Token

/-!
# The order of what a session says

A `Transcript g es h` says that the effects `es` take the game from phase `g` to phase `h`:
`gameStarted`, `phaseChanged main` and `phaseChanged gameOver` each once and in this order, with
`takeTurn` and `healthChanged` only between the first and the last. Talk and dismissals may stand
anywhere.

Results:

* `Transcript.cut`: a transcript cut in two is two transcripts, with some phase between;
* `Transcript.milestones_prefix`: the order of the phases in it;
* `perform_transcript`, `perform_final`: the effects of an operation are a transcript, with
  `phaseChanged gameOver` last;
* `connection_le_perform`: the connection phase does not go back;
* `intro_of_farewell`: `disconnected` is sent only for an `intro` that is refused;
* `milestones_in_order_of_run`: all of this after any run.
-/

namespace Skirmish

/-! ## Kinds of effects -/

namespace Effect

/-- The `broadcast` of `gameStarted` in `start`. -/
def started : Effect := .broadcast .gameStarted

/-- The `broadcast` of `main` in `startMain`. -/
def entered (roster : List Snapshot) : Effect := .broadcast (.phaseChanged .main (some roster))

/-- The `broadcast` of `gameOver` in `finish`. -/
def ended : Effect := .broadcast (.phaseChanged .gameOver none)

/-- The effect is a `broadcast` of `gameStarted` or `phaseChanged`. -/
def isMilestone : Effect → Bool
  | .broadcast .gameStarted | .broadcast (.phaseChanged ..) => true
  | _ => false

/-- The effect sends a `takeTurn` or a `healthChanged`. -/
def isPlay : Effect → Bool
  | .broadcast .takeTurn | .broadcast (.healthChanged ..) => true
  | .unicast _ .takeTurn | .unicast _ (.healthChanged ..) => true
  | _ => false

/-- The effect sends a `disconnected` to one connection, or closes it. -/
def isFarewell : Effect → Bool
  | .unicast _ (.disconnected _) | .close _ => true
  | _ => false

/-- The effect is talk or a farewell. -/
def isAside (e : Effect) : Bool :=
  e.isTalk || e.isFarewell

theorem isPlay_of_isAside {e : Effect} (aside : e.isAside = true) : e.isPlay = false := by
  cases e with
  | broadcast n | unicast _ n => cases n <;> first | rfl | cases aside
  | close => rfl

theorem isMilestone_of_isAside {e : Effect} (aside : e.isAside = true) :
    e.isMilestone = false := by
  cases e with
  | broadcast n => cases n <;> first | rfl | cases aside
  | unicast | close => rfl

theorem isMilestone_of_isPlay {e : Effect} (play : e.isPlay = true) : e.isMilestone = false := by
  cases e with
  | broadcast n => cases n <;> first | rfl | cases play
  | unicast | close => rfl

theorem isPlay_of_isHealth {e : Effect} (health : e.isHealth = true) : e.isPlay = true := by
  unfold isHealth at health
  split at health
  · rfl
  · cases health

end Effect

/-- The `effects` that are milestones, in order. -/
def milestones (effects : List Effect) : List Effect :=
  effects.filter Effect.isMilestone

/-- The milestones from a phase on; `roster` is the one of `entered`. -/
def milestonesFrom (roster : List Snapshot) : GamePhase → List Effect
  | .pending => [.started, .entered roster, .ended]
  | .characterSelect => [.entered roster, .ended]
  | .main => [.ended]
  | .gameOver => []

/-! ## Transcripts -/

/-- `Utters g e h`: in phase `g` the effect `e` may be next, and the phase is `h` then. -/
inductive Utters : GamePhase → Effect → GamePhase → Prop
  | aside {g : GamePhase} {e : Effect} (aside : e.isAside = true) : Utters g e g
  | play {g : GamePhase} {e : Effect} (playing : g = .characterSelect ∨ g = .main)
      (play : e.isPlay = true) : Utters g e g
  | start : Utters .pending .started .characterSelect
  | enter (roster : List Snapshot) : Utters .characterSelect (.entered roster) .main
  | finish : Utters .main .ended .gameOver

/-- `Transcript g es h`: the effects `es` lead from phase `g` to phase `h`, each one allowed by
`Utters`. -/
inductive Transcript : GamePhase → List Effect → GamePhase → Prop
  | nil (g : GamePhase) : Transcript g [] g
  | cons {g h k : GamePhase} {e : Effect} {es : List Effect} (first : Utters g e h)
      (rest : Transcript h es k) : Transcript g (e :: es) k

variable {g h k : GamePhase} {es fs before after : List Effect} {e : Effect}

namespace Utters

theorem rank_le (said : Utters g e h) : g.rank ≤ h.rank := by
  cases said with
  | aside | play => exact Nat.le_refl _
  | start | enter | finish => decide

theorem playing_of_isPlay (said : Utters g e h) (play : e.isPlay = true) :
    g = .characterSelect ∨ g = .main := by
  cases said with
  | aside aside =>
    rw [Effect.isPlay_of_isAside aside] at play
    cases play
  | play playing => exact playing
  | start | enter | finish => cases play

/-- `started` is the only effect that leaves `pending`. -/
theorem started_of_pending (said : Utters .pending e h) (left : h ≠ .pending) : e = .started := by
  cases said with
  | aside | play => exact absurd rfl left
  | start => rfl

theorem phases_of_ended (said : Utters g .ended h) : g = .main ∧ h = .gameOver := by
  cases said with
  | aside aside => cases aside
  | play _ play => cases play
  | finish => exact ⟨rfl, rfl⟩

/-- In `gameOver` only asides may be next. -/
theorem isAside_of_gameOver (said : Utters .gameOver e h) : e.isAside = true ∧ h = .gameOver := by
  cases said with
  | aside aside => exact ⟨aside, rfl⟩
  | play playing => simp at playing

end Utters

namespace Transcript

theorem append (first : Transcript g es h) (second : Transcript h fs k) :
    Transcript g (es ++ fs) k := by
  induction first with
  | nil => exact second
  | cons said _ ih => exact .cons said (ih second)

/-- A transcript can be cut anywhere, in some phase `h`. -/
theorem cut (whole : Transcript g (before ++ after) k) :
    ∃ h, Transcript g before h ∧ Transcript h after k := by
  induction before generalizing g with
  | nil => exact ⟨g, .nil g, whole⟩
  | cons e rest ih =>
    cases whole with
    | cons said later =>
      obtain ⟨h, first, second⟩ := ih later
      exact ⟨h, .cons said first, second⟩

theorem rank_le (told : Transcript g es k) : g.rank ≤ k.rank := by
  induction told with
  | nil => exact Nat.le_refl _
  | cons said _ ih => exact Nat.le_trans said.rank_le ih

/-- A transcript from `pending` to another phase holds `started`. -/
theorem started_mem (told : Transcript .pending es k) (left : k ≠ .pending) : .started ∈ es := by
  generalize lobby : GamePhase.pending = g at told
  induction told with
  | nil => exact absurd lobby.symm left
  | @cons g h k e es said rest ih =>
    subst lobby
    by_cases waits : h = .pending
    · exact List.mem_cons_of_mem _ (ih left waits.symm)
    · rw [said.started_of_pending waits]
      exact List.mem_cons_self

/-- A transcript from `gameOver` holds only asides. -/
theorem isAside_of_gameOver (told : Transcript .gameOver es k) : ∀ e ∈ es, e.isAside = true := by
  generalize ended : GamePhase.gameOver = g at told
  induction told with
  | nil => exact List.forall_mem_nil _
  | cons said _ ih =>
    subst ended
    obtain ⟨aside, ended⟩ := said.isAside_of_gameOver
    exact List.forall_mem_cons.mpr ⟨aside, ih ended.symm⟩

/-- A transcript that holds `ended` leads to `gameOver`. -/
theorem gameOver_of_ended_mem (told : Transcript g es k) (ended : .ended ∈ es) : k = .gameOver := by
  obtain ⟨before, after, rfl⟩ := List.append_of_mem ended
  obtain ⟨_, -, later⟩ := told.cut
  cases later with
  | cons said rest =>
    obtain ⟨-, rfl⟩ := said.phases_of_ended
    have last := rest.rank_le
    revert last
    cases k <;> decide

/-- The milestones of a transcript from phase `g` are an initial part of `milestonesFrom` `g`. -/
theorem milestones_prefix (told : Transcript g es k) :
    ∃ roster, milestones es <+: milestonesFrom roster g := by
  induction told with
  | nil => exact ⟨[], List.nil_prefix⟩
  | cons said _ ih =>
    obtain ⟨roster, rest⟩ := ih
    cases said with
    | aside aside =>
      have other := Effect.isMilestone_of_isAside aside
      exact ⟨roster, by rwa [milestones, List.filter_cons_of_neg (by simp [other])]⟩
    | play _ play =>
      have other := Effect.isMilestone_of_isPlay play
      exact ⟨roster, by rwa [milestones, List.filter_cons_of_neg (by simp [other])]⟩
    | start => exact ⟨roster, (List.prefix_cons_inj _).mpr rest⟩
    | enter players => exact ⟨players, (List.prefix_cons_inj _).mpr rest⟩
    | finish => exact ⟨roster, (List.prefix_cons_inj _).mpr rest⟩

/-- Talk is allowed in every phase, so the `news` decide. -/
theorem of_news (told : Transcript g (news es) k) : Transcript g es k := by
  induction es generalizing g with
  | nil => exact told
  | cons e rest ih =>
    rw [news_cons] at told
    split at told
    · rename_i talk
      have aside : e.isAside = true := by rw [Effect.isAside, talk, Bool.true_or]
      exact .cons (.aside aside) (ih told)
    · cases told with
      | cons said later => exact .cons said (ih later)

/-- Effects that keep the phase `g` are a transcript. -/
theorem of_forall (said : ∀ e ∈ es, Utters g e g) : Transcript g es g := by
  induction es with
  | nil => exact .nil g
  | cons e rest ih =>
    rw [List.forall_mem_cons] at said
    exact .cons said.1 (ih said.2)

end Transcript

theorem PhaseNews.transcript {phases : List Effect} (told : PhaseNews g h phases) :
    Transcript g phases h := by
  induction told with
  | stay g => exact .nil g
  | start _ ih => exact .cons .start ih
  | enter roster _ ih => exact .cons (.enter roster) ih
  | finish => exact .cons .finish (.nil _)

namespace Session

variable {δ : Type} {s : Session δ} {id : PlayerId} {step : Step δ}

/-! ## What one operation says -/

/-- The effects of a `Relayed` operation are a transcript, if there are healths among them only in
`characterSelect` and `main`. -/
theorem Relayed.transcript (h : Relayed id s step)
    (playing : ∀ e ∈ step.2, e.isHealth = true → s.game = .characterSelect ∨ s.game = .main) :
    Transcript s.game step.2 step.1.game := by
  obtain ⟨healths, ns, eq, only, goes, -⟩ := h
  have first : Transcript s.game healths s.game := by
    refine .of_forall fun e he => .play ?_ (Effect.isPlay_of_isHealth (only e he))
    have reported : e ∈ news step.2 := by
      rw [eq]
      exact List.mem_append_left _ he
    exact playing e (List.mem_of_mem_filter reported) (only e he)
  have second : Transcript s.game ns step.1.game := by
    rcases goes with ⟨rfl, -, game⟩ | relay
    · rw [game]
      exact .nil _
    · cases relay with
      | @gives p phases told playing =>
        have turn : Transcript step.1.game [.unicast p.id .takeTurn] step.1.game :=
          .cons (.play playing rfl) (.nil _)
        exact told.transcript.append turn
      | ends phases told => exact told.transcript
  apply Transcript.of_news
  rw [eq]
  exact first.append second

theorem mem_news_of_isHealth {es : List Effect} {e : Effect} (he : e ∈ es)
    (health : e.isHealth = true) : e ∈ news es := by
  refine List.mem_filter.mpr ⟨he, ?_⟩
  unfold Effect.isHealth at health
  split at health
  · rfl
  · cases health

/-- The effects of `tryStart` are `started` and a `takeTurn`. -/
theorem MayStart.effect_cases (may : s.MayStart step) {e : Effect} (he : e ∈ step.2) :
    e = .started ∨ ∃ i, e = .unicast i .takeTurn := by
  rcases may with rfl | rfl
  · unfold tryStart at he
    split at he
    · simp only [start, List.mem_cons] at he
      rcases he with rfl | turn
      · exact .inl rfl
      · split at turn
        · exact .inr ⟨_, List.mem_singleton.mp turn⟩
        · cases turn
    · cases he
  · cases he

theorem playing_of_request [Dice δ] {r : Request} (ok : s.request id r = .ok step) {e : Effect}
    (he : e ∈ step.2) (health : e.isHealth = true) :
    s.game = .characterSelect ∨ s.game = .main := by
  have told : e ∈ news step.2 := mem_news_of_isHealth he health
  -- where the game may start, everything but the start is talk
  have lobby {t : Session δ} {started : Step δ} (may : t.MayStart started)
      (same : news step.2 = news started.2) : s.game = .characterSelect ∨ s.game = .main := by
    rw [same] at told
    rcases may.effect_cases (List.mem_of_mem_filter told) with rfl | ⟨i, rfl⟩ <;> cases health
  cases r with
  | intro name ready =>
    obtain ⟨-, roster, started, -, may, rfl⟩ := register_cases ok
    exact lobby may (by simp)
  | ready | unready =>
    obtain ⟨-, line, started, may, rfl⟩ := setReady_cases ok
    exact lobby may (by simp)
  | listPlayers | listStats | chat =>
    rw [(request_of_isTalk rfl ok).2] at told
    cases told
  | chooseJob job => exact .inl (chooseJob_eq_ok_iff.mp ok).1
  | act action name => exact .inr (takeAction_eq_ok_iff.mp ok).1

theorem playing_of_disconnect (h : Orderly s) {e : Effect} (he : e ∈ (s.disconnect id).2)
    (health : e.isHealth = true) : s.game = .characterSelect ∨ s.game = .main := by
  have told : e ∈ news (s.disconnect id).2 := mem_news_of_isHealth he health
  rcases s.disconnect_cases id with ⟨eq, -⟩ | ⟨p, -, ⟨-, eq⟩ | ⟨started, going, -, -⟩⟩
  · rw [eq] at told
    cases told
  · rw [eq] at told
    simp at told
  · have left := h.started_iff.mp started
    cases game : s.game <;> simp_all

theorem request_transcript [Dice δ] (h : Orderly s) {r : Request}
    (ok : s.request id r = .ok step) : Transcript s.game step.2 step.1.game :=
  (request_relayed h ok).transcript fun _ he health => playing_of_request ok he health

theorem refusal_transcript (s : Session δ) (why : Refusal) (id : PlayerId) :
    Transcript s.game (why.effects id) s.game := by
  refine .of_forall fun e he => .aside ?_
  rcases refusal_cases why id with eq | ⟨reason, eq⟩
  · rw [eq] at he
    cases he
  · rw [eq, List.mem_cons, List.mem_singleton] at he
    rcases he with rfl | rfl <;> rfl

theorem serverChat_transcript (text : String) (g : GamePhase) :
    Transcript g (Session.serverChat text) g := by
  rcases serverChat_cases text with eq | eq <;> rw [eq]
  · exact .nil _
  · exact .cons (.aside rfl) (.nil _)

theorem perform_transcript [Dice δ] (h : Orderly s) (op : Op) :
    Transcript s.game (s.perform op).2 (s.perform op).1.game := by
  refine perform_elim (motive := fun step => Transcript s.game step.2 step.1.game)
    ?_ ?_ ?_ ?_ ?_ ?_ op
  · exact .nil _
  · exact request_transcript h
  · exact refusal_transcript s
  · exact .nil _
  · exact fun text => serverChat_transcript text _
  · exact fun id => (disconnect_relayed h id).transcript fun _ => playing_of_disconnect h

/-- The effects of a run are a transcript from the phase before to the phase afterwards. -/
theorem run_transcript [Dice δ] (h : Orderly s) (ops : List Op) :
    Transcript s.game (s.run ops).2 (s.run ops).1.game := by
  induction ops generalizing s with
  | nil => exact .nil _
  | cons op rest ih => exact (perform_transcript h op).append (ih (h.perform op))

/-! ## The end comes last -/

/-- If `ended` is among the effects, it is the last one. -/
def Final (effects : List Effect) : Prop :=
  .ended ∈ effects → effects.getLast? = some .ended

theorem Final.of_notMem {es : List Effect} (goes : .ended ∉ es) : Final es :=
  fun ended => absurd ended goes

theorem Final.cons {e : Effect} {es : List Effect} (h : Final es) (goes : e ≠ .ended) :
    Final (e :: es) := by
  intro ended
  have later : .ended ∈ es := (List.mem_cons.mp ended).resolve_left goes.symm
  rw [List.getLast?_cons, h later]
  rfl

theorem announce_ne_ended (line : String) : Effect.announce line ≠ .ended := by
  simp [Effect.announce, Effect.ended, Notice.serverLine]

theorem finish_final (s : Session δ) (winner : Option String) : Final (s.finish winner).2 :=
  fun _ => rfl

theorem advanceMain_final (s : Session δ) : Final s.advanceMain.2 := by
  rcases s.advanceMain_cases with ⟨p, -, -, -, -, eq⟩ | ⟨-, eq⟩ <;> rw [eq]
  · have turn : Final [.unicast p.id .takeTurn] := .of_notMem (by simp [Effect.ended])
    exact turn.cons (announce_ne_ended _)
  · exact finish_final s _

theorem startMain_final (s : Session δ) : Final s.startMain.2 := by
  have rest := advanceMain_final { s with game := s.game.advance .main }
  exact rest.cons (by simp [Effect.ended])

theorem advanceSelect_final (s : Session δ) : Final s.advanceSelect.2 := by
  rcases s.turns.advanceSelect_cases s.roster with ⟨p, -, -, -, eq⟩ | eq <;>
    simp only [advanceSelect, eq]
  · exact .of_notMem (by simp [Effect.ended])
  · exact startMain_final _

theorem afterForfeit_final (s : Session δ) (id : PlayerId) : Final (s.afterForfeit id).2 := by
  have silent : Final [] := .of_notMem List.not_mem_nil
  unfold afterForfeit
  split
  · split
    · exact advanceSelect_final s
    · exact silent
  · split
    · exact advanceMain_final s
    · split
      · exact finish_final s _
      · exact silent
  · exact silent
  · exact silent

theorem Final.of_news {es : List Effect} (goes : .ended ∉ news es) : Final es :=
  .of_notMem fun ended => goes (List.mem_filter.mpr ⟨ended, rfl⟩)

theorem MayStart.final (may : s.MayStart step) {es : List Effect}
    (same : news es = news step.2) : Final es := by
  refine .of_news fun ended => ?_
  rw [same] at ended
  rcases may.effect_cases (List.mem_of_mem_filter ended) with eq | ⟨i, eq⟩ <;> cases eq

theorem request_final [Dice δ] {r : Request} (ok : s.request id r = .ok step) :
    Final step.2 := by
  cases r with
  | intro name ready =>
    obtain ⟨-, roster, started, -, may, rfl⟩ := register_cases ok
    exact may.final (by simp)
  | ready | unready =>
    obtain ⟨-, line, started, may, rfl⟩ := setReady_cases ok
    exact may.final (by simp)
  | listPlayers | listStats | chat =>
    refine .of_news ?_
    rw [(request_of_isTalk rfl ok).2]
    exact List.not_mem_nil
  | chooseJob job =>
    obtain ⟨-, -, -, p, -, rfl⟩ := chooseJob_eq_ok_iff.mp ok
    exact (advanceSelect_final _).cons (announce_ne_ended _)
  | act action name =>
    obtain ⟨-, -, actor, other, p, -, -, -, rfl⟩ := takeAction_eq_ok_iff.mp ok
    exact ((advanceMain_final _).cons (by simp [Effect.ended])).cons (announce_ne_ended _)

theorem disconnect_final (s : Session δ) (id : PlayerId) : Final (s.disconnect id).2 := by
  rcases s.disconnect_cases id with ⟨eq, -⟩ | ⟨p, -, ⟨-, eq⟩ | ⟨-, -, -, eq⟩⟩ <;> rw [eq]
  · exact .of_notMem List.not_mem_nil
  · exact .of_news (by simp)
  · exact ((afterForfeit_final _ id).cons (by simp [Effect.ended])).cons (announce_ne_ended _)

theorem refusal_final (why : Refusal) (id : PlayerId) : Final (why.effects id) := by
  rcases refusal_cases why id with eq | ⟨reason, eq⟩ <;> rw [eq]
  · exact .of_notMem List.not_mem_nil
  · exact .of_notMem (by simp [Effect.ended])

theorem serverChat_final (text : String) : Final (Session.serverChat text) := by
  rcases serverChat_cases text with eq | eq <;> rw [eq]
  · exact .of_notMem List.not_mem_nil
  · exact .of_news (by simp)

theorem perform_final [Dice δ] (s : Session δ) (op : Op) : Final (s.perform op).2 := by
  refine perform_elim (motive := fun step => Final step.2) ?_ ?_ ?_ ?_ ?_ ?_ op
  · exact .of_notMem List.not_mem_nil
  · exact request_final
  · exact refusal_final
  · exact .of_notMem List.not_mem_nil
  · exact serverChat_final
  · exact s.disconnect_final

/-! ## No way back -/

theorem connection_le_tryStart (s : Session δ) :
    s.connection.rank ≤ s.tryStart.1.connection.rank := by
  unfold tryStart
  split
  · simp only [start, ConnectionPhase.rank_advance]
    exact Nat.le_max_left _ _
  · exact Nat.le_refl _

theorem MayStart.connection_le (may : s.MayStart step) :
    s.connection.rank ≤ step.1.connection.rank := by
  rcases may with rfl | rfl
  · exact connection_le_tryStart s
  · exact Nat.le_refl _

theorem connection_le_request [Dice δ] (h : Orderly s) (lobby : s.connection ≠ .inProgress)
    {r : Request} (ok : s.request id r = .ok step) :
    s.connection.rank ≤ step.1.connection.rank := by
  have pending := h.pending_of_lobby lobby
  cases r with
  | intro name ready =>
    obtain ⟨-, roster, started, -, may, rfl⟩ := register_cases ok
    have joins : s.connection.rank ≤ (s.joined roster).connection.rank := by
      rw [joined, ConnectionPhase.rank_advance]
      exact Nat.le_max_left _ _
    exact Nat.le_trans joins may.connection_le
  | ready | unready =>
    obtain ⟨-, line, started, may, rfl⟩ := setReady_cases ok
    exact may.connection_le
  | listPlayers | listStats | chat =>
    exact Nat.le_of_eq (by rw [(request_of_isTalk rfl ok).1])
  | chooseJob job =>
    have select := (chooseJob_eq_ok_iff.mp ok).1
    rw [pending] at select
    cases select
  | act action name =>
    have main := (takeAction_eq_ok_iff.mp ok).1
    rw [pending] at main
    cases main

theorem connection_disconnect_of_lobby (lobby : s.connection ≠ .inProgress) (id : PlayerId) :
    (s.disconnect id).1.connection = s.connection := by
  rcases s.disconnect_cases id with ⟨eq, -⟩ | ⟨p, -, ⟨-, eq⟩ | ⟨started, -, -, -⟩⟩
  · rw [eq]
  · rw [eq]
    rfl
  · exact absurd started lobby

/-- `perform` never lowers `connection.rank`. -/
theorem connection_le_perform [Dice δ] (h : Orderly s) (op : Op) :
    s.connection.rank ≤ (s.perform op).1.connection.rank := by
  by_cases started : s.connection = .inProgress
  · -- the game has left the lobby, and does not come back to it
    have left := h.started_iff.mp started
    have forward := (perform_transcript h op).rank_le
    have later : (s.perform op).1.game ≠ .pending := by
      intro back
      rw [back] at forward
      exact left (GamePhase.eq_pending_of_rank_le forward)
    exact Nat.le_of_eq (by rw [started, (h.perform op).started_iff.mpr later])
  · refine perform_elim (motive := fun step => s.connection.rank ≤ step.1.connection.rank)
      ?_ ?_ ?_ ?_ ?_ ?_ op
    · rw [opened, ConnectionPhase.rank_advance]
      exact Nat.le_max_left _ _
    · exact connection_le_request h started
    · exact fun _ _ => Nat.le_refl _
    · exact Nat.le_refl _
    · exact fun _ => Nat.le_refl _
    · exact fun id => Nat.le_of_eq (by rw [connection_disconnect_of_lobby started])

/-! ## Who is turned away -/

/-- A `Relayed` operation has no farewells. -/
theorem isFarewell_of_relayed (h : Relayed id s step) {e : Effect} (he : e ∈ step.2) :
    e.isFarewell = false := by
  rcases h.effect_cases he with talk | ⟨n, rfl⟩ | ⟨i, rfl⟩
  · cases e with
    | broadcast n => rfl
    | unicast i n => cases n <;> first | rfl | cases talk
    | close i => cases talk
  · rfl
  · rfl

/-- An operation with a farewell is a refused `intro`, and has no effects but the message and the
`close`. -/
theorem intro_of_farewell [Dice δ] (h : Orderly s) {op : Op} {e : Effect}
    (he : e ∈ (s.perform op).2) (farewell : e.isFarewell = true) :
    ∃ id name ready why, op = .handle id (.intro name ready) ∧
      s.request id (.intro name ready) = .error why ∧
      (s.perform op).2 = [.unicast id (.disconnected why.message), .close id] := by
  have granted {id : PlayerId} {r : Request} {step : Step δ} (ok : s.request id r = .ok step)
      (told : e ∈ step.2) : False := by
    rw [isFarewell_of_relayed (request_relayed h ok) told] at farewell
    cases farewell
  cases op with
  | opened => cases he
  | handle id r =>
    cases asked : s.request id r with
    | ok step =>
      have told : e ∈ (s.handle id r).2 := he
      rw [handle_of_ok asked] at told
      exact (granted asked told).elim
    | error why =>
      have performed : (s.perform (.handle id r)).2 = why.effects id :=
        congrArg Prod.snd (handle_of_error asked)
      rw [performed] at he ⊢
      have closes : why.closes = true := by
        by_contra harmless
        rw [Refusal.effects, if_neg harmless] at he
        cases he
      obtain ⟨name, ready, rfl⟩ := exists_intro_of_closes asked closes
      exact ⟨id, name, ready, why, rfl, asked, by rw [Refusal.effects, if_pos closes]⟩
  | request id r =>
    unfold perform at he
    split at he
    · rename_i step ok
      exact (granted ok he).elim
    · cases he
  | serverChat text =>
    have told : e ∈ Session.serverChat text := he
    rcases serverChat_cases text with eq | eq <;> rw [eq] at told
    · cases told
    · rw [List.mem_singleton.mp told] at farewell
      cases farewell
  | disconnect id =>
    have told : e ∈ (s.disconnect id).2 := he
    rw [isFarewell_of_relayed (disconnect_relayed h id) told] at farewell
    cases farewell

/-! ## Runs -/

/-- In the effects of a run from the beginning, the milestones are `started`, `entered` and `ended`
in this order, as far as they have come. Every effect that `isPlay` comes behind `started` and
before `ended`, and behind `ended` there are only asides. For every next operation `ended` is the
last effect, a farewell is all there is and answers a refused `intro`, and neither phase goes back.
-/
theorem milestones_in_order_of_run [Dice δ] (expected : Nat) (dice : δ) (ops : List Op) :
    let s := ((Session.new expected dice).run ops).1
    let told := ((Session.new expected dice).run ops).2
    (∃ roster, milestones told <+: [.started, .entered roster, .ended]) ∧
      (∀ before e after, told = before ++ e :: after →
        (e.isPlay = true → .started ∈ before ∧ .ended ∉ before) ∧
        (e = .ended → ∀ f ∈ after, f.isTalk = true ∨ f.isFarewell = true)) ∧
      ∀ op,
        (.ended ∈ (s.perform op).2 → (s.perform op).2.getLast? = some .ended) ∧
        (∀ e ∈ (s.perform op).2, e.isFarewell = true →
          ∃ id name ready why, op = .handle id (.intro name ready) ∧
            s.request id (.intro name ready) = .error why ∧
            (s.perform op).2 = [.unicast id (.disconnected why.message), .close id]) ∧
        s.connection.rank ≤ (s.perform op).1.connection.rank ∧
        s.game.rank ≤ (s.perform op).1.game.rank := by
  have fresh := Orderly.new expected dice
  have orderly := fresh.run ops
  have whole : Transcript .pending ((Session.new expected dice).run ops).2
      ((Session.new expected dice).run ops).1.game := run_transcript fresh ops
  refine ⟨whole.milestones_prefix, ?_, ?_⟩
  · intro before e after eq
    rw [eq] at whole
    obtain ⟨g, first, second⟩ := whole.cut
    cases second with
    | cons said rest =>
      constructor
      · intro play
        have playing := said.playing_of_isPlay play
        constructor
        · refine first.started_mem ?_
          rcases playing with rfl | rfl <;> simp
        · intro ended
          rw [first.gameOver_of_ended_mem ended] at playing
          simp at playing
      · rintro rfl f hf
        obtain ⟨-, rfl⟩ := said.phases_of_ended
        exact Bool.or_eq_true_iff.mp (rest.isAside_of_gameOver f hf)
  · intro op
    exact ⟨perform_final _ op, fun e he => intro_of_farewell orderly he,
      connection_le_perform orderly op, (perform_transcript orderly op).rank_le⟩

end Session

end Skirmish
