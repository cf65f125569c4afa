import Skirmish.Session

/-!
# News

Talk is `chat`, `playerList` and `playerStats`. The `news` of an operation are the effects with any
other notice: the start, phases, turns, healths and dismissals. What a client believes of the game
comes from news only.

`PhaseNews` is the news of a change of phase.
-/

namespace Skirmish

/-- `chooseJob` and `act`, the requests that the holder of the turn makes. -/
def Request.isMove : Request → Bool
  | .chooseJob _ | .act .. => true
  | .intro .. | .ready | .unready | .listPlayers | .listStats | .chat _ => false

/-- `listPlayers`, `listStats` and `chat`, which never change the session. -/
def Request.isTalk : Request → Bool
  | .listPlayers | .listStats | .chat _ => true
  | .intro .. | .ready | .unready | .chooseJob _ | .act .. => false

/-! ## Talk and news -/

/-- `chat`, `playerList` and `playerStats`, which never change a `View`. -/
def Notice.isTalk : Notice → Bool
  | .chat _ | .playerList _ | .playerStats _ => true
  | .gameStarted | .takeTurn | .phaseChanged .. | .healthChanged .. | .disconnected _ => false

/-- All but `gameStarted`, `phaseChanged` and `healthChanged`, which tell of players and go to
everybody. -/
def Notice.isPersonal : Notice → Bool
  | .gameStarted | .phaseChanged .. | .healthChanged .. => false
  | .chat _ | .playerList _ | .playerStats _ | .takeTurn | .disconnected _ => true

theorem Notice.isPersonal_of_isTalk {n : Notice} (talk : n.isTalk = true) :
    n.isPersonal = true := by
  cases n <;> first | rfl | cases talk

namespace Effect

/-- The effect sends a notice that is talk. -/
def isTalk : Effect → Bool
  | .broadcast notice | .unicast _ notice => notice.isTalk
  | .close _ => false

/-- The effect is a `broadcast` of `healthChanged`. -/
def isHealth : Effect → Bool
  | .broadcast (.healthChanged ..) => true
  | _ => false

@[simp] theorem isTalk_broadcast (n : Notice) : (broadcast n).isTalk = n.isTalk := rfl

@[simp] theorem isTalk_unicast (id : PlayerId) (n : Notice) :
    (unicast id n).isTalk = n.isTalk := rfl

@[simp] theorem isTalk_close (id : PlayerId) : (close id).isTalk = false := rfl

@[simp] theorem isTalk_announce (text : String) : (announce text).isTalk = true := rfl

end Effect

/-- The `effects` that are not talk. -/
def news (effects : List Effect) : List Effect :=
  effects.filter (!·.isTalk)

@[simp] theorem news_nil : news [] = [] := rfl

@[simp] theorem news_append (a b : List Effect) : news (a ++ b) = news a ++ news b :=
  List.filter_append a b

@[simp] theorem news_cons (e : Effect) (rest : List Effect) :
    news (e :: rest) = if e.isTalk then news rest else e :: news rest := by
  cases h : e.isTalk <;> simp [news, h]

@[simp] theorem news_waiting {δ : Type} (s : Session δ) : news s.waiting = [] := by
  unfold Session.waiting
  split <;> simp

/-! ## Phases -/

/-- `PhaseNews g h phases`: `phases` are the effects that tell of the phases from `g` to `h`. -/
inductive PhaseNews : GamePhase → GamePhase → List Effect → Prop
  | stay (g : GamePhase) : PhaseNews g g []
  | start {g : GamePhase} {later : List Effect} (rest : PhaseNews .characterSelect g later) :
      PhaseNews .pending g (.broadcast .gameStarted :: later)
  | enter {g : GamePhase} {later : List Effect} (roster : List Snapshot)
      (rest : PhaseNews .main g later) :
      PhaseNews .characterSelect g (.broadcast (.phaseChanged .main (some roster)) :: later)
  | finish : PhaseNews .main .gameOver [.broadcast (.phaseChanged .gameOver none)]

/-- `gameOver` is the last phase. -/
theorem PhaseNews.eq_gameOver {g : GamePhase} {phases : List Effect}
    (h : PhaseNews .gameOver g phases) : g = .gameOver := by
  cases h
  rfl

/-- All effects of `PhaseNews` are broadcasts. -/
theorem PhaseNews.broadcast_of_mem {g h : GamePhase} {phases : List Effect} {e : Effect}
    (told : PhaseNews g h phases) (he : e ∈ phases) : ∃ n, e = .broadcast n := by
  induction told with
  | stay => cases he
  | start _ ih | enter _ _ ih =>
    rcases List.mem_cons.mp he with rfl | later
    · exact ⟨_, rfl⟩
    · exact ih later
  | finish => exact ⟨_, List.mem_singleton.mp he⟩

namespace GamePhase

@[simp] theorem advance_gameOver (g : GamePhase) : g.advance .gameOver = .gameOver := by
  cases g <;> rfl

@[simp] theorem advance_pending (g : GamePhase) : pending.advance g = g := by
  cases g <;> rfl

/-- `pending` is the first phase. -/
theorem eq_pending_of_rank_le {g : GamePhase} (h : g.rank ≤ pending.rank) : g = .pending := by
  cases g <;> first | rfl | exact absurd h (by decide)

end GamePhase

namespace ConnectionPhase

@[simp] theorem advance_inProgress (c : ConnectionPhase) : c.advance .inProgress = .inProgress := by
  cases c <;> rfl

/-- `advance` leads to `inProgress` only from there, unless it is the phase proposed. -/
theorem advance_eq_inProgress_iff {c next : ConnectionPhase} (h : next ≠ .inProgress) :
    c.advance next = .inProgress ↔ c = .inProgress := by
  cases c <;> cases next <;> simp_all [advance, rank]

end ConnectionPhase

end Skirmish
