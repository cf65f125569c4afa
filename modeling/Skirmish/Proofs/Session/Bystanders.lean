import Skirmish.Proofs.Session.Token

/-!
# Whoever does not have the turn

`handle` of a request whose sender does not hold the turn, while the game is `inProgress`: the
session stays as it is, and the effects are those of `Idles`. It makes no difference whether the
sender is dead, unregistered or just not the holder. A sender without a player gets no effects for
anything but an `intro`.

Results:

* `exists_player_of_ok`: only an `intro` is granted to a sender without a player;
* `handle_of_stranger`: nor does anything else have effects;
* `handle_idles`: the effects of a sender that is not the holder;
* `handle_eq_self_of_bystander`: what such a request leaves alone;
* `run_of_bystanders`: the same for any number of them.
-/

namespace Skirmish

/-- Whether the notice is `gameStarted`, `phaseChanged`, `takeTurn` or `healthChanged`. -/
def Notice.isOfGame : Notice → Bool
  | .gameStarted | .phaseChanged .. | .takeTurn | .healthChanged .. => true
  | .chat _ | .playerList _ | .playerStats _ | .disconnected _ => false

/-- Whether the notice of the effect `isOfGame`; `close` has none. -/
def Effect.isOfGame : Effect → Bool
  | .broadcast notice | .unicast _ notice => notice.isOfGame
  | .close _ => false

namespace Session

variable {δ : Type} {s : Session δ} {id : PlayerId} {r : Request} {told : List Effect}

/-! ## What comes of a request -/

/-- `s.Idles id r told`: the effects of a request of `id` that is not the holder. They are none, the
`Server full` refusal of an `intro`, the rows of `listPlayers` or `listStats` to `id`, or the
broadcast of a chat line. -/
inductive Idles (s : Session δ) (id : PlayerId) (r : Request) : List Effect → Prop
  | silent : Idles s id r []
  | turnedAway {name : String} {ready : Bool} (knocks : r = .intro name ready) :
      Idles s id r [.unicast id (.disconnected "Server full"), .close id]
  | lists (asks : r = .listPlayers) :
      Idles s id r [.unicast id (.playerList (s.roster.players.map fun p => (p.name, p.ready)))]
  | counts (asks : r = .listStats) :
      Idles s id r
        [.unicast id (.playerStats (s.roster.players.map fun p => (p.name, p.job, p.health)))]
  | speaks {p : Player} {text : String} (found : s.roster.get? id = some p)
      (line : r = .chat text) : Idles s id r [.broadcast (.chat (p.name ++ ": " ++ text))]

namespace Idles

theorem isOfGame (h : s.Idles id r told) : ∀ e ∈ told, e.isOfGame = false := by
  cases h <;> simp [Effect.isOfGame, Notice.isOfGame]

theorem eq_of_broadcast (h : s.Idles id r told) {n : Notice} (all : .broadcast n ∈ told) :
    ∃ p text, s.roster.get? id = some p ∧ r = .chat text ∧ n = .chat (p.name ++ ": " ++ text) := by
  cases h with
  | speaks found line =>
    obtain ⟨rfl⟩ := List.mem_singleton.mp all
    exact ⟨_, _, found, line, rfl⟩
  | silent | turnedAway | lists | counts => simp at all

theorem eq_of_unicast (h : s.Idles id r told) {who : PlayerId} {n : Notice}
    (one : .unicast who n ∈ told) : who = id := by
  cases h with
  | silent | speaks => simp at one
  | turnedAway | lists | counts =>
    rw [List.mem_cons, Effect.unicast.injEq] at one
    rcases one with ⟨same, -⟩ | behind
    · exact same
    · simp at behind

theorem eq_of_close (h : s.Idles id r told) {who : PlayerId} (drops : .close who ∈ told) :
    who = id := by
  cases h with
  | silent | speaks | lists | counts => simp at drops
  | turnedAway => simpa using drops

end Idles

variable [Dice δ]

/-! ## Those who have not joined -/

/-- A granted request is an `intro`, or its sender has a player. -/
theorem exists_player_of_ok {step : Step δ} (ok : s.request id r = .ok step) :
    (∃ name ready, r = .intro name ready) ∨ ∃ p, s.roster.get? id = some p := by
  cases r with
  | intro name ready => exact .inl ⟨name, ready, rfl⟩
  | ready | unready =>
    obtain ⟨-, p, found, -⟩ := setReady_eq_ok_iff.mp ok
    exact .inr ⟨p, found⟩
  | listPlayers => exact .inr (playerList_eq_ok_iff.mp ok).1
  | listStats => exact .inr (playerStats_eq_ok_iff.mp ok).1
  | chat text =>
    obtain ⟨p, found, -⟩ := chat_eq_ok_iff.mp ok
    exact .inr ⟨p, found⟩
  | chooseJob job =>
    obtain ⟨-, -, -, p, found, -⟩ := chooseJob_eq_ok_iff.mp ok
    exact .inr ⟨p, found⟩
  | act action name =>
    obtain ⟨-, -, actor, -, -, found, -⟩ := takeAction_eq_ok_iff.mp ok
    exact .inr ⟨actor, found⟩

/-- A refusal of anything but an `intro` has no effects. -/
theorem handle_of_refused {why : Refusal} (refused : s.request id r = .error why)
    (other : ∀ name ready, r ≠ .intro name ready) : s.handle id r = (s, []) := by
  rw [handle_of_error refused, Refusal.effects, if_neg]
  intro closes
  obtain ⟨name, ready, eq⟩ := exists_intro_of_closes refused closes
  exact other name ready eq

/-- A request other than `intro` of a sender without a player keeps the session and has no effects.
-/
theorem handle_of_stranger (unknown : s.roster.get? id = none)
    (other : ∀ name ready, r ≠ .intro name ready) : s.handle id r = (s, []) := by
  cases asked : s.request id r with
  | error why => exact handle_of_refused asked other
  | ok step =>
    rcases exists_player_of_ok asked with ⟨name, ready, eq⟩ | ⟨p, found⟩
    · exact absurd eq (other name ready)
    · rw [unknown] at found
      cases found

/-! ## Those without the turn -/

/-- In a game, a granted request of whoever is not the holder keeps the session and `Idles`. -/
theorem idles_of_ok (started : s.connection = .inProgress) (other : s.turns.holder ≠ some id)
    {step : Step δ} (ok : s.request id r = .ok step) : step.1 = s ∧ s.Idles id r step.2 := by
  cases r with
  | intro name ready => exact absurd started (register_eq_ok_iff.mp ok).1
  | ready | unready => exact absurd started (setReady_eq_ok_iff.mp ok).1
  | listPlayers =>
    obtain ⟨-, rfl⟩ := playerList_eq_ok_iff.mp ok
    exact ⟨rfl, .lists rfl⟩
  | listStats =>
    obtain ⟨-, rfl⟩ := playerStats_eq_ok_iff.mp ok
    exact ⟨rfl, .counts rfl⟩
  | chat text =>
    obtain ⟨p, found, rfl⟩ := chat_eq_ok_iff.mp ok
    split
    · exact ⟨rfl, .silent⟩
    · exact ⟨rfl, .speaks found rfl⟩
  | chooseJob job => exact absurd (chooseJob_eq_ok_iff.mp ok).2.2.1 other
  | act action name => exact absurd (takeAction_eq_ok_iff.mp ok).2.1 other

/-- In a game, any request of whoever is not the holder keeps the session and `Idles`. -/
theorem handle_idles (started : s.connection = .inProgress) (other : s.turns.holder ≠ some id)
    (r : Request) : ∃ told, s.handle id r = (s, told) ∧ s.Idles id r told := by
  cases asked : s.request id r with
  | ok step =>
    obtain ⟨same, idles⟩ := idles_of_ok started other asked
    exact ⟨step.2, (handle_of_ok asked).trans (Prod.ext same rfl), idles⟩
  | error why =>
    by_cases knocks : ∃ name ready, r = .intro name ready
    · obtain ⟨name, ready, rfl⟩ := knocks
      have full : s.request id (.intro name ready) = .error (.roster .full) := if_pos started
      exact ⟨_, handle_of_error full, .turnedAway rfl⟩
    · rw [not_exists] at knocks
      exact ⟨[], handle_of_refused asked fun name ready eq => knocks name ⟨ready, eq⟩, .silent⟩

/-- In any state. While the game is `inProgress`, `handle` of a request whose sender is not the
holder keeps the whole session and has no effect that `isOfGame`; a broadcast is the chat line of
the sender, and every `unicast` and `close` goes to the sender. In any phase, a sender without a
player changes nothing and gets no effects, but for an `intro`. -/
theorem handle_eq_self_of_bystander (s : Session δ) (id : PlayerId) (r : Request) :
    (s.connection = .inProgress → s.turns.holder ≠ some id →
      (s.handle id r).1 = s ∧
      (∀ e ∈ (s.handle id r).2, e.isOfGame = false) ∧
      (∀ n, .broadcast n ∈ (s.handle id r).2 → ∃ p text, s.roster.get? id = some p ∧
        r = .chat text ∧ n = .chat (p.name ++ ": " ++ text)) ∧
      ∀ who, ((∃ n, .unicast who n ∈ (s.handle id r).2) ∨ .close who ∈ (s.handle id r).2) →
        who = id) ∧
    (s.roster.get? id = none → (∀ name ready, r ≠ .intro name ready) →
      s.handle id r = (s, [])) := by
  refine ⟨fun started other => ?_, handle_of_stranger⟩
  obtain ⟨told, eq, idles⟩ := handle_idles started other r
  rw [eq]
  refine ⟨rfl, idles.isOfGame, fun n => idles.eq_of_broadcast, ?_⟩
  rintro who (⟨n, one⟩ | drops)
  · exact idles.eq_of_unicast one
  · exact idles.eq_of_close drops

/-- A game of two in `characterSelect` with the first player as holder. -/
def duel : Session Script :=
  ((Session.new 2 ⟨[]⟩).run
    [.opened, .handle ⟨1⟩ (.intro "A" true), .handle ⟨2⟩ (.intro "B" true)]).1

/-- Player 2 cannot choose a job in `duel`, and connection 3 without a player cannot get ready. -/
theorem handle_eq_self_of_bystander_duel :
    duel.connection = .inProgress ∧ duel.turns.holder ≠ some ⟨2⟩ ∧
      (duel.handle ⟨2⟩ (.chooseJob .wizard)).1 = duel ∧
      duel.roster.get? ⟨3⟩ = none ∧ duel.handle ⟨3⟩ .ready = (duel, []) := by
  have started : duel.connection = .inProgress := by decide +kernel
  have other : duel.turns.holder ≠ some ⟨2⟩ := by decide +kernel
  have unknown : duel.roster.get? ⟨3⟩ = none := by decide +kernel
  have second := (handle_eq_self_of_bystander duel ⟨2⟩ (.chooseJob .wizard)).1 started other
  have third := (handle_eq_self_of_bystander duel ⟨3⟩ .ready).2 unknown nofun
  exact ⟨started, other, second.1, unknown, third⟩

/-- Any number of requests of senders that do not hold the turn keep the session, with no effect
that `isOfGame`. -/
theorem run_of_bystanders (started : s.connection = .inProgress)
    (asks : List (PlayerId × Request)) (others : ∀ ask ∈ asks, s.turns.holder ≠ some ask.1) :
    let step := s.run (asks.map fun ask => .handle ask.1 ask.2)
    step.1 = s ∧ ∀ e ∈ step.2, e.isOfGame = false := by
  induction asks with
  | nil => exact ⟨rfl, by simp [run]⟩
  | cons ask rest ih =>
    obtain ⟨told, eq, idles⟩ := handle_idles started (others ask (.head _)) ask.2
    obtain ⟨same, silent⟩ := ih fun later member => others later (.tail _ member)
    have first : s.perform (.handle ask.1 ask.2) = (s, told) := eq
    rw [List.map_cons, run, first]
    refine ⟨same, fun e member => ?_⟩
    rcases List.mem_append.mp member with now | later
    · exact idles.isOfGame e now
    · exact silent e later

end Session

end Skirmish
