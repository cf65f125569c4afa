import Mathlib.Algebra.Group.Action.Defs
import Mathlib.Algebra.Order.BigOperators.Group.List
import Mathlib.Algebra.Order.Ring.Nat
import Skirmish.Proofs.Session.Healths
import Skirmish.Proofs.Session.Overlong
import Skirmish.Proofs.Session.Start

/-!
# What fits in a packet

Three kinds of notice quote a text of any length: a chat line, a server line and the refusal of a
name (`Quotes`). With `expected ≤ 104` every other notice of every operation encodes into at most
`Rules.maxPacketBytes` bytes.

The longest have a row for each player. A name takes 33 bytes at most and a health 5, so a row of
`playerStats` takes 39, and 105 rows can exceed the limit by one byte. A snapshot takes one byte
more than a row, but is sent on entering `main`, when every health is a single byte
(`Roster.Unhurt`).

Results:

* `Roster.sendable_playerList`, `Roster.sendable_playerStats`, `Roster.sendable_snapshots`: notices
  with a row for each player;
* `request_fits`, `disconnect_fits`: the notices of operations;
* `quotes_or_encode_ok_of_run`: every notice of any run encodes or is one of `Quotes`.
-/

namespace Skirmish

/-! ## Sizes -/

namespace Wire

theorem textSize_name_le {name : String} (valid : PlayerName.isValid name = true) :
    textSize name ≤ 33 := by
  have short := PlayerName.utf8ByteSize_le valid
  unfold textSize Varint.size
  rw [if_pos (by omega)]
  omega

theorem healthSize_le (h : Int32) : healthSize h ≤ 5 := by
  have low := h.le_toInt
  have high := h.toInt_lt
  have folded := zigZag_lt (by omega) (by omega : h.toInt < 0x80000000)
  unfold healthSize Varint.size
  rw [if_pos folded]
  split
  · decide
  · split <;> decide

theorem listSize_le {α : Type} {xs : List α} {size : α → Nat} {row : Nat}
    (each : ∀ x ∈ xs, size x ≤ row) (few : xs.length ≤ 104) :
    listSize (xs.map size) ≤ 1 + 104 * row := by
  have sum := List.sum_le_card_nsmul (xs.map size) row (List.forall_mem_map.mpr each)
  rw [List.length_map, smul_eq_mul] at sum
  have all : xs.length * row ≤ 104 * row := Nat.mul_le_mul_right row few
  have count : Varint.size (xs.map size).length = 1 := by
    rw [List.length_map]
    exact if_pos (by omega)
  rw [listSize, count]
  omega

end Wire

namespace Roster

variable {r : Roster} {p : Player}

theorem textSize_le (hp : p ∈ r.players) : Wire.textSize p.name ≤ 33 :=
  Wire.textSize_name_le (r.names_valid p hp)

theorem sendable_playerList (few : r.players.length ≤ 104) :
    Wire.Sendable (Notice.playerList (r.players.map fun p => (p.name, p.ready))) := by
  have each : ∀ p ∈ r.players, Wire.textSize p.name + 1 ≤ 34 := fun p hp =>
    Nat.succ_le_succ (textSize_le hp)
  have rows := Wire.listSize_le each few
  rw [Wire.sendable_notice_iff, Notice.size, List.map_map]
  exact (Nat.add_le_add_left rows 1).trans (by decide)

theorem sendable_playerStats (few : r.players.length ≤ 104) :
    Wire.Sendable (Notice.playerStats (r.players.map fun p => (p.name, p.job, p.health))) := by
  have each : ∀ p ∈ r.players, Wire.textSize p.name + 1 + Wire.healthSize p.health ≤ 39 := by
    intro p hp
    have name := textSize_le hp
    have health := Wire.healthSize_le p.health
    omega
  have rows := Wire.listSize_le each few
  rw [Wire.sendable_notice_iff, Notice.size, List.map_map]
  exact (Nat.add_le_add_left rows 1).trans (by decide)

/-- With one player more there can be a byte too many. -/
example :
    let name := "abcdefghijklmnopqrstuvwxyzabcdef"
    PlayerName.isValid name = true ∧
      (Notice.playerStats (List.replicate 104 (name, .wizard, 100000))).size = 4058 ∧
      (Notice.playerStats (List.replicate 105 (name, .wizard, 100000))).size = 4097 := by
  decide +kernel

theorem sendable_snapshots (few : r.players.length ≤ 104) (unhurt : r.Unhurt) :
    Wire.Sendable (Notice.phaseChanged .main (some r.snapshots)) := by
  have each : ∀ p ∈ r.players, p.snapshot.size ≤ 36 := by
    intro p hp
    have name := textSize_le hp
    have health : Wire.healthSize p.health = 1 := by
      have known : p.health = 100 ∨ p.health = 0 :=
        (unhurt _ (condition_mem hp)).imp (congrArg Condition.health ·)
          (congrArg Condition.health ·)
      rcases known with eq | eq <;> rw [eq] <;> decide
    show Wire.textSize p.name + Wire.healthSize p.health + 2 ≤ 36
    omega
  have rows := Wire.listSize_le each few
  rw [Wire.sendable_notice_iff, Notice.size, snapshots, List.map_map]
  exact (Nat.add_le_add_left rows 3).trans (by decide)

theorem sendable_healthChanged (hp : p ∈ r.players) (health : Int32) :
    Wire.Sendable (Notice.healthChanged p.name health) := by
  have name := textSize_le hp
  have bytes := Wire.healthSize_le health
  rw [Wire.sendable_notice_iff, Notice.size]
  omega

theorem utf8ByteSize_name_le (hp : p ∈ r.players) : p.name.utf8ByteSize ≤ 32 :=
  PlayerName.utf8ByteSize_le (r.names_valid p hp)

end Roster

/-! ## Effects -/

/-- Every notice in `effects`, to any connection, is `Wire.Sendable`. -/
def Fit (effects : List Effect) : Prop :=
  ∀ j, ∀ n ∈ noticesFor j effects, Wire.Sendable n

namespace Fit

variable {effects more : List Effect} {n : Notice}

theorem nil : Fit [] := fun _ _ told => nomatch told

theorem append (first : Fit effects) (second : Fit more) : Fit (effects ++ more) := by
  intro j n told
  rw [noticesFor_append, List.mem_append] at told
  exact told.elim (first j n) (second j n)

theorem broadcast (sendable : Wire.Sendable n) (rest : Fit effects) :
    Fit (.broadcast n :: effects) := by
  intro j m told
  rcases List.mem_cons.mp told with rfl | later
  · exact sendable
  · exact rest j m later

theorem unicast {id : PlayerId} (sendable : Wire.Sendable n) (rest : Fit effects) :
    Fit (.unicast id n :: effects) := by
  intro j m told
  rw [noticesFor_unicast] at told
  split at told
  · rcases List.mem_cons.mp told with rfl | later
    · exact sendable
    · exact rest j m later
  · exact rest j m told

theorem announce {line : String} (short : line.utf8ByteSize ≤ 4000) (rest : Fit effects) :
    Fit (.announce line :: effects) :=
  .broadcast (Wire.sendable_serverLine short) rest

end Fit

theorem sendable_takeTurn : Wire.Sendable Notice.takeTurn :=
  Wire.sendable_notice_iff.mpr (by decide)

theorem sendable_gameOver : Wire.Sendable (Notice.phaseChanged .gameOver none) :=
  Wire.sendable_notice_iff.mpr (by decide)

/-- A line of a name and at most 200 bytes more takes at most 4000 bytes. -/
theorem short_line {name rest : String} (named : name.utf8ByteSize ≤ 32)
    (few : rest.utf8ByteSize ≤ 200) : (name ++ rest).utf8ByteSize ≤ 4000 := by
  rw [String.utf8ByteSize_append]
  omega

theorem Action.utf8ByteSize_describe_le {actor target : String} (action : Action) (delta : Int32)
    (acts : actor.utf8ByteSize ≤ 32) (suffers : target.utf8ByteSize ≤ 32) :
    (action.describe actor target delta).utf8ByteSize ≤ 4000 := by
  have low := delta.le_toInt
  have high := delta.toInt_lt
  have number := utf8ByteSize_toString_le (n := delta.toInt.natAbs) (by omega)
  have verb : action.verb.utf8ByteSize ≤ 17 := by cases action <;> decide
  have blank : " ".utf8ByteSize = 1 := rfl
  have amount : " for ".utf8ByteSize = 5 := rfl
  simp only [describe, String.utf8ByteSize_append, blank, amount]
  omega

namespace Session

variable {δ : Type} {s u : Session δ} {id : PlayerId} {step : Step δ}

/-! ## Passing the turn -/

theorem finish_fits (s : Session δ) (r : Roster) : Fit (s.finish r.survivor?).2 := by
  unfold finish Roster.survivor?
  refine .announce ?_ (.broadcast sendable_gameOver .nil)
  cases found : r.players.find? (·.alive) with
  | none => decide
  | some p =>
    exact short_line (Roster.utf8ByteSize_name_le (List.mem_of_find?_eq_some found)) (by decide)

theorem advanceMain_fits (s : Session δ) : Fit s.advanceMain.2 := by
  rcases s.advanceMain_cases with ⟨p, hp, -, -, -, eq⟩ | ⟨-, eq⟩ <;> rw [eq]
  · refine .announce ?_ (.unicast sendable_takeTurn .nil)
    exact short_line (Roster.utf8ByteSize_name_le hp) (by decide)
  · exact finish_fits s s.roster

theorem startMain_fits (few : s.roster.players.length ≤ 104) (unhurt : s.roster.Unhurt) :
    Fit s.startMain.2 :=
  .broadcast (Roster.sendable_snapshots few unhurt) (advanceMain_fits _)

theorem advanceSelect_fits (few : s.roster.players.length ≤ 104) (unhurt : s.roster.Unhurt) :
    Fit s.advanceSelect.2 := by
  rcases s.turns.advanceSelect_cases s.roster with ⟨p, -, -, -, eq⟩ | eq <;>
    simp only [advanceSelect, eq]
  · exact .unicast sendable_takeTurn .nil
  · exact startMain_fits few unhurt

theorem afterForfeit_fits (few : u.roster.players.length ≤ 104)
    (unhurt : u.game = .characterSelect → u.roster.Unhurt) (id : PlayerId) :
    Fit (u.afterForfeit id).2 := by
  unfold afterForfeit
  split
  · rename_i select
    split
    · exact advanceSelect_fits few (unhurt select)
    · exact .nil
  · split
    · exact advanceMain_fits u
    · split
      · exact finish_fits u u.roster
      · exact .nil
  · exact .nil
  · exact .nil

/-! ## Operations -/

/-- The invariant: at most 104 seats, and `Roster.Unhurt` before `main`. -/
structure Brief (s : Session δ) : Prop where
  few : s.roster.capacity ≤ 104
  unhurt : s.Early → s.roster.Unhurt

theorem Brief.length_update (h : s.Brief) (id : PlayerId) (f : Standing → Standing) :
    (s.roster.update id f).players.length ≤ 104 := by
  have room := (s.roster.update id f).length_le
  rw [Roster.capacity_update] at room
  exact room.trans h.few

theorem Brief.length_le (h : s.Brief) : s.roster.players.length ≤ 104 :=
  s.roster.length_le.trans h.few

theorem setReady_fits {ready : Bool} (ok : s.setReady id ready = .ok step) : Fit step.2 := by
  obtain ⟨-, p, started, found, may, rfl⟩ := setReady_tells ok
  have named := Roster.utf8ByteSize_name_le (Roster.mem_of_get? found)
  exact .announce (short_line named (by cases ready <;> decide)) fun _ _ => may.sendable

theorem disconnect_fits (h : s.Brief) (id : PlayerId) : Fit (s.disconnect id).2 := by
  rcases s.disconnect_cases id with ⟨eq, -⟩ | ⟨p, found, ⟨-, eq⟩ | ⟨-, -, -, eq⟩⟩ <;> rw [eq]
  · exact .nil
  · have named := Roster.utf8ByteSize_name_le (Roster.mem_of_get? found)
    have small : (s.left id).roster.capacity < 2 ^ 64 :=
      Nat.lt_of_le_of_lt h.few (by decide)
    exact .announce (short_line named (by decide)) fun _ _ => sendable_waiting small
  · have hp := Roster.mem_of_get? found
    refine .announce (short_line (Roster.utf8ByteSize_name_le hp) (by decide)) ?_
    refine .broadcast (Roster.sendable_healthChanged hp _) ?_
    exact afterForfeit_fits (u := s.forfeited id) (h.length_update id Standing.forfeit)
      (fun select => (h.unhurt (.inr select)).forfeit id) id

variable [Dice δ]

/-- The effects of a granted request other than `chat` are `Fit`. -/
theorem request_fits (h : s.Brief) {r : Request} (silent : ∀ text, r ≠ .chat text)
    (ok : s.request id r = .ok step) : Fit step.2 := by
  cases r with
  | intro name ready =>
    have small : s.roster.capacity < 2 ^ 64 := Nat.lt_of_le_of_lt h.few (by decide)
    exact fun _ _ => sendable_register small ok
  | ready | unready => exact setReady_fits ok
  | listPlayers =>
    obtain ⟨-, rfl⟩ := playerList_eq_ok_iff.mp ok
    exact .unicast (Roster.sendable_playerList h.length_le) .nil
  | listStats =>
    obtain ⟨-, rfl⟩ := playerStats_eq_ok_iff.mp ok
    exact .unicast (Roster.sendable_playerStats h.length_le) .nil
  | chat text => exact absurd rfl (silent text)
  | chooseJob job =>
    obtain ⟨select, -, -, p, found, rfl⟩ := chooseJob_eq_ok_iff.mp ok
    have named := Roster.utf8ByteSize_name_le (Roster.mem_of_get? found)
    have line : (p.name ++ " has chosen to be a " ++ job.title).utf8ByteSize ≤ 4000 := by
      rw [String.append_assoc]
      exact short_line named (by cases job <;> decide)
    -- the choice may begin the main phase, but it hurts nobody
    have same : (s.roster.update id ({ · with job, ready := true })).conditions =
        s.roster.conditions := Roster.conditions_update_of_keeps fun _ => rfl
    have unhurt : (s.roster.update id ({ · with job, ready := true })).Unhurt := by
      rw [Roster.Unhurt, same]
      exact h.unhurt (.inr select)
    exact .announce line (advanceSelect_fits (h.length_update id _) unhurt)
  | act action name =>
    obtain ⟨-, -, actor, other, p, acts, -, suffers, rfl⟩ := takeAction_eq_ok_iff.mp ok
    have hp := Roster.mem_of_get? suffers
    refine .announce ?_ (.broadcast (Roster.sendable_healthChanged hp _) (advanceMain_fits _))
    exact action.utf8ByteSize_describe_le _
      (Roster.utf8ByteSize_name_le (Roster.mem_of_get? acts)) (Roster.utf8ByteSize_name_le hp)

/-- `s.Quotes op n`: `n` quotes a text that `op` brings. It is the chat line of a registered player,
the line of `serverChat`, or the `invalidName` refusal of an `intro`. -/
inductive Quotes (s : Session δ) : Op → Notice → Prop
  | said {op : Op} {id : PlayerId} {text : String} {p : Player}
      (asked : op = .handle id (.chat text) ∨ op = .request id (.chat text))
      (found : s.roster.get? id = some p) : Quotes s op (.chat (p.name ++ ": " ++ text))
  | console {text : String} : Quotes s (.serverChat text) (.serverLine text)
  | turnedAway {id : PlayerId} {name : String} {ready : Bool}
      (refused : s.request id (.intro name ready) = .error (.roster (.invalidName name))) :
      Quotes s (.handle id (.intro name ready)) (.disconnected ("Invalid name '" ++ name ++ "'"))

theorem chat_quotes {op : Op} {text : String}
    (asked : op = .handle id (.chat text) ∨ op = .request id (.chat text))
    (ok : s.request id (.chat text) = .ok step) {j : PlayerId} {n : Notice}
    (told : n ∈ noticesFor j step.2) : s.Quotes op n := by
  obtain ⟨p, found, rfl⟩ := chat_eq_ok_iff.mp ok
  split at told
  · cases told
  · rw [List.mem_singleton.mp told]
    exact .said asked found

/-- The `disconnected` notice of a refusal is `Wire.Sendable`, unless it is that of `invalidName`.
-/
theorem refusal_fits_or_quotes {r : Request} {why : Refusal}
    (refused : s.request id r = .error why) {j : PlayerId} {n : Notice}
    (told : n ∈ noticesFor j (why.effects id)) : s.Quotes (.handle id r) n ∨ Wire.Sendable n := by
  by_cases closes : why.closes = true
  · obtain ⟨name, ready, rfl⟩ := exists_intro_of_closes refused closes
    have short (fits : why.message.utf8ByteSize ≤ 4092) : Wire.Sendable n :=
      (sendable_refusal_iff why).mpr (fun _ _ => fits) n told
    rcases register_eq_error_iff.mp refused with ⟨-, rfl⟩ | ⟨-, reason, unseated, rfl⟩
    · exact .inr (short (by decide))
    · rcases Roster.register_error_cases unseated with
        ⟨rfl, -⟩ | ⟨rfl, -⟩ | ⟨rfl, -⟩ | ⟨rfl, valid⟩
      · cases closes
      · exact .inr (short (by decide))
      · left
        rw [Refusal.effects, if_pos closes, noticesFor_unicast] at told
        split at told
        · rw [List.mem_singleton.mp told]
          exact .turnedAway refused
        · cases told
      · have named := PlayerName.utf8ByteSize_le valid
        have size := utf8ByteSize_nameTaken name
        exact .inr (short (by omega))
  · rw [Refusal.effects, if_neg closes] at told
    cases told

theorem asked_fits_or_quotes (h : s.Brief) {op : Op} {r : Request}
    (asked : op = .handle id r ∨ op = .request id r) (ok : s.request id r = .ok step)
    {j : PlayerId} {n : Notice} (told : n ∈ noticesFor j step.2) :
    s.Quotes op n ∨ Wire.Sendable n := by
  by_cases talks : ∃ text, r = .chat text
  · obtain ⟨text, rfl⟩ := talks
    exact .inl (chat_quotes asked ok told)
  · exact .inr (request_fits h (fun text eq => talks ⟨text, eq⟩) ok j n told)

/-- Every notice of an operation on a `Brief` session is `Wire.Sendable` or one of `Quotes`. -/
theorem perform_fits_or_quotes (h : s.Brief) (op : Op) {j : PlayerId} {n : Notice}
    (told : n ∈ noticesFor j (s.perform op).2) : s.Quotes op n ∨ Wire.Sendable n := by
  cases op with
  | opened => cases told
  | handle id r =>
    cases outcome : s.request id r with
    | ok step =>
      rw [perform_of_ok (.inl rfl) outcome] at told
      exact asked_fits_or_quotes h (.inl rfl) outcome told
    | error why =>
      have refusal : s.perform (.handle id r) = (s, why.effects id) := handle_of_error outcome
      rw [refusal] at told
      exact refusal_fits_or_quotes outcome told
  | request id r =>
    cases outcome : s.request id r with
    | ok step =>
      rw [perform_of_ok (.inr rfl) outcome] at told
      exact asked_fits_or_quotes h (.inr rfl) outcome told
    | error why =>
      simp only [perform, attempt, outcome] at told
      cases told
  | serverChat text =>
    have said : n ∈ noticesFor j (Session.serverChat text) := told
    rcases serverChat_cases text with eq | eq <;> rw [eq] at said
    · cases said
    · rw [List.mem_singleton.mp said]
      exact .inl .console
  | disconnect id => exact .inr (disconnect_fits h id j n told)

/-! ## Runs -/

theorem brief_run (expected : Nat) (few : expected ≤ 104) (dice : δ) (ops : List Op) :
    ((Session.new expected dice).run ops).1.Brief where
  few := (capacity_run _ ops).trans_le few
  unhurt early := (early_run expected dice ops early).2

/-- With `expected ≤ 104`, after any run and for any further operation, every notice to any
connection either is one of `Quotes` or is encoded by `encode` without an error. -/
theorem quotes_or_encode_ok_of_run (expected : Nat) (few : expected ≤ 104) (dice : δ)
    (ops : List Op) (op : Op) (j : PlayerId) :
    let s := ((Session.new expected dice).run ops).1
    ∀ n ∈ noticesFor j (s.perform op).2,
      s.Quotes op n ∨ ∃ bytes, Wire.encode n = .ok bytes ∧ bytes.length ≤ 4096 := by
  intro s n told
  refine (perform_fits_or_quotes (brief_run expected few dice ops) op told).imp_right ?_
  rintro ⟨bytes, encoded⟩
  obtain ⟨rfl, small⟩ := Wire.encode_eq_ok_iff.mp encoded
  exact ⟨_, encoded, small⟩

/-- The characters of name number `k` of a crowd. -/
def crowdChars (k : Nat) : List Char :=
  Char.ofNat (0x1F300 + k) :: List.replicate 7 (Char.ofNat 0x1F3B2)

/-- Name number `k` of a crowd: eight characters of four bytes, `Rules.maxNameBytes` in all. -/
def crowdName (k : Nat) : String :=
  String.ofList (crowdChars k)

theorem crowdName_inj {j k : Nat} (hj : j < 104) (hk : k < 104)
    (same : crowdName j = crowdName k) : j = k := by
  have heads : Char.ofNat (0x1F300 + j) = Char.ofNat (0x1F300 + k) :=
    (List.cons.inj (String.ofList_injective same)).1
  have distinct : ((List.range 104).map fun k => Char.ofNat (0x1F300 + k)).Nodup := by
    decide +kernel
  exact List.inj_on_of_nodup_map distinct (List.mem_range.mpr hj) (List.mem_range.mpr hk) heads

theorem isValid_crowdName {k : Nat} (hk : k < 104) : PlayerName.isValid (crowdName k) = true := by
  have first : ∀ k < 104, 0x10000 ≤ (Char.ofNat (0x1F300 + k)).toNat := by decide +kernel
  refine PlayerName.isValid_of_astral (List.cons_ne_nil _ _) (Nat.le_refl 8) fun c hc => ?_
  rcases List.mem_cons.mp hc with rfl | hc
  · exact first k hk
  · rw [List.eq_of_mem_replicate hc]
    decide

/-- The seats of a crowd, as many as `Brief` allows. -/
def crowdSeats : List (PlayerId × String) :=
  (List.range 104).map fun k => (⟨.ofNat k⟩, crowdName k)

theorem nodup_crowdNames : (crowdSeats.map (·.2)).Nodup := by
  have names : crowdSeats.map (·.2) = (List.range 104).map crowdName := by
    rw [crowdSeats, List.map_map]
    exact List.map_congr_left fun _ _ => rfl
  rw [names]
  exact List.nodup_range.map_on fun j hj k hk same =>
    crowdName_inj (List.mem_range.mp hj) (List.mem_range.mp hk) same

theorem isValid_crowdSeats : ∀ seat ∈ crowdSeats, PlayerName.isValid seat.2 = true := by
  intro seat hseat
  obtain ⟨k, hk, rfl⟩ := List.mem_map.mp hseat
  exact isValid_crowdName (List.mem_range.mp hk)

/-- The roster of `crowdSeats`, without a free seat. -/
def crowdRoster : Roster :=
  .ofSeats 104 crowdSeats (by decide +kernel) nodup_crowdNames isValid_crowdSeats
    (by simp [crowdSeats])

/-- The same request of every player of a crowd. -/
def crowdDo (r : Request) : List Op :=
  crowdSeats.map fun seat => .handle seat.1 r

/-- All players of a crowd choose jobs and heal themselves twice. -/
def crowdPlay : List Op :=
  crowdDo (.chooseJob .wizard) ++ crowdDo (.act .healRandom Rules.selfWord) ++
    crowdDo (.act .healRandom Rules.selfWord)

/-- A crowd joins and plays. -/
def crowd : List Op :=
  .opened :: (crowdSeats.map fun seat => .handle seat.1 (.intro seat.2 true)) ++ crowdPlay

/-- `crowdPlay` is all that has to be run: everybody's joining leads to `crowdRoster`. -/
theorem run_crowd (dice : δ) :
    ((Session.new 104 dice).run crowd).1 =
      (((Session.new 104 dice).opened.joined crowdRoster).tryStart.1.run crowdPlay).1 := by
  have seats : crowdSeats = (⟨0⟩, crowdName 0) :: crowdSeats.tail := rfl
  have lobby : (Session.new 104 dice).opened.connection ≠ .inProgress := by
    rintro ⟨⟩
  have all : crowdRoster.players = (Session.new 104 dice).opened.roster.players ++
      ((⟨0⟩, crowdName 0) :: crowdSeats.tail).map fun seat => .join seat.1 seat.2 true := by
    rw [← seats]
    exact (List.nil_append _).symm
  have capacity : crowdRoster.capacity = (Session.new 104 dice).opened.roster.capacity := rfl
  have joined := run_intros lobby (⟨0⟩, crowdName 0) crowdSeats.tail capacity all
  rw [← seats] at joined
  rw [crowd, fst_run_append, fst_run_opened, joined]

/-- After `crowd` the reply to `listStats` has 104 rows with a health of three bytes, 3850 bytes in
all. -/
theorem quotes_or_encode_ok_of_run_crowd :
    let s := ((Session.new 104 (⟨List.replicate 208 15⟩ : Script)).run crowd).1
    let stats := Notice.playerStats (crowdSeats.map fun seat => (seat.2, .wizard, 130))
    104 ≤ 104 ∧ noticesFor ⟨7⟩ (s.perform (.handle ⟨7⟩ .listStats)).2 = [stats] ∧
      stats.size = 3850 ∧ ∃ bytes, Wire.encode stats = .ok bytes ∧ bytes.length ≤ 4096 := by
  intro s stats
  have told : noticesFor ⟨7⟩ (s.perform (.handle ⟨7⟩ .listStats)).2 = [stats] := by
    have play : s = _ := run_crowd (⟨List.replicate 208 15⟩ : Script)
    rw [play]
    decide +kernel
  have size : stats.size = 3850 := by decide +kernel
  have few : 104 ≤ 104 := Nat.le_refl 104
  refine ⟨few, told, size, ?_⟩
  have fits := quotes_or_encode_ok_of_run 104 few (⟨List.replicate 208 15⟩ : Script) crowd
    (.handle ⟨7⟩ .listStats) ⟨7⟩ stats (told ▸ List.mem_singleton_self stats)
  refine fits.resolve_left fun (quotes : s.Quotes _ (.playerStats _)) => ?_
  cases quotes

end Session

end Skirmish
