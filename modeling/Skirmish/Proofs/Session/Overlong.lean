import Mathlib.Data.Nat.Digits.Defs
import Skirmish.Arena
import Skirmish.Proofs.Correspondence.Post
import Skirmish.Proofs.PlayerName
import Skirmish.Proofs.Session.Members
import Skirmish.Proofs.Session.Transcript
import Skirmish.Proofs.Wire.Packet

/-!
# Texts that are too long to be passed on

`chat` relays a text with the name in front, and a refused `intro` quotes the name in `Invalid name
'…'`. Both notices are longer than the request, and `Rules.maxPacketBytes` bounds all packets alike,
so a request may arrive whose notice does not encode (`Overlong`). The task that writes to a
connection ends at the first such notice (`Guest.receive`).

Results:

* `Guest.served_receiveAll_iff`: a guest is served iff all its notices encode;
* `Wire.sendable_chat_iff`, `Wire.sendable_disconnected_iff`: the size of a text in a notice;
* `sendable_handle_chat_iff`, `sendable_handle_intro_iff`: when the notices of a `chat` or an
  `intro` encode;
* `sendable_iff_of_run`: the same after any run, and which guests are cut off.
-/

namespace Skirmish

/-! ## Room in a packet -/

namespace Wire

/-- `encode` succeeds: the packet has at most `Rules.maxPacketBytes` bytes. -/
def Sendable {α : Type} [Packet α] (packet : α) : Prop :=
  ∃ bytes, encode packet = .ok bytes

theorem sendable_notice_iff {n : Notice} : Sendable n ↔ n.size ≤ 4096 := by
  have size : (Packet.write n).length = n.size := length_writeNotice n
  rw [← size]
  exact (travels readsBack_notice n).1

theorem sendable_request_iff {r : Request} : Sendable r ↔ r.size ≤ 4096 := by
  have size : (Packet.write r).length = r.size := length_writeRequest r
  rw [← size]
  exact (travels readsBack_request r).1

/-- The length word of a text of 251 to 65535 bytes takes three bytes. -/
theorem textSize_le_iff (text : String) (room : Nat) (some_ : 254 ≤ room) (few : room < 0x10000) :
    textSize text ≤ room ↔ text.utf8ByteSize + 3 ≤ room := by
  unfold textSize Varint.size
  split
  · omega
  · split
    · omega
    · split <;> omega

theorem sendable_chat_iff {text : String} :
    Sendable (Notice.chat text) ↔ text.utf8ByteSize ≤ 4092 := by
  have size := textSize_le_iff text 4095 (by decide) (by decide)
  rw [sendable_notice_iff, Notice.size]
  omega

theorem sendable_disconnected_iff {reason : String} :
    Sendable (Notice.disconnected reason) ↔ reason.utf8ByteSize ≤ 4092 := by
  have size := textSize_le_iff reason 4095 (by decide) (by decide)
  rw [sendable_notice_iff, Notice.size]
  omega

theorem sendable_request_chat_iff {text : String} :
    Sendable (Request.chat text) ↔ text.utf8ByteSize ≤ 4092 := by
  have size := textSize_le_iff text 4095 (by decide) (by decide)
  rw [sendable_request_iff, Request.size]
  omega

theorem sendable_request_intro_iff {name : String} {ready : Bool} :
    Sendable (Request.intro name ready) ↔ name.utf8ByteSize ≤ 4091 := by
  have size := textSize_le_iff name 4094 (by decide) (by decide)
  rw [sendable_request_iff, Request.size]
  omega

theorem sendable_request_act_iff {action : Action} {target : String} :
    Sendable (Request.act action target) ↔ target.utf8ByteSize ≤ 4091 := by
  have size := textSize_le_iff target 4094 (by decide) (by decide)
  rw [sendable_request_iff, Request.size]
  omega

theorem sendable_serverLine {text : String} (short : text.utf8ByteSize ≤ 4000) :
    Sendable (Notice.serverLine text) := by
  have tag : Rules.serverTag.utf8ByteSize = 9 := rfl
  rw [Notice.serverLine, sendable_chat_iff, String.utf8ByteSize_append]
  omega

end Wire

/-- The digits of a number below `2 ^ 64` take at most 80 bytes. -/
theorem utf8ByteSize_toString_le {n : Nat} (small : n < 2 ^ 64) :
    (toString n).utf8ByteSize ≤ 80 := by
  have digits : n.repr.length ≤ 20 := Nat.repr_length n 20 (by decide) (by omega)
  have bytes := Text.Utf8.length_encode_le n.repr.toList
  rw [String.length_toList] at bytes
  have size : (Text.Utf8.encode n.repr.toList).length = n.repr.utf8ByteSize :=
    Text.Utf8.size_eq n.repr
  have said : toString n = n.repr := rfl
  rw [said]
  omega

/-! ## Guests -/

namespace Guest

/-- The guest after `Guest.receive` of each notice in order. -/
def receiveAll (g : Guest) (notices : List Notice) : Guest :=
  notices.foldl (fun g n => (g.receive (.send g.id n)).1) g

@[simp] theorem served_take (g : Guest) (n : Notice) : (g.take n).1.served = g.served := by
  unfold take
  split
  · split <;> rfl
  · rfl

theorem served_receive_iff (g : Guest) (n : Notice) :
    (g.receive (.send g.id n)).1.served = true ↔ g.served = true ∧ Wire.Sendable n := by
  simp only [receive, Wire.Sendable]
  by_cases served : g.served = true
  · rw [if_pos ⟨trivial, served⟩]
    cases encoded : Wire.encode n with
    | ok bytes => simp [served]
    | error why => simp [endStream]
  · rw [if_neg (fun both => served both.2)]
    simp [served]

/-- `served` holds afterwards iff it held before and every notice is `Wire.Sendable`. -/
theorem served_receiveAll_iff (g : Guest) (notices : List Notice) :
    (g.receiveAll notices).served = true ↔
      g.served = true ∧ ∀ n ∈ notices, Wire.Sendable n := by
  induction notices generalizing g with
  | nil => simp [receiveAll]
  | cons n rest ih =>
    have step := ih (g.receive (.send g.id n)).1
    rw [served_receive_iff, and_assoc, ← List.forall_mem_cons (p := Wire.Sendable)] at step
    exact step

end Guest

/-- Whether the request brings a text: `chat` and `intro`. -/
def Request.isSpoken : Request → Bool
  | .chat _ | .intro .. => true
  | .ready | .unready | .listPlayers | .listStats | .chooseJob _ | .act .. => false

namespace Session

variable {δ : Type} {s : Session δ} {id j : PlayerId} {step : Step δ}

/-- `s.Overlong id j r`: request `r` of `id` fits in a packet and its notice to `j` does not. For
`line`, of a registered player, the name and the text have more than 4090 bytes together, and `j` is
anybody. For `name`, of a newcomer to a lobby with room, the name has more than 4077 bytes, and `j`
is `id`. -/
inductive Overlong (s : Session δ) (id j : PlayerId) : Request → Prop
  | line {text : String} {p : Player} (found : s.roster.get? id = some p)
      (spoken : Text.isBlankText text = false) (arrives : text.utf8ByteSize ≤ 4092)
      (long : 4090 < p.name.utf8ByteSize + text.utf8ByteSize) : Overlong s id j (.chat text)
  | name {name : String} {ready : Bool} (own : j = id) (lobby : s.connection ≠ .inProgress)
      (unknown : s.roster.get? id = none) (room : s.roster.isFull = false)
      (arrives : name.utf8ByteSize ≤ 4091) (long : 4077 < name.utf8ByteSize) :
      Overlong s id j (.intro name ready)

/-- The refusal of an `intro` goes to its own connection only. -/
theorem Overlong.eq_of_intro {name : String} {ready : Bool}
    (h : s.Overlong id j (.intro name ready)) : j = id := by
  cases h with
  | name own => exact own

/-! ## Lines of chat -/

theorem sendable_handle_chat_iff [Dice δ] (s : Session δ) (id j : PlayerId) {text : String}
    (arrives : text.utf8ByteSize ≤ 4092) :
    (∀ n ∈ noticesFor j (s.handle id (.chat text)).2, Wire.Sendable n) ↔
      ¬s.Overlong id j (.chat text) := by
  cases found : s.roster.get? id with
  | none =>
    have refused : s.request id (.chat text) = .error (.unknownPlayer id) :=
      chat_eq_error_iff.mpr ⟨found, rfl⟩
    rw [handle_of_error refused]
    refine iff_of_true (List.forall_mem_nil _) ?_
    intro overlong
    cases overlong with
    | line there =>
      rw [found] at there
      cases there
  | some p =>
    cases blank : Text.isBlankText text with
    | true =>
      have dropped : s.request id (.chat text) = .ok (s, []) :=
        chat_eq_ok_iff.mpr ⟨p, found, by rw [blank]; rfl⟩
      rw [handle_of_ok dropped]
      refine iff_of_true (List.forall_mem_nil _) ?_
      intro overlong
      cases overlong with
      | line _ spoken =>
        rw [blank] at spoken
        cases spoken
    | false =>
      have passed : s.request id (.chat text) =
          .ok (s, [.broadcast (.chat (p.name ++ ": " ++ text))]) :=
        chat_eq_ok_iff.mpr ⟨p, found, by rw [blank]; rfl⟩
      have colon : ": ".utf8ByteSize = 2 := rfl
      rw [handle_of_ok passed]
      simp only [noticesFor_cons, noticesFor_nil, Effect.notice?, Option.toList_some,
        List.append_nil, List.forall_mem_singleton, Wire.sendable_chat_iff,
        String.utf8ByteSize_append, colon]
      constructor
      · intro short overlong
        cases overlong with
        | line there _ _ long =>
          rw [found, Option.some.injEq] at there
          subst there
          omega
      · intro fits
        by_contra long
        exact fits (.line found blank arrives (by omega))

/-! ## Introductions -/

theorem sendable_waiting (small : s.roster.capacity < 2 ^ 64) {n : Notice}
    (told : n ∈ noticesFor j s.waiting) : Wire.Sendable n := by
  unfold waiting at told
  split at told
  · cases told
  · rw [List.mem_singleton.mp told]
    exact Wire.sendable_serverLine (by decide)
  · rw [List.mem_singleton.mp told]
    apply Wire.sendable_serverLine
    have missing : s.roster.capacity - s.roster.players.length < 2 ^ 64 := by omega
    have number := utf8ByteSize_toString_le missing
    have before : "Waiting for ".utf8ByteSize = 12 := rfl
    have after : " more players.".utf8ByteSize = 14 := rfl
    rw [String.utf8ByteSize_append, String.utf8ByteSize_append]
    omega

theorem MayStart.sendable (may : s.MayStart step) {n : Notice} (told : n ∈ noticesFor j step.2) :
    Wire.Sendable n := by
  obtain ⟨e, he, sends⟩ := List.mem_filterMap.mp told
  rcases may.effect_cases he with rfl | ⟨i, rfl⟩
  · cases sends
    exact Wire.sendable_notice_iff.mpr (by decide)
  · simp only [Effect.notice?] at sends
    split at sends <;> cases sends
    exact Wire.sendable_notice_iff.mpr (by decide)

/-- Every notice of a granted `intro` is `Wire.Sendable`. -/
theorem sendable_register (small : s.roster.capacity < 2 ^ 64) {name : String} {ready : Bool}
    (ok : s.register id name ready = .ok step) {n : Notice} (told : n ∈ noticesFor j step.2) :
    Wire.Sendable n := by
  obtain ⟨-, roster, started, joins, may, rfl⟩ := register_cases ok
  obtain ⟨-, -, valid, -, capacity, -⟩ := Roster.register_eq_ok_iff.mp joins
  rw [noticesFor_cons, noticesFor_append, List.mem_append, List.mem_append] at told
  rcases told with joined | waiting | starts
  · have short := PlayerName.utf8ByteSize_le valid
    have rest : " has joined.".utf8ByteSize = 12 := rfl
    rw [List.mem_singleton.mp joined]
    apply Wire.sendable_serverLine
    rw [String.utf8ByteSize_append]
    omega
  · have room : (s.joined roster).roster.capacity < 2 ^ 64 := by
      rw [Session.joined, capacity]
      exact small
    exact sendable_waiting room waiting
  · exact may.sendable starts

/-- A refusal sends `disconnected` to `id` if it `closes`; its text may have 4092 bytes. -/
theorem sendable_refusal_iff (why : Refusal) :
    (∀ n ∈ noticesFor j (why.effects id), Wire.Sendable n) ↔
      (why.closes = true → j = id → why.message.utf8ByteSize ≤ 4092) := by
  unfold Refusal.effects
  by_cases closes : why.closes = true
  · rw [if_pos closes, noticesFor_unicast]
    by_cases own : id = j
    · simp [own, closes, Effect.notice?, Wire.sendable_disconnected_iff]
    · simp [own, Ne.symm own, Effect.notice?]
  · simp [closes]

theorem utf8ByteSize_nameTaken (name : String) :
    (Refusal.roster (.nameTaken name)).message.utf8ByteSize = name.utf8ByteSize + 24 := by
  have before : "Name '".utf8ByteSize = 6 := rfl
  have after : "' is already taken".utf8ByteSize = 18 := rfl
  show ("Name '" ++ name ++ "' is already taken").utf8ByteSize = _
  rw [String.utf8ByteSize_append, String.utf8ByteSize_append, before, after]
  omega

/-- Of the refusals of an `intro` only `invalidName` can have a text of more than 4092 bytes. -/
theorem sendable_unseated_iff {name : String} {ready : Bool} {why : Refusal}
    (arrives : name.utf8ByteSize ≤ 4091) (refused : s.register id name ready = .error why) :
    (why.closes = true → j = id → why.message.utf8ByteSize ≤ 4092) ↔
      ¬s.Overlong id j (.intro name ready) := by
  have quote : "'".utf8ByteSize = 1 := rfl
  have full : (Refusal.roster .full).message.utf8ByteSize = 11 := rfl
  rcases register_eq_error_iff.mp refused with ⟨started, rfl⟩ | ⟨lobby, reason, unseated, rfl⟩
  · refine iff_of_true (fun _ _ => by omega) ?_
    intro long
    cases long with
    | name _ lobby => exact lobby started
  · rcases Roster.register_error_cases unseated with
      ⟨rfl, known⟩ | ⟨rfl, crowded⟩ | ⟨rfl, unknown, room, -⟩ | ⟨rfl, valid⟩
    · refine iff_of_true (fun closes => nomatch closes) ?_
      intro long
      cases long with
      | name _ _ unknown =>
        rw [unknown] at known
        cases known
    · refine iff_of_true (fun _ _ => by omega) ?_
      intro long
      cases long with
      | name _ _ _ room =>
        rw [room] at crowded
        cases crowded
    · have before : "Invalid name '".utf8ByteSize = 14 := rfl
      have size : (Refusal.roster (.invalidName name)).message.utf8ByteSize =
          14 + name.utf8ByteSize + 1 := by
        show ("Invalid name '" ++ name ++ "'").utf8ByteSize = _
        rw [String.utf8ByteSize_append, String.utf8ByteSize_append, before, quote]
      rw [size]
      constructor
      · intro short overlong
        cases overlong with
        | name own _ _ _ _ long =>
          have := short rfl own
          omega
      · intro fits _ own
        by_contra long
        exact fits (.name own lobby unknown room arrives (by omega))
    · have short := PlayerName.utf8ByteSize_le valid
      have size := utf8ByteSize_nameTaken name
      refine iff_of_true (fun _ _ => by omega) ?_
      intro overlong
      cases overlong with
      | name _ _ _ _ _ long => omega

theorem sendable_handle_intro_iff [Dice δ] (small : s.roster.capacity < 2 ^ 64) (id j : PlayerId)
    {name : String} {ready : Bool} (arrives : name.utf8ByteSize ≤ 4091) :
    (∀ n ∈ noticesFor j (s.handle id (.intro name ready)).2, Wire.Sendable n) ↔
      ¬s.Overlong id j (.intro name ready) := by
  cases asked : s.register id name ready with
  | ok step =>
    have granted : s.request id (.intro name ready) = .ok step := asked
    obtain ⟨-, roster, -, joins, -⟩ := register_cases asked
    obtain ⟨-, -, valid, -⟩ := Roster.register_eq_ok_iff.mp joins
    have short := PlayerName.utf8ByteSize_le valid
    rw [handle_of_ok granted]
    refine iff_of_true (fun n told => sendable_register small asked told) ?_
    intro overlong
    cases overlong with
    | name _ _ _ _ _ long => omega
  | error why =>
    have refused : s.request id (.intro name ready) = .error why := asked
    rw [handle_of_error refused, sendable_refusal_iff]
    exact sendable_unseated_iff arrives asked

/-! ## Runs -/

/-- After any run, a `chat` or `intro` that itself encodes leads to notices for `j` that all encode
iff it is not `Overlong` for `j`. So a guest that is `served` stays so iff the request is not
`Overlong` for it. -/
theorem sendable_iff_of_run [Dice δ] (expected : UInt64) (dice : δ) (ops : List Op) (id : PlayerId)
    {r : Request} (spoken : r.isSpoken = true) (arrives : Wire.Sendable r) :
    let s := ((Session.new expected.toNat dice).run ops).1
    (∀ j, (∀ n ∈ noticesFor j (s.handle id r).2, Wire.Sendable n) ↔ ¬s.Overlong id j r) ∧
      ∀ g : Guest, g.served = true →
        ((g.receiveAll (noticesFor g.id (s.handle id r).2)).served = true ↔
          ¬s.Overlong id g.id r) := by
  intro s
  have small : s.roster.capacity < 2 ^ 64 := by
    have capacity : s.roster.capacity = expected.toNat := capacity_run _ ops
    rw [capacity]
    exact expected.toNat_lt
  have sendable (j : PlayerId) :
      (∀ n ∈ noticesFor j (s.handle id r).2, Wire.Sendable n) ↔ ¬s.Overlong id j r := by
    cases r with
    | chat text => exact sendable_handle_chat_iff s id j (Wire.sendable_request_chat_iff.mp arrives)
    | intro name ready =>
      exact sendable_handle_intro_iff small id j (Wire.sendable_request_intro_iff.mp arrives)
    | _ => cases spoken
  refine ⟨sendable, fun g served => ?_⟩
  rw [Guest.served_receiveAll_iff, sendable g.id]
  exact and_iff_right served

/-- A word of so many letters. -/
def drawl (letters : Nat) : String :=
  .ofList (List.replicate letters 'x')

theorem utf8ByteSize_drawl (letters : Nat) : (drawl letters).utf8ByteSize = letters := by
  have letter : (String.utf8EncodeChar 'x').length = 1 := rfl
  rw [← Text.Utf8.size_eq, Text.Utf8.size, Text.Utf8.encode, drawl, String.toList_ofList,
    List.length_flatMap, List.map_replicate, letter, List.sum_replicate_nat, Nat.mul_one]

theorem isBlankText_drawl (letters : Nat) : Text.isBlankText (drawl (letters + 1)) = false := by
  have letter : Text.isBlank 'x' = false := by decide
  rw [Text.isBlankText, drawl, String.toList_ofList, List.replicate_succ, List.all_cons, letter,
    Bool.false_and]

/-- A lobby for two with one player. -/
def halfFull : List Op :=
  [.opened, .handle ⟨1⟩ (.intro "A" true)]

/-- The refusal of a name of 4080 bytes does not encode, and the notices for other connections do.
-/
theorem sendable_iff_of_run_drawl :
    let s := ((Session.new (2 : UInt64).toNat (⟨[]⟩ : Script)).run halfFull).1
    let r := Request.intro (drawl 4080) true
    (r.isSpoken = true ∧ Wire.Sendable r) ∧
      ∀ j, (∀ n ∈ noticesFor j (s.handle ⟨2⟩ r).2, Wire.Sendable n) ↔ j ≠ ⟨2⟩ := by
  intro s r
  have arrives : Wire.Sendable r :=
    Wire.sendable_request_intro_iff.mpr (by rw [utf8ByteSize_drawl]; decide)
  have sendable := (sendable_iff_of_run 2 (⟨[]⟩ : Script) halfFull ⟨2⟩ rfl arrives).1
  have size : (drawl 4080).utf8ByteSize = 4080 := utf8ByteSize_drawl 4080
  refine ⟨⟨rfl, arrives⟩, fun j => (sendable j).trans (not_congr ?_)⟩
  constructor
  · exact Overlong.eq_of_intro
  · intro own
    refine .name own ?_ ?_ ?_ (by omega) (by omega)
    · decide +kernel
    · decide +kernel
    · decide +kernel

/-- The relay of a `chat` of 4092 bytes does not encode for any connection, though the `chat` does.
-/
theorem drawl_not_sendable :
    let s := ((Session.new 2 (⟨[]⟩ : Script)).run halfFull).1
    Wire.Sendable (Request.chat (drawl 4092)) ∧
      ∀ j, ¬∀ n ∈ noticesFor j (s.handle ⟨1⟩ (.chat (drawl 4092))).2, Wire.Sendable n := by
  intro s
  have arrives : (drawl 4092).utf8ByteSize ≤ 4092 := Nat.le_of_eq (utf8ByteSize_drawl 4092)
  have there : (s.roster.get? ⟨1⟩).map (·.name) = some "A" := by decide +kernel
  obtain ⟨p, found, name⟩ := Option.map_eq_some_iff.mp there
  have long : 4090 < p.name.utf8ByteSize + (drawl 4092).utf8ByteSize := by
    rw [utf8ByteSize_drawl]
    omega
  refine ⟨Wire.sendable_request_chat_iff.mpr arrives, fun j => ?_⟩
  rw [sendable_handle_chat_iff s ⟨1⟩ j arrives, not_not]
  exact .line found (isBlankText_drawl 4091) arrives long

end Session

end Skirmish
