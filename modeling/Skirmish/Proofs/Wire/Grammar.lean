import Skirmish.Wire.Packet

/-!
# The words of the format

The words of a packet as inductive predicates, without a reader: its tag and then its fields in the
order of their declaration, with nothing between or behind. A number may be written in any width
that holds it, so a packet may have many words. Tags, counts, lengths and healths are such numbers;
everything else has one word only.
-/

namespace Skirmish.Wire

variable {α : Type}

/-! ## Fields -/

/-- The words of a number: a byte below 251, or 2, 4 or 8 bytes behind 251, 252 or 253. -/
inductive Varint.Word : Nat → List UInt8 → Prop
  | one {n : Nat} (fits : n < 251) : Word n [UInt8.ofNat n]
  | two {n : Nat} (fits : n < 0x10000) : Word n (251 :: littleEndian 2 n)
  | four {n : Nat} (fits : n < 0x100000000) : Word n (252 :: littleEndian 4 n)
  | eight {n : Nat} (fits : n < 0x10000000000000000) : Word n (253 :: littleEndian 8 n)

/-- The word of a flag. -/
inductive FlagWord : Bool → List UInt8 → Prop
  | no : FlagWord false [0]
  | yes : FlagWord true [1]

/-- The words of a text: a word for the number of its UTF-8 bytes, and these. -/
inductive TextWord (s : String) : List UInt8 → Prop
  | intro {count : List UInt8}
      (counted : Varint.Word (Text.Utf8.encode s.toList).length count) :
      TextWord s (count ++ Text.Utf8.encode s.toList)

/-- The words of `zigZag` of a health. -/
def HealthWord (h : Int32) : List UInt8 → Prop :=
  Varint.Word (zigZag h.toInt)

/-- Words of the values in order. -/
inductive EachWord (Member : α → List UInt8 → Prop) : List α → List UInt8 → Prop
  | nil : EachWord Member [] []
  | cons {x : α} {xs : List α} {word rest : List UInt8} (first : Member x word)
      (others : EachWord Member xs rest) : EachWord Member (x :: xs) (word ++ rest)

/-- The words of a list: a word for its length, and words of its members. -/
inductive ListWord (Member : α → List UInt8 → Prop) (xs : List α) : List UInt8 → Prop
  | intro {count members : List UInt8} (counted : Varint.Word xs.length count)
      (each : EachWord Member xs members) : ListWord Member xs (count ++ members)

/-- The words of an optional part: `0`, or `1` and a word of it. -/
inductive OptionWord (Part : α → List UInt8 → Prop) : Option α → List UInt8 → Prop
  | none : OptionWord Part none [0]
  | some {x : α} {word : List UInt8} (part : Part x word) : OptionWord Part (some x) (1 :: word)

/-! ## Jobs, actions, phases and rows -/

/-- The words of a job: those of its index. -/
def JobWord (job : Job) : List UInt8 → Prop :=
  Varint.Word job.ctorIdx

/-- The words of an action: those of its index. -/
def ActionWord (action : Action) : List UInt8 → Prop :=
  Varint.Word action.ctorIdx

/-- The words of a phase: those of its index. -/
def PhaseWord (phase : GamePhase) : List UInt8 → Prop :=
  Varint.Word phase.ctorIdx

/-- The words of a snapshot: name, health, readiness and job. -/
inductive SnapshotWord (s : Snapshot) : List UInt8 → Prop
  | intro {a b c d : List UInt8} (name : TextWord s.name a) (health : HealthWord s.health b)
      (ready : FlagWord s.ready c) (job : JobWord s.job d) : SnapshotWord s (a ++ b ++ c ++ d)

/-- The words of a row of `playerList`. -/
inductive ListRowWord (row : String × Bool) : List UInt8 → Prop
  | intro {a b : List UInt8} (name : TextWord row.1 a) (ready : FlagWord row.2 b) :
      ListRowWord row (a ++ b)

/-- The words of a row of `playerStats`. -/
inductive StatsRowWord (row : String × Job × Int32) : List UInt8 → Prop
  | intro {a b c : List UInt8} (name : TextWord row.1 a) (job : JobWord row.2.1 b)
      (health : HealthWord row.2.2 c) : StatsRowWord row (a ++ b ++ c)

/-! ## Packets -/

/-- The words of a request. -/
inductive RequestWord : Request → List UInt8 → Prop
  | intro {s : String} {f : Bool} {t a b : List UInt8} (tag : Varint.Word 0 t)
      (name : TextWord s a) (ready : FlagWord f b) : RequestWord (.intro s f) (t ++ a ++ b)
  | ready {t : List UInt8} (tag : Varint.Word 1 t) : RequestWord .ready t
  | unready {t : List UInt8} (tag : Varint.Word 2 t) : RequestWord .unready t
  | listPlayers {t : List UInt8} (tag : Varint.Word 3 t) : RequestWord .listPlayers t
  | listStats {t : List UInt8} (tag : Varint.Word 4 t) : RequestWord .listStats t
  | chat {s : String} {t a : List UInt8} (tag : Varint.Word 5 t) (text : TextWord s a) :
      RequestWord (.chat s) (t ++ a)
  | chooseJob {j : Job} {t a : List UInt8} (tag : Varint.Word 6 t) (job : JobWord j a) :
      RequestWord (.chooseJob j) (t ++ a)
  | act {c : Action} {s : String} {t a b : List UInt8} (tag : Varint.Word 7 t)
      (action : ActionWord c a) (target : TextWord s b) : RequestWord (.act c s) (t ++ a ++ b)

/-- The words of a notice. -/
inductive NoticeWord : Notice → List UInt8 → Prop
  | chat {s : String} {t a : List UInt8} (tag : Varint.Word 0 t) (text : TextWord s a) :
      NoticeWord (.chat s) (t ++ a)
  | gameStarted {t : List UInt8} (tag : Varint.Word 1 t) : NoticeWord .gameStarted t
  | playerList {rows : List (String × Bool)} {t a : List UInt8} (tag : Varint.Word 2 t)
      (players : ListWord ListRowWord rows a) : NoticeWord (.playerList rows) (t ++ a)
  | playerStats {rows : List (String × Job × Int32)} {t a : List UInt8} (tag : Varint.Word 3 t)
      (players : ListWord StatsRowWord rows a) : NoticeWord (.playerStats rows) (t ++ a)
  | takeTurn {t : List UInt8} (tag : Varint.Word 4 t) : NoticeWord .takeTurn t
  | phaseChanged {g : GamePhase} {rows : Option (List Snapshot)} {t a b : List UInt8}
      (tag : Varint.Word 5 t) (phase : PhaseWord g a)
      (roster : OptionWord (ListWord SnapshotWord) rows b) :
      NoticeWord (.phaseChanged g rows) (t ++ a ++ b)
  | healthChanged {s : String} {h : Int32} {t a b : List UInt8} (tag : Varint.Word 6 t)
      (name : TextWord s a) (health : HealthWord h b) :
      NoticeWord (.healthChanged s h) (t ++ a ++ b)
  | disconnected {s : String} {t a : List UInt8} (tag : Varint.Word 7 t) (reason : TextWord s a) :
      NoticeWord (.disconnected s) (t ++ a)

end Skirmish.Wire
