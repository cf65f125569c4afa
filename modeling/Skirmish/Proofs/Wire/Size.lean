import Skirmish.Proofs.Text.Utf8
import Skirmish.Wire.Packet
import Skirmish.Wire.Varint.Lemmas

/-!
# How long packets are

The number of bytes of an encoded packet, field by field and without the encoder. A text has its
UTF-8 bytes behind their number, a list its members behind theirs, and a health is the number that
`zigZag` makes of it. Tags, flags and jobs take one byte.

Results:

* `length_writeText`, `length_writeHealth`, `length_writeList`: the fields of varying size;
* `length_writeRequest`, `length_writeNotice`: `Packet.write` has that many bytes.
-/

namespace Skirmish

namespace Wire

/-- The bytes of a number below `2 ^ 64`. -/
def Varint.size (n : Nat) : Nat :=
  if n < 251 then 1 else if n < 0x10000 then 3 else if n < 0x100000000 then 5 else 9

/-- The bytes of a text. -/
def textSize (s : String) : Nat :=
  Varint.size s.utf8ByteSize + s.utf8ByteSize

/-- The bytes of a health. -/
def healthSize (h : Int32) : Nat :=
  Varint.size (zigZag h.toInt)

/-- The bytes of a list, from those of its members. -/
def listSize (sizes : List Nat) : Nat :=
  Varint.size sizes.length + sizes.sum

end Wire

/-- The bytes of a snapshot. -/
def Snapshot.size (s : Snapshot) : Nat :=
  Wire.textSize s.name + Wire.healthSize s.health + 2

/-- The bytes of a request. -/
def Request.size : Request → Nat
  | .intro name _ => 2 + Wire.textSize name
  | .ready | .unready | .listPlayers | .listStats => 1
  | .chat text => 1 + Wire.textSize text
  | .chooseJob _ => 2
  | .act _ target => 2 + Wire.textSize target

/-- The bytes of a notice. -/
def Notice.size : Notice → Nat
  | .chat text => 1 + Wire.textSize text
  | .gameStarted | .takeTurn => 1
  | .playerList players => 1 + Wire.listSize (players.map fun row => Wire.textSize row.1 + 1)
  | .playerStats players =>
    1 + Wire.listSize (players.map fun row => Wire.textSize row.1 + 1 + Wire.healthSize row.2.2)
  | .phaseChanged _ none => 3
  | .phaseChanged _ (some players) => 3 + Wire.listSize (players.map (·.size))
  | .healthChanged name health => 1 + Wire.textSize name + Wire.healthSize health
  | .disconnected reason => 1 + Wire.textSize reason

namespace Wire

@[simp] theorem length_varint (n : Nat) : (Varint.write n).length = Varint.size n :=
  Varint.length_write n

theorem Varint.size_pos (n : Nat) : 0 < size n := by
  unfold size
  repeat' split
  all_goals omega

@[simp] theorem length_writeFlag (b : Bool) : (writeFlag b).length = 1 := rfl

@[simp] theorem length_writeJob (job : Job) : (writeJob job).length = 1 := by
  cases job <;> rfl

@[simp] theorem length_writeAction (action : Action) : (writeAction action).length = 1 := by
  cases action <;> rfl

@[simp] theorem length_writePhase (phase : GamePhase) : (writePhase phase).length = 1 := by
  cases phase <;> rfl

@[simp] theorem length_writeText (s : String) : (writeText s).length = textSize s := by
  have bytes : (Text.Utf8.encode s.toList).length = s.utf8ByteSize := Text.Utf8.size_eq s
  simp only [writeText, List.length_append, length_varint, bytes, textSize]

@[simp] theorem length_writeHealth (h : Int32) : (writeHealth h).length = healthSize h :=
  length_varint _

@[simp] theorem length_writeList {α : Type} (write : α → List UInt8) (xs : List α) :
    (writeList write xs).length = listSize (xs.map fun x => (write x).length) := by
  simp [writeList, listSize, List.length_flatMap]

@[simp] theorem length_writeSnapshot (s : Snapshot) : (writeSnapshot s).length = s.size := by
  simp [writeSnapshot, Snapshot.size, Nat.add_assoc]

@[simp] theorem length_writeListRow (row : String × Bool) :
    (writeListRow row).length = textSize row.1 + 1 := by
  simp [writeListRow]

@[simp] theorem length_writeStatsRow (row : String × Job × Int32) :
    (writeStatsRow row).length = textSize row.1 + 1 + healthSize row.2.2 := by
  simp [writeStatsRow, Nat.add_assoc]

theorem length_writeRequest (r : Request) : (writeRequest r).length = r.size := by
  cases r <;> simp [writeRequest, Request.size, Varint.size] <;> omega

theorem length_writeNotice (n : Notice) : (writeNotice n).length = n.size := by
  cases n with
  | phaseChanged phase roster =>
    cases roster with
    | none => simp [writeNotice, Notice.size, writeOption, Varint.size]
    | some players => simp [writeNotice, Notice.size, writeOption, Varint.size]; omega
  | _ => simp [writeNotice, Notice.size, Varint.size] <;> omega

end Wire

end Skirmish
