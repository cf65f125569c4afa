import Mathlib.Algebra.Ring.Nat
import Skirmish.Wire.Varint

/-!
# Numbers of varying width are read back

Results:

* `readLittleEndian_littleEndian`: `width` bytes give back the number modulo `256 ^ width`;
* `Varint.read_write`: `Varint.read` gives back a number below `2 ^ 64` and the bytes behind it;
* `Varint.length_write`: the number of bytes written.
-/

namespace Skirmish.Wire

@[simp] theorem length_littleEndian (width n : Nat) : (littleEndian width n).length = width := by
  induction width generalizing n with
  | zero => rfl
  | succ width ih => simp [littleEndian, ih]

@[simp] theorem readByte_cons (b : UInt8) (rest : List UInt8) :
    readByte (b :: rest) = .ok (b, rest) := rfl

@[simp] theorem readByte_nil : readByte [] = .error .endOfBytes := rfl

theorem readLittleEndian_cons {width high : Nat} {bytes rest : List UInt8}
    (h : readLittleEndian width bytes = .ok (high, rest)) (b : UInt8) :
    readLittleEndian (width + 1) (b :: bytes) = .ok (b.toNat + 256 * high, rest) := by
  simp only [readLittleEndian, bind, StateT.bind, readByte_cons, Except.bind, h]
  rfl

theorem readLittleEndian_littleEndian (width n : Nat) (rest : List UInt8) :
    readLittleEndian width (littleEndian width n ++ rest) = .ok (n % 256 ^ width, rest) := by
  induction width generalizing n with
  | zero =>
    rw [Nat.pow_zero, Nat.mod_one]
    rfl
  | succ width ih =>
    -- the low byte and the rest of the number make up the number again
    have parts : n % 256 ^ (width + 1) = n % 256 + 256 * (n / 256 % 256 ^ width) := by
      rw [Nat.pow_succ, Nat.mul_comm, Nat.mod_mul]
    rw [littleEndian, List.cons_append, readLittleEndian_cons (ih (n / 256)), parts,
      UInt8.toNat_ofNat']

namespace Varint

theorem length_write (n : Nat) :
    (write n).length =
      if n < 251 then 1 else if n < 0x10000 then 3 else if n < 0x100000000 then 5 else 9 := by
  unfold write
  split
  · rfl
  split
  · simp
  split <;> simp

theorem read_write {n : Nat} (h : n < 0x10000000000000000) (rest : List UInt8) :
    read (write n ++ rest) = .ok (n, rest) := by
  unfold write
  split
  · -- one byte below 251 stands for itself
    have small : (UInt8.ofNat n).toNat = n := by simp; omega
    simp only [read, List.cons_append, List.nil_append, bind, StateT.bind, readByte_cons,
      Except.bind, small, if_pos ‹n < 251›]
    rfl
  split
  · show readLittleEndian 2 (littleEndian 2 n ++ rest) = _
    rw [readLittleEndian_littleEndian, Nat.mod_eq_of_lt (by omega)]
  split
  · show readLittleEndian 4 (littleEndian 4 n ++ rest) = _
    rw [readLittleEndian_littleEndian, Nat.mod_eq_of_lt (by omega)]
  · show readLittleEndian 8 (littleEndian 8 n ++ rest) = _
    rw [readLittleEndian_littleEndian, Nat.mod_eq_of_lt (by omega)]

end Varint

end Skirmish.Wire
