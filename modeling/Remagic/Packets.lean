import Mathlib.Algebra.Ring.Nat
import Mathlib.Tactic.Common

/-!
# Packets of a fixed size

A packet is a vector of bytes that starts out as zeros. A little-endian field of
any width is put at an offset and read back at one: the field reads what was put
there, and a field apart from it is left alone.
-/

namespace Packets
variable {n : Nat}

def byte (packet : Vector UInt8 n) (i : Nat) : UInt8 := packet[i]?.getD 0

def setByte (packet : Vector UInt8 n) (i : Nat) (value : UInt8) : Vector UInt8 n := packet.setIfInBounds i value

def zeros (n : Nat) : Vector UInt8 n := Vector.replicate n 0

/-- Put the low `width` bytes of a number, the least significant first. -/
def putLe (packet : Vector UInt8 n) (offset : Nat) : Nat → Nat → Vector UInt8 n
  | 0, _ => packet
  | width + 1, value => putLe (setByte packet offset (UInt8.ofNat value)) (offset + 1) width (value / 256)

/-- Read the number in `width` bytes. -/
def getLe (packet : Vector UInt8 n) (offset : Nat) : Nat → Nat
  | 0 => 0
  | width + 1 => (byte packet offset).toNat + 256 * getLe packet (offset + 1) width

variable {packet : Vector UInt8 n}

@[simp] theorem byte_zeros (i : Nat) : byte (zeros n) i = 0 := by
  unfold byte zeros
  rw [Vector.getElem?_replicate]
  split <;> rfl

theorem byte_setByte {i j : Nat} {value : UInt8} :
    byte (setByte packet i value) j = if i = j ∧ j < n then value else byte packet j := by
  unfold byte setByte
  rw [Vector.getElem?_setIfInBounds]
  by_cases same : i = j
  · subst same
    by_cases room : i < n
    · simp [room]
    · simp [room]
  · simp [same]

/-- Bytes outside the field keep their value. -/
theorem byte_putLe_outside {offset width value i : Nat} (outside : i < offset ∨ offset + width ≤ i) :
    byte (putLe packet offset width value) i = byte packet i := by
  induction width generalizing packet offset value with
  | zero => rfl
  | succ width ih =>
    have apart : ¬(offset = i ∧ i < n) := by omega
    rw [putLe, ih (by omega), byte_setByte, if_neg apart]

theorem getLe_congr {first second : Vector UInt8 n} {offset width : Nat}
    (same : ∀ i, offset ≤ i → i < offset + width → byte first i = byte second i) :
    getLe first offset width = getLe second offset width := by
  induction width generalizing offset with
  | zero => rfl
  | succ width ih =>
    rw [getLe, getLe, same offset (Nat.le_refl _) (by omega), ih fun i above below => same i (by omega) (by omega)]

/-- A field apart from the one that is put keeps its value. -/
theorem getLe_putLe_apart {offset width value other size : Nat} (apart : other + size ≤ offset ∨ offset + width ≤ other) :
    getLe (putLe packet offset width value) other size = getLe packet other size := by
  refine getLe_congr fun i above below => byte_putLe_outside ?_
  omega

/-- A field reads what was put there, as far as it is wide enough. -/
theorem getLe_putLe {offset width value : Nat} (room : offset + width ≤ n) :
    getLe (putLe packet offset width value) offset width = value % 256 ^ width := by
  induction width generalizing packet offset value with
  | zero => simp [getLe, Nat.mod_one]
  | succ width ih =>
    have inside : offset = offset ∧ offset < n := ⟨rfl, by omega⟩
    have low : byte (putLe packet offset (width + 1) value) offset = UInt8.ofNat value := by
      rw [putLe, byte_putLe_outside (by omega), byte_setByte, if_pos inside]
    rw [getLe, low, putLe, ih (by omega), Nat.pow_succ, Nat.mul_comm (256 ^ width), Nat.mod_mul]
    exact congrArg (· + _) UInt8.toNat_ofNat'

theorem getLe_setByte_apart {i other size : Nat} {value : UInt8} (apart : i < other ∨ other + size ≤ i) :
    getLe (setByte packet i value) other size = getLe packet other size := by
  refine getLe_congr fun j above below => ?_
  rw [byte_setByte, if_neg (by omega)]

/-! ## Machine words -/

/-- `i32::to_le_bytes` copied to an offset. -/
def putI32 (packet : Vector UInt8 n) (offset : Nat) (value : Int32) : Vector UInt8 n :=
  putLe packet offset 4 value.toBitVec.toNat

/-- `i32::from_le_bytes` of the four bytes at an offset. -/
def getI32 (packet : Vector UInt8 n) (offset : Nat) : Int32 := Int32.ofBitVec (BitVec.ofNat 32 (getLe packet offset 4))

def putU64 (packet : Vector UInt8 n) (offset : Nat) (value : UInt64) : Vector UInt8 n :=
  putLe packet offset 8 value.toNat

def getU64 (packet : Vector UInt8 n) (offset : Nat) : UInt64 := UInt64.ofNat (getLe packet offset 8)

def getU16 (packet : Vector UInt8 n) (offset : Nat) : UInt16 := UInt16.ofNat (getLe packet offset 2)

@[simp] theorem getI32_putI32 {offset : Nat} {value : Int32} (room : offset + 4 ≤ n) :
    getI32 (putI32 packet offset value) offset = value := by
  have small : value.toBitVec.toNat < 256 ^ 4 := value.toBitVec.isLt
  unfold getI32 putI32
  rw [getLe_putLe room, Nat.mod_eq_of_lt small, BitVec.ofNat_toNat]
  simp

@[simp] theorem getU64_putU64 {offset : Nat} {value : UInt64} (room : offset + 8 ≤ n) :
    getU64 (putU64 packet offset value) offset = value := by
  have small : value.toNat < 256 ^ 8 := value.toNat_lt
  unfold getU64 putU64
  rw [getLe_putLe room, Nat.mod_eq_of_lt small, UInt64.ofNat_toNat]

@[simp] theorem getI32_putI32_apart {offset other : Nat} {value : Int32} (apart : other + 4 ≤ offset ∨ offset + 4 ≤ other) :
    getI32 (putI32 packet offset value) other = getI32 packet other := by
  unfold getI32 putI32
  rw [getLe_putLe_apart apart]

@[simp] theorem getI32_putU64_apart {offset other : Nat} {value : UInt64} (apart : other + 4 ≤ offset ∨ offset + 8 ≤ other) :
    getI32 (putU64 packet offset value) other = getI32 packet other := by
  unfold getI32 putU64
  rw [getLe_putLe_apart apart]

@[simp] theorem getI32_setByte_apart {i other : Nat} {value : UInt8} (apart : i < other ∨ other + 4 ≤ i) :
    getI32 (setByte packet i value) other = getI32 packet other := by
  unfold getI32
  rw [getLe_setByte_apart apart]

@[simp] theorem byte_putI32_outside {offset i : Nat} {value : Int32} (outside : i < offset ∨ offset + 4 ≤ i) :
    byte (putI32 packet offset value) i = byte packet i := byte_putLe_outside outside

@[simp] theorem byte_putU64_outside {offset i : Nat} {value : UInt64} (outside : i < offset ∨ offset + 8 ≤ i) :
    byte (putU64 packet offset value) i = byte packet i := byte_putLe_outside outside

end Packets
