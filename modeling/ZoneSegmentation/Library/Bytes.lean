import Mathlib.Data.Nat.ModEq
import Mathlib.Data.BitVec
import Mathlib.Tactic.Linarith
import Mathlib.Tactic.Ring

/-!
# Numbers in bytes

A number written as a fixed count of bytes, the most significant first (network byte order), and
read back. A machine keeps the bytes of a number in an order of its own, and turns a number it
found in network order into the one it stands for.

## Main definitions

* `Bytes.encode`, `Bytes.decode`: a number in network byte order, and the number of some bytes
* `ByteOrder`, `ByteOrder.load`, `ByteOrder.ntoh`: the order of a machine, the number it sees in
  memory, and what `ntohl` makes of it

## Main results

* `Bytes.decode_encode`, `Bytes.encode_decode`: the two are inverse
* `ByteOrder.ntoh_load`: on every machine, `ntohl` of bytes in memory is their number
-/

/-- A byte. -/
abbrev Byte := BitVec 8

namespace Bytes

/-- The last `k` base-256 digits of a number, the most significant first. -/
def encode : ℕ → ℕ → List Byte
  | 0, _ => []
  | k + 1, n => BitVec.ofNat 8 (n / 256 ^ k) :: encode k n

/-- The number whose base-256 digits these are. -/
def decode : List Byte → ℕ
  | [] => 0
  | b :: bs => b.toNat * 256 ^ bs.length + decode bs

@[simp] theorem length_encode (k n : ℕ) : (encode k n).length = k := by
  induction k with
  | zero => rfl
  | succ k ih => rw [encode, List.length_cons, ih]

theorem decode_lt (bs : List Byte) : decode bs < 256 ^ bs.length := by
  induction bs with
  | nil => simp [decode]
  | cons b bs ih =>
    have hb : b.toNat + 1 ≤ 256 := b.isLt
    have hmul := Nat.mul_le_mul_right (256 ^ bs.length) hb
    rw [decode, List.length_cons, pow_succ]
    linarith

/-- Reading what was written gives the number, up to the digits that were left out. -/
theorem decode_encode (k n : ℕ) : decode (encode k n) = n % 256 ^ k := by
  induction k with
  | zero => simp [encode, decode, Nat.mod_one]
  | succ k ih =>
    have hsplit : n % 256 ^ (k + 1) = n % 256 ^ k + 256 ^ k * (n / 256 ^ k % 2 ^ 8) :=
      (congrArg (n % ·) (pow_succ 256 k)).trans Nat.mod_mul
    rw [encode, decode, ih, length_encode, BitVec.toNat_ofNat, hsplit, Nat.mul_comm, Nat.add_comm]

theorem decode_encode_of_lt {k n : ℕ} (h : n < 256 ^ k) : decode (encode k n) = n := by
  rw [decode_encode, Nat.mod_eq_of_lt h]

theorem encode_add_mul (k n m : ℕ) : encode k (m * 256 ^ k + n) = encode k n := by
  induction k generalizing m with
  | zero => rfl
  | succ k ih =>
    have hpos : 0 < 256 ^ k := Nat.pow_pos (by decide)
    have hsplit : m * 256 ^ (k + 1) + n = m * 256 * 256 ^ k + n := by ring
    have hdiv : (m * 256 * 256 ^ k + n) / 256 ^ k = m * 256 + n / 256 ^ k := by
      rw [Nat.mul_comm, Nat.mul_add_div hpos]
    rw [encode, encode, hsplit, ih, hdiv]
    congr 1
    apply BitVec.eq_of_toNat_eq
    simp [Nat.add_mod]

/-- Writing the number of some bytes gives the bytes. -/
theorem encode_decode (bs : List Byte) : encode bs.length (decode bs) = bs := by
  induction bs with
  | nil => rfl
  | cons b bs ih =>
    have hpos : 0 < 256 ^ bs.length := Nat.pow_pos (by decide)
    have hdigit : (b.toNat * 256 ^ bs.length + decode bs) / 256 ^ bs.length = b.toNat := by
      rw [Nat.mul_comm, Nat.mul_add_div hpos, Nat.div_eq_of_lt (decode_lt bs),
        Nat.add_zero]
    rw [List.length_cons, encode, decode, encode_add_mul, ih, hdigit, BitVec.ofNat_toNat,
      BitVec.setWidth_eq]

end Bytes

/-- The order in which a machine keeps the bytes of a number. -/
inductive ByteOrder where
  | little
  | big
  deriving DecidableEq

namespace ByteOrder

open Bytes

/-- The number that a machine sees in some bytes of memory. -/
def load : ByteOrder → List Byte → ℕ
  | big, bs => decode bs
  | little, bs => decode bs.reverse

/-- `ntohl` and `ntohs`: on a little-endian machine, the bytes of the number are reversed. -/
def ntoh : ByteOrder → ℕ → ℕ → ℕ
  | big, _, n => n
  | little, k, n => decode (encode k n).reverse

/-- **On every machine**, `ntohl` of the number it sees is the number of the bytes. -/
theorem ntoh_load (o : ByteOrder) (bs : List Byte) : o.ntoh bs.length (o.load bs) = decode bs := by
  cases o with
  | big => rfl
  | little =>
    have hbytes := encode_decode bs.reverse
    rw [List.length_reverse] at hbytes
    rw [load, ntoh, hbytes, List.reverse_reverse]

theorem load_lt (o : ByteOrder) (bs : List Byte) : o.load bs < 256 ^ bs.length := by
  cases o with
  | big => exact decode_lt bs
  | little => exact (decode_lt bs.reverse).trans_eq (by rw [List.length_reverse])

end ByteOrder
