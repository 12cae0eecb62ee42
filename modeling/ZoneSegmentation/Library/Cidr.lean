import Mathlib.Data.BitVec

/-!
# Address blocks

The addresses of a network share their leading bits. A block of `w`-bit addresses is a prefix
length and the address whose remaining bits are zero; an address belongs to it when masking its
remaining bits gives that address.

## Main definitions

* `Cidr.mask w p`: the mask that keeps the leading `p` of `w` bits
* `Cidr.Block w`: a block, its network address free of host bits
* `Cidr.Block.contains`, `Cidr.Block.broadcast`, `Cidr.Block.overlaps`: membership, the last
  address, and the test of two blocks for a common address

## Main results

* `Cidr.Block.contains_iff_masked`: membership compares masked addresses on both sides
* `Cidr.Block.overlaps_iff`: blocks overlap exactly when they share an address
-/

namespace Cidr

variable {w : ℕ}

/-- The mask that keeps the leading `p` bits. -/
def mask (w p : ℕ) : BitVec w := BitVec.allOnes w <<< (w - p)

/-- Of two masks, the shorter one keeps fewer bits. -/
theorem mask_and_mask {p q : ℕ} (h : p ≤ q) : mask w q &&& mask w p = mask w p := by
  ext i hi
  simp only [mask, BitVec.getElem_and, BitVec.getElem_shiftLeft, BitVec.getElem_allOnes]
  by_cases hp : i < w - p <;> by_cases hq : i < w - q <;> simp [hp, hq]
  omega

/-- A block of addresses: those whose leading `prefixlen` bits are those of `network`. -/
structure Block (w : ℕ) where
  network : BitVec w
  prefixlen : ℕ
  prefixlen_le : prefixlen ≤ w
  /-- The network address has no host bits. -/
  aligned : network &&& mask w prefixlen = network
  deriving DecidableEq

namespace Block

/-- Whether an address belongs to the block. -/
def contains (b : Block w) (a : BitVec w) : Bool := a &&& mask w b.prefixlen == b.network

/-- The last address of the block. -/
def broadcast (b : Block w) : BitVec w := b.network ||| ~~~mask w b.prefixlen

/-- Whether an end address of either block lies in the other. -/
def overlaps (b c : Block w) : Bool :=
  b.contains c.network || (b.contains c.broadcast || (c.contains b.network ||
    c.contains b.broadcast))

theorem contains_iff_masked (b : Block w) (a : BitVec w) :
    b.contains a = true ↔ a &&& mask w b.prefixlen = b.network &&& mask w b.prefixlen := by
  rw [contains, beq_iff_eq, b.aligned]

theorem contains_iff {b : Block w} {a : BitVec w} :
    b.contains a = true ↔ a &&& mask w b.prefixlen = b.network := beq_iff_eq

theorem contains_network (b : Block w) : b.contains b.network = true := contains_iff.mpr b.aligned

theorem contains_broadcast (b : Block w) : b.contains b.broadcast = true := by
  rw [contains_iff, broadcast, BitVec.and_comm, BitVec.and_or_distrib_left, BitVec.and_not_self,
    BitVec.and_comm, b.aligned]
  exact BitVec.or_zero

/-- Two blocks that share an address are nested: that with the shorter prefix holds the other. -/
theorem contains_network_of_common {b c : Block w} (hle : b.prefixlen ≤ c.prefixlen)
    {a : BitVec w} (hb : b.contains a = true) (hc : c.contains a = true) :
    b.contains c.network = true := by
  rw [contains_iff] at hb hc ⊢
  calc c.network &&& mask w b.prefixlen
      = a &&& mask w c.prefixlen &&& mask w b.prefixlen := by rw [hc]
    _ = a &&& mask w b.prefixlen := by rw [BitVec.and_assoc, mask_and_mask hle]
    _ = b.network := hb

/-- **Blocks overlap exactly when they share an address**, though the test only looks at their
end addresses. -/
theorem overlaps_iff {b c : Block w} : b.overlaps c = true ↔
    ∃ a, b.contains a = true ∧ c.contains a = true := by
  simp only [overlaps, Bool.or_eq_true]
  constructor
  · rintro (h | h | h | h)
    · exact ⟨c.network, h, c.contains_network⟩
    · exact ⟨c.broadcast, h, c.contains_broadcast⟩
    · exact ⟨b.network, b.contains_network, h⟩
    · exact ⟨b.broadcast, b.contains_broadcast, h⟩
  · -- the network address of the inner block lies in the outer one
    rintro ⟨a, hb, hc⟩
    rcases le_total b.prefixlen c.prefixlen with hle | hle
    · exact .inl (contains_network_of_common hle hb hc)
    · exact .inr (.inr (.inl (contains_network_of_common hle hc hb)))

/-- A block whose network address has only host bits set starts at zero. -/
theorem network_eq_zero_of_lt {b : Block w} {k : ℕ} (hk : b.prefixlen + k ≤ w)
    (hlt : b.network.toNat < 2 ^ k) : b.network = 0 := by
  refine BitVec.eq_of_getLsbD_eq ?_
  intro i hi
  rw [BitVec.ofNat_eq_ofNat, BitVec.getLsbD_zero]
  by_cases hik : i < k
  · rw [← b.aligned, BitVec.getLsbD_and, mask, BitVec.getLsbD_shiftLeft]
    simp [show i < w - b.prefixlen by omega]
  · refine Nat.testBit_lt_two_pow (hlt.trans_le ?_)
    exact Nat.pow_le_pow_right (by decide) (not_lt.mp hik)

end Block

end Cidr
