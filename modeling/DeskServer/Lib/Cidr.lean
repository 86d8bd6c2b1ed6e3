import Mathlib

/-!
# `Lib.Cidr` — blocks of addresses

An address has a fixed number of bits. A block is given by its first address and by how many leading bits
all its addresses share. Code tests a block with a mask; as a set it is an interval of numbers
(`and_mask_eq_iff`). A block that is tested on the leading bits alone is one of longer addresses
(`mem_extend_iff`).

Nothing here is about any particular program.
-/

namespace Cidr

variable {w : Nat}

/-- The addresses whose first `length` bits are those of `base`; the other bits of `base` are zero. -/
structure Block (w : Nat) where
  base : BitVec w
  length : Nat
  length_le : length ≤ w
  aligned : 2 ^ (w - length) ∣ base.toNat

/-- Membership, as an interval. -/
instance : Membership (BitVec w) (Block w) where
  mem b x := b.base.toNat ≤ x.toNat ∧ x.toNat < b.base.toNat + 2 ^ (w - b.length)

theorem mem_iff {b : Block w} {x : BitVec w} :
    x ∈ b ↔ b.base.toNat ≤ x.toNat ∧ x.toNat < b.base.toNat + 2 ^ (w - b.length) := Iff.rfl

instance (b : Block w) (x : BitVec w) : Decidable (x ∈ b) :=
  inferInstanceAs (Decidable (b.base.toNat ≤ x.toNat ∧ x.toNat < b.base.toNat + 2 ^ (w - b.length)))

/-- The mask with `length` leading ones. -/
def mask (w length : Nat) : BitVec w := BitVec.allOnes w <<< (w - length)

/-- What a mask leaves of an address. -/
theorem toNat_and_mask (x : BitVec w) (length : Nat) :
    (x &&& mask w length).toNat = x.toNat / 2 ^ (w - length) * 2 ^ (w - length) := by
  have hle := Nat.div_mul_le_self x.toNat (2 ^ (w - length))
  rw [mask, ← BitVec.shiftLeft_ushiftRight, BitVec.toNat_shiftLeft, BitVec.toNat_ushiftRight,
    Nat.shiftRight_eq_div_pow, Nat.shiftLeft_eq, Nat.mod_eq_of_lt (Nat.lt_of_le_of_lt hle x.isLt)]

/-- The multiple of `m` below `x` is `c * m` exactly in the interval that starts there. -/
theorem div_mul_eq_iff {m c x : Nat} (hm : 0 < m) : x / m * m = c * m ↔ c * m ≤ x ∧ x < c * m + m := by
  rw [Nat.mul_right_cancel_iff hm, Nat.div_eq_iff hm]
  omega

/-- **A mask tests a block.** -/
theorem and_mask_eq_iff (b : Block w) (x : BitVec w) : x &&& mask w b.length = b.base ↔ x ∈ b := by
  obtain ⟨c, hc⟩ := b.aligned
  rw [mem_iff, ← BitVec.toNat_inj, toNat_and_mask, hc, Nat.mul_comm _ c]
  exact div_mul_eq_iff (Nat.two_pow_pos _)

/-! ## Leading bits -/

variable {n : Nat}

/-- The block of longer addresses that starts with those of `b`. -/
def Block.extend (m : Nat) (b : Block n) : Block (n + m) where
  base := b.base ++ 0#m
  length := b.length
  length_le := Nat.le_add_right_of_le b.length_le
  aligned := by
    obtain ⟨c, hc⟩ := b.aligned
    have hlength := b.length_le
    refine ⟨c, ?_⟩
    rw [BitVec.toNat_append, BitVec.toNat_ofNat, Nat.zero_mod, Nat.or_zero, Nat.shiftLeft_eq, hc,
      Nat.sub_add_comm hlength, Nat.pow_add]
    ring

/-- **The leading bits decide.** -/
theorem mem_extend_iff {m : Nat} (b : Block n) (x : BitVec (n + m)) :
    x ∈ b.extend m ↔ x.extractLsb' m n ∈ b := by
  have hbase : (b.extend m).base.toNat = b.base.toNat * 2 ^ m := by
    rw [Block.extend, BitVec.toNat_append, BitVec.toNat_ofNat, Nat.zero_mod, Nat.or_zero, Nat.shiftLeft_eq]
  have hsize : 2 ^ (n + m - b.length) = 2 ^ (n - b.length) * 2 ^ m := by
    rw [Nat.sub_add_comm b.length_le, Nat.pow_add]
  have htop : (x.extractLsb' m n).toNat = x.toNat / 2 ^ m := by
    have hlt : x.toNat / 2 ^ m < 2 ^ n := by
      rw [Nat.div_lt_iff_lt_mul (Nat.two_pow_pos m), ← Nat.pow_add]
      exact x.isLt
    rw [BitVec.extractLsb'_toNat, Nat.shiftRight_eq_div_pow, Nat.mod_eq_of_lt hlt]
  rw [mem_iff, mem_iff, hbase, show (b.extend m).length = b.length from rfl, hsize, htop, ← Nat.add_mul,
    Nat.le_div_iff_mul_le (Nat.two_pow_pos m), Nat.div_lt_iff_lt_mul (Nat.two_pow_pos m)]

end Cidr
