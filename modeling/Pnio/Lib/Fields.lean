import Mathlib.Data.Nat.Bitwise
import Mathlib.Tactic

/-!
Numbers packed into the bits of a word, from the lowest bit up.
-/

namespace Pnio

/-- The low `k` bits of `x` hold `n`, and the others are clear. -/
structure Fielded (x : UInt16) (k n : Nat) : Prop where
  value : x.toNat = n
  lt : n < 2 ^ k

namespace Fielded

variable {x y m : UInt16} {k l w n v : Nat}

lemma mono (h : Fielded x k n) (hk : k ≤ l) : Fielded x l n :=
  ⟨h.value, lt_of_lt_of_le h.lt (Nat.pow_le_pow_right (by decide) hk)⟩

/-- A field of `w` bits goes above those in use. -/
lemma field (h : Fielded x k n) (hy : y.toNat = v * 2 ^ k) (hv : v < 2 ^ w) :
    Fielded (x ||| y) (k + w) (n + v * 2 ^ k) := by
  obtain ⟨hx, hn⟩ := h
  constructor
  · rw [UInt16.toNat_or, hx, hy, Nat.or_comm, ← Nat.shiftLeft_eq,
      ← Nat.shiftLeft_add_eq_or_of_lt hn, Nat.add_comm]
  · calc n + v * 2 ^ k < 2 ^ k + v * 2 ^ k := Nat.add_lt_add_right hn _
      _ = (v + 1) * 2 ^ k := by rw [Nat.add_mul, Nat.one_mul, Nat.add_comm]
      _ ≤ 2 ^ w * 2 ^ k := Nat.mul_le_mul_right _ hv
      _ = 2 ^ (k + w) := by rw [Nat.pow_add, Nat.mul_comm]

/-- Reading the low bits. -/
lemma toNat_and (x : UInt16) (hm : m.toNat = 2 ^ k - 1) : (x &&& m).toNat = x.toNat % 2 ^ k := by
  rw [UInt16.toNat_and, hm, Nat.and_two_pow_sub_one_eq_mod]

/-- Reading a flag. -/
lemma and_bne_zero {b : Bool} (hm : m.toNat = 2 ^ k) (hb : x.toNat / 2 ^ k % 2 = b.toNat) :
    (x &&& m != 0) = b := by
  have hbit : x.toNat.testBit k = b := by
    rw [Nat.testBit_eq_decide_div_mod_eq, hb]
    cases b <;> rfl
  have hand : (x &&& m).toNat = b.toNat * 2 ^ k := by
    rw [UInt16.toNat_and, hm, Nat.and_two_pow, hbit]
  cases b with
  | true =>
    have hpos := Nat.two_pow_pos k
    rw [Bool.toNat_true, Nat.one_mul] at hand
    rw [bne_iff_ne]
    intro h0
    rw [h0, UInt16.toNat_zero] at hand
    omega
  | false =>
    rw [Bool.toNat_false, Nat.zero_mul] at hand
    have h0 : x &&& m = 0 := UInt16.toNat_inj.1 hand
    rw [h0]
    rfl

end Fielded

end Pnio
