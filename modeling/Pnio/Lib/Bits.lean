import Mathlib.Data.List.GetD
import Pnio.Lib.Bytes
import Pnio.Lib.Spans

/-!
Ranges of byte strings, by bytes and bit by bit: what is written to one range is not seen in
another. Bit `k` of byte `n` has the number `8 * n + k`.
-/

namespace Pnio

/-! ### Ranges of bytes -/

/-- The part of a list in a range. -/
def cut {α : Type} (l : List α) (s : Span) : List α := (l.drop s.off).take s.len

section Cut

variable {α ε : Type} {l l' : List α} {s t : Span} {b b' src : Bytes} {off : Nat}

lemma length_cut (h : s.off + s.len ≤ l.length) : (cut l s).length = s.len := by
  rw [cut, List.length_take, List.length_drop]
  omega

lemma cut_congr (h : ∀ i, s.Has i → l[i]? = l'[i]?) : cut l s = cut l' s := by
  apply List.ext_getElem?
  intro j
  unfold cut
  rcases Nat.lt_or_ge j s.len with hj | hj
  · rw [List.getElem?_take_of_lt hj, List.getElem?_take_of_lt hj, List.getElem?_drop,
      List.getElem?_drop]
    exact h _ ⟨Nat.le_add_right _ _, Nat.add_lt_add_left hj _⟩
  · rw [List.getElem?_take_eq_none hj, List.getElem?_take_eq_none hj]

lemma cut_append_left (h : s.off + s.len ≤ l.length) : cut (l ++ l') s = cut l s := by
  refine cut_congr fun i hi => ?_
  rw [List.getElem?_append_left (by unfold Span.Has at hi; omega)]

lemma cut_take {n : Nat} (h : s.off + s.len ≤ n) : cut (l.take n) s = cut l s := by
  refine cut_congr fun i hi => ?_
  rw [List.getElem?_take_of_lt (by unfold Span.Has at hi; omega)]

lemma getElem?_patch (h : (patch b off src : Res ε _) = .ok b') (i : Nat) :
    b'[i]? = if off ≤ i ∧ i < off + src.length then src[i - off]? else b[i]? := by
  obtain ⟨hle, rfl⟩ := patch_eq_ok.1 h
  have hlen : (b.take off).length = off := by
    rw [List.length_take]
    omega
  rcases Nat.lt_or_ge i off with h1 | h1
  · rw [if_neg (by omega), List.append_assoc, List.getElem?_append_left (by omega),
      List.getElem?_take_of_lt h1]
  · rcases Nat.lt_or_ge i (off + src.length) with h2 | h2
    · rw [if_pos ⟨h1, h2⟩, List.getElem?_append_left (by rw [List.length_append]; omega),
        List.getElem?_append_right (by omega), hlen]
    · rw [if_neg (by omega), List.getElem?_append_right (by rw [List.length_append]; omega),
        List.length_append, hlen, List.getElem?_drop]
      congr 1
      omega

/-- What was written is there. -/
lemma cut_patch_self (h : (patch b off src : Res ε _) = .ok b') :
    cut b' ⟨off, src.length⟩ = src := by
  obtain ⟨hle, rfl⟩ := patch_eq_ok.1 h
  have hlen : (b.take off).length = off := by
    rw [List.length_take]
    omega
  rw [cut, List.append_assoc]
  dsimp only
  rw [List.drop_append_of_le_length (by omega), List.drop_of_length_le (by omega),
    List.nil_append, List.take_left]

/-- A range apart from what was written stays. -/
lemma cut_patch_apart (h : (patch b off src : Res ε _) = .ok b')
    (hs : s.Apart ⟨off, src.length⟩) : cut b' s = cut b s := by
  refine cut_congr fun i hi => ?_
  rw [getElem?_patch h, if_neg fun hi' => hs.not_has hi ⟨hi'.1, hi'.2⟩]

end Cut

/-! ### The bits of a byte -/

/-- Bit `k` of a byte, counted from the least significant one. -/
def bitOf (x : UInt8) (k : Nat) : Bool := (x >>> UInt8.ofNat k) &&& 1 == 1

/-- The byte with bit `k` set to `v`. -/
def withBit (x : UInt8) (k : Nat) (v : Bool) : UInt8 :=
  if v then x ||| (1 <<< UInt8.ofNat k) else x &&& ~~~(1 <<< UInt8.ofNat k)

lemma shift_eq {k : Nat} (hk : k < 8) : (UInt8.ofNat k).toNat % 8 = k := by
  rw [UInt8.toNat_ofNat']
  omega

lemma bitOf_eq_testBit (x : UInt8) {k : Nat} (hk : k < 8) : bitOf x k = x.toNat.testBit k := by
  unfold bitOf
  rw [Bool.eq_iff_iff, beq_iff_eq, ← UInt8.toNat_inj, UInt8.toNat_and, UInt8.toNat_shiftRight,
    shift_eq hk, Nat.testBit_eq_decide_div_mod_eq]
  simp [Nat.shiftRight_eq_div_pow]

lemma testBit_mask {j k : Nat} (hj : j < 8) (hk : k < 8) :
    ((1 : UInt8) <<< UInt8.ofNat k).toNat.testBit j = decide (j = k) := by
  rw [UInt8.toNat_shiftLeft, shift_eq hk, Nat.testBit_mod_two_pow]
  simp [hj, Nat.shiftLeft_eq, Nat.testBit_two_pow, eq_comm]

lemma testBit_not (x : UInt8) {j : Nat} (hj : j < 8) :
    (~~~x).toNat.testBit j = !x.toNat.testBit j := by
  have h := Nat.testBit_two_pow_sub_succ x.toNat_lt j
  rw [UInt8.toNat_not]
  simpa [hj] using h

lemma bitOf_withBit (x : UInt8) {j k : Nat} (v : Bool) (hj : j < 8) (hk : k < 8) :
    bitOf (withBit x k v) j = if j = k then v else bitOf x j := by
  rw [bitOf_eq_testBit _ hj, bitOf_eq_testBit _ hj, withBit]
  cases v with
  | true =>
    rw [if_pos rfl, UInt8.toNat_or, Nat.testBit_or, testBit_mask hj hk]
    split_ifs with h <;> simp [h]
  | false =>
    rw [if_neg (by simp), UInt8.toNat_and, Nat.testBit_and, testBit_not _ hj, testBit_mask hj hk]
    split_ifs with h <;> simp [h]

/-- A byte is its eight bits. -/
lemma eq_of_bitOf {x y : UInt8} (h : ∀ k < 8, bitOf x k = bitOf y k) : x = y := by
  apply UInt8.toNat_inj.1
  refine Nat.eq_of_testBit_eq fun k => ?_
  rcases Nat.lt_or_ge k 8 with hk | hk
  · rw [← bitOf_eq_testBit x hk, ← bitOf_eq_testBit y hk]
    exact h k hk
  · have hbig : 2 ^ 8 ≤ 2 ^ k := Nat.pow_le_pow_right (by decide) hk
    rw [Nat.testBit_lt_two_pow (lt_of_lt_of_le x.toNat_lt hbig),
      Nat.testBit_lt_two_pow (lt_of_lt_of_le y.toNat_lt hbig)]

/-! ### The bits of a byte string -/

/-- Bit number `i`; there are only zeros behind the end. -/
def bitAt (b : Bytes) (i : Nat) : Bool := bitOf (b.getD (i / 8) 0) (i % 8)

section Bits

variable {a b : Bytes} {n i : Nat}

lemma bitAt_mul_add {k : Nat} (hk : k < 8) : bitAt b (8 * n + k) = bitOf (b.getD n 0) k := by
  rw [bitAt, show (8 * n + k) / 8 = n by omega, show (8 * n + k) % 8 = k by omega]

lemma bitAt_drop : bitAt (b.drop n) i = bitAt b (8 * n + i) := by
  rw [bitAt, bitAt, show (8 * n + i) / 8 = n + i / 8 by omega,
    show (8 * n + i) % 8 = i % 8 by omega]
  simp [List.getD_eq_getElem?_getD]

lemma bitAt_take (h : i < 8 * n) : bitAt (b.take n) i = bitAt b i := by
  have hi : i / 8 < n := by omega
  rw [bitAt, bitAt]
  simp [List.getD_eq_getElem?_getD, List.getElem?_take_of_lt hi]

lemma bitAt_append_left (h : i < 8 * a.length) : bitAt (a ++ b) i = bitAt a i := by
  rw [bitAt, bitAt, List.getD_append _ _ _ _ (by omega)]

lemma bitAt_append_right (h : 8 * a.length ≤ i) :
    bitAt (a ++ b) i = bitAt b (i - 8 * a.length) := by
  have hle : a.length ≤ i / 8 := by omega
  rw [bitAt, bitAt, List.getD_append_right _ _ _ _ hle,
    show i / 8 - a.length = (i - 8 * a.length) / 8 by omega,
    show (i - 8 * a.length) % 8 = i % 8 by omega]

end Bits

/-! ### Ranges of bits -/

/-- The two byte strings have the same bits in the range. -/
def SameBits (s : Span) (a b : Bytes) : Prop := ∀ i, s.Has i → bitAt a i = bitAt b i

/-- `b'` differs from `b` in the range at most. -/
structure OnlyIn (s : Span) (b b' : Bytes) : Prop where
  length : b'.length = b.length
  rest : ∀ i, ¬ s.Has i → bitAt b' i = bitAt b i

section Ranges

variable {a b b' : Bytes} {s t : Span}

lemma OnlyIn.sameBits (h : OnlyIn s b b') (hd : s.Apart t) : SameBits t b' b :=
  fun i hi => h.rest i (hd.symm.not_has hi)

/-- The bytes of a range that has the same bits. -/
lemma SameBits.take_drop {off n : Nat} (h : SameBits ⟨8 * off, 8 * n⟩ a b)
    (ha : off + n ≤ a.length) (hb : off + n ≤ b.length) :
    (a.drop off).take n = (b.drop off).take n := by
  apply List.ext_getElem?
  intro j
  rcases Nat.lt_or_ge j n with hj | hj
  · have hbyte : a.getD (off + j) 0 = b.getD (off + j) 0 := by
      refine eq_of_bitOf fun k hk => ?_
      rw [← bitAt_mul_add hk, ← bitAt_mul_add hk]
      refine h _ ⟨?_, ?_⟩
      · dsimp only
        omega
      · dsimp only
        omega
    rw [List.getElem?_take_of_lt hj, List.getElem?_take_of_lt hj, List.getElem?_drop,
      List.getElem?_drop, List.getElem?_eq_getElem (by omega), List.getElem?_eq_getElem (by omega)]
    rw [List.getD_eq_getElem _ _ (by omega), List.getD_eq_getElem _ _ (by omega)] at hbyte
    rw [hbyte]
  · rw [List.getElem?_take_eq_none hj, List.getElem?_take_eq_none hj]

/-- Overwriting the front of a byte string. -/
lemma onlyIn_front {src : Bytes} (h : src.length ≤ b.length) :
    OnlyIn ⟨0, 8 * src.length⟩ b (src ++ b.drop src.length) := by
  refine ⟨?_, fun i hi => ?_⟩
  · rw [List.length_append, List.length_drop]
    omega
  · have hle : 8 * src.length ≤ i := by
      unfold Span.Has at hi
      dsimp only at hi
      omega
    rw [bitAt_append_right hle, bitAt_drop]
    congr 1
    omega

/-- Setting one bit. -/
lemma onlyIn_set {n k : Nat} (v : Bool) (hn : n < b.length) (hk : k < 8) :
    OnlyIn ⟨8 * n + k, 1⟩ b (b.set n (withBit (b.getD n 0) k v)) := by
  refine ⟨List.length_set, fun i hi => ?_⟩
  unfold Span.Has at hi
  dsimp only at hi
  rw [bitAt, bitAt, List.getD_eq_getElem?_getD, List.getElem?_set]
  by_cases hbyte : n = i / 8
  · have hne : i % 8 ≠ k := by omega
    rw [if_pos hbyte, if_pos (by omega), Option.getD_some,
      bitOf_withBit _ _ (Nat.mod_lt _ (by decide)) hk, if_neg hne, hbyte]
  · rw [if_neg hbyte, List.getD_eq_getElem?_getD]

/-- What changes the tail of a byte string, as a change of the whole. -/
lemma OnlyIn.tail {n k l : Nat} (hn : n ≤ b.length) (h : OnlyIn ⟨k, l⟩ (b.drop n) b') :
    OnlyIn ⟨8 * n + k, l⟩ b (b.take n ++ b') := by
  have hlen : (b.take n).length = n := by
    rw [List.length_take]
    omega
  have hlen' := h.length
  rw [List.length_drop] at hlen'
  refine ⟨?_, fun i hi => ?_⟩
  · rw [List.length_append, hlen, hlen']
    omega
  · rcases Nat.lt_or_ge i (8 * n) with hlt | hge
    · rw [bitAt_append_left (by omega), bitAt_take hlt]
    · rw [bitAt_append_right (by omega), hlen, h.rest, bitAt_drop]
      · congr 1
        omega
      · unfold Span.Has at hi ⊢
        dsimp only at hi ⊢
        omega

end Ranges

end Pnio
