import Mathlib.Data.Int.Log
import Mathlib.Data.Rat.Floor
import Mathlib.Tactic

/-!
Binary64 arithmetic over exact values.

A finite number is its sign and its magnitude, a rational number with 53 significant bits. An
operation computes the exact result and rounds it once: to the nearest number, and to the even one
of two. What is needed of this elsewhere: rounding is monotone, it leaves numbers alone, and it is
off by half a unit of the last place at most. A NaN has neither sign nor payload here.
-/

namespace Pnio

namespace Binary64

/-! ### Rounding -/

/-- The natural number nearest to `x`, the even one of two. -/
def halfEven (x : ℚ) : ℕ :=
  let n := ⌊x⌋₊
  if x - n < 1 / 2 ∨ x - n = 1 / 2 ∧ Even n then n else n + 1

/-- The exponent of the last place of a number near `q`. -/
def ulpExp (q : ℚ) : ℤ := max (Int.log 2 q - 52) (-1074)

/-- The rounded value, with no bound from above. -/
def nearest (q : ℚ) : ℚ := halfEven (q / 2 ^ ulpExp q) * 2 ^ ulpExp q

@[simp] lemma halfEven_natCast (n : ℕ) : halfEven n = n := by
  simp [halfEven]

lemma halfEven_eq (x : ℚ) : halfEven x = ⌊x⌋₊ ∧ x - ⌊x⌋₊ ≤ 1 / 2 ∨
    halfEven x = ⌊x⌋₊ + 1 ∧ 1 / 2 ≤ x - ⌊x⌋₊ := by
  unfold halfEven
  dsimp only
  split_ifs with h
  · exact .inl ⟨rfl, h.elim le_of_lt fun h => h.1.le⟩
  · exact .inr ⟨rfl, not_lt.1 fun hlt => h (.inl hlt)⟩

lemma floor_le_halfEven (x : ℚ) : ⌊x⌋₊ ≤ halfEven x := by
  rcases halfEven_eq x with ⟨h, -⟩ | ⟨h, -⟩ <;> omega

lemma halfEven_le_floor (x : ℚ) : halfEven x ≤ ⌊x⌋₊ + 1 := by
  rcases halfEven_eq x with ⟨h, -⟩ | ⟨h, -⟩ <;> omega

lemma halfEven_mono : Monotone halfEven := by
  intro x y hxy
  rcases (Nat.floor_mono hxy).lt_or_eq with hlt | heq
  · exact (halfEven_le_floor x).trans ((Nat.succ_le_of_lt hlt).trans (floor_le_halfEven y))
  · -- with one floor, `x` goes up only if `y` does
    unfold halfEven
    dsimp only
    rw [heq]
    split_ifs with hx hy hy
    · exact le_rfl
    · exact Nat.le_succ _
    · refine absurd ?_ hx
      have hsub : x - (⌊y⌋₊ : ℚ) ≤ y - ⌊y⌋₊ := sub_le_sub_right hxy _
      rcases hy with hy | ⟨hy, heven⟩
      · exact .inl (hsub.trans_lt hy)
      · rcases (hsub.trans_eq hy).lt_or_eq with h | h
        · exact .inl h
        · exact .inr ⟨h, heven⟩
    · exact le_rfl

lemma abs_halfEven_sub_le {x : ℚ} (hx : 0 ≤ x) : |(halfEven x : ℚ) - x| ≤ 1 / 2 := by
  have hfloor := Nat.floor_le hx
  have hlt := Nat.lt_floor_add_one x
  rw [abs_le]
  rcases halfEven_eq x with ⟨h, hle⟩ | ⟨h, hge⟩
  · rw [h]
    constructor <;> linarith
  · rw [h]
    push_cast
    constructor <;> linarith

section Round

variable {q q' : ℚ}

lemma two_zpow_pos (k : ℤ) : (0 : ℚ) < 2 ^ k := zpow_pos two_pos k

lemma nearest_nonneg (q : ℚ) : 0 ≤ nearest q :=
  mul_nonneg (Nat.cast_nonneg _) (two_zpow_pos _).le

@[simp] lemma nearest_zero : nearest 0 = 0 := by
  have h := halfEven_natCast 0
  rw [Nat.cast_zero] at h
  simp [nearest, h]

lemma neg_1074_le_ulpExp (q : ℚ) : -1074 ≤ ulpExp q := le_max_right _ _

/-- What is below `2 ^ (n + 53)` has its last place at `n` or below. -/
lemma ulpExp_le {n : ℤ} (hq : 0 < q) (hn : -1074 ≤ n) (h : q < 2 ^ (n + 53)) : ulpExp q ≤ n := by
  have hlog : ((2 : ℕ) : ℚ) ^ Int.log 2 q ≤ q := Int.zpow_log_le_self one_lt_two hq
  have hlt : Int.log 2 q < n + 53 := (zpow_lt_zpow_iff_right₀ one_lt_two).1 (hlog.trans_lt h)
  exact max_le (by omega) hn

lemma lt_two_zpow_ulpExp (q : ℚ) : q < 2 ^ (ulpExp q + 53) := by
  have hlt : q < ((2 : ℕ) : ℚ) ^ (Int.log 2 q + 1) := Int.lt_zpow_succ_log_self one_lt_two q
  refine hlt.trans_le (zpow_le_zpow_right₀ one_le_two ?_)
  have := le_max_left (Int.log 2 q - 52) (-1074)
  unfold ulpExp
  omega

lemma two_zpow_ulpExp_le (hq : 0 < q) (h : -1074 < ulpExp q) : 2 ^ (ulpExp q + 52) ≤ q := by
  have hlog : ((2 : ℕ) : ℚ) ^ Int.log 2 q ≤ q := Int.zpow_log_le_self one_lt_two hq
  have hexp : ulpExp q + 52 = Int.log 2 q := by
    unfold ulpExp at h ⊢
    omega
  rw [hexp]
  exact hlog

/-- In units of the last place a number has at most 53 bits. -/
lemma halfEven_units_le (q : ℚ) : halfEven (q / 2 ^ ulpExp q) ≤ 2 ^ 53 := by
  have hdiv : q / 2 ^ ulpExp q ≤ ((2 ^ 53 : ℕ) : ℚ) := by
    rw [div_le_iff₀ (two_zpow_pos _), Nat.cast_pow, Nat.cast_ofNat, ← zpow_natCast,
      ← zpow_add₀ two_ne_zero, add_comm]
    exact (lt_two_zpow_ulpExp q).le
  exact (halfEven_mono hdiv).trans_eq (halfEven_natCast _)

/-- And, if it is not too small, not less. -/
lemma le_halfEven_units (hq : 0 < q) (h : -1074 < ulpExp q) :
    2 ^ 52 ≤ halfEven (q / 2 ^ ulpExp q) := by
  have hdiv : ((2 ^ 52 : ℕ) : ℚ) ≤ q / 2 ^ ulpExp q := by
    rw [le_div_iff₀ (two_zpow_pos _), Nat.cast_pow, Nat.cast_ofNat, ← zpow_natCast,
      ← zpow_add₀ two_ne_zero, add_comm]
    exact two_zpow_ulpExp_le hq h
  exact (halfEven_natCast _).symm.trans_le (halfEven_mono hdiv)

/-- **Rounding is monotone.** -/
lemma nearest_mono (hq : 0 ≤ q) (h : q ≤ q') : nearest q ≤ nearest q' := by
  rcases hq.eq_or_lt with rfl | hpos
  · rw [nearest_zero]
    exact nearest_nonneg q'
  have hexp : ulpExp q ≤ ulpExp q' :=
    max_le_max_right _ (sub_le_sub_right (Int.log_mono_right hpos h) _)
  unfold nearest
  rcases hexp.lt_or_eq with hlt | heq
  · -- a power of two stands between the two numbers
    have hlow : (halfEven (q / 2 ^ ulpExp q) : ℚ) ≤ 2 ^ (53 : ℤ) := by
      exact_mod_cast halfEven_units_le q
    have hhigh : (2 : ℚ) ^ (52 : ℤ) ≤ halfEven (q' / 2 ^ ulpExp q') := by
      exact_mod_cast le_halfEven_units (hpos.trans_le h) ((neg_1074_le_ulpExp q).trans_lt hlt)
    calc (halfEven (q / 2 ^ ulpExp q) : ℚ) * 2 ^ ulpExp q
        ≤ 2 ^ (53 : ℤ) * 2 ^ ulpExp q := mul_le_mul_of_nonneg_right hlow (two_zpow_pos _).le
      _ = 2 ^ (53 + ulpExp q) := (zpow_add₀ two_ne_zero _ _).symm
      _ ≤ 2 ^ (52 + ulpExp q') := zpow_le_zpow_right₀ one_le_two (by omega)
      _ = 2 ^ (52 : ℤ) * 2 ^ ulpExp q' := zpow_add₀ two_ne_zero _ _
      _ ≤ halfEven (q' / 2 ^ ulpExp q') * 2 ^ ulpExp q' :=
          mul_le_mul_of_nonneg_right hhigh (two_zpow_pos _).le
  · rw [← heq]
    have hhalf : halfEven (q / 2 ^ ulpExp q) ≤ halfEven (q' / 2 ^ ulpExp q) :=
      halfEven_mono (div_le_div_of_nonneg_right h (two_zpow_pos _).le)
    exact mul_le_mul_of_nonneg_right (by exact_mod_cast hhalf) (two_zpow_pos _).le

/-- Rounding is off by half a unit of the last place at most. -/
lemma abs_nearest_sub_le (hq : 0 ≤ q) : |nearest q - q| ≤ 2 ^ ulpExp q / 2 := by
  have hpos := two_zpow_pos (ulpExp q)
  have hhalf := abs_halfEven_sub_le (div_nonneg hq hpos.le)
  have hunits : q = q / 2 ^ ulpExp q * 2 ^ ulpExp q := (div_mul_cancel₀ q hpos.ne').symm
  calc |nearest q - q|
      = |((halfEven (q / 2 ^ ulpExp q) : ℚ) - q / 2 ^ ulpExp q) * 2 ^ ulpExp q| := by
        rw [sub_mul, ← hunits, nearest]
    _ = |(halfEven (q / 2 ^ ulpExp q) : ℚ) - q / 2 ^ ulpExp q| * 2 ^ ulpExp q := by
        rw [abs_mul, abs_of_pos hpos]
    _ ≤ 1 / 2 * 2 ^ ulpExp q := mul_le_mul_of_nonneg_right hhalf hpos.le
    _ = 2 ^ ulpExp q / 2 := by ring

/-- The numbers up to `2 ^ (n + 53)` are rounded with an error of `2 ^ (n - 1)` at most. -/
lemma abs_nearest_sub_le_of_lt {n : ℤ} (hq : 0 ≤ q) (hn : -1074 ≤ n) (h : q < 2 ^ (n + 53)) :
    |nearest q - q| ≤ 2 ^ n / 2 := by
  rcases hq.eq_or_lt with rfl | hpos
  · rw [nearest_zero, sub_zero, abs_zero]
    exact div_nonneg (two_zpow_pos n).le two_pos.le
  · refine (abs_nearest_sub_le hq).trans (div_le_div_of_nonneg_right ?_ two_pos.le)
    exact zpow_le_zpow_right₀ one_le_two (ulpExp_le hpos hn h)

/-! ### The grid -/

/-- A magnitude with 53 bits and a last place that is not too small. -/
def OnGrid (q : ℚ) : Prop := ∃ (m : ℕ) (k : ℤ), m < 2 ^ 53 ∧ -1074 ≤ k ∧ q = m * 2 ^ k

lemma onGrid_natCast {n : ℕ} (h : n ≤ 2 ^ 53) : OnGrid n := by
  rcases h.lt_or_eq with h | rfl
  · exact ⟨n, 0, h, by norm_num, by simp⟩
  · exact ⟨1, 53, by norm_num, by norm_num, by norm_num⟩

/-- Rounding ends on the grid. -/
lemma onGrid_nearest (q : ℚ) : OnGrid (nearest q) := by
  have hexp := neg_1074_le_ulpExp q
  rcases (halfEven_units_le q).lt_or_eq with hlt | heq
  · exact ⟨_, _, hlt, hexp, rfl⟩
  · refine ⟨1, 53 + ulpExp q, by norm_num, by omega, ?_⟩
    rw [nearest, heq, zpow_add₀ two_ne_zero]
    norm_num

/-- Rounding leaves the grid alone. -/
lemma nearest_of_onGrid (h : OnGrid q) : nearest q = q := by
  obtain ⟨m, k, hm, hk, hq⟩ := h
  rcases Nat.eq_zero_or_pos m with rfl | hpos
  · simp [hq]
  have hlt : q < 2 ^ (k + 53) := by
    have hm' : (m : ℚ) < 2 ^ (53 : ℤ) := by exact_mod_cast hm
    rw [hq, zpow_add₀ two_ne_zero, mul_comm]
    exact mul_lt_mul_of_pos_left hm' (two_zpow_pos k)
  have hqpos : 0 < q := by
    rw [hq]
    exact mul_pos (by exact_mod_cast hpos) (two_zpow_pos k)
  obtain ⟨j, hj⟩ := Int.le.dest (ulpExp_le hqpos hk hlt)
  -- in units of the last place the number is a natural one
  have hunits : q / 2 ^ ulpExp q = ((m * 2 ^ j : ℕ) : ℚ) := by
    rw [div_eq_iff (two_zpow_pos _).ne']
    nth_rewrite 1 [hq]
    rw [← hj, zpow_add₀ two_ne_zero, zpow_natCast]
    push_cast
    ring
  rw [nearest, hunits, halfEven_natCast, ← hunits, div_mul_cancel₀ _ (two_zpow_pos _).ne']

lemma nearest_natCast {n : ℕ} (h : n ≤ 2 ^ 53) : nearest n = n :=
  nearest_of_onGrid (onGrid_natCast h)

end Round

end Binary64

open Binary64

/-! ### Numbers -/

/-- What is not below is rounded to infinity. -/
def Binary64.limit : ℚ := 2 ^ 1024

/-- A binary64 number: a finite one is its sign and its magnitude. -/
inductive F64 where
  | nan
  | inf (neg : Bool)
  | fin (neg : Bool) (mag : { q : ℚ // OnGrid q ∧ q < limit })

namespace F64

/-- The exact result `q` with its sign, as an operation returns it. -/
def ofRat (neg : Bool) (q : ℚ) : F64 :=
  if h : nearest q < limit then fin neg ⟨nearest q, onGrid_nearest q, h⟩ else inf neg

/-- An unsigned integer `as f64`. -/
def ofNat (n : ℕ) : F64 := ofRat false n

instance (n : ℕ) : OfNat F64 n := ⟨ofNat n⟩

/-- The value of a finite number. -/
def signed (neg : Bool) (q : ℚ) : ℚ := if neg then -q else q

/-- `<`, which a NaN never is. -/
def lt : F64 → F64 → Bool
  | nan, _ => false
  | _, nan => false
  | inf a, inf b => a && !b
  | inf a, fin _ _ => a
  | fin _ _, inf b => !b
  | fin a x, fin b y => signed a x < signed b y

def clamp (x lo hi : F64) : F64 :=
  let x := if x.lt lo then lo else x
  if hi.lt x then hi else x

def mul : F64 → F64 → F64
  | nan, _ => nan
  | _, nan => nan
  | inf a, inf b => inf (a ^^ b)
  | inf a, fin b y => if y.val = 0 then nan else inf (a ^^ b)
  | fin a x, inf b => if x.val = 0 then nan else inf (a ^^ b)
  | fin a x, fin b y => ofRat (a ^^ b) (x * y)

def div : F64 → F64 → F64
  | nan, _ => nan
  | _, nan => nan
  | inf _, inf _ => nan
  | inf a, fin b _ => inf (a ^^ b)
  | fin a _, inf b => ofRat (a ^^ b) 0
  | fin a x, fin b y =>
    if y.val = 0 then if x.val = 0 then nan else inf (a ^^ b) else ofRat (a ^^ b) (x / y)

/-- Up to the next integer, which is a number again. -/
def ceil : F64 → F64
  | fin neg x => ofRat neg (if neg then ⌊x.val⌋₊ else ⌈x.val⌉₊)
  | x => x

/-- The greater one; a NaN gives way. -/
def max : F64 → F64 → F64
  | nan, y => y
  | x, nan => x
  | x, y => if x.lt y then y else x

/-- `as u64`: cut off, and saturated on both sides. -/
def toU64 : F64 → ℕ
  | nan => 0
  | inf neg => if neg then 0 else 2 ^ 64 - 1
  | fin neg x => if neg then 0 else min ⌊x.val⌋₊ (2 ^ 64 - 1)

@[simp] lemma nan_lt (x : F64) : nan.lt x = false := rfl

@[simp] lemma lt_nan (x : F64) : x.lt nan = false := by
  cases x <;> rfl

@[simp] lemma clamp_nan (lo hi : F64) : nan.clamp lo hi = nan := by
  simp [clamp]

@[simp] lemma nan_div (x : F64) : nan.div x = nan := rfl

@[simp] lemma nan_mul (x : F64) : nan.mul x = nan := rfl

/-- The number is `q`, which is not negative; a zero may have either sign. -/
def Is (x : F64) (q : ℚ) : Prop := ∃ neg mag, x = fin neg mag ∧ mag.val = q ∧ (neg = true → q = 0)

section Is

variable {x y : F64} {a b : ℚ} {n : ℕ}

lemma Is.nonneg (h : x.Is a) : 0 ≤ a := by
  obtain ⟨neg, ⟨q, ⟨m, k, -, -, rfl⟩, -⟩, -, rfl, -⟩ := h
  exact mul_nonneg (Nat.cast_nonneg _) (two_zpow_pos _).le

lemma is_ofRat {neg : Bool} {q : ℚ} (hfit : nearest q < limit) (hneg : neg = true → q = 0) :
    (ofRat neg q).Is (nearest q) := by
  refine ⟨neg, ⟨nearest q, onGrid_nearest q, hfit⟩, dif_pos hfit, rfl, fun h => ?_⟩
  rw [hneg h, nearest_zero]

lemma natCast_lt_limit (h : n ≤ 2 ^ 53) : (n : ℚ) < limit := by
  have hle : (n : ℚ) ≤ 2 ^ 53 := by exact_mod_cast h
  exact hle.trans_lt (pow_lt_pow_right₀ one_lt_two (by norm_num))

lemma is_ofNat (h : n ≤ 2 ^ 53) : (ofNat n).Is n := by
  have hnear := nearest_natCast h
  have his : (ofRat false n).Is (nearest n) :=
    is_ofRat (hnear.symm ▸ natCast_lt_limit h) nofun
  rwa [hnear] at his

lemma Is.mul (hx : x.Is a) (hy : y.Is b) (hfit : nearest (a * b) < limit) :
    (x.mul y).Is (nearest (a * b)) := by
  obtain ⟨s, p, rfl, rfl, hs⟩ := hx
  obtain ⟨t, q, rfl, rfl, ht⟩ := hy
  refine is_ofRat hfit fun hneg => ?_
  cases s with
  | true => rw [hs rfl, zero_mul]
  | false => rw [ht (by simpa using hneg), mul_zero]

lemma Is.div (hx : x.Is a) (hy : y.Is b) (hb : b ≠ 0) (hfit : nearest (a / b) < limit) :
    (x.div y).Is (nearest (a / b)) := by
  obtain ⟨s, p, rfl, rfl, hs⟩ := hx
  obtain ⟨t, q, rfl, rfl, ht⟩ := hy
  have hdiv : (fin s p).div (fin t q) = ofRat (s ^^ t) (p / q) := if_neg hb
  rw [hdiv]
  refine is_ofRat hfit fun hneg => ?_
  cases s with
  | true => rw [hs rfl, zero_div]
  | false => exact absurd (ht (by simpa using hneg)) hb

lemma Is.ceil (hx : x.Is a) (hn : ⌈a⌉₊ ≤ 2 ^ 53) : x.ceil.Is ⌈a⌉₊ := by
  obtain ⟨s, p, rfl, rfl, hs⟩ := hx
  have hnear := nearest_natCast hn
  cases s with
  | true =>
    have hzero := hs rfl
    have hfit : nearest 0 < limit := by
      rw [nearest_zero]
      exact_mod_cast natCast_lt_limit (Nat.zero_le _)
    have his : (ofRat true 0).Is (nearest 0) := is_ofRat hfit fun _ => rfl
    simpa [F64.ceil, hzero] using his
  | false =>
    have his : (ofRat false ⌈p.val⌉₊).Is (nearest ⌈p.val⌉₊) :=
      is_ofRat (hnear.symm ▸ natCast_lt_limit hn) nofun
    rwa [hnear] at his

lemma signed_of_is {neg : Bool} {q : ℚ} (h : neg = true → q = 0) : signed neg q = q := by
  cases neg with
  | true => simp [signed, h rfl]
  | false => rfl

lemma Is.lt (hx : x.Is a) (hy : y.Is b) : x.lt y = decide (a < b) := by
  obtain ⟨s, p, rfl, rfl, hs⟩ := hx
  obtain ⟨t, q, rfl, rfl, ht⟩ := hy
  simp only [F64.lt, signed_of_is hs, signed_of_is ht]

/-- Below the range, whatever the sign. -/
lemma Is.clamp_low {lo hi : F64} {c : ℚ} (hlo : lo.Is b) (hhi : hi.Is c) (hbc : b ≤ c)
    (h : x.lt lo = true) : (x.clamp lo hi).Is b := by
  have hnot : hi.lt lo = false := by rw [hhi.lt hlo, decide_eq_false (not_lt.2 hbc)]
  simpa [F64.clamp, h, hnot] using hlo

lemma Is.clamp {lo hi : F64} {c : ℚ} (hx : x.Is a) (hlo : lo.Is b) (hhi : hi.Is c) (hbc : b ≤ c) :
    (x.clamp lo hi).Is (min (Max.max a b) c) := by
  by_cases h : a < b
  · rw [max_eq_right h.le, min_eq_left hbc]
    exact hlo.clamp_low hhi hbc (by rw [hx.lt hlo, decide_eq_true h])
  · have hx' := hx.lt hlo
    have hhi' := hhi.lt hx
    rw [decide_eq_false h] at hx'
    rw [max_eq_left (not_lt.1 h)]
    by_cases hc : c < a
    · rw [decide_eq_true hc] at hhi'
      rw [min_eq_right hc.le]
      simpa [F64.clamp, hx', hhi'] using hhi
    · rw [decide_eq_false hc] at hhi'
      rw [min_eq_left (not_lt.1 hc)]
      simpa [F64.clamp, hx', hhi'] using hx

lemma Is.max (hx : x.Is a) (hy : y.Is b) : (x.max y).Is (Max.max a b) := by
  have hlt := hx.lt hy
  have hmax : x.max y = if x.lt y then y else x := by
    obtain ⟨s, p, rfl, -, -⟩ := hx
    obtain ⟨t, q, rfl, -, -⟩ := hy
    rfl
  rw [hmax, hlt]
  by_cases h : a < b
  · rw [decide_eq_true h, if_pos rfl, max_eq_right h.le]
    exact hy
  · rw [decide_eq_false h, if_neg (by simp), max_eq_left (not_lt.1 h)]
    exact hx

lemma Is.toU64 (hx : x.Is n) (hn : n < 2 ^ 64) : x.toU64 = n := by
  obtain ⟨s, p, rfl, hp, hs⟩ := hx
  cases s with
  | true =>
    have hzero : n = 0 := by exact_mod_cast hs rfl
    rw [hzero]
    rfl
  | false =>
    change min ⌊p.val⌋₊ (2 ^ 64 - 1) = n
    rw [hp, Nat.floor_natCast]
    omega

end Is

end F64

end Pnio
