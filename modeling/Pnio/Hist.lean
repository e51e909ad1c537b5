import Mathlib.Data.List.Sort
import Mathlib.Algebra.BigOperators.Fin
import Pnio.Lib.Binary64

/-!
The latency histogram of the RT thread: samples are counted in bins of a microsecond, the last
bin takes everything above.

A percentile read off the bins is the bin of one sample, namely of the one that has the wanted
rank among the samples in ascending order. The rank is computed in floating point, so it can be off
by one, but it is always that of a sample.
-/

namespace Pnio

def histBins : Nat := 2048

structure Histogram where
  bins : Fin histBins → Nat
  count : Nat
  maxNs : Nat

namespace Histogram

def new : Histogram := { bins := fun _ => 0, count := 0, maxNs := 0 }

/-- The bin of a sample, in microseconds. -/
def binOf (ns : Nat) : Fin histBins :=
  ⟨min (ns / 1000) (histBins - 1), by unfold histBins; omega⟩

def record (h : Histogram) (ns : Nat) : Histogram :=
  { bins := Function.update h.bins (binOf ns) (h.bins (binOf ns) + 1)
    count := h.count + 1
    maxNs := max h.maxNs ns }

/-- The first bin at which the samples seen reach `target`; the tail if none does. -/
def scan (target : Nat) : List Nat → Nat → Nat → Nat
  | [], _, _ => histBins - 1
  | b :: bs, i, seen => if target ≤ seen + b then i else scan target bs (i + 1) (seen + b)

/-- The rank, from one, of the wanted sample among `count`. -/
def rank (p : F64) (count : Nat) : Nat :=
  ((((p.clamp 0 100).div 100).mul (.ofNat count)).ceil.max 1).toU64

def percentile (h : Histogram) (p : F64) : Option Nat :=
  if h.count = 0 then none else some (scan (rank p h.count) (List.ofFn h.bins) 0 0)

def reset (_ : Histogram) : Histogram := new

inductive Op where
  | record (ns : Nat)
  | reset
deriving DecidableEq, Repr

def step (h : Histogram) : Op → Histogram
  | .record ns => h.record ns
  | .reset => h.reset

/-- The histogram after a history of records and resets. -/
def run (ops : List Op) : Histogram := ops.foldl step new

/-- The samples since the last reset. -/
def samples (ops : List Op) : List Nat :=
  ops.foldl (fun xs op => match op with | .record ns => xs ++ [ns] | .reset => []) []

/-! ### What the bins count -/

/-- The histogram holds the samples `xs`. -/
structure Holds (h : Histogram) (xs : List Nat) : Prop where
  bins : ∀ i, h.bins i = xs.countP (binOf · = i)
  count : h.count = xs.length
  maxNs : h.maxNs = xs.foldr max 0

lemma holds_new : new.Holds [] := ⟨fun _ => rfl, rfl, rfl⟩

lemma Holds.record {h : Histogram} {xs : List Nat} (hh : h.Holds xs) (ns : Nat) :
    (h.record ns).Holds (xs ++ [ns]) := by
  refine ⟨fun i => ?_, ?_, ?_⟩
  · rw [List.countP_append]
    by_cases hi : i = binOf ns
    · subst hi
      simp [Histogram.record, hh.bins]
    · simp [Histogram.record, hh.bins, hi, Ne.symm hi]
  · simp [Histogram.record, hh.count]
  · have hfold : ∀ (ys : List Nat) (m : Nat), (ys ++ [m]).foldr max 0 = max (ys.foldr max 0) m := by
      intro ys m
      induction ys with
      | nil => simp
      | cons y ys ih =>
        simp only [List.cons_append, List.foldr_cons] at ih ⊢
        rw [ih, max_assoc]
    rw [hfold, ← hh.maxNs]
    rfl

lemma holds_run (ops : List Op) : (run ops).Holds (samples ops) := by
  induction ops using List.reverseRecOn with
  | nil => exact holds_new
  | append_singleton ops op ih =>
    simp only [run, samples, List.foldl_append, List.foldl_cons, List.foldl_nil] at ih ⊢
    cases op with
    | record ns => exact ih.record ns
    | reset => exact holds_new

/-- Elements counted by their class, over the classes below `k`. -/
lemma sum_countP {n : Nat} (f : Nat → Fin n) (xs : List Nat) (k : Nat) :
    ∑ j with j.val < k, xs.countP (f · = j) = xs.countP fun x => (f x).val < k := by
  induction xs with
  | nil => simp
  | cons x xs ih =>
    simp only [List.countP_cons, Finset.sum_add_distrib, ih]
    simp

/-- The bins below `k` hold the samples below bin `k`. -/
lemma Holds.sum_take {h : Histogram} {xs : List Nat} (hh : h.Holds xs) (k : Nat) :
    ((List.ofFn h.bins).take k).sum = xs.countP fun x => (binOf x).val < k := by
  rw [List.sum_take_ofFn, ← sum_countP]
  exact Finset.sum_congr rfl fun i _ => hh.bins i

lemma Holds.sum_bins {h : Histogram} {xs : List Nat} (hh : h.Holds xs) :
    (List.ofFn h.bins).sum = xs.length := by
  have htake : (List.ofFn h.bins).take histBins = List.ofFn h.bins :=
    List.take_of_length_le (List.length_ofFn).le
  rw [← htake, hh.sum_take, List.countP_eq_length]
  exact fun x _ => decide_eq_true (binOf x).isLt

/-! ### The scan -/

lemma scan_spec {target : Nat} {bs : List Nat} {seen : Nat} (i : Nat) (hlt : seen < target)
    (hle : target ≤ seen + bs.sum) :
    ∃ k < bs.length, scan target bs i seen = i + k ∧ seen + (bs.take k).sum < target ∧
      target ≤ seen + (bs.take (k + 1)).sum := by
  induction bs generalizing i seen with
  | nil => simp at hle; omega
  | cons b bs ih =>
    rw [scan]
    split_ifs with hb
    · exact ⟨0, by simp, rfl, by simpa using hlt, by simpa using hb⟩
    · obtain ⟨k, hk, hs, hlo, hhi⟩ := ih (i + 1) (not_le.1 hb) (by simpa [add_assoc] using hle)
      refine ⟨k + 1, by simpa using hk, by omega, ?_, ?_⟩
      · simpa [add_assoc] using hlo
      · simpa [add_assoc] using hhi

/-- In ascending order, the elements of a downward closed class come first. -/
lemma lt_countP_iff {xs : List Nat} {p : Nat → Bool} (hs : xs.Pairwise (· ≤ ·))
    (hp : ∀ a b, a ≤ b → p b = true → p a = true) {m : Nat} (hm : m < xs.length) :
    m < xs.countP p ↔ p xs[m] = true := by
  induction xs generalizing m with
  | nil => simp at hm
  | cons x xs ih =>
    obtain ⟨hx, hs⟩ := List.pairwise_cons.1 hs
    by_cases hpx : p x = true
    · rw [List.countP_cons_of_pos hpx]
      cases m with
      | zero => simpa using hpx
      | succ m =>
        have := ih hs (m := m) (by simpa using hm)
        simpa using this
    · have hnone : xs.countP p = 0 := by
        rw [List.countP_eq_zero]
        exact fun y hy h => hpx (hp x y (hx y hy) h)
      rw [List.countP_cons_of_neg hpx, hnone]
      refine ⟨fun h => absurd h (Nat.not_lt_zero m), fun h => absurd ?_ hpx⟩
      cases m with
      | zero => simpa using h
      | succ m => exact hp x _ (hx _ (List.getElem_mem _)) h

lemma binOf_mono {a b : Nat} (h : a ≤ b) : (binOf a).val ≤ (binOf b).val :=
  min_le_min_right _ (Nat.div_le_div_right h)

/-- The bin at which the counted samples reach the rank `r` is the bin of the `r`-th sample. -/
lemma binOf_sorted {xs : List Nat} {r k : Nat} (hr : 1 ≤ r) (hn : r ≤ xs.length)
    (hlo : xs.countP (fun x => (binOf x).val < k) < r)
    (hhi : r ≤ xs.countP fun x => (binOf x).val < k + 1) :
    (xs.insertionSort (· ≤ ·))[r - 1]?.map (fun ns => (binOf ns).val) = some k := by
  have hperm := List.perm_insertionSort (· ≤ ·) xs
  have hsort : (xs.insertionSort (· ≤ ·)).Pairwise (· ≤ ·) := List.pairwise_insertionSort _ xs
  have hdown : ∀ j a b : Nat, a ≤ b → decide ((binOf b).val < j) = true →
      decide ((binOf a).val < j) = true := fun j a b hab h =>
    decide_eq_true ((binOf_mono hab).trans_lt (of_decide_eq_true h))
  have hm : r - 1 < (xs.insertionSort (· ≤ ·)).length := by
    rw [hperm.length_eq]
    omega
  rw [← hperm.countP_eq] at hlo hhi
  have hlow := lt_countP_iff hsort (hdown k) hm
  have hhigh := lt_countP_iff hsort (hdown (k + 1)) hm
  rw [List.getElem?_eq_getElem hm, Option.map_some, Option.some.injEq]
  have h1 : ¬ (binOf ((xs.insertionSort (· ≤ ·))[r - 1])).val < k := fun h => by
    have := hlow.2 (decide_eq_true h)
    omega
  have h2 : (binOf ((xs.insertionSort (· ≤ ·))[r - 1])).val < k + 1 :=
    of_decide_eq_true (hhigh.1 (by omega))
  omega

/-! ### The rank -/

open Binary64

/-- The percentage that is asked for: from 0 to 100, and 0 for a NaN. -/
def percent : F64 → ℚ
  | .nan => 0
  | .inf neg => if neg then 0 else 100
  | .fin neg q => if neg then 0 else min q 100

/-- The share of `n` samples, as it is computed. -/
def share (p : F64) (n : Nat) : ℚ := nearest (nearest (percent p / 100) * n)

section Rank

variable {p p' : F64} {n : Nat}

lemma is_zero : (0 : F64).Is 0 := by exact_mod_cast F64.is_ofNat (Nat.zero_le _)

lemma is_hundred : (100 : F64).Is 100 := by exact_mod_cast F64.is_ofNat (n := 100) (by norm_num)

lemma is_one : (1 : F64).Is 1 := by exact_mod_cast F64.is_ofNat (n := 1) (by norm_num)

lemma percent_mem (p : F64) : 0 ≤ percent p ∧ percent p ≤ 100 := by
  match p with
  | .nan => simp [percent]
  | .inf neg => cases neg <;> simp [percent]
  | .fin true q => simp [percent]
  | .fin false q =>
    have hq : 0 ≤ q.val := F64.Is.nonneg ⟨false, q, rfl, rfl, nofun⟩
    simp [percent, hq]

/-- Everything but a NaN is brought into the range. -/
lemma clamp_spec (p : F64) : p = .nan ∨ (p.clamp 0 100).Is (percent p) := by
  have hle : (0 : ℚ) ≤ 100 := by norm_num
  match p with
  | .nan => exact .inl rfl
  | .inf true =>
    obtain ⟨s, z, hz, -, -⟩ := is_zero
    exact .inr (is_zero.clamp_low is_hundred hle (by rw [hz]; rfl))
  | .inf false =>
    obtain ⟨s, z, hz, -, -⟩ := is_zero
    obtain ⟨s', c, hc, -, -⟩ := is_hundred
    have hlow : F64.lt (.inf false) 0 = false := by rw [hz]; rfl
    have hhigh : F64.lt 100 (.inf false) = true := by rw [hc]; rfl
    refine .inr ?_
    simpa [F64.clamp, hlow, hhigh, percent] using is_hundred
  | .fin false q =>
    have hq : F64.Is (.fin false q) q := ⟨false, q, rfl, rfl, by simp⟩
    have hclamp := hq.clamp is_zero is_hundred hle
    rw [max_eq_left hq.nonneg] at hclamp
    exact .inr hclamp
  | .fin true q =>
    by_cases hq : q.val = 0
    · have hzero : F64.Is (.fin true q) 0 := ⟨true, q, rfl, hq, fun _ => rfl⟩
      have hclamp := hzero.clamp is_zero is_hundred hle
      rw [max_self, min_eq_left hle] at hclamp
      exact .inr hclamp
    · obtain ⟨s, z, hz, hz0, hs⟩ := is_zero
      have hpos : 0 < q.val :=
        lt_of_le_of_ne (F64.Is.nonneg ⟨false, q, rfl, rfl, by simp⟩) (Ne.symm hq)
      have hlt : F64.lt (.fin true q) 0 = true := by
        rw [hz]
        simpa [F64.lt, F64.signed, hz0] using hpos
      exact .inr (is_zero.clamp_low is_hundred hle hlt)

lemma nearest_percent_le (p : F64) : nearest (percent p / 100) ≤ 1 := by
  have hone := nearest_natCast (n := 1) (by norm_num)
  rw [Nat.cast_one] at hone
  rw [← hone]
  obtain ⟨hlo, hhi⟩ := percent_mem p
  exact nearest_mono (by positivity) (by linarith)

lemma share_le (p : F64) (hn : n ≤ 2 ^ 53) : share p n ≤ n := by
  have hmul : nearest (percent p / 100) * n ≤ n :=
    mul_le_of_le_one_left (Nat.cast_nonneg _) (nearest_percent_le p)
  have hround := nearest_mono (mul_nonneg (nearest_nonneg _) (Nat.cast_nonneg _)) hmul
  rwa [nearest_natCast hn] at hround

lemma share_mono (hp : percent p ≤ percent p') (n : Nat) : share p n ≤ share p' n := by
  have h0 := (percent_mem p).1
  have hdiv : nearest (percent p / 100) ≤ nearest (percent p' / 100) :=
    nearest_mono (by positivity) (by linarith)
  refine nearest_mono (mul_nonneg (nearest_nonneg _) (Nat.cast_nonneg _)) ?_
  exact mul_le_mul_of_nonneg_right hdiv (Nat.cast_nonneg _)

lemma ceil_share_le (p : F64) (hn : n ≤ 2 ^ 53) : ⌈share p n⌉₊ ≤ n := Nat.ceil_le.2 (share_le p hn)

/-- The rank in terms of exact numbers and the two roundings. -/
lemma rank_eq (p : F64) (hn : n ≤ 2 ^ 53) : rank p n = max 1 ⌈share p n⌉₊ := by
  rcases clamp_spec p with rfl | hclamp
  · have hzero : share .nan n = 0 := by simp [share, percent]
    have hone : F64.toU64 1 = 1 := F64.Is.toU64 (by exact_mod_cast is_one) (by norm_num)
    rw [hzero, Nat.ceil_zero, rank, F64.clamp_nan, F64.nan_div, F64.nan_mul]
    exact hone
  · have hlimit : (n : ℚ) < limit := F64.natCast_lt_limit hn
    have hdiv := hclamp.div is_hundred (by norm_num)
      ((nearest_percent_le p).trans_lt (by
        exact_mod_cast F64.natCast_lt_limit (n := 1) (by norm_num)))
    have hmul := hdiv.mul (F64.is_ofNat hn) ((share_le p hn).trans_lt hlimit)
    have hceil := hmul.ceil ((ceil_share_le p hn).trans hn)
    have hmax := hceil.max is_one
    have hval : (max (⌈share p n⌉₊ : ℚ) 1) = ((max 1 ⌈share p n⌉₊ : ℕ) : ℚ) := by
      rw [max_comm]
      push_cast
      rfl
    change (F64.max _ 1).Is (max (⌈share p n⌉₊ : ℚ) 1) at hmax
    rw [hval] at hmax
    refine hmax.toU64 ?_
    have hle := ceil_share_le p hn
    omega

/-- The computed share is off by a half at most. -/
lemma abs_share_sub_le (p : F64) (hn : n ≤ 2 ^ 51) : |share p n - percent p * n / 100| ≤ 1 / 2 := by
  obtain ⟨hlo, hhi⟩ := percent_mem p
  have hn' : (n : ℚ) ≤ 2 ^ 51 := by exact_mod_cast hn
  have hn0 : (0 : ℚ) ≤ n := Nat.cast_nonneg n
  set d := nearest (percent p / 100) with hd
  have hd0 : 0 ≤ d := nearest_nonneg _
  have hd1 : d ≤ 1 := nearest_percent_le p
  have hfirst : |d - percent p / 100| ≤ 2 ^ (-52 : ℤ) / 2 := by
    refine abs_nearest_sub_le_of_lt (by positivity) (by norm_num) ?_
    norm_num
    linarith
  have hprod : |d * n - percent p / 100 * n| ≤ 1 / 4 := by
    rw [← sub_mul, abs_mul, abs_of_nonneg hn0]
    calc |d - percent p / 100| * n ≤ 2 ^ (-52 : ℤ) / 2 * 2 ^ 51 :=
          mul_le_mul hfirst hn' hn0 (by positivity)
      _ = 1 / 4 := by norm_num
  have hsecond : |nearest (d * n) - d * n| ≤ 1 / 4 := by
    have hlt : d * n < 2 ^ ((-1 : ℤ) + 53) := by
      have hle : d * n ≤ n := mul_le_of_le_one_left hn0 hd1
      norm_num
      linarith
    have h := abs_nearest_sub_le_of_lt (mul_nonneg hd0 hn0) (by norm_num) hlt
    norm_num at h
    linarith
  have hexact : percent p * n / 100 = percent p / 100 * n := by ring
  rw [hexact, share, ← hd]
  have htri := abs_sub_le (nearest (d * n)) (d * n) (percent p / 100 * n)
  linarith

lemma rank_range (p : F64) (hpos : 0 < n) (hn : n ≤ 2 ^ 53) : 1 ≤ rank p n ∧ rank p n ≤ n := by
  rw [rank_eq p hn]
  exact ⟨le_max_left _ _, max_le hpos (ceil_share_le p hn)⟩

lemma rank_mono (hp : percent p ≤ percent p') (hn : n ≤ 2 ^ 53) : rank p n ≤ rank p' n := by
  rw [rank_eq p hn, rank_eq p' hn]
  exact max_le_max_left _ (Nat.ceil_mono (share_mono hp n))

lemma rank_of_zero (hp : percent p = 0) (hn : n ≤ 2 ^ 53) : rank p n = 1 := by
  rw [rank_eq p hn, share, hp]
  simp

lemma rank_of_hundred (hp : percent p = 100) (hpos : 0 < n) (hn : n ≤ 2 ^ 53) : rank p n = n := by
  have hone := nearest_natCast (n := 1) (by norm_num)
  rw [Nat.cast_one] at hone
  rw [rank_eq p hn, share, hp, div_self (by norm_num), hone, one_mul, nearest_natCast hn,
    Nat.ceil_natCast]
  omega

/-- The rank is off by one at most. -/
lemma rank_near (p : F64) (hn : n ≤ 2 ^ 51) :
    rank p n ≤ ⌈percent p * n / 100⌉₊ + 1 ∧ ⌈percent p * n / 100⌉₊ ≤ rank p n + 1 := by
  obtain ⟨hlo, hhi⟩ := abs_le.1 (abs_share_sub_le p hn)
  have hexact := Nat.le_ceil (percent p * n / 100)
  have hshare := Nat.le_ceil (share p n)
  have hup : ⌈share p n⌉₊ ≤ ⌈percent p * n / 100⌉₊ + 1 := by
    rw [Nat.ceil_le]
    push_cast
    linarith
  have hdown : ⌈percent p * n / 100⌉₊ ≤ ⌈share p n⌉₊ + 1 := by
    rw [Nat.ceil_le]
    push_cast
    linarith
  rw [rank_eq p (by omega)]
  omega

end Rank

/-- **Percentiles are order statistics.** After any history of records and resets with at most
`2 ^ 53` samples since the last reset, the count and the maximum are those of these samples, and a
percentile is the bin of one of them, namely of the one that has the computed rank in ascending
order. This is the rank of a sample: the first for 0 percent and less, the last for 100 percent and
more, not smaller for a greater percentage, and for up to `2 ^ 51` samples off by one at most. -/
theorem percentile_orderStat (ops : List Op) (hn : (samples ops).length ≤ 2 ^ 53) :
    let n := (samples ops).length
    (run ops).count = n ∧ (run ops).maxNs = (samples ops).foldr max 0 ∧
      ∀ p : F64, (run ops).percentile p =
          ((samples ops).insertionSort (· ≤ ·))[rank p n - 1]?.map
            (fun ns => min (ns / 1000) 2047) ∧
        (0 < n → 1 ≤ rank p n ∧ rank p n ≤ n ∧ (percent p = 0 → rank p n = 1) ∧
          (percent p = 100 → rank p n = n)) ∧
        (∀ p', percent p ≤ percent p' → rank p n ≤ rank p' n) ∧
        (n ≤ 2 ^ 51 → rank p n ≤ ⌈percent p * n / 100⌉₊ + 1 ∧
          ⌈percent p * n / 100⌉₊ ≤ rank p n + 1) := by
  have hh := holds_run ops
  generalize samples ops = xs at hh hn
  refine ⟨hh.count, hh.maxNs, fun p => ⟨?_, fun hpos => ?_, fun p' hp => rank_mono hp hn,
    rank_near p⟩⟩
  · unfold percentile
    rw [hh.count]
    split_ifs with hempty
    · have hxs : xs = [] := List.length_eq_zero_iff.1 hempty
      simp [hxs]
    · obtain ⟨hone, hle⟩ := rank_range p (Nat.pos_of_ne_zero hempty) hn
      have htotal : rank p xs.length ≤ 0 + (List.ofFn (run ops).bins).sum := by
        rw [hh.sum_bins]
        omega
      obtain ⟨k, -, hscan, hlo, hhi⟩ := scan_spec 0 hone htotal
      rw [hh.sum_take, Nat.zero_add] at hlo hhi
      rw [hscan, Nat.zero_add]
      exact (binOf_sorted hone hle hlo hhi).symm
  · obtain ⟨hone, hle⟩ := rank_range p hpos hn
    exact ⟨hone, hle, fun hp => rank_of_zero hp hn, fun hp => rank_of_hundred hp hpos hn⟩

/-- The rounding can show: 55 percent of 100 samples are computed as a little more than 55. -/
example : rank 55 100 = 56 := by
  decide +kernel

/-- The median of three samples, after one that was reset. -/
theorem percentile_orderStat_median :
    (run [.record 9000, .reset, .record 7000, .record 1500, .record 3000000]).percentile 50 =
      some 7 := by
  rw [((percentile_orderStat _ (by decide)).2.2 50).1]
  decide +kernel

end Histogram

end Pnio
