import Mathlib.Tactic
import Pnio.Lib.Res

/-!
Byte strings: checked indexing and slicing, and fixed-width numbers in both byte orders.
-/

namespace Pnio

abbrev Bytes := List UInt8

section Access

variable {ε : Type}

/-- The element `b[i]`, which panics out of range. -/
def idx (b : Bytes) (i : Nat) : Res ε UInt8 :=
  match b[i]? with
  | some x => .ok x
  | none => .panic .bounds

/-- The subslice `b[lo..hi]`, which panics out of range. -/
def slice (b : Bytes) (lo hi : Nat) : Res ε Bytes :=
  if lo ≤ hi ∧ hi ≤ b.length then .ok ((b.drop lo).take (hi - lo)) else .panic .bounds

lemma idx_of_lt {b : Bytes} {i : Nat} (h : i < b.length) : (idx b i : Res ε _) = .ok b[i] := by
  simp [idx, List.getElem?_eq_getElem h]

lemma idx_eq_ok {b : Bytes} {i : Nat} {x : UInt8} :
    (idx b i : Res ε _) = .ok x ↔ b[i]? = some x := by
  unfold idx; split <;> simp_all

lemma slice_eq_ok {b s : Bytes} {lo hi : Nat} :
    (slice b lo hi : Res ε _) = .ok s ↔
      (lo ≤ hi ∧ hi ≤ b.length) ∧ s = (b.drop lo).take (hi - lo) := by
  unfold slice
  by_cases h : lo ≤ hi ∧ hi ≤ b.length
  · simp [h, eq_comm]
  · rw [if_neg h]; simp [h]

lemma slice_of_le {b : Bytes} {lo hi : Nat} (h : lo ≤ hi ∧ hi ≤ b.length) :
    (slice b lo hi : Res ε _) = .ok ((b.drop lo).take (hi - lo)) := by
  simp [slice, h]

lemma noPanic_idx {b : Bytes} {i : Nat} (h : i < b.length) : (idx b i : Res ε _).NoPanic :=
  Res.noPanic_of_returns ⟨_, idx_of_lt h⟩

lemma noPanic_slice {b : Bytes} {lo hi : Nat} (h : lo ≤ hi ∧ hi ≤ b.length) :
    (slice b lo hi : Res ε _).NoPanic :=
  Res.noPanic_of_returns ⟨_, slice_of_le h⟩

lemma length_of_slice {b s : Bytes} {lo hi : Nat} (h : (slice b lo hi : Res ε _) = .ok s) :
    s.length = hi - lo := by
  obtain ⟨⟨-, h2⟩, rfl⟩ := slice_eq_ok.1 h
  simp; omega

@[simp] lemma slice_cons_succ (x : UInt8) (b : Bytes) (lo hi : Nat) :
    (slice (x :: b) (lo + 1) (hi + 1) : Res ε _) = slice b lo hi := by
  simp [slice]

@[simp] lemma idx_cons_zero (x : UInt8) (b : Bytes) : (idx (x :: b) 0 : Res ε _) = .ok x := rfl

@[simp] lemma idx_cons_succ (x : UInt8) (b : Bytes) (i : Nat) :
    (idx (x :: b) (i + 1) : Res ε _) = idx b i := by
  simp [idx]

/-- A slice that starts behind a field of known width reads the rest. -/
lemma slice_append_right {a b : Bytes} {lo hi : Nat} (h : a.length ≤ lo) (h' : lo ≤ hi) :
    (slice (a ++ b) lo hi : Res ε _) = slice b (lo - a.length) (hi - a.length) := by
  have hd : (a ++ b).drop lo = b.drop (lo - a.length) := by
    rw [List.drop_append, List.drop_eq_nil_of_le h, List.nil_append]
  have hw : hi - a.length - (lo - a.length) = hi - lo := by omega
  have hc : (lo ≤ hi ∧ hi ≤ (a ++ b).length) ↔
      (lo - a.length ≤ hi - a.length ∧ hi - a.length ≤ b.length) := by
    simp only [List.length_append]; omega
  simp only [slice, hd, hw, hc]

/-- A slice that is exactly the first field. -/
lemma slice_append_left {a b : Bytes} {n : Nat} (h : a.length = n) :
    (slice (a ++ b) 0 n : Res ε _) = .ok a := by
  subst h; simp [slice]

/-- A slice that is exactly the field behind `a`. -/
lemma slice_append_mid {a b c : Bytes} {lo hi : Nat} (hlo : a.length = lo)
    (hhi : lo + b.length = hi) : (slice (a ++ (b ++ c)) lo hi : Res ε _) = .ok b := by
  subst hlo hhi
  rw [slice_append_right le_rfl (by omega), Nat.sub_self]
  exact slice_append_left (by omega)

lemma slice_full {b : Bytes} {n : Nat} (h : b.length = n) : (slice b 0 n : Res ε _) = .ok b := by
  subst h; simp [slice]

/-- Everything behind the first field. -/
lemma slice_append_rest {a b : Bytes} {n : Nat} (h : a.length = n) :
    (slice (a ++ b) n (a ++ b).length : Res ε _) = .ok b := by
  subst h
  simp [slice]

lemma idx_append_right {a b : Bytes} {i : Nat} (h : a.length ≤ i) :
    (idx (a ++ b) i : Res ε _) = idx b (i - a.length) := by
  simp [idx, List.getElem?_append_right h]

/-- The bytes up to a slice, and the slice. -/
lemma take_append_slice {b s : Bytes} {lo hi : Nat} (h : (slice b lo hi : Res ε _) = .ok s) :
    b.take lo ++ s = b.take hi := by
  obtain ⟨⟨hle, -⟩, rfl⟩ := slice_eq_ok.1 h
  rw [← List.take_add, Nat.add_sub_cancel' hle]

lemma take_append_idx {b : Bytes} {i : Nat} {x : UInt8} (h : (idx b i : Res ε _) = .ok x) :
    b.take i ++ [x] = b.take (i + 1) := by
  rw [idx_eq_ok] at h
  rw [List.take_add_one, h]
  rfl

/-- `b[off..off + src.len()].copy_from_slice(src)`, which panics out of range. -/
def patch (b : Bytes) (off : Nat) (src : Bytes) : Res ε Bytes :=
  if off + src.length ≤ b.length then .ok (b.take off ++ src ++ b.drop (off + src.length))
  else .panic .bounds

lemma patch_eq_ok {b src b' : Bytes} {off : Nat} :
    (patch b off src : Res ε _) = .ok b' ↔
      off + src.length ≤ b.length ∧ b' = b.take off ++ src ++ b.drop (off + src.length) := by
  unfold patch
  split_ifs with h
  · simp [h, eq_comm]
  · simp [h]

lemma length_of_patch {b src b' : Bytes} {off : Nat} (h : (patch b off src : Res ε _) = .ok b') :
    b'.length = b.length := by
  obtain ⟨hle, rfl⟩ := patch_eq_ok.1 h
  simp; omega

/-- Overwriting all of it. -/
lemma patch_full {b src : Bytes} (h : src.length = b.length) :
    (patch b 0 src : Res ε _) = .ok src := by
  simp [patch, h]

end Access

/-! ### Numbers of a fixed number of bytes -/

/-- The big-endian value of a byte string. -/
def ofBe (b : Bytes) : Nat := b.foldl (fun acc x => acc * 256 + x.toNat) 0

/-- The low `n` bytes of `v`, most significant first. -/
def toBe : Nat → Nat → Bytes
  | 0, _ => []
  | n + 1, v => toBe n (v / 256) ++ [UInt8.ofNat v]

@[simp] lemma length_toBe (n v : Nat) : (toBe n v).length = n := by
  induction n generalizing v with
  | zero => rfl
  | succ n ih => simp [toBe, ih]

@[simp] lemma ofBe_append_singleton (b : Bytes) (x : UInt8) :
    ofBe (b ++ [x]) = ofBe b * 256 + x.toNat := by
  simp [ofBe]

lemma ofBe_toBe (n v : Nat) : ofBe (toBe n v) = v % 256 ^ n := by
  induction n generalizing v with
  | zero => simp [toBe, ofBe, Nat.mod_one]
  | succ n ih =>
    rw [toBe, ofBe_append_singleton, ih, Nat.pow_succ', Nat.mod_mul]
    simp; omega

lemma ofBe_lt (b : Bytes) : ofBe b < 256 ^ b.length := by
  induction b using List.reverseRecOn with
  | nil => simp [ofBe]
  | append_singleton b x ih =>
    have hx := x.toNat_lt
    simp only [ofBe_append_singleton, List.length_append, List.length_singleton, Nat.pow_succ]
    omega

lemma toBe_ofBe (b : Bytes) : toBe b.length (ofBe b) = b := by
  induction b using List.reverseRecOn with
  | nil => rfl
  | append_singleton b x ih =>
    have hx := x.toNat_lt
    have hd : (ofBe b * 256 + x.toNat) / 256 = ofBe b := by omega
    have hm : UInt8.ofNat (ofBe b * 256 + x.toNat) = x := by
      apply UInt8.toNat_inj.1; simp
    simp [toBe, hd, hm, ih]

def ofLe (b : Bytes) : Nat := ofBe b.reverse

def toLe (n v : Nat) : Bytes := (toBe n v).reverse

@[simp] lemma length_toLe (n v : Nat) : (toLe n v).length = n := by simp [toLe]

lemma ofLe_toLe (n v : Nat) : ofLe (toLe n v) = v % 256 ^ n := by
  simp [ofLe, toLe, ofBe_toBe]

lemma toLe_ofLe (b : Bytes) : toLe b.length (ofLe b) = b := by
  have h := toBe_ofBe b.reverse
  rw [List.length_reverse] at h
  simp [toLe, ofLe, h]

/-- `v.to_be_bytes()` of a 16-bit value. -/
def be16 (v : UInt16) : Bytes := toBe 2 v.toNat

/-- `v.to_be_bytes()` of a 32-bit value. -/
def be32 (v : UInt32) : Bytes := toBe 4 v.toNat

@[simp] lemma length_be16 (v : UInt16) : (be16 v).length = 2 := length_toBe 2 _

@[simp] lemma length_be32 (v : UInt32) : (be32 v).length = 4 := length_toBe 4 _

@[simp] lemma ofBe_be16 (v : UInt16) : UInt16.ofNat (ofBe (be16 v)) = v := by
  apply UInt16.toNat_inj.1
  have := v.toNat_lt
  simp [be16, ofBe_toBe]

@[simp] lemma ofBe_be32 (v : UInt32) : UInt32.ofNat (ofBe (be32 v)) = v := by
  apply UInt32.toNat_inj.1
  have := v.toNat_lt
  simp [be32, ofBe_toBe]

lemma be16_ofBe {b : Bytes} (h : b.length = 2) : be16 (UInt16.ofNat (ofBe b)) = b := by
  have hb := ofBe_lt b
  rw [h] at hb
  have hv : (UInt16.ofNat (ofBe b)).toNat = ofBe b := by
    rw [UInt16.toNat_ofNat']; omega
  have := toBe_ofBe b
  rw [be16, hv]; rwa [h] at this

lemma be32_ofBe {b : Bytes} (h : b.length = 4) : be32 (UInt32.ofNat (ofBe b)) = b := by
  have hb := ofBe_lt b
  rw [h] at hb
  have hv : (UInt32.ofNat (ofBe b)).toNat = ofBe b := by
    rw [UInt32.toNat_ofNat']; omega
  have := toBe_ofBe b
  rw [be32, hv]; rwa [h] at this

section At

variable {ε : Type}

/-- The 16-bit value at offset `o`, which panics out of range. -/
def u16At (b : Bytes) (o : Nat) : Res ε UInt16 := do
  let a ← slice b o (o + 2)
  .ok (UInt16.ofNat (ofBe a))

/-- The 32-bit value at offset `o`, which panics out of range. -/
def u32At (b : Bytes) (o : Nat) : Res ε UInt32 := do
  let a ← slice b o (o + 4)
  .ok (UInt32.ofNat (ofBe a))

lemma u16At_append_right {a b : Bytes} {o : Nat} (h : a.length ≤ o) :
    (u16At (a ++ b) o : Res ε _) = u16At b (o - a.length) := by
  rw [u16At, slice_append_right h (by omega), u16At,
    show o + 2 - a.length = o - a.length + 2 by omega]

lemma u32At_append_right {a b : Bytes} {o : Nat} (h : a.length ≤ o) :
    (u32At (a ++ b) o : Res ε _) = u32At b (o - a.length) := by
  rw [u32At, slice_append_right h (by omega), u32At,
    show o + 4 - a.length = o - a.length + 4 by omega]

@[simp] lemma u16At_be16 (v : UInt16) (b : Bytes) : (u16At (be16 v ++ b) 0 : Res ε _) = .ok v := by
  rw [u16At, slice_append_left (by simp), Res.ok_bind, ofBe_be16]

@[simp] lemma u32At_be32 (v : UInt32) (b : Bytes) : (u32At (be32 v ++ b) 0 : Res ε _) = .ok v := by
  rw [u32At, slice_append_left (by simp), Res.ok_bind, ofBe_be32]

@[simp] lemma u16At_be16_end (v : UInt16) : (u16At (be16 v) 0 : Res ε _) = .ok v := by
  simpa using u16At_be16 (ε := ε) v []

@[simp] lemma u32At_be32_end (v : UInt32) : (u32At (be32 v) 0 : Res ε _) = .ok v := by
  simpa using u32At_be32 (ε := ε) v []

@[simp] lemma u16At_cons_succ (x : UInt8) (b : Bytes) (o : Nat) :
    (u16At (x :: b) (o + 1) : Res ε _) = u16At b o := by
  simp [u16At, show o + 1 + 2 = (o + 2) + 1 by omega]

@[simp] lemma u32At_cons_succ (x : UInt8) (b : Bytes) (o : Nat) :
    (u32At (x :: b) (o + 1) : Res ε _) = u32At b o := by
  simp [u32At, show o + 1 + 4 = (o + 4) + 1 by omega]

lemma take_append_u16At {b : Bytes} {o : Nat} {v : UInt16} (h : (u16At b o : Res ε _) = .ok v) :
    b.take o ++ be16 v = b.take (o + 2) := by
  obtain ⟨a, ha, h⟩ := Res.bind_eq_ok.1 h
  cases h
  rw [be16_ofBe ((length_of_slice ha).trans (Nat.add_sub_cancel_left o 2)), take_append_slice ha]

lemma u16At_of_le {b : Bytes} {o : Nat} (h : o + 2 ≤ b.length) :
    ∃ v, (u16At b o : Res ε _) = .ok v := by
  rw [u16At, slice_of_le ⟨by omega, h⟩]
  exact ⟨_, rfl⟩

lemma u32At_of_le {b : Bytes} {o : Nat} (h : o + 4 ≤ b.length) :
    ∃ v, (u32At b o : Res ε _) = .ok v := by
  rw [u32At, slice_of_le ⟨by omega, h⟩]
  exact ⟨_, rfl⟩

/-- The 16-bit value at offset `o`, if the string reaches that far. -/
def half (b : Bytes) (o : Nat) : Option UInt16 :=
  if o + 2 ≤ b.length then some (UInt16.ofNat (ofBe ((b.drop o).take 2))) else none

lemma u16At_eq_ok {b : Bytes} {o : Nat} {v : UInt16} :
    (u16At b o : Res ε _) = .ok v ↔ half b o = some v := by
  have hsub : o + 2 - o = 2 := by omega
  unfold u16At half
  by_cases h : o + 2 ≤ b.length
  · rw [slice_of_le ⟨by omega, h⟩, if_pos h, hsub]
    simp
  · rw [slice, if_neg (fun hh => h hh.2), if_neg h]
    simp

lemma half_eq_none {b : Bytes} {o : Nat} : half b o = none ↔ b.length < o + 2 := by
  unfold half
  split <;> simp <;> omega

lemma le_of_half {b : Bytes} {o : Nat} {v : UInt16} (h : half b o = some v) : o + 2 ≤ b.length := by
  by_contra hn
  rw [half_eq_none.2 (not_le.1 hn)] at h
  cases h

lemma exists_half {b : Bytes} {o : Nat} (h : o + 2 ≤ b.length) : ∃ v, half b o = some v :=
  ⟨_, if_pos h⟩

end At

/-! ### Arrays of a fixed length -/

structure Octets (n : Nat) where
  bytes : Bytes
  len : bytes.length = n
deriving DecidableEq, Repr

namespace Octets

variable {n : Nat} {ε : Type}

attribute [simp] len

@[ext] lemma ext {a b : Octets n} (h : a.bytes = b.bytes) : a = b := by
  cases a; cases b; cases h; rfl

/-- `copy_from_slice` into an array of `n` bytes, which panics on another length. -/
def copyFrom (n : Nat) (b : Bytes) : Res ε (Octets n) :=
  if h : b.length = n then .ok ⟨b, h⟩ else .panic .bounds

lemma copyFrom_of_length {b : Bytes} (h : b.length = n) :
    (copyFrom n b : Res ε _) = .ok ⟨b, h⟩ := by
  simp [copyFrom, h]

@[simp] lemma copyFrom_bytes (o : Octets n) : (copyFrom n o.bytes : Res ε _) = .ok o := by
  simp [copyFrom]

/-- The array of `n` zero bytes. -/
def zero (n : Nat) : Octets n := ⟨List.replicate n 0, by simp⟩

def fill (n : Nat) (b : UInt8) : Octets n := ⟨List.replicate n b, List.length_replicate⟩

end Octets

end Pnio
