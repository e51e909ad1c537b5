import Pnio.Blocks

/-!
The Ethernet header, with or without a VLAN tag.
-/

namespace Pnio

def ethertypeProfinet : UInt16 := 0x8892
def ethertypeVlan : UInt16 := 0x8100

/-- The largest frame a transport sends or receives. -/
def maxFrameLen : Nat := 1522

inductive EthError where
  | tooShort
deriving DecidableEq, Repr

structure EthHeader where
  dst : MacAddr
  src : MacAddr
  vlan : Option UInt16
  ethertype : UInt16
deriving DecidableEq, Repr

namespace EthHeader

/-- The header and the offset of what follows it. -/
def parse (buf : Bytes) : Res EthError (EthHeader × Nat) := do
  Res.reject (buf.length < 14) .tooShort
  let dst ← Octets.copyFrom 6 (← slice buf 0 6)
  let src ← Octets.copyFrom 6 (← slice buf 6 12)
  let first ← u16At buf 12
  if first = ethertypeVlan then do
    Res.reject (buf.length < 18) .tooShort
    let tci ← u16At buf 14
    let et ← u16At buf 16
    .ok ({ dst, src, vlan := some tci, ethertype := et }, 18)
  else .ok ({ dst, src, vlan := none, ethertype := first }, 14)

/-- What a header that was read says, field by field. -/
lemma parse_eq_ok {buf : Bytes} {eth : EthHeader} {off : Nat} :
    parse buf = .ok (eth, off) ↔
      eth.dst.bytes = buf.take 6 ∧ eth.src.bytes = (buf.drop 6).take 6 ∧
      ∃ first, half buf 12 = some first ∧
        (first = ethertypeVlan ∧ half buf 14 = eth.vlan ∧ half buf 16 = some eth.ethertype ∧
            off = 18 ∨
          first ≠ ethertypeVlan ∧ eth.vlan = none ∧ eth.ethertype = first ∧ off = 14) := by
  unfold parse
  by_cases h14 : buf.length < 14
  · rw [Res.reject, if_pos h14, Res.err_bind, half_eq_none.2 (by omega)]
    simp
  have hdst : (slice buf 0 6 : Res EthError _) = .ok (buf.take 6) := by
    rw [slice_of_le ⟨by omega, by omega⟩, List.drop_zero]
  have hsrc : (slice buf 6 12 : Res EthError _) = .ok ((buf.drop 6).take 6) :=
    slice_of_le ⟨by omega, by omega⟩
  have hdl : (buf.take 6).length = 6 := by
    rw [List.length_take]
    omega
  have hsl : ((buf.drop 6).take 6).length = 6 := by
    rw [List.length_take, List.length_drop]
    omega
  obtain ⟨first, hfirst⟩ := exists_half (b := buf) (o := 12) (by omega)
  obtain ⟨dst, src, vlan, et⟩ := eth
  rw [Res.reject_of_not h14, Res.ok_bind, hdst, Res.ok_bind, Octets.copyFrom_of_length hdl,
    Res.ok_bind, hsrc, Res.ok_bind, Octets.copyFrom_of_length hsl, Res.ok_bind,
    u16At_eq_ok.2 hfirst, Res.ok_bind, hfirst]
  have hoct : ∀ {a : Octets 6} {b : Bytes} (hb : b.length = 6), (⟨b, hb⟩ : Octets 6) = a ↔
      a.bytes = b := by
    intro a b hb
    rw [Octets.ext_iff]
    exact eq_comm
  by_cases hv : first = ethertypeVlan
  · rw [if_pos hv]
    by_cases h18 : buf.length < 18
    · rw [Res.reject, if_pos h18, Res.err_bind, half_eq_none.2 (show buf.length < 16 + 2 by omega)]
      simp [hv]
    obtain ⟨tci, htci⟩ := exists_half (b := buf) (o := 14) (by omega)
    obtain ⟨inner, hinner⟩ := exists_half (b := buf) (o := 16) (by omega)
    rw [Res.reject_of_not h18, Res.ok_bind, u16At_eq_ok.2 htci, Res.ok_bind, u16At_eq_ok.2 hinner,
      Res.ok_bind, htci, hinner]
    simp [hv, hoct, and_assoc, eq_comm]
  · rw [if_neg hv]
    simp [hv, hoct, and_assoc, eq_comm]

/-- The header is within the frame. -/
lemma off_le {buf : Bytes} {eth : EthHeader} {off : Nat} (h : parse buf = .ok (eth, off)) :
    off ≤ buf.length := by
  obtain ⟨-, -, first, hfirst, hcase⟩ := parse_eq_ok.1 h
  by_contra hlt
  rcases hcase with ⟨-, -, het, hoff⟩ | ⟨-, -, -, hoff⟩
  · rw [half_eq_none.2 (by omega)] at het
    cases het
  · rw [half_eq_none.2 (by omega)] at hfirst
    cases hfirst

instance noPanic_parse (buf : Bytes) : (parse buf).NoPanic := by
  refine Res.noPanic_bind_of inferInstance fun _ h14 => ?_
  rw [Res.reject_eq_ok, not_lt] at h14
  have hcopy : ∀ {lo hi : Nat} {b : Bytes}, (slice buf lo hi : Res EthError _) = .ok b →
      hi = lo + 6 → (Octets.copyFrom 6 b : Res EthError _).NoPanic := by
    intro lo hi b hb heq
    have hlen := length_of_slice hb
    exact Res.noPanic_of_returns ⟨_, Octets.copyFrom_of_length (by omega)⟩
  refine Res.noPanic_bind_of (noPanic_slice ⟨by omega, by omega⟩) fun _ hs => ?_
  refine Res.noPanic_bind_of (hcopy hs rfl) fun _ _ => ?_
  refine Res.noPanic_bind_of (noPanic_slice ⟨by omega, by omega⟩) fun _ hs => ?_
  refine Res.noPanic_bind_of (hcopy hs rfl) fun _ _ => ?_
  refine Res.noPanic_bind_of (Res.noPanic_of_returns (u16At_of_le (by omega))) fun _ _ => ?_
  split_ifs
  · refine Res.noPanic_bind_of inferInstance fun _ h18 => ?_
    rw [Res.reject_eq_ok, not_lt] at h18
    refine Res.noPanic_bind_of (Res.noPanic_of_returns (u16At_of_le (by omega))) fun _ _ => ?_
    refine Res.noPanic_bind_of (Res.noPanic_of_returns (u16At_of_le (by omega))) fun _ _ => ?_
    exact Res.noPanic_ok _
  · exact Res.noPanic_ok _

/-- The bytes of the VLAN tag. -/
def tag (h : EthHeader) : Bytes :=
  match h.vlan with
  | some tci => be16 ethertypeVlan ++ be16 tci
  | none => []

def write (h : EthHeader) : Bytes :=
  h.dst.bytes ++ h.src.bytes ++ h.tag ++ be16 h.ethertype

@[simp] lemma length_write_tagged (dst src : MacAddr) (tci et : UInt16) :
    (write ⟨dst, src, some tci, et⟩).length = 18 := by
  simp [write, tag]

@[simp] lemma length_write_untagged (dst src : MacAddr) (et : UInt16) :
    (write ⟨dst, src, none, et⟩).length = 14 := by
  simp [write, tag]

/-- A tagged header is read back from the front of any frame. -/
lemma parse_write_tagged (dst src : MacAddr) (tci et : UInt16) (rest : Bytes) :
    parse (write ⟨dst, src, some tci, et⟩ ++ rest) = .ok (⟨dst, src, some tci, et⟩, 18) := by
  have h14 : ¬ (write ⟨dst, src, some tci, et⟩ ++ rest).length < 14 := by simp; omega
  have h18 : ¬ (write ⟨dst, src, some tci, et⟩ ++ rest).length < 18 := by simp
  unfold parse
  rw [Res.reject_of_not h14, Res.reject_of_not h18]
  simp (disch := simp) [write, tag, slice_append_left, slice_append_right, u16At_append_right]

/-- An untagged header, unless its type field reads as a tag. -/
lemma parse_write_untagged {dst src : MacAddr} {et : UInt16} {rest : Bytes}
    (h : et ≠ ethertypeVlan) :
    parse (write ⟨dst, src, none, et⟩ ++ rest) = .ok (⟨dst, src, none, et⟩, 14) := by
  have h14 : ¬ (write ⟨dst, src, none, et⟩ ++ rest).length < 14 := by simp
  unfold parse
  rw [Res.reject_of_not h14]
  simp (disch := simp) [write, tag, slice_append_left, slice_append_right, u16At_append_right, h]

end EthHeader

end Pnio
