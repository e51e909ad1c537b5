import Pnio.ConnectSpec
import Pnio.Dcp
import Pnio.Lib.Filter
import Pnio.Rta
import Pnio.RtData

/-!
The filters of the two sockets: which frames they pass, and that each passes all that its reader
has a use for.
-/

namespace Pnio

open SockFilter

def insn (code : UInt16) (jt jf : UInt8) (k : UInt32) : SockFilter := ⟨code, jt, jf, k⟩

def frameIdFilter (lo hi : UInt16) : List SockFilter :=
  [insn ldHAbs 0 0 12,
   insn jeq 0 2 0x8892,
   insn ldxImm 0 0 14,
   insn ja 0 0 4,
   insn jeq 0 6 0x8100,
   insn ldHAbs 0 0 16,
   insn jeq 0 4 0x8892,
   insn ldxImm 0 0 18,
   insn ldHInd 0 0 0,
   insn jge 0 1 lo.toUInt32,
   insn jgt 0 1 hi.toUInt32,
   insn ret 0 0 0,
   insn ret 0 0 0xFFFF]

def rtFilter : List SockFilter := frameIdFilter 0x8000 0xBFFF

def acyclicFilter : List SockFilter := frameIdFilter 0xFC00 0xFFFF

/-! ### What the program computes -/

/-- The comparison with the two bounds, once the offset of the FrameID is known. -/
def idVerdict (lo hi : UInt16) (pkt : Bytes) (off : Nat) : Option UInt32 :=
  match half pkt off with
  | some id => if lo ≤ id ∧ id ≤ hi then some 0xFFFF else some 0
  | none => some 0

lemma toUInt32_eq_iff {v w : UInt16} : v.toUInt32 = w.toUInt32 ↔ v = w := by
  rw [← UInt32.toNat_inj, UInt16.toNat_toUInt32, UInt16.toNat_toUInt32, UInt16.toNat_inj]

lemma toUInt32_le_iff {v w : UInt16} : v.toUInt32 ≤ w.toUInt32 ↔ v ≤ w := by
  rw [UInt32.le_iff_toNat_le, UInt16.toNat_toUInt32, UInt16.toNat_toUInt32, UInt16.le_iff_toNat_le]

lemma toUInt32_lt_iff {v w : UInt16} : v.toUInt32 < w.toUInt32 ↔ ¬ w ≤ v := by
  rw [UInt32.lt_iff_toNat_lt, UInt16.toNat_toUInt32, UInt16.toNat_toUInt32, UInt16.le_iff_toNat_le,
    not_le]

section Program

variable (lo hi : UInt16) (pkt : Bytes)

/-- From the load of the FrameID on. -/
lemma exec_id (a x : UInt32) :
    exec pkt ((frameIdFilter lo hi).drop 8) 0 a x = idVerdict lo hi pkt x.toNat := by
  have hprog : (frameIdFilter lo hi).drop 8 =
      [⟨ldHInd, 0, 0, 0⟩, ⟨jge, 0, 1, lo.toUInt32⟩, ⟨jgt, 0, 1, hi.toUInt32⟩, ⟨ret, 0, 0, 0⟩,
        ⟨ret, 0, 0, 0xFFFF⟩] := rfl
  rw [hprog, exec_ldHInd, UInt32.add_zero, idVerdict]
  cases half pkt x.toNat with
  | none => rfl
  | some id =>
    dsimp only
    rw [exec_jge, if_congr toUInt32_le_iff rfl rfl]
    by_cases hlo : lo ≤ id
    · have hjgt : exec pkt [⟨jgt, 0, 1, hi.toUInt32⟩, ⟨ret, 0, 0, 0⟩, ⟨ret, 0, 0, 0xFFFF⟩] 0
          id.toUInt32 x = if id ≤ hi then some 0xFFFF else some 0 := by
        rw [exec_jgt, if_congr toUInt32_lt_iff rfl rfl]
        by_cases hhi : id ≤ hi
        · rw [if_neg (not_not.2 hhi), if_pos hhi]
          rfl
        · rw [if_pos hhi, if_neg hhi]
          rfl
      rw [if_pos hlo]
      refine hjgt.trans ?_
      by_cases hhi : id ≤ hi
      · rw [if_pos hhi, if_pos ⟨hlo, hhi⟩]
      · rw [if_neg hhi, if_neg fun h => hhi h.2]
    · rw [if_neg hlo, if_neg fun h => hlo h.1]
      rfl

/-- From the comparison with the VLAN type on. -/
lemma exec_tagged (first : UInt16) (x : UInt32) :
    exec pkt ((frameIdFilter lo hi).drop 4) 0 first.toUInt32 x =
      if first = ethertypeVlan then
        match half pkt 16 with
        | some et => if et = ethertypeProfinet then idVerdict lo hi pkt 18 else some 0
        | none => some 0
      else some 0 := by
  have hprog : (frameIdFilter lo hi).drop 4 =
      ⟨jeq, 0, 6, 0x8100⟩ :: ⟨ldHAbs, 0, 0, 16⟩ :: ⟨jeq, 0, 4, 0x8892⟩ :: ⟨ldxImm, 0, 0, 18⟩ ::
        (frameIdFilter lo hi).drop 8 := rfl
  have hvlan : (0x8100 : UInt32) = ethertypeVlan.toUInt32 := rfl
  have hpn : (0x8892 : UInt32) = ethertypeProfinet.toUInt32 := rfl
  rw [hprog, exec_jeq, hvlan, if_congr toUInt32_eq_iff rfl rfl]
  by_cases hv : first = ethertypeVlan
  · rw [if_pos hv, if_pos hv]
    refine exec_ldHAbs.trans ?_
    have h16 : (16 : UInt32).toNat = 16 := rfl
    rw [h16]
    cases half pkt 16 with
    | none => rfl
    | some et =>
      dsimp only
      rw [exec_jeq, hpn, if_congr toUInt32_eq_iff rfl rfl]
      by_cases he : et = ethertypeProfinet
      · rw [if_pos he, if_pos he]
        exact exec_id lo hi pkt et.toUInt32 18
      · rw [if_neg he, if_neg he]
        rfl
  · rw [if_neg hv, if_neg hv]
    rfl

/-- The whole program. -/
lemma run_frameIdFilter :
    run (frameIdFilter lo hi) pkt =
      match half pkt 12 with
      | some first =>
        if first = ethertypeProfinet then idVerdict lo hi pkt 14
        else if first = ethertypeVlan then
          match half pkt 16 with
          | some et => if et = ethertypeProfinet then idVerdict lo hi pkt 18 else some 0
          | none => some 0
        else some 0
      | none => some 0 := by
  have hprog : frameIdFilter lo hi =
      ⟨ldHAbs, 0, 0, 12⟩ :: ⟨jeq, 0, 2, 0x8892⟩ :: ⟨ldxImm, 0, 0, 14⟩ :: ⟨ja, 0, 0, 4⟩ ::
        (frameIdFilter lo hi).drop 4 := rfl
  have hpn : (0x8892 : UInt32) = ethertypeProfinet.toUInt32 := rfl
  have h12 : (12 : UInt32).toNat = 12 := rfl
  rw [run, hprog, exec_ldHAbs, h12]
  cases half pkt 12 with
  | none => rfl
  | some first =>
    dsimp only
    rw [exec_jeq, hpn, if_congr toUInt32_eq_iff rfl rfl]
    by_cases hf : first = ethertypeProfinet
    · rw [if_pos hf, if_pos hf]
      exact exec_id lo hi pkt first.toUInt32 14
    · rw [if_neg hf, if_neg hf]
      exact exec_tagged lo hi pkt first 0

end Program

/-! ### The FrameID of a frame -/

/-- The frame is PROFINET, tagged or not, and has this FrameID behind its header. -/
def HasFrameId (pkt : Bytes) (id : UInt16) : Prop :=
  ∃ eth off, EthHeader.parse pkt = .ok (eth, off) ∧ eth.ethertype = ethertypeProfinet ∧
    off + 2 ≤ pkt.length ∧ half pkt off = some id

lemma HasFrameId.unique {pkt : Bytes} {id id' : UInt16} (h : HasFrameId pkt id)
    (h' : HasFrameId pkt id') : id = id' := by
  obtain ⟨eth, off, hp, -, -, hid⟩ := h
  obtain ⟨eth', off', hp', -, -, hid'⟩ := h'
  cases hp.symm.trans hp'
  exact Option.some.inj (hid.symm.trans hid')

lemma idVerdict_passes {lo hi : UInt16} {pkt : Bytes} {off : Nat} :
    (∃ n, idVerdict lo hi pkt off = some n ∧ n ≠ 0) ↔
      ∃ id, half pkt off = some id ∧ lo ≤ id ∧ id ≤ hi := by
  unfold idVerdict
  cases half pkt off with
  | none => simp
  | some id =>
    by_cases h : lo ≤ id ∧ id ≤ hi
    · simp [h]
    · simp [h]

/-- A header that can be read, from what it must say. -/
lemma EthHeader.exists_parse {buf : Bytes} {first et : UInt16} {vlan : Option UInt16} {off : Nat}
    (h12 : half buf 12 = some first)
    (h : first = ethertypeVlan ∧ half buf 14 = vlan ∧ half buf 16 = some et ∧ off = 18 ∨
      first ≠ ethertypeVlan ∧ vlan = none ∧ et = first ∧ off = 14) :
    ∃ eth, EthHeader.parse buf = .ok (eth, off) ∧ eth.ethertype = et := by
  have hlen := le_of_half h12
  have hd : (buf.take 6).length = 6 := by
    rw [List.length_take]
    omega
  have hs : ((buf.drop 6).take 6).length = 6 := by
    rw [List.length_take, List.length_drop]
    omega
  exact ⟨⟨⟨_, hd⟩, ⟨_, hs⟩, vlan, et⟩, EthHeader.parse_eq_ok.2 ⟨rfl, rfl, first, h12, h⟩, rfl⟩

lemma passes_iff (lo hi : UInt16) (pkt : Bytes) :
    Passes (frameIdFilter lo hi) pkt ↔ ∃ id, HasFrameId pkt id ∧ lo ≤ id ∧ id ≤ hi := by
  have hne : ethertypeProfinet ≠ ethertypeVlan := by decide
  unfold Passes
  rw [run_frameIdFilter]
  constructor
  · rintro ⟨n, hn, h0⟩
    cases h12 : half pkt 12 with
    | none =>
      rw [h12] at hn
      cases hn
      exact absurd rfl h0
    | some first =>
      simp only [h12] at hn
      split_ifs at hn with hf hv
      · obtain ⟨id, hid, hr⟩ := idVerdict_passes.1 ⟨n, hn, h0⟩
        obtain ⟨eth, hp, het⟩ := EthHeader.exists_parse h12
          (.inr ⟨hf ▸ hne, rfl, hf.symm, rfl⟩)
        exact ⟨id, ⟨eth, 14, hp, het, le_of_half hid, hid⟩, hr⟩
      · cases h16 : half pkt 16 with
        | none =>
          rw [h16] at hn
          cases hn
          exact absurd rfl h0
        | some et =>
          simp only [h16] at hn
          split_ifs at hn with he
          · obtain ⟨id, hid, hr⟩ := idVerdict_passes.1 ⟨n, hn, h0⟩
            obtain ⟨eth, hp, het⟩ := EthHeader.exists_parse h12 (.inl ⟨hv, rfl, h16, rfl⟩)
            exact ⟨id, ⟨eth, 18, hp, het.trans he, le_of_half hid, hid⟩, hr⟩
          · cases hn
            exact absurd rfl h0
      · cases hn
        exact absurd rfl h0
  · rintro ⟨id, ⟨eth, off, hp, het, -, hid⟩, hr⟩
    obtain ⟨-, -, first, h12, ⟨hv, -, h16, rfl⟩ | ⟨hv, -, hf, rfl⟩⟩ := EthHeader.parse_eq_ok.1 hp
    · have hf : first ≠ ethertypeProfinet := hv ▸ hne.symm
      simp only [h12, if_neg hf, if_pos hv, h16, if_pos het]
      exact idVerdict_passes.2 ⟨id, hid, hr⟩
    · have hf' : first = ethertypeProfinet := hf ▸ het
      simp only [h12, if_pos hf']
      exact idVerdict_passes.2 ⟨id, hid, hr⟩

/-! ### What the readers take -/

lemma hasFrameId_of_alarm {ε : Type} {frame : Bytes}
    (h : (isAlarmFrame frame : Res ε _) = .ok true) :
    ∃ id, HasFrameId frame id ∧ (id = frameIdHigh ∨ id = frameIdLow) := by
  obtain ⟨r, hr, h⟩ := Res.bind_eq_ok.1 h
  rcases Res.attempt_eq_ok.1 hr with ⟨⟨eth, off⟩, hp, rfl⟩ | ⟨e, -, rfl⟩
  · dsimp only at h
    split_ifs at h with hc
    · obtain ⟨id, hid, h⟩ := Res.bind_eq_ok.1 h
      simp only [Res.ok.injEq, decide_eq_true_eq] at h
      exact ⟨id, ⟨eth, off, hp, hc.1, hc.2, u16At_eq_ok.1 hid⟩, h⟩
    · cases h
  · cases h

lemma half_drop (b : Bytes) (o p : Nat) : half (b.drop o) p = half b (o + p) ∨ b.length < o := by
  by_cases h : b.length < o
  · exact .inr h
  · refine .inl ?_
    unfold half
    rw [List.drop_drop, List.length_drop]
    have hiff : p + 2 ≤ b.length - o ↔ o + p + 2 ≤ b.length := by omega
    rw [if_congr hiff rfl rfl]

lemma hasFrameId_of_dcp {frame : Bytes} {eth : EthHeader} {id : FrameId} {rest : Bytes}
    (h : dcpPayload frame = .ok (some (eth, id, rest))) :
    ∃ v, HasFrameId frame v ∧ FrameId.fromU16 v = some id := by
  obtain ⟨⟨eth', off⟩, hp, h⟩ := Res.bind_eq_ok.1 h
  rw [Res.mapErr_eq_ok] at hp
  dsimp only at h
  by_cases het : eth'.ethertype = ethertypeProfinet
  swap
  · rw [if_pos het] at h
    cases h
  rw [if_neg (not_not.2 het)] at h
  obtain ⟨payload, hs, h⟩ := Res.bind_eq_ok.1 h
  obtain ⟨_, -, h⟩ := Res.bind_eq_ok.1 h
  obtain ⟨v, hv, h⟩ := Res.bind_eq_ok.1 h
  obtain ⟨_, -, h⟩ := Res.bind_eq_ok.1 h
  obtain ⟨id', hid, heq⟩ := Option.map_eq_some_iff.1 (Res.ok.inj h)
  cases heq
  obtain ⟨hle, rfl⟩ := slice_eq_ok.1 hs
  have htake : (frame.drop off).take (frame.length - off) = frame.drop off :=
    List.take_of_length_le (by rw [List.length_drop])
  rw [htake, u16At_eq_ok] at hv
  have hhalf : half frame off = some v := by
    rcases half_drop frame off 0 with heq | hlt
    · rwa [heq] at hv
    · omega
  exact ⟨v, ⟨_, off, hp, het, le_of_half hhalf, hhalf⟩, hid⟩

lemma fromU16_eq_some {v : UInt16} {id : FrameId} (h : FrameId.fromU16 v = some id) :
    v = id.toU16 := by
  unfold FrameId.fromU16 at h
  split at h <;> first | (cases h; rfl) | cases h

lemma hasFrameId_of_rt {frame : Bytes} {eth : EthHeader} {rt : RtFrame}
    (h : RtFrame.parse frame = .ok (eth, rt)) : HasFrameId frame rt.frameId := by
  obtain ⟨⟨eth', off⟩, hp, h⟩ := Res.bind_eq_ok.1 h
  rw [Res.mapErr_eq_ok] at hp
  obtain ⟨_, het, h⟩ := Res.bind_eq_ok.1 h
  obtain ⟨_, -, h⟩ := Res.bind_eq_ok.1 h
  obtain ⟨id, hid, h⟩ := Res.bind_eq_ok.1 h
  rw [Res.reject_eq_ok, not_not] at het
  rw [u16At_eq_ok] at hid
  simp only [Res.bind_eq_ok] at h
  obtain ⟨_, -, _, -, _, -, _, -, _, -, h⟩ := h
  cases h
  exact ⟨_, off, hp, het, le_of_half hid, hid⟩

/-- An engine accepts only frames it takes. -/
lemma RtEngine.takes_of_accepted {ε : Type} {e e' : RtEngine} {frame : Bytes} {now : Instant}
    {p q d : Bool} (h : (e.onFrame frame now : Res ε _) = .ok (e', .accepted p q d)) :
    ∃ eth rt, e.Takes frame eth rt := by
  rcases e.unusable_or_takes frame with hu | ht
  · obtain ⟨stats, verdict, hf, hno⟩ := RtEngine.onFrame_unusable (ε := ε) hu now
    cases hf.symm.trans h
    exact absurd rfl (hno p q d)
  · exact ht

/-- **The filters of the two sockets.**

* A FrameID filter passes a packet exactly if its Ethernet header can be read and says PROFINET,
  tagged or not, two more bytes follow and the FrameID in them is within the bounds.
* The acyclic filter passes every alarm frame and every frame that DCP answers; the RT filter
  passes every frame that the engine of an accepted AR accepts.
* No packet passes both. -/
theorem filters_pass :
    (∀ lo hi pkt, Passes (frameIdFilter lo hi) pkt ↔
      ∃ eth off id, EthHeader.parse pkt = .ok (eth, off) ∧ eth.ethertype = ethertypeProfinet ∧
        off + 2 ≤ pkt.length ∧ half pkt off = some id ∧ lo ≤ id ∧ id ≤ hi) ∧
    (∀ frame, (isAlarmFrame frame : Res Empty _) = .ok true → Passes acyclicFilter frame) ∧
    (∀ frame cfg reply, handleDcpFrame frame cfg = .ok (some reply) →
      Passes acyclicFilter frame) ∧
    (∀ req model params l (e e' : RtEngine) frame now p q d, validate req model = .ok params →
      Layout.fromAr params model = .ok l → e.layout = l →
      (e.onFrame frame now : Res Empty _) = .ok (e', .accepted p q d) → Passes rtFilter frame) ∧
    ∀ pkt, ¬ (Passes rtFilter pkt ∧ Passes acyclicFilter pkt) := by
  refine ⟨fun lo hi pkt => ?_, fun frame h => ?_, fun frame cfg reply h => ?_, ?_, ?_⟩
  · rw [passes_iff]
    constructor
    · rintro ⟨id, ⟨eth, off, hp, het, hle, hid⟩, hr⟩
      exact ⟨eth, off, id, hp, het, hle, hid, hr⟩
    · rintro ⟨eth, off, id, hp, het, hle, hid, hr⟩
      exact ⟨id, ⟨eth, off, hp, het, hle, hid⟩, hr⟩
  · obtain ⟨id, hid, rfl | rfl⟩ := hasFrameId_of_alarm h
    · exact (passes_iff _ _ _).2 ⟨_, hid, by decide, by decide⟩
    · exact (passes_iff _ _ _).2 ⟨_, hid, by decide, by decide⟩
  · obtain ⟨payload, hp, h⟩ := Res.bind_eq_ok.1 h
    cases payload with
    | none => cases h
    | some t =>
      obtain ⟨eth, id, rest⟩ := t
      obtain ⟨v, hv, hfrom⟩ := hasFrameId_of_dcp hp
      obtain rfl := fromU16_eq_some hfrom
      refine (passes_iff _ _ _).2 ⟨_, hv, ?_⟩
      cases id <;> decide
  · rintro req model params l e e' frame now p q d hval hl rfl hacc
    obtain ⟨eth, rt, ht⟩ := RtEngine.takes_of_accepted hacc
    obtain ⟨input, output, ha⟩ := validate_accepted hval
    obtain ⟨⟨hlo, hhi⟩, -⟩ := ha.outputFrameId
    obtain ⟨-, hout, -⟩ := Layout.fromAr_eq_ok.1 hl
    obtain ⟨-, -, -, heq⟩ := buildCr_eq_ok.1 hout
    have hid : rt.frameId = params.outputCr.frameId := by
      rw [ht.frameId, ← heq]
      rfl
    refine (passes_iff _ _ _).2 ⟨_, hasFrameId_of_rt ht.parse, ?_, ?_⟩
    · rw [hid]
      exact hlo
    · rw [hid, UInt16.le_iff_toNat_le]
      exact (UInt16.le_iff_toNat_le.1 hhi).trans (by decide)
  · rintro pkt ⟨hrt, hac⟩
    obtain ⟨id, hid, -, hhi⟩ := (passes_iff _ _ _).1 hrt
    obtain ⟨id', hid', hlo, -⟩ := (passes_iff _ _ _).1 hac
    obtain rfl := hid.unique hid'
    rw [UInt16.le_iff_toNat_le] at hhi hlo
    have hgap : (0xBFFF : UInt16).toNat < (0xFC00 : UInt16).toNat := by decide
    omega

/-- An alarm frame of 32 bytes, a tagged one: passed by the acyclic filter, not by the other. -/
theorem filters_pass_ack :
    (isAlarmFrame (frameAround (MacAddr.of 2 0 0 0 0 1) (MacAddr.of 2 0 0 0 0 2) .low
        ⟨1, 2, .ack, false, 0, 0⟩ []) : Res Empty _) = .ok true ∧
      Passes acyclicFilter (frameAround (MacAddr.of 2 0 0 0 0 1) (MacAddr.of 2 0 0 0 0 2) .low
        ⟨1, 2, .ack, false, 0, 0⟩ []) := by
  have h : (isAlarmFrame (frameAround (MacAddr.of 2 0 0 0 0 1) (MacAddr.of 2 0 0 0 0 2) .low
      ⟨1, 2, .ack, false, 0, 0⟩ []) : Res Empty _) = .ok true := by
    decide +kernel
  exact ⟨h, filters_pass.2.1 _ h⟩

end Pnio
