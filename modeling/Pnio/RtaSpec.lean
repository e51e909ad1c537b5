import Pnio.AlarmRun
import Pnio.Lib.Fields

/-!
Alarm frames are read back as they were built.

A PDU is canonical if every field holds a value that its encoding can tell from the others. The
codec inverts on canonical PDUs whose variable part fits its length field, whatever padding the
network adds.
-/

namespace Pnio

/-! ### Packed fields -/

lemma toNat_bit (b : Bool) {s : UInt16} {k : Nat} (hs : s.toNat = k) (hk : k < 16) :
    (bit b s).toNat = b.toNat * 2 ^ k := by
  have hlt : 2 ^ k < 2 ^ 16 := Nat.pow_lt_pow_right (by decide) hk
  cases b with
  | true => simpa [bit, hs, Nat.mod_eq_of_lt hk, Nat.shiftLeft_eq, Bool.toUInt16] using hlt
  | false => simp [bit, Bool.toUInt16]

lemma Fielded.flag {x s : UInt16} {k n : Nat} (h : Fielded x k n) (b : Bool) (hs : s.toNat = k)
    (hk : k < 16) : Fielded (x ||| bit b s) (k + 1) (n + b.toNat * 2 ^ k) :=
  h.field (toNat_bit b hs hk) b.toNat_lt

namespace AlarmSpecifier

/-- The number fits its eleven bits. -/
def Canonical (s : AlarmSpecifier) : Prop := s.sequence ≤ 0x7FF

lemma fielded_toU16 (s : AlarmSpecifier) : Fielded s.toU16 16 (s.sequence.toNat % 2 ^ 11 +
    s.channelDiag.toNat * 2 ^ 11 + s.manufacturerDiag.toNat * 2 ^ 12 +
    s.submoduleDiag.toNat * 2 ^ 13 + s.arDiag.toNat * 2 ^ 15) := by
  have h11 : Fielded (s.sequence &&& 0x07FF) 11 (s.sequence.toNat % 2 ^ 11) :=
    ⟨Fielded.toNat_and _ rfl, Nat.mod_lt _ (by decide)⟩
  have h12 := h11.flag s.channelDiag (s := 11) rfl (by decide)
  have h13 := h12.flag s.manufacturerDiag (s := 12) rfl (by decide)
  have h14 := h13.flag s.submoduleDiag (s := 13) rfl (by decide)
  exact (h14.mono (by decide)).flag s.arDiag (s := 15) rfl (by decide)

lemma fromU16_toU16 {s : AlarmSpecifier} (h : s.Canonical) : fromU16 s.toU16 = s := by
  obtain ⟨hv, -⟩ := fielded_toU16 s
  have hle : s.sequence.toNat ≤ 0x7FF := UInt16.le_iff_toNat_le.1 h
  obtain ⟨seq, c, m, sm, ar⟩ := s
  have hc := c.toNat_lt
  have hm := m.toNat_lt
  have hs := sm.toNat_lt
  have ha := ar.toNat_lt
  generalize toU16 ⟨seq, c, m, sm, ar⟩ = raw at hv
  dsimp only at hv hle
  simp only [fromU16, mk.injEq]
  refine ⟨?_, ?_, ?_, ?_, ?_⟩
  · refine UInt16.toNat_inj.1 ?_
    rw [Fielded.toNat_and (k := 11) _ rfl]
    omega
  · exact Fielded.and_bne_zero (k := 11) rfl (by omega)
  · exact Fielded.and_bne_zero (k := 12) rfl (by omega)
  · exact Fielded.and_bne_zero (k := 13) rfl (by omega)
  · exact Fielded.and_bne_zero (k := 15) rfl (by omega)

end AlarmSpecifier

namespace ChannelProperties

/-- The direction fits its three bits. -/
def Canonical (p : ChannelProperties) : Prop := p.direction ≤ 7

lemma fielded_toU16 {p : ChannelProperties} (h : p.Canonical) : Fielded p.toU16 16
    (p.type.toNat + p.accumulative.toNat * 2 ^ 8 + p.maintenance.toU16.toNat * 2 ^ 9 +
      p.specifier.toU16.toNat * 2 ^ 11 + p.direction.toNat * 2 ^ 13) := by
  have hle : p.direction.toNat ≤ 7 := UInt8.le_iff_toNat_le.1 h
  have hm : (p.maintenance.toU16 <<< 9).toNat = p.maintenance.toU16.toNat * 2 ^ 9 := by
    cases p.maintenance <;> decide
  have hs : (p.specifier.toU16 <<< 11).toNat = p.specifier.toU16.toNat * 2 ^ 11 := by
    cases p.specifier <;> decide
  have hd : (p.direction.toUInt16 <<< 13).toNat = p.direction.toNat * 2 ^ 13 := by
    rw [UInt16.toNat_shiftLeft, UInt8.toNat_toUInt16, Nat.shiftLeft_eq]
    exact Nat.mod_eq_of_lt (by simp; omega)
  have h8 : Fielded p.type.toUInt16 8 p.type.toNat := ⟨UInt8.toNat_toUInt16 _, p.type.toNat_lt⟩
  have h9 := h8.flag p.accumulative (s := 8) rfl (by decide)
  have h11 := h9.field (w := 2) hm (by cases p.maintenance <;> decide)
  have h13 := h11.field (w := 2) hs (by cases p.specifier <;> decide)
  exact h13.field (w := 3) hd (by omega)

lemma fromU16_toU16 {p : ChannelProperties} (h : p.Canonical) : fromU16 p.toU16 = p := by
  obtain ⟨hv, -⟩ := fielded_toU16 h
  have hle : p.direction.toNat ≤ 7 := UInt8.le_iff_toNat_le.1 h
  obtain ⟨type, acc, mt, sp, dir⟩ := p
  have ht := type.toNat_lt
  have ha := acc.toNat_lt
  have hm : mt.toU16.toNat ≤ 3 := by cases mt <;> decide
  have hs : sp.toU16.toNat ≤ 3 := by cases sp <;> decide
  generalize toU16 ⟨type, acc, mt, sp, dir⟩ = raw at hv
  dsimp only at hv hle
  -- the fields above the shift, without the one above them
  have hfield : ∀ (s m : UInt16) (k : Nat), m.toNat = 2 ^ k - 1 →
      ((raw >>> s) &&& m).toNat = raw.toNat / 2 ^ (s.toNat % 16) % 2 ^ k := by
    intro s m k hmask
    rw [Fielded.toNat_and _ hmask, UInt16.toNat_shiftRight, Nat.shiftRight_eq_div_pow]
  simp only [fromU16, mk.injEq]
  refine ⟨?_, ?_, ?_, ?_, ?_⟩
  · refine UInt8.toNat_inj.1 ?_
    rw [UInt16.toNat_toUInt8, Fielded.toNat_and (k := 8) _ rfl]
    omega
  · exact Fielded.and_bne_zero (k := 8) rfl (by omega)
  · have h9 : ((raw >>> 9) &&& 0x3).toNat = mt.toU16.toNat := by
      rw [hfield 9 0x3 2 rfl]
      simp
      omega
    rw [h9]
    cases mt <;> rfl
  · have h11 : ((raw >>> 11) &&& 0x3).toNat = sp.toU16.toNat := by
      rw [hfield 11 0x3 2 rfl]
      simp
      omega
    rw [h11]
    cases sp <;> rfl
  · refine UInt8.toNat_inj.1 ?_
    rw [UInt16.toNat_toUInt8, hfield 13 0x7 3 rfl]
    simp
    omega

end ChannelProperties

/-! ### Canonical PDUs -/

/-- A code without a name of its own. -/
def AlarmType.Canonical : AlarmType → Prop
  | .other v => ¬ (1 ≤ v ∧ v ≤ 12)
  | _ => True

lemma AlarmType.fromU16_toU16 {t : AlarmType} (h : t.Canonical) : fromU16 t.toU16 = t := by
  cases t with
  | other v =>
    have hv : ¬ (1 ≤ v.toNat ∧ v.toNat ≤ 12) :=
      fun hv => h ⟨UInt16.le_iff_toNat_le.2 hv.1, UInt16.le_iff_toNat_le.2 hv.2⟩
    change fromU16 v = other v
    unfold fromU16
    split
    all_goals first
      | omega
      | rfl
  | _ => rfl

/-- The data is what the USI and its length make a reader of it. -/
def UserData.Canonical (usi : UInt16) : UserData → Prop
  | .channel d => usi = usiChannelDiag ∧ d.properties.Canonical
  | .extChannel d => usi = usiExtChannelDiag ∧ d.properties.Canonical
  | .raw b => ¬ (usi = usiChannelDiag ∧ b.length = 6) ∧ ¬ (usi = usiExtChannelDiag ∧ b.length = 12)

structure AlarmNotification.Canonical (n : AlarmNotification) : Prop where
  alarmType : n.alarmType.Canonical
  specifier : n.specifier.Canonical
  data : n.data.Canonical n.usi

structure AlarmAck.Canonical (a : AlarmAck) : Prop where
  alarmType : a.alarmType.Canonical
  specifier : a.specifier.Canonical

def RtaData.Canonical : RtaData → Prop
  | .notification n => n.Canonical
  | .ack a => a.Canonical
  | .unknown blockType _ => blockType ∉ [0x0001, 0x0002, 0x8001, 0x8002]

/-- The body of the block in a DATA. -/
def RtaData.blockBody : RtaData → Bytes
  | .notification n => n.body
  | .ack a => a.body
  | .unknown _ body => body

namespace RtaBody

def Canonical : RtaBody → Prop
  | .data d => d.Canonical
  | .ack | .nack | .err _ => True

def pduType : RtaBody → PduType
  | .data _ => .data
  | .ack => .ack
  | .nack => .nack
  | .err _ => .err

/-- The length of the variable part. -/
def varLen : RtaBody → Nat
  | .data d => 6 + d.blockBody.length
  | .ack | .nack => 0
  | .err _ => 4

end RtaBody

structure RtaPdu.Canonical (pdu : RtaPdu) : Prop where
  pduType : pdu.header.pduType = pdu.body.pduType
  body : pdu.body.Canonical

/-! ### Reading back -/

section ReadBack

variable {ε : Type}

lemma UserData.parse_write {usi : UInt16} {d : UserData} (h : d.Canonical usi) :
    (parse usi d.write : Res ε _) = .ok d := by
  have hne : ¬ usiExtChannelDiag = usiChannelDiag := by decide
  cases d with
  | channel d =>
    obtain ⟨rfl, hp⟩ := h
    have hlen : d.write.length = 6 := by simp [ChannelDiagnosis.write]
    have hparse : (ChannelDiagnosis.parse d.write : Res ε _) = .ok d := by
      simp (disch := simp) [ChannelDiagnosis.parse, ChannelDiagnosis.write, u16At_append_right,
        ChannelProperties.fromU16_toU16 hp]
    rw [parse, write, if_pos ⟨rfl, hlen⟩, hparse, Res.ok_bind]
  | extChannel d =>
    obtain ⟨rfl, hp⟩ := h
    have hlen : d.write.length = 12 := by simp [ExtChannelDiagnosis.write]
    have hparse : (ExtChannelDiagnosis.parse d.write : Res ε _) = .ok d := by
      simp (disch := simp) [ExtChannelDiagnosis.parse, ExtChannelDiagnosis.write,
        u16At_append_right, u32At_append_right, ChannelProperties.fromU16_toU16 hp]
    rw [parse, write, if_neg fun h => hne h.1, if_pos ⟨rfl, hlen⟩, hparse, Res.ok_bind]
  | raw b => rw [parse, write, if_neg h.1, if_neg h.2]

lemma parseNotification_canonical {n : AlarmNotification} (h : n.Canonical) :
    parseNotification n.body = .ok n := by
  rw [parseNotification_body, UserData.parse_write h.data, Res.ok_bind,
    AlarmType.fromU16_toU16 h.alarmType, AlarmSpecifier.fromU16_toU16 h.specifier]

lemma parseAck_canonical {a : AlarmAck} (h : a.Canonical) : parseAck a.body = .ok a := by
  have hb : a.body = be16 a.alarmType.toU16 ++ (be32 a.api ++ (be16 a.slot ++ (be16 a.subslot ++
      (be16 a.specifier.toU16 ++ (be32 a.status.val ++ []))))) := by
    simp [AlarmAck.body]
  rw [parseAck, Reader.runOn_split, hb]
  simp only [Reader.bind_apply, BlockReader.u16_split, BlockReader.u32_split, Res.ok_bind,
    Reader.pure_apply, AlarmType.fromU16_toU16 h.alarmType,
    AlarmSpecifier.fromU16_toU16 h.specifier]

/-- The type of the block in a DATA. -/
def RtaData.blockType (p : Priority) : RtaData → UInt16
  | .notification _ => notificationType p
  | .ack _ => ackType p
  | .unknown blockType _ => blockType

lemma writeRtaData_eq (d : RtaData) (p : Priority) :
    (writeRtaData d p : Res ε _) = writeBlock (d.blockType p) d.blockBody := by
  cases d <;> rfl

lemma parseRtaData_canonical {d : RtaData} (p : Priority) (h : d.Canonical) :
    parseRtaData (d.blockType p) d.blockBody = .ok d := by
  cases d with
  | notification n =>
    have hn : parseRtaData (notificationType p) n.body =
        (Res.mapErr .block (parseNotification n.body) >>= fun n => .ok (.notification n)) := by
      cases p <;> rfl
    rw [RtaData.blockType, RtaData.blockBody, hn, parseNotification_canonical h]
    rfl
  | ack a =>
    have ha : parseRtaData (ackType p) a.body =
        (Res.mapErr .block (parseAck a.body) >>= fun a => .ok (.ack a)) := by
      cases p <;> rfl
    rw [RtaData.blockType, RtaData.blockBody, ha, parseAck_canonical h]
    rfl
  | unknown ty body =>
    have hty : ∀ c : UInt16, c ∈ ([0x0001, 0x0002, 0x8001, 0x8002] : List UInt16) →
        ty.toNat ≠ c.toNat := fun c hc he => h (UInt16.toNat_inj.1 he ▸ hc)
    change parseRtaData ty body = _
    unfold parseRtaData
    split
    · rename_i he
      exact absurd he (hty 0x0001 (by decide))
    · rename_i he
      exact absurd he (hty 0x0002 (by decide))
    · rename_i he
      exact absurd he (hty 0x8001 (by decide))
    · rename_i he
      exact absurd he (hty 0x8002 (by decide))
    · rfl

/-- The variable part is written, and read back. -/
lemma writeBody_canonical {body : RtaBody} (p : Priority) (h : body.Canonical)
    (hlen : body.varLen ≤ 65535) :
    ∃ v, (writeBody body p : Res ε _) = .ok v ∧ v.length = body.varLen ∧
      parseBody body.pduType v = .ok body := by
  cases body with
  | data d =>
    have hfit : BlockFits (d.blockType p, d.blockBody) := by
      dsimp only [BlockFits]
      simp only [RtaBody.varLen] at hlen
      omega
    have hparse := parse_blockBytes hfit []
    rw [List.append_nil] at hparse
    refine ⟨blockBytes (d.blockType p, d.blockBody), ?_, length_blockBytes _, ?_⟩
    · rw [writeBody, writeRtaData_eq]
      exact writeBlock_eq hfit
    · simp only [RtaBody.pduType, parseBody, hparse, Res.mapErr_ok, Res.ok_bind, blockHeader,
        parseRtaData_canonical p h]
  | ack => exact ⟨[], rfl, rfl, rfl⟩
  | nack => exact ⟨[], rfl, rfl, rfl⟩
  | err status =>
    refine ⟨be32 status.val, rfl, length_be32 _, ?_⟩
    have hfour : ¬ (be32 status.val).length < 4 := by simp
    simp only [RtaBody.pduType, parseBody]
    rw [Res.reject_of_not hfour, Res.ok_bind, u32At_be32_end, Res.ok_bind]

end ReadBack

/-- **Alarm frames round trip**: a canonical PDU whose variable part fits its length field is built
and read back, under the addresses and the tag of its priority, and padding changes nothing. -/
theorem frame_round_trip (dst src : MacAddr) (pdu : RtaPdu) (h : pdu.Canonical)
    (hlen : pdu.body.varLen ≤ 65535) :
    ∃ frame, (buildFrame dst src pdu : Res RtaError _) = .ok frame ∧
      parseFrame frame = .ok pdu ∧
      EthHeader.parse frame =
        .ok (⟨dst, src, some pdu.priority.tci, ethertypeProfinet⟩, 18) ∧
      ∀ pad, parseFrame (frame ++ pad) = .ok pdu ∧
        EthHeader.parse (frame ++ pad) =
          .ok (⟨dst, src, some pdu.priority.tci, ethertypeProfinet⟩, 18) := by
  obtain ⟨v, hwrite, hv, hread⟩ := writeBody_canonical (ε := RtaError) pdu.priority h.body hlen
  have hpad : ∀ pad, parseFrame (frameAround dst src pdu.priority pdu.header v ++ pad) = .ok pdu ∧
      EthHeader.parse (frameAround dst src pdu.priority pdu.header v ++ pad) =
        .ok (⟨dst, src, some pdu.priority.tci, ethertypeProfinet⟩, 18) := by
    intro pad
    constructor
    · rw [parseFrame_padded, Nat.mod_eq_of_lt (by omega), List.take_length, h.pduType, hread]
      rfl
    · simp only [frameAround, List.append_assoc]
      exact EthHeader.parse_write_tagged _ _ _ _ _
  obtain ⟨hframe, heth⟩ := hpad []
  rw [List.append_nil] at hframe heth
  refine ⟨frameAround dst src pdu.priority pdu.header v, ?_, hframe, heth, hpad⟩
  rw [buildFrame, hwrite, Res.ok_bind]

namespace AlarmDemo

/-- A diagnosis on the low priority, with every field in use. -/
def diagnosisPdu : RtaPdu :=
  { priority := .low
    header := ⟨1, 2, .data, true, 3, seqNone⟩
    body := .data (.notification
      { alarmType := .other 0x20, api := 0, slot := 1, subslot := 1, moduleIdent := 0x31,
        submoduleIdent := 0x32, specifier := ⟨0x7FF, true, false, true, true⟩,
        usi := usiExtChannelDiag,
        data := .extChannel ⟨0x8000, ⟨5, true, .demanded, .disappears, 7⟩, 6, 0x8001, 9⟩ }) }

lemma diagnosisPdu_canonical : diagnosisPdu.Canonical := by
  have htype : ¬ (1 ≤ (0x20 : UInt16) ∧ (0x20 : UInt16) ≤ 12) := by decide
  have hseq : (0x7FF : UInt16) ≤ 0x7FF := by decide
  have hdir : (7 : UInt8) ≤ 7 := by decide
  exact ⟨rfl, ⟨htype, hseq, rfl, hdir⟩⟩

end AlarmDemo

open AlarmDemo in
/-- The diagnosis, padded to the length of a short Ethernet frame and beyond. -/
theorem frame_round_trip_diagnosis :
    ∃ frame, (buildFrame cfg.peerMac cfg.ourMac diagnosisPdu : Res RtaError _) = .ok frame ∧
      parseFrame (frame ++ List.replicate 10 0xFF) = .ok diagnosisPdu := by
  obtain ⟨frame, hb, -, -, hpad⟩ := frame_round_trip cfg.peerMac cfg.ourMac diagnosisPdu
    diagnosisPdu_canonical (by decide)
  exact ⟨frame, hb, (hpad _).1⟩

end Pnio
