import Pnio.Eth

/-!
The RTA-PDU codec: alarm frames, and the AlarmNotification and AlarmAck blocks their DATA
carries.
-/

namespace Pnio

def frameIdHigh : UInt16 := 0xFC01
def frameIdLow : UInt16 := 0xFE01
def tciHigh : UInt16 := 0xC000
def tciLow : UInt16 := 0xA000
def seqInit : UInt16 := 0xFFFF
def seqNone : UInt16 := 0xFFFE
def usiChannelDiag : UInt16 := 0x8000
def usiExtChannelDiag : UInt16 := 0x8002

inductive Priority where
  | high
  | low
deriving DecidableEq, Repr

def Priority.frameId : Priority → UInt16
  | high => frameIdHigh
  | low => frameIdLow

def Priority.tci : Priority → UInt16
  | high => tciHigh
  | low => tciLow

inductive PduType where
  | data
  | nack
  | ack
  | err
deriving DecidableEq, Repr

def PduType.toU8 : PduType → UInt8
  | data => 1
  | nack => 2
  | ack => 3
  | err => 4

inductive RtaError where
  | eth (e : EthError)
  | notAlarm
  | tooShort
  | badPduType (t : UInt8)
  | badVersion (v : UInt8)
  | block (e : BlockError)
  | badVarPartLen (declared : UInt16) (available : Nat)
deriving DecidableEq, Repr

def PduType.fromU8 (ty : UInt8) : Res RtaError PduType :=
  match ty.toNat with
  | 1 => .ok data
  | 2 => .ok nack
  | 3 => .ok ack
  | 4 => .ok err
  | _ => .err (.badPduType ty)

/-! ### The RTA header -/

structure RtaHeader where
  dstRef : UInt16
  srcRef : UInt16
  pduType : PduType
  tack : Bool
  sendSeq : UInt16
  ackSeq : UInt16
deriving DecidableEq, Repr

namespace RtaHeader

def hdrLen : Nat := 12

/-- The header and the length of the variable part it announces. -/
def parse (buf : Bytes) : Res RtaError (RtaHeader × UInt16) := do
  Res.reject (buf.length < hdrLen) .tooShort
  let b ← idx buf 4
  let version := b >>> 4
  let ty := b &&& 0x0F
  Res.reject (version ≠ 1) (.badVersion version)
  let pduType ← PduType.fromU8 ty
  let dstRef ← u16At buf 0
  let srcRef ← u16At buf 2
  let flags ← idx buf 5
  let sendSeq ← u16At buf 6
  let ackSeq ← u16At buf 8
  let varPartLen ← u16At buf 10
  .ok ({ dstRef, srcRef, pduType, tack := flags &&& 0x10 != 0, sendSeq, ackSeq }, varPartLen)

/-- Window size 1. -/
def write (h : RtaHeader) (varPartLen : UInt16) : Bytes :=
  be16 h.dstRef ++ be16 h.srcRef ++
  [0x10 ||| h.pduType.toU8, 0x01 ||| (if h.tack then 0x10 else 0)] ++
  be16 h.sendSeq ++ be16 h.ackSeq ++ be16 varPartLen

@[simp] lemma length_write (h : RtaHeader) (n : UInt16) : (h.write n).length = 12 := by
  simp [write]

lemma pduType_nibble (t : PduType) :
    (0x10 ||| t.toU8) >>> 4 = 1 ∧ PduType.fromU8 ((0x10 ||| t.toU8) &&& 0x0F) = .ok t := by
  cases t <;> decide

lemma tack_bit (b : Bool) : ((0x01 ||| (if b then 0x10 else 0) : UInt8) &&& 0x10 != 0) = b := by
  cases b <;> decide

/-- **Header round trip**, in front of any variable part. -/
theorem parse_write (h : RtaHeader) (n : UInt16) (rest : Bytes) :
    parse (h.write n ++ rest) = .ok (h, n) := by
  have hl : ¬ (h.write n ++ rest).length < hdrLen := by simp [hdrLen]
  obtain ⟨hv, ht⟩ := pduType_nibble h.pduType
  have hk := tack_bit h.tack
  unfold parse
  rw [Res.reject_of_not hl, Res.ok_bind]
  simp (disch := simp) [write, idx_append_right, u16At_append_right, Res.reject_of_not, hv, ht, hk]

end RtaHeader

/-! ### The fields of the two blocks -/

inductive AlarmType where
  | diagnosis
  | process
  | pull
  | plug
  | status
  | update
  | redundancy
  | controlledBySupervisor
  | released
  | plugWrongSubmodule
  | returnOfSubmodule
  | diagnosisDisappears
  | other (v : UInt16)
deriving DecidableEq, Repr

namespace AlarmType

def fromU16 (v : UInt16) : AlarmType :=
  match v.toNat with
  | 0x0001 => diagnosis
  | 0x0002 => process
  | 0x0003 => pull
  | 0x0004 => plug
  | 0x0005 => status
  | 0x0006 => update
  | 0x0007 => redundancy
  | 0x0008 => controlledBySupervisor
  | 0x0009 => released
  | 0x000A => plugWrongSubmodule
  | 0x000B => returnOfSubmodule
  | 0x000C => diagnosisDisappears
  | _ => other v

def toU16 : AlarmType → UInt16
  | diagnosis => 0x0001
  | process => 0x0002
  | pull => 0x0003
  | plug => 0x0004
  | status => 0x0005
  | update => 0x0006
  | redundancy => 0x0007
  | controlledBySupervisor => 0x0008
  | released => 0x0009
  | plugWrongSubmodule => 0x000A
  | returnOfSubmodule => 0x000B
  | diagnosisDisappears => 0x000C
  | other v => v

end AlarmType

/-- `(b as u16) << n`. -/
def bit (b : Bool) (n : UInt16) : UInt16 := b.toUInt16 <<< n

structure AlarmSpecifier where
  sequence : UInt16
  channelDiag : Bool
  manufacturerDiag : Bool
  submoduleDiag : Bool
  arDiag : Bool
deriving DecidableEq, Repr

namespace AlarmSpecifier

def fromU16 (raw : UInt16) : AlarmSpecifier :=
  { sequence := raw &&& 0x07FF
    channelDiag := raw &&& 0x0800 != 0
    manufacturerDiag := raw &&& 0x1000 != 0
    submoduleDiag := raw &&& 0x2000 != 0
    arDiag := raw &&& 0x8000 != 0 }

def toU16 (s : AlarmSpecifier) : UInt16 :=
  (s.sequence &&& 0x07FF) ||| bit s.channelDiag 11 ||| bit s.manufacturerDiag 12 |||
    bit s.submoduleDiag 13 ||| bit s.arDiag 15

end AlarmSpecifier

inductive Maintenance where
  | fault
  | required
  | demanded
  | qualified
deriving DecidableEq, Repr

def Maintenance.toU16 : Maintenance → UInt16
  | fault => 0
  | required => 1
  | demanded => 2
  | qualified => 3

inductive Specifier where
  | allDisappear
  | appears
  | disappears
  | disappearsOthersRemain
deriving DecidableEq, Repr

def Specifier.toU16 : Specifier → UInt16
  | allDisappear => 0
  | appears => 1
  | disappears => 2
  | disappearsOthersRemain => 3

structure ChannelProperties where
  type : UInt8
  accumulative : Bool
  maintenance : Maintenance
  specifier : Specifier
  direction : UInt8
deriving DecidableEq, Repr

namespace ChannelProperties

def fromU16 (raw : UInt16) : ChannelProperties :=
  { type := (raw &&& 0x00FF).toUInt8
    accumulative := raw &&& 0x0100 != 0
    maintenance :=
      match ((raw >>> 9) &&& 0x3).toNat with
      | 0 => .fault
      | 1 => .required
      | 2 => .demanded
      | _ => .qualified
    specifier :=
      match ((raw >>> 11) &&& 0x3).toNat with
      | 0 => .allDisappear
      | 1 => .appears
      | 2 => .disappears
      | _ => .disappearsOthersRemain
    direction := ((raw >>> 13) &&& 0x7).toUInt8 }

def toU16 (p : ChannelProperties) : UInt16 :=
  p.type.toUInt16 ||| bit p.accumulative 8 ||| (p.maintenance.toU16 <<< 9) |||
    (p.specifier.toU16 <<< 11) ||| (p.direction.toUInt16 <<< 13)

end ChannelProperties

structure ChannelDiagnosis where
  channel : UInt16
  properties : ChannelProperties
  errorType : UInt16
deriving DecidableEq, Repr

structure ExtChannelDiagnosis where
  channel : UInt16
  properties : ChannelProperties
  errorType : UInt16
  extErrorType : UInt16
  extAddValue : UInt32
deriving DecidableEq, Repr

section

variable {ε : Type}

def ChannelDiagnosis.parse (b : Bytes) : Res ε ChannelDiagnosis := do
  let channel ← u16At b 0
  let properties := ChannelProperties.fromU16 (← u16At b 2)
  let errorType ← u16At b 4
  .ok { channel, properties, errorType }

def ChannelDiagnosis.write (d : ChannelDiagnosis) : Bytes :=
  be16 d.channel ++ be16 d.properties.toU16 ++ be16 d.errorType

def ExtChannelDiagnosis.parse (b : Bytes) : Res ε ExtChannelDiagnosis := do
  let channel ← u16At b 0
  let properties := ChannelProperties.fromU16 (← u16At b 2)
  let errorType ← u16At b 4
  let extErrorType ← u16At b 6
  let extAddValue ← u32At b 8
  .ok { channel, properties, errorType, extErrorType, extAddValue }

def ExtChannelDiagnosis.write (d : ExtChannelDiagnosis) : Bytes :=
  be16 d.channel ++ be16 d.properties.toU16 ++ be16 d.errorType ++ be16 d.extErrorType ++
  be32 d.extAddValue

end

inductive UserData where
  | channel (d : ChannelDiagnosis)
  | extChannel (d : ExtChannelDiagnosis)
  | raw (bytes : Bytes)
deriving DecidableEq, Repr

namespace UserData

variable {ε : Type}

/-- The data behind the user structure identifier `usi`. -/
def parse (usi : UInt16) (b : Bytes) : Res ε UserData :=
  if usi = usiChannelDiag ∧ b.length = 6 then do
    let d ← ChannelDiagnosis.parse b
    .ok (.channel d)
  else if usi = usiExtChannelDiag ∧ b.length = 12 then do
    let d ← ExtChannelDiagnosis.parse b
    .ok (.extChannel d)
  else .ok (.raw b)

def write : UserData → Bytes
  | channel d => d.write
  | extChannel d => d.write
  | raw bytes => bytes

end UserData

/-! ### The two blocks -/

structure AlarmNotification where
  alarmType : AlarmType
  api : UInt32
  slot : UInt16
  subslot : UInt16
  moduleIdent : UInt32
  submoduleIdent : UInt32
  specifier : AlarmSpecifier
  usi : UInt16
  data : UserData
deriving DecidableEq, Repr

structure AlarmAck where
  alarmType : AlarmType
  api : UInt32
  slot : UInt16
  subslot : UInt16
  specifier : AlarmSpecifier
  status : PnioStatus
deriving DecidableEq, Repr

inductive RtaData where
  | notification (n : AlarmNotification)
  | ack (a : AlarmAck)
  | unknown (blockType : UInt16) (body : Bytes)
deriving DecidableEq, Repr

inductive RtaBody where
  | data (d : RtaData)
  | ack
  | nack
  | err (status : PnioStatus)
deriving DecidableEq, Repr

structure RtaPdu where
  priority : Priority
  header : RtaHeader
  body : RtaBody
deriving DecidableEq, Repr

open BlockReader in
def parseNotification (body : Bytes) : Res BlockError AlarmNotification :=
  Reader.runOn (do
    let alarmType ← u16
    let api ← u32
    let slot ← u16
    let subslot ← u16
    let moduleIdent ← u32
    let submoduleIdent ← u32
    let specifier ← u16
    let usi ← u16
    let n ← Reader.remaining
    let dataBytes ← bytes n
    let data ← StateT.lift (UserData.parse usi dataBytes)
    pure { alarmType := .fromU16 alarmType, api, slot, subslot, moduleIdent, submoduleIdent,
           specifier := .fromU16 specifier, usi, data }) body

open BlockReader in
def parseAck (body : Bytes) : Res BlockError AlarmAck :=
  Reader.runOn (do
    let alarmType ← u16
    let api ← u32
    let slot ← u16
    let subslot ← u16
    let specifier ← u16
    let status ← u32
    pure { alarmType := .fromU16 alarmType, api, slot, subslot,
           specifier := .fromU16 specifier, status := ⟨status⟩ }) body

def parseRtaData (blockType : UInt16) (body : Bytes) : Res RtaError RtaData :=
  match blockType.toNat with
  | 0x0001 | 0x0002 => do
    let n ← Res.mapErr .block (parseNotification body)
    .ok (.notification n)
  | 0x8001 | 0x8002 => do
    let a ← Res.mapErr .block (parseAck body)
    .ok (.ack a)
  | _ => .ok (.unknown blockType body)

/-- The body of an AlarmNotification block. -/
def AlarmNotification.body (n : AlarmNotification) : Bytes :=
  be16 n.alarmType.toU16 ++ be32 n.api ++ be16 n.slot ++ be16 n.subslot ++ be32 n.moduleIdent ++
  be32 n.submoduleIdent ++ be16 n.specifier.toU16 ++ be16 n.usi ++ n.data.write

/-- The body of an AlarmAck block. -/
def AlarmAck.body (a : AlarmAck) : Bytes :=
  be16 a.alarmType.toU16 ++ be32 a.api ++ be16 a.slot ++ be16 a.subslot ++
  be16 a.specifier.toU16 ++ be32 a.status.val

section Write

variable {ε : Type}

def notificationType : Priority → UInt16
  | .high => 0x0001
  | .low => 0x0002

def ackType : Priority → UInt16
  | .high => 0x8001
  | .low => 0x8002

def writeNotification (n : AlarmNotification) (priority : Priority) : Res ε Bytes :=
  writeBlock (notificationType priority) n.body

def writeAck (a : AlarmAck) (priority : Priority) : Res ε Bytes :=
  writeBlock (ackType priority) a.body

def writeRtaData (data : RtaData) (priority : Priority) : Res ε Bytes :=
  match data with
  | .notification n => writeNotification n priority
  | .ack a => writeAck a priority
  | .unknown blockType body => writeBlock blockType body

/-- The variable part of a PDU. -/
def writeBody (body : RtaBody) (priority : Priority) : Res ε Bytes :=
  match body with
  | .ack | .nack => .ok []
  | .err status => .ok (be32 status.val)
  | .data d => writeRtaData d priority

/-- The bytes of a frame around its variable part. -/
def frameAround (dst src : MacAddr) (priority : Priority) (header : RtaHeader) (varPart : Bytes) :
    Bytes :=
  EthHeader.write ⟨dst, src, some priority.tci, ethertypeProfinet⟩ ++ be16 priority.frameId ++
  header.write (UInt16.ofNat varPart.length) ++ varPart

def buildFrame (dst src : MacAddr) (pdu : RtaPdu) : Res ε Bytes := do
  let varPart ← writeBody pdu.body pdu.priority
  .ok (frameAround dst src pdu.priority pdu.header varPart)

end Write

/-! ### Frames -/

def Priority.fromFrameId (frameId : UInt16) : Res RtaError Priority :=
  if frameId = frameIdHigh then .ok high
  else if frameId = frameIdLow then .ok low
  else .err .notAlarm

def parseBody (pduType : PduType) (varPart : Bytes) : Res RtaError RtaBody :=
  match pduType with
  | .ack => .ok .ack
  | .nack => .ok .nack
  | .err => do
    Res.reject (varPart.length < 4) .tooShort
    let status ← u32At varPart 0
    .ok (.err ⟨status⟩)
  | .data => do
    let (bh, bodyBytes) ← Res.mapErr .block (BlockHeader.parse varPart)
    let d ← parseRtaData bh.blockType bodyBytes
    .ok (.data d)

def parseFrame (frame : Bytes) : Res RtaError RtaPdu := do
  let (eth, off) ← Res.mapErr .eth (EthHeader.parse frame)
  Res.reject (eth.ethertype ≠ ethertypeProfinet) .notAlarm
  Res.reject (frame.length < off + 2) .tooShort
  let frameId ← u16At frame off
  let priority ← Priority.fromFrameId frameId
  let rtaOff := off + 2
  let (header, varPartLen) ← RtaHeader.parse (← slice frame rtaOff frame.length)
  let varOff := rtaOff + RtaHeader.hdrLen
  let available := frame.length - varOff
  Res.reject (available < varPartLen.toNat) (.badVarPartLen varPartLen available)
  let varPart ← slice frame varOff (varOff + varPartLen.toNat)
  let body ← parseBody header.pduType varPart
  .ok { priority, header, body }

def isAlarmFrame {ε : Type} (frame : Bytes) : Res ε Bool := do
  match ← Res.attempt (EthHeader.parse frame) with
  | .ok (eth, off) =>
    if eth.ethertype = ethertypeProfinet ∧ off + 2 ≤ frame.length then do
      let frameId ← u16At frame off
      .ok (decide (frameId = frameIdHigh ∨ frameId = frameIdLow))
    else .ok false
  | .error _ => .ok false

/-! ### Reading back what was built -/

lemma Priority.fromFrameId_frameId (p : Priority) : fromFrameId p.frameId = .ok p := by
  cases p <;> rfl

/-- A frame reads back up to its variable part, of which as much is read as the 16-bit length
field can say; what is behind it does not matter. -/
lemma parseFrame_padded (dst src : MacAddr) (p : Priority) (h : RtaHeader) (v pad : Bytes) :
    parseFrame (frameAround dst src p h v ++ pad) =
      (parseBody h.pduType (v.take (v.length % 65536)) >>= fun body => .ok ⟨p, h, body⟩) := by
  have hn : (UInt16.ofNat v.length).toNat = v.length % 65536 := UInt16.toNat_ofNat'
  have hle := Nat.mod_le v.length 65536
  have heth : EthHeader.parse (frameAround dst src p h v ++ pad) =
      .ok (⟨dst, src, some p.tci, ethertypeProfinet⟩, 18) := by
    simp only [frameAround, List.append_assoc]
    exact EthHeader.parse_write_tagged _ _ _ _ _
  have hlen : (frameAround dst src p h v ++ pad).length = 32 + v.length + pad.length := by
    simp [frameAround]; omega
  have hid : (u16At (frameAround dst src p h v ++ pad) 18 : Res RtaError _) = .ok p.frameId := by
    simp (disch := simp) [frameAround, u16At_append_right]
  have hsplit : frameAround dst src p h v ++ pad =
      (EthHeader.write ⟨dst, src, some p.tci, ethertypeProfinet⟩ ++ be16 p.frameId) ++
        (h.write (UInt16.ofNat v.length) ++ (v ++ pad)) := by
    simp [frameAround]
  have hhdr : (slice (frameAround dst src p h v ++ pad) 20 (32 + v.length + pad.length) :
      Res RtaError _) = .ok (h.write (UInt16.ofNat v.length) ++ (v ++ pad)) := by
    rw [← hlen, hsplit]
    exact slice_append_rest (by simp)
  have hv : (slice (frameAround dst src p h v ++ pad) 32 (32 + v.length % 65536) :
      Res RtaError _) = .ok (v.take (v.length % 65536)) := by
    have hpre : frameAround dst src p h v ++ pad =
        (EthHeader.write ⟨dst, src, some p.tci, ethertypeProfinet⟩ ++ be16 p.frameId ++
          h.write (UInt16.ofNat v.length)) ++ (v.take (v.length % 65536) ++
            (v.drop (v.length % 65536) ++ pad)) := by
      rw [← List.append_assoc (v.take _), List.take_append_drop]
      simp [frameAround]
    rw [hpre]
    exact slice_append_mid (by simp) (by rw [List.length_take, min_eq_left hle])
  unfold parseFrame
  rw [heth, Res.mapErr_ok, Res.ok_bind]
  simp only [hlen, hid, Res.ok_bind]
  rw [Res.reject_of_not (by simp), Res.reject_of_not (by omega), Priority.fromFrameId_frameId]
  simp only [Res.ok_bind, hhdr, RtaHeader.parse_write, RtaHeader.hdrLen, hn]
  rw [Res.reject_of_not (by omega)]
  simp only [Res.ok_bind]
  rw [hv, Res.ok_bind]

lemma parseFrame_around (dst src : MacAddr) (p : Priority) (h : RtaHeader) (v : Bytes) :
    parseFrame (frameAround dst src p h v) =
      (parseBody h.pduType (v.take (v.length % 65536)) >>= fun body => .ok ⟨p, h, body⟩) := by
  rw [← parseFrame_padded dst src p h v [], List.append_nil]

lemma UserData.parse_ok {ε : Type} (usi : UInt16) (b : Bytes) :
    ∃ d, (UserData.parse usi b : Res ε _) = .ok d := by
  unfold UserData.parse
  split_ifs with h1 h2
  · obtain ⟨c, hc⟩ := u16At_of_le (ε := ε) (show 0 + 2 ≤ b.length by omega)
    obtain ⟨p, hp⟩ := u16At_of_le (ε := ε) (show 2 + 2 ≤ b.length by omega)
    obtain ⟨e, he⟩ := u16At_of_le (ε := ε) (show 4 + 2 ≤ b.length by omega)
    simp only [ChannelDiagnosis.parse, hc, hp, he, Res.ok_bind]
    exact ⟨_, rfl⟩
  · obtain ⟨c, hc⟩ := u16At_of_le (ε := ε) (show 0 + 2 ≤ b.length by omega)
    obtain ⟨p, hp⟩ := u16At_of_le (ε := ε) (show 2 + 2 ≤ b.length by omega)
    obtain ⟨e, he⟩ := u16At_of_le (ε := ε) (show 4 + 2 ≤ b.length by omega)
    obtain ⟨x, hx⟩ := u16At_of_le (ε := ε) (show 6 + 2 ≤ b.length by omega)
    obtain ⟨a, ha⟩ := u32At_of_le (ε := ε) (show 8 + 4 ≤ b.length by omega)
    simp only [ExtChannelDiagnosis.parse, hc, hp, he, hx, ha, Res.ok_bind]
    exact ⟨_, rfl⟩
  · exact ⟨_, rfl⟩

/-- What a receiver reads from the body of a notification. -/
lemma parseNotification_body (n : AlarmNotification) :
    parseNotification n.body = (UserData.parse n.usi n.data.write >>= fun data =>
      .ok { n with alarmType := .fromU16 n.alarmType.toU16,
                   specifier := .fromU16 n.specifier.toU16, data }) := by
  have hrest : ∀ pre t : Bytes, BlockReader.bytes t.length (Cursor.split pre t) =
      .ok (t, Cursor.split (pre ++ t) []) := by
    intro pre t
    have h : Reader.bytes BlockError.tooShort t.length (Cursor.split pre (t ++ [])) = _ :=
      Reader.bytes_split rfl pre []
    rwa [List.append_nil] at h
  rw [parseNotification, Reader.runOn_split, AlarmNotification.body]
  simp only [List.append_assoc, Reader.bind_apply, BlockReader.u16_split, BlockReader.u32_split,
    Res.ok_bind, Reader.remaining_split, hrest, Reader.lift_apply, Reader.pure_apply, bind_assoc]

end Pnio
