import Pnio.Rpc
import Pnio.Lib.Reader

/-!
PNIO blocks: the status word, the 6-byte block header and the four blocks of a Connect
request.
-/

namespace Pnio

abbrev MacAddr := Octets 6

/-- The address with these octets, in the order they are sent. -/
def MacAddr.of (a b c d e f : UInt8) : MacAddr := ⟨[a, b, c, d, e, f], rfl⟩

/-! ### Status words and errors -/

inductive ConnectBlock where
  | arBlock
  | iocrBlock
  | expectedSubmodule
  | alarmCr
deriving DecidableEq, Repr

def ConnectBlock.toU8 : ConnectBlock → UInt8
  | arBlock => 1
  | iocrBlock => 2
  | expectedSubmodule => 3
  | alarmCr => 4

structure PnioStatus where
  val : UInt32
deriving DecidableEq, Repr

namespace PnioStatus

def new (code decode code1 code2 : UInt8) : PnioStatus :=
  ⟨UInt32.ofNat (ofBe [code, decode, code1, code2])⟩

def connectReject (block : ConnectBlock) (field : UInt8) : PnioStatus :=
  new 0xDB 0x81 block.toU8 field

def connectArAlreadyExists : PnioStatus := new 0xDB 0x81 0x3d 0x0e
def writeWrongAr : PnioStatus := new 0xDF 0x81 0x3d 0x03
def writeResourceUnavailable : PnioStatus := new 0xDF 0x80 0xC3 0x00
def controlWrongState : PnioStatus := new 0xDD 0x81 0x3d 0x03
def serviceUnsupported : PnioStatus := new 0x81 0x81 0x05 0x00
def readIndexUnsupported : PnioStatus := new 0xDE 0x80 0xB0 0x00
def readWrongAr : PnioStatus := new 0xDE 0x81 0x3d 0x03
def writeInvalidParameter : PnioStatus := new 0xDF 0x81 0xB0 0x02
def rtaAbort (code2 : UInt8) : PnioStatus := new 0xCF 0x81 0xFD code2

/-- A status word whose code is not zero is no success. -/
lemma new_val_ne_zero {code decode code1 code2 : UInt8} (h : code ≠ 0) :
    (new code decode code1 code2).val ≠ 0 := by
  intro h0
  have hc : code.toNat ≠ 0 := fun e => h (UInt8.toNat_inj.1 e)
  have h1 := code.toNat_lt
  have h2 := decode.toNat_lt
  have h3 := code1.toNat_lt
  have h4 := code2.toNat_lt
  have hv := congrArg UInt32.toNat h0
  simp [new, ofBe] at hv
  omega

lemma connectReject_val_ne_zero (block : ConnectBlock) (field : UInt8) :
    (connectReject block field).val ≠ 0 :=
  new_val_ne_zero (by decide)

end PnioStatus

inductive BlockError where
  | tooShort (need have_ : Nat)
  | unexpectedType (expected got : UInt16)
  | badVersion (high low : UInt8)
  | badLength (declared : UInt16) (available : Nat)
  | malformed (why : String)
deriving DecidableEq, Repr

inductive CmError where
  | block (e : BlockError)
  | reject (s : PnioStatus)
deriving DecidableEq, Repr

/-! ### Readers -/

abbrev BlockReader (α : Type) := Reader BlockError α

namespace BlockReader

def bytes (n : Nat) : BlockReader Bytes := Reader.bytes .tooShort n

def u8 : BlockReader UInt8 := do
  let b ← bytes 1
  pure (UInt8.ofNat (ofBe b))

def u16 : BlockReader UInt16 := do
  let b ← bytes 2
  pure (UInt16.ofNat (ofBe b))

def u32 : BlockReader UInt32 := do
  let b ← bytes 4
  pure (UInt32.ofNat (ofBe b))

def uuid : BlockReader Uuid := do
  let b ← bytes 16
  match ← StateT.lift (Uuid.read b .big) with
  | some u => pure u
  | none => StateT.lift (.err (.malformed "uuid"))

def mac : BlockReader MacAddr := do
  let b ← bytes 6
  StateT.lift (Octets.copyFrom 6 b)

lemma u16_split (v : UInt16) (pre t : Bytes) :
    u16 (Cursor.split pre (be16 v ++ t)) = .ok (v, Cursor.split (pre ++ be16 v) t) := by
  rw [u16, Reader.bind_apply, bytes, Reader.bytes_split (length_be16 v), Res.ok_bind, ofBe_be16,
    Reader.pure_apply]

lemma u32_split (v : UInt32) (pre t : Bytes) :
    u32 (Cursor.split pre (be32 v ++ t)) = .ok (v, Cursor.split (pre ++ be32 v) t) := by
  rw [u32, Reader.bind_apply, bytes, Reader.bytes_split (length_be32 v), Res.ok_bind, ofBe_be32,
    Reader.pure_apply]

end BlockReader

/-! ### The block header -/

structure BlockHeader where
  blockType : UInt16
  blockLength : UInt16
  versionHigh : UInt8
  versionLow : UInt8
deriving DecidableEq, Repr

namespace BlockHeader

def hdrLen : Nat := 6

def parse (buf : Bytes) : Res BlockError (BlockHeader × Bytes) := do
  Res.reject (buf.length < hdrLen) (.tooShort hdrLen buf.length)
  let blockType := UInt16.ofNat (ofBe (← slice buf 0 2))
  let blockLength := UInt16.ofNat (ofBe (← slice buf 2 4))
  let versionHigh ← idx buf 4
  let versionLow ← idx buf 5
  Res.reject ((versionHigh, versionLow) ≠ (1, 0)) (.badVersion versionHigh versionLow)
  let available := buf.length - hdrLen
  let bodyLen := blockLength.toNat - 2
  Res.reject (available < bodyLen) (.badLength blockLength available)
  let body ← slice buf hdrLen (hdrLen + bodyLen)
  .ok ({ blockType, blockLength, versionHigh, versionLow }, body)

/-- The addition `body_len + 2` is done in 16 bits and is checked. -/
def write {ε : Type} (blockType bodyLen : UInt16) : Res ε Bytes :=
  if bodyLen.toNat + 2 < 65536 then .ok (be16 blockType ++ be16 (bodyLen + 2) ++ [1, 0])
  else .panic .overflow

/-- The header as it was read. -/
def bytes (h : BlockHeader) : Bytes :=
  be16 h.blockType ++ be16 h.blockLength ++ [h.versionHigh, h.versionLow]

@[simp] lemma length_bytes (h : BlockHeader) : h.bytes.length = hdrLen := by
  simp [bytes, hdrLen]

/-- A block of version 1.0 with the body its header announces. -/
structure Whole (b : BlockHeader × Bytes) : Prop where
  version : (b.1.versionHigh, b.1.versionLow) = (1, 0)
  body : b.2.length = b.1.blockLength.toNat - 2

section Whole

variable {b : BlockHeader × Bytes} {buf : Bytes}

lemma Whole.parse_eq (h : Whole b) (rest : Bytes) : parse (b.1.bytes ++ b.2 ++ rest) = .ok b := by
  obtain ⟨⟨ty, len, hi, lo⟩, body⟩ := b
  obtain ⟨hversion, hbody⟩ := h
  obtain ⟨rfl, rfl⟩ := Prod.mk.inj hversion
  dsimp only at hbody
  have hbuf : (bytes ⟨ty, len, 1, 0⟩ ++ body ++ rest).length =
      6 + body.length + rest.length := by
    simp [hdrLen]
    omega
  have h0 : (slice (bytes ⟨ty, len, 1, 0⟩ ++ body ++ rest) 0 2 : Res BlockError _) =
      .ok (be16 ty) := by
    simp (disch := simp) [bytes, slice_append_left]
  have h2 : (slice (bytes ⟨ty, len, 1, 0⟩ ++ body ++ rest) 2 4 : Res BlockError _) =
      .ok (be16 len) := by
    simp (disch := simp) [bytes, slice_append_left, slice_append_right]
  have h4 : (idx (bytes ⟨ty, len, 1, 0⟩ ++ body ++ rest) 4 : Res BlockError _) =
      .ok 1 := by
    simp (disch := simp) [bytes, idx_append_right]
  have h5 : (idx (bytes ⟨ty, len, 1, 0⟩ ++ body ++ rest) 5 : Res BlockError _) =
      .ok 0 := by
    simp (disch := simp) [bytes, idx_append_right]
  have h6 : (slice (bytes ⟨ty, len, 1, 0⟩ ++ body ++ rest) 6 (6 + body.length) :
      Res BlockError _) = .ok body := by
    rw [List.append_assoc]
    exact slice_append_mid (by simp [hdrLen]) rfl
  unfold parse
  rw [hbuf, Res.reject_of_not (by simp [hdrLen]; omega), h0, h2, h4, h5]
  simp only [Res.ok_bind, ofBe_be16, hdrLen, ← hbody, h6]
  rw [Res.reject_of_not (by simp), Res.reject_of_not (by omega)]
  rfl

/-- What is read as a block is a block, with anything behind it. -/
lemma parse_eq_ok :
    parse buf = .ok b ↔ Whole b ∧ ∃ rest, buf = b.1.bytes ++ b.2 ++ rest := by
  constructor
  · intro h
    unfold parse at h
    obtain ⟨_, hlen, h⟩ := Res.bind_eq_ok.1 h
    obtain ⟨ty, hty, h⟩ := Res.bind_eq_ok.1 h
    obtain ⟨len, hln, h⟩ := Res.bind_eq_ok.1 h
    obtain ⟨hi, hhi, h⟩ := Res.bind_eq_ok.1 h
    obtain ⟨lo, hlo, h⟩ := Res.bind_eq_ok.1 h
    obtain ⟨_, hversion, h⟩ := Res.bind_eq_ok.1 h
    obtain ⟨_, havail, h⟩ := Res.bind_eq_ok.1 h
    obtain ⟨body, hbody, h⟩ := Res.bind_eq_ok.1 h
    cases h
    have htl := be16_ofBe (length_of_slice hty)
    have hll := be16_ofBe (length_of_slice hln)
    have hbl := length_of_slice hbody
    rw [Res.reject_eq_ok] at hlen hversion
    obtain ⟨-, rfl⟩ := slice_eq_ok.1 hty
    obtain ⟨-, rfl⟩ := slice_eq_ok.1 hln
    obtain ⟨-, rfl⟩ := slice_eq_ok.1 hbody
    rw [idx_eq_ok] at hhi hlo
    refine ⟨⟨not_not.1 hversion, by rw [hbl, Nat.add_sub_cancel_left]⟩,
      buf.drop (hdrLen + ((UInt16.ofNat (ofBe ((buf.drop 2).take (4 - 2)))).toNat - 2)), ?_⟩
    have htwo : [hi, lo] = (buf.drop 4).take 2 := by
      refine List.ext_getElem? fun i => ?_
      rcases i with _ | _ | i
      · simp [hhi]
      · simp [hlo]
      · simp
    -- The buffer is put together again from its parts.
    have hjoin : ∀ k n, (buf.drop k).take n ++ buf.drop (k + n) = buf.drop k := by
      intro k n
      rw [← List.drop_drop, List.take_append_drop]
    simp only [bytes, htl, hll, htwo, hdrLen, List.append_assoc, Nat.add_sub_cancel_left]
    rw [hjoin, hjoin, hjoin, hjoin, List.drop_zero]
  · rintro ⟨hb, rest, rfl⟩
    exact hb.parse_eq rest

/-- A block is read back from the front of any buffer. -/
lemma parse_write {ε : Type} {ty n : UInt16} {w body : Bytes} (hw : (write ty n : Res ε _) = .ok w)
    (hn : body.length = n.toNat) (rest : Bytes) :
    parse (w ++ body ++ rest) = .ok (⟨ty, n + 2, 1, 0⟩, body) := by
  unfold write at hw
  split_ifs at hw with hlt
  cases hw
  have hlen : n.toNat = (n + 2).toNat - 2 := by
    rw [UInt16.toNat_add]; simp; omega
  have hwhole : Whole (⟨ty, n + 2, 1, 0⟩, body) := ⟨rfl, hn.trans hlen⟩
  rw [← hwhole.parse_eq rest]
  rfl

end Whole

/-- The loop of `read_all` on the bytes from `pos` on, with a bound on its rounds. -/
def readAllFrom : Nat → Bytes → Res BlockError (List (BlockHeader × Bytes))
  | 0, buf => if buf.length = 0 then .ok [] else .panic .nonterm
  | fuel + 1, buf =>
    if buf.length = 0 then .ok []
    else do
      let (header, body) ← parse buf
      let rest ← readAllFrom fuel (buf.drop (hdrLen + body.length))
      .ok ((header, body) :: rest)

def readAll (buf : Bytes) : Res BlockError (List (BlockHeader × Bytes)) :=
  readAllFrom buf.length buf

/-- The blocks as they follow each other. -/
def wire (bs : List (BlockHeader × Bytes)) : Bytes := bs.flatMap fun b => b.1.bytes ++ b.2

lemma wire_cons (b : BlockHeader × Bytes) (bs : List (BlockHeader × Bytes)) :
    wire (b :: bs) = b.1.bytes ++ b.2 ++ wire bs := List.flatMap_cons

lemma length_wire (bs : List (BlockHeader × Bytes)) : 6 * bs.length ≤ (wire bs).length := by
  induction bs with
  | nil => exact Nat.zero_le _
  | cons b bs ih =>
    rw [wire_cons, List.length_append, List.length_append, length_bytes, List.length_cons, hdrLen]
    omega

/-- The loop reads the blocks one after the other. -/
lemma readAllFrom_wire {bs : List (BlockHeader × Bytes)} (h : ∀ b ∈ bs, Whole b) {fuel : Nat}
    (hf : bs.length ≤ fuel) : readAllFrom fuel (wire bs) = .ok bs := by
  induction bs generalizing fuel with
  | nil => cases fuel <;> rfl
  | cons b bs ih =>
    rw [List.forall_mem_cons] at h
    obtain ⟨fuel, rfl⟩ : ∃ k, fuel = k + 1 := ⟨fuel - 1, by rw [List.length_cons] at hf; omega⟩
    have hlen : (b.1.bytes ++ b.2).length = hdrLen + b.2.length := by
      rw [List.length_append, length_bytes]
    have hne : (wire (b :: bs)).length ≠ 0 := by
      rw [wire_cons, List.length_append, hlen, hdrLen]
      omega
    rw [readAllFrom, if_neg hne, wire_cons, h.1.parse_eq, Res.ok_bind]
    dsimp only
    rw [← hlen, List.drop_left, ih h.2 (Nat.le_of_succ_le_succ hf), Res.ok_bind]

/-- **What `read_all` accepts is a sequence of whole blocks**, and it returns them. -/
lemma readAll_eq_ok {buf : Bytes} {bs : List (BlockHeader × Bytes)} :
    readAll buf = .ok bs ↔ (∀ b ∈ bs, Whole b) ∧ buf = wire bs := by
  constructor
  · have hfrom : ∀ fuel (buf : Bytes) bs, readAllFrom fuel buf = .ok bs →
        (∀ b ∈ bs, Whole b) ∧ buf = wire bs := by
      intro fuel
      induction fuel with
      | zero =>
        intro buf bs h
        rw [readAllFrom] at h
        split_ifs at h with hnil
        cases h
        exact ⟨List.forall_mem_nil _, List.length_eq_zero_iff.1 hnil⟩
      | succ fuel ih =>
        intro buf bs h
        rw [readAllFrom] at h
        split_ifs at h with hnil
        · cases h
          exact ⟨List.forall_mem_nil _, List.length_eq_zero_iff.1 hnil⟩
        · obtain ⟨b, hb, h⟩ := Res.bind_eq_ok.1 h
          obtain ⟨rest, hrest, h⟩ := Res.bind_eq_ok.1 h
          cases h
          obtain ⟨hwhole, t, rfl⟩ := parse_eq_ok.1 hb
          have hlen : (b.1.bytes ++ b.2).length = hdrLen + b.2.length := by
            rw [List.length_append, length_bytes]
          rw [← hlen, List.drop_left] at hrest
          obtain ⟨hall, rfl⟩ := ih t rest hrest
          exact ⟨List.forall_mem_cons.2 ⟨hwhole, hall⟩, (wire_cons b rest).symm⟩
    exact hfrom _ buf bs
  · rintro ⟨h, rfl⟩
    exact readAllFrom_wire h (by have := length_wire bs; omega)

end BlockHeader

/-- A block: its header for the body's length, which is cut to 16 bits first, then the body. -/
def writeBlock {ε : Type} (ty : UInt16) (body : Bytes) : Res ε Bytes := do
  let h ← BlockHeader.write ty (UInt16.ofNat body.length)
  .ok (h ++ body)

/-! ### Blocks in a row -/

/-- A block as it is written: its type and its body. -/
def blockBytes (b : UInt16 × Bytes) : Bytes :=
  be16 b.1 ++ be16 (UInt16.ofNat b.2.length + 2) ++ [1, 0] ++ b.2

def blockHeader (b : UInt16 × Bytes) : BlockHeader := ⟨b.1, UInt16.ofNat b.2.length + 2, 1, 0⟩

/-- The body fits the length field of the header. -/
def BlockFits (b : UInt16 × Bytes) : Prop := b.2.length + 2 < 65536

section Blocks

variable {ε : Type} {b : UInt16 × Bytes} {l : List (UInt16 × Bytes)}

lemma BlockFits.toNat (h : BlockFits b) : (UInt16.ofNat b.2.length).toNat = b.2.length := by
  rw [UInt16.toNat_ofNat', Nat.mod_eq_of_lt (Nat.lt_of_succ_lt (Nat.lt_of_succ_lt h))]

lemma BlockFits.header_eq (h : BlockFits b) :
    (BlockHeader.write b.1 (UInt16.ofNat b.2.length) : Res ε _) =
      .ok (be16 b.1 ++ be16 (UInt16.ofNat b.2.length + 2) ++ [1, 0]) := by
  rw [BlockHeader.write, h.toNat]
  exact if_pos h

lemma writeBlock_eq (h : BlockFits b) : (writeBlock b.1 b.2 : Res ε _) = .ok (blockBytes b) := by
  rw [writeBlock, h.header_eq, Res.ok_bind]
  rfl

lemma length_blockBytes (b : UInt16 × Bytes) :
    (blockBytes b).length = BlockHeader.hdrLen + b.2.length := by
  simp [blockBytes, BlockHeader.hdrLen]
  omega

lemma readAll_blocks (hl : ∀ b ∈ l, BlockFits b) :
    BlockHeader.readAll (l.flatMap blockBytes) = .ok (l.map fun b => (blockHeader b, b.2)) := by
  refine BlockHeader.readAll_eq_ok.2 ⟨fun b' hb' => ?_, ?_⟩
  · obtain ⟨b, hb, rfl⟩ := List.mem_map.1 hb'
    have hfit := hl b hb
    refine ⟨rfl, ?_⟩
    simp only [blockHeader, UInt16.toNat_add, hfit.toNat, UInt16.toNat_ofNat]
    unfold BlockFits at hfit
    omega
  · rw [BlockHeader.wire, List.flatMap_map]
    rfl

/-- A block reads back from the front of any buffer. -/
lemma parse_blockBytes (h : BlockFits b) (rest : Bytes) :
    BlockHeader.parse (blockBytes b ++ rest) = .ok (blockHeader b, b.2) := by
  have hp := BlockHeader.parse_write (h.header_eq (ε := BlockError)) h.toNat.symm rest
  exact hp

lemma mapM_writeBlock (hl : ∀ b ∈ l, BlockFits b) :
    (l.mapM (fun b => writeBlock b.1 b.2) : Res ε _) = .ok (l.map blockBytes) :=
  Res.mapM_eq_map fun b hb => writeBlock_eq (hl b hb)

end Blocks

namespace Ty

def arBlockReq : UInt16 := 0x0101
def iocrBlockReq : UInt16 := 0x0102
def alarmCrBlockReq : UInt16 := 0x0103
def expectedSubmoduleBlockReq : UInt16 := 0x0104
def iodWriteReqHeader : UInt16 := 0x0008
def iodReadReqHeader : UInt16 := 0x0009
def iodControlReqPrmEnd : UInt16 := 0x0110
def ioxBlockReqAppReady : UInt16 := 0x0112
def releaseBlockReq : UInt16 := 0x0114
def arBlockRes : UInt16 := 0x8101
def iocrBlockRes : UInt16 := 0x8102
def alarmCrBlockRes : UInt16 := 0x8103
def arServerBlockRes : UInt16 := 0x8106
def iodWriteResHeader : UInt16 := 0x8008
def iodReadResHeader : UInt16 := 0x8009
def iodControlResPrmEnd : UInt16 := 0x8110
def ioxBlockResAppReady : UInt16 := 0x8112
def releaseBlockRes : UInt16 := 0x8114

end Ty

/-! ### The blocks of a Connect request -/

structure ArBlockReq where
  arType : UInt16
  arUuid : Uuid
  sessionKey : UInt16
  initiatorMac : MacAddr
  initiatorObjectUuid : Uuid
  arProperties : UInt32
  activityTimeoutFactor : UInt16
  initiatorUdpRtPort : UInt16
  stationName : Str
deriving DecidableEq

open BlockReader

def ArBlockReq.parse (body : Bytes) : Res BlockError ArBlockReq :=
  Reader.runOn (do
    let arType ← u16
    let arUuid ← uuid
    let sessionKey ← u16
    let initiatorMac ← mac
    let initiatorObjectUuid ← uuid
    let arProperties ← u32
    let activityTimeoutFactor ← u16
    let initiatorUdpRtPort ← u16
    let nameLen ← u16
    let nameBytes ← bytes nameLen.toNat
    let stationName ← StateT.lift (Res.okOr (Str.fromUtf8 nameBytes)
      (.malformed "station name not valid utf-8"))
    pure { arType, arUuid, sessionKey, initiatorMac, initiatorObjectUuid, arProperties,
           activityTimeoutFactor, initiatorUdpRtPort, stationName }) body

structure IocrObject where
  slot : UInt16
  subslot : UInt16
  frameOffset : UInt16
deriving DecidableEq, Repr

structure IocrApi where
  api : UInt32
  ioData : List IocrObject
  iocs : List IocrObject
deriving DecidableEq, Repr

structure IocrBlockReq where
  iocrType : UInt16
  reference : UInt16
  lt : UInt16
  properties : UInt32
  dataLength : UInt16
  frameId : UInt16
  sendClockFactor : UInt16
  reductionRatio : UInt16
  phase : UInt16
  sequence : UInt16
  frameSendOffset : UInt32
  watchdogFactor : UInt16
  dataHoldFactor : UInt16
  tagHeader : UInt16
  multicastMac : MacAddr
  apis : List IocrApi
deriving DecidableEq, Repr

def IocrObject.read : BlockReader IocrObject := do
  let slot ← u16
  let subslot ← u16
  let frameOffset ← u16
  pure { slot, subslot, frameOffset }

def IocrApi.read : BlockReader IocrApi := do
  let api ← u32
  let numberOfIoData ← u16
  let ioData ← Reader.many IocrObject.read numberOfIoData.toNat
  let numberOfIocs ← u16
  let iocs ← Reader.many IocrObject.read numberOfIocs.toNat
  pure { api, ioData, iocs }

def IocrBlockReq.parse (body : Bytes) : Res BlockError IocrBlockReq :=
  Reader.runOn (do
    let iocrType ← u16
    let reference ← u16
    let lt ← u16
    let properties ← u32
    let dataLength ← u16
    let frameId ← u16
    let sendClockFactor ← u16
    let reductionRatio ← u16
    let phase ← u16
    let sequence ← u16
    let frameSendOffset ← u32
    let watchdogFactor ← u16
    let dataHoldFactor ← u16
    let tagHeader ← u16
    let multicastMac ← mac
    let numberOfApis ← u16
    let apis ← Reader.many IocrApi.read numberOfApis.toNat
    pure { iocrType, reference, lt, properties, dataLength, frameId, sendClockFactor,
           reductionRatio, phase, sequence, frameSendOffset, watchdogFactor, dataHoldFactor,
           tagHeader, multicastMac, apis }) body

structure DataDescription where
  dataLength : UInt16
  lengthIocs : UInt8
  lengthIops : UInt8
deriving DecidableEq, Repr

structure ExpectedSubmodule where
  subslot : UInt16
  submoduleIdent : UInt32
  properties : UInt16
  input : Option DataDescription
  output : Option DataDescription
deriving DecidableEq, Repr

structure ExpectedApi where
  api : UInt32
  slot : UInt16
  moduleIdent : UInt32
  moduleProperties : UInt16
  submodules : List ExpectedSubmodule
deriving DecidableEq, Repr

structure ExpectedSubmoduleBlockReq where
  apis : List ExpectedApi
deriving DecidableEq, Repr

namespace ExpectedSubmoduleBlockReq

def dataDescriptionInput : UInt16 := 1
def dataDescriptionOutput : UInt16 := 2

def dataDescription (expectedTag : UInt16) : BlockReader DataDescription := do
  let tag ← u16
  StateT.lift (Res.reject (tag ≠ expectedTag) (.malformed "data description tag"))
  let dataLength ← u16
  let lengthIocs ← u8
  let lengthIops ← u8
  pure { dataLength, lengthIocs, lengthIops }

/-- Types 0 and 1 carry an input description, type 2 an output one, type 3 both. -/
def descriptions (properties : UInt16) :
    BlockReader (Option DataDescription × Option DataDescription) :=
  match (properties &&& 0x3).toNat with
  | 0 | 1 => do
    let input ← dataDescription dataDescriptionInput
    pure (some input, none)
  | 2 => do
    let output ← dataDescription dataDescriptionOutput
    pure (none, some output)
  | _ => do
    let input ← dataDescription dataDescriptionInput
    let output ← dataDescription dataDescriptionOutput
    pure (some input, some output)

def readSubmodule : BlockReader ExpectedSubmodule := do
  let subslot ← u16
  let submoduleIdent ← u32
  let properties ← u16
  let (input, output) ← descriptions properties
  pure { subslot, submoduleIdent, properties, input, output }

def readApi : BlockReader ExpectedApi := do
  let api ← u32
  let slot ← u16
  let moduleIdent ← u32
  let moduleProperties ← u16
  let numberOfSubmodules ← u16
  let submodules ← Reader.many readSubmodule numberOfSubmodules.toNat
  pure { api, slot, moduleIdent, moduleProperties, submodules }

def parse (body : Bytes) : Res BlockError ExpectedSubmoduleBlockReq :=
  Reader.runOn (do
    let numberOfApis ← u16
    let apis ← Reader.many readApi numberOfApis.toNat
    pure { apis }) body

end ExpectedSubmoduleBlockReq

structure AlarmCrBlockReq where
  alarmCrType : UInt16
  lt : UInt16
  properties : UInt32
  rtaTimeoutFactor : UInt16
  rtaRetries : UInt16
  localAlarmReference : UInt16
  maxAlarmDataLength : UInt16
  tagHeaderHigh : UInt16
  tagHeaderLow : UInt16
deriving DecidableEq, Repr

def AlarmCrBlockReq.parse (body : Bytes) : Res BlockError AlarmCrBlockReq :=
  Reader.runOn (do
    let alarmCrType ← u16
    let lt ← u16
    let properties ← u32
    let rtaTimeoutFactor ← u16
    let rtaRetries ← u16
    let localAlarmReference ← u16
    let maxAlarmDataLength ← u16
    let tagHeaderHigh ← u16
    let tagHeaderLow ← u16
    pure { alarmCrType, lt, properties, rtaTimeoutFactor, rtaRetries, localAlarmReference,
           maxAlarmDataLength, tagHeaderHigh, tagHeaderLow }) body

end Pnio
