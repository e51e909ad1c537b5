import Pnio.Connect

/-!
The other services of an AR: control blocks, parameter writes and the I&M records behind
Read and Write.
-/

namespace Pnio

open BlockReader

/-! ### Control blocks -/

namespace ControlCmd

def prmEnd : UInt16 := 0x0001
def applicationReady : UInt16 := 0x0002
def release : UInt16 := 0x0004
def done : UInt16 := 0x0008

end ControlCmd

structure ControlBlock where
  blockType : UInt16
  arUuid : Uuid
  sessionKey : UInt16
  command : UInt16
  properties : UInt16
deriving DecidableEq, Repr

namespace ControlBlock

def bodyLen : Nat := 26

def isControlType (t : UInt16) : Bool :=
  t ∈ [Ty.iodControlReqPrmEnd, Ty.iodControlResPrmEnd, Ty.ioxBlockReqAppReady,
    Ty.ioxBlockResAppReady, Ty.releaseBlockReq, Ty.releaseBlockRes]

def parse (blocks : Bytes) : Res CmError ControlBlock := do
  let (header, body) ← Res.mapErr .block (BlockHeader.parse blocks)
  Res.reject (¬ isControlType header.blockType)
    (.block (.unexpectedType Ty.iodControlReqPrmEnd header.blockType))
  Res.reject (body.length ≠ bodyLen) (.block (.malformed "control block body length"))
  Res.mapErr .block (Reader.runOn (do
    let _reserved1 ← u16
    let arUuid ← uuid
    let sessionKey ← u16
    let _reserved2 ← u16
    let command ← u16
    let properties ← u16
    pure { blockType := header.blockType, arUuid, sessionKey, command, properties }) body)

def write {ε : Type} (c : ControlBlock) : Res ε Bytes := do
  let h ← BlockHeader.write c.blockType (UInt16.ofNat bodyLen)
  .ok (h ++ be16 0 ++ c.arUuid.write .big ++ be16 c.sessionKey ++ be16 0 ++ be16 c.command ++
    be16 c.properties)

end ControlBlock

def prmEndDone (req : ControlBlock) : ControlBlock :=
  { blockType := Ty.iodControlResPrmEnd, arUuid := req.arUuid, sessionKey := req.sessionKey,
    command := ControlCmd.done, properties := 0 }

def appReadyReq (arUuid : Uuid) (sessionKey : UInt16) : ControlBlock :=
  { blockType := Ty.ioxBlockReqAppReady, arUuid, sessionKey,
    command := ControlCmd.applicationReady, properties := 0 }

def releaseDone (req : ControlBlock) : ControlBlock :=
  { blockType := Ty.releaseBlockRes, arUuid := req.arUuid, sessionKey := req.sessionKey,
    command := ControlCmd.done, properties := 0 }

/-! ### Parameter writes -/

def indexMultipleWrite : UInt16 := 0xe040

structure Record where
  seq : UInt16
  arUuid : Uuid
  api : UInt32
  slot : UInt16
  subslot : UInt16
  index : UInt16
  data : Bytes
deriving DecidableEq, Repr

structure WriteReq where
  records : List Record
deriving DecidableEq, Repr

namespace WriteReq

def parseOne (buf : Bytes) : Res BlockError (Record × Nat) := do
  let (header, body) ← BlockHeader.parse buf
  Res.reject (header.blockType ≠ Ty.iodWriteReqHeader)
    (.unexpectedType Ty.iodWriteReqHeader header.blockType)
  let (r, recordDataLength) ← Reader.runOn (do
    let seq ← u16
    let arUuid ← uuid
    let api ← u32
    let slot ← u16
    let subslot ← u16
    let _pad ← u16
    let index ← u16
    let recordDataLength ← u32
    let _padding ← bytes 24
    pure (({ seq, arUuid, api, slot, subslot, index, data := [] } : Record),
      recordDataLength.toNat)) body
  let headerEnd := BlockHeader.hdrLen + body.length
  let dataEnd := headerEnd + recordDataLength
  Res.reject (buf.length < dataEnd) (.tooShort dataEnd buf.length)
  let data ← slice buf headerEnd dataEnd
  .ok ({ r with data }, dataEnd)

/-- The nested records of a MultipleWrite from `pos` on, each padded to four bytes. -/
def parseNested (data : Bytes) : Nat → Nat → Res BlockError (List Record)
  | 0, pos => if pos < data.length then .panic .nonterm else .ok []
  | fuel + 1, pos =>
    if pos < data.length then do
      let (r, consumed) ← parseOne (data.drop pos)
      let rest ← parseNested data fuel ((pos + consumed + 3) / 4 * 4)
      .ok (r :: rest)
    else .ok []

def parse (blocks : Bytes) : Res CmError WriteReq := do
  let (outer, _) ← Res.mapErr .block (parseOne blocks)
  if outer.index = indexMultipleWrite then do
    let nested ← Res.mapErr .block (parseNested outer.data outer.data.length 0)
    .ok ⟨outer :: nested⟩
  else .ok ⟨[outer]⟩

end WriteReq

section

variable {ε : Type}

def writeResRecord (r : Record) : Res ε Bytes := do
  let h ← BlockHeader.write Ty.iodWriteResHeader 58
  .ok (h ++ be16 r.seq ++ r.arUuid.write .big ++ be32 r.api ++ be16 r.slot ++ be16 r.subslot ++
    be16 0 ++ be16 r.index ++ be32 0 ++ be16 0 ++ be16 0 ++ be32 0 ++ List.replicate 16 0)

def buildWriteRes (req : WriteReq) : Res ε Bytes := do
  let rs ← req.records.mapM writeResRecord
  .ok rs.flatten

end

/-! ### I&M records -/

def indexIm0 : UInt16 := 0xAFF0
def indexIm1 : UInt16 := 0xAFF1
def indexIm2 : UInt16 := 0xAFF2
def indexIm3 : UInt16 := 0xAFF3
def blockTypeIm0 : UInt16 := 0x0020
def blockTypeIm1 : UInt16 := 0x0021
def blockTypeIm2 : UInt16 := 0x0022
def blockTypeIm3 : UInt16 := 0x0023
def imSupportedDap : UInt16 := 0x000E
def im1Len : Nat := 54
def im2Len : Nat := 16
def im3Len : Nat := 54

structure SwRevision where
  swPrefix : Char
  functional : UInt8
  bugFix : UInt8
  internal : UInt8
deriving DecidableEq

structure Im0 where
  orderId : Str
  serialNumber : Str
  hardwareRevision : UInt16
  softwareRevision : SwRevision
  revisionCounter : UInt16
  profileId : UInt16
  profileSpecificType : UInt16
deriving DecidableEq

/-- Left-justified in a field of `len` bytes, filled up with spaces. -/
def pushPadded (s : Str) (len : Nat) : Bytes :=
  let n := min s.bytes.length len
  s.bytes.take n ++ List.replicate (len - n) 0x20

def encodeIm0 {ε : Type} (vendorId : UInt16) (im0 : Im0) (supported : UInt16) : Res ε Bytes := do
  let h ← BlockHeader.write blockTypeIm0 54
  .ok (h ++ be16 vendorId ++ pushPadded im0.orderId 20 ++ pushPadded im0.serialNumber 16 ++
    be16 im0.hardwareRevision ++
    [UInt8.ofNat im0.softwareRevision.swPrefix.toNat, im0.softwareRevision.functional,
      im0.softwareRevision.bugFix, im0.softwareRevision.internal] ++
    be16 im0.revisionCounter ++ be16 im0.profileId ++ be16 im0.profileSpecificType ++ [1, 1] ++
    be16 supported)

inductive ImError where
  | notAscii (field : String)
  | tooLong (field : String) (max : Nat)
  | badPrefix (swPrefix : Char)
  | badRecord (index : UInt16) (why : String)
deriving DecidableEq, Repr

/-- `Im0::default`. -/
def im0Default : Im0 :=
  { orderId := ⟨[0x70, 0x6e, 0x69, 0x6f, 0x20, 0x64, 0x65, 0x76, 0x69, 0x63, 0x65], by decide⟩
    serialNumber := ⟨[], rfl⟩
    hardwareRevision := 1
    softwareRevision := { swPrefix := 'V', functional := 0, bugFix := 1, internal := 0 }
    revisionCounter := 0
    profileId := 0
    profileSpecificType := 0 }

namespace Im0

/-- The prefixes of a software revision: version, revision, prototype, under test, test device. -/
def validSwPrefixes : List Char := ['V', 'R', 'P', 'U', 'T']

/-- A text field of the identity: ASCII, and no longer than its place in the record. -/
def validateText (field : String) (max : Nat) (s : Str) : Res ImError Unit := do
  Res.reject (¬ s.isAscii) (.notAscii field)
  Res.reject (max < s.bytes.length) (.tooLong field max)

def validate (im0 : Im0) : Res ImError Unit := do
  validateText "order_id" 20 im0.orderId
  validateText "serial_number" 16 im0.serialNumber
  Res.reject (im0.softwareRevision.swPrefix ∉ validSwPrefixes)
    (.badPrefix im0.softwareRevision.swPrefix)

end Im0

/-- The operator's records, as space-padded bodies. -/
structure ImStore where
  im1 : Octets 54
  im2 : Octets 16
  im3 : Octets 54
deriving DecidableEq, Repr

namespace ImStore

def new : ImStore :=
  { im1 := ⟨List.replicate 54 0x20, by simp⟩
    im2 := ⟨List.replicate 16 0x20, by simp⟩
    im3 := ⟨List.replicate 54 0x20, by simp⟩ }

def readBlock {ε : Type} (ty : UInt16) (body : Bytes) : Res ε (Option Bytes) := do
  let b ← writeBlock ty body
  .ok (some b)

def read {ε : Type} (s : ImStore) (index : UInt16) : Res ε (Option Bytes) :=
  if index = indexIm1 then readBlock blockTypeIm1 s.im1.bytes
  else if index = indexIm2 then readBlock blockTypeIm2 s.im2.bytes
  else if index = indexIm3 then readBlock blockTypeIm3 s.im3.bytes
  else .ok none

/-- The body of a record block of the given type and fixed length. -/
def recordBody (index ty : UInt16) (len : Nat) (record : Bytes) : Res ImError (Octets len) := do
  let (header, body) ←
    Res.mapErr (fun _ => .badRecord index "malformed block header") (BlockHeader.parse record)
  Res.reject (header.blockType ≠ ty)
    (.badRecord index "block type does not match the record index")
  Res.reject (body.length ≠ len)
    (.badRecord index "body length does not match the fixed record length")
  Octets.copyFrom len body

def write (s : ImStore) (index : UInt16) (record : Bytes) : Res ImError ImStore :=
  if index = indexIm1 then do
    let body ← recordBody index blockTypeIm1 54 record
    .ok { s with im1 := body }
  else if index = indexIm2 then do
    let body ← recordBody index blockTypeIm2 16 record
    .ok { s with im2 := body }
  else if index = indexIm3 then do
    let body ← recordBody index blockTypeIm3 54 record
    .ok { s with im3 := body }
  else .err (.badRecord index "unknown I&M record index")

end ImStore

/-! ### Record reads and I&M writes -/

structure ReadReq where
  seq : UInt16
  arUuid : Uuid
  api : UInt32
  slot : UInt16
  subslot : UInt16
  index : UInt16
  recordDataLength : UInt32
  targetArUuid : Uuid
deriving DecidableEq, Repr

def ReadReq.parse (blocks : Bytes) : Res CmError ReadReq := do
  let (header, body) ← Res.mapErr .block (BlockHeader.parse blocks)
  Res.reject (header.blockType ≠ Ty.iodReadReqHeader)
    (.block (.unexpectedType Ty.iodReadReqHeader header.blockType))
  Res.mapErr .block (Reader.runOn (do
    let seq ← u16
    let arUuid ← uuid
    let api ← u32
    let slot ← u16
    let subslot ← u16
    let _pad ← u16
    let index ← u16
    let recordDataLength ← u32
    let targetArUuid ← uuid
    let _pad ← bytes 8
    pure { seq, arUuid, api, slot, subslot, index, recordDataLength, targetArUuid }) body)

section

variable {ε : Type}

def buildReadRes (req : ReadReq) (data : Bytes) : Res ε Bytes := do
  let h ← BlockHeader.write Ty.iodReadResHeader 58
  .ok (h ++ be16 req.seq ++ req.arUuid.write .big ++ be32 req.api ++ be16 req.slot ++
    be16 req.subslot ++ be16 0 ++ be16 req.index ++ be32 (UInt32.ofNat data.length) ++ be16 0 ++
    be16 0 ++ List.replicate 20 0 ++ data)

def readRecord (req : ReadReq) (model : DeviceModel) (im0 : Im0) (im : ImStore) :
    Res ε (Option Bytes) :=
  if (model.find req.slot req.subslot).isNone then .ok none
  else if req.index = indexIm0 then do
    let b ← encodeIm0 model.vendorId im0 imSupportedDap
    .ok (some b)
  else if indexIm1 ≤ req.index ∧ req.index ≤ indexIm3 then im.read req.index
  else .ok none

/-- A record that is not written leaves the store as it was. -/
def writeImRecord (r : Record) (model : DeviceModel) (im : ImStore) :
    Res ε (PnioStatus × ImStore) :=
  if (model.find r.slot r.subslot).isNone then .ok (.writeInvalidParameter, im)
  else do
    match ← Res.attempt (im.write r.index r.data) with
    | .ok im' => .ok (⟨0⟩, im')
    | .error _ => .ok (.writeInvalidParameter, im)

end

end Pnio
