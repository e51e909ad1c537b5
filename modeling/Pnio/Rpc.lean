import Pnio.Lib.Bytes

/-!
The connectionless DCE-RPC header: byte order, UUIDs and the 80-byte header itself.
-/

namespace Pnio

abbrev Uuid := Octets 16

/-- The parts of `RpcError` a parser returns. -/
inductive RpcError where
  | tooShort (need have_ : Nat)
  | badVersion (v : UInt8)
  | unsupportedPtype (b : UInt8)
  | fragmented (fragNum : UInt16) (flags1 : UInt8)
  | badInterface (u : Uuid)
  | ndrMismatch (why : String)
deriving DecidableEq, Repr

/-! ### Byte order -/

structure Drep where
  littleEndian : Bool
deriving DecidableEq, Repr

namespace Drep

variable {ε : Type}

def big : Drep := ⟨false⟩

def little : Drep := ⟨true⟩

def fromByte (b : UInt8) : Drep := ⟨b &&& 0x10 != 0⟩

def toBytes (d : Drep) : Bytes := [if d.littleEndian then 0x10 else 0x00, 0, 0]

/-- The number a byte string spells in this byte order. -/
def value (d : Drep) (b : Bytes) : Nat := if d.littleEndian then ofLe b else ofBe b

def u16 (d : Drep) (b : Bytes) : Res ε UInt16 := do
  let a ← slice b 0 2
  .ok (UInt16.ofNat (d.value a))

def u32 (d : Drep) (b : Bytes) : Res ε UInt32 := do
  let a ← slice b 0 4
  .ok (UInt32.ofNat (d.value a))

def putU16 (d : Drep) (v : UInt16) : Bytes :=
  if d.littleEndian then toLe 2 v.toNat else toBe 2 v.toNat

def putU32 (d : Drep) (v : UInt32) : Bytes :=
  if d.littleEndian then toLe 4 v.toNat else toBe 4 v.toNat

@[simp] lemma length_putU16 (d : Drep) (v : UInt16) : (d.putU16 v).length = 2 := by
  unfold putU16; split <;> simp

@[simp] lemma length_putU32 (d : Drep) (v : UInt32) : (d.putU32 v).length = 4 := by
  unfold putU32; split <;> simp

@[simp] lemma u16_putU16 (d : Drep) (v : UInt16) : (d.u16 (d.putU16 v) : Res ε _) = .ok v := by
  have hv := v.toNat_lt
  rw [u16, slice_full (by simp), Res.ok_bind, Res.ok.injEq]
  apply UInt16.toNat_inj.1
  unfold value putU16
  split <;> simp [ofLe_toLe, ofBe_toBe]

@[simp] lemma u32_putU32 (d : Drep) (v : UInt32) : (d.u32 (d.putU32 v) : Res ε _) = .ok v := by
  have hv := v.toNat_lt
  rw [u32, slice_full (by simp), Res.ok_bind, Res.ok.injEq]
  apply UInt32.toNat_inj.1
  unfold value putU32
  split <;> simp [ofLe_toLe, ofBe_toBe]

@[simp] lemma length_toBytes (d : Drep) : d.toBytes.length = 3 := rfl

lemma fromByte_toBytes (d : Drep) : fromByte (if d.littleEndian then 0x10 else 0x00) = d := by
  rcases d with ⟨_ | _⟩ <;> decide

end Drep

/-! ### UUIDs -/

namespace Uuid

variable {ε : Type}

def nil : Uuid := Octets.zero 16

def read (buf : Bytes) (drep : Drep) : Res ε (Option Uuid) :=
  if buf.length < 16 then .ok none
  else do
    let timeLow ← drep.u32 (← slice buf 0 4)
    let timeMid ← drep.u16 (← slice buf 4 6)
    let timeHi ← drep.u16 (← slice buf 6 8)
    let rest ← slice buf 8 16
    let b ← Octets.copyFrom 16 (be32 timeLow ++ be16 timeMid ++ be16 timeHi ++ rest)
    .ok (some b)

def write (u : Uuid) (drep : Drep) : Bytes :=
  drep.putU32 (UInt32.ofNat (ofBe (u.bytes.take 4))) ++
  drep.putU16 (UInt16.ofNat (ofBe ((u.bytes.drop 4).take 2))) ++
  drep.putU16 (UInt16.ofNat (ofBe ((u.bytes.drop 6).take 2))) ++ u.bytes.drop 8

@[simp] lemma length_write (u : Uuid) (drep : Drep) : (write u drep).length = 16 := by
  simp [write]

/-- The fields of a UUID, each in network order, are its bytes. -/
lemma be_fields (u : Uuid) :
    be32 (UInt32.ofNat (ofBe (u.bytes.take 4))) ++
      (be16 (UInt16.ofNat (ofBe ((u.bytes.drop 4).take 2))) ++
        (be16 (UInt16.ofNat (ofBe ((u.bytes.drop 6).take 2))) ++ u.bytes.drop 8)) = u.bytes := by
  have h1 := List.take_append_drop 4 u.bytes
  have h2 := List.take_append_drop 2 (u.bytes.drop 4)
  have h3 := List.take_append_drop 2 (u.bytes.drop 6)
  rw [List.drop_drop] at h2 h3
  rw [be32_ofBe (by simp), be16_ofBe (by simp), be16_ofBe (by simp), h3, h2, h1]

lemma write_big (u : Uuid) : u.write .big = u.bytes := by
  have h := be_fields u
  simp only [← List.append_assoc] at h
  exact h

/-- Reading back what was written, in either byte order. -/
@[simp] lemma read_write (u : Uuid) (drep : Drep) :
    (read (write u drep) drep : Res ε _) = .ok (some u) := by
  unfold read
  rw [if_neg (by simp)]
  simp (disch := simp) [write, slice_append_left, slice_append_right, slice_full, be_fields]

end Uuid

def pnioDeviceInterface : Uuid :=
  ⟨[0xde, 0xa0, 0x00, 0x01, 0x6c, 0x97, 0x11, 0xd1, 0x82, 0x71, 0x00, 0xa0, 0x24, 0x42, 0xdf, 0x7d],
    rfl⟩

def pnioControllerInterface : Uuid :=
  ⟨[0xde, 0xa0, 0x00, 0x02, 0x6c, 0x97, 0x11, 0xd1, 0x82, 0x71, 0x00, 0xa0, 0x24, 0x42, 0xdf, 0x7d],
    rfl⟩

/-! ### The header -/

inductive PacketType where
  | request
  | ping
  | response
  | fault
  | working
  | nocall
  | reject
  | ack
  | clCancel
  | fack
  | cancelAck
deriving DecidableEq, Repr

namespace PacketType

def fromU8 (b : UInt8) : Res RpcError PacketType :=
  match b.toNat with
  | 0 => .ok request
  | 1 => .ok ping
  | 2 => .ok response
  | 3 => .ok fault
  | 4 => .ok working
  | 5 => .ok nocall
  | 6 => .ok reject
  | 7 => .ok ack
  | 8 => .ok clCancel
  | 9 => .ok fack
  | 10 => .ok cancelAck
  | _ => .err (.unsupportedPtype b)

def toU8 : PacketType → UInt8
  | request => 0
  | ping => 1
  | response => 2
  | fault => 3
  | working => 4
  | nocall => 5
  | reject => 6
  | ack => 7
  | clCancel => 8
  | fack => 9
  | cancelAck => 10

@[simp] lemma fromU8_toU8 (t : PacketType) : fromU8 t.toU8 = .ok t := by
  cases t <;> rfl

end PacketType

inductive Opnum where
  | connect
  | release
  | read
  | write
  | control
  | readImplicit
deriving DecidableEq, Repr

namespace Opnum

def fromU16 (v : UInt16) : Option Opnum :=
  match v.toNat with
  | 0 => some connect
  | 1 => some release
  | 2 => some read
  | 3 => some write
  | 4 => some control
  | 5 => some readImplicit
  | _ => none

def toU16 : Opnum → UInt16
  | connect => 0
  | release => 1
  | read => 2
  | write => 3
  | control => 4
  | readImplicit => 5

@[simp] lemma fromU16_toU16 (o : Opnum) : fromU16 o.toU16 = some o := by
  cases o <;> rfl

end Opnum

def flag1LastFrag : UInt8 := 0x02
def flag1Frag : UInt8 := 0x04
def flag1NoFack : UInt8 := 0x08
def flag1Idempotent : UInt8 := 0x20

structure RpcHeader where
  ptype : PacketType
  flags1 : UInt8
  flags2 : UInt8
  drep : Drep
  serialHi : UInt8
  object : Uuid
  interface : Uuid
  activity : Uuid
  serverBoot : UInt32
  ifVersion : UInt32
  seqNum : UInt32
  opnum : UInt16
  ihint : UInt16
  ahint : UInt16
  fragLen : UInt16
  fragNum : UInt16
  authProto : UInt8
  serialLo : UInt8
deriving DecidableEq, Repr

namespace RpcHeader

def version : UInt8 := 4

def hdrLen : Nat := 80

def parse (buf : Bytes) : Res RpcError RpcHeader := do
  Res.reject (buf.length < hdrLen) (.tooShort hdrLen buf.length)
  let v ← idx buf 0
  Res.reject (v ≠ version) (.badVersion v)
  let ptype ← PacketType.fromU8 (← idx buf 1)
  let flags1 ← idx buf 2
  let flags2 ← idx buf 3
  let drep := Drep.fromByte (← idx buf 4)
  let serialHi ← idx buf 7
  let object ← Res.unwrap (← Uuid.read (← slice buf 8 24) drep)
  let interface ← Res.unwrap (← Uuid.read (← slice buf 24 40) drep)
  let activity ← Res.unwrap (← Uuid.read (← slice buf 40 56) drep)
  let serverBoot ← drep.u32 (← slice buf 56 60)
  let ifVersion ← drep.u32 (← slice buf 60 64)
  let seqNum ← drep.u32 (← slice buf 64 68)
  let opnum ← drep.u16 (← slice buf 68 70)
  let ihint ← drep.u16 (← slice buf 70 72)
  let ahint ← drep.u16 (← slice buf 72 74)
  let fragLen ← drep.u16 (← slice buf 74 76)
  let fragNum ← drep.u16 (← slice buf 76 78)
  let authProto ← idx buf 78
  let serialLo ← idx buf 79
  Res.reject (fragNum ≠ 0 ∨ flags1 &&& flag1Frag ≠ 0) (.fragmented fragNum flags1)
  .ok { ptype, flags1, flags2, drep, serialHi, object, interface, activity, serverBoot,
        ifVersion, seqNum, opnum, ihint, ahint, fragLen, fragNum, authProto, serialLo }

def write (h : RpcHeader) : Bytes :=
  [version, h.ptype.toU8, h.flags1, h.flags2] ++ h.drep.toBytes ++ [h.serialHi] ++
  h.object.write h.drep ++ h.interface.write h.drep ++ h.activity.write h.drep ++
  h.drep.putU32 h.serverBoot ++ h.drep.putU32 h.ifVersion ++ h.drep.putU32 h.seqNum ++
  h.drep.putU16 h.opnum ++ h.drep.putU16 h.ihint ++ h.drep.putU16 h.ahint ++
  h.drep.putU16 h.fragLen ++ h.drep.putU16 h.fragNum ++ [h.authProto, h.serialLo]

@[simp] lemma length_write (h : RpcHeader) : h.write.length = 80 := by
  unfold write
  simp

/-- **Header round trip**: an unfragmented header is read back from the front of any PDU. -/
theorem parse_write (h : RpcHeader) (rest : Bytes) (hn : h.fragNum = 0)
    (hf : h.flags1 &&& flag1Frag = 0) : parse (h.write ++ rest) = .ok h := by
  have hd := h.drep.fromByte_toBytes
  have hl : ¬ (h.write ++ rest).length < hdrLen := by simp [hdrLen]
  unfold parse
  rw [Res.reject_of_not hl, Res.ok_bind]
  simp (disch := simp) only [write, Drep.toBytes, List.cons_append, List.nil_append,
    List.append_assoc, idx_cons_zero, idx_cons_succ, slice_cons_succ, slice_append_left,
    slice_append_right, idx_append_right, Uuid.length_write, Drep.length_putU32,
    Drep.length_putU16, Nat.sub_self, Nat.reduceSub, Res.ok_bind, ne_eq, not_true_eq_false,
    false_or, Res.reject_of_not, PacketType.fromU8_toU8, hd, Uuid.read_write, Res.unwrap_some,
    Drep.u32_putU32, Drep.u16_putU16, hn, hf]
  rw [← hn]

end RpcHeader

end Pnio
