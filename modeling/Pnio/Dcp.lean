import Pnio.Eth

/-!
DCP, the discovery protocol: the block codec, the header, the Identify and Set services and
the handler that answers one received frame.
-/

namespace Pnio

inductive DcpError where
  | tooShort (need have_ : Nat)
  | badServiceId (v : UInt8)
  | badServiceType (v : UInt8)
  | malformed (why : String)
deriving DecidableEq, Repr

/-! ### Blocks -/

/-- A block without its padding; `blockInfo` is the `BlockInfo` of a response or the
`BlockQualifier` of a Set request. -/
structure DcpBlock where
  option : UInt8
  suboption : UInt8
  blockInfo : Option UInt16
  value : Bytes
deriving DecidableEq, Repr

namespace DcpBlock

/-- One turn of the loop of `parseBlocks`: the block at `p` and where the next one starts. -/
def parseAt (buf : Bytes) (hasBlockInfo : Bool) (p : Nat) : Res DcpError (DcpBlock × Nat) := do
  Res.reject (buf.length < p + 4) (.tooShort (p + 4) buf.length)
  let option ← idx buf p
  let suboption ← idx buf (p + 1)
  let blockLen ← u16At buf (p + 2)
  let bodyEnd := p + 4 + blockLen.toNat
  Res.reject (buf.length < bodyEnd) (.tooShort bodyEnd buf.length)
  -- an odd block is followed by a pad byte, which the last block may lack
  let next := bodyEnd + blockLen.toNat % 2
  if hasBlockInfo then do
    Res.reject (blockLen.toNat < 2) (.malformed "block too short for BlockInfo")
    let info ← u16At buf (p + 4)
    let value ← slice buf (p + 6) bodyEnd
    .ok ({ option, suboption, blockInfo := some info, value }, next)
  else do
    let value ← slice buf (p + 4) bodyEnd
    .ok ({ option, suboption, blockInfo := none, value }, next)

/-- `block_len`: what the length field of the block says. -/
def blockLen (b : DcpBlock) : Nat :=
  (if b.blockInfo.isSome then 2 else 0) + b.value.length

/-- The bytes of the block on the wire, with its header and pad byte. -/
def encodedLen (b : DcpBlock) : Nat := 4 + b.blockLen + b.blockLen % 2

def info (b : DcpBlock) : Bytes :=
  match b.blockInfo with
  | some i => be16 i
  | none => []

def write (b : DcpBlock) : Bytes :=
  [b.option, b.suboption] ++ be16 (UInt16.ofNat b.blockLen) ++ b.info ++ b.value ++
    List.replicate (b.blockLen % 2) 0

lemma length_info (b : DcpBlock) : b.info.length = if b.blockInfo.isSome then 2 else 0 := by
  unfold info
  cases b.blockInfo with
  | none => rfl
  | some i => simp

@[simp] lemma length_write (b : DcpBlock) : b.write.length = b.encodedLen := by
  simp only [write, encodedLen, blockLen, List.length_append, List.length_cons, List.length_nil,
    List.length_replicate, length_be16, length_info]
  omega

lemma blockLen_eq (b : DcpBlock) : b.blockLen = b.info.length + b.value.length := by
  rw [blockLen, length_info]

/-- A block whose length fits its field is read back, wherever it stands. -/
lemma parseAt_write {b : DcpBlock} (h : b.blockLen < 2 ^ 16) (pre rest : Bytes) :
    parseAt (pre ++ (b.write ++ rest)) b.blockInfo.isSome pre.length =
      .ok (b, pre.length + b.encodedLen) := by
  have hlen : (pre ++ (b.write ++ rest)).length = pre.length + b.encodedLen + rest.length := by
    simp [Nat.add_assoc]
  have henc : b.encodedLen = 4 + b.blockLen + b.blockLen % 2 := rfl
  have hn : (UInt16.ofNat b.blockLen).toNat = b.blockLen := by
    rw [UInt16.toNat_ofNat', Nat.mod_eq_of_lt h]
  have hsplit : pre ++ (b.write ++ rest) =
      (pre ++ [b.option, b.suboption] ++ be16 (UInt16.ofNat b.blockLen) ++ b.info) ++
        (b.value ++ (List.replicate (b.blockLen % 2) 0 ++ rest)) := by
    simp [write]
  have hopt : (idx (pre ++ (b.write ++ rest)) pre.length : Res DcpError UInt8) = .ok b.option := by
    simp [write, idx_append_right]
  have hsub : (idx (pre ++ (b.write ++ rest)) (pre.length + 1) : Res DcpError UInt8) =
      .ok b.suboption := by
    simp [write, idx_append_right]
  have hblock : (u16At (pre ++ (b.write ++ rest)) (pre.length + 2) : Res DcpError UInt16) =
      .ok (UInt16.ofNat b.blockLen) := by
    simp (disch := simp) [write, u16At_append_right]
  have hvalue : (slice (pre ++ (b.write ++ rest)) (pre.length + 4 + b.info.length)
      (pre.length + 4 + b.blockLen) : Res DcpError Bytes) = .ok b.value := by
    rw [hsplit]
    exact slice_append_mid (by simp; omega) (by rw [blockLen_eq]; omega)
  have hnext : pre.length + 4 + b.blockLen + b.blockLen % 2 = pre.length + b.encodedLen := by
    omega
  unfold parseAt
  rw [Res.reject_of_not (by omega), hopt, hsub, hblock]
  simp only [Res.ok_bind, hn]
  rw [Res.reject_of_not (by omega), Res.ok_bind, hnext]
  have hlenb := blockLen_eq b
  obtain ⟨option, suboption, blockInfo, value⟩ := b
  cases blockInfo with
  | none =>
    simp only [info, List.length_nil, Nat.add_zero] at hvalue
    simp only [Option.isSome_none, Bool.false_eq_true, if_false, hvalue, Res.ok_bind]
  | some i =>
    have hinfo : (u16At (pre ++ (write ⟨option, suboption, some i, value⟩ ++ rest))
        (pre.length + 4) : Res DcpError UInt16) = .ok i := by
      simp (disch := simp) [write, info, u16At_append_right]
    simp only [info, length_be16] at hvalue hlenb
    simp only [Option.isSome_some, if_true]
    rw [Res.reject_of_not (by omega), Res.ok_bind, hinfo, Res.ok_bind, hvalue, Res.ok_bind]

/-- The block without its pad byte. -/
def content (b : DcpBlock) : Bytes :=
  [b.option, b.suboption] ++ be16 (UInt16.ofNat b.blockLen) ++ b.info ++ b.value

@[simp] lemma length_content (b : DcpBlock) : b.content.length = 4 + b.blockLen := by
  simp [content, blockLen_eq]
  omega

/-- What is read as a block stands there, but for its pad byte. -/
lemma parseAt_eq_ok {buf : Bytes} {hasBlockInfo : Bool} {p next : Nat} {b : DcpBlock}
    (h : parseAt buf hasBlockInfo p = .ok (b, next)) :
    (b.blockInfo.isSome = hasBlockInfo ∧ b.blockLen < 2 ^ 16) ∧ next = p + b.encodedLen ∧
      p + 4 + b.blockLen ≤ buf.length ∧
      buf.take p ++ b.content = buf.take (p + 4 + b.blockLen) := by
  unfold parseAt at h
  obtain ⟨_, -, h⟩ := Res.bind_eq_ok.1 h
  obtain ⟨option, hopt, h⟩ := Res.bind_eq_ok.1 h
  obtain ⟨suboption, hsub, h⟩ := Res.bind_eq_ok.1 h
  obtain ⟨n, hn, h⟩ := Res.bind_eq_ok.1 h
  obtain ⟨_, hend, h⟩ := Res.bind_eq_ok.1 h
  rw [Res.reject_eq_ok, not_lt] at hend
  have hlt := n.toNat_lt
  -- The header, and then the rest of the block by its shape.
  have hhead : buf.take p ++ ([option, suboption] ++ be16 n) = buf.take (p + 4) := by
    rw [← take_append_u16At hn, ← take_append_idx hsub, ← take_append_idx hopt]
    simp only [List.append_assoc, List.cons_append, List.nil_append]
  cases hasBlockInfo with
  | true =>
    rw [if_pos rfl] at h
    obtain ⟨_, h2, h⟩ := Res.bind_eq_ok.1 h
    obtain ⟨i, hi, h⟩ := Res.bind_eq_ok.1 h
    obtain ⟨value, hv, h⟩ := Res.bind_eq_ok.1 h
    rw [Res.reject_eq_ok, not_lt] at h2
    cases h
    have hlen := length_of_slice hv
    have hb : blockLen ⟨option, suboption, some i, value⟩ = n.toNat := by
      simp only [blockLen, Option.isSome_some, if_true]
      omega
    refine ⟨⟨rfl, by rw [hb]; exact hlt⟩, by rw [encodedLen, hb]; omega, by rw [hb]; exact hend, ?_⟩
    rw [hb, content, hb, info, UInt16.ofNat_toNat, ← List.append_assoc, ← List.append_assoc, hhead,
      take_append_u16At hi, take_append_slice hv]
  | false =>
    rw [if_neg Bool.false_ne_true] at h
    obtain ⟨value, hv, h⟩ := Res.bind_eq_ok.1 h
    cases h
    have hlen := length_of_slice hv
    have hb : blockLen ⟨option, suboption, none, value⟩ = n.toNat := by
      simp only [blockLen, Option.isSome_none, Bool.false_eq_true, if_false]
      omega
    refine ⟨⟨rfl, by rw [hb]; exact hlt⟩, by rw [encodedLen, hb]; omega, by rw [hb]; exact hend, ?_⟩
    rw [hb, content, hb, info, UInt16.ofNat_toNat, List.append_nil, ← List.append_assoc, hhead,
      take_append_slice hv]

end DcpBlock

/-- `nonterm` is not reached: every turn moves `p` by four bytes or more. -/
def parseBlocksFrom (buf : Bytes) (hasBlockInfo : Bool) :
    Nat → Nat → Res DcpError (List DcpBlock)
  | 0, p => if p < buf.length then .panic .nonterm else .ok []
  | fuel + 1, p =>
    if p < buf.length then do
      let (b, next) ← DcpBlock.parseAt buf hasBlockInfo p
      let rest ← parseBlocksFrom buf hasBlockInfo fuel next
      .ok (b :: rest)
    else .ok []

def parseBlocks (buf : Bytes) (hasBlockInfo : Bool) : Res DcpError (List DcpBlock) :=
  parseBlocksFrom buf hasBlockInfo buf.length 0

def writeBlocks (blocks : List DcpBlock) : Bytes := blocks.flatMap DcpBlock.write

/-- The bytes `writeBlocks` puts on the wire. -/
def totalLen (blocks : List DcpBlock) : Nat := (blocks.map DcpBlock.encodedLen).sum

lemma blockLen_le_totalLen {b : DcpBlock} {blocks : List DcpBlock} (h : b ∈ blocks) :
    b.blockLen ≤ totalLen blocks := by
  have hle : b.encodedLen ≤ totalLen blocks := List.le_sum_of_mem (List.mem_map_of_mem h)
  have henc : b.encodedLen = 4 + b.blockLen + b.blockLen % 2 := rfl
  omega

/-- The total as the length field holds it: the source casts it to `u16`. -/
def blocksEncodedLen (blocks : List DcpBlock) : UInt16 := UInt16.ofNat (totalLen blocks)

@[simp] lemma length_writeBlocks (blocks : List DcpBlock) :
    (writeBlocks blocks).length = totalLen blocks := by
  simp [writeBlocks, totalLen, List.length_flatMap]

/-- Blocks that all have a `BlockInfo`, or all have none, and fit their length fields. -/
def Writable (hasBlockInfo : Bool) (blocks : List DcpBlock) : Prop :=
  ∀ b ∈ blocks, b.blockInfo.isSome = hasBlockInfo ∧ b.blockLen < 2 ^ 16

lemma parseBlocksFrom_write {hasBlockInfo : Bool} {blocks : List DcpBlock}
    (h : Writable hasBlockInfo blocks) (pre : Bytes) {fuel : Nat} (hf : blocks.length ≤ fuel) :
    parseBlocksFrom (pre ++ writeBlocks blocks) hasBlockInfo fuel pre.length = .ok blocks := by
  induction blocks generalizing pre fuel with
  | nil => cases fuel <;> simp [parseBlocksFrom, writeBlocks]
  | cons b bs ih =>
    obtain ⟨fuel, rfl⟩ : ∃ f, fuel = f + 1 := ⟨fuel - 1, by simp at hf; omega⟩
    obtain ⟨hb, hbs⟩ := h b (by simp)
    have hin : pre.length < (pre ++ writeBlocks (b :: bs)).length := by
      simp [totalLen, DcpBlock.encodedLen]
    have hcons : writeBlocks (b :: bs) = b.write ++ writeBlocks bs := rfl
    have hrest := ih (fun x hx => h x (by simp [hx])) (pre ++ b.write) (Nat.le_of_succ_le_succ hf)
    rw [List.length_append, DcpBlock.length_write, List.append_assoc] at hrest
    rw [parseBlocksFrom, if_pos hin, hcons, ← hb, DcpBlock.parseAt_write hbs, Res.ok_bind]
    dsimp only
    rw [hb, hrest, Res.ok_bind]

/-- The codec round trip. -/
lemma parseBlocks_writeBlocks {hasBlockInfo : Bool} {blocks : List DcpBlock}
    (h : Writable hasBlockInfo blocks) :
    parseBlocks (writeBlocks blocks) hasBlockInfo = .ok blocks := by
  refine parseBlocksFrom_write h [] ?_
  have h4 : ∀ b ∈ blocks.map DcpBlock.encodedLen, 1 ≤ b := by
    simp [DcpBlock.encodedLen]
    omega
  have := List.card_nsmul_le_sum _ 1 h4
  simpa [totalLen] using this

/-- The blocks one after the other make up the bytes, but for the pad byte behind an odd one, which
can be anything, and which can be missing at the end. -/
inductive Padded : List DcpBlock → Bytes → Prop where
  | nil : Padded [] []
  | cons {b : DcpBlock} {bs : List DcpBlock} {pad rest : Bytes}
      (hpad : pad.length = b.blockLen % 2) (h : Padded bs rest) :
      Padded (b :: bs) (b.content ++ (pad ++ rest))
  | bare {b : DcpBlock} (hodd : b.blockLen % 2 = 1) : Padded [b] b.content

lemma Padded.eq_nil {bs : List DcpBlock} (h : Padded bs []) : bs = [] := by
  generalize hb : ([] : Bytes) = bytes at h
  cases h with
  | nil => rfl
  | cons hpad h =>
    have := congrArg List.length hb
    simp at this
    omega
  | bare hodd =>
    have := congrArg List.length hb
    simp at this
    omega

/-- What is parsed accounts for all of the bytes. -/
lemma parseBlocksFrom_padded {buf : Bytes} {hasBlockInfo : Bool} {fuel p : Nat}
    {blocks : List DcpBlock} (h : parseBlocksFrom buf hasBlockInfo fuel p = .ok blocks) :
    Writable hasBlockInfo blocks ∧ Padded blocks (buf.drop p) := by
  induction fuel generalizing p blocks with
  | zero =>
    rw [parseBlocksFrom] at h
    split_ifs at h with hp
    cases h
    rw [List.drop_eq_nil_of_le (not_lt.1 hp)]
    exact ⟨List.forall_mem_nil _, .nil⟩
  | succ fuel ih =>
    rw [parseBlocksFrom] at h
    split_ifs at h with hp
    · obtain ⟨⟨b, next⟩, hb, h⟩ := Res.bind_eq_ok.1 h
      obtain ⟨rest, hrest, h⟩ := Res.bind_eq_ok.1 h
      cases h
      obtain ⟨hw, rfl, hle, htake⟩ := DcpBlock.parseAt_eq_ok hb
      obtain ⟨hws, hpad⟩ := ih hrest
      refine ⟨List.forall_mem_cons.2 ⟨hw, hws⟩, ?_⟩
      have hdrop : buf.drop p = b.content ++ buf.drop (p + 4 + b.blockLen) := by
        have hsplit := List.take_append_drop (p + 4 + b.blockLen) buf
        rw [← htake, List.append_assoc] at hsplit
        have hlen : (buf.take p).length = p := by
          rw [List.length_take]
          omega
        calc buf.drop p =
            (buf.take p ++ (b.content ++ buf.drop (p + 4 + b.blockLen))).drop p := by rw [hsplit]
          _ = b.content ++ buf.drop (p + 4 + b.blockLen) := List.drop_left' hlen
      have hnext : p + b.encodedLen = p + 4 + b.blockLen + b.blockLen % 2 := by
        rw [DcpBlock.encodedLen]
        omega
      rw [hnext] at hpad
      rw [hdrop]
      by_cases hin : p + 4 + b.blockLen + b.blockLen % 2 ≤ buf.length
      · have htail := List.take_append_drop (b.blockLen % 2) (buf.drop (p + 4 + b.blockLen))
        rw [List.drop_drop] at htail
        rw [← htail]
        refine .cons ?_ hpad
        rw [List.length_take, List.length_drop]
        omega
      · rw [List.drop_eq_nil_of_le (by omega)] at hpad
        obtain rfl := hpad.eq_nil
        rw [List.drop_eq_nil_of_le (by omega), List.append_nil]
        exact .bare (by omega)
    · cases h
      rw [List.drop_eq_nil_of_le (not_lt.1 hp)]
      exact ⟨List.forall_mem_nil _, .nil⟩

lemma parseBlocks_padded {buf : Bytes} {hasBlockInfo : Bool} {blocks : List DcpBlock}
    (h : parseBlocks buf hasBlockInfo = .ok blocks) :
    Writable hasBlockInfo blocks ∧ Padded blocks buf :=
  parseBlocksFrom_padded h

/-! ### Frame IDs and the header -/

inductive FrameId where
  | identifyRequest
  | identifyResponse
  | getSet
  | hello
deriving DecidableEq, Repr

namespace FrameId

def fromU16 (v : UInt16) : Option FrameId :=
  match v with
  | 0xfefe => some identifyRequest
  | 0xfeff => some identifyResponse
  | 0xfefd => some getSet
  | 0xfefc => some hello
  | _ => none

def toU16 : FrameId → UInt16
  | identifyRequest => 0xfefe
  | identifyResponse => 0xfeff
  | getSet => 0xfefd
  | hello => 0xfefc

@[simp] lemma fromU16_toU16 (f : FrameId) : fromU16 f.toU16 = some f := by
  cases f <;> rfl

end FrameId

inductive ServiceId where
  | get
  | set
  | identify
  | hello
deriving DecidableEq, Repr

namespace ServiceId

def fromU8 (v : UInt8) : Res DcpError ServiceId :=
  match v with
  | 3 => .ok get
  | 4 => .ok set
  | 5 => .ok identify
  | 6 => .ok hello
  | other => .err (.badServiceId other)

def toU8 : ServiceId → UInt8
  | get => 3
  | set => 4
  | identify => 5
  | hello => 6

@[simp] lemma fromU8_toU8 (s : ServiceId) : fromU8 s.toU8 = .ok s := by
  cases s <;> rfl

end ServiceId

inductive ServiceType where
  | request
  | responseSuccess
deriving DecidableEq, Repr

namespace ServiceType

def fromU8 (v : UInt8) : Res DcpError ServiceType :=
  match v with
  | 0 => .ok request
  | 1 => .ok responseSuccess
  | other => .err (.badServiceType other)

def toU8 : ServiceType → UInt8
  | request => 0
  | responseSuccess => 1

@[simp] lemma fromU8_toU8 (s : ServiceType) : fromU8 s.toU8 = .ok s := by
  cases s <;> rfl

end ServiceType

structure DcpHeader where
  serviceId : ServiceId
  serviceType : ServiceType
  xid : UInt32
  responseDelay : UInt16
  dataLength : UInt16
deriving DecidableEq, Repr

namespace DcpHeader

/-- The header behind the FrameID, and the block bytes cut to `dataLength`. -/
def parse (buf : Bytes) : Res DcpError (DcpHeader × Bytes) := do
  Res.reject (buf.length < 10) (.tooShort 10 buf.length)
  let serviceId ← ServiceId.fromU8 (← idx buf 0)
  let serviceType ← ServiceType.fromU8 (← idx buf 1)
  let xid ← u32At buf 2
  let responseDelay ← u16At buf 6
  let dataLength ← u16At buf 8
  let need := 10 + dataLength.toNat
  Res.reject (buf.length < need) (.tooShort need buf.length)
  let blocks ← slice buf 10 need
  .ok ({ serviceId, serviceType, xid, responseDelay, dataLength }, blocks)

def write (h : DcpHeader) : Bytes :=
  [h.serviceId.toU8, h.serviceType.toU8] ++ be32 h.xid ++ be16 h.responseDelay ++
    be16 h.dataLength

@[simp] lemma length_write (h : DcpHeader) : h.write.length = 10 := by
  simp [write]

/-- The header and its blocks are read back, whatever follows them in the frame. -/
lemma parse_write {h : DcpHeader} {blocks : Bytes}
    (hl : blocks.length = h.dataLength.toNat) (rest : Bytes) :
    parse (h.write ++ (blocks ++ rest)) = .ok (h, blocks) := by
  have h10 : ¬ (h.write ++ (blocks ++ rest)).length < 10 := by simp
  have hneed : ¬ (h.write ++ (blocks ++ rest)).length < 10 + h.dataLength.toNat := by
    simp; omega
  have hb : (slice (h.write ++ (blocks ++ rest)) 10 (10 + h.dataLength.toNat) :
      Res DcpError Bytes) = .ok blocks :=
    slice_append_mid (by simp) (by omega)
  have hdata : (u16At (h.write ++ (blocks ++ rest)) 8 : Res DcpError UInt16) =
      .ok h.dataLength := by
    simp (disch := simp) [write, u16At_append_right]
  unfold parse
  rw [Res.reject_of_not h10, hdata]
  simp only [Res.ok_bind]
  rw [Res.reject_of_not hneed, hb]
  simp (disch := simp) [write, u16At_append_right]

end DcpHeader

/-! ### Identify -/

structure IdentifyFilter where
  nameOfStation : Option Str := none
  allSelector : Bool := false
  otherFilters : List (UInt8 × UInt8) := []
deriving DecidableEq

/-- One filter block; of two names the later one counts. -/
def IdentifyFilter.push (f : IdentifyFilter) (b : DcpBlock) : Res DcpError IdentifyFilter :=
  if (b.option, b.suboption) = (2, 2) then do
    let name ← Res.okOr (Str.fromUtf8 b.value) (.malformed "NameOfStation not UTF-8")
    .ok { f with nameOfStation := some name }
  else if (b.option, b.suboption) = (0xff, 0xff) then .ok { f with allSelector := true }
  else .ok { f with otherFilters := f.otherFilters ++ [(b.option, b.suboption)] }

def parseIdentifyRequest (blockBytes : Bytes) : Res DcpError IdentifyFilter := do
  let blocks ← parseBlocks blockBytes false
  blocks.foldlM IdentifyFilter.push {}

structure DeviceProperties where
  nameOfStation : Str
  typeOfStation : Str
  vendorId : UInt16
  deviceId : UInt16
  deviceRole : UInt16
  deviceInstance : UInt16
  deviceOptions : Bytes
  ip : Octets 4
  subnet : Octets 4
  gateway : Octets 4
  ipBlockInfo : UInt16
deriving DecidableEq

/-- The frame both services answer with: untagged, the header of a response, the blocks. -/
def buildResponse (dst src : MacAddr) (frameId : FrameId) (serviceId : ServiceId) (xid : UInt32)
    (blocks : List DcpBlock) : Bytes :=
  EthHeader.write ⟨dst, src, none, ethertypeProfinet⟩ ++ be16 frameId.toU16 ++
    DcpHeader.write
      { serviceId, serviceType := .responseSuccess, xid, responseDelay := 0,
        dataLength := blocksEncodedLen blocks } ++
    writeBlocks blocks

def identifyBlocks (props : DeviceProperties) : List DcpBlock :=
  [⟨2, 2, some 0, props.nameOfStation.bytes⟩,
   ⟨2, 5, some 0, props.deviceOptions⟩,
   ⟨2, 1, some 0, props.typeOfStation.bytes⟩,
   ⟨2, 3, some 0, be16 props.vendorId ++ be16 props.deviceId⟩,
   ⟨2, 4, some 0, be16 props.deviceRole⟩,
   ⟨2, 7, some 0, be16 props.deviceInstance⟩,
   ⟨1, 2, some props.ipBlockInfo,
    props.ip.bytes ++ props.subnet.bytes ++ props.gateway.bytes⟩]

def buildIdentifyResponse (dst src : MacAddr) (xid : UInt32) (props : DeviceProperties) : Bytes :=
  buildResponse dst src .identifyResponse .identify xid (identifyBlocks props)

/-! ### Set -/

inductive SetBlock where
  | ipSuite (qualifier : UInt16) (ip subnet gateway : Octets 4)
  | other (option suboption : UInt8)
deriving DecidableEq, Repr

inductive SetBlockError where
  | ok
  | optionNotSupported
  | suboptionNotSupported
  | suboptionNotSet
  | resourceError
  | setNotPossible
deriving DecidableEq, Repr

def SetBlockError.toU8 : SetBlockError → UInt8
  | ok => 0
  | optionNotSupported => 1
  | suboptionNotSupported => 2
  | suboptionNotSet => 3
  | resourceError => 4
  | setNotPossible => 5

/-- A Set block carries its qualifier where a response carries `BlockInfo`. -/
def SetBlock.ofBlock (b : DcpBlock) : Res DcpError SetBlock := do
  let qualifier ← Res.unwrap b.blockInfo
  if (b.option, b.suboption) = (1, 2) then do
    Res.reject (b.value.length ≠ 12) (.malformed "IPParameter value must be 12 bytes")
    let ip ← Octets.copyFrom 4 (← slice b.value 0 4)
    let subnet ← Octets.copyFrom 4 (← slice b.value 4 8)
    let gateway ← Octets.copyFrom 4 (← slice b.value 8 12)
    .ok (.ipSuite qualifier ip subnet gateway)
  else .ok (.other b.option b.suboption)

def parseSetRequest (blockBytes : Bytes) : Res DcpError (List SetBlock) := do
  let blocks ← parseBlocks blockBytes true
  blocks.mapM SetBlock.ofBlock

/-- The outcome of one block; the interface address is never changed. -/
def SetBlock.decide (current : DeviceProperties) : SetBlock → UInt8 × UInt8 × SetBlockError
  | .ipSuite _ ip subnet gateway =>
    if ip = current.ip ∧ subnet = current.subnet ∧ gateway = current.gateway then (1, 2, .ok)
    else (1, 2, .setNotPossible)
  | .other option suboption => (option, suboption, .suboptionNotSupported)

def decideSet (req : List SetBlock) (current : DeviceProperties) :
    List (UInt8 × UInt8 × SetBlockError) :=
  req.map (SetBlock.decide current)

/-- The Control/Response block that reports one outcome. -/
def resultBlock (r : UInt8 × UInt8 × SetBlockError) : DcpBlock :=
  { option := 5, suboption := 4, blockInfo := none, value := [r.1, r.2.1, r.2.2.toU8] }

def buildSetResponse (dst src : MacAddr) (xid : UInt32)
    (results : List (UInt8 × UInt8 × SetBlockError)) : Bytes :=
  buildResponse dst src .getSet .set xid (results.map resultBlock)

/-! ### The handler -/

structure DcpConfig where
  mac : MacAddr
  properties : DeviceProperties
deriving DecidableEq

/-- The Ethernet header, FrameID and remaining bytes of a DCP frame; nothing for a frame of
another protocol. -/
def dcpPayload (frame : Bytes) : Res DcpError (Option (EthHeader × FrameId × Bytes)) := do
  let (eth, payloadOff) ←
    Res.mapErr (fun _ => .malformed "bad Ethernet header") (EthHeader.parse frame)
  if eth.ethertype ≠ ethertypeProfinet then .ok none
  else do
    let payload ← slice frame payloadOff frame.length
    Res.reject (payload.length < 2) (.tooShort (payloadOff + 2) frame.length)
    let frameId ← u16At payload 0
    let rest ← slice payload 2 payload.length
    .ok ((FrameId.fromU16 frameId).map fun id => (eth, id, rest))

/-- Whether the device answers an Identify request: only a filter it can confirm. -/
def IdentifyFilter.respond (f : IdentifyFilter) (props : DeviceProperties) : Bool :=
  if f.otherFilters ≠ [] then false
  else match f.nameOfStation with
    | some name => name = props.nameOfStation
    | none => f.allSelector

def answerIdentify (eth : EthHeader) (rest : Bytes) (cfg : DcpConfig) :
    Res DcpError (Option Bytes) := do
  let (header, blocks) ← DcpHeader.parse rest
  let filter ← parseIdentifyRequest blocks
  if filter.respond cfg.properties then
    .ok (some (buildIdentifyResponse eth.src cfg.mac header.xid cfg.properties))
  else .ok none

def answerSet (eth : EthHeader) (rest : Bytes) (cfg : DcpConfig) :
    Res DcpError (Option Bytes) := do
  let (header, blocks) ← DcpHeader.parse rest
  if header.serviceId ≠ .set ∨ header.serviceType ≠ .request then .ok none
  else do
    let req ← parseSetRequest blocks
    let results := decideSet req cfg.properties
    .ok (some (buildSetResponse eth.src cfg.mac header.xid results))

def handleDcpFrame (frame : Bytes) (cfg : DcpConfig) : Res DcpError (Option Bytes) := do
  match ← dcpPayload frame with
  | some (eth, .identifyRequest, rest) => answerIdentify eth rest cfg
  | some (eth, .getSet, rest) => answerSet eth rest cfg
  | _ => .ok none

/-- An untagged frame with a DCP FrameID. -/
lemma dcpPayload_write (dst src : MacAddr) (id : FrameId) (rest : Bytes) :
    dcpPayload (EthHeader.write ⟨dst, src, none, ethertypeProfinet⟩ ++ (be16 id.toU16 ++ rest)) =
      .ok (some (⟨dst, src, none, ethertypeProfinet⟩, id, rest)) := by
  have h2 : ¬ (be16 id.toU16 ++ rest).length < 2 := by
    rw [List.length_append, length_be16]
    omega
  unfold dcpPayload
  rw [EthHeader.parse_write_untagged (by decide)]
  simp only [Res.mapErr_ok, Res.ok_bind, ne_eq, not_true_eq_false, if_false]
  rw [slice_append_rest (by simp), Res.ok_bind, Res.reject_of_not h2, Res.ok_bind, u16At_be16,
    Res.ok_bind, slice_append_rest (by simp), Res.ok_bind, FrameId.fromU16_toU16, Option.map_some]

/-- The requester reads the blocks that were written. -/
lemma reads_buildResponse {hasBlockInfo : Bool} {blocks : List DcpBlock} (dst src : MacAddr)
    (frameId : FrameId) (serviceId : ServiceId) (xid : UInt32) (hw : Writable hasBlockInfo blocks)
    (ht : totalLen blocks ≤ 65535) :
    ∃ rest header bytes,
      dcpPayload (buildResponse dst src frameId serviceId xid blocks) =
        .ok (some (⟨dst, src, none, ethertypeProfinet⟩, frameId, rest)) ∧
      DcpHeader.parse rest = .ok (header, bytes) ∧ header.serviceId = serviceId ∧
      header.serviceType = .responseSuccess ∧ header.xid = xid ∧
      parseBlocks bytes hasBlockInfo = .ok blocks := by
  have hlen : (writeBlocks blocks).length = (blocksEncodedLen blocks).toNat := by
    rw [length_writeBlocks, blocksEncodedLen, UInt16.toNat_ofNat', Nat.mod_eq_of_lt (by omega)]
  have hparse := DcpHeader.parse_write
    (h := ⟨serviceId, .responseSuccess, xid, 0, blocksEncodedLen blocks⟩) hlen []
  rw [List.append_nil] at hparse
  refine ⟨_, _, _, ?_, hparse, rfl, rfl, rfl, parseBlocks_writeBlocks hw⟩
  rw [buildResponse, List.append_assoc, List.append_assoc]
  exact dcpPayload_write dst src frameId _

end Pnio
