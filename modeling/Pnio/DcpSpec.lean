import Pnio.FrameSafe

/-!
DCP blocks and the answer to a Set request.

The block codec inverts in both directions, up to the pad bytes that the reader skips. A Set request
is answered by one result for each of its blocks, and what the requester reads is that list.
-/

namespace Pnio

/-! ### The codec -/

/-- **The block codec inverts**: blocks of one kind that fit their length fields are read back, and
their length is the one announced; and what is parsed, from any bytes, accounts for all of them but
for pad bytes. -/
theorem dcpBlocks_inverse :
    (∀ (hasBlockInfo : Bool) (bs : List DcpBlock),
      (∀ b ∈ bs, b.blockInfo.isSome = hasBlockInfo ∧ b.blockLen < 2 ^ 16) → totalLen bs < 2 ^ 16 →
      parseBlocks (writeBlocks bs) hasBlockInfo = .ok bs ∧
        (blocksEncodedLen bs).toNat = (writeBlocks bs).length) ∧
    ∀ (buf : Bytes) (hasBlockInfo : Bool),
      (∀ p, parseBlocks buf hasBlockInfo ≠ .panic p) ∧
      ∀ bs, parseBlocks buf hasBlockInfo = .ok bs → Padded bs buf := by
  constructor
  · intro hasBlockInfo bs hw ht
    refine ⟨parseBlocks_writeBlocks hw, ?_⟩
    rw [length_writeBlocks, blocksEncodedLen, UInt16.toNat_ofNat', Nat.mod_eq_of_lt ht]
  · intro buf hasBlockInfo
    exact ⟨(noPanic_parseBlocks buf hasBlockInfo).ne_panic, fun bs h => (parseBlocks_padded h).2⟩

/-- Two odd blocks, read back; and an odd block whose pad byte is missing. -/
theorem dcpBlocks_inverse_odd :
    parseBlocks (writeBlocks [⟨2, 2, none, [0x61]⟩, ⟨2, 1, none, [1, 2, 3]⟩]) false =
        .ok [⟨2, 2, none, [0x61]⟩, ⟨2, 1, none, [1, 2, 3]⟩] ∧
      Padded [⟨2, 2, none, [0x61]⟩] [2, 2, 0, 1, 0x61] := by
  obtain ⟨hwrite, hread⟩ := dcpBlocks_inverse
  refine ⟨(hwrite false _ (by decide) (by decide)).1, ?_⟩
  exact (hread [2, 2, 0, 1, 0x61] false).2 _ (by decide)

/-! ### The answer to a Set -/

namespace DcpBlock

/-- An IP-suite block. -/
def isIpSuite (b : DcpBlock) : Bool := (b.option, b.suboption) = (1, 2)

/-- The block asks for the address, mask and gateway that are configured. -/
def AsksConfigured (props : DeviceProperties) (b : DcpBlock) : Prop :=
  b.value.take 4 = props.ip.bytes ∧ (b.value.drop 4).take 4 = props.subnet.bytes ∧
    (b.value.drop 8).take 4 = props.gateway.bytes

instance (props : DeviceProperties) (b : DcpBlock) : Decidable (b.AsksConfigured props) :=
  inferInstanceAs (Decidable (_ ∧ _ ∧ _))

/-- The result byte that a block of a Set request is to get: 0 for the suite that is configured, 5
(set not possible) for another one and 2 (suboption not supported) for anything else. -/
def result (props : DeviceProperties) (b : DcpBlock) : UInt8 :=
  if b.isIpSuite then if b.AsksConfigured props then 0 else 5 else 2

/-- The Control/Response block for a block of the request. -/
def controlResponse (props : DeviceProperties) (b : DcpBlock) : DcpBlock :=
  { option := 5, suboption := 4, blockInfo := none,
    value := [b.option, b.suboption, b.result props] }

end DcpBlock

section Set

variable (props : DeviceProperties) {b : DcpBlock} {blocks : List DcpBlock}

/-- Each block is decided as it should be, and its outcome is reported under its byte. -/
lemma SetBlock.ofBlock_decide (hinfo : b.blockInfo.isSome)
    (hip : b.isIpSuite → b.value.length = 12) :
    ∃ sb, SetBlock.ofBlock b = .ok sb ∧
      resultBlock (sb.decide props) = b.controlResponse props := by
  obtain ⟨q, hq⟩ := Option.isSome_iff_exists.1 hinfo
  unfold SetBlock.ofBlock DcpBlock.controlResponse DcpBlock.result
  rw [hq, Res.unwrap_some, Res.ok_bind]
  by_cases h12 : (b.option, b.suboption) = (1, 2)
  · have hsuite : b.isIpSuite = true := decide_eq_true h12
    have hlen := hip hsuite
    have h0 : (b.value.take 4).length = 4 := by simp [hlen]
    have h4 : ((b.value.drop 4).take 4).length = 4 := by simp [hlen]
    have h8 : ((b.value.drop 8).take 4).length = 4 := by simp [hlen]
    rw [if_pos h12, Res.reject_of_not (not_not.2 hlen), if_pos hsuite]
    refine ⟨.ipSuite q ⟨_, h0⟩ ⟨_, h4⟩ ⟨_, h8⟩, ?_, ?_⟩
    · rw [Res.ok_bind, slice_of_le ⟨by omega, by omega⟩, slice_of_le ⟨by omega, by omega⟩,
        slice_of_le ⟨by omega, by omega⟩, List.drop_zero]
      simp only [Res.ok_bind, Nat.reduceSub, Octets.copyFrom_of_length h0,
        Octets.copyFrom_of_length h4, Octets.copyFrom_of_length h8]
    · obtain ⟨hopt, hsub⟩ := Prod.mk.inj h12
      simp only [SetBlock.decide, Octets.ext_iff, hopt, hsub]
      by_cases hasks : b.AsksConfigured props
      · rw [if_pos hasks, if_pos (by exact hasks), resultBlock, SetBlockError.toU8]
      · rw [if_neg hasks, if_neg (by exact hasks), resultBlock, SetBlockError.toU8]
  · have hother : ¬ b.isIpSuite = true := fun h => h12 (of_decide_eq_true h)
    rw [if_neg h12, if_neg hother]
    exact ⟨_, rfl, rfl⟩

lemma decideSet_eq (hinfo : ∀ b ∈ blocks, b.blockInfo.isSome)
    (hip : ∀ b ∈ blocks, b.isIpSuite → b.value.length = 12) :
    ∃ req, blocks.mapM SetBlock.ofBlock = .ok req ∧
      (decideSet req props).map resultBlock = blocks.map (·.controlResponse props) := by
  induction blocks with
  | nil => exact ⟨[], rfl, rfl⟩
  | cons b blocks ih =>
    rw [List.forall_mem_cons] at hinfo hip
    obtain ⟨sb, hb, hd⟩ := SetBlock.ofBlock_decide props hinfo.1 hip.1
    obtain ⟨req, hreq, hds⟩ := ih hinfo.2 hip.2
    refine ⟨sb :: req, ?_, ?_⟩
    · rw [List.mapM_cons, hb, Res.ok_bind, hreq]
      rfl
    · rw [decideSet, List.map_cons, List.map_cons, hd, List.map_cons, ← decideSet, hds]

end Set

/-- **A Set is answered block by block**: the reply goes to the requester under its transaction
number, and its blocks are the results of the request's blocks, in order. -/
theorem set_answered (frame : Bytes) (cfg : DcpConfig) (eth : EthHeader) (rest bytes : Bytes)
    (header : DcpHeader) (blocks : List DcpBlock)
    (hframe : dcpPayload frame = .ok (some (eth, .getSet, rest)))
    (hheader : DcpHeader.parse rest = .ok (header, bytes))
    (hset : header.serviceId = .set ∧ header.serviceType = .request)
    (hblocks : parseBlocks bytes true = .ok blocks)
    (hip : ∀ b ∈ blocks, b.isIpSuite → b.value.length = 12)
    (hfit : totalLen (blocks.map (·.controlResponse cfg.properties)) ≤ 65535) :
    ∃ out rest' header' bytes', handleDcpFrame frame cfg = .ok (some out) ∧
      dcpPayload out =
        .ok (some (⟨eth.src, cfg.mac, none, ethertypeProfinet⟩, .getSet, rest')) ∧
      DcpHeader.parse rest' = .ok (header', bytes') ∧
      header'.serviceId = .set ∧ header'.serviceType = .responseSuccess ∧
      header'.xid = header.xid ∧
      parseBlocks bytes' false = .ok (blocks.map (·.controlResponse cfg.properties)) := by
  have hinfo : ∀ b ∈ blocks, b.blockInfo.isSome = true :=
    fun b hb => ((parseBlocks_padded hblocks).1 b hb).1
  obtain ⟨req, hreq, hresults⟩ := decideSet_eq cfg.properties hinfo hip
  have hw : Writable false (blocks.map (·.controlResponse cfg.properties)) := by
    intro b hb
    obtain ⟨b', -, rfl⟩ := List.mem_map.1 hb
    exact ⟨rfl, by simp [DcpBlock.controlResponse, DcpBlock.blockLen]⟩
  have hout : handleDcpFrame frame cfg =
      .ok (some (buildResponse eth.src cfg.mac .getSet .set header.xid
        (blocks.map (·.controlResponse cfg.properties)))) := by
    rw [handleDcpFrame, hframe, Res.ok_bind, ← hresults]
    dsimp only
    rw [answerSet, hheader, Res.ok_bind]
    dsimp only
    rw [if_neg (by simp [hset.1, hset.2]), parseSetRequest, hblocks, Res.ok_bind, hreq, Res.ok_bind]
    rfl
  obtain ⟨rest', header', bytes', hp, hh, hid, hty, hxid, hread⟩ :=
    reads_buildResponse eth.src cfg.mac .getSet .set header.xid hw hfit
  exact ⟨_, rest', header', bytes', hout, hp, hh, hid, hty, hxid, hread⟩

namespace DcpDemo

/-- The suite that is configured, another one and a name. -/
def mixedBlocks : List DcpBlock :=
  [⟨1, 2, some 1, ip.bytes ++ station.properties.subnet.bytes ++ station.properties.gateway.bytes⟩,
    ⟨1, 2, some 0, List.replicate 12 0⟩, ⟨2, 2, some 0, [0x61]⟩]

def mixedRest : Bytes :=
  DcpHeader.write ⟨.set, .request, 7, 0, blocksEncodedLen mixedBlocks⟩ ++ writeBlocks mixedBlocks

def mixedFrame : Bytes :=
  EthHeader.write ⟨mac, MacAddr.of 2 0 0 0 0 2, none, ethertypeProfinet⟩ ++
    (be16 FrameId.getSet.toU16 ++ mixedRest)

end DcpDemo

open DcpDemo in
/-- One result of each kind. -/
theorem set_answered_mixed :
    ∃ out rest header bytes, handleDcpFrame mixedFrame station = .ok (some out) ∧
      dcpPayload out = .ok (some (⟨MacAddr.of 2 0 0 0 0 2, mac, none, ethertypeProfinet⟩,
        .getSet, rest)) ∧
      DcpHeader.parse rest = .ok (header, bytes) ∧ header.xid = 7 ∧
      parseBlocks bytes false =
        .ok [⟨5, 4, none, [1, 2, 0]⟩, ⟨5, 4, none, [1, 2, 5]⟩, ⟨5, 4, none, [2, 2, 2]⟩] := by
  obtain ⟨out, rest, header, bytes, ho, hp, hh, -, -, hx, hb⟩ :=
    set_answered mixedFrame station ⟨mac, MacAddr.of 2 0 0 0 0 2, none, ethertypeProfinet⟩ mixedRest
      (writeBlocks mixedBlocks) ⟨.set, .request, 7, 0, blocksEncodedLen mixedBlocks⟩ mixedBlocks
      (dcpPayload_write ..) (by decide +kernel) ⟨rfl, rfl⟩ (by decide +kernel) (by decide)
      (by decide)
  exact ⟨out, rest, header, bytes, ho, hp, hh, hx, hb⟩

end Pnio
