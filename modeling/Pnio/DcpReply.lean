import Pnio.Config

/-!
The size of a DCP reply. A reply carries one result for every block of a Set request, or the
identity of the station, and nothing bounds either by the frame: the reply fits exactly when
the request asks for few enough results, or the two names of the identity are short enough.
-/

namespace Pnio

/-- The reply can be sent, and its DCPDataLength counts the block bytes behind the header. -/
structure WellSized (out : Bytes) : Prop where
  fits : out.length ≤ maxFrameLen
  dataLength : ∃ n, (u16At out 24 : Res DcpError UInt16) = .ok n ∧ out.length = 26 + n.toNat

/-! ### The length of a reply -/

section Response

variable (dst src : MacAddr) (frameId : FrameId) (serviceId : ServiceId) (xid : UInt32)
  (blocks : List DcpBlock)

lemma length_buildResponse :
    (buildResponse dst src frameId serviceId xid blocks).length = 26 + totalLen blocks := by
  simp [buildResponse]
  omega

lemma dataLength_buildResponse :
    (u16At (buildResponse dst src frameId serviceId xid blocks) 24 : Res DcpError UInt16) =
      .ok (blocksEncodedLen blocks) := by
  simp (disch := simp) [buildResponse, DcpHeader.write, u16At_append_right, List.append_assoc]

/-- The length field holds every total that fits in a frame. -/
lemma wellSized_buildResponse :
    WellSized (buildResponse dst src frameId serviceId xid blocks) ↔ totalLen blocks ≤ 1496 := by
  have hlen := length_buildResponse dst src frameId serviceId xid blocks
  constructor
  · intro h
    have hfits := h.fits
    rw [hlen, maxFrameLen] at hfits
    omega
  · intro h
    refine ⟨by rw [hlen, maxFrameLen]; omega, _, dataLength_buildResponse .., ?_⟩
    have hmod : totalLen blocks % 2 ^ 16 = totalLen blocks := Nat.mod_eq_of_lt (by omega)
    rw [hlen, blocksEncodedLen, UInt16.toNat_ofNat', hmod]

end Response

/-- A length rounded up to the next even number. -/
def evenUp (n : Nat) : Nat := n + n % 2

lemma totalLen_identifyBlocks (cfg : DeviceConfig) (ip : Octets 4) :
    totalLen (identifyBlocks (cfg.dcpProperties ip)) =
      68 + evenUp cfg.stationName.bytes.length + evenUp cfg.stationType.bytes.length := by
  simp [totalLen, identifyBlocks, DeviceConfig.dcpProperties, DcpBlock.encodedLen,
    DcpBlock.blockLen, evenUp]
  omega

lemma totalLen_resultBlocks (results : List (UInt8 × UInt8 × SetBlockError)) :
    totalLen (results.map resultBlock) = 8 * results.length := by
  induction results with
  | nil => rfl
  | cons r rs ih =>
    have hcons : totalLen ((r :: rs).map resultBlock) =
        (resultBlock r).encodedLen + totalLen (rs.map resultBlock) := by simp [totalLen]
    have h8 : (resultBlock r).encodedLen = 8 := by
      simp [resultBlock, DcpBlock.encodedLen, DcpBlock.blockLen]
    rw [hcons, h8, ih, List.length_cons]
    omega

/-! ### Which requests are answered -/

/-- The blocks of a Set request, from the bytes behind its FrameID. -/
def requestBlocks (rest : Bytes) : Res DcpError (List DcpBlock) := do
  let (_, blocks) ← DcpHeader.parse rest
  parseBlocks blocks true

/-- The two ways a frame is answered, with the blocks of the answer. -/
inductive Answer (frame : Bytes) (cfg : DcpConfig) (out : Bytes) : Prop where
  | identify (eth : EthHeader) (rest : Bytes) (xid : UInt32)
      (payload : dcpPayload frame = .ok (some (eth, .identifyRequest, rest)))
      (reply : out = buildIdentifyResponse eth.src cfg.mac xid cfg.properties)
  | set (eth : EthHeader) (rest : Bytes) (xid : UInt32) (blocks : List DcpBlock)
      (req : List SetBlock)
      (payload : dcpPayload frame = .ok (some (eth, .getSet, rest)))
      (parsed : requestBlocks rest = .ok blocks)
      (read : blocks.mapM SetBlock.ofBlock = .ok req)
      (reply : out = buildSetResponse eth.src cfg.mac xid (decideSet req cfg.properties))

lemma handleDcpFrame_answer {frame out : Bytes} {cfg : DcpConfig}
    (h : handleDcpFrame frame cfg = .ok (some out)) : Answer frame cfg out := by
  unfold handleDcpFrame at h
  obtain ⟨payload, hp, h⟩ := Res.bind_eq_ok.1 h
  match payload with
  | some (eth, .identifyRequest, rest) =>
    obtain ⟨⟨header, blocks⟩, -, h⟩ := Res.bind_eq_ok.1 h
    obtain ⟨filter, -, h⟩ := Res.bind_eq_ok.1 h
    split_ifs at h with hr
    · cases h
      exact .identify eth rest header.xid hp rfl
    · cases h
  | some (eth, .getSet, rest) =>
    obtain ⟨⟨header, bytes⟩, hh, h⟩ := Res.bind_eq_ok.1 h
    dsimp only at h
    split_ifs at h with hs
    · cases h
    · obtain ⟨req, hreq, h⟩ := Res.bind_eq_ok.1 h
      obtain ⟨blocks, hb, hm⟩ := Res.bind_eq_ok.1 hreq
      cases h
      have hparsed : requestBlocks rest = .ok blocks := by
        rw [requestBlocks, hh, Res.ok_bind]
        exact hb
      exact .set eth rest header.xid blocks req hp hparsed hm rfl
  | some (eth, .identifyResponse, rest) => cases h
  | some (eth, .hello, rest) => cases h
  | none => cases h

/-! ### When the reply fits -/

/-- The identity has room in an Identify response, and a Set request at most 187 blocks. -/
structure RequestFits (cfg : DeviceConfig) (frame : Bytes) : Prop where
  identify : ∀ eth rest, dcpPayload frame = .ok (some (eth, .identifyRequest, rest)) →
    evenUp cfg.stationName.bytes.length + evenUp cfg.stationType.bytes.length ≤ 1428
  set : ∀ eth rest blocks, dcpPayload frame = .ok (some (eth, .getSet, rest)) →
    requestBlocks rest = .ok blocks → blocks.length ≤ 187

/-- **Replies fit exactly when the request does**: for every configuration and address, and
every frame the device answers, the reply is at most `maxFrameLen` long with the right
DCPDataLength if and only if an Identify finds short enough names and a Set has at most 187
blocks. -/
theorem reply_wellSized_iff (cfg : DeviceConfig) (mac : MacAddr) (ip : Octets 4)
    (frame out : Bytes)
    (h : handleDcpFrame frame ⟨mac, cfg.dcpProperties ip⟩ = .ok (some out)) :
    WellSized out ↔ RequestFits cfg frame := by
  cases handleDcpFrame_answer h with
  | identify eth rest xid payload reply =>
    rw [reply, buildIdentifyResponse, wellSized_buildResponse, totalLen_identifyBlocks]
    constructor
    · intro hle
      refine ⟨fun _ _ _ => by omega, fun eth' rest' _ h' => ?_⟩
      rw [payload] at h'
      cases h'
    · intro hfit
      have := hfit.identify eth rest payload
      omega
  | set eth rest xid blocks req payload parsed read reply =>
    have hlen : (decideSet req (cfg.dcpProperties ip)).length = blocks.length := by
      rw [decideSet, List.length_map, Res.length_of_mapM read]
    rw [reply, buildSetResponse, wellSized_buildResponse, totalLen_resultBlocks, hlen]
    constructor
    · intro hle
      refine ⟨fun eth' rest' h' => ?_, fun eth' rest' blocks' h' hb' => ?_⟩
      · rw [payload] at h'
        cases h'
      · rw [payload] at h'
        cases h'
        rw [parsed] at hb'
        cases hb'
        omega
    · intro hfit
      have := hfit.set eth rest blocks payload parsed
      omega

namespace DcpDemo

def mac : MacAddr := MacAddr.of 2 0 0 0 0 1
def ip : Octets 4 := ⟨[192, 168, 1, 61], rfl⟩

/-- The station `a` with one word of inputs in slot 1 and otherwise the defaults. -/
def builder : DeviceConfigBuilder :=
  (DeviceConfig.builder (.ofAscii [0x61])).submodule 1 (.ofAscii [0x61]) [.word] []

def cfg : DeviceConfig :=
  { stationName := .ofAscii [0x61]
    stationType := im0Default.orderId
    vendorId := 0xFFFF
    deviceId := 1
    minDeviceInterval := 32
    submodules := [⟨1, .ofAscii [0x61], [.word], []⟩]
    derived := [⟨[⟨0, 0, .word⟩], 2, [], 0⟩]
    im0 := im0Default }

lemma build_builder : builder.build = .ok cfg := by decide +kernel

/-- The station of the demo configuration. -/
def station : DcpConfig := ⟨mac, cfg.dcpProperties ip⟩

/-- `n` Set blocks of option 5, each a qualifier without a value. -/
def setBlocks (n : Nat) : List DcpBlock := List.replicate n ⟨5, 5, some 0, []⟩

/-- The Set request with these blocks, from the station `02-00-00-00-00-02`. -/
def setRequest (n : Nat) : Bytes :=
  EthHeader.write ⟨mac, MacAddr.of 2 0 0 0 0 2, none, ethertypeProfinet⟩ ++
    (be16 FrameId.getSet.toU16 ++
      (DcpHeader.write ⟨.set, .request, 7, 0, blocksEncodedLen (setBlocks n)⟩ ++
        writeBlocks (setBlocks n)))

/-- What the device answers: the suboption is not supported, `n` times. -/
def setReply (n : Nat) : Bytes :=
  buildSetResponse (MacAddr.of 2 0 0 0 0 2) mac 7
    (List.replicate n (5, 5, .suboptionNotSupported))

lemma totalLen_setBlocks (n : Nat) : totalLen (setBlocks n) = 6 * n := by
  simp [totalLen, setBlocks, DcpBlock.encodedLen, DcpBlock.blockLen, Nat.mul_comm]

lemma setBlocks_writable (n : Nat) : Writable true (setBlocks n) := by
  intro b hb
  obtain rfl := List.eq_of_mem_replicate hb
  simp [DcpBlock.blockLen]

lemma mapM_setBlocks (n : Nat) :
    (setBlocks n).mapM SetBlock.ofBlock = .ok (List.replicate n (.other 5 5)) := by
  have hblock : ∀ b ∈ setBlocks n, SetBlock.ofBlock b = .ok (.other 5 5) := by
    intro b hb
    obtain rfl := List.eq_of_mem_replicate hb
    rfl
  rw [Res.mapM_eq_map hblock, setBlocks, List.map_replicate]

/-- The device answers every such request, whatever its own identity. -/
lemma handle_setRequest {n : Nat} (hn : n ≤ 10922) (props : DeviceProperties) :
    handleDcpFrame (setRequest n) ⟨mac, props⟩ = .ok (some (setReply n)) := by
  have hlen : (writeBlocks (setBlocks n)).length = (blocksEncodedLen (setBlocks n)).toNat := by
    rw [length_writeBlocks, blocksEncodedLen, UInt16.toNat_ofNat', totalLen_setBlocks]
    omega
  have hparse := DcpHeader.parse_write (h := ⟨.set, .request, 7, 0, blocksEncodedLen (setBlocks n)⟩)
    hlen []
  rw [List.append_nil] at hparse
  have hreq : parseSetRequest (writeBlocks (setBlocks n)) =
      .ok (List.replicate n (.other 5 5)) := by
    rw [parseSetRequest, parseBlocks_writeBlocks (setBlocks_writable n), Res.ok_bind,
      mapM_setBlocks]
  rw [handleDcpFrame, setRequest, dcpPayload_write, Res.ok_bind]
  simp [answerSet, hparse, hreq, decideSet, SetBlock.decide, setReply]

end DcpDemo

/-- Two blocks. -/
theorem reply_wellSized_two_blocks :
    handleDcpFrame (DcpDemo.setRequest 2)
        ⟨DcpDemo.mac, DcpDemo.cfg.dcpProperties DcpDemo.ip⟩ = .ok (some (DcpDemo.setReply 2)) ∧
      (WellSized (DcpDemo.setReply 2) ↔ RequestFits DcpDemo.cfg (DcpDemo.setRequest 2)) := by
  have h := DcpDemo.handle_setRequest (n := 2) (by omega) (DcpDemo.cfg.dcpProperties DcpDemo.ip)
  exact ⟨h, reply_wellSized_iff _ _ _ _ _ h⟩

/-- A device with an accepted configuration answers a Set request of 188 blocks, 1154 bytes
long, with a frame of 1530 bytes. -/
theorem set_reply_exceeds_frame :
    DcpDemo.builder.build = .ok DcpDemo.cfg ∧ (DcpDemo.setRequest 188).length ≤ maxFrameLen ∧
      handleDcpFrame (DcpDemo.setRequest 188)
        ⟨DcpDemo.mac, DcpDemo.cfg.dcpProperties DcpDemo.ip⟩ = .ok (some (DcpDemo.setReply 188)) ∧
      maxFrameLen < (DcpDemo.setReply 188).length ∧ ¬ WellSized (DcpDemo.setReply 188) := by
  have hreq : (DcpDemo.setRequest 188).length = 1154 := by
    simp [DcpDemo.setRequest, DcpDemo.totalLen_setBlocks]
  have hreply : (DcpDemo.setReply 188).length = 1530 := by
    rw [DcpDemo.setReply, buildSetResponse, length_buildResponse, totalLen_resultBlocks,
      List.length_replicate]
  have hexceeds : maxFrameLen < (DcpDemo.setReply 188).length := by
    rw [hreply, maxFrameLen]
    omega
  refine ⟨DcpDemo.build_builder, by rw [hreq, maxFrameLen]; omega,
    DcpDemo.handle_setRequest (by omega) _, hexceeds, fun h => ?_⟩
  have := h.fits
  omega

end Pnio
