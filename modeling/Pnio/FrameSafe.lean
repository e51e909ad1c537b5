import Pnio.AlarmLog
import Pnio.Api
import Pnio.DcpReply
import Pnio.EngineRun

/-!
Every frame is handled without a panic, whoever it is for: by DCP, by the alarm channel in any
state it can be in, and by the RT engine of any AR.
-/

namespace Pnio

/-! ### DCP -/

/-- What `write_blocks` and `blocks_encoded_len` assert of the blocks they are given. -/
structure Asserted (blocks : List DcpBlock) : Prop where
  each : ∀ b ∈ blocks, b.blockLen ≤ 65535
  total : totalLen blocks ≤ 65535

lemma asserted_of_total {blocks : List DcpBlock} (h : totalLen blocks ≤ 65535) :
    Asserted blocks :=
  ⟨fun _ hb => (blockLen_le_totalLen hb).trans h, h⟩

section Blocks

variable {buf : Bytes} {hasBlockInfo : Bool} {p next fuel : Nat} {b : DcpBlock}
  {blocks : List DcpBlock}

instance DcpBlock.noPanic_parseAt (buf : Bytes) (hasBlockInfo : Bool) (p : Nat) :
    (parseAt buf hasBlockInfo p).NoPanic := by
  unfold parseAt
  refine Res.noPanic_bind_of inferInstance fun _ h4 => ?_
  rw [Res.reject_eq_ok, not_lt] at h4
  refine Res.noPanic_bind_of (noPanic_idx (by omega)) fun option _ => ?_
  refine Res.noPanic_bind_of (noPanic_idx (by omega)) fun suboption _ => ?_
  refine Res.noPanic_bind_of (Res.noPanic_of_returns (u16At_of_le (by omega))) fun n _ => ?_
  refine Res.noPanic_bind_of inferInstance fun _ hend => ?_
  rw [Res.reject_eq_ok, not_lt] at hend
  split_ifs
  · refine Res.noPanic_bind_of inferInstance fun _ h2 => ?_
    rw [Res.reject_eq_ok, not_lt] at h2
    refine Res.noPanic_bind_of (Res.noPanic_of_returns (u16At_of_le (by omega))) fun info _ => ?_
    refine Res.noPanic_bind_of (noPanic_slice ⟨by omega, hend⟩) fun value _ => ?_
    infer_instance
  · refine Res.noPanic_bind_of (noPanic_slice ⟨by omega, hend⟩) fun value _ => ?_
    infer_instance

/-- Every turn moves on, so the bound on the turns is never met. -/
lemma noPanic_parseBlocksFrom (h : buf.length ≤ p + fuel) :
    (parseBlocksFrom buf hasBlockInfo fuel p).NoPanic := by
  induction fuel generalizing p with
  | zero =>
    rw [parseBlocksFrom, if_neg (by omega)]
    infer_instance
  | succ fuel ih =>
    rw [parseBlocksFrom]
    split_ifs
    · refine Res.noPanic_bind_of inferInstance fun r hr => ?_
      obtain ⟨-, hnext, -, -⟩ := DcpBlock.parseAt_eq_ok hr
      have henc : r.1.encodedLen = 4 + r.1.blockLen + r.1.blockLen % 2 := rfl
      refine Res.noPanic_bind_of (ih (by omega)) fun rest _ => ?_
      infer_instance
    · infer_instance

instance noPanic_parseBlocks (buf : Bytes) (hasBlockInfo : Bool) :
    (parseBlocks buf hasBlockInfo).NoPanic :=
  noPanic_parseBlocksFrom (by omega)

/-- Blocks with a qualifier take six bytes or more each. -/
lemma Padded.length_le (h : Padded blocks buf) (hw : Writable true blocks) :
    6 * blocks.length ≤ buf.length := by
  have hsix : ∀ b : DcpBlock, b.blockInfo.isSome = true → 2 ≤ b.blockLen := by
    intro b hb
    rw [DcpBlock.blockLen, if_pos hb]
    exact Nat.le_add_right 2 _
  induction h with
  | nil => exact Nat.zero_le _
  | cons hpad h ih =>
    obtain ⟨hb, hws⟩ := List.forall_mem_cons.1 hw
    have hrest := ih hws
    have h2 := hsix _ hb.1
    simp only [List.length_cons, List.length_append, DcpBlock.length_content]
    omega
  | bare hodd =>
    have h2 := hsix _ (List.forall_mem_singleton.1 hw).1
    simp only [List.length_singleton, DcpBlock.length_content]
    omega

end Blocks

instance ServiceId.noPanic_fromU8 (v : UInt8) : (ServiceId.fromU8 v).NoPanic := by
  unfold ServiceId.fromU8
  split <;> infer_instance

instance ServiceType.noPanic_fromU8 (v : UInt8) : (ServiceType.fromU8 v).NoPanic := by
  unfold ServiceType.fromU8
  split <;> infer_instance

instance DcpHeader.noPanic_parse (buf : Bytes) : (DcpHeader.parse buf).NoPanic := by
  unfold DcpHeader.parse
  refine Res.noPanic_bind_of inferInstance fun _ h10 => ?_
  rw [Res.reject_eq_ok, not_lt] at h10
  refine Res.noPanic_bind_of (noPanic_idx (by omega)) fun a _ => ?_
  refine Res.noPanic_bind_of inferInstance fun serviceId _ => ?_
  refine Res.noPanic_bind_of (noPanic_idx (by omega)) fun b _ => ?_
  refine Res.noPanic_bind_of inferInstance fun serviceType _ => ?_
  refine Res.noPanic_bind_of (Res.noPanic_of_returns (u32At_of_le (by omega))) fun xid _ => ?_
  refine Res.noPanic_bind_of (Res.noPanic_of_returns (u16At_of_le (by omega))) fun delay _ => ?_
  refine Res.noPanic_bind_of (Res.noPanic_of_returns (u16At_of_le (by omega))) fun n _ => ?_
  refine Res.noPanic_bind_of inferInstance fun _ hneed => ?_
  rw [Res.reject_eq_ok, not_lt] at hneed
  refine Res.noPanic_bind_of (noPanic_slice ⟨by omega, hneed⟩) fun blocks _ => ?_
  infer_instance

instance IdentifyFilter.noPanic_push (f : IdentifyFilter) (b : DcpBlock) :
    (f.push b).NoPanic := by
  unfold IdentifyFilter.push
  split_ifs <;> infer_instance

instance noPanic_parseIdentifyRequest (blockBytes : Bytes) :
    (parseIdentifyRequest blockBytes).NoPanic := by
  unfold parseIdentifyRequest
  infer_instance

/-- The qualifier is there. -/
lemma SetBlock.noPanic_ofBlock {b : DcpBlock} (h : b.blockInfo.isSome) :
    (ofBlock b).NoPanic := by
  obtain ⟨qualifier, hq⟩ := Option.isSome_iff_exists.1 h
  unfold ofBlock
  rw [hq, Res.unwrap_some, Res.ok_bind]
  split_ifs
  · refine Res.noPanic_bind_of inferInstance fun _ h12 => ?_
    rw [Res.reject_eq_ok, not_not] at h12
    have hfour : ∀ {lo hi : Nat}, hi = lo + 4 → hi ≤ 12 → ∀ {f : Octets 4 → Res DcpError SetBlock},
        (∀ o, (f o).NoPanic) →
        (slice b.value lo hi >>= fun v => Octets.copyFrom 4 v >>= f).NoPanic := by
      intro lo hi hhi hle f hf
      refine Res.noPanic_bind_of (noPanic_slice ⟨by omega, by omega⟩) fun v hv => ?_
      have hlen := length_of_slice hv
      exact Res.noPanic_bind_of (Res.noPanic_of_returns
        ⟨_, Octets.copyFrom_of_length (by omega)⟩) fun o _ => hf o
    refine hfour rfl (by omega) fun ip => hfour rfl (by omega) fun subnet =>
      hfour rfl (by omega) fun gateway => ?_
    infer_instance
  · infer_instance

instance noPanic_parseSetRequest (blockBytes : Bytes) :
    (parseSetRequest blockBytes).NoPanic := by
  refine Res.noPanic_bind_of inferInstance fun blocks hb => ?_
  exact Res.noPanic_mapM fun b hm => SetBlock.noPanic_ofBlock ((parseBlocks_padded hb).1 b hm).1

instance noPanic_dcpPayload (frame : Bytes) : (dcpPayload frame).NoPanic := by
  unfold dcpPayload
  refine Res.noPanic_bind_of inferInstance fun r hr => ?_
  obtain ⟨eth, off⟩ := r
  rw [Res.mapErr_eq_ok] at hr
  have hoff := EthHeader.off_le hr
  dsimp only
  split_ifs
  · infer_instance
  · refine Res.noPanic_bind_of (noPanic_slice ⟨hoff, le_refl _⟩) fun payload _ => ?_
    refine Res.noPanic_bind_of inferInstance fun _ h2 => ?_
    rw [Res.reject_eq_ok, not_lt] at h2
    refine Res.noPanic_bind_of (Res.noPanic_of_returns (u16At_of_le (by omega))) fun id _ => ?_
    refine Res.noPanic_bind_of (noPanic_slice ⟨h2, le_refl _⟩) fun rest _ => ?_
    infer_instance

instance noPanic_answerIdentify (eth : EthHeader) (rest : Bytes) (cfg : DcpConfig) :
    (answerIdentify eth rest cfg).NoPanic := by
  refine Res.noPanic_bind_of inferInstance fun r _ => ?_
  refine Res.noPanic_bind_of inferInstance fun filter _ => ?_
  split_ifs <;> infer_instance

instance noPanic_answerSet (eth : EthHeader) (rest : Bytes) (cfg : DcpConfig) :
    (answerSet eth rest cfg).NoPanic := by
  refine Res.noPanic_bind_of inferInstance fun r _ => ?_
  dsimp only
  split_ifs
  · infer_instance
  · refine Res.noPanic_bind_of inferInstance fun req _ => ?_
    infer_instance

instance noPanic_handleDcpFrame (frame : Bytes) (cfg : DcpConfig) :
    (handleDcpFrame frame cfg).NoPanic := by
  refine Res.noPanic_bind_of inferInstance fun r _ => ?_
  split <;> infer_instance

/-- The bytes behind the FrameID are fewer than the frame has. -/
lemma length_of_dcpPayload {frame rest : Bytes} {eth : EthHeader} {id : FrameId}
    (h : dcpPayload frame = .ok (some (eth, id, rest))) : rest.length ≤ frame.length := by
  unfold dcpPayload at h
  obtain ⟨⟨eth', off⟩, -, h⟩ := Res.bind_eq_ok.1 h
  dsimp only at h
  split_ifs at h
  · cases h
  · obtain ⟨payload, hp, h⟩ := Res.bind_eq_ok.1 h
    obtain ⟨_, -, h⟩ := Res.bind_eq_ok.1 h
    obtain ⟨v, -, h⟩ := Res.bind_eq_ok.1 h
    obtain ⟨rest', hr, h⟩ := Res.bind_eq_ok.1 h
    obtain ⟨q, -, hq⟩ := Option.map_eq_some_iff.1 (Res.ok.inj h)
    cases hq
    have h1 := length_of_slice hp
    have h2 := length_of_slice hr
    omega

/-- A Set request has few enough blocks for the reply. -/
lemma length_requestBlocks {rest : Bytes} {blocks : List DcpBlock}
    (h : requestBlocks rest = .ok blocks) : 6 * blocks.length ≤ rest.length := by
  obtain ⟨⟨header, bytes⟩, hh, h⟩ := Res.bind_eq_ok.1 h
  have hbytes : bytes.length ≤ rest.length := by
    unfold DcpHeader.parse at hh
    obtain ⟨_, -, hh⟩ := Res.bind_eq_ok.1 hh
    obtain ⟨_, -, hh⟩ := Res.bind_eq_ok.1 hh
    obtain ⟨_, -, hh⟩ := Res.bind_eq_ok.1 hh
    obtain ⟨_, -, hh⟩ := Res.bind_eq_ok.1 hh
    obtain ⟨_, -, hh⟩ := Res.bind_eq_ok.1 hh
    obtain ⟨_, -, hh⟩ := Res.bind_eq_ok.1 hh
    obtain ⟨_, -, hh⟩ := Res.bind_eq_ok.1 hh
    obtain ⟨n, -, hh⟩ := Res.bind_eq_ok.1 hh
    obtain ⟨_, hneed, hh⟩ := Res.bind_eq_ok.1 hh
    obtain ⟨bs, hs, hh⟩ := Res.bind_eq_ok.1 hh
    cases hh
    rw [Res.reject_eq_ok, not_lt] at hneed
    have hlen := length_of_slice hs
    omega
  obtain ⟨hw, hpad⟩ := parseBlocks_padded h
  have hlen := hpad.length_le hw
  omega

/-- **The assertions of the encoder hold for every reply.** -/
lemma handleDcpFrame_asserted {frame out : Bytes} {cfg : DcpConfig}
    (hframe : frame.length ≤ maxFrameLen)
    (hid : totalLen (identifyBlocks cfg.properties) ≤ 65535)
    (h : handleDcpFrame frame cfg = .ok (some out)) :
    ∃ dst frameId serviceId xid blocks,
      out = buildResponse dst cfg.mac frameId serviceId xid blocks ∧ Asserted blocks := by
  cases handleDcpFrame_answer h with
  | identify eth rest xid payload reply =>
    exact ⟨_, _, _, _, _, reply, asserted_of_total hid⟩
  | set eth rest xid blocks req payload parsed read reply =>
    refine ⟨_, _, _, _, _, reply, asserted_of_total ?_⟩
    have hlen := length_of_dcpPayload payload
    have hblocks := length_requestBlocks parsed
    have hreq := Res.length_of_mapM read
    rw [totalLen_resultBlocks, decideSet, List.length_map]
    simp only [maxFrameLen] at hframe
    omega

/-! ### The RT engine -/

/-- An engine takes any frame, for its layout says where everything is. -/
lemma RtEngine.onFrame_returns {ε : Type} {l : Layout} {e : RtEngine} (hb : e.Built l)
    (hs : l.outputCr.Sound) (frame : Bytes) (now : Instant) :
    ∃ q, (e.onFrame frame now : Res ε _) = .ok q := by
  rcases unusable_or_takes e frame with h | ⟨eth, rt, h⟩
  · obtain ⟨stats, verdict, hq, -⟩ := onFrame_unusable h now
    exact ⟨_, hq⟩
  · obtain ⟨e', hq, -⟩ := onFrame_takes hb hs h now
    exact ⟨_, hq⟩

/-! ### All receivers -/

lemma good_of_reach {r : ChannelRun} (h : channelSystem.Reach r) : r.ch.Good := by
  have hinv := channel_inv (I := fun _ _ => True) (fun _ => trivial)
    (fun _ _ _ _ _ _ _ _ => trivial) h
  exact hinv.1

/-- **No frame makes a receiver panic.** The reply to a DCP request also meets what the encoder
asserts; the channel and the engine may have gone through anything before. -/
theorem receivers_return (frame : Bytes) (hframe : frame.length ≤ maxFrameLen) :
    (∀ cfg : DcpConfig, totalLen (identifyBlocks cfg.properties) ≤ 65535 →
      (handleDcpFrame frame cfg).NoPanic ∧
      ∀ out, handleDcpFrame frame cfg = .ok (some out) →
        ∃ dst frameId serviceId xid blocks,
          out = buildResponse dst cfg.mac frameId serviceId xid blocks ∧ Asserted blocks) ∧
    (∃ b, (isAlarmFrame frame : Res Empty _) = .ok b) ∧
    (∀ r now, channelSystem.Reach r → ∃ q, (r.ch.onFrame frame now : Res Empty _) = .ok q) ∧
    ∀ params model l e now, Layout.fromAr params model = .ok l → RtEngine.Used l e →
      ∃ q, (e.onFrame frame now : Res Empty _) = .ok q := by
  refine ⟨fun cfg hid => ⟨inferInstance, fun out h => ?_⟩, isAlarmFrame_returns frame, ?_, ?_⟩
  · exact handleDcpFrame_asserted hframe hid h
  · intro r now hr
    exact AlarmChannel.onFrame_returns (good_of_reach hr) frame
  · intro params model l e now hl hu
    have hs := buildCr_sound (Layout.fromAr_eq_ok.1 hl).2.1
    exact RtEngine.onFrame_returns hu.built hs frame now

theorem receivers_return_peerAck :
    (AlarmDemo.peerAck 0).length ≤ maxFrameLen ∧
      (handleDcpFrame (AlarmDemo.peerAck 0)
        ⟨DcpDemo.mac, DcpDemo.cfg.dcpProperties DcpDemo.ip⟩).NoPanic ∧
      (∃ b, (isAlarmFrame (AlarmDemo.peerAck 0) : Res Empty _) = .ok b) ∧
      (∃ q, ((AlarmChannel.new AlarmDemo.cfg).onFrame (AlarmDemo.peerAck 0) 0 : Res Empty _) =
        .ok q) ∧
      ∃ q, ((RtEngine.new AppDemo.layout AppDemo.mac AppDemo.mac {}).onFrame
        (AlarmDemo.peerAck 0) 0 : Res Empty _) = .ok q := by
  have hlen : (AlarmDemo.peerAck 0).length ≤ maxFrameLen := by decide
  obtain ⟨hdcp, halarm, hch, hrt⟩ := receivers_return (AlarmDemo.peerAck 0) hlen
  refine ⟨hlen, (hdcp _ ?_).1, halarm, ?_, ?_⟩
  · decide
  · exact hch ⟨.new AlarmDemo.cfg, []⟩ 0 (.init ⟨AlarmDemo.cfg, rfl⟩)
  · exact hrt _ _ _ _ 0 AppDemo.fromAr_params (.new AppDemo.mac AppDemo.mac {})

end Pnio
