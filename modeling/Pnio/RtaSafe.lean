import Pnio.AlarmChannel
import Pnio.CmSafe

/-!
Reading an alarm frame never panics, so what a channel does with a frame is a function of the PDU
the peer sent in it, if there is one.
-/

namespace Pnio

variable {ε : Type}

/-! ### Every index is in bounds -/

instance PduType.noPanic_fromU8 (v : UInt8) : (PduType.fromU8 v).NoPanic := by
  unfold PduType.fromU8
  split <;> infer_instance

instance RtaHeader.noPanic_parse (buf : Bytes) : (RtaHeader.parse buf).NoPanic := by
  unfold RtaHeader.parse
  refine Res.noPanic_bind_of inferInstance fun _ hlen => ?_
  rw [Res.reject_eq_ok, not_lt, hdrLen] at hlen
  refine Res.noPanic_bind_of (noPanic_idx (by omega)) fun b _ => ?_
  refine Res.noPanic_bind_of inferInstance fun _ _ => ?_
  refine Res.noPanic_bind_of inferInstance fun ty _ => ?_
  refine Res.noPanic_bind_of (Res.noPanic_of_returns (u16At_of_le (by omega))) fun dst _ => ?_
  refine Res.noPanic_bind_of (Res.noPanic_of_returns (u16At_of_le (by omega))) fun src _ => ?_
  refine Res.noPanic_bind_of (noPanic_idx (by omega)) fun flags _ => ?_
  refine Res.noPanic_bind_of (Res.noPanic_of_returns (u16At_of_le (by omega))) fun send _ => ?_
  refine Res.noPanic_bind_of (Res.noPanic_of_returns (u16At_of_le (by omega))) fun ack _ => ?_
  refine Res.noPanic_bind_of (Res.noPanic_of_returns (u16At_of_le (by omega))) fun len _ => ?_
  exact Res.noPanic_ok _

instance UserData.noPanic_parse (usi : UInt16) (b : Bytes) :
    (UserData.parse usi b : Res ε _).NoPanic :=
  Res.noPanic_of_returns (UserData.parse_ok usi b)

instance Reader.safe_remaining : Reader.Safe (Reader.remaining : Reader ε Nat) :=
  ⟨fun _ => Res.noPanic_ok _⟩

instance noPanic_parseNotification (body : Bytes) : (parseNotification body).NoPanic := by
  unfold parseNotification
  infer_instance

instance noPanic_parseAck (body : Bytes) : (parseAck body).NoPanic := by
  unfold parseAck
  infer_instance

instance noPanic_parseRtaData (blockType : UInt16) (body : Bytes) :
    (parseRtaData blockType body).NoPanic := by
  unfold parseRtaData
  split <;> infer_instance

instance noPanic_parseBody (pduType : PduType) (varPart : Bytes) :
    (parseBody pduType varPart).NoPanic := by
  cases pduType with
  | ack => exact Res.noPanic_ok _
  | nack => exact Res.noPanic_ok _
  | err =>
    refine Res.noPanic_bind_of inferInstance fun _ hlen => ?_
    rw [Res.reject_eq_ok, not_lt] at hlen
    refine Res.noPanic_bind_of (Res.noPanic_of_returns (u32At_of_le (by omega))) fun _ _ => ?_
    exact Res.noPanic_ok _
  | data =>
    refine Res.noPanic_bind_of inferInstance fun r _ => ?_
    dsimp only
    infer_instance

instance Priority.noPanic_fromFrameId (frameId : UInt16) :
    (Priority.fromFrameId frameId).NoPanic := by
  unfold Priority.fromFrameId
  split_ifs <;> infer_instance

/-- The FrameID, the header and the variable part are each looked for in what is left. -/
instance noPanic_parseFrame (frame : Bytes) : (parseFrame frame).NoPanic := by
  unfold parseFrame
  refine Res.noPanic_bind_of inferInstance fun r _ => ?_
  obtain ⟨eth, off⟩ := r
  dsimp only
  refine Res.noPanic_bind_of inferInstance fun _ _ => ?_
  refine Res.noPanic_bind_of inferInstance fun _ hlen => ?_
  rw [Res.reject_eq_ok, not_lt] at hlen
  refine Res.noPanic_bind_of (Res.noPanic_of_returns (u16At_of_le hlen)) fun id _ => ?_
  refine Res.noPanic_bind_of inferInstance fun priority _ => ?_
  refine Res.noPanic_bind_of (noPanic_slice ⟨hlen, le_refl _⟩) fun rest hrest => ?_
  have hl := length_of_slice hrest
  refine Res.noPanic_bind_of inferInstance fun q hq => ?_
  obtain ⟨header, n⟩ := q
  obtain ⟨_, hhdr, -⟩ := Res.bind_eq_ok.1 hq
  rw [Res.reject_eq_ok, not_lt] at hhdr
  dsimp only
  refine Res.noPanic_bind_of inferInstance fun _ hav => ?_
  rw [Res.reject_eq_ok, not_lt] at hav
  simp only [RtaHeader.hdrLen] at hhdr hav ⊢
  refine Res.noPanic_bind_of (noPanic_slice ⟨by omega, by omega⟩) fun v _ => ?_
  infer_instance

lemma isAlarmFrame_returns (frame : Bytes) : ∃ b, (isAlarmFrame frame : Res ε _) = .ok b := by
  obtain ⟨r, hr⟩ := Res.attempt_returns (δ := ε) (EthHeader.parse frame)
  unfold isAlarmFrame
  rw [hr, Res.ok_bind]
  cases r with
  | error e => exact ⟨_, rfl⟩
  | ok q =>
    obtain ⟨eth, off⟩ := q
    dsimp only
    split_ifs with h
    · obtain ⟨id, hid⟩ := u16At_of_le (ε := ε) h.2
      rw [hid]
      exact ⟨_, rfl⟩
    · exact ⟨_, rfl⟩

/-! ### What a frame carries -/

/-- The header of an alarm frame. -/
def rtaHeaderOf (frame : Bytes) : Option RtaHeader :=
  match EthHeader.parse frame with
  | .ok (_, off) => (RtaHeader.parse (frame.drop (off + 2))).toOption.map (·.1)
  | .err _ | .panic _ => none

lemma rtaHeaderOf_around (dst src : MacAddr) (p : Priority) (h : RtaHeader) (v : Bytes) :
    rtaHeaderOf (frameAround dst src p h v) = some h := by
  have heth : EthHeader.parse (frameAround dst src p h v) =
      .ok (⟨dst, src, some p.tci, ethertypeProfinet⟩, 18) := by
    simp only [frameAround, List.append_assoc]
    exact EthHeader.parse_write_tagged _ _ _ _ _
  have hdrop : (frameAround dst src p h v).drop (18 + 2) =
      h.write (UInt16.ofNat v.length) ++ v := by
    rw [frameAround, List.append_assoc]
    exact List.drop_left' (by simp)
  rw [rtaHeaderOf, heth]
  dsimp only
  rw [hdrop, RtaHeader.parse_write]
  rfl

/-- The PDU the peer sent in this frame. -/
def peerPdu (peer : MacAddr) (frame : Bytes) : Option RtaPdu :=
  match parseFrame frame, EthHeader.parse frame with
  | .ok pdu, .ok (eth, _) => if eth.src = peer then some pdu else none
  | _, _ => none

lemma peerPdu_eq_some {peer : MacAddr} {frame : Bytes} {pdu : RtaPdu} :
    peerPdu peer frame = some pdu ↔ AlarmChannel.ReadFrom peer frame pdu := by
  unfold peerPdu
  constructor
  · intro h
    split at h
    · rename_i pdu' eth off hp he
      split_ifs at h with hsrc
      cases h
      exact ⟨hp, eth, off, he, hsrc⟩
    · cases h
  · rintro ⟨hp, eth, off, he, hsrc⟩
    simp [hp, he, hsrc]

namespace AlarmChannel

/-- What the channel does with a PDU of the peer. -/
def onPdu (ch : AlarmChannel) (pdu : RtaPdu) (now : Instant) :
    Res ε (AlarmChannel × List AlarmAction) :=
  match pdu.body with
  | .ack => .ok (ch.onTransportAck pdu.header.ackSeq now)
  | .data data => ch.onData pdu.header pdu.priority data now
  | .err status => .ok (ch.onErrRta status)
  | .nack => .ok (ch.countUnexpected, [.unexpectedRx])

/-- **A frame counts for what the peer sent in it**; any other is counted and ignored. -/
theorem onFrame_eq (ch : AlarmChannel) (frame : Bytes) (now : Instant) :
    (ch.onFrame frame now : Res ε _) =
      match peerPdu ch.cfg.peerMac frame with
      | some pdu => ch.onPdu pdu now
      | none => .ok (ch.countUnexpected, [.unexpectedRx]) := by
  unfold onFrame peerPdu
  cases hp : parseFrame frame with
  | panic k => exact absurd hp ((noPanic_parseFrame frame).ne_panic k)
  | err e => rfl
  | ok pdu =>
    cases he : EthHeader.parse frame with
    | panic k => exact absurd he ((EthHeader.noPanic_parse frame).ne_panic k)
    | err e => rfl
    | ok r =>
      obtain ⟨eth, off⟩ := r
      simp only [Res.attempt, Res.ok_bind]
      by_cases hsrc : eth.src = ch.cfg.peerMac
      · rw [if_pos hsrc, if_neg (not_not.2 hsrc)]
        rfl
      · rw [if_neg hsrc, if_pos hsrc]

end AlarmChannel

end Pnio
