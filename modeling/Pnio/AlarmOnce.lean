import Pnio.AlarmSeq

/-!
The DATA of the peer: acknowledged as often as they come, processed once.
-/

namespace Pnio

/-- An ACK-RTA frame. -/
def isAckRta (frame : Bytes) : Bool := (rtaHeaderOf frame).any (·.pduType = .ack)

/-- The DATA of the peer that came in. -/
def ChannelTurn.dataPdu (u : ChannelTurn) : Option RtaPdu :=
  match u.call with
  | .op (.frame bytes _) =>
    (peerPdu u.before.cfg.peerMac bytes).filter fun pdu =>
      match pdu.body with
      | .data _ => true
      | _ => false
  | _ => none

/-- The peer has one DATA under way at a time. It may repeat it, and the next one has another
number; none has the number that stands for none. -/
structure WindowOne (pdus : List RtaPdu) : Prop where
  next : pdus.IsChain fun p q => q = p ∨ q.header.sendSeq ≠ p.header.sendSeq
  none : ∀ p ∈ pdus, p.header.sendSeq ≠ seqNone

instance (pdus : List RtaPdu) : Decidable (WindowOne pdus) :=
  decidable_of_iff (pdus.IsChain (fun p q => q = p ∨ q.header.sendSeq ≠ p.header.sendSeq) ∧
    ∀ p ∈ pdus, p.header.sendSeq ≠ seqNone) ⟨fun h => ⟨h.1, h.2⟩, fun h => ⟨h.1, h.2⟩⟩

/-- The content of a DATA is processed, behind its acknowledgement: an Alarm-Ack that matches the
alarm in flight completes it and the queue goes on, anything else is counted. -/
inductive Processed (u : ChannelTurn) (pdu : RtaPdu) : Prop
  | acked {a : AlarmAck} {req : AlarmReq} {now : Instant} {acts : List AlarmAction}
      (hb : pdu.body = .data (.ack a)) (hm : u.before.matchesInFlight a = some req)
      (hs : AlarmChannel.Started now (u.before.accepted pdu.header.sendSeq).completed u.after acts)
      (ha : u.acts = .send (u.before.ackFrame pdu.priority pdu.header.sendSeq) ::
        .acked req.id a.status :: acts)
  | other (hm : ∀ a, pdu.body = .data (.ack a) → u.before.matchesInFlight a = none)
      (hs : u.after = (u.before.accepted pdu.header.sendSeq).countUnexpected)
      (ha : u.acts = [.send (u.before.ackFrame pdu.priority pdu.header.sendSeq), .unexpectedRx])

section Turn

variable {u : ChannelTurn} {pdu : RtaPdu}

lemma ChannelTurn.dataPdu_eq_some (h : u.dataPdu = some pdu) :
    ∃ bytes now data, u.call = .op (.frame bytes now) ∧
      AlarmChannel.ReadFrom u.before.cfg.peerMac bytes pdu ∧ pdu.body = .data data := by
  unfold dataPdu at h
  split at h
  · rename_i bytes now hc
    obtain ⟨hp, hb⟩ := Option.filter_eq_some_iff.1 h
    split at hb
    · rename_i data hbody
      exact ⟨bytes, now, data, hc, peerPdu_eq_some.1 hp, hbody⟩
    · cases hb
  · cases h

lemma ChannelTurn.received_eq (u : ChannelTurn) :
    u.received = u.dataPdu.map (·.header.sendSeq) := by
  obtain ⟨before, call, after, reply⟩ := u
  rcases call with (⟨req, now⟩ | ⟨bytes, now⟩ | ⟨now⟩) | status | _
  all_goals try rfl
  simp only [received, dataPdu]
  cases hp : peerPdu before.cfg.peerMac bytes with
  | none => rfl
  | some pdu => cases hb : pdu.body <;> simp [Option.filter, hb]

/-- **A DATA of the peer**: one with the last number is acknowledged again and nothing else; any
other is processed. -/
lemma AlarmChannel.op_data {ch ch' : AlarmChannel} {bytes : Bytes} {now : Instant}
    {acts : List AlarmAction} {data : RtaData} (h : ch.op (.frame bytes now) = .ok (ch', acts))
    (hf : ReadFrom ch.cfg.peerMac bytes pdu) (hb : pdu.body = .data data) :
    pdu.header.sendSeq = ch.lastRxSeq ∧ ch' = ch ∧
        acts = [.send (ch.ackFrame pdu.priority pdu.header.sendSeq)] ∨
      pdu.header.sendSeq ≠ ch.lastRxSeq ∧
        Processed ⟨ch, .op (.frame bytes now), ch', .acts acts⟩ pdu := by
  have hsame : ∀ {pdu' : RtaPdu}, ReadFrom ch.cfg.peerMac bytes pdu' → pdu' = pdu :=
    fun hf' => Res.ok.inj (hf'.parse.symm.trans hf.parse)
  cases op_step h with
  | unusable =>
    rw [onFrame_unusable h hf] at hb
    cases hb
  | delivered hf' hb' hs =>
    rw [hsame hf', hb] at hb'
    cases hb'
  | strayAck hf' hb' hs =>
    rw [hsame hf', hb] at hb'
    cases hb'
  | duplicate hf' hb' hseq =>
    obtain rfl := hsame hf'
    exact .inl ⟨hseq, rfl, rfl⟩
  | acked hf' hb' hseq hm hs =>
    obtain rfl := hsame hf'
    exact .inr ⟨hseq, .acked hb' hm hs rfl⟩
  | otherData hf' hb' hseq hm =>
    obtain rfl := hsame hf'
    refine .inr ⟨hseq, .other (fun a ha => hm a ?_) rfl rfl⟩
    rw [hb', RtaBody.data.injEq] at ha
    exact ha
  | errRta hf' hb' =>
    rw [hsame hf', hb] at hb'
    cases hb'

lemma AlarmChannel.Called.dataPdu (h : AlarmChannel.Called u.before u.call u.after u.reply)
    (hp : u.dataPdu = some pdu) :
    pdu.header.sendSeq = u.before.lastRxSeq ∧ u.after = u.before ∧
        u.acts = [.send (u.before.ackFrame pdu.priority pdu.header.sendSeq)] ∨
      pdu.header.sendSeq ≠ u.before.lastRxSeq ∧ Processed u pdu := by
  obtain ⟨bytes, now, data, hc, hf, hb⟩ := u.dataPdu_eq_some hp
  obtain ⟨before, call, after, reply⟩ := u
  dsimp only at h hc hf
  subst hc
  generalize hcall : ChannelCall.op (.frame bytes now) = call at h
  cases h with
  | op h =>
    cases hcall
    exact op_data h hf hb
  | refused h => cases hcall
  | errRta status h => cases hcall
  | specifier => cases hcall

/-! ### The acknowledgements -/

lemma isAckRta_ackFrame (ch : AlarmChannel) (priority : Priority) (seq : UInt16) :
    isAckRta (ch.ackFrame priority seq) = true := by
  rw [isAckRta, AlarmChannel.ackFrame, rtaHeaderOf_around]
  rfl

lemma isAckRta_dataFrame (cfg : AlarmChannelConfig) (req : AlarmReq) (seq ackSeq : UInt16) :
    isAckRta (dataFrame cfg req seq ackSeq) = false := by
  rw [isAckRta, dataFrame, rtaHeaderOf_around]
  rfl

/-- An acknowledgement as the peer reads it. -/
lemma parseFrame_ackFrame (ch : AlarmChannel) (priority : Priority) (seq : UInt16) :
    parseFrame (ch.ackFrame priority seq) = .ok (ch.pdu priority .ack seq .ack) := by
  rw [AlarmChannel.ackFrame, parseFrame_around]
  rfl

/-- Processing the content sends no other acknowledgement. -/
lemma Processed.acks (h : Processed u pdu) :
    (sentFrames u.acts).filter isAckRta =
      [u.before.ackFrame pdu.priority pdu.header.sendSeq] := by
  cases h with
  | acked hb hm hs ha =>
    rw [ha, sentFrames_send, sentFrames_acked, List.filter_cons_of_pos (isAckRta_ackFrame _ _ _)]
    congr 1
    generalize u.after = after at hs
    cases hs with
    | nothing hno => rfl
    | sent hidle hq =>
      rw [sentFrames_send, List.filter_cons_of_neg (by rw [isAckRta_dataFrame]; decide)]
      rfl
  | other hm hs ha =>
    rw [ha, sentFrames_send, List.filter_cons_of_pos (isAckRta_ackFrame _ _ _)]
    rfl

end Turn

/-! ### Runs -/

/-- The number of the last DATA is that of the last one that came in. -/
lemma lastAcceptedSeq_eq (log : List ChannelTurn) :
    lastAcceptedSeq log =
      ((log.filterMap (·.dataPdu)).getLast?.map (·.header.sendSeq)).getD seqNone := by
  have hmap : log.filterMap (·.received) =
      (log.filterMap (·.dataPdu)).map (·.header.sendSeq) := by
    rw [List.map_filterMap]
    exact List.filterMap_congr fun u _ => u.received_eq
  rw [lastAcceptedSeq, hmap, List.getLast?_map]

/-- With one DATA under way at a time, a repetition is what has the last number. -/
lemma WindowOne.repetition {pre post : List RtaPdu} {pdu : RtaPdu}
    (h : WindowOne (pre ++ pdu :: post)) :
    pdu.header.sendSeq = (pre.getLast?.map (·.header.sendSeq)).getD seqNone ↔
      pre.getLast? = some pdu := by
  constructor
  · intro heq
    cases hlast : pre.getLast? with
    | none =>
      rw [hlast] at heq
      exact absurd heq (h.none pdu (by simp))
    | some p =>
      rw [hlast] at heq
      have hchain := (List.isChain_append.1 h.next).2.2 p hlast pdu rfl
      rcases hchain with rfl | hne
      · rfl
      · exact absurd heq hne
  · intro hlast
    rw [hlast]
    rfl

/-- **Acknowledged always, processed once.** In every run in which the peer has one DATA under way
at a time, every DATA it sends is answered by exactly one ACK-RTA, with its number and its
priority. A repetition changes nothing and asks for nothing else; the first one is processed. -/
theorem data_processed_once {r : ChannelRun} (h : channelSystem.Reach r)
    (hw : WindowOne (r.log.filterMap (·.dataPdu))) :
    ∀ pre u post pdu, r.log = pre ++ u :: post → u.dataPdu = some pdu →
      (∃ ack header, u.frames.filter isAckRta = [ack] ∧
        parseFrame ack = .ok ⟨pdu.priority, header, .ack⟩ ∧
        header.ackSeq = pdu.header.sendSeq) ∧
      ((pre.filterMap (·.dataPdu)).getLast? = some pdu →
        u.after = u.before ∧ ∃ ack, u.acts = [.send ack]) ∧
      ((pre.filterMap (·.dataPdu)).getLast? ≠ some pdu → Processed u pdu) := by
  intro pre u post pdu hlog hp
  obtain ⟨hreach, -, hc, -⟩ := reach_turn h hlog
  have hrx : u.before.lastRxSeq =
      ((pre.filterMap (·.dataPdu)).getLast?.map (·.header.sendSeq)).getD seqNone := by
    rw [← lastAcceptedSeq_eq]
    exact (reach_seqInv hreach).rx
  have hrep : pdu.header.sendSeq = u.before.lastRxSeq ↔
      (pre.filterMap (·.dataPdu)).getLast? = some pdu := by
    rw [hlog, List.filterMap_append, List.filterMap_cons_some hp] at hw
    rw [hrx]
    exact hw.repetition
  have hframes : u.frames = sentFrames u.acts := by
    obtain ⟨bytes, now, data, hcall, -, -⟩ := u.dataPdu_eq_some hp
    rw [hcall] at hc
    generalize hreply : u.reply = reply at hc
    cases hc with
    | op h => simp only [ChannelTurn.frames, ChannelTurn.acts, hreply]
  have hparse := parseFrame_ackFrame u.before pdu.priority pdu.header.sendSeq
  rcases hc.dataPdu hp with ⟨hseq, hsame, hacts⟩ | ⟨hseq, hproc⟩
  · refine ⟨⟨_, _, ?_, hparse, rfl⟩, fun _ => ⟨hsame, _, hacts⟩,
      fun hne => absurd (hrep.1 hseq) hne⟩
    rw [hframes, hacts, sentFrames_send, List.filter_cons_of_pos (isAckRta_ackFrame _ _ _)]
    rfl
  · refine ⟨⟨_, _, ?_, hparse, rfl⟩, fun hlast => absurd (hrep.2 hlast) hseq, fun _ => hproc⟩
    rw [hframes]
    exact hproc.acks

/-- The run ends with a repetition of the DATA before it. -/
def endsRepeated (r : ChannelRun) : Bool :=
  match r.log with
  | [a, b, u] => u.dataPdu.isSome && ([a, b].filterMap (·.dataPdu)).getLast? == u.dataPdu
  | _ => false

open AlarmDemo in
/-- The Alarm-Ack comes twice: the second one is only acknowledged. -/
theorem data_processed_once_repeated :
    ∃ r pre u pdu, channelSystem.Reach r ∧ WindowOne (r.log.filterMap (·.dataPdu)) ∧
      r.log = pre ++ [u] ∧ u.dataPdu = some pdu ∧
      (pre.filterMap (·.dataPdu)).getLast? = some pdu ∧
      u.after = u.before ∧ ∃ ack, u.acts = [.send ack] := by
  have hrun : (channelSystem.run ⟨.new cfg, []⟩ [.op (.enqueue (alarm 1) 0),
      .op (.frame (peerAck 0) 5), .op (.frame (peerAck 0) 6)]).any (fun r =>
        decide (WindowOne (r.log.filterMap (·.dataPdu))) && endsRepeated r) = true := by
    decide +kernel
  obtain ⟨r, hr, hp⟩ := System.exists_reach_of_run (S := channelSystem) ⟨cfg, rfl⟩ hrun
  rw [Bool.and_eq_true, decide_eq_true_eq] at hp
  obtain ⟨hw, hend⟩ := hp
  unfold endsRepeated at hend
  split at hend
  · rename_i a b u hlog
    rw [Bool.and_eq_true, beq_iff_eq] at hend
    obtain ⟨pdu, hpdu⟩ := Option.isSome_iff_exists.1 hend.1
    have hlast := hend.2.trans hpdu
    obtain ⟨-, hrep, -⟩ := data_processed_once hr hw [a, b] u [] pdu hlog hpdu
    exact ⟨r, [a, b], u, pdu, hr, hw, hlog, hpdu, hlast, hrep hlast⟩
  · cases hend

end Pnio
