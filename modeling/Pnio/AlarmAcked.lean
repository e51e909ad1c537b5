import Pnio.AlarmRun

/-!
Whose Alarm-Ack completes an alarm.

The channel matches an Alarm-Ack with its alarm in flight by type, slot and subslot and does not
look at the AlarmSpecifier, which is what tells two alarms of one submodule apart.
-/

namespace Pnio

/-- The peer has received the notification in flight under `id` and acknowledged it. -/
def PeerAcknowledged (r : AlarmRun) (id : UInt32) : Prop :=
  ∃ req, r.ch.state.req = some req ∧ req.id = id ∧
    ∃ p ∈ r.answered, p.1 ∈ r.received ∧ req.notification.ReadsAs p.1

/-- A new Alarm-Ack that agrees with the alarm in flight in type, slot and subslot also carries
its AlarmSpecifier. -/
def NoStaleAck (r : AlarmRun) : AlarmInput → Prop
  | .deliver frame _ => ∀ p ∈ alarmAckOf r.ch.cfg.peerMac frame, p.1.sendSeq ≠ r.ch.lastRxSeq →
      ∀ req ∈ r.ch.matchesInFlight p.2,
        p.2.specifier = .fromU16 req.notification.specifier.toU16
  | _ => True

instance (r : AlarmRun) (i : AlarmInput) : Decidable (NoStaleAck r i) := by
  cases i <;> unfold NoStaleAck <;> infer_instance

namespace AlarmChannel

variable {ch ch' : AlarmChannel} {now : Instant} {acts : List AlarmAction}

lemma Started.no_acked {id : UInt32} {status : PnioStatus} (h : Started now ch ch' acts) :
    .acked id status ∉ acts := by
  cases h with
  | nothing h => exact List.not_mem_nil
  | sent hs hq => simp

/-- Only a new Alarm-Ack of the peer that matches the alarm in flight completes it. -/
lemma Step.acked_mem {o : Op} {id : UInt32} {status : PnioStatus} (h : Step ch o ch' acts)
    (ha : .acked id status ∈ acts) :
    ∃ frame now pdu a req, o = .frame frame now ∧ ReadFrom ch.cfg.peerMac frame pdu ∧
      pdu.body = .data (.ack a) ∧ pdu.header.sendSeq ≠ ch.lastRxSeq ∧
      ch.matchesInFlight a = some req ∧ req.id = id := by
  cases h with
  | enqueued _ h => exact absurd ha h.no_acked
  | @acked frame now pdu a req _ acts hf hb hseq hm h =>
    refine ⟨frame, now, pdu, a, req, rfl, hf, hb, hseq, hm, ?_⟩
    rcases List.mem_cons.1 ha with ha | ha
    · cases ha
    rcases List.mem_cons.1 ha with ha | ha
    · cases ha; rfl
    · exact absurd ha h.no_acked
  | dropped _ _ h => exact absurd ha h.no_acked
  | _ => simp at ha

end AlarmChannel

lemma or_and_distrib (a b c : UInt16) : (a ||| b) &&& c = (a &&& c) ||| (b &&& c) := by
  apply UInt16.toNat_inj.1
  simp only [UInt16.toNat_and, UInt16.toNat_or]
  exact Nat.and_or_distrib_right _ _ _

/-- The eleven bits of the sequence survive the encoding of the specifier. -/
lemma AlarmSpecifier.sequence_fromU16_toU16 (s : AlarmSpecifier) :
    (fromU16 s.toU16).sequence = s.sequence &&& 0x07FF := by
  obtain ⟨seq, c, m, sub, ar⟩ := s
  simp only [fromU16, toU16, or_and_distrib]
  have hseq : seq &&& 0x07FF &&& 0x07FF = seq &&& 0x07FF := by
    rw [UInt16.and_assoc]; rfl
  have hc : bit c 11 &&& 0x07FF = 0 := by cases c <;> decide
  have hm : bit m 12 &&& 0x07FF = 0 := by cases m <;> decide
  have hs : bit sub 13 &&& 0x07FF = 0 := by cases sub <;> decide
  have ha : bit ar 15 &&& 0x07FF = 0 := by cases ar <;> decide
  simp only [hseq, hc, hm, hs, ha, UInt16.or_zero]

lemma AlarmReq.sequence_eq_of_specifier {p q : AlarmReq} (hp : p.sequence < specifierNumbers)
    (hq : q.sequence < specifierNumbers)
    (h : AlarmSpecifier.fromU16 p.notification.specifier.toU16 =
      .fromU16 q.notification.specifier.toU16) : p.sequence = q.sequence := by
  have hs := congrArg AlarmSpecifier.sequence h
  rw [AlarmSpecifier.sequence_fromU16_toU16, AlarmSpecifier.sequence_fromU16_toU16] at hs
  have hn := congrArg UInt16.toNat hs
  have hmask : (0x07FF : UInt16).toNat = 2 ^ 11 - 1 := rfl
  rw [UInt16.toNat_and, UInt16.toNat_and, hmask, Nat.and_two_pow_sub_one_eq_mod,
    Nat.and_two_pow_sub_one_eq_mod] at hn
  simp only [sequence, specifierNumbers] at hp hq ⊢
  omega

/-- The step of a run that completes an alarm delivers an Alarm-Ack. -/
lemma AlarmRun.step_acked {r r' : AlarmRun} {i : AlarmInput} {acts : List AlarmAction}
    {id : UInt32} {status : PnioStatus} (h : r.step i = some (r', acts))
    (ha : .acked id status ∈ acts) :
    ∃ frame now hd a req, i = .deliver frame now ∧ r.MayArrive frame ∧
      alarmAckOf r.ch.cfg.peerMac frame = some (hd, a) ∧ hd.sendSeq ≠ r.ch.lastRxSeq ∧
      r.ch.matchesInFlight a = some req ∧ req.id = id := by
  cases i with
  | enqueue req now =>
    unfold step stepEnqueue at h
    split_ifs at h
    simp only at h
    split at h
    · rename_i ch' acts' he
      cases h
      obtain ⟨_, _, _, _, _, ho, -⟩ :=
        (AlarmChannel.op_step (o := .enqueue _ now) he).acked_mem ha
      cases ho
    · cases h; cases ha
    · cases h
  | tick now =>
    obtain ⟨ch', ht, rfl⟩ := settle_eq_some.1 h
    obtain ⟨_, _, _, _, _, ho, -⟩ := (AlarmChannel.onTick_step ht).acked_mem ha
    cases ho
  | peerReceives frame =>
    simp only [step] at h
    split at h
    · split_ifs at h
      cases h; cases ha
    · cases h
  | peerAcks n frame =>
    simp only [step] at h
    split at h
    · split_ifs at h
      cases h; cases ha
    · cases h
  | deliver frame now =>
    simp only [step] at h
    split_ifs at h with hm
    obtain ⟨ch', ht, rfl⟩ := settle_eq_some.1 h
    obtain ⟨_, _, pdu, a, req, ho, hf, hb, hseq, hmt, hid⟩ :=
      (AlarmChannel.onFrame_step ht).acked_mem ha
    cases ho
    exact ⟨frame, now, pdu.header, a, req, rfl, hm, alarmAckOf_of_readFrom hf hb, hseq, hmt, hid⟩

/-- **An alarm is completed by its own Alarm-Ack**: in every run in which no stale Alarm-Ack
arrives, `Acked` is emitted for an id only when the peer has received and acknowledged the
notification of that id. -/
theorem acked_by_peer {cfg : AlarmChannelConfig} {r r' : AlarmRun} {i : AlarmInput}
    {acts : List AlarmAction} {id : UInt32} {status : PnioStatus}
    (hr : (alarmSystem cfg).ReachWhen NoStaleAck r) (hg : NoStaleAck r i)
    (h : r.step i = some (r', acts)) (ha : .acked id status ∈ acts) : PeerAcknowledged r id := by
  have hi := alarmInv_reach hr.reach
  obtain ⟨frame, now, hd, a, req, rfl, harr, hack, hseq, hm, hid⟩ := AlarmRun.step_acked h ha
  have hreq := AlarmChannel.req_of_matchesInFlight hm
  have hspec := hg _ hack hseq req hm
  -- the peer sent this Alarm-Ack for a notification of some enqueued request
  obtain ⟨⟨n, frame'⟩, hp, rfl⟩ := List.mem_map.1 (harr (by rw [hack]; exact Option.some_ne_none _))
  obtain ⟨hrec, hd', a', hack', hecho⟩ := hi.answered _ hp
  rw [← hi.config, hack] at hack'
  cases hack'
  obtain ⟨req', hreq', hreads⟩ := hi.received n hrec
  have hin : req ∈ r.enqueued := hi.tracked.inFlight req hreq
  -- the specifier identifies the request
  have hsame : req'.sequence = req.sequence := by
    refine AlarmReq.sequence_eq_of_specifier ((hi.stamped _ hreq').trans hi.stamps)
      ((hi.stamped _ hin).trans hi.stamps) ?_
    rw [← hreads.specifier, ← hspec]
    exact hecho.2.2.2.symm
  rw [hi.distinct _ hreq' _ hin hsame] at hreads
  exact ⟨req, hreq, hid, _, hp, hrec, hreads⟩

/-! ### A late Alarm-Ack -/

namespace AlarmDemo

/-- The notification as the peer reads it. -/
def stampedNotification (sequence : UInt16) : AlarmNotification :=
  ((alarm 0).stamped sequence).notification

/-- The first alarm is sent and reaches the peer. -/
def firstDelivered : List AlarmInput :=
  [.enqueue (alarm 1) 0, .peerReceives (dataFrame cfg ((alarm 1).stamped 0) seqInit seqNone)]

/-- Delivering `frame` completes the alarm `id`. -/
def completes (frame : Bytes) (id : UInt32) (r : AlarmRun) : Bool :=
  match r.step (.deliver frame 2000) with
  | some (_, acts) => decide (.acked id ⟨0⟩ ∈ acts)
  | none => false

lemma completes_spec {frame : Bytes} {id : UInt32} {r : AlarmRun}
    (h : completes frame id r = true) :
    ∃ r' acts, r.step (.deliver frame 2000) = some (r', acts) ∧ .acked id ⟨0⟩ ∈ acts := by
  unfold completes at h
  split at h
  · rename_i r' acts hs
    exact ⟨r', acts, hs, of_decide_eq_true h⟩
  · cases h

end AlarmDemo

open AlarmDemo

/-- The plain case: the alarm reaches the peer, whose Alarm-Ack completes it. -/
theorem acked_first_alarm :
    ∃ r r' acts, (alarmSystem AlarmDemo.cfg).ReachWhen NoStaleAck r ∧
      NoStaleAck r (.deliver (peerAck 0) 2000) ∧
      r.step (.deliver (peerAck 0) 2000) = some (r', acts) ∧ .acked 1 ⟨0⟩ ∈ acts ∧
      PeerAcknowledged r 1 := by
  have hrun : ((alarmSystem AlarmDemo.cfg).runWhen NoStaleAck (.start AlarmDemo.cfg)
      (firstDelivered ++ [.peerAcks (stampedNotification 0) (peerAck 0)])).any
      (fun r => completes (peerAck 0) 1 r && decide (NoStaleAck r (.deliver (peerAck 0) 2000))) =
      true := by
    decide +kernel
  obtain ⟨r, hr, hp⟩ := System.exists_reachWhen_of_run (S := alarmSystem AlarmDemo.cfg) rfl hrun
  simp only [Bool.and_eq_true, decide_eq_true_eq] at hp
  obtain ⟨r', acts, hs, ha⟩ := completes_spec hp.1
  exact ⟨r, r', acts, hr, hp.2, hs, ha, acked_by_peer hr hp.2 hs ha⟩

/-- The first alarm reaches the peer and is dropped for want of an Alarm-Ack; its Alarm-Ack then
arrives while the second one is in flight, which never reached the peer, and completes it. -/
theorem late_ack_completes_next_alarm :
    ¬ ∀ (cfg : AlarmChannelConfig) (r r' : AlarmRun) (i : AlarmInput) (acts : List AlarmAction)
        (id : UInt32) (status : PnioStatus), (alarmSystem cfg).Reach r →
        r.step i = some (r', acts) → .acked id status ∈ acts → PeerAcknowledged r id := by
  intro hall
  have hrun : ((alarmSystem AlarmDemo.cfg).run (.start AlarmDemo.cfg)
      (firstDelivered ++ [.deliver (peerFrame .ack 0 0xFFFF []) 10, .tick 1010,
        .enqueue (alarm 2) 1020, .peerAcks (stampedNotification 0) (peerAck 0)])).any
      (fun r => completes (peerAck 0) 2 r && decide (∀ req ∈ r.ch.state.req, ∀ p ∈ r.answered,
        parseNotification req.notification.body ≠ .ok p.1)) = true := by
    decide +kernel
  obtain ⟨r, hr, hp⟩ := System.exists_reach_of_run (S := alarmSystem AlarmDemo.cfg) rfl hrun
  simp only [Bool.and_eq_true, decide_eq_true_eq] at hp
  obtain ⟨r', acts, hs, ha⟩ := completes_spec hp.1
  obtain ⟨req, hreq, -, p, hpm, -, hreads⟩ := hall _ r r' _ acts 2 ⟨0⟩ hr hs ha
  exact hp.2 req hreq p hpm hreads

end Pnio
