import Pnio.DcpReply
import Pnio.DeviceLife

/-!
Which parts of the device send an ERR-RTA: the announcement of an abort while a channel is open,
and nothing else.
-/

namespace Pnio

/-! ### ERR-RTA frames -/

/-- The PDU of an ERR-RTA frame. -/
def errRtaOf (frame : Bytes) : Option RtaPdu :=
  (parseFrame frame).toOption.filter (·.header.pduType = .err)

/-- The Ethernet frame that goes out. -/
def Obs.sentFrame : Obs → Option Bytes
  | ethSent frame => some frame
  | performed _ (.send frame) => some frame
  | _ => none

/-- The ERR-RTA frames that went out. -/
def errRtasOf (log : List Obs) : List Bytes :=
  (log.filterMap Obs.sentFrame).filter fun frame => (errRtaOf frame).isSome

section Frames

variable {ε : Type} {frame : Bytes}

lemma errRtaOf_around {h : RtaHeader} (hty : h.pduType ≠ .err) (dst src : MacAddr) (p : Priority)
    (v : Bytes) : errRtaOf (frameAround dst src p h v) = none := by
  rw [errRtaOf, parseFrame_around]
  cases parseBody h.pduType (v.take (v.length % 65536)) with
  | ok body =>
    refine (Option.filter_eq_none_iff).2 fun pdu hpdu => ?_
    cases hpdu
    simpa using hty
  | err e => rfl
  | panic k => rfl

lemma errRtaOf_dataFrame (cfg : AlarmChannelConfig) (req : AlarmReq) (seq ackSeq : UInt16) :
    errRtaOf (dataFrame cfg req seq ackSeq) = none :=
  errRtaOf_around (show PduType.data ≠ .err by decide) _ _ _ _

lemma errRtaOf_ackFrame (ch : AlarmChannel) (priority : Priority) (seq : UInt16) :
    errRtaOf (ch.ackFrame priority seq) = none :=
  errRtaOf_around (show PduType.ack ≠ .err by decide) _ _ _ _

/-- The ERR-RTA of a channel carries the status and the counters of the channel. -/
lemma errRtaOf_errRta {ch : AlarmChannel} {status : PnioStatus}
    (h : (ch.errRta status : Res ε _) = .ok frame) :
    errRtaOf frame = some (ch.pdu .low .err ch.lastRxSeq (.err status)) := by
  cases h
  have hbody : parseBody .err ((be32 status.val).take ((be32 status.val).length % 65536)) =
      .ok (.err status) := by
    rw [length_be32, List.take_of_length_le (by simp)]
    simp only [parseBody, length_be32, u32At_be32_end, Res.ok_bind]
    rfl
  rw [errRtaOf, parseFrame_around]
  dsimp only [AlarmChannel.pdu]
  rw [hbody]
  rfl

/-- A DCP answer has another FrameID. -/
lemma errRtaOf_buildResponse (dst src : MacAddr) (frameId : FrameId) (serviceId : ServiceId)
    (xid : UInt32) (blocks : List DcpBlock) :
    errRtaOf (buildResponse dst src frameId serviceId xid blocks) = none := by
  have heth : EthHeader.parse (buildResponse dst src frameId serviceId xid blocks) =
      .ok (⟨dst, src, none, ethertypeProfinet⟩, 14) := by
    simp only [buildResponse, List.append_assoc]
    exact EthHeader.parse_write_untagged (by decide)
  have hid : (u16At (buildResponse dst src frameId serviceId xid blocks) 14 : Res RtaError _) =
      .ok frameId.toU16 := by
    simp (disch := simp) [buildResponse, u16At_append_right, List.append_assoc]
  have hnot : Priority.fromFrameId frameId.toU16 = .err .notAlarm := by
    cases frameId <;> rfl
  have hfail : parseFrame (buildResponse dst src frameId serviceId xid blocks) =
      .err .notAlarm ∨ parseFrame (buildResponse dst src frameId serviceId xid blocks) =
      .err .tooShort := by
    unfold parseFrame
    rw [heth, Res.mapErr_ok, Res.ok_bind]
    dsimp only
    rw [Res.reject_of_not (by simp), Res.ok_bind]
    by_cases hlen : (buildResponse dst src frameId serviceId xid blocks).length < 14 + 2
    · right
      simp [Res.reject, hlen]
    · left
      rw [Res.reject_of_not hlen, Res.ok_bind, hid, Res.ok_bind, hnot]
      rfl
  rcases hfail with h | h <;> rw [errRtaOf, h] <;> rfl

lemma errRtaOf_dcp {cfg : DcpConfig} {out : Bytes} (h : handleDcpFrame frame cfg = .ok (some out)) :
    errRtaOf out = none := by
  cases handleDcpFrame_answer h with
  | identify eth rest xid payload reply =>
    rw [reply]
    exact errRtaOf_buildResponse _ _ _ _ _ _
  | set eth rest xid blocks req payload parsed read reply =>
    rw [reply]
    exact errRtaOf_buildResponse _ _ _ _ _ _

lemma errRtasOf_append (a b : List Obs) : errRtasOf (a ++ b) = errRtasOf a ++ errRtasOf b := by
  rw [errRtasOf, List.filterMap_append, List.filter_append, ← errRtasOf, ← errRtasOf]

lemma errRtasOf_eq_nil {obs : List Obs}
    (h : ∀ o ∈ obs, ∀ frame, o.sentFrame = some frame → errRtaOf frame = none) :
    errRtasOf obs = [] := by
  refine List.filter_eq_nil_iff.2 fun f hf => ?_
  obtain ⟨o, ho, hof⟩ := List.mem_filterMap.1 hf
  rw [h o ho f hof]
  decide

end Frames

/-! ### The frames of a channel -/

namespace AlarmChannel

/-- The frame that may be sent again is no ERR-RTA. -/
def Clean (ch : AlarmChannel) : Prop :=
  ∀ req seq frame deadline, ch.state = .sentData req seq frame deadline → errRtaOf frame = none

/-- No ERR-RTA is among what the channel asks for. -/
def CleanActs (acts : List AlarmAction) : Prop :=
  ∀ frame, .send frame ∈ acts → errRtaOf frame = none

variable {ch ch' : AlarmChannel} {acts : List AlarmAction} {now : Instant}

lemma Clean.of_state (h : ch.Clean) (hs : ch'.state = ch.state) : ch'.Clean := by
  intro req seq frame deadline hst
  exact h req seq frame deadline (hs ▸ hst)

lemma clean_idle (h : ch.state = .idle) : ch.Clean := by
  intro req seq frame deadline hst
  rw [h] at hst
  cases hst

lemma clean_awaiting {req : AlarmReq} {deadline : Instant}
    (h : ch.state = .awaitAlarmAck req deadline) : ch.Clean := by
  intro req' seq frame deadline' hst
  rw [h] at hst
  cases hst

lemma cleanActs_nil : CleanActs [] := fun _ hm => absurd hm (List.not_mem_nil)

lemma Started.clean (h : Started now ch ch' acts) (hc : ch.Clean) :
    ch'.Clean ∧ CleanActs acts := by
  cases h with
  | nothing => exact ⟨hc, cleanActs_nil⟩
  | sent hs hq =>
    refine ⟨fun req seq frame deadline hst => ?_, fun frame hm => ?_⟩
    · cases hst
      exact errRtaOf_dataFrame _ _ _ _
    · cases List.mem_singleton.1 hm
      exact errRtaOf_dataFrame _ _ _ _

/-- **A channel sends no ERR-RTA of its own accord.** -/
lemma Step.clean {o : Op} (h : Step ch o ch' acts) (hc : ch.Clean) :
    ch'.Clean ∧ CleanActs acts := by
  have hack : ∀ {p : Priority} {seq : UInt16} {rest : List AlarmAction}, CleanActs rest →
      CleanActs (.send (ch.ackFrame p seq) :: rest) := by
    intro p seq rest hrest frame hm
    rcases List.mem_cons.1 hm with hm | hm
    · cases hm
      exact errRtaOf_ackFrame _ _ _
    · exact hrest frame hm
  have hskip : ∀ {a : AlarmAction} {rest : List AlarmAction}, (∀ frame, a ≠ .send frame) →
      CleanActs rest → CleanActs (a :: rest) := by
    intro a rest ha hrest frame hm
    rcases List.mem_cons.1 hm with hm | hm
    · exact absurd hm.symm (ha frame)
    · exact hrest frame hm
  cases h with
  | enqueued hfit h => exact h.clean (hc.of_state rfl)
  | unusable => exact ⟨hc.of_state rfl, hskip nofun cleanActs_nil⟩
  | delivered hf hb hs => exact ⟨clean_awaiting rfl, cleanActs_nil⟩
  | strayAck hf hb hs => exact ⟨hc.of_state rfl, cleanActs_nil⟩
  | duplicate hf hb hseq => exact ⟨hc, hack cleanActs_nil⟩
  | acked hf hb hseq hm h =>
    obtain ⟨hch, hacts⟩ := h.clean (clean_idle rfl)
    exact ⟨hch, hack (hskip nofun hacts)⟩
  | otherData hf hb hseq hm => exact ⟨hc.of_state rfl, hack (hskip nofun cleanActs_nil)⟩
  | errRta hf hb => exact ⟨clean_idle rfl, hskip nofun cleanActs_nil⟩
  | early h => exact ⟨hc, cleanActs_nil⟩
  | resent hs hd ha =>
    have hframe := hc _ _ _ _ hs
    refine ⟨fun req seq frame deadline hst => ?_, fun frame hm => ?_⟩
    · cases hst
      exact hframe
    · cases List.mem_singleton.1 hm
      exact hframe
  | gaveUp hs hd ha => exact ⟨clean_idle rfl, hskip nofun cleanActs_nil⟩
  | dropped hs hd h => exact h.clean (clean_idle rfl)

end AlarmChannel

/-! ### What sends no ERR-RTA -/

namespace Device

/-- The channel that is open would send no ERR-RTA again. -/
def Clean (d : Device) : Prop := ∀ ch, d.alarm = some ch → ch.Clean

/-- The device goes on without an ERR-RTA. -/
def Calm (d d' : Device) : Prop :=
  d.Clean → d'.Clean ∧ ∃ obs, d'.log = d.log ++ obs ∧ errRtasOf obs = []

section Calm

variable {ε : Type} {d d1 d' : Device} {now : Instant} {spawns : Bool}

lemma Calm.of_same (ha : d'.alarm = d.alarm) (hl : d'.log = d.log) : Calm d d' :=
  fun h => ⟨fun ch hch => h ch (ha ▸ hch), [], by rw [hl, List.append_nil], rfl⟩

lemma Calm.refl (d : Device) : Calm d d := .of_same rfl rfl

lemma Calm.trans (h : Calm d d1) (h' : Calm d1 d') : Calm d d' := by
  intro hc
  obtain ⟨hc1, obs, hlog, hno⟩ := h hc
  obtain ⟨hc', obs', hlog', hno'⟩ := h' hc1
  refine ⟨hc', obs ++ obs', by rw [hlog', hlog, List.append_assoc], ?_⟩
  rw [errRtasOf_append, hno, hno', List.append_nil]

/-- Something is noted that is no ERR-RTA. -/
lemma calm_note {o : Obs} (h : ∀ frame, o.sentFrame = some frame → errRtaOf frame = none) :
    Calm d (d.note o) := by
  refine fun hc => ⟨hc, [o], rfl, errRtasOf_eq_nil fun o' ho' => ?_⟩
  rw [List.mem_singleton.1 ho']
  exact h

lemma calm_foldl {α : Type} {f : Device → α → Device} (l : List α) (h : ∀ d a, Calm d (f d a)) :
    Calm d (l.foldl f d) := by
  induction l generalizing d with
  | nil => exact .refl d
  | cons a l ih => exact (h d a).trans ih

lemma calm_foldlM {α : Type} {f : Device → α → Res ε Device} {l : List α}
    (h : ∀ d a d', f d a = .ok d' → Calm d d') (hf : l.foldlM f d = .ok d') : Calm d d' :=
  Res.foldlM_inv (I := Calm d) (fun d1 a d2 h1 h2 => h1.trans (h d1 a d2 h2)) (.refl d) hf

lemma calm_stats (d : Device) : Calm d d.publishAlarmStats := by
  unfold publishAlarmStats
  split
  · exact .of_same rfl rfl
  · exact .refl d

/-- A notification: what it makes the channel send is no ERR-RTA. -/
lemma queueNotification_calm {n : AlarmNotification} {acts : List AlarmAction} (hc : d.Clean)
    (h : (d.queueNotification n now : Res ε _) = .ok (d', acts)) :
    Calm d d' ∧ AlarmChannel.CleanActs acts := by
  unfold queueNotification at h
  split at h
  · cases h
    exact ⟨.refl d, AlarmChannel.cleanActs_nil⟩
  · rename_i ch hch
    dsimp only at h
    have hch' : ch.nextSpecifierSequence.2.Clean := (hc ch hch).of_state rfl
    obtain ⟨r, hr, h⟩ := Res.bind_eq_ok.1 h
    rcases Res.attempt_eq_ok.1 hr with ⟨⟨ch', acts'⟩, he, rfl⟩ | ⟨e, he, rfl⟩
    · cases h
      obtain ⟨hclean, hacts⟩ := (AlarmChannel.op_step (o := .enqueue _ now) he).clean hch'
      refine ⟨fun _ => ⟨fun c hc' => ?_, _, rfl, rfl⟩, hacts⟩
      cases hc'
      exact hclean
    · cases h
      refine ⟨fun _ => ⟨fun c hc' => ?_, [], (List.append_nil _).symm, rfl⟩,
        AlarmChannel.cleanActs_nil⟩
      cases hc'
      exact hch'

/-- Actions without an abort. -/
lemma perform_calm {abort : AbortReason → Device → Res ε Device} {p : Nat}
    {acts : List AlarmAction} (hacts : AlarmChannel.CleanActs acts) (ha : ∀ r, .abort r ∉ acts)
    (h : acts.foldlM (perform abort p) d = .ok d') : Calm d d' := by
  induction acts generalizing d with
  | nil =>
    cases h
    exact .refl _
  | cons a acts ih =>
    rw [List.foldlM_cons] at h
    obtain ⟨d1, h1, h⟩ := Res.bind_eq_ok.1 h
    have hrest := ih (fun f hf => hacts f (List.mem_cons_of_mem a hf))
      (fun r hr => ha r (List.mem_cons_of_mem a hr)) h
    refine Calm.trans ?_ hrest
    cases a with
    | abort r => exact absurd List.mem_cons_self (ha r)
    | send frame =>
      cases h1
      refine calm_note fun f hf => ?_
      cases hf
      exact hacts frame List.mem_cons_self
    | acked id status =>
      cases h1
      exact calm_note nofun
    | unexpectedRx =>
      cases h1
      exact calm_note nofun

lemma applyAlarmActions_calm {abort : AbortReason → Device → Res ε Device} {b : Batch}
    (hacts : AlarmChannel.CleanActs b.actions) (ha : ∀ r, .abort r ∉ b.actions)
    (h : applyAlarmActions abort b d = .ok d') : Calm d d' := by
  unfold applyAlarmActions at h
  split_ifs at h
  · cases h
    exact .refl d
  · obtain ⟨d1, h1, h⟩ := Res.bind_eq_ok.1 h
    cases h
    exact (perform_calm hacts ha h1).trans (calm_stats d1)

lemma replayOne_calm {abort : AbortReason → Device → Res ε Device} {tag : Batch}
    {n : AlarmNotification} (h : replayOne abort now tag d n = .ok d') : Calm d d' := by
  intro hc
  obtain ⟨⟨d1, acts⟩, hq, h⟩ := Res.bind_eq_ok.1 h
  obtain ⟨hcalm, hacts⟩ := queueNotification_calm hc hq
  have hsends : ∀ r, .abort r ∉ acts := by
    intro r hr
    cases queueNotification_queued hq with
    | dropped ht hno => cases hr
    | queued ho ht ha =>
      obtain ⟨frame, hf⟩ := ha _ hr
      cases hf
  have happly : Calm d1 d' :=
    applyAlarmActions_calm (b := { tag with actions := acts }) hacts hsends h
  exact hcalm.trans happly hc

lemma startRunner_calm (h : (d.startRunner spawns : Res ε _) = .ok d') : Calm d d' := by
  unfold startRunner at h
  by_cases hrt : d.setup.rt
  · rw [if_pos hrt] at h
    split at h
    · cases h
      exact .refl d
    · obtain ⟨r, -, h⟩ := Res.bind_eq_ok.1 h
      cases r with
      | ok layout =>
        cases h
        exact .of_same rfl rfl
      | error e =>
        cases h
        exact .refl d
  · rw [if_neg hrt] at h
    cases h
    exact .refl d

lemma openAlarmChannel_calm (d : Device) : Calm d d.openAlarmChannel := by
  unfold openAlarmChannel
  split
  · exact .refl d
  · refine fun _ => ⟨fun ch hch => ?_, _, rfl, rfl⟩
    cases hch
    exact AlarmChannel.clean_idle rfl

lemma lost_calm (d : Device) : Calm d d.stopRunner.closeAlarmChannel := by
  have hnone : d.stopRunner.closeAlarmChannel.alarm = none := rfl
  refine fun _ => ⟨fun ch hch => ?_, [.closed], ?_, rfl⟩
  · rw [hnone] at hch
    cases hch
  unfold stopRunner
  split <;> rfl

lemma notified_calm {abort : AbortReason → Device → Res ε Device} {n : ArState × Option AbortReason}
    (h : notified abort now spawns d n = .ok d') : Calm d d' := by
  have hnote : Calm d (d.note (.callback n.1 n.2)) := calm_note nofun
  refine hnote.trans ?_
  unfold notified at h
  split at h
  · obtain ⟨d2, h2, h⟩ := Res.bind_eq_ok.1 h
    obtain ⟨d3, h3, h⟩ := Res.bind_eq_ok.1 h
    cases h
    have hreplay := calm_foldlM (fun _ _ _ => replayOne_calm) h3
    exact ((startRunner_calm h2).trans (openAlarmChannel_calm d2)).trans
      (hreplay.trans (.of_same rfl rfl))
  · cases h
    exact lost_calm _
  · cases h
    exact .refl _

/-- **What the context manager asks for never is an ERR-RTA.** -/
lemma dispatch_calm {abort : AbortReason → Device → Res ε Device} {out : CmOutput}
    (h : dispatch abort now spawns out d = .ok d') : Calm d d' := by
  have hsend : ∀ (d : Device) (o : Outgoing), Calm d (d.sendRpc o) := fun d o =>
    (calm_note (o := .rpcSent o) nofun).trans (.of_same rfl rfl)
  exact (calm_foldl out.send hsend).trans (calm_foldlM (fun _ _ _ => notified_calm) h)

end Calm

/-! ### The abort -/

/-- What a channel says before it is torn down for this reason: one ERR-RTA with the code of the
reason and the counters of the channel, or nothing. -/
def Says (ch : AlarmChannel) (reason : AbortReason) (said : List Obs) : Prop :=
  match errRtaCode2 reason with
  | none => said = []
  | some code2 =>
    ∃ frame, (ch.errRta (PnioStatus.rtaAbort code2) : Res Empty _) = .ok frame ∧
      said = [.ethSent frame] ∧
      errRtaOf frame = some (ch.pdu .low .err ch.lastRxSeq (.err (PnioStatus.rtaAbort code2)))

/-- The end of a period in `Data` by an abort: the channel says why, then the callback comes. -/
structure Announced (d : Device) (reason : AbortReason) (d' : Device) (obs : List Obs) : Prop where
  idle : d'.cm.ar.state = .idle
  said : ∃ ch pre said, d.alarm = some ch ∧ Says ch reason said ∧ errRtasOf pre = [] ∧
    obs = pre ++ said ++ [.callback .idle (some reason), .closed]

section Abort

variable {d d' : Device} {now : Instant} {spawns : Bool} {depth : Nat} {r : AbortReason}

lemma announceAbort_words {ch : AlarmChannel} (hch : d.alarm = some ch)
    (h : (d.announceAbort r : Res Empty _) = .ok d') :
    ∃ said, Says ch r said ∧ Talks d d' said := by
  unfold announceAbort at h
  unfold Says
  rw [hch] at h
  cases hcode : errRtaCode2 r with
  | none =>
    rw [hcode] at h
    cases h
    exact ⟨[], rfl, .refl d⟩
  | some code2 =>
    rw [hcode] at h
    obtain ⟨frame, hframe, h⟩ := Res.bind_eq_ok.1 h
    cases h
    exact ⟨_, ⟨frame, hframe, rfl, errRtaOf_errRta hframe⟩, .note d _⟩

/-- Without a channel nothing is said. -/
lemma announceAbort_closed (hch : d.alarm = none) :
    (d.announceAbort r : Res Empty _) = .ok d := by
  unfold announceAbort
  rw [hch]
  cases errRtaCode2 r <;> rfl

lemma lostBy_calm (d : Device) (r : AbortReason) : Calm d (d.lostBy r) := by
  refine fun _ => ⟨fun ch hch => ?_, _, lostBy_log d r, rfl⟩
  rw [lostBy_alarm] at hch
  cases hch

/-- An abort where no AR is in `Data`. -/
lemma abortWithErrRta_calm (hch : d.alarm = none)
    (h : (abortWithErrRta (depth + 1) now spawns r d : Res Empty _) = .ok d') : Calm d d' := by
  rw [abortWithErrRta_eq, announceAbort_closed hch, Res.ok_bind] at h
  cases h
  split_ifs
  · exact .refl d
  · exact (Calm.of_same rfl rfl : Calm d { d with cm := { d.cm with ar := d.cm.ar.dropped } }).trans
      (lostBy_calm _ r)

lemma abortWithErrRta_announced (hopen : d.alarm.isSome) (hstate : d.cm.ar.state = .data)
    (h : (abortWithErrRta (depth + 1) now spawns r d : Res Empty _) = .ok d') :
    ∃ obs, d'.log = d.log ++ obs ∧ Announced d r d' obs ∧ d'.alarm = none := by
  obtain ⟨ch, hch⟩ := Option.isSome_iff_exists.1 hopen
  rw [abortWithErrRta_eq] at h
  obtain ⟨d1, hsay, h⟩ := Res.bind_eq_ok.1 h
  obtain ⟨said, hwords, ht⟩ := announceAbort_words hch hsay
  rw [if_neg (by rw [ht.cm, hstate]; decide)] at h
  cases h
  refine ⟨said ++ [.callback .idle (some r), .closed], ?_, ⟨?_, ?_⟩, ?_⟩
  · rw [Device.aborted, lostBy_log]
    dsimp only
    rw [ht.log, List.append_assoc]
  · rw [aborted_cm]
    rfl
  · exact ⟨ch, [], said, hch, hwords, rfl, rfl⟩
  · rw [Device.aborted, lostBy_alarm]

end Abort

end Device

end Pnio
