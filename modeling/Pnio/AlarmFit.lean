import Pnio.AlarmOrder
import Pnio.RtaSpec

/-!
The length guard of `enqueue` against the length fields of the frame.

Every DATA frame a channel transmits is that of an alarm it accepted. The guard counts the block
from its version on, while the variable part of the frame has the block's type and length in front
of that: for the largest negotiated limits an alarm passes whose frame cannot be read.
-/

namespace Pnio

/-! ### What a channel transmits -/

namespace AlarmChannel

variable {ch ch' : AlarmChannel} {now : Instant} {acts : List AlarmAction} {c : ChannelCall}
  {reply : ChannelReply} {o : Op}

/-- The alarm waits or is in flight. -/
def Holds (ch : AlarmChannel) (req : AlarmReq) : Prop :=
  req ∈ ch.queue ∨ ch.state.req = some req

/-- The DATA frames are those of alarms in `Q`. -/
def DataOf (cfg : AlarmChannelConfig) (Q : AlarmReq → Prop) (acts : List AlarmAction) : Prop :=
  ∀ frame ∈ (sentFrames acts).filter isDataRta, ∃ req, Q req ∧ Carries cfg req frame

lemma dataOf_none {cfg : AlarmChannelConfig} {Q : AlarmReq → Prop}
    (h : (sentFrames acts).filter isDataRta = []) : DataOf cfg Q acts := by
  intro frame hm
  rw [h] at hm
  cases hm

lemma Started.holds (h : Started now ch ch' acts) :
    (∀ req, ch'.Holds req → ch.Holds req) ∧ DataOf ch.cfg ch.Holds acts := by
  cases h with
  | nothing hn => exact ⟨fun _ h => h, dataOf_none rfl⟩
  | @sent req queue hs hq =>
    have hreq : ch.Holds req := .inl (by rw [hq]; exact List.mem_cons_self)
    refine ⟨fun q h => ?_, fun frame hm => ?_⟩
    · rcases h with h | h
      · exact .inl (by rw [hq]; exact List.mem_cons_of_mem _ h)
      · cases h
        exact hreq
    · have hm' := (List.mem_filter.1 hm).1
      rw [sentFrames_send, sentFrames_nil, List.mem_singleton] at hm'
      exact ⟨req, hreq, _, _, hm'⟩

/-- What an operation leaves in the channel was there or is new, and so is what it transmits. -/
lemma Step.holds (hfr : ch.Framed) (h : Step ch o ch' acts) :
    (∀ req, ch'.Holds req → ch.Holds req ∨ ∃ now, o = .enqueue req now) ∧
      DataOf ch.cfg (fun req => ch.Holds req ∨ ∃ now, o = .enqueue req now) acts := by
  cases h with
  | @enqueued req now ch' acts hfit h =>
    obtain ⟨hkeep, hdata⟩ := h.holds
    have hnew : ∀ q, AlarmChannel.Holds { ch with queue := ch.queue ++ [req] } q →
        ch.Holds q ∨ ∃ now', Op.enqueue req now = .enqueue q now' := by
      rintro q (h | h)
      · rcases List.mem_append.1 h with h | h
        · exact .inl (.inl h)
        · rw [List.mem_singleton.1 h]
          exact .inr ⟨now, rfl⟩
      · exact .inl (.inr h)
    refine ⟨fun q h => hnew q (hkeep q h), fun frame hm => ?_⟩
    obtain ⟨q, hq, hcarry⟩ := hdata frame hm
    exact ⟨q, hnew q hq, hcarry⟩
  | unusable => exact ⟨fun _ h => .inl h, dataOf_none rfl⟩
  | @delivered frame bytes now deadline pdu req hf hb hs =>
    refine ⟨fun q h => .inl ?_, dataOf_none rfl⟩
    rcases h with h | h
    · exact .inl h
    · cases h
      exact .inr (by rw [hs]; rfl)
  | strayAck hf hb hs => exact ⟨fun _ h => .inl h, dataOf_none rfl⟩
  | duplicate hf hb hseq =>
    exact ⟨fun _ h => .inl h, dataOf_none (filter_ackFrame ..)⟩
  | @acked frame now pdu a req ch' acts hf hb hseq hm h =>
    obtain ⟨hkeep, hdata⟩ := h.holds
    have hold : ∀ q, AlarmChannel.Holds (ch.accepted pdu.header.sendSeq).completed q →
        ch.Holds q := by
      rintro q (h | h)
      · exact .inl h
      · cases h
    refine ⟨fun q h => .inl (hold q (hkeep q h)), fun frame hm => ?_⟩
    rw [sentFrames_send, sentFrames_acked, filter_ackFrame] at hm
    obtain ⟨q, hq, hcarry⟩ := hdata frame hm
    exact ⟨q, .inl (hold q hq), hcarry⟩
  | otherData hf hb hseq hm =>
    exact ⟨fun _ h => .inl h, dataOf_none (filter_ackFrame ..)⟩
  | errRta hf hb =>
    refine ⟨?_, dataOf_none rfl⟩
    rintro q (h | h)
    · cases h
    · cases h
  | early h => exact ⟨fun _ h => .inl h, dataOf_none rfl⟩
  | @resent now deadline req seq frame hs hd ha =>
    have hreq : ch.Holds req := .inr (by rw [hs]; rfl)
    refine ⟨?_, fun frame' hm => ⟨req, .inl hreq, ?_⟩⟩
    · rintro q (h | h)
      · exact .inl (.inl h)
      · cases h
        exact .inl hreq
    · have hm' := (List.mem_filter.1 hm).1
      rw [sentFrames_send, sentFrames_nil, List.mem_singleton] at hm'
      obtain ⟨-, ackSeq, hframe⟩ := hfr _ _ _ _ hs
      exact ⟨seq, ackSeq, hm'.trans hframe⟩
  | gaveUp hs hd ha =>
    refine ⟨?_, dataOf_none rfl⟩
    rintro q (h | h)
    · cases h
    · cases h
  | dropped hs hd h =>
    obtain ⟨hkeep, hdata⟩ := h.holds
    have hold : ∀ q, AlarmChannel.Holds ch.gaveUpAck q → ch.Holds q := by
      rintro q (h | h)
      · exact .inl h
      · cases h
    refine ⟨fun q h => .inl (hold q (hkeep q h)), fun frame hm => ?_⟩
    obtain ⟨q, hq, hcarry⟩ := hdata frame hm
    exact ⟨q, .inl (hold q hq), hcarry⟩

end AlarmChannel

/-! ### The law of a run -/

/-- The alarms accepted in a history. -/
def acceptedIn (log : List ChannelTurn) : List AlarmReq := log.flatMap (·.accepts)

/-- What a channel holds and has transmitted are alarms it accepted, each within the guard. -/
structure Serves (ch : AlarmChannel) (log : List ChannelTurn) : Prop where
  holds : ∀ req, ch.Holds req → req ∈ acceptedIn log
  sent : ∀ u ∈ log, ∀ frame ∈ u.datas, ∃ req ∈ acceptedIn log, Carries ch.cfg req frame
  fits : ∀ req ∈ acceptedIn log, notificationFixedLen + dataLen req.notification.data ≤
    ch.cfg.maxAlarmDataLength.toNat

section Serves

variable {ch ch' : AlarmChannel} {log : List ChannelTurn} {c : ChannelCall} {reply : ChannelReply}

lemma acceptedIn_snoc (log : List ChannelTurn) (u : ChannelTurn) :
    acceptedIn (log ++ [u]) = acceptedIn log ++ u.accepts := by
  rw [acceptedIn, List.flatMap_append, List.flatMap_singleton]
  rfl

/-- A call that transmits nothing and takes nothing in. -/
lemma Serves.quiet (h : Serves ch log) (hcfg : ch'.cfg = ch.cfg)
    (hh : ∀ req, ch'.Holds req → ch.Holds req) {u : ChannelTurn}
    (hu : u.accepts = [] ∧ u.datas = []) : Serves ch' (log ++ [u]) := by
  have hacc : acceptedIn (log ++ [u]) = acceptedIn log := by
    rw [acceptedIn_snoc, hu.1, List.append_nil]
  refine ⟨?_, ?_, ?_⟩
  · intro req hr
    rw [hacc]
    exact h.holds req (hh req hr)
  · intro v hv frame hf
    rw [hacc, hcfg]
    rcases List.mem_append.1 hv with hv | hv
    · exact h.sent v hv frame hf
    · rw [List.mem_singleton.1 hv, hu.2] at hf
      cases hf
  · rw [hacc, hcfg]
    exact h.fits

lemma Serves.step (hg : ch.Good) (h : Serves ch log) (hc : AlarmChannel.Called ch c ch' reply) :
    Serves ch' (log ++ [⟨ch, c, ch', reply⟩]) := by
  cases hc with
  | @op o _ acts hop =>
    have hstep := AlarmChannel.op_step hop
    obtain ⟨hkeep, hdata⟩ := hstep.holds hg.framed
    have hcfg := hstep.frame.1
    have hnew : ∀ req, (ch.Holds req ∨ ∃ now, o = .enqueue req now) →
        req ∈ acceptedIn (log ++ [⟨ch, .op o, ch', .acts acts⟩]) := by
      intro req hr
      rw [acceptedIn_snoc]
      rcases hr with hr | ⟨now, rfl⟩
      · exact List.mem_append_left _ (h.holds req hr)
      · exact List.mem_append_right _ (List.mem_singleton_self _)
    refine ⟨fun req hr => hnew req (hkeep req hr), ?_, ?_⟩
    · intro v hv frame hf
      rw [hcfg]
      rcases List.mem_append.1 hv with hv | hv
      · obtain ⟨req, hr, hcarry⟩ := h.sent v hv frame hf
        refine ⟨req, ?_, hcarry⟩
        rw [acceptedIn_snoc]
        exact List.mem_append_left _ hr
      · rw [List.mem_singleton.1 hv] at hf
        obtain ⟨req, hr, hcarry⟩ := hdata frame hf
        exact ⟨req, hnew req hr, hcarry⟩
    · intro req hr
      rw [acceptedIn_snoc] at hr
      rw [hcfg]
      rcases List.mem_append.1 hr with hr | hr
      · exact h.fits req hr
      · cases hstep with
        | enqueued hfit _ =>
          rw [List.mem_singleton.1 hr]
          exact hfit
        | _ => cases hr
  | refused hlong =>
    refine h.quiet rfl (fun _ hr => hr) ?_
    exact ⟨rfl, rfl⟩
  | errRta status hf =>
    refine h.quiet rfl (fun _ hr => hr) ?_
    exact ⟨rfl, rfl⟩
  | specifier =>
    have hcfg : ch.nextSpecifierSequence.2.cfg = ch.cfg := rfl
    refine h.quiet hcfg (fun _ hr => hr) ?_
    exact ⟨rfl, rfl⟩

lemma reach_serves {r : ChannelRun} (h : channelSystem.Reach r) : Serves r.ch r.log := by
  refine (channel_inv (fun cfg => ?_) (fun ch log c ch' reply hg hI hc => hI.step hg hc) h).2
  refine ⟨?_, fun u hu => (by cases hu), fun req hr => (by cases hr)⟩
  rintro req (hr | hr)
  · cases hr
  · cases hr

end Serves

/-- The variable part fits its length field, and a reader gets the notification back. -/
def ReadsBack (req : AlarmReq) (frame : Bytes) : Prop :=
  (frame.drop 32).length ≤ 65535 ∧
    ∃ header, parseFrame frame = .ok ⟨req.priority, header, .data (.notification req.notification)⟩

/-- **Which alarms can be read**: of the alarms a channel accepts, the DATA frames are read back as
they should if and only if there is room for the whole block in the length field. -/
theorem accepted_reads_back_iff {r : ChannelRun} (hr : channelSystem.Reach r) :
    (∀ u ∈ r.log, ∀ frame ∈ u.datas, ∃ req ∈ acceptedIn r.log, Carries r.ch.cfg req frame) ∧
    ∀ req ∈ acceptedIn r.log, req.notification.Canonical → ∀ frame, Carries r.ch.cfg req frame →
      (ReadsBack req frame ↔ 28 + dataLen req.notification.data ≤ 65535) := by
  have hs := reach_serves hr
  refine ⟨hs.sent, ?_⟩
  rintro req hreq hcanon _ ⟨seq, ackSeq, rfl⟩
  have hdrop : ((dataFrame r.ch.cfg req seq ackSeq).drop 32).length =
      28 + dataLen req.notification.data := by
    simp [dataFrame_eq, frameAround, length_blockBytes, BlockHeader.hdrLen]
    omega
  rw [ReadsBack, hdrop]
  constructor
  · exact fun h => h.1
  · intro hfit
    refine ⟨hfit, ?_⟩
    rw [parseFrame_dataFrame hfit, parseNotification_canonical hcanon]
    exact ⟨_, rfl⟩

namespace AlarmDemo

/-- The largest limit there can be. -/
def wideCfg : AlarmChannelConfig := { cfg with maxAlarmDataLength := 65535 }

/-- An alarm with `n` bytes of its own. -/
def wideAlarm (n : Nat) : AlarmReq :=
  { alarm 1 with notification :=
    { (alarm 1).notification with data := .raw (List.replicate n 0) } }

lemma wideAlarm_canonical (n : Nat) : (wideAlarm n).notification.Canonical := by
  have hseq : (0 : UInt16) ≤ 0x7FF := by decide
  have hchannel : ¬ (1 : UInt16) = usiChannelDiag := by decide
  have hext : ¬ (1 : UInt16) = usiExtChannelDiag := by decide
  exact ⟨trivial, hseq, fun h => hchannel h.1, fun h => hext h.1⟩

lemma dataLen_wideAlarm (n : Nat) : dataLen (wideAlarm n).notification.data = n :=
  List.length_replicate

/-- Such an alarm is accepted and transmitted up to the limit. -/
lemma enqueue_wideAlarm {n : Nat} (h : n ≤ 65511) :
    ∃ ch', (AlarmChannel.new wideCfg).enqueue (wideAlarm n) 0 =
      .ok (ch', [.send (dataFrame wideCfg (wideAlarm n) seqInit seqNone)]) := by
  have hguard : ¬ (AlarmChannel.new wideCfg).cfg.maxAlarmDataLength.toNat <
      notificationFixedLen + dataLen (wideAlarm n).notification.data := by
    rw [dataLen_wideAlarm, notificationFixedLen]
    change ¬ 65535 < 24 + n
    omega
  have hbuilt : (buildDataFrame wideCfg (wideAlarm n) seqInit seqNone : Res AlarmError _) =
      .ok (dataFrame wideCfg (wideAlarm n) seqInit seqNone) := by
    refine buildDataFrame_eq_ok.2 ⟨?_, rfl⟩
    rw [UInt16.toNat_ofNat', AlarmNotification.length_body, dataLen_wideAlarm]
    omega
  rw [AlarmChannel.enqueue, Res.reject_of_not hguard, Res.ok_bind]
  have hsend : (AlarmChannel.sendNext
      { AlarmChannel.new wideCfg with queue := [] ++ [wideAlarm n] } 0 : Res AlarmError _) =
      (buildDataFrame wideCfg (wideAlarm n) seqInit seqNone >>= fun frame =>
        .ok (AlarmChannel.transmitted
          { AlarmChannel.new wideCfg with queue := [] ++ [wideAlarm n] } (wideAlarm n) [] frame 0,
          [.send frame])) := rfl
  rw [hbuilt, Res.ok_bind] at hsend
  exact ⟨_, hsend⟩

lemma reach_wideAlarm {n : Nat} (h : n ≤ 65511) :
    ∃ r frame, channelSystem.Reach r ∧ wideAlarm n ∈ acceptedIn r.log ∧
      Carries r.ch.cfg (wideAlarm n) frame := by
  obtain ⟨ch', he⟩ := enqueue_wideAlarm h
  have hcall : (AlarmChannel.new wideCfg).call (.op (.enqueue (wideAlarm n) 0)) =
      some (ch', .acts [.send (dataFrame wideCfg (wideAlarm n) seqInit seqNone)]) := by
    rw [AlarmChannel.call, AlarmChannel.op, he]
  have hstep : channelSystem.step ⟨.new wideCfg, []⟩ (.op (.enqueue (wideAlarm n) 0)) = some _ :=
    congrArg (Option.map _) hcall
  have hcfg : ch'.cfg = wideCfg := (AlarmChannel.call_called hcall).cfg
  refine ⟨_, dataFrame wideCfg (wideAlarm n) seqInit seqNone,
    .step (.init ⟨wideCfg, rfl⟩) trivial hstep, List.mem_singleton_self _, ?_⟩
  exact ⟨seqInit, seqNone, by rw [hcfg]⟩

end AlarmDemo

open AlarmDemo in
/-- An alarm at the limit of what can be read. -/
theorem accepted_reads_back_at_limit :
    ∃ r frame, channelSystem.Reach r ∧ wideAlarm 65507 ∈ acceptedIn r.log ∧
      Carries r.ch.cfg (wideAlarm 65507) frame ∧ ReadsBack (wideAlarm 65507) frame := by
  obtain ⟨r, frame, hr, hreq, hcarry⟩ := reach_wideAlarm (n := 65507) (by omega)
  have hlen := dataLen_wideAlarm 65507
  refine ⟨r, frame, hr, hreq, hcarry, ?_⟩
  have hiff := (accepted_reads_back_iff hr).2 _ hreq (wideAlarm_canonical 65507) _ hcarry
  exact hiff.2 (by omega)

open AlarmDemo in
/-- One byte more is accepted too, and its frame cannot be read. -/
theorem accepted_alarm_unreadable :
    ¬ ∀ (cfg : AlarmChannelConfig) (req : AlarmReq) (now : Instant) (ch' : AlarmChannel)
        (frame : Bytes), req.notification.Canonical →
        (AlarmChannel.new cfg).enqueue req now = .ok (ch', [.send frame]) →
        ReadsBack req frame := by
  intro hall
  obtain ⟨ch', he⟩ := enqueue_wideAlarm (n := 65508) (by omega)
  obtain ⟨-, header, hread⟩ := hall wideCfg _ 0 ch' _ (wideAlarm_canonical 65508) he
  have hlen := dataLen_wideAlarm 65508
  obtain ⟨e, hwrap⟩ : ∃ e, parseFrame (dataFrame wideCfg (wideAlarm 65508) seqInit seqNone) =
      .err e := parseFrame_wrapped (by omega) (by omega)
  cases hread.symm.trans hwrap

end Pnio
