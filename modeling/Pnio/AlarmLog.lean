import Pnio.AlarmRun
import Pnio.RtaSafe

/-!
A channel and all that was ever called on it.

The history keeps every call with the channel before and after it and with the reply, so that a
law about a whole run speaks of what was asked and what went out. `Good` is what holds of a channel
between two calls; under it every call returns.
-/

namespace Pnio

/-- What can be called on a channel. -/
inductive ChannelCall where
  | op (o : AlarmChannel.Op)
  | errRta (status : PnioStatus)
  | specifier

inductive ChannelReply where
  | acts (acts : List AlarmAction)
  | refused (e : AlarmError)
  | built (frame : Bytes)
  | number (n : UInt16)
deriving DecidableEq, Repr

namespace AlarmChannel

/-- One call; a refused alarm leaves the channel as it is. -/
def call (ch : AlarmChannel) : ChannelCall → Option (AlarmChannel × ChannelReply)
  | .op o =>
    match ch.op o with
    | .ok (ch', acts) => some (ch', .acts acts)
    | .err e => some (ch, .refused e)
    | .panic _ => none
  | .errRta status => (ch.errRta status : Res Empty _).toOption.map fun frame => (ch, .built frame)
  | .specifier => some (ch.nextSpecifierSequence.2, .number ch.nextSpecifierSequence.1)

end AlarmChannel

structure ChannelTurn where
  before : AlarmChannel
  call : ChannelCall
  after : AlarmChannel
  reply : ChannelReply

structure ChannelRun where
  ch : AlarmChannel
  log : List ChannelTurn

def channelSystem : System ChannelRun ChannelCall where
  init r := ∃ cfg, r = ⟨.new cfg, []⟩
  step r c := (r.ch.call c).map fun q => ⟨q.1, r.log ++ [⟨r.ch, c, q.1, q.2⟩]⟩

/-! ### What is on the wire -/

/-- A DATA frame. -/
def isDataRta (frame : Bytes) : Bool := (rtaHeaderOf frame).any (·.pduType = .data)

lemma isDataRta_dataFrame (cfg : AlarmChannelConfig) (req : AlarmReq) (seq ackSeq : UInt16) :
    isDataRta (dataFrame cfg req seq ackSeq) = true := by
  rw [isDataRta, dataFrame, rtaHeaderOf_around]
  rfl

lemma rtaHeaderOf_dataFrame (cfg : AlarmChannelConfig) (req : AlarmReq) (seq ackSeq : UInt16) :
    ∃ h, rtaHeaderOf (dataFrame cfg req seq ackSeq) = some h ∧ h.pduType = .data ∧
      h.sendSeq = seq ∧ h.ackSeq = ackSeq :=
  ⟨_, rtaHeaderOf_around _ _ _ _ _, rfl, rfl, rfl⟩

lemma isDataRta_ackFrame (ch : AlarmChannel) (priority : Priority) (seq : UInt16) :
    isDataRta (ch.ackFrame priority seq) = false := by
  rw [isDataRta, AlarmChannel.ackFrame, rtaHeaderOf_around]
  rfl

/-- An acknowledgement is no DATA. -/
lemma filter_ackFrame (ch : AlarmChannel) (priority : Priority) (seq : UInt16)
    (frames : List Bytes) :
    (ch.ackFrame priority seq :: frames).filter isDataRta = frames.filter isDataRta :=
  List.filter_cons_of_neg (by rw [isDataRta_ackFrame]; decide)

namespace ChannelTurn

/-- The actions the call asked for. -/
def acts (u : ChannelTurn) : List AlarmAction :=
  match u.reply with
  | .acts acts => acts
  | .refused _ | .built _ | .number _ => []

/-- The alarm the call accepted. -/
def accepts (u : ChannelTurn) : List AlarmReq :=
  match u.call, u.reply with
  | .op (.enqueue req _), .acts _ => [req]
  | _, _ => []

/-- The DATA frames the call sends. -/
def datas (u : ChannelTurn) : List Bytes := (sentFrames u.acts).filter isDataRta

/-- Time has run out for a DATA frame that is still to be acknowledged. -/
def retries (u : ChannelTurn) : Bool :=
  match u.call, u.before.state with
  | .op (.tick _), .sentData .. => true
  | _, _ => false

/-- The DATA frames sent for the first time. -/
def firsts (u : ChannelTurn) : List Bytes := if u.retries then [] else u.datas

/-- The call tears the AR down. -/
def aborts (u : ChannelTurn) : Bool :=
  u.acts.any fun
    | .abort _ => true
    | _ => false

end ChannelTurn

/-- A DATA frame is still to be acknowledged. -/
def ChannelState.isSent : ChannelState → Bool
  | sentData .. => true
  | idle | awaitAlarmAck .. => false

/-! ### What a call can do -/

namespace AlarmChannel

variable {ch ch' : AlarmChannel} {now : Instant} {acts : List AlarmAction}

/-- What one call does to the channel, with the reply. -/
inductive Called (ch : AlarmChannel) : ChannelCall → AlarmChannel → ChannelReply → Prop
  | op {o : Op} {ch' : AlarmChannel} {acts : List AlarmAction} (h : ch.op o = .ok (ch', acts)) :
      Called ch (.op o) ch' (.acts acts)
  | refused {req : AlarmReq} {now : Instant} {e : AlarmError}
      (h : ch.cfg.maxAlarmDataLength.toNat <
        notificationFixedLen + dataLen req.notification.data) :
      Called ch (.op (.enqueue req now)) ch (.refused e)
  | errRta (status : PnioStatus) {frame : Bytes}
      (h : (ch.errRta status : Res Empty _) = .ok frame) :
      Called ch (.errRta status) ch (.built frame)
  | specifier :
      Called ch .specifier ch.nextSpecifierSequence.2 (.number ch.nextSpecifierSequence.1)

/-- Every DATA is acknowledged first. -/
lemma onData_acks {ε : Type} {header : RtaHeader} {priority : Priority} {data : RtaData}
    (h : (ch.onData header priority data now : Res ε _) = .ok (ch', acts)) :
    ∃ rest, acts = .send (ch.ackFrame priority header.sendSeq) :: rest := by
  unfold onData at h
  split_ifs at h
  · cases h
    exact ⟨_, rfl⟩
  · cases data with
    | ack a =>
      simp only [buildAckRta_eq, Res.ok_bind] at h
      split at h
      · obtain ⟨r, -, h⟩ := Res.bind_eq_ok.1 h
        cases h
        exact ⟨_, rfl⟩
      · cases h
        exact ⟨_, rfl⟩
    | notification n =>
      cases h
      exact ⟨_, rfl⟩
    | unknown ty body =>
      cases h
      exact ⟨_, rfl⟩

/-- Of the frames of the peer only a NACK is of no use to the channel. -/
lemma onFrame_unusable {ε : Type} {frame : Bytes} {pdu : RtaPdu}
    (h : (ch.onFrame frame now : Res ε _) = .ok (ch', [.unexpectedRx]))
    (hf : ReadFrom ch.cfg.peerMac frame pdu) : pdu.body = .nack := by
  rw [onFrame_eq, peerPdu_eq_some.2 hf] at h
  dsimp only [onPdu] at h
  cases hb : pdu.body with
  | nack => rfl
  | ack =>
    rw [hb] at h
    have hacts := congrArg Prod.snd (Res.ok.inj h)
    simp only [onTransportAck] at hacts
    split at hacts
    · split_ifs at hacts
    · cases hacts
  | err status =>
    rw [hb] at h
    have hacts := congrArg Prod.snd (Res.ok.inj h)
    cases hacts
  | data data =>
    rw [hb] at h
    obtain ⟨rest, hacts⟩ := onData_acks h
    cases hacts

lemma sendNext_not_err {e : AlarmError} (ch : AlarmChannel) : ch.sendNext now ≠ .err e := by
  intro h
  unfold sendNext at h
  split at h
  · rcases Res.bind_eq_err.1 h with h | ⟨_, _, h⟩
    · exact absurd h buildDataFrame_not_err
    · cases h
  · cases h

lemma onFrame_not_err {frame : Bytes} {e : AlarmError} (ch : AlarmChannel) :
    ch.onFrame frame now ≠ .err e := by
  rw [onFrame_eq]
  split
  · rename_i pdu hp
    unfold onPdu
    cases pdu.body with
    | ack => exact nofun
    | err status => exact nofun
    | nack => exact nofun
    | data data =>
      dsimp only
      unfold onData
      split_ifs
      · exact nofun
      · cases data with
        | ack a =>
          simp only [buildAckRta_eq, Res.ok_bind]
          split
          · intro h
            rcases Res.bind_eq_err.1 h with h | ⟨_, _, h⟩
            · exact sendNext_not_err _ h
            · cases h
          · exact nofun
        | notification n => exact nofun
        | unknown ty body => exact nofun
  · exact nofun

lemma onTick_not_err {e : AlarmError} (ch : AlarmChannel) : ch.onTick now ≠ .err e := by
  unfold onTick
  split
  · split_ifs
    · exact nofun
    · unfold retryOrAbort
      split_ifs
      · split <;> exact nofun
      · exact nofun
  · split_ifs
    · exact nofun
    · unfold dropUnacknowledged
      split
      · exact sendNext_not_err _
      · exact nofun
  · exact nofun

lemma call_called {c : ChannelCall} {reply : ChannelReply} (h : ch.call c = some (ch', reply)) :
    Called ch c ch' reply := by
  cases c with
  | op o =>
    simp only [call] at h
    split at h
    · rename_i ch1 acts hop
      cases h
      exact .op hop
    · rename_i e hop
      cases h
      cases o with
      | enqueue req now => exact .refused (enqueue_refused hop)
      | frame bytes now => exact absurd hop (onFrame_not_err ch)
      | tick now => exact absurd hop (onTick_not_err ch)
    · cases h
  | errRta status =>
    simp only [call] at h
    obtain ⟨frame, hf, h⟩ := Option.map_eq_some_iff.1 h
    cases h
    exact .errRta status (Res.toOption_eq_some.1 hf)
  | specifier =>
    cases h
    exact .specifier

lemma Called.cfg {c : ChannelCall} {reply : ChannelReply} (h : Called ch c ch' reply) :
    ch'.cfg = ch.cfg := by
  cases h with
  | op h => exact (op_step h).frame.1
  | refused h => rfl
  | errRta status h => rfl
  | specifier => rfl

/-! ### Between two calls -/

/-- The frame that is kept is the DATA frame of the alarm in flight, under the last number. -/
def Framed (ch : AlarmChannel) : Prop :=
  ∀ req seq frame deadline, ch.state = .sentData req seq frame deadline →
    seq = ch.lastSentSeq ∧ ∃ ackSeq, frame = dataFrame ch.cfg req seq ackSeq

lemma framed_of_idle (h : ch.state = .idle) : ch.Framed := by
  intro req seq frame deadline hst
  rw [h] at hst
  cases hst

lemma framed_of_awaiting {req : AlarmReq} {deadline : Instant}
    (h : ch.state = .awaitAlarmAck req deadline) : ch.Framed := by
  intro req seq frame deadline hst
  rw [h] at hst
  cases hst

/-- What holds of a channel between two calls. -/
structure Good (ch : AlarmChannel) : Prop where
  fits : ∀ req ∈ ch.queue, 24 + dataLen req.notification.data ≤ 65535
  idle : ch.state = .idle → ch.queue = []
  framed : ch.Framed

lemma new_good (cfg : AlarmChannelConfig) : (new cfg).Good where
  fits := fun _ h => by cases h
  idle := fun _ => rfl
  framed := framed_of_idle rfl

/-- An alarm that was accepted fits a block. -/
lemma fits_push {req : AlarmReq} (hg : ch.Good)
    (hfit : notificationFixedLen + dataLen req.notification.data ≤
      ch.cfg.maxAlarmDataLength.toNat) :
    ∀ q ∈ ch.queue ++ [req], 24 + dataLen q.notification.data ≤ 65535 := by
  intro q hm
  rcases List.mem_append.1 hm with hm | hm
  · exact hg.fits q hm
  · rw [List.mem_singleton.1 hm]
    have hmax := ch.cfg.maxAlarmDataLength.toNat_lt
    simp only [notificationFixedLen] at hfit
    omega

/-- The queue goes on from an idle channel. -/
lemma Started.good (h : Started now ch ch' acts)
    (hf : ∀ req ∈ ch.queue, 24 + dataLen req.notification.data ≤ 65535) (hfr : ch.Framed) :
    ch'.Good := by
  cases h with
  | nothing hn => exact ⟨hf, hn, hfr⟩
  | @sent req queue hs hq =>
    refine ⟨fun q hm => hf q ?_, fun hst => ?_, fun q seq frame deadline hst => ?_⟩
    · rw [hq]
      exact List.mem_cons_of_mem _ hm
    · cases hst
    · cases hst
      exact ⟨rfl, _, rfl⟩

lemma Step.good {o : Op} (h : Step ch o ch' acts) (hg : ch.Good) : ch'.Good := by
  cases h with
  | enqueued hfit h => exact h.good (fits_push hg hfit) hg.framed
  | unusable => exact ⟨hg.fits, hg.idle, hg.framed⟩
  | delivered hf hb hs =>
    exact ⟨hg.fits, fun hst => (by cases hst), framed_of_awaiting rfl⟩
  | strayAck hf hb hs => exact ⟨hg.fits, hg.idle, hg.framed⟩
  | duplicate hf hb hseq => exact hg
  | acked hf hb hseq hm h => exact h.good hg.fits (framed_of_idle rfl)
  | otherData hf hb hseq hm => exact ⟨hg.fits, hg.idle, hg.framed⟩
  | errRta hf hb => exact ⟨fun _ h => (by cases h), fun _ => rfl, framed_of_idle rfl⟩
  | early h => exact hg
  | resent hs hd ha =>
    refine ⟨hg.fits, fun hst => (by cases hst), fun q seq frame deadline hst => ?_⟩
    cases hst
    exact hg.framed _ _ _ _ hs
  | gaveUp hs hd ha => exact ⟨fun _ h => (by cases h), fun _ => rfl, framed_of_idle rfl⟩
  | dropped hs hd h => exact h.good hg.fits (framed_of_idle rfl)

lemma Called.good {c : ChannelCall} {reply : ChannelReply} (h : Called ch c ch' reply)
    (hg : ch.Good) : ch'.Good := by
  cases h with
  | op h => exact (op_step h).good hg
  | refused h => exact hg
  | errRta status h => exact hg
  | specifier => exact ⟨hg.fits, hg.idle, hg.framed⟩

/-! ### Every call returns -/

lemma sendNext_returns {ε : Type}
    (hf : ∀ req ∈ ch.queue, 24 + dataLen req.notification.data ≤ 65535) :
    ∃ r, (sendNext ch now : Res ε _) = .ok r := by
  unfold sendNext
  split
  · rename_i req queue hs hq
    have hfit := hf req (by rw [hq]; exact List.mem_cons_self)
    have hlen := req.notification.length_body
    have hbuilt : (buildDataFrame ch.cfg req ch.nextSendSeq ch.lastRxSeq : Res ε _) =
        .ok (dataFrame ch.cfg req ch.nextSendSeq ch.lastRxSeq) := by
      refine buildDataFrame_eq_ok.2 ⟨?_, rfl⟩
      rw [UInt16.toNat_ofNat']
      omega
    rw [hbuilt]
    exact ⟨_, rfl⟩
  · exact ⟨_, rfl⟩

lemma onData_returns {ε : Type} (hg : ch.Good) (header : RtaHeader) (priority : Priority)
    (data : RtaData) : ∃ r, (ch.onData header priority data now : Res ε _) = .ok r := by
  unfold onData
  split_ifs
  · exact ⟨_, rfl⟩
  · cases data with
    | ack a =>
      simp only [buildAckRta_eq, Res.ok_bind]
      split
      · obtain ⟨r, hr⟩ : ∃ r, (sendNext (ch.accepted header.sendSeq).completed now : Res ε _) =
            .ok r := sendNext_returns hg.fits
        rw [hr]
        exact ⟨_, rfl⟩
      · exact ⟨_, rfl⟩
    | notification n => exact ⟨_, rfl⟩
    | unknown ty body => exact ⟨_, rfl⟩

/-- A frame is taken in every state between two calls. -/
lemma onFrame_returns {ε : Type} (hg : ch.Good) (frame : Bytes) :
    ∃ r, (ch.onFrame frame now : Res ε _) = .ok r := by
  rw [onFrame_eq]
  split
  · rename_i pdu hp
    unfold onPdu
    cases pdu.body with
    | ack => exact ⟨_, rfl⟩
    | data data => exact onData_returns hg _ _ data
    | err status => exact ⟨_, rfl⟩
    | nack => exact ⟨_, rfl⟩
  · exact ⟨_, rfl⟩

end AlarmChannel

/-! ### Runs -/

section Runs

variable {r r' : ChannelRun} {c : ChannelCall} {G : ChannelRun → ChannelCall → Prop}

lemma channelSystem_step (h : channelSystem.step r c = some r') :
    ∃ reply, AlarmChannel.Called r.ch c r'.ch reply ∧
      r'.log = r.log ++ [⟨r.ch, c, r'.ch, reply⟩] := by
  obtain ⟨⟨ch', reply⟩, hc, rfl⟩ := Option.map_eq_some_iff.1 h
  exact ⟨reply, AlarmChannel.call_called hc, rfl⟩

/-- **Invariants of histories**: what holds of a new channel and is kept by what a call can do. -/
theorem channel_inv {I : AlarmChannel → List ChannelTurn → Prop}
    (h0 : ∀ cfg, I (.new cfg) [])
    (hs : ∀ ch log c ch' reply, ch.Good → I ch log → AlarmChannel.Called ch c ch' reply →
      I ch' (log ++ [⟨ch, c, ch', reply⟩]))
    (h : channelSystem.ReachWhen G r) : r.ch.Good ∧ I r.ch r.log := by
  refine System.ReachWhen.inv (I := fun r => r.ch.Good ∧ I r.ch r.log) ?_ ?_ h
  · rintro _ ⟨cfg, rfl⟩
    exact ⟨AlarmChannel.new_good cfg, h0 cfg⟩
  · rintro r c r' ⟨hg, hI⟩ - hstep
    obtain ⟨reply, hc, hlog⟩ := channelSystem_step hstep
    rw [hlog]
    exact ⟨hc.good hg, hs _ _ _ _ _ hg hI hc⟩

/-- A run passes through all the prefixes of its history. -/
lemma reach_of_prefix {a b : List ChannelTurn} (h : channelSystem.ReachWhen G r)
    (hlog : r.log = a ++ b) : ∃ ch, channelSystem.ReachWhen G ⟨ch, a⟩ ∧ ch.cfg = r.ch.cfg := by
  induction h generalizing b with
  | init h0 =>
    obtain ⟨cfg, rfl⟩ := h0
    obtain ⟨rfl, -⟩ := List.append_eq_nil_iff.1 hlog.symm
    exact ⟨_, .init ⟨cfg, rfl⟩, rfl⟩
  | @step r r' c hr hg hs ih =>
    obtain ⟨reply, hc, hlog'⟩ := channelSystem_step hs
    rcases List.eq_nil_or_concat b with rfl | ⟨b, u, rfl⟩
    · rw [List.append_nil] at hlog
      exact ⟨r'.ch, hlog ▸ .step hr hg hs, rfl⟩
    · rw [hlog', List.concat_eq_append, ← List.append_assoc] at hlog
      obtain ⟨ch, hch, hcfg⟩ := ih (List.append_inj_left' hlog rfl)
      exact ⟨ch, hch, hcfg.trans hc.cfg.symm⟩

/-- Every turn of a run was made from a channel the run had reached. -/
lemma reach_turn {pre post : List ChannelTurn} {u : ChannelTurn}
    (h : channelSystem.ReachWhen G r) (hlog : r.log = pre ++ u :: post) :
    channelSystem.ReachWhen G ⟨u.before, pre⟩ ∧ G ⟨u.before, pre⟩ u.call ∧
      AlarmChannel.Called u.before u.call u.after u.reply ∧ u.before.cfg = r.ch.cfg := by
  induction h generalizing post with
  | init h0 =>
    obtain ⟨cfg, rfl⟩ := h0
    simp at hlog
  | @step r r' c hr hg hs ih =>
    obtain ⟨reply, hc, hlog'⟩ := channelSystem_step hs
    rw [hlog'] at hlog
    rcases List.eq_nil_or_concat post with rfl | ⟨post, v, rfl⟩
    · obtain ⟨rfl, hu⟩ := List.append_inj' hlog rfl
      cases hu
      exact ⟨hr, hg, hc, hc.cfg.symm⟩
    · rw [List.concat_eq_append, ← List.cons_append, ← List.append_assoc] at hlog
      obtain ⟨hpre, hgu, hcu, hcfg⟩ := ih (List.append_inj_left' hlog rfl)
      exact ⟨hpre, hgu, hcu, hcfg.trans hc.cfg.symm⟩

end Runs

end Pnio
