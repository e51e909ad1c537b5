import Pnio.Ar
import Pnio.Rta

/-!
The alarm channel: one notification in flight at a time, resent until the transport ACK, then
waiting for the content-level Alarm-Ack.

`Step` lists what an operation can do, one constructor a case, and `op_step` says that every
operation is one of them.
-/

namespace Pnio

def notificationFixedLen : Nat := 24
def alarmAckTimeoutFactor : Nat := 10

structure AlarmChannelConfig where
  localRef : UInt16
  remoteRef : UInt16
  rtaTimeout : Nat
  rtaRetries : UInt16
  maxAlarmDataLength : UInt16
  peerMac : MacAddr
  ourMac : MacAddr
deriving DecidableEq, Repr

structure AlarmReq where
  id : UInt32
  priority : Priority
  notification : AlarmNotification
deriving DecidableEq, Repr

inductive AlarmAction where
  | send (frame : Bytes)
  | acked (id : UInt32) (status : PnioStatus)
  | abort (reason : AbortReason)
  | unexpectedRx
deriving DecidableEq, Repr

inductive AlarmError where
  | tooLong (len : Nat) (max : UInt16)
deriving DecidableEq, Repr

structure AlarmStats where
  sent : Nat := 0
  acked : Nat := 0
  retries : Nat := 0
  unexpectedRx : Nat := 0
  sendFailures : Nat := 0
  ackTimeouts : Nat := 0
  rxErrRta : Nat := 0
deriving DecidableEq, Repr

inductive ChannelState where
  | idle
  | sentData (req : AlarmReq) (seq : UInt16) (frame : Bytes) (deadline : Instant)
  | awaitAlarmAck (req : AlarmReq) (deadline : Instant)
deriving DecidableEq, Repr

/-- The alarm in flight. -/
def ChannelState.req : ChannelState → Option AlarmReq
  | idle => none
  | sentData req _ _ _ => some req
  | awaitAlarmAck req _ => some req

structure AlarmChannel where
  cfg : AlarmChannelConfig
  state : ChannelState
  queue : List AlarmReq
  nextSendSeq : UInt16
  lastSentSeq : UInt16
  lastRxSeq : UInt16
  attempt : UInt16
  stats : AlarmStats
  specifierSeq : UInt16
deriving DecidableEq, Repr

/-- The length of the data behind the USI, on the wire. -/
def dataLen : UserData → Nat
  | .raw v => v.length
  | .channel _ => 6
  | .extChannel _ => 12

section

variable {ε : Type}

/-- The DATA frame of a request. -/
def buildDataFrame (cfg : AlarmChannelConfig) (req : AlarmReq) (seq ackSeq : UInt16) :
    Res ε Bytes :=
  buildFrame cfg.peerMac cfg.ourMac
    { priority := req.priority
      header := { dstRef := cfg.remoteRef, srcRef := cfg.localRef, pduType := .data, tack := true,
                  sendSeq := seq, ackSeq }
      body := .data (.notification req.notification) }

namespace AlarmChannel

def new (cfg : AlarmChannelConfig) : AlarmChannel :=
  { cfg, state := .idle, queue := [], nextSendSeq := seqInit, lastSentSeq := seqNone,
    lastRxSeq := seqNone, attempt := 0, stats := {}, specifierSeq := 0 }

/-- The sequence number after `seq`; the initial one is followed by 0. -/
def followingSeq (seq : UInt16) : UInt16 :=
  if seq = seqInit then 0 else (seq + 1) &&& 0x7FFF

/-- The channel after the first transmission of `req`, with `queue` left behind it. -/
def transmitted (ch : AlarmChannel) (req : AlarmReq) (queue : List AlarmReq) (frame : Bytes)
    (now : Instant) : AlarmChannel :=
  { ch with
    queue
    lastSentSeq := ch.nextSendSeq
    nextSendSeq := followingSeq ch.nextSendSeq
    attempt := 0
    stats := { ch.stats with sent := ch.stats.sent + 1 }
    state := .sentData req ch.nextSendSeq frame (now + ch.cfg.rtaTimeout) }

def sendNext (ch : AlarmChannel) (now : Instant) : Res ε (AlarmChannel × List AlarmAction) :=
  match ch.state, ch.queue with
  | .idle, req :: queue => do
    let frame ← buildDataFrame ch.cfg req ch.nextSendSeq ch.lastRxSeq
    .ok (ch.transmitted req queue frame now, [.send frame])
  | _, _ => .ok (ch, [])

def enqueue (ch : AlarmChannel) (req : AlarmReq) (now : Instant) :
    Res AlarmError (AlarmChannel × List AlarmAction) := do
  let len := notificationFixedLen + dataLen req.notification.data
  Res.reject (ch.cfg.maxAlarmDataLength.toNat < len) (.tooLong len ch.cfg.maxAlarmDataLength)
  sendNext { ch with queue := ch.queue ++ [req] } now

/-- A frame counted and otherwise ignored. -/
def countUnexpected (ch : AlarmChannel) : AlarmChannel :=
  { ch with stats := { ch.stats with unexpectedRx := ch.stats.unexpectedRx + 1 } }

/-- The channel once the transport has confirmed the delivery of `req`. -/
def awaiting (ch : AlarmChannel) (req : AlarmReq) (now : Instant) : AlarmChannel :=
  { ch with state := .awaitAlarmAck req (now + ch.cfg.rtaTimeout * alarmAckTimeoutFactor) }

def onTransportAck (ch : AlarmChannel) (ackSeq : UInt16) (now : Instant) :
    AlarmChannel × List AlarmAction :=
  match ch.state with
  | .sentData req seq _ _ =>
    if ackSeq = seq then
      (ch.awaiting req now, [])
    else (ch.countUnexpected, [])
  | _ => (ch.countUnexpected, [])

/-- ACK-RTA and ERR-RTA are built around the current sequence counters. -/
def pdu (ch : AlarmChannel) (priority : Priority) (pduType : PduType) (ackSeq : UInt16)
    (body : RtaBody) : RtaPdu :=
  { priority
    header := { dstRef := ch.cfg.remoteRef, srcRef := ch.cfg.localRef, pduType, tack := false,
                sendSeq := ch.lastSentSeq, ackSeq }
    body }

def buildAckRta (ch : AlarmChannel) (priority : Priority) (receivedSeq : UInt16) : Res ε Bytes :=
  buildFrame ch.cfg.peerMac ch.cfg.ourMac (ch.pdu priority .ack receivedSeq .ack)

def errRta (ch : AlarmChannel) (status : PnioStatus) : Res ε Bytes :=
  buildFrame ch.cfg.peerMac ch.cfg.ourMac (ch.pdu .low .err ch.lastRxSeq (.err status))

/-- The alarm in flight has the type, slot and subslot of the Alarm-Ack. -/
def matchesInFlight (ch : AlarmChannel) (a : AlarmAck) : Option AlarmReq :=
  match ch.state.req with
  | some req =>
    if req.notification.alarmType = a.alarmType ∧ req.notification.slot = a.slot ∧
        req.notification.subslot = a.subslot then some req
    else none
  | none => none

/-- The channel after a DATA with this sequence number was accepted. -/
def accepted (ch : AlarmChannel) (seq : UInt16) : AlarmChannel := { ch with lastRxSeq := seq }

/-- The channel after the alarm in flight was acknowledged. -/
def completed (ch : AlarmChannel) : AlarmChannel :=
  { ch with state := .idle, stats := { ch.stats with acked := ch.stats.acked + 1 } }

/-- The channel after the alarm in flight was dropped. -/
def gaveUpAck (ch : AlarmChannel) : AlarmChannel :=
  { ch with state := .idle, stats := { ch.stats with ackTimeouts := ch.stats.ackTimeouts + 1 } }

def onData (ch : AlarmChannel) (header : RtaHeader) (priority : Priority) (data : RtaData)
    (now : Instant) : Res ε (AlarmChannel × List AlarmAction) :=
  if header.sendSeq = ch.lastRxSeq then do
    let ack ← ch.buildAckRta priority header.sendSeq
    .ok (ch, [.send ack])
  else do
    let ch := ch.accepted header.sendSeq
    let ack ← ch.buildAckRta priority header.sendSeq
    match data with
    | .ack a =>
      match ch.matchesInFlight a with
      | some req => do
        let (ch', acts) ← sendNext ch.completed now
        .ok (ch', .send ack :: .acked req.id a.status :: acts)
      | none => .ok (ch.countUnexpected, [.send ack, .unexpectedRx])
    | _ => .ok (ch.countUnexpected, [.send ack, .unexpectedRx])

def onErrRta (ch : AlarmChannel) (status : PnioStatus) : AlarmChannel × List AlarmAction :=
  ({ ch with
      stats := { ch.stats with rxErrRta := ch.stats.rxErrRta + 1 }
      state := .idle
      queue := [] }, [.abort (.controllerErrRta status)])

def onFrame (ch : AlarmChannel) (frame : Bytes) (now : Instant) :
    Res ε (AlarmChannel × List AlarmAction) := do
  match ← Res.attempt (parseFrame frame) with
  | .error _ => .ok (ch.countUnexpected, [.unexpectedRx])
  | .ok pdu =>
    match ← Res.attempt (EthHeader.parse frame) with
    | .error _ => .ok (ch.countUnexpected, [.unexpectedRx])
    | .ok (eth, _) =>
      if eth.src ≠ ch.cfg.peerMac then .ok (ch.countUnexpected, [.unexpectedRx])
      else match pdu.body with
        | .ack => .ok (ch.onTransportAck pdu.header.ackSeq now)
        | .data data => ch.onData pdu.header pdu.priority data now
        | .err status => .ok (ch.onErrRta status)
        | .nack => .ok (ch.countUnexpected, [.unexpectedRx])

/-- The channel after one more transmission of the same frame. -/
def retransmitted (ch : AlarmChannel) (req : AlarmReq) (seq : UInt16) (frame : Bytes)
    (now : Instant) : AlarmChannel :=
  { ch with
    attempt := ch.attempt + 1
    stats := { ch.stats with retries := ch.stats.retries + 1 }
    state := .sentData req seq frame (now + ch.cfg.rtaTimeout) }

/-- The channel out of attempts: everything queued is given up. -/
def exhausted (ch : AlarmChannel) : AlarmChannel :=
  { ch with
    stats := { ch.stats with sendFailures := ch.stats.sendFailures + 1 }
    state := .idle
    queue := [] }

/-- `SentData` past its deadline: the same frame again, or no more attempts. -/
def retryOrAbort (ch : AlarmChannel) (now : Instant) : Res ε (AlarmChannel × List AlarmAction) :=
  if ch.attempt < ch.cfg.rtaRetries then
    match ch.state with
    | .sentData req seq frame _ =>
      .ok (ch.retransmitted req seq frame now, [.send frame])
    | _ => .panic .unreachable
  else
    .ok (ch.exhausted, [.abort .alarmSendFailed])

/-- `AwaitAlarmAck` past its deadline: the alarm is dropped and the queue goes on. -/
def dropUnacknowledged (ch : AlarmChannel) (now : Instant) :
    Res ε (AlarmChannel × List AlarmAction) :=
  match ch.state with
  | .awaitAlarmAck _ _ => sendNext ch.gaveUpAck now
  | _ => .panic .unreachable

def onTick (ch : AlarmChannel) (now : Instant) : Res ε (AlarmChannel × List AlarmAction) :=
  match ch.state with
  | .sentData _ _ _ deadline => if now < deadline then .ok (ch, []) else ch.retryOrAbort now
  | .awaitAlarmAck _ deadline =>
    if now < deadline then .ok (ch, []) else ch.dropUnacknowledged now
  | .idle => .ok (ch, [])

def nextDeadline (ch : AlarmChannel) : Option Instant :=
  match ch.state with
  | .sentData _ _ _ deadline | .awaitAlarmAck _ deadline => some deadline
  | .idle => none

/-- The number for the next `AlarmSpecifier`, and the channel after giving it out. -/
def nextSpecifierSequence (ch : AlarmChannel) : UInt16 × AlarmChannel :=
  (ch.specifierSeq, { ch with specifierSeq := (ch.specifierSeq + 1) &&& 0x07FF })

end AlarmChannel

end

/-! ### The frames of a channel -/

/-- The bytes of a DATA frame. -/
def dataFrame (cfg : AlarmChannelConfig) (req : AlarmReq) (seq ackSeq : UInt16) : Bytes :=
  let body := req.notification.body
  frameAround cfg.peerMac cfg.ourMac req.priority
    { dstRef := cfg.remoteRef, srcRef := cfg.localRef, pduType := .data, tack := true,
      sendSeq := seq, ackSeq }
    (be16 (notificationType req.priority) ++ be16 (UInt16.ofNat body.length + 2) ++ [1, 0] ++ body)

lemma buildDataFrame_eq_ok {ε : Type} {cfg : AlarmChannelConfig} {req : AlarmReq}
    {seq ackSeq : UInt16} {frame : Bytes} :
    (buildDataFrame cfg req seq ackSeq : Res ε _) = .ok frame ↔
      (UInt16.ofNat req.notification.body.length).toNat + 2 < 65536 ∧
        frame = dataFrame cfg req seq ackSeq := by
  simp only [buildDataFrame, buildFrame, writeBody, writeRtaData, writeNotification, writeBlock,
    BlockHeader.write]
  split_ifs with h
  · rw [Res.ok_bind, Res.ok_bind, Res.ok.injEq, eq_comm, and_iff_right h]
    rfl
  · simp only [Res.panic_bind, h, false_and, iff_false]
    intro hpanic
    cases hpanic

namespace AlarmChannel

/-- The bytes of an ACK-RTA. -/
def ackFrame (ch : AlarmChannel) (priority : Priority) (receivedSeq : UInt16) : Bytes :=
  frameAround ch.cfg.peerMac ch.cfg.ourMac priority
    (ch.pdu priority .ack receivedSeq .ack).header []

lemma buildAckRta_eq {ε : Type} (ch : AlarmChannel) (priority : Priority) (receivedSeq : UInt16) :
    (ch.buildAckRta priority receivedSeq : Res ε _) = .ok (ch.ackFrame priority receivedSeq) := rfl

/-! ### What an operation can do -/

inductive Op where
  | enqueue (req : AlarmReq) (now : Instant)
  | frame (bytes : Bytes) (now : Instant)
  | tick (now : Instant)

/-- The operations under one name; a refused `enqueue` is an error. -/
def op (ch : AlarmChannel) : Op → Res AlarmError (AlarmChannel × List AlarmAction)
  | .enqueue req now => ch.enqueue req now
  | .frame bytes now => ch.onFrame bytes now
  | .tick now => ch.onTick now

/-- What `send_next` does: nothing, or the first request of the queue is transmitted. -/
inductive Started (now : Instant) (ch : AlarmChannel) : AlarmChannel → List AlarmAction → Prop
  | nothing (h : ch.state = .idle → ch.queue = []) : Started now ch ch []
  | sent {req : AlarmReq} {queue : List AlarmReq} (hs : ch.state = .idle)
      (hq : ch.queue = req :: queue) :
      Started now ch
        (ch.transmitted req queue (dataFrame ch.cfg req ch.nextSendSeq ch.lastRxSeq) now)
        [.send (dataFrame ch.cfg req ch.nextSendSeq ch.lastRxSeq)]

/-- The frame is an alarm PDU and its source is the peer. -/
structure ReadFrom (peer : MacAddr) (frame : Bytes) (pdu : RtaPdu) : Prop where
  parse : parseFrame frame = .ok pdu
  src : ∃ eth off, EthHeader.parse frame = .ok (eth, off) ∧ eth.src = peer

inductive Step (ch : AlarmChannel) : Op → AlarmChannel → List AlarmAction → Prop
  | enqueued {req : AlarmReq} {now : Instant} {ch' : AlarmChannel} {acts : List AlarmAction}
      (hfit : notificationFixedLen + dataLen req.notification.data ≤
        ch.cfg.maxAlarmDataLength.toNat)
      (h : Started now { ch with queue := ch.queue ++ [req] } ch' acts) :
      Step ch (.enqueue req now) ch' acts
  | unusable {frame : Bytes} {now : Instant} :
      Step ch (.frame frame now) ch.countUnexpected [.unexpectedRx]
  | delivered {frame bytes : Bytes} {now deadline : Instant} {pdu : RtaPdu} {req : AlarmReq}
      (hf : ReadFrom ch.cfg.peerMac frame pdu) (hb : pdu.body = .ack)
      (hs : ch.state = .sentData req pdu.header.ackSeq bytes deadline) :
      Step ch (.frame frame now) (ch.awaiting req now) []
  | strayAck {frame : Bytes} {now : Instant} {pdu : RtaPdu}
      (hf : ReadFrom ch.cfg.peerMac frame pdu) (hb : pdu.body = .ack)
      (hs : ∀ req bytes deadline, ch.state ≠ .sentData req pdu.header.ackSeq bytes deadline) :
      Step ch (.frame frame now) ch.countUnexpected []
  | duplicate {frame : Bytes} {now : Instant} {pdu : RtaPdu} {data : RtaData}
      (hf : ReadFrom ch.cfg.peerMac frame pdu) (hb : pdu.body = .data data)
      (hseq : pdu.header.sendSeq = ch.lastRxSeq) :
      Step ch (.frame frame now) ch [.send (ch.ackFrame pdu.priority pdu.header.sendSeq)]
  | acked {frame : Bytes} {now : Instant} {pdu : RtaPdu} {a : AlarmAck} {req : AlarmReq}
      {ch' : AlarmChannel} {acts : List AlarmAction}
      (hf : ReadFrom ch.cfg.peerMac frame pdu) (hb : pdu.body = .data (.ack a))
      (hseq : pdu.header.sendSeq ≠ ch.lastRxSeq) (hm : ch.matchesInFlight a = some req)
      (h : Started now (ch.accepted pdu.header.sendSeq).completed ch' acts) :
      Step ch (.frame frame now) ch'
        (.send (ch.ackFrame pdu.priority pdu.header.sendSeq) :: .acked req.id a.status :: acts)
  | otherData {frame : Bytes} {now : Instant} {pdu : RtaPdu} {data : RtaData}
      (hf : ReadFrom ch.cfg.peerMac frame pdu) (hb : pdu.body = .data data)
      (hseq : pdu.header.sendSeq ≠ ch.lastRxSeq)
      (hm : ∀ a, data = .ack a → ch.matchesInFlight a = none) :
      Step ch (.frame frame now) (ch.accepted pdu.header.sendSeq).countUnexpected
        [.send (ch.ackFrame pdu.priority pdu.header.sendSeq), .unexpectedRx]
  | errRta {frame : Bytes} {now : Instant} {pdu : RtaPdu} {status : PnioStatus}
      (hf : ReadFrom ch.cfg.peerMac frame pdu) (hb : pdu.body = .err status) :
      Step ch (.frame frame now) (ch.onErrRta status).1 [.abort (.controllerErrRta status)]
  | early {now : Instant} (h : ∀ d, ch.nextDeadline = some d → now < d) : Step ch (.tick now) ch []
  | resent {now deadline : Instant} {req : AlarmReq} {seq : UInt16} {frame : Bytes}
      (hs : ch.state = .sentData req seq frame deadline) (hd : deadline ≤ now)
      (ha : ch.attempt < ch.cfg.rtaRetries) :
      Step ch (.tick now) (ch.retransmitted req seq frame now) [.send frame]
  | gaveUp {now deadline : Instant} {req : AlarmReq} {seq : UInt16} {frame : Bytes}
      (hs : ch.state = .sentData req seq frame deadline) (hd : deadline ≤ now)
      (ha : ¬ ch.attempt < ch.cfg.rtaRetries) :
      Step ch (.tick now) ch.exhausted [.abort .alarmSendFailed]
  | dropped {now deadline : Instant} {req : AlarmReq} {ch' : AlarmChannel}
      {acts : List AlarmAction} (hs : ch.state = .awaitAlarmAck req deadline) (hd : deadline ≤ now)
      (h : Started now ch.gaveUpAck ch' acts) :
      Step ch (.tick now) ch' acts

section Inversion

variable {ε : Type} {ch ch' : AlarmChannel} {now : Instant} {acts : List AlarmAction}

lemma sendNext_started (h : (sendNext ch now : Res ε _) = .ok (ch', acts)) :
    Started now ch ch' acts := by
  unfold sendNext at h
  split at h
  · rename_i req queue hs hq
    obtain ⟨frame, hf, h⟩ := Res.bind_eq_ok.1 h
    cases h
    obtain ⟨-, rfl⟩ := buildDataFrame_eq_ok.1 hf
    exact .sent hs hq
  · rename_i hno
    cases h
    refine .nothing fun hs => ?_
    cases hq : ch.queue with
    | nil => rfl
    | cons req queue => exact absurd hq (hno req queue hs)

lemma onData_step {frame : Bytes} {pdu : RtaPdu} {data : RtaData}
    (hf : ReadFrom ch.cfg.peerMac frame pdu) (hb : pdu.body = .data data)
    (h : (ch.onData pdu.header pdu.priority data now : Res ε _) = .ok (ch', acts)) :
    Step ch (.frame frame now) ch' acts := by
  unfold onData at h
  split_ifs at h with hseq
  · cases h
    exact .duplicate hf hb hseq
  · cases data with
    | ack a =>
      cases hm : ch.matchesInFlight a with
      | some req =>
        have hm' : (ch.accepted pdu.header.sendSeq).matchesInFlight a = some req := hm
        simp only [buildAckRta_eq, Res.ok_bind, hm'] at h
        obtain ⟨⟨ch1, acts1⟩, hs, h⟩ := Res.bind_eq_ok.1 h
        cases h
        exact .acked hf hb hseq hm (sendNext_started hs)
      | none =>
        have hm' : (ch.accepted pdu.header.sendSeq).matchesInFlight a = none := hm
        simp only [buildAckRta_eq, Res.ok_bind, hm'] at h
        cases h
        exact .otherData hf hb hseq (by rintro _ ⟨⟩; exact hm)
    | notification n =>
      cases h
      exact .otherData hf hb hseq fun a hd => by cases hd
    | unknown ty body =>
      cases h
      exact .otherData hf hb hseq fun a hd => by cases hd

lemma onTransportAck_step {frame : Bytes} {pdu : RtaPdu}
    (hf : ReadFrom ch.cfg.peerMac frame pdu) (hb : pdu.body = .ack) :
    Step ch (.frame frame now) (ch.onTransportAck pdu.header.ackSeq now).1
      (ch.onTransportAck pdu.header.ackSeq now).2 := by
  unfold onTransportAck
  split
  · rename_i req seq bytes deadline hs
    split_ifs with hk
    · subst hk
      exact .delivered hf hb hs
    · refine .strayAck hf hb fun req' bytes' deadline' hs' => hk ?_
      rw [hs] at hs'
      cases hs'
      rfl
  · rename_i hno
    exact .strayAck hf hb fun req bytes deadline hs => hno _ _ _ _ hs

lemma onFrame_step {frame : Bytes} (h : (ch.onFrame frame now : Res ε _) = .ok (ch', acts)) :
    Step ch (.frame frame now) ch' acts := by
  unfold onFrame at h
  obtain ⟨r, hr, h⟩ := Res.bind_eq_ok.1 h
  rcases Res.attempt_eq_ok.1 hr with ⟨pdu, hp, rfl⟩ | ⟨e, -, rfl⟩
  · obtain ⟨r, hr, h⟩ := Res.bind_eq_ok.1 h
    rcases Res.attempt_eq_ok.1 hr with ⟨⟨eth, off⟩, he, rfl⟩ | ⟨e, -, rfl⟩
    · by_cases hsrc : eth.src = ch.cfg.peerMac
      · have hf : ReadFrom ch.cfg.peerMac frame pdu := ⟨hp, eth, off, he, hsrc⟩
        simp only [ne_eq, hsrc, not_true_eq_false, if_false] at h
        cases hb : pdu.body with
        | ack =>
          simp only [hb, Res.ok.injEq] at h
          have hs : Step ch (.frame frame now) _ _ := onTransportAck_step hf hb
          rwa [h] at hs
        | data data => simp only [hb] at h; exact onData_step hf hb h
        | err status => simp only [hb] at h; cases h; exact .errRta hf hb
        | nack => simp only [hb] at h; cases h; exact .unusable
      · simp only [ne_eq, hsrc, not_false_eq_true, if_true] at h
        cases h
        exact .unusable
    · cases h
      exact .unusable
  · cases h
    exact .unusable

lemma onTick_step (h : (ch.onTick now : Res ε _) = .ok (ch', acts)) :
    Step ch (.tick now) ch' acts := by
  unfold onTick at h
  split at h
  · rename_i req seq frame deadline hs
    split_ifs at h with hd
    · cases h
      exact .early fun d hdl => by simp only [nextDeadline, hs] at hdl; cases hdl; exact hd
    · unfold retryOrAbort at h
      split_ifs at h with ha
      · simp only [hs] at h
        cases h
        exact .resent hs (not_lt.1 hd) ha
      · cases h
        exact .gaveUp hs (not_lt.1 hd) ha
  · rename_i req deadline hs
    split_ifs at h with hd
    · cases h
      exact .early fun d hdl => by simp only [nextDeadline, hs] at hdl; cases hdl; exact hd
    · simp only [dropUnacknowledged, hs] at h
      exact .dropped hs (not_lt.1 hd) (sendNext_started h)
  · rename_i hs
    cases h
    exact .early fun d hdl => by simp [nextDeadline, hs] at hdl

/-- Every operation that returns is one of the steps. -/
lemma op_step {o : Op} (h : ch.op o = .ok (ch', acts)) : Step ch o ch' acts := by
  cases o with
  | enqueue req now =>
    simp only [op, enqueue, Res.bind_eq_ok, Res.reject_eq_ok] at h
    obtain ⟨-, hfit, h⟩ := h
    exact .enqueued (not_lt.1 hfit) (sendNext_started h)
  | frame bytes now => exact onFrame_step h
  | tick now => exact onTick_step h

lemma req_of_matchesInFlight {a : AlarmAck} {req : AlarmReq}
    (h : ch.matchesInFlight a = some req) : ch.state.req = some req := by
  unfold matchesInFlight at h
  split at h
  · rename_i req' hs
    split_ifs at h
    cases h
    exact hs
  · cases h

/-- The configuration and the specifier counter are not touched by any operation. -/
lemma Step.frame {o : Op} (h : Step ch o ch' acts) :
    ch'.cfg = ch.cfg ∧ ch'.specifierSeq = ch.specifierSeq := by
  cases h with
  | enqueued _ h => cases h <;> exact ⟨rfl, rfl⟩
  | acked _ _ _ _ h => cases h <;> exact ⟨rfl, rfl⟩
  | dropped _ _ h => cases h <;> exact ⟨rfl, rfl⟩
  | _ => exact ⟨rfl, rfl⟩

/-- All that `send_next` asks for is to send. -/
lemma Started.sends (h : Started now ch ch' acts) : ∀ a ∈ acts, ∃ frame, a = .send frame := by
  intro a ha
  cases h with
  | nothing => cases ha
  | sent => exact ⟨_, List.mem_singleton.1 ha⟩

/-- An abort is asked for alone. -/
lemma Step.abort_alone {o : Op} (h : Step ch o ch' acts) {reason : AbortReason}
    (ha : .abort reason ∈ acts) : acts = [.abort reason] := by
  cases h with
  | errRta => rw [List.mem_singleton.1 ha]
  | gaveUp => rw [List.mem_singleton.1 ha]
  | enqueued hfit h | dropped hs hd h =>
    obtain ⟨frame, hf⟩ := h.sends _ ha
    cases hf
  | acked hf hb hseq hm h =>
    simp only [List.mem_cons, reduceCtorEq, false_or] at ha
    obtain ⟨frame, hf⟩ := h.sends _ ha
    cases hf
  | _ => simp at ha

lemma buildDataFrame_not_err {cfg : AlarmChannelConfig} {req : AlarmReq} {seq ackSeq : UInt16}
    {e : ε} : (buildDataFrame cfg req seq ackSeq : Res ε _) ≠ .err e := by
  simp only [buildDataFrame, buildFrame, writeBody, writeRtaData, writeNotification, writeBlock,
    BlockHeader.write]
  split_ifs <;> simp

/-- An alarm is refused for its length only. -/
lemma enqueue_refused {req : AlarmReq} {e : AlarmError} (h : ch.enqueue req now = .err e) :
    ch.cfg.maxAlarmDataLength.toNat < notificationFixedLen + dataLen req.notification.data := by
  rcases Res.bind_eq_err.1 h with hlen | ⟨-, -, hnext⟩
  · exact (Res.reject_eq_err.1 hlen).1
  · unfold sendNext at hnext
    split at hnext
    · rcases Res.bind_eq_err.1 hnext with hb | ⟨_, _, hb⟩
      · exact absurd hb buildDataFrame_not_err
      · cases hb
    · cases hnext

end Inversion

end AlarmChannel

end Pnio
