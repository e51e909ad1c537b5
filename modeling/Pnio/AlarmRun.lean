import Pnio.AlarmChannel
import Pnio.Lib.Runs

/-!
One alarm channel, its peer and the network between them.

Whatever the channel sends is on the wire and may reach the peer at any time, any number of
times, or never. The peer acknowledges notifications it has received, and its Alarm-Acks may be
delivered late, repeatedly and out of order; every other frame is unconstrained. The run keeps
what was enqueued, sent, received and acknowledged, so that an Alarm-Ack the channel takes for
its alarm in flight can be compared with the one the peer meant.
-/

namespace Pnio

/-! ### What a frame carries -/

/-- The notification a receiver decodes from a DATA frame. -/
def notificationOf (frame : Bytes) : Option AlarmNotification :=
  match parseFrame frame with
  | .ok ⟨_, _, .data (.notification n)⟩ => some n
  | _ => none

/-- The header and the Alarm-Ack of a DATA frame whose source is `peer`. -/
def alarmAckOf (peer : MacAddr) (frame : Bytes) : Option (RtaHeader × AlarmAck) :=
  match parseFrame frame, EthHeader.parse frame with
  | .ok ⟨_, header, .data (.ack a)⟩, .ok (eth, _) =>
    if eth.src = peer then some (header, a) else none
  | _, _ => none

lemma alarmAckOf_of_readFrom {peer : MacAddr} {frame : Bytes} {pdu : RtaPdu} {a : AlarmAck}
    (hf : AlarmChannel.ReadFrom peer frame pdu) (hb : pdu.body = .data (.ack a)) :
    alarmAckOf peer frame = some (pdu.header, a) := by
  obtain ⟨hp, eth, off, he, hsrc⟩ := hf
  obtain ⟨priority, header, body⟩ := pdu
  cases hb
  simp [alarmAckOf, hp, he, hsrc]

/-- `n'` is what a receiver reads when `n` is sent. -/
def AlarmNotification.ReadsAs (n n' : AlarmNotification) : Prop :=
  parseNotification n.body = .ok n'

lemma AlarmNotification.ReadsAs.specifier {n n' : AlarmNotification} (h : n.ReadsAs n') :
    n'.specifier = .fromU16 n.specifier.toU16 := by
  rw [ReadsAs, parseNotification_body] at h
  obtain ⟨d, -, h⟩ := Res.bind_eq_ok.1 h
  cases h
  rfl

@[simp] lemma UserData.length_write (d : UserData) : d.write.length = dataLen d := by
  cases d <;> simp [UserData.write, dataLen, ChannelDiagnosis.write, ExtChannelDiagnosis.write]

@[simp] lemma AlarmNotification.length_body (n : AlarmNotification) :
    n.body.length = 22 + dataLen n.data := by
  simp [AlarmNotification.body]; omega

/-- A block header is not read from fewer than six bytes. -/
lemma BlockHeader.parse_short {b : Bytes} (h : b.length < 6) :
    parse b = .err (.tooShort 6 b.length) := by
  simp [parse, Res.reject, hdrLen, h]

/-- The header of a DATA frame. -/
def dataHeader (cfg : AlarmChannelConfig) (seq ackSeq : UInt16) : RtaHeader :=
  { dstRef := cfg.remoteRef, srcRef := cfg.localRef, pduType := .data, tack := true,
    sendSeq := seq, ackSeq }

section DataFrame

variable {cfg : AlarmChannelConfig} {req : AlarmReq} {seq ackSeq : UInt16}

lemma dataFrame_eq : dataFrame cfg req seq ackSeq =
    frameAround cfg.peerMac cfg.ourMac req.priority (dataHeader cfg seq ackSeq)
      (blockBytes (notificationType req.priority, req.notification.body)) := rfl

/-- A DATA frame whose variable part fits its length field is read as its notification is. -/
lemma parseFrame_dataFrame (hfit : 28 + dataLen req.notification.data ≤ 65535) :
    parseFrame (dataFrame cfg req seq ackSeq) =
      (Res.mapErr .block (parseNotification req.notification.body) >>= fun n =>
        .ok ⟨req.priority, dataHeader cfg seq ackSeq, .data (.notification n)⟩) := by
  have hlen := req.notification.length_body
  have hv := length_blockBytes (notificationType req.priority, req.notification.body)
  dsimp only [BlockHeader.hdrLen] at hv
  have hblock : BlockFits (notificationType req.priority, req.notification.body) := by
    dsimp only [BlockFits]
    omega
  have hparse := parse_blockBytes hblock []
  rw [List.append_nil] at hparse
  have hdata : parseRtaData (notificationType req.priority) req.notification.body =
      (Res.mapErr .block (parseNotification req.notification.body) >>= fun n =>
        .ok (.notification n)) := by
    cases req.priority <;> rfl
  rw [dataFrame_eq, parseFrame_around, Nat.mod_eq_of_lt (by omega), List.take_length]
  simp only [dataHeader, parseBody, hparse, Res.mapErr_ok, Res.ok_bind, blockHeader, hdata,
    bind_assoc]

/-- The length field of a longer frame wraps to less than a block header. -/
lemma parseFrame_wrapped (hfit : 24 + dataLen req.notification.data ≤ 65535)
    (hlong : 65535 < 28 + dataLen req.notification.data) :
    ∃ e, parseFrame (dataFrame cfg req seq ackSeq) = .err e := by
  have hlen := req.notification.length_body
  have hv := length_blockBytes (notificationType req.priority, req.notification.body)
  dsimp only [BlockHeader.hdrLen] at hv
  rw [dataFrame_eq, parseFrame_around]
  generalize blockBytes (notificationType req.priority, req.notification.body) = v at hv
  have hshort : (v.take (v.length % 65536)).length < 6 := by
    rw [List.length_take]
    omega
  simp only [dataHeader, parseBody, BlockHeader.parse_short hshort]
  exact ⟨_, rfl⟩

/-- A notification decoded from the DATA frame of a request is that of the request. -/
lemma notificationOf_dataFrame {n : AlarmNotification}
    (hfit : 24 + dataLen req.notification.data ≤ 65535)
    (h : notificationOf (dataFrame cfg req seq ackSeq) = some n) : req.notification.ReadsAs n := by
  unfold notificationOf at h
  by_cases hle : 28 + dataLen req.notification.data ≤ 65535
  · rw [parseFrame_dataFrame hle] at h
    unfold AlarmNotification.ReadsAs
    cases hn : parseNotification req.notification.body with
    | ok n' =>
      rw [hn] at h
      cases h
      rfl
    | err e =>
      rw [hn] at h
      cases h
    | panic p =>
      rw [hn] at h
      cases h
  · obtain ⟨e, he⟩ : ∃ e, parseFrame (dataFrame cfg req seq ackSeq) = .err e :=
      parseFrame_wrapped hfit (not_le.1 hle)
    rw [he] at h
    cases h

end DataFrame

lemma notificationOf_ackFrame (ch : AlarmChannel) (priority : Priority) (seq : UInt16) :
    notificationOf (ch.ackFrame priority seq) = none := by
  rw [notificationOf, AlarmChannel.ackFrame, parseFrame_around]
  rfl

/-! ### The run -/

/-- The frames among some actions. -/
def sentFrames (acts : List AlarmAction) : List Bytes :=
  acts.filterMap fun | .send frame => some frame | _ => none

@[simp] lemma sentFrames_nil : sentFrames [] = [] := rfl

@[simp] lemma sentFrames_send (frame : Bytes) (acts : List AlarmAction) :
    sentFrames (.send frame :: acts) = frame :: sentFrames acts := rfl

@[simp] lemma sentFrames_acked (id : UInt32) (status : PnioStatus) (acts : List AlarmAction) :
    sentFrames (.acked id status :: acts) = sentFrames acts := rfl

@[simp] lemma sentFrames_abort (reason : AbortReason) (acts : List AlarmAction) :
    sentFrames (.abort reason :: acts) = sentFrames acts := rfl

@[simp] lemma sentFrames_unexpectedRx (acts : List AlarmAction) :
    sentFrames (.unexpectedRx :: acts) = sentFrames acts := rfl

/-- The Alarm-Ack echoes type, slot, subslot and AlarmSpecifier of the notification. -/
def Echoes (n : AlarmNotification) (a : AlarmAck) : Prop :=
  a.alarmType = n.alarmType ∧ a.slot = n.slot ∧ a.subslot = n.subslot ∧ a.specifier = n.specifier

instance (n : AlarmNotification) (a : AlarmAck) : Decidable (Echoes n a) :=
  inferInstanceAs (Decidable (_ ∧ _))

/-- The request with its specifier stamped. -/
def AlarmReq.stamped (req : AlarmReq) (seq : UInt16) : AlarmReq :=
  { req with notification := { req.notification with
    specifier := { req.notification.specifier with sequence := seq } } }

/-- How many specifier numbers there are. -/
def specifierNumbers : Nat := 2048

structure AlarmRun where
  ch : AlarmChannel
  /-- How many alarms were handed to `enqueue`. -/
  stamps : Nat
  enqueued : List AlarmReq
  wire : List Bytes
  received : List AlarmNotification
  /-- Each Alarm-Ack frame of the peer, with the notification it acknowledges. -/
  answered : List (AlarmNotification × Bytes)

inductive AlarmInput where
  | enqueue (req : AlarmReq) (now : Instant)
  | tick (now : Instant)
  | peerReceives (frame : Bytes)
  | peerAcks (n : AlarmNotification) (frame : Bytes)
  | deliver (frame : Bytes) (now : Instant)

namespace AlarmRun

def start (cfg : AlarmChannelConfig) : AlarmRun :=
  { ch := .new cfg, stamps := 0, enqueued := [], wire := [], received := [], answered := [] }

/-- What an operation of the channel leaves behind. -/
def after (r : AlarmRun) (ch : AlarmChannel) (acts : List AlarmAction) : AlarmRun :=
  { r with ch, wire := r.wire ++ sentFrames acts }

/-- An alarm is stamped, then enqueued; a refused one has used up its number. -/
def stepEnqueue (r : AlarmRun) (req : AlarmReq) (now : Instant) :
    Option (AlarmRun × List AlarmAction) :=
  if r.stamps + 1 < specifierNumbers then
    let (seq, ch) := r.ch.nextSpecifierSequence
    let req := req.stamped seq
    let r := { r with stamps := r.stamps + 1 }
    match ch.enqueue req now with
    | .ok (ch', acts) => some ({ r.after ch' acts with enqueued := r.enqueued ++ [req] }, acts)
    | .err _ => some ({ r with ch }, [])
    | .panic _ => none
  else none

/-- A frame other than an Alarm-Ack is unconstrained; an Alarm-Ack is one of the peer's. -/
def MayArrive (r : AlarmRun) (frame : Bytes) : Prop :=
  alarmAckOf r.ch.cfg.peerMac frame ≠ none → frame ∈ r.answered.map (·.2)

instance (r : AlarmRun) (frame : Bytes) : Decidable (r.MayArrive frame) :=
  inferInstanceAs (Decidable (_ → _))

def settle (r : AlarmRun) : Res AlarmError (AlarmChannel × List AlarmAction) →
    Option (AlarmRun × List AlarmAction)
  | .ok (ch', acts) => some (r.after ch' acts, acts)
  | .err _ => none
  | .panic _ => none

def step (r : AlarmRun) : AlarmInput → Option (AlarmRun × List AlarmAction)
  | .enqueue req now => r.stepEnqueue req now
  | .tick now => r.settle (r.ch.onTick now)
  | .peerReceives frame =>
    match notificationOf frame with
    | some n => if frame ∈ r.wire then some ({ r with received := r.received ++ [n] }, []) else none
    | none => none
  | .peerAcks n frame =>
    match alarmAckOf r.ch.cfg.peerMac frame with
    | some (_, a) =>
      if n ∈ r.received ∧ Echoes n a then
        some ({ r with answered := r.answered ++ [(n, frame)] }, [])
      else none
    | none => none
  | .deliver frame now => if r.MayArrive frame then r.settle (r.ch.onFrame frame now) else none

end AlarmRun

def alarmSystem (cfg : AlarmChannelConfig) : System AlarmRun AlarmInput where
  init r := r = .start cfg
  step r i := (r.step i).map (·.1)

/-! ### Every frame on the wire belongs to an enqueued alarm -/

/-- What the channel holds and sends are requests of `Q`, all of a size `enqueue` accepts. -/
structure AlarmChannel.Tracked (Q : AlarmReq → Prop) (ch : AlarmChannel) : Prop where
  inFlight : ∀ req, ch.state.req = some req → Q req
  queued : ∀ req ∈ ch.queue, Q req
  frame : ∀ req seq frame deadline, ch.state = .sentData req seq frame deadline →
    ∀ n, notificationOf frame = some n → req.notification.ReadsAs n

/-- Every notification on the wire is that of a request of `Q`. -/
def CarriesOnly (Q : AlarmReq → Prop) (frames : List Bytes) : Prop :=
  ∀ frame ∈ frames, ∀ n, notificationOf frame = some n → ∃ req, Q req ∧ req.notification.ReadsAs n

namespace AlarmChannel

variable {Q : AlarmReq → Prop} {ch ch' : AlarmChannel} {now : Instant} {acts : List AlarmAction}

lemma carriesOnly_nil : CarriesOnly Q [] := fun _ hm => by cases hm

lemma carriesOnly_cons {frame : Bytes} {frames : List Bytes}
    (h : ∀ n, notificationOf frame = some n → ∃ req, Q req ∧ req.notification.ReadsAs n)
    (hs : CarriesOnly Q frames) : CarriesOnly Q (frame :: frames) := by
  intro frame' hm
  rcases List.mem_cons.1 hm with rfl | hm
  · exact h
  · exact hs _ hm

lemma carriesOnly_ack (ch : AlarmChannel) (priority : Priority) (seq : UInt16)
    {frames : List Bytes} (hs : CarriesOnly Q frames) :
    CarriesOnly Q (ch.ackFrame priority seq :: frames) := by
  refine carriesOnly_cons (fun n hn => ?_) hs
  rw [notificationOf_ackFrame] at hn
  cases hn

lemma Started.tracked (hQ : ∀ req, Q req → 24 + dataLen req.notification.data ≤ 65535)
    (ht : ch.Tracked Q) (h : Started now ch ch' acts) :
    ch'.Tracked Q ∧ CarriesOnly Q (sentFrames acts) := by
  cases h with
  | nothing => exact ⟨ht, carriesOnly_nil⟩
  | @sent req queue hs hq =>
    have hreq : Q req := ht.queued req (by simp [hq])
    refine ⟨⟨?_, fun q hm => ?_, ?_⟩, ?_⟩
    · intro q h
      cases h
      exact hreq
    · have hm' : q ∈ queue := hm
      exact ht.queued q (by simp [hq, hm'])
    · intro q seq frame deadline h n hn
      cases h
      exact notificationOf_dataFrame (hQ _ hreq) hn
    · rw [sentFrames_send]
      exact carriesOnly_cons (fun n hn => ⟨req, hreq, notificationOf_dataFrame (hQ _ hreq) hn⟩)
        carriesOnly_nil

/-- A channel whose alarm in flight ended keeps only requests of `Q`. -/
lemma Tracked.idle (ht : ch.Tracked Q) (hs : ch'.state = .idle)
    (hq : ∀ r ∈ ch'.queue, r ∈ ch.queue) : ch'.Tracked Q := by
  refine ⟨fun req h => ?_, fun req h => ht.queued req (hq req h), fun req seq frame d h => ?_⟩
  · rw [hs] at h; cases h
  · rw [hs] at h; cases h

lemma Step.tracked {o : Op} (hQ : ∀ req, Q req → 24 + dataLen req.notification.data ≤ 65535)
    (ht : ch.Tracked Q) (he : ∀ req now, o = .enqueue req now → Q req) (h : Step ch o ch' acts) :
    ch'.Tracked Q ∧ CarriesOnly Q (sentFrames acts) := by
  cases h with
  | enqueued hfit h =>
    refine Started.tracked hQ ?_ h
    refine ⟨ht.inFlight, fun q hm => ?_, ht.frame⟩
    rcases List.mem_append.1 hm with hm | hm
    · exact ht.queued q hm
    · rw [List.mem_singleton.1 hm]; exact he _ _ rfl
  | unusable => exact ⟨⟨ht.inFlight, ht.queued, ht.frame⟩, carriesOnly_nil⟩
  | delivered hf hb hs =>
    refine ⟨⟨fun q h => ?_, ht.queued, fun _ _ _ _ h => by cases h⟩, carriesOnly_nil⟩
    cases h
    exact ht.inFlight _ (by rw [hs]; rfl)
  | strayAck hf hb hs => exact ⟨⟨ht.inFlight, ht.queued, ht.frame⟩, carriesOnly_nil⟩
  | duplicate hf hb hseq =>
    rw [sentFrames_send]
    exact ⟨ht, carriesOnly_ack _ _ _ carriesOnly_nil⟩
  | @acked frame now pdu a req ch' acts hf hb hseq hm h =>
    have hi : (ch.accepted pdu.header.sendSeq).completed.Tracked Q := ht.idle rfl fun _ h => h
    obtain ⟨h1, h2⟩ := h.tracked hQ hi
    rw [sentFrames_send, sentFrames_acked]
    exact ⟨h1, carriesOnly_ack _ _ _ h2⟩
  | otherData hf hb hseq hm =>
    rw [sentFrames_send, sentFrames_unexpectedRx]
    exact ⟨⟨ht.inFlight, ht.queued, ht.frame⟩, carriesOnly_ack _ _ _ carriesOnly_nil⟩
  | errRta hf hb => exact ⟨ht.idle rfl fun _ h => absurd h List.not_mem_nil, carriesOnly_nil⟩
  | early h => exact ⟨ht, carriesOnly_nil⟩
  | @resent now deadline req seq frame hs hd ha =>
    have hreq : Q req := ht.inFlight _ (by rw [hs]; rfl)
    refine ⟨⟨fun q h => ?_, ht.queued, fun q seq' frame' deadline' h => ?_⟩, ?_⟩
    · cases h
      exact hreq
    · cases h
      exact ht.frame _ _ _ _ hs
    · rw [sentFrames_send]
      exact carriesOnly_cons (fun n hn => ⟨req, hreq, ht.frame _ _ _ _ hs n hn⟩) carriesOnly_nil
  | gaveUp hs hd ha => exact ⟨ht.idle rfl fun _ h => absurd h List.not_mem_nil, carriesOnly_nil⟩
  | dropped hs hd h =>
    have hi : ch.gaveUpAck.Tracked Q := ht.idle rfl fun _ h => h
    exact h.tracked hQ hi

end AlarmChannel

/-! ### The invariant of a run -/

/-- The number a request is stamped with. -/
def AlarmReq.sequence (req : AlarmReq) : Nat := req.notification.specifier.sequence.toNat

structure AlarmInv (cfg : AlarmChannelConfig) (r : AlarmRun) : Prop where
  config : r.ch.cfg = cfg
  counter : r.ch.specifierSeq.toNat = r.stamps
  stamps : r.stamps < specifierNumbers
  stamped : ∀ req ∈ r.enqueued, req.sequence < r.stamps
  distinct : ∀ p ∈ r.enqueued, ∀ q ∈ r.enqueued, p.sequence = q.sequence → p = q
  fits : ∀ req ∈ r.enqueued, 24 + dataLen req.notification.data ≤ 65535
  tracked : r.ch.Tracked (· ∈ r.enqueued)
  wire : CarriesOnly (· ∈ r.enqueued) r.wire
  received : ∀ n ∈ r.received, ∃ req ∈ r.enqueued, req.notification.ReadsAs n
  answered : ∀ p ∈ r.answered, p.1 ∈ r.received ∧
    ∃ hd a, alarmAckOf cfg.peerMac p.2 = some (hd, a) ∧ Echoes p.1 a

lemma alarmInv_start (cfg : AlarmChannelConfig) : AlarmInv cfg (.start cfg) where
  config := rfl
  counter := rfl
  stamps := Nat.zero_lt_succ _
  stamped := fun _ h => by cases h
  distinct := fun _ h => by cases h
  fits := fun _ h => by cases h
  tracked := ⟨fun _ h => (by cases h), fun _ h => (by cases h), fun _ _ _ _ h => (by cases h)⟩
  wire := AlarmChannel.carriesOnly_nil
  received := fun _ h => by cases h
  answered := fun _ h => by cases h

lemma CarriesOnly.append {Q : AlarmReq → Prop} {fs gs : List Bytes} (hf : CarriesOnly Q fs)
    (hg : CarriesOnly Q gs) : CarriesOnly Q (fs ++ gs) := by
  intro frame hm
  rcases List.mem_append.1 hm with hm | hm
  · exact hf _ hm
  · exact hg _ hm

lemma CarriesOnly.mono {Q Q' : AlarmReq → Prop} {fs : List Bytes} (h : ∀ req, Q req → Q' req)
    (hf : CarriesOnly Q fs) : CarriesOnly Q' fs := by
  intro frame hm n hn
  obtain ⟨req, hq, hr⟩ := hf frame hm n hn
  exact ⟨req, h req hq, hr⟩

lemma AlarmChannel.Tracked.mono {Q Q' : AlarmReq → Prop} {ch : AlarmChannel}
    (h : ∀ req, Q req → Q' req) (ht : ch.Tracked Q) : ch.Tracked Q' :=
  ⟨fun req hr => h req (ht.inFlight req hr), fun req hr => h req (ht.queued req hr), ht.frame⟩

/-- An operation that enqueues nothing keeps the invariant. -/
lemma AlarmInv.after {cfg : AlarmChannelConfig} {r : AlarmRun} {o : AlarmChannel.Op}
    {ch' : AlarmChannel} {acts : List AlarmAction} (hi : AlarmInv cfg r)
    (ho : ∀ req now, o ≠ .enqueue req now) (h : r.ch.Step o ch' acts) :
    AlarmInv cfg (r.after ch' acts) := by
  obtain ⟨hc, hs⟩ := h.frame
  obtain ⟨ht, hw⟩ := h.tracked hi.fits hi.tracked fun req now he => absurd he (ho req now)
  exact { hi with
    config := hc.trans hi.config
    counter := (congrArg UInt16.toNat hs).trans hi.counter
    tracked := ht
    wire := hi.wire.append hw }

lemma specifierSeq_succ {v : UInt16} {n : Nat} (h : v.toNat = n) (hn : n + 1 < specifierNumbers) :
    ((v + 1) &&& 0x07FF).toNat = n + 1 := by
  have hv : (v + 1).toNat = n + 1 := by
    rw [UInt16.toNat_add, h]
    simp only [specifierNumbers] at hn
    simp; omega
  rw [UInt16.toNat_and, hv]
  have : (0x07FF : UInt16).toNat = 2 ^ 11 - 1 := rfl
  rw [this, Nat.and_two_pow_sub_one_eq_mod]
  exact Nat.mod_eq_of_lt hn

lemma AlarmInv.enqueue {cfg : AlarmChannelConfig} {r r' : AlarmRun} {req : AlarmReq}
    {now : Instant} {acts : List AlarmAction} (hi : AlarmInv cfg r)
    (h : r.stepEnqueue req now = some (r', acts)) : AlarmInv cfg r' := by
  unfold AlarmRun.stepEnqueue at h
  split_ifs at h with hn
  have hcount := specifierSeq_succ hi.counter hn
  have hlt : ∀ q ∈ r.enqueued, q.sequence < r.stamps + 1 := fun q hq =>
    Nat.lt_succ_of_lt (hi.stamped q hq)
  -- the alarm is refused, or it joins the enqueued ones under a new number
  simp only at h
  split at h
  · rename_i ch' acts' he
    cases h
    generalize hreq : req.stamped r.ch.nextSpecifierSequence.1 = new at he
    have hseq : new.sequence = r.stamps := by
      rw [← hreq]; exact hi.counter
    have hstep : r.ch.nextSpecifierSequence.2.Step (.enqueue new now) ch' acts :=
      AlarmChannel.op_step (o := .enqueue new now) he
    obtain ⟨hc, hs⟩ := hstep.frame
    have hfit : 24 + dataLen new.notification.data ≤ 65535 := by
      cases hstep with
      | enqueued hfit h =>
        have := r.ch.nextSpecifierSequence.2.cfg.maxAlarmDataLength.toNat_lt
        simp only [notificationFixedLen] at hfit
        omega
    have hmono : ∀ q, q ∈ r.enqueued → q ∈ r.enqueued ++ [new] := fun q hq =>
      List.mem_append_left _ hq
    have hfits : ∀ q ∈ r.enqueued ++ [new], 24 + dataLen q.notification.data ≤ 65535 := by
      intro q hq
      rcases List.mem_append.1 hq with hq | hq
      · exact hi.fits q hq
      · rw [List.mem_singleton.1 hq]; exact hfit
    have hold := hi.tracked.mono hmono
    have htr : r.ch.nextSpecifierSequence.2.Tracked (· ∈ r.enqueued ++ [new]) :=
      ⟨hold.inFlight, hold.queued, hold.frame⟩
    obtain ⟨ht, hw⟩ := hstep.tracked hfits htr fun q now' he' => by
      cases he'
      exact List.mem_append_right _ (List.mem_singleton_self _)
    exact {
      config := hc.trans hi.config
      counter := (congrArg UInt16.toNat hs).trans hcount
      stamps := hn
      stamped := by
        intro q hq
        rcases List.mem_append.1 hq with hq | hq
        · exact hlt q hq
        · rw [List.mem_singleton.1 hq, hseq]; exact Nat.lt_succ_self _
      distinct := by
        intro p hp q hq hpq
        rcases List.mem_append.1 hp with hp | hp <;> rcases List.mem_append.1 hq with hq | hq
        · exact hi.distinct p hp q hq hpq
        · have := hi.stamped p hp
          rw [List.mem_singleton.1 hq] at hpq
          omega
        · have := hi.stamped q hq
          rw [List.mem_singleton.1 hp] at hpq
          omega
        · rw [List.mem_singleton.1 hp, List.mem_singleton.1 hq]
      fits := hfits
      tracked := ht
      wire := (hi.wire.mono hmono).append hw
      received := fun n hn => by
        obtain ⟨q, hq, hr⟩ := hi.received n hn
        exact ⟨q, hmono q hq, hr⟩
      answered := hi.answered }
  · cases h
    exact { hi with
      counter := hcount
      stamps := hn
      stamped := hlt
      tracked := ⟨hi.tracked.inFlight, hi.tracked.queued, hi.tracked.frame⟩ }
  · cases h

lemma AlarmRun.settle_eq_some {r r' : AlarmRun} {acts : List AlarmAction}
    {x : Res AlarmError (AlarmChannel × List AlarmAction)} :
    r.settle x = some (r', acts) ↔ ∃ ch', x = .ok (ch', acts) ∧ r' = r.after ch' acts := by
  rcases x with ⟨ch', acts'⟩ | e | p
  · simp only [settle, Option.some.injEq, Prod.mk.injEq, Res.ok.injEq]
    constructor
    · rintro ⟨rfl, rfl⟩
      exact ⟨ch', ⟨rfl, rfl⟩, rfl⟩
    · rintro ⟨ch'', ⟨rfl, rfl⟩, rfl⟩
      exact ⟨rfl, rfl⟩
  · simp [settle]
  · simp [settle]

lemma alarmInv_step {cfg : AlarmChannelConfig} {r r' : AlarmRun} {i : AlarmInput}
    {acts : List AlarmAction} (hi : AlarmInv cfg r) (h : r.step i = some (r', acts)) :
    AlarmInv cfg r' := by
  cases i with
  | enqueue req now => exact hi.enqueue h
  | tick now =>
    obtain ⟨ch', ht, rfl⟩ := AlarmRun.settle_eq_some.1 h
    exact hi.after (o := .tick now) (fun _ _ h => by cases h) (AlarmChannel.onTick_step ht)
  | peerReceives frame =>
    simp only [AlarmRun.step] at h
    split at h
    · rename_i n hn
      split_ifs at h with hm
      cases h
      refine { hi with received := ?_, answered := ?_ }
      · intro n' hn'
        rcases List.mem_append.1 hn' with hn' | hn'
        · exact hi.received n' hn'
        · rw [List.mem_singleton.1 hn']; exact hi.wire frame hm n hn
      · exact fun p hp => (hi.answered p hp).imp_left (List.mem_append_left _)
    · cases h
  | peerAcks n frame =>
    simp only [AlarmRun.step] at h
    split at h
    · rename_i hd a ha
      split_ifs at h with hm
      cases h
      refine { hi with answered := ?_ }
      intro p hp
      rcases List.mem_append.1 hp with hp | hp
      · exact hi.answered p hp
      · rw [List.mem_singleton.1 hp]
        rw [hi.config] at ha
        exact ⟨hm.1, hd, a, ha, hm.2⟩
    · cases h
  | deliver frame now =>
    simp only [AlarmRun.step] at h
    split_ifs at h with hm
    obtain ⟨ch', ht, rfl⟩ := AlarmRun.settle_eq_some.1 h
    exact hi.after (o := .frame frame now) (fun _ _ h => by cases h)
      (AlarmChannel.onFrame_step ht)

lemma alarmInv_reach {cfg : AlarmChannelConfig} {r : AlarmRun}
    (h : (alarmSystem cfg).Reach r) : AlarmInv cfg r := by
  refine h.inv (fun r h => ?_) fun r i r' hi hs => ?_
  · rw [show r = .start cfg from h]
    exact alarmInv_start cfg
  · obtain ⟨⟨r1, acts⟩, h1, rfl⟩ := Option.map_eq_some_iff.1 hs
    exact alarmInv_step hi h1

/-! ### A channel and its peer -/

namespace AlarmDemo

def cfg : AlarmChannelConfig :=
  { localRef := 1, remoteRef := 2, rtaTimeout := 100, rtaRetries := 3, maxAlarmDataLength := 200,
    peerMac := MacAddr.of 2 0 0 0 0 2, ourMac := MacAddr.of 2 0 0 0 0 1 }

def noFlags (sequence : UInt16) : AlarmSpecifier := ⟨sequence, false, false, false, false⟩

/-- A diagnosis alarm on slot 1, subslot 1. -/
def alarm (id : UInt32) : AlarmReq :=
  { id, priority := .low, notification :=
    { alarmType := .diagnosis, api := 0, slot := 1, subslot := 1, moduleIdent := 3,
      submoduleIdent := 4, specifier := noFlags 0, usi := 1, data := .raw [7] } }

/-- A frame of the peer. -/
def peerFrame (pduType : PduType) (sendSeq ackSeq : UInt16) (varPart : Bytes) : Bytes :=
  frameAround cfg.ourMac cfg.peerMac .low
    { dstRef := 1, srcRef := 2, pduType, tack := false, sendSeq, ackSeq } varPart

/-- The peer's Alarm-Ack for the notification with this number. -/
def peerAck (sequence : UInt16) : Bytes :=
  let body := AlarmAck.body ⟨.diagnosis, 0, 1, 1, noFlags sequence, ⟨0⟩⟩
  peerFrame .data 0xFFFF 0xFFFF
    (be16 (ackType .low) ++ be16 (UInt16.ofNat body.length + 2) ++ [1, 0] ++ body)

end AlarmDemo

end Pnio
