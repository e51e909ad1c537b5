import Pnio.AlarmLog
import Pnio.EngineTick

/-!
Frames of a third station have no effect.

A run of the alarm channel or of the RT engine is compared with the run in which all frames that do
not come from the controller of the AR are left out: but for the counters of ignored frames, the
two cannot be told apart.
-/

namespace Pnio

/-- The frame is too short for a source address, or that address is not `mac`. -/
def isForeign (mac : MacAddr) (frame : Bytes) : Bool :=
  frame.length < 12 || (frame.drop 6).take 6 ≠ mac.bytes

/-- A header that can be read has the source address where everyone looks for it. -/
lemma EthHeader.src_ne_of_foreign {mac : MacAddr} {frame : Bytes} {eth : EthHeader} {off : Nat}
    (hf : isForeign mac frame = true) (h : parse frame = .ok (eth, off)) : eth.src ≠ mac := by
  rintro rfl
  obtain ⟨-, hsrc, first, hfirst, -⟩ := parse_eq_ok.1 h
  have hlen := le_of_half hfirst
  simp only [isForeign, Bool.or_eq_true, decide_eq_true_eq] at hf
  rcases hf with hf | hf
  · omega
  · exact hf hsrc.symm

/-! ### The alarm channel -/

namespace AlarmChannel

variable {ε : Type} {ch ch' : AlarmChannel}

/-- The channel with another count of ignored frames. -/
def ignoring (ch : AlarmChannel) (n : Nat) : AlarmChannel :=
  { ch with stats := { ch.stats with unexpectedRx := n } }

/-- The same channel but for the count of ignored frames. -/
def Same (ch ch' : AlarmChannel) : Prop := ∃ n, ch' = ch.ignoring n

/-- The same channel in this sense, and the same reply. -/
def SameReply {α : Type} (q q' : AlarmChannel × α) : Prop := Same q.1 q'.1 ∧ q'.2 = q.2

section Alike

variable (ch) (n : Nat) (now : Instant)

lemma sendNext_alike :
    Res.Alike SameReply (ch.sendNext now : Res ε _) ((ch.ignoring n).sendNext now) := by
  unfold sendNext
  simp only [ignoring]
  split
  · exact .step _ fun frame => .ok ⟨⟨n, rfl⟩, rfl⟩
  · exact .ok ⟨⟨n, rfl⟩, rfl⟩

lemma enqueue_alike (req : AlarmReq) :
    Res.Alike SameReply (ch.enqueue req now) ((ch.ignoring n).enqueue req now) :=
  .step _ fun _ => sendNext_alike { ch with queue := ch.queue ++ [req] } n now

lemma onTick_alike :
    Res.Alike SameReply (ch.onTick now : Res ε _) ((ch.ignoring n).onTick now) := by
  have hstay : Res.Alike SameReply (.ok (ch, []) : Res ε (AlarmChannel × List AlarmAction))
      (.ok (ch.ignoring n, [])) := .ok ⟨⟨n, rfl⟩, rfl⟩
  have hretry : Res.Alike SameReply (ch.retryOrAbort now : Res ε _)
      ((ch.ignoring n).retryOrAbort now) := by
    refine .ite Iff.rfl (fun _ => ?_) fun _ => .ok ⟨⟨n, rfl⟩, rfl⟩
    simp only [ignoring]
    split
    · exact .ok ⟨⟨n, rfl⟩, rfl⟩
    · exact .panic _
  have hdrop : Res.Alike SameReply (ch.dropUnacknowledged now : Res ε _)
      ((ch.ignoring n).dropUnacknowledged now) := by
    unfold dropUnacknowledged
    simp only [ignoring]
    split
    · exact sendNext_alike ch.gaveUpAck n now
    · exact .panic _
  have hstate : (ch.ignoring n).state = ch.state := rfl
  unfold onTick
  rw [hstate]
  split
  · exact .ite Iff.rfl (fun _ => hstay) fun _ => hretry
  · exact .ite Iff.rfl (fun _ => hstay) fun _ => hdrop
  · exact hstay

lemma onData_alike (header : RtaHeader) (priority : Priority) (data : RtaData) :
    Res.Alike SameReply (ch.onData header priority data now : Res ε _)
      ((ch.ignoring n).onData header priority data now) := by
  have hcount : ∀ acts : List AlarmAction, Res.Alike SameReply
      (.ok ((ch.accepted header.sendSeq).countUnexpected, acts) : Res ε _)
      (.ok (((ch.ignoring n).accepted header.sendSeq).countUnexpected, acts)) :=
    fun acts => .ok ⟨⟨n + 1, rfl⟩, rfl⟩
  have hmatch : ∀ a, ((ch.ignoring n).accepted header.sendSeq).matchesInFlight a =
      (ch.accepted header.sendSeq).matchesInFlight a := fun _ => rfl
  refine .ite Iff.rfl (fun _ => .step _ fun ack => .ok ⟨⟨n, rfl⟩, rfl⟩) fun _ => ?_
  refine .step _ fun ack => ?_
  cases data with
  | ack a =>
    dsimp only
    rw [hmatch]
    split
    · refine (sendNext_alike (ch.accepted header.sendSeq).completed n now).bind ?_
      rintro ⟨ch1, acts⟩ ⟨ch2, acts'⟩ ⟨hch, hacts⟩
      exact .ok ⟨hch, by rw [show acts' = acts from hacts]⟩
    · exact hcount _
  | notification a => exact hcount _
  | unknown a b => exact hcount _

lemma onFrame_alike (frame : Bytes) :
    Res.Alike SameReply (ch.onFrame frame now : Res ε _) ((ch.ignoring n).onFrame frame now) := by
  have hcfg : (ch.ignoring n).cfg = ch.cfg := rfl
  rw [onFrame_eq, onFrame_eq, hcfg]
  split
  · rename_i pdu _
    unfold onPdu
    split
    · unfold onTransportAck
      simp only [ignoring]
      split
      · split_ifs
        · exact .ok ⟨⟨n, rfl⟩, rfl⟩
        · exact .ok ⟨⟨n + 1, rfl⟩, rfl⟩
      · exact .ok ⟨⟨n + 1, rfl⟩, rfl⟩
    · exact onData_alike ch n now _ _ _
    · exact .ok ⟨⟨n, rfl⟩, rfl⟩
    · exact .ok ⟨⟨n + 1, rfl⟩, rfl⟩
  · exact .ok ⟨⟨n + 1, rfl⟩, rfl⟩

end Alike

/-- **No call depends on the count of ignored frames.** -/
lemma call_same (hs : Same ch ch') {c : ChannelCall} {ch1 : AlarmChannel} {reply : ChannelReply}
    (h : ch.call c = some (ch1, reply)) : ∃ ch2, ch'.call c = some (ch2, reply) ∧ Same ch1 ch2 := by
  obtain ⟨n, rfl⟩ := hs
  cases c with
  | op o =>
    have halike : Res.Alike SameReply (ch.op o) ((ch.ignoring n).op o) := by
      cases o with
      | enqueue req now => exact enqueue_alike ch n now req
      | frame bytes now => exact onFrame_alike ch n now bytes
      | tick now => exact onTick_alike ch n now
    simp only [call] at h ⊢
    generalize ch.op o = x at h halike
    generalize (ch.ignoring n).op o = y at halike
    cases halike with
    | ok hq =>
      rename_i q q'
      obtain ⟨a, acts⟩ := q
      obtain ⟨b, acts'⟩ := q'
      obtain ⟨hab, rfl⟩ := hq
      cases h
      exact ⟨b, rfl, hab⟩
    | err e =>
      cases h
      exact ⟨_, rfl, n, rfl⟩
    | panic p => cases h
  | errRta status =>
    have herr : (ch.ignoring n).errRta status = (ch.errRta status : Res Empty _) := rfl
    simp only [call] at h ⊢
    rw [herr]
    obtain ⟨frame, hf, hq⟩ := Option.map_eq_some_iff.1 h
    cases hq
    exact ⟨ch.ignoring n, by rw [hf]; rfl, n, rfl⟩
  | specifier =>
    cases h
    exact ⟨_, rfl, n, rfl⟩

end AlarmChannel

/-- A frame that the peer did not send. -/
def ChannelCall.isForeign (peer : MacAddr) : ChannelCall → Bool
  | .op (.frame bytes _) => Pnio.isForeign peer bytes
  | _ => false

/-- The calls of a run and what they returned. -/
def ChannelRun.said (r : ChannelRun) : List (ChannelCall × ChannelReply) :=
  r.log.map fun u => (u.call, u.reply)

/-- A frame of someone else is counted. -/
lemma AlarmChannel.call_foreign {ch ch' : AlarmChannel} {c : ChannelCall} {reply : ChannelReply}
    (hc : c.isForeign ch.cfg.peerMac = true) (h : ch.call c = some (ch', reply)) :
    ch' = ch.countUnexpected ∧ reply = .acts [.unexpectedRx] := by
  obtain ⟨bytes, now, rfl, hf⟩ : ∃ bytes now, c = .op (.frame bytes now) ∧
      Pnio.isForeign ch.cfg.peerMac bytes = true := by
    cases c with
    | op o =>
      cases o with
      | frame bytes now => exact ⟨bytes, now, rfl, hc⟩
      | enqueue req now => cases hc
      | tick now => cases hc
    | errRta status => cases hc
    | specifier => cases hc
  have hpdu : peerPdu ch.cfg.peerMac bytes = none := by
    rw [Option.eq_none_iff_forall_ne_some]
    intro pdu hp
    obtain ⟨-, eth, off, heth, hsrc⟩ := peerPdu_eq_some.1 hp
    exact EthHeader.src_ne_of_foreign hf heth hsrc
  simp only [call, op] at h
  rw [onFrame_eq, hpdu] at h
  cases h
  exact ⟨rfl, rfl⟩

lemma channel_run_filter {cfg : AlarmChannelConfig} {calls : List ChannelCall} {r : ChannelRun}
    (h : channelSystem.run ⟨.new cfg, []⟩ calls = some r) :
    ∃ r', channelSystem.run ⟨.new cfg, []⟩ (calls.filter fun c => !c.isForeign cfg.peerMac) =
        some r' ∧
      (r.ch.cfg = cfg ∧ AlarmChannel.Same r.ch r'.ch) ∧
      r'.said = r.said.filter (fun u => !u.1.isForeign cfg.peerMac) ∧
      ∀ u ∈ r.said, (!u.1.isForeign cfg.peerMac) = false → u.2 = .acts [.unexpectedRx] := by
  refine System.run_filter_log
    (R := fun r r' : ChannelRun => r.ch.cfg = cfg ∧ AlarmChannel.Same r.ch r'.ch)
    (H := fun y => y = ChannelReply.acts [.unexpectedRx]) ?_ ?_ ?_ rfl rfl h
  · rintro r t c r1 ⟨hcfg, hsame⟩ - h1
    obtain ⟨⟨ch1, reply⟩, hc, rfl⟩ := Option.map_eq_some_iff.1 h1
    obtain ⟨ch2, hc2, hsame2⟩ := AlarmChannel.call_same hsame hc
    refine ⟨⟨ch2, t.log ++ [⟨t.ch, c, ch2, reply⟩]⟩, reply, ?_, ⟨?_, hsame2⟩, ?_, ?_⟩
    · exact Option.map_eq_some_iff.2 ⟨(ch2, reply), hc2, rfl⟩
    · exact (AlarmChannel.call_called hc).cfg.trans hcfg
    · exact List.map_append
    · exact List.map_append
  · rintro r t c r1 ⟨hcfg, n, ht⟩ hk h1
    obtain ⟨⟨ch1, reply⟩, hc, rfl⟩ := Option.map_eq_some_iff.1 h1
    rw [Bool.not_eq_false', ← hcfg] at hk
    obtain ⟨rfl, rfl⟩ := AlarmChannel.call_foreign hk hc
    exact ⟨⟨hcfg, n, ht⟩, _, List.map_append, rfl⟩
  · exact ⟨rfl, 0, rfl⟩

/-! ### The RT engine -/

namespace RtEngine

variable {ε : Type} {e e' : RtEngine}

/-- The engine with other counts of unused frames. -/
def ignoring (e : RtEngine) (ignored dropped : Nat) : RtEngine :=
  { e with stats := { e.stats with rxIgnored := ignored, rxDropped := dropped } }

/-- The same engine but for the counts of unused frames. -/
def Same (e e' : RtEngine) : Prop := ∃ i d, e' = e.ignoring i d

def SameReply {α : Type} (q q' : RtEngine × α) : Prop := Same q.1 q'.1 ∧ q'.2 = q.2

section Alike

variable (e) (i d : Nat) (now : Instant)

lemma onTick_alike (problem : Bool) (n : UInt32) (inputs : Bytes) :
    Res.Alike SameReply (e.onTick problem n inputs : Res ε _)
      ((e.ignoring i d).onTick problem n inputs) := by
  refine .step _ fun csdu => .step _ fun csdu' => .step _ fun r => ?_
  cases r with
  | ok q => exact .ok ⟨⟨i, d, rfl⟩, rfl⟩
  | error err => exact .panic _

lemma onFrame_alike (frame : Bytes) :
    Res.Alike SameReply (e.onFrame frame now : Res ε _) ((e.ignoring i d).onFrame frame now) := by
  refine .step _ fun r => ?_
  cases r with
  | error err => exact .ok ⟨⟨i, d + 1, rfl⟩, rfl⟩
  | ok q =>
    obtain ⟨eth, rt⟩ := q
    refine .ite Iff.rfl (fun _ => .ok ⟨⟨i + 1, d, rfl⟩, rfl⟩) fun _ => ?_
    refine .ite Iff.rfl (fun _ => .ok ⟨⟨i, d + 1, rfl⟩, rfl⟩) fun _ => ?_
    refine .ite Iff.rfl (fun _ => .ok ⟨⟨i, d + 1, rfl⟩, rfl⟩) fun _ => ?_
    refine .ite Iff.rfl (fun _ => ?_) fun _ => .ok ⟨⟨i, d, rfl⟩, rfl⟩
    refine Res.Alike.bind (R := Same) ?_ fun e1 e2 h => .ok ⟨h, rfl⟩
    refine .step _ fun rx => .step _ fun csdu => .step _ fun iops => .step _ fun iocs => ?_
    exact .ok ⟨i, d, rfl⟩

lemma checkWatchdog_same :
    SameReply (e.checkWatchdog now) ((e.ignoring i d).checkWatchdog now) := by
  have hlast : (e.ignoring i d).lastRx = e.lastRx := rfl
  have hstate : (e.ignoring i d).watchdogState = e.watchdogState := rfl
  have hlimit : (e.ignoring i d).layout = e.layout := rfl
  unfold checkWatchdog
  rw [hlast, hstate, hlimit]
  split
  · exact ⟨⟨i, d, rfl⟩, rfl⟩
  · split_ifs
    · exact ⟨⟨i, d, rfl⟩, rfl⟩
    · split <;> exact ⟨⟨i, d, rfl⟩, rfl⟩

end Alike

/-- **No call depends on the counts of unused frames.** -/
lemma call_alike (hs : Same e e') (c : EngineCall) :
    Res.Alike SameReply (e.call c : Res ε _) (e'.call c) := by
  obtain ⟨i, d, rfl⟩ := hs
  cases c with
  | tick problem n inputs =>
    refine (onTick_alike e i d problem n inputs).bind ?_
    rintro ⟨e1, frame⟩ ⟨e2, frame'⟩ ⟨he, hf⟩
    exact .ok ⟨he, congrArg EngineReply.produced hf⟩
  | frame bytes now =>
    refine (onFrame_alike e i d now bytes).bind ?_
    rintro ⟨e1, v⟩ ⟨e2, v'⟩ ⟨he, hv⟩
    exact .ok ⟨he, congrArg EngineReply.received hv⟩
  | check now =>
    obtain ⟨he, hv⟩ := checkWatchdog_same e i d now
    exact .ok ⟨he, congrArg EngineReply.checked hv⟩
  | stale => exact .ok ⟨⟨i, d, rfl⟩, rfl⟩

lemma call_cpuMac {c : EngineCall} {reply : EngineReply}
    (h : (e.call c : Res ε _) = .ok (e', reply)) : e'.cpuMac = e.cpuMac := by
  cases c with
  | tick problem n inputs =>
    obtain ⟨⟨e1, frame⟩, ht, h⟩ := Res.bind_eq_ok.1 h
    cases h
    obtain ⟨csdu, -, ht⟩ := Res.bind_eq_ok.1 ht
    obtain ⟨csdu', -, ht⟩ := Res.bind_eq_ok.1 ht
    obtain ⟨r, -, ht⟩ := Res.bind_eq_ok.1 ht
    cases r with
    | ok q =>
      cases ht
      rfl
    | error err => cases ht
  | frame bytes now =>
    obtain ⟨⟨e1, v⟩, hf, h⟩ := Res.bind_eq_ok.1 h
    cases h
    exact (onFrame_sameTx hf).cpuMac
  | check now =>
    cases h
    exact (checkWatchdog_sameTx e now).cpuMac
  | stale =>
    cases h
    rfl

end RtEngine

/-- A frame that the controller did not send. -/
def EngineCall.isForeign (cpuMac : MacAddr) : EngineCall → Bool
  | .frame bytes _ => Pnio.isForeign cpuMac bytes
  | _ => false

def EngineRun.said (r : EngineRun) : List (EngineCall × EngineReply) :=
  r.log.map fun u => (u.call, u.reply)

/-- The engine did not use the frame. -/
def EngineReply.Unused (reply : EngineReply) : Prop :=
  reply = .received .ignored ∨ ∃ why, reply = .received (.dropped why)

lemma RtFrame.eth_of_parse {frame : Bytes} {eth : EthHeader} {rt : RtFrame}
    (h : parse frame = .ok (eth, rt)) : ∃ off, EthHeader.parse frame = .ok (eth, off) := by
  unfold parse at h
  obtain ⟨⟨eth', off⟩, heth, h⟩ := Res.bind_eq_ok.1 h
  rw [Res.mapErr_eq_ok] at heth
  simp only [Res.bind_eq_ok] at h
  obtain ⟨_, -, _, -, _, -, _, -, _, -, _, -, _, -, _, -, h⟩ := h
  cases h
  exact ⟨off, heth⟩

/-- A frame of someone else is ignored or dropped. -/
lemma RtEngine.call_foreign {ε : Type} {e e' : RtEngine} {c : EngineCall} {reply : EngineReply}
    (hc : c.isForeign e.cpuMac = true) (h : (e.call c : Res ε _) = .ok (e', reply)) :
    (∃ i d, e' = e.ignoring i d) ∧ reply.Unused := by
  obtain ⟨bytes, now, rfl, hf⟩ : ∃ bytes now, c = .frame bytes now ∧
      Pnio.isForeign e.cpuMac bytes = true := by
    cases c with
    | frame bytes now => exact ⟨bytes, now, rfl, hc⟩
    | tick problem n inputs => cases hc
    | check now => cases hc
    | stale => cases hc
  obtain ⟨⟨e1, v⟩, hv, h⟩ := Res.bind_eq_ok.1 h
  cases h
  unfold onFrame at hv
  cases hp : RtFrame.parse bytes with
  | panic k => exact absurd hp ((RtFrame.noPanic_parse bytes).ne_panic k)
  | err err =>
    rw [hp] at hv
    cases hv
    exact ⟨⟨_, _, rfl⟩, .inr ⟨_, rfl⟩⟩
  | ok q =>
    obtain ⟨eth, rt⟩ := q
    have hsrc : eth.src ≠ e.cpuMac := by
      obtain ⟨off, heth⟩ := RtFrame.eth_of_parse hp
      exact EthHeader.src_ne_of_foreign hf heth
    rw [hp, Res.attempt_ok, Res.ok_bind] at hv
    dsimp only at hv
    rw [if_pos (.inl hsrc)] at hv
    cases hv
    exact ⟨⟨_, _, rfl⟩, .inl rfl⟩

lemma engine_run_filter {l : Layout} {ourMac cpuMac : MacAddr} {stats : RtStats}
    {calls : List EngineCall} {r : EngineRun}
    (h : (engineSystem l ourMac cpuMac stats).run ⟨.new l ourMac cpuMac stats, []⟩ calls =
      some r) :
    ∃ r', (engineSystem l ourMac cpuMac stats).run ⟨.new l ourMac cpuMac stats, []⟩
        (calls.filter fun c => !c.isForeign cpuMac) = some r' ∧
      (r.engine.cpuMac = cpuMac ∧ RtEngine.Same r.engine r'.engine) ∧
      r'.said = r.said.filter (fun u => !u.1.isForeign cpuMac) ∧
      ∀ u ∈ r.said, (!u.1.isForeign cpuMac) = false → u.2.Unused := by
  refine System.run_filter_log
    (R := fun r r' : EngineRun => r.engine.cpuMac = cpuMac ∧ RtEngine.Same r.engine r'.engine)
    (H := EngineReply.Unused) ?_ ?_ ?_ rfl rfl h
  · rintro r t c r1 ⟨hmac, hsame⟩ - h1
    obtain ⟨e1, reply, hc, rfl⟩ := engine_step h1
    obtain ⟨⟨e2, reply'⟩, hc2, hsame2, hreply⟩ := (RtEngine.call_alike hsame c).exists_ok hc
    cases hreply
    refine ⟨⟨e2, t.log ++ [⟨c, reply⟩]⟩, reply, ?_, ⟨?_, hsame2⟩, ?_, ?_⟩
    · simp only [engineSystem, hc2]
    · exact (RtEngine.call_cpuMac hc).trans hmac
    · exact List.map_append
    · exact List.map_append
  · rintro r t c r1 ⟨hmac, i, d, ht⟩ hk h1
    obtain ⟨e1, reply, hc, rfl⟩ := engine_step h1
    rw [Bool.not_eq_false', ← hmac] at hk
    obtain ⟨⟨i', d', rfl⟩, hreply⟩ := RtEngine.call_foreign hk hc
    exact ⟨⟨hmac, i, d, ht⟩, reply, List.map_append, hreply⟩
  · exact ⟨rfl, _, _, rfl⟩

/-! ### Both -/

/-- **A third station has no effect.** In every run of a channel and in every run of an engine, the
frames that the controller did not send can be deleted from the calls: the other calls return the
same, and the state is the same but for the counters of ignored frames. The deleted frames
themselves were counted and nothing else. -/
theorem third_station_deletable :
    (∀ cfg calls r, channelSystem.run ⟨.new cfg, []⟩ calls = some r →
      ∃ r', channelSystem.run ⟨.new cfg, []⟩ (calls.filter fun c => !c.isForeign cfg.peerMac) =
          some r' ∧
        AlarmChannel.Same r.ch r'.ch ∧
        r'.said = r.said.filter (fun u => !u.1.isForeign cfg.peerMac) ∧
        ∀ u ∈ r.said, u.1.isForeign cfg.peerMac = true → u.2 = .acts [.unexpectedRx]) ∧
    ∀ l ourMac cpuMac stats calls r,
      (engineSystem l ourMac cpuMac stats).run ⟨.new l ourMac cpuMac stats, []⟩ calls = some r →
      ∃ r', (engineSystem l ourMac cpuMac stats).run ⟨.new l ourMac cpuMac stats, []⟩
          (calls.filter fun c => !c.isForeign cpuMac) = some r' ∧
        RtEngine.Same r.engine r'.engine ∧
        r'.said = r.said.filter (fun u => !u.1.isForeign cpuMac) ∧
        ∀ u ∈ r.said, u.1.isForeign cpuMac = true → u.2.Unused := by
  constructor
  · intro cfg calls r h
    obtain ⟨r', hr', ⟨-, hsame⟩, hsaid, hhidden⟩ := channel_run_filter h
    refine ⟨r', hr', hsame, hsaid, fun u hu hf => hhidden u hu ?_⟩
    rw [hf]
    rfl
  · intro l ourMac cpuMac stats calls r h
    obtain ⟨r', hr', ⟨-, hsame⟩, hsaid, hhidden⟩ := engine_run_filter h
    refine ⟨r', hr', hsame, hsaid, fun u hu hf => hhidden u hu ?_⟩
    rw [hf]
    rfl

namespace ThirdPartyDemo

def third : MacAddr := MacAddr.of 2 0 0 0 0 9

/-- The transport acknowledgement of the first alarm, but not from the peer. -/
def forgedAck : Bytes :=
  frameAround AlarmDemo.cfg.ourMac third .low
    ⟨1, 2, .ack, false, 0xFFFE, 0xFFFF⟩ []

/-- Outputs, but not from the controller. -/
def forgedOutputs : Bytes :=
  RtFrame.bytes ⟨0x8001, [9, 9], 2, .runPrimaryValidOk, 0⟩ EngineDemo.ourMac third

def alarms : List ChannelCall :=
  [.op (.enqueue (AlarmDemo.alarm 1) 0), .op (.frame forgedAck 50), .op (.tick 100)]

def cycles : List EngineCall :=
  [.frame EngineDemo.outputs 1, .frame forgedOutputs 9, .frame [1, 2, 3] 10, .check 12]

end ThirdPartyDemo

open ThirdPartyDemo in
/-- The alarm is sent again in time, and the watchdog expires, as if the third station were not
there. -/
theorem third_station_deletable_forged :
    (∃ r r', channelSystem.run ⟨.new AlarmDemo.cfg, []⟩ alarms = some r ∧
      channelSystem.run ⟨.new AlarmDemo.cfg, []⟩
        [.op (.enqueue (AlarmDemo.alarm 1) 0), .op (.tick 100)] = some r' ∧
      AlarmChannel.Same r.ch r'.ch) ∧
    ∃ r r', (engineSystem EngineDemo.layout EngineDemo.ourMac EngineDemo.cpuMac {}).run
        ⟨.new EngineDemo.layout EngineDemo.ourMac EngineDemo.cpuMac {}, []⟩ cycles = some r ∧
      (engineSystem EngineDemo.layout EngineDemo.ourMac EngineDemo.cpuMac {}).run
        ⟨.new EngineDemo.layout EngineDemo.ourMac EngineDemo.cpuMac {}, []⟩
        [.frame EngineDemo.outputs 1, .check 12] = some r' ∧
      RtEngine.Same r.engine r'.engine := by
  constructor
  · have hrun : (channelSystem.run ⟨.new AlarmDemo.cfg, []⟩ alarms).isSome = true := by
      decide +kernel
    obtain ⟨r, hr⟩ := Option.isSome_iff_exists.1 hrun
    obtain ⟨r', hr', hsame, -⟩ := third_station_deletable.1 _ _ _ hr
    exact ⟨r, r', hr, hr', hsame⟩
  · have hrun : ((engineSystem EngineDemo.layout EngineDemo.ourMac EngineDemo.cpuMac {}).run
        ⟨.new EngineDemo.layout EngineDemo.ourMac EngineDemo.cpuMac {}, []⟩ cycles).isSome =
        true := by
      decide +kernel
    obtain ⟨r, hr⟩ := Option.isSome_iff_exists.1 hrun
    obtain ⟨r', hr', hsame, -⟩ := third_station_deletable.2 _ _ _ _ _ _ hr
    exact ⟨r, r', hr, hr', hsame⟩

end Pnio
