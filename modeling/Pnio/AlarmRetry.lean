import Pnio.AlarmLog

/-!
How often an alarm is sent, and when.

The life of an alarm in the history runs from its first transmission to the turn before the next
first transmission. Within it the same frame goes out a bounded number of times, the deadline
apart, and never again once the peer has acknowledged it.
-/

namespace Pnio

/-- The time of a call. -/
def ChannelCall.time : ChannelCall → Instant
  | .op (.enqueue _ now) | .op (.frame _ now) | .op (.tick now) => now
  | .errRta _ | .specifier => 0

namespace ChannelTurn

/-- The DATA frames the turn sends, with the time. -/
def transmits (u : ChannelTurn) : List (Instant × Bytes) := u.datas.map (u.call.time, ·)

/-- The AckSeqNum of an ACK-RTA the peer sent. -/
def ackSeq (u : ChannelTurn) : Option UInt16 :=
  match u.call with
  | .op (.frame bytes _) =>
    (peerPdu u.before.cfg.peerMac bytes).bind fun pdu =>
      match pdu.body with
      | .ack => some pdu.header.ackSeq
      | _ => none
  | _ => none

/-- An Alarm-Ack was accepted for the alarm in flight. -/
def acked (u : ChannelTurn) : Bool :=
  u.acts.any fun
    | .acked .. => true
    | _ => false

/-- The delivery of the DATA under this number is confirmed. -/
def confirms (u : ChannelTurn) (seq : UInt16) : Prop := u.ackSeq = some seq ∨ u.acked = true

/-- The alarm could not be delivered. -/
def fails (u : ChannelTurn) : Prop := .abort .alarmSendFailed ∈ u.acts

end ChannelTurn

/-- The DATA frames some turns send, with the time. -/
def transmissions (turns : List ChannelTurn) : List (Instant × Bytes) :=
  turns.flatMap (·.transmits)

/-! ### One call -/

/-- What a turn does about the DATA that is to be acknowledged. -/
inductive Timed (u : ChannelTurn) : Prop
  /-- An alarm is sent for the first time. -/
  | started {req : AlarmReq} {seq : UInt16} {frame : Bytes} (hf : u.firsts = [frame])
      (hd : u.datas = [frame])
      (hs : u.after.state = .sentData req seq frame (u.call.time + u.before.cfg.rtaTimeout))
      (ha : u.after.attempt = 0) (hno : ¬ u.fails)
  /-- The frame is sent again. -/
  | again {req : AlarmReq} {seq : UInt16} {frame : Bytes} {deadline : Instant}
      (hf : u.firsts = []) (hb : u.before.state = .sentData req seq frame deadline)
      (hdl : deadline ≤ u.call.time) (hlt : u.before.attempt < u.before.cfg.rtaRetries)
      (hd : u.datas = [frame])
      (hs : u.after.state = .sentData req seq frame (u.call.time + u.before.cfg.rtaTimeout))
      (ha : u.after.attempt = u.before.attempt + 1) (hno : ¬ u.fails)
      (hc : ∀ seq, ¬ u.confirms seq)
  /-- The channel goes on waiting. -/
  | held {req : AlarmReq} {seq : UInt16} {frame : Bytes} {deadline : Instant}
      (hb : u.before.state = .sentData req seq frame deadline)
      (hd : u.datas = []) (hs : u.after.state = u.before.state)
      (ha : u.after.attempt = u.before.attempt) (hno : ¬ u.fails) (hc : ¬ u.confirms seq)
  /-- There is nothing to wait for. -/
  | ended (hd : u.datas = []) (hs : u.after.state.isSent = false)
      (hfail : u.fails → ∃ now req seq frame deadline, u.call = .op (.tick now) ∧
        u.before.state = .sentData req seq frame deadline ∧ deadline ≤ now ∧
        ¬ u.before.attempt < u.before.cfg.rtaRetries ∧ ∀ seq, ¬ u.confirms seq)

namespace AlarmChannel

variable {ch ch' mid : AlarmChannel} {c : ChannelCall} {reply : ChannelReply} {now : Instant}
  {acts : List AlarmAction} {u : ChannelTurn}

/-- The channel still waits for what it waited for, if it did. -/
lemma timed_same (hd : u.datas = []) (hs : u.after.state = u.before.state)
    (ha : u.after.attempt = u.before.attempt) (hno : ¬ u.fails)
    (hc : ∀ req seq frame deadline, u.before.state = .sentData req seq frame deadline →
      ¬ u.confirms seq) : Timed u := by
  cases hst : u.before.state with
  | sentData req seq frame deadline => exact .held hst hd hs ha hno (hc _ _ _ _ hst)
  | idle => exact .ended hd (by rw [hs, hst]; rfl) fun hf => absurd hf hno
  | awaitAlarmAck req deadline => exact .ended hd (by rw [hs, hst]; rfl) fun hf => absurd hf hno

/-- The queue goes on from a channel that waits for nothing. -/
lemma Started.timed (h : Started u.call.time mid u.after acts)
    (hd : u.datas = (sentFrames acts).filter isDataRta) (hf : u.firsts = u.datas)
    (hcfg : mid.cfg = u.before.cfg) (hs : mid.state.isSent = false) (hno : ¬ u.fails) :
    Timed u := by
  generalize hafter : u.after = ch' at h
  cases h with
  | nothing hq => exact .ended hd (hafter ▸ hs) fun hfail => absurd hfail hno
  | @sent req queue hidle hq =>
    have hdata : u.datas = [dataFrame mid.cfg req mid.nextSendSeq mid.lastRxSeq] := by
      rw [hd, sentFrames_send, List.filter_cons_of_pos (isDataRta_dataFrame _ _ _ _)]
      rfl
    refine @Timed.started u req mid.nextSendSeq _ (hf.trans hdata) hdata ?_ ?_ hno
    · rw [hafter, ← hcfg]
      rfl
    · rw [hafter]
      rfl

/-- Nothing but an ACK-RTA or an Alarm-Ack confirms a delivery. -/
lemma not_confirms {seq : UInt16} (hack : u.ackSeq = none) (hacked : u.acked = false) :
    ¬ u.confirms seq := by
  rintro (h | h)
  · rw [hack] at h
    cases h
  · rw [hacked] at h
    cases h

lemma ackSeq_none {frame : Bytes} {pdu : RtaPdu} (hf : ReadFrom ch.cfg.peerMac frame pdu)
    (hb : pdu.body ≠ .ack) :
    (⟨ch, .op (.frame frame now), ch', reply⟩ : ChannelTurn).ackSeq = none := by
  simp only [ChannelTurn.ackSeq, peerPdu_eq_some.2 hf, Option.bind_some]

lemma ackSeq_some {frame : Bytes} {pdu : RtaPdu} (hf : ReadFrom ch.cfg.peerMac frame pdu)
    (hb : pdu.body = .ack) :
    (⟨ch, .op (.frame frame now), ch', reply⟩ : ChannelTurn).ackSeq = some pdu.header.ackSeq := by
  simp only [ChannelTurn.ackSeq, peerPdu_eq_some.2 hf, Option.bind_some, hb]

lemma Started.not_fails {reason : AbortReason} (h : Started now ch ch' acts) :
    .abort reason ∉ acts := by
  intro hm
  obtain ⟨frame, hf⟩ := h.sends _ hm
  cases hf

lemma op_timed {o : Op} (hg : ch.Good) (h : ch.op o = .ok (ch', acts)) :
    Timed ⟨ch, .op o, ch', .acts acts⟩ := by
  cases op_step h with
  | @enqueued req now ch' acts hfit hs =>
    have hno : ¬ (⟨ch, .op (.enqueue req now), ch', .acts acts⟩ : ChannelTurn).fails :=
      hs.not_fails
    cases hst : ch.state with
    | idle => exact Started.timed hs rfl rfl rfl (by rw [hst]; rfl) hno
    | awaitAlarmAck req deadline => exact Started.timed hs rfl rfl rfl (by rw [hst]; rfl) hno
    | sentData req seq frame deadline =>
      -- something is in flight: nothing is sent
      cases hs with
      | nothing hq =>
        exact timed_same rfl rfl rfl hno fun _ _ _ _ _ => not_confirms rfl rfl
      | sent hidle hq =>
        rw [hst] at hidle
        cases hidle
  | @unusable frame now =>
    refine timed_same rfl rfl rfl (by simp [ChannelTurn.fails, ChannelTurn.acts]) ?_
    intro _ _ _ _ _
    refine not_confirms ?_ rfl
    cases hp : peerPdu ch.cfg.peerMac frame with
    | none => simp only [ChannelTurn.ackSeq, hp, Option.bind_none]
    | some pdu =>
      have hf := peerPdu_eq_some.1 hp
      exact ackSeq_none hf (by rw [onFrame_unusable h hf]; exact nofun)
  | delivered hf hb hs => exact .ended rfl rfl fun hfail => by cases hfail
  | strayAck hf hb hs =>
    refine timed_same rfl rfl rfl (fun hfail => by cases hfail) fun req seq frame deadline hst => ?_
    rintro (hc | hc)
    · rw [ackSeq_some hf hb] at hc
      cases hc
      exact hs _ _ _ hst
    · cases hc
  | duplicate hf hb hseq =>
    refine timed_same (filter_ackFrame _ _ _ []) rfl rfl
      (by simp [ChannelTurn.fails, ChannelTurn.acts]) fun _ _ _ _ _ => ?_
    exact not_confirms (ackSeq_none hf (by simp [hb])) rfl
  | @acked frame now pdu a req ch' acts hf hb hseq hm hs =>
    refine Started.timed hs (filter_ackFrame _ _ _ _) rfl rfl rfl fun hfail => ?_
    simp only [ChannelTurn.fails, ChannelTurn.acts, List.mem_cons, reduceCtorEq, false_or] at hfail
    exact hs.not_fails hfail
  | otherData hf hb hseq hm =>
    refine timed_same (filter_ackFrame _ _ _ []) rfl rfl
      (by simp [ChannelTurn.fails, ChannelTurn.acts]) fun _ _ _ _ _ => ?_
    exact not_confirms (ackSeq_none hf (by simp [hb])) rfl
  | errRta hf hb =>
    exact .ended rfl rfl fun hfail => by simp [ChannelTurn.fails, ChannelTurn.acts] at hfail
  | early hd =>
    exact timed_same rfl rfl rfl (fun hfail => by cases hfail) fun _ _ _ _ _ => not_confirms rfl rfl
  | @resent now deadline req seq frame hs hd ha =>
    obtain ⟨-, ackSeq, hframe⟩ := hg.framed _ _ _ _ hs
    refine .again (if_pos ?_) hs hd ha ?_ rfl rfl (by simp [ChannelTurn.fails, ChannelTurn.acts])
      fun _ => not_confirms rfl rfl
    · simp only [ChannelTurn.retries, hs]
    · rw [hframe]
      exact List.filter_cons_of_pos (isDataRta_dataFrame _ _ _ _)
  | @gaveUp now deadline req seq frame hs hd ha =>
    exact .ended rfl rfl fun _ => ⟨now, req, seq, frame, deadline, rfl, hs, hd, ha,
      fun _ => not_confirms rfl rfl⟩
  | @dropped now deadline req ch' acts hs hd hst =>
    refine Started.timed hst rfl ?_ rfl rfl hst.not_fails
    exact if_neg (by simp [ChannelTurn.retries, hs])

lemma Called.timed (hg : ch.Good) (h : Called ch c ch' reply) : Timed ⟨ch, c, ch', reply⟩ := by
  cases h with
  | op h => exact op_timed hg h
  | refused h =>
    exact timed_same rfl rfl rfl (fun hf => by cases hf) fun _ _ _ _ _ => not_confirms rfl rfl
  | errRta status h =>
    exact timed_same rfl rfl rfl (fun hf => by cases hf) fun _ _ _ _ _ => not_confirms rfl rfl
  | specifier =>
    exact timed_same rfl rfl rfl (fun hf => by cases hf) fun _ _ _ _ _ => not_confirms rfl rfl

end AlarmChannel

/-! ### The life of an alarm -/

/-- The turns since the last first transmission, from that one on. -/
def currentLife (log : List ChannelTurn) : List ChannelTurn :=
  log.foldl (fun life u => if u.firsts ≠ [] then [u] else if life = [] then [] else life ++ [u]) []

section Life

variable {log pre mid life : List ChannelTurn} {u first : ChannelTurn}

lemma currentLife_snoc (log : List ChannelTurn) (u : ChannelTurn) :
    currentLife (log ++ [u]) = if u.firsts ≠ [] then [u]
      else if currentLife log = [] then [] else currentLife log ++ [u] := by
  rw [currentLife, List.foldl_append]
  rfl

/-- The turns behind a first transmission, up to the next one, are the current life. -/
lemma currentLife_eq (hf : first.firsts ≠ []) (hm : ∀ u ∈ mid, u.firsts = []) :
    currentLife (pre ++ first :: mid) = first :: mid := by
  induction mid using List.reverseRecOn with
  | nil => rw [currentLife_snoc, if_pos hf]
  | append_singleton mid u ih =>
    have hu : u.firsts = [] := hm u (by simp)
    rw [← List.cons_append, ← List.append_assoc, currentLife_snoc, if_neg (not_not.2 hu),
      ih fun v hv => hm v (List.mem_append_left _ hv), if_neg (List.cons_ne_nil _ _)]

lemma currentLife_spec (h : currentLife log = first :: mid) :
    first.firsts ≠ [] ∧ (∀ u ∈ mid, u.firsts = []) ∧ ∃ pre, log = pre ++ first :: mid := by
  induction log using List.reverseRecOn generalizing first mid with
  | nil => cases h
  | append_singleton log u ih =>
    rw [currentLife_snoc] at h
    split_ifs at h with hu hnil
    · cases h
      exact ⟨hu, fun v hv => (by cases hv), log, rfl⟩
    · cases hl : currentLife log with
      | nil => exact absurd hl hnil
      | cons first' mid' =>
        rw [hl] at h
        obtain ⟨rfl, rfl⟩ := List.cons.inj h
        obtain ⟨hf, hm, pre, rfl⟩ := ih hl
        refine ⟨hf, fun v hv => ?_, pre, by simp⟩
        rcases List.mem_append.1 hv with hv | hv
        · exact hm v hv
        · rw [List.mem_singleton.1 hv]
          exact not_not.1 hu

/-- What is known of the alarm that was sent in `first`, after the turns `mid`. -/
structure Living (ch : AlarmChannel) (first : ChannelTurn) (mid : List ChannelTurn)
    (frame : Bytes) (seq : UInt16) : Prop where
  begun : first.firsts = [frame]
  numbered : ∃ hd, rtaHeaderOf frame = some hd ∧ hd.sendSeq = seq
  same : ∀ p ∈ transmissions (first :: mid), p.2 = frame
  apart : (transmissions (first :: mid)).IsChain fun p q => p.1 + ch.cfg.rtaTimeout ≤ q.1
  bounded : (transmissions (first :: mid)).length ≤ 1 + ch.cfg.rtaRetries.toNat
  waiting : ∀ req seq' frame' deadline, ch.state = .sentData req seq' frame' deadline →
    seq' = seq ∧ frame' = frame ∧
      (transmissions (first :: mid)).length = 1 + ch.attempt.toNat ∧
      (∀ p ∈ (transmissions (first :: mid)).getLast?, p.1 + ch.cfg.rtaTimeout = deadline) ∧
      ∀ u ∈ mid, ¬ u.confirms seq
  confirmed : ∀ a u b, mid = a ++ u :: b → u.confirms seq →
    ch.state.isSent = false ∧ transmissions (u :: b) = [] ∧ ∀ v ∈ u :: b, ¬ v.fails

/-- A channel that waits does so for the alarm of the current life. -/
structure Lives (ch : AlarmChannel) (log : List ChannelTurn) : Prop where
  none : currentLife log = [] → ch.state.isSent = false
  some : ∀ first mid, currentLife log = first :: mid → ∃ frame seq, Living ch first mid frame seq

lemma transmissions_snoc (turns : List ChannelTurn) (u : ChannelTurn) :
    transmissions (turns ++ [u]) = transmissions turns ++ u.datas.map (u.call.time, ·) := by
  rw [transmissions, List.flatMap_append, List.flatMap_singleton]
  rfl

lemma ChannelTurn.firsts_of_datas (h : u.datas = []) : u.firsts = [] := by
  rw [firsts, h, ite_self]

/-- A split of a history that grew by one turn, with the marked turn in the old part or at the
end. -/
lemma split_snoc {mid a b : List ChannelTurn} {u v : ChannelTurn}
    (h : mid ++ [u] = a ++ v :: b) :
    b = [] ∧ v = u ∨ ∃ b', b = b' ++ [u] ∧ mid = a ++ v :: b' := by
  rcases List.eq_nil_or_concat b with rfl | ⟨b', w, rfl⟩
  · obtain ⟨-, hu⟩ := List.append_inj' h rfl
    cases hu
    exact .inl ⟨rfl, rfl⟩
  · rw [List.concat_eq_append, ← List.cons_append, ← List.append_assoc] at h
    obtain ⟨hmid, hu⟩ := List.append_inj' h rfl
    cases hu
    exact .inr ⟨b', List.concat_eq_append, hmid⟩

end Life

section Step

variable {log mid : List ChannelTurn} {u first : ChannelTurn} {frame : Bytes} {seq : UInt16}

/-- The alarm is sent again. -/
lemma Living.again {req : AlarmReq} {seq' : UInt16} {frame' : Bytes} {deadline : Instant}
    (h : Living u.before first mid frame seq) (hcfg : u.after.cfg = u.before.cfg)
    (hb : u.before.state = .sentData req seq' frame' deadline) (hdl : deadline ≤ u.call.time)
    (hlt : u.before.attempt < u.before.cfg.rtaRetries) (hd : u.datas = [frame'])
    (hs : u.after.state = .sentData req seq' frame' (u.call.time + u.before.cfg.rtaTimeout))
    (ha : u.after.attempt = u.before.attempt + 1) (hc : ∀ seq, ¬ u.confirms seq) :
    Living u.after first (mid ++ [u]) frame seq := by
  obtain ⟨rfl, rfl, hlen, hlast, hno⟩ := h.waiting _ _ _ _ hb
  have htrans : transmissions (first :: (mid ++ [u])) =
      transmissions (first :: mid) ++ [(u.call.time, frame')] := by
    rw [← List.cons_append, transmissions_snoc, hd]
    rfl
  have hltn := UInt16.lt_iff_toNat_lt.1 hlt
  have hattempt : u.after.attempt.toNat = u.before.attempt.toNat + 1 := by
    have hr := u.before.cfg.rtaRetries.toNat_lt
    rw [ha, UInt16.toNat_add]
    show (u.before.attempt.toNat + 1) % 2 ^ 16 = _
    exact Nat.mod_eq_of_lt (by omega)
  refine ⟨h.begun, h.numbered, fun p hp => ?_, ?_, ?_, fun req'' seq'' frame'' dl'' hst => ?_,
    fun a v b hsplit hv => ?_⟩
  · rw [htrans] at hp
    rcases List.mem_append.1 hp with hp | hp
    · exact h.same p hp
    · rw [List.mem_singleton.1 hp]
  · rw [htrans, hcfg]
    refine List.isChain_append.2 ⟨h.apart, .singleton _, fun p hp q hq => ?_⟩
    cases hq
    rw [hlast p hp]
    exact hdl
  · rw [htrans, hcfg, List.length_append, hlen, List.length_singleton]
    omega
  · rw [hs] at hst
    cases hst
    refine ⟨rfl, rfl, ?_, fun p hp => ?_, fun v hv => ?_⟩
    · rw [htrans, List.length_append, hlen, hattempt, List.length_singleton]
      omega
    · rw [htrans, List.getLast?_concat] at hp
      cases hp
      rw [hcfg]
    · rcases List.mem_append.1 hv with hv | hv
      · exact hno v hv
      · rw [List.mem_singleton.1 hv]
        exact hc _
  · -- nothing was confirmed, neither before nor now
    rcases split_snoc hsplit with ⟨-, rfl⟩ | ⟨b', -, hmid⟩
    · exact absurd hv (hc _)
    · exact absurd hv (hno v (by rw [hmid]; simp))

/-- The channel goes on waiting. -/
lemma Living.held {req : AlarmReq} {seq' : UInt16} {frame' : Bytes} {deadline : Instant}
    (h : Living u.before first mid frame seq) (hcfg : u.after.cfg = u.before.cfg)
    (hb : u.before.state = .sentData req seq' frame' deadline) (hd : u.datas = [])
    (hs : u.after.state = u.before.state) (ha : u.after.attempt = u.before.attempt)
    (hc : ¬ u.confirms seq') : Living u.after first (mid ++ [u]) frame seq := by
  obtain ⟨rfl, rfl, hlen, hlast, hno⟩ := h.waiting _ _ _ _ hb
  have htrans : transmissions (first :: (mid ++ [u])) = transmissions (first :: mid) := by
    rw [← List.cons_append, transmissions_snoc, hd]
    exact List.append_nil _
  have hnone : ∀ v ∈ mid ++ [u], ¬ v.confirms seq' := by
    intro v hv
    rcases List.mem_append.1 hv with hv | hv
    · exact hno v hv
    · rw [List.mem_singleton.1 hv]
      exact hc
  refine ⟨h.begun, h.numbered, htrans ▸ h.same, ?_, ?_, fun req'' seq'' frame'' dl'' hst => ?_,
    fun a v b hsplit hv => ?_⟩
  · rw [htrans, hcfg]
    exact h.apart
  · rw [htrans, hcfg]
    exact h.bounded
  · rw [hs, hb] at hst
    cases hst
    refine ⟨rfl, rfl, ?_, ?_, hnone⟩
    · rw [htrans, ha]
      exact hlen
    · rw [htrans, hcfg]
      exact hlast
  · exact absurd hv (hnone v (by rw [hsplit]; simp))

/-- The channel waits no more. -/
lemma Living.ended (h : Living u.before first mid frame seq) (hcfg : u.after.cfg = u.before.cfg)
    (hd : u.datas = []) (hs : u.after.state.isSent = false)
    (hfail : u.fails → u.before.state.isSent = true ∧ ∀ seq, ¬ u.confirms seq) :
    Living u.after first (mid ++ [u]) frame seq := by
  have htrans : ∀ turns, transmissions (turns ++ [u]) = transmissions turns := by
    intro turns
    rw [transmissions_snoc, hd]
    exact List.append_nil _
  have hall : transmissions (first :: (mid ++ [u])) = transmissions (first :: mid) :=
    htrans (first :: mid)
  refine ⟨h.begun, h.numbered, hall ▸ h.same, ?_, ?_, fun req' seq' frame' dl' hst => ?_,
    fun a v b hsplit hv => ?_⟩
  · rw [hall, hcfg]
    exact h.apart
  · rw [hall, hcfg]
    exact h.bounded
  · rw [hst] at hs
    cases hs
  · rcases split_snoc hsplit with ⟨rfl, rfl⟩ | ⟨b', rfl, hmid⟩
    · refine ⟨hs, htrans [], fun w hw hf => ?_⟩
      obtain rfl := List.mem_singleton.1 hw
      exact (hfail hf).2 seq hv
    · obtain ⟨hsent, hquiet, hnofail⟩ := h.confirmed a v b' hmid hv
      refine ⟨hs, (htrans (v :: b')).trans hquiet, fun w hw hf => ?_⟩
      rw [← List.cons_append] at hw
      rcases List.mem_append.1 hw with hw | hw
      · exact hnofail w hw hf
      · obtain rfl := List.mem_singleton.1 hw
        rw [(hfail hf).1] at hsent
        cases hsent

/-- The alarm is sent for the first time. -/
lemma living_started {req : AlarmReq} (hg : u.after.Good) (hcfg : u.after.cfg = u.before.cfg)
    (hf : u.firsts = [frame]) (hd : u.datas = [frame])
    (hs : u.after.state = .sentData req seq frame (u.call.time + u.before.cfg.rtaTimeout))
    (ha : u.after.attempt = 0) : Living u.after u [] frame seq := by
  have htrans : transmissions [u] = [(u.call.time, frame)] := by
    rw [transmissions, List.flatMap_singleton, ChannelTurn.transmits, hd]
    rfl
  obtain ⟨-, ackSeq, hframe⟩ := hg.framed _ _ _ _ hs
  obtain ⟨hd, hh, -, hseq, -⟩ := rtaHeaderOf_dataFrame u.after.cfg req seq ackSeq
  refine ⟨hf, ⟨hd, hframe ▸ hh, hseq⟩, fun p hp => ?_, ?_, ?_, fun req' seq' frame' dl' hst => ?_,
    fun a v b hsplit _ => ?_⟩
  · rw [htrans] at hp
    rw [List.mem_singleton.1 hp]
  · rw [htrans]
    exact .singleton _
  · rw [htrans, List.length_singleton]
    omega
  · rw [hs] at hst
    cases hst
    refine ⟨rfl, rfl, ?_, fun p hp => ?_, fun v hv => by cases hv⟩
    · rw [htrans, ha]
      rfl
    · rw [htrans] at hp
      cases hp
      show u.call.time + u.after.cfg.rtaTimeout = _
      rw [hcfg]
  · simp at hsplit

lemma Lives.step {ch ch' : AlarmChannel} {c : ChannelCall} {reply : ChannelReply}
    (h : Lives ch log) (hg : ch.Good) (hc : AlarmChannel.Called ch c ch' reply) :
    Lives ch' (log ++ [⟨ch, c, ch', reply⟩]) := by
  have htimed := hc.timed hg
  have hcfg := hc.cfg
  have hgood := hc.good hg
  generalize hu : (⟨ch, c, ch', reply⟩ : ChannelTurn) = u at htimed ⊢
  obtain rfl : u.before = ch := by rw [← hu]
  obtain rfl : u.after = ch' := by rw [← hu]
  -- a turn without a first transmission goes on with the current life
  have hgrow : u.firsts = [] → u.after.state.isSent = false ∨ u.before.state.isSent = true →
      (∀ first mid frame seq, Living u.before first mid frame seq →
        Living u.after first (mid ++ [u]) frame seq) → Lives u.after (log ++ [u]) := by
    intro hf hsent hlive
    have hlife : currentLife (log ++ [u]) =
        if currentLife log = [] then [] else currentLife log ++ [u] := by
      rw [currentLife_snoc, if_neg (not_not.2 hf)]
    cases hl : currentLife log with
    | nil =>
      rw [if_pos hl] at hlife
      refine ⟨fun _ => ?_, fun first mid heq => ?_⟩
      · rcases hsent with hsent | hsent
        · exact hsent
        · rw [h.none hl] at hsent
          cases hsent
      · rw [hlife] at heq
        cases heq
    | cons first mid =>
      rw [if_neg (by rw [hl]; exact List.cons_ne_nil _ _), hl] at hlife
      obtain ⟨frame, seq, hliving⟩ := h.some first mid hl
      refine ⟨fun hnil => ?_, fun first' mid' heq => ?_⟩
      · rw [hlife] at hnil
        cases hnil
      · rw [hlife] at heq
        cases heq
        exact ⟨frame, seq, hlive _ _ _ _ hliving⟩
  cases htimed with
  | @started req seq frame hf hd hs ha hno =>
    have hlife : currentLife (log ++ [u]) = [u] := by
      rw [currentLife_snoc, if_pos (by rw [hf]; exact List.cons_ne_nil _ _)]
    refine ⟨fun hnil => ?_, fun first mid heq => ?_⟩
    · rw [hlife] at hnil
      cases hnil
    · rw [hlife] at heq
      cases heq
      exact ⟨frame, seq, living_started hgood hcfg hf hd hs ha⟩
  | again hf hb hdl hlt hd hs ha hno hcf =>
    exact hgrow hf (.inr (by rw [hb]; rfl)) fun _ _ _ _ hl => hl.again hcfg hb hdl hlt hd hs ha hcf
  | held hb hd hs ha hno hcf =>
    exact hgrow (ChannelTurn.firsts_of_datas hd) (.inr (by rw [hb]; rfl)) fun _ _ _ _ hl =>
      hl.held hcfg hb hd hs ha hcf
  | ended hd hs hfail =>
    refine hgrow (ChannelTurn.firsts_of_datas hd) (.inl hs) fun _ _ _ _ hl =>
      hl.ended hcfg hd hs fun hf => ?_
    obtain ⟨now, req, seq, frame, deadline, -, hb, -, -, hcf⟩ := hfail hf
    exact ⟨by rw [hb]; rfl, hcf⟩

end Step

lemma reach_lives {r : ChannelRun} (h : channelSystem.Reach r) : r.ch.Good ∧ Lives r.ch r.log := by
  refine channel_inv (fun cfg => ?_) (fun ch log c ch' reply hg hI hc => hI.step hg hc) h
  exact ⟨fun _ => rfl, fun first mid heq => by cases heq⟩

/-- **How an alarm is sent again.** In every run, from its first transmission to the next one, an
alarm is sent as one and the same frame, at most as often as the retries allow and once more, the
timeout apart, and not any more once an ACK-RTA with its number or its Alarm-Ack was received;
nor does it then fail. The AR is aborted for an alarm only at a tick, the timeout after its last
transmission, if none of the two was received. -/
theorem channel_retries {r : ChannelRun} (h : channelSystem.Reach r) :
    (∀ pre first mid post frame, r.log = pre ++ first :: (mid ++ post) → frame ∈ first.firsts →
      (∀ u ∈ mid, u.firsts = []) →
      (∀ p ∈ transmissions (first :: mid), p.2 = frame) ∧
      (transmissions (first :: mid)).length ≤ 1 + r.ch.cfg.rtaRetries.toNat ∧
      ((transmissions (first :: mid)).IsChain fun p q => p.1 + r.ch.cfg.rtaTimeout ≤ q.1) ∧
      ∀ hd a u b, rtaHeaderOf frame = some hd → mid = a ++ u :: b → u.confirms hd.sendSeq →
        transmissions (u :: b) = [] ∧ ∀ v ∈ u :: b, ¬ v.fails) ∧
    ∀ pre u post, r.log = pre ++ u :: post → u.fails →
      ∃ now pre' first mid frame hd, u.call = .op (.tick now) ∧ pre = pre' ++ first :: mid ∧
        frame ∈ first.firsts ∧ (∀ v ∈ mid, v.firsts = []) ∧ rtaHeaderOf frame = some hd ∧
        (∀ v ∈ mid, ¬ v.confirms hd.sendSeq) ∧
        (transmissions (first :: mid)).length = 1 + r.ch.cfg.rtaRetries.toNat ∧
        ∀ p ∈ (transmissions (first :: mid)).getLast?, p.1 + r.ch.cfg.rtaTimeout ≤ now := by
  refine ⟨fun pre first mid post frame hlog hf hm => ?_, fun pre u post hlog hfail => ?_⟩
  · -- the run was once at the end of this life
    rw [← List.cons_append, ← List.append_assoc] at hlog
    obtain ⟨ch, hreach, hcfg⟩ := reach_of_prefix h hlog
    have hlife : currentLife (pre ++ first :: mid) = first :: mid :=
      currentLife_eq (List.ne_nil_of_mem hf) hm
    obtain ⟨frame', seq, hl⟩ := (reach_lives hreach).2.some first mid hlife
    rw [hl.begun] at hf
    obtain rfl := List.mem_singleton.1 hf
    refine ⟨hl.same, hcfg ▸ hl.bounded, hcfg ▸ hl.apart, fun hd a u b hh hsplit hconf => ?_⟩
    obtain ⟨hd', hh', hseq⟩ := hl.numbered
    cases hh.symm.trans hh'
    obtain ⟨-, hquiet, hno⟩ := hl.confirmed a u b hsplit (hseq ▸ hconf)
    exact ⟨hquiet, hno⟩
  · obtain ⟨hreach, -, hc, hcfg⟩ := reach_turn h hlog
    obtain ⟨hg, hlives⟩ := reach_lives hreach
    obtain ⟨before, call, after, reply⟩ := u
    cases hc.timed hg with
    | started hf hd hs ha hno => exact absurd hfail hno
    | again hf hb hdl hlt hd hs ha hno hcf => exact absurd hfail hno
    | held hb hd hs ha hno hcf => exact absurd hfail hno
    | ended hd hs hgave =>
      obtain ⟨now, req, seq, frame, deadline, hcall, hb, hdl, hmax, -⟩ := hgave hfail
      cases hl : currentLife pre with
      | nil =>
        have hidle : before.state.isSent = false := hlives.none hl
        rw [show before.state = _ from hb] at hidle
        cases hidle
      | cons first mid =>
        obtain ⟨hfirst, hmid, pre', hpre⟩ := currentLife_spec hl
        obtain ⟨frame', seq', hliving⟩ := hlives.some first mid hl
        obtain ⟨rfl, rfl, hlen, hlast, hno⟩ := hliving.waiting _ _ _ _ hb
        obtain ⟨hd, hh, rfl⟩ := hliving.numbered
        refine ⟨now, pre', first, mid, frame, hd, hcall, hpre, ?_, hmid, hh, hno, ?_, ?_⟩
        · rw [hliving.begun]
          exact List.mem_singleton_self _
        · have hle := hliving.bounded
          rw [UInt16.lt_iff_toNat_lt, not_lt] at hmax
          rw [← hcfg]
          exact le_antisymm hle (hlen ▸ Nat.add_le_add_left hmax 1)
        · intro p hp
          rw [← hcfg, hlast p hp]
          exact hdl

open AlarmDemo in
/-- An alarm nobody acknowledges: sent four times, then given up. -/
theorem channel_retries_exhausted :
    ∃ r pre u, channelSystem.Reach r ∧ r.log = pre ++ [u] ∧ u.fails ∧
      ∃ now pre' first mid frame hd, u.call = .op (.tick now) ∧ pre = pre' ++ first :: mid ∧
        frame ∈ first.firsts ∧ (∀ v ∈ mid, v.firsts = []) ∧ rtaHeaderOf frame = some hd ∧
        (∀ v ∈ mid, ¬ v.confirms hd.sendSeq) ∧
        (transmissions (first :: mid)).length = 1 + r.ch.cfg.rtaRetries.toNat ∧
        ∀ p ∈ (transmissions (first :: mid)).getLast?, p.1 + r.ch.cfg.rtaTimeout ≤ now := by
  have hrun : (channelSystem.run ⟨.new cfg, []⟩ [.op (.enqueue (alarm 1) 0), .op (.tick 100),
      .op (.tick 200), .op (.tick 300), .op (.tick 400)]).any (fun r =>
        r.log.getLast?.any fun u => decide (.abort .alarmSendFailed ∈ u.acts)) = true := by
    decide +kernel
  obtain ⟨r, hr, hp⟩ := System.exists_reach_of_run (S := channelSystem) ⟨cfg, rfl⟩ hrun
  obtain ⟨u, hu, hfail⟩ := (Option.any_eq_true _ _).1 hp
  obtain ⟨pre, hlog⟩ := List.getLast?_eq_some_iff.1 hu
  rw [decide_eq_true_eq] at hfail
  exact ⟨r, pre, u, hr, hlog, hfail, (channel_retries hr).2 pre u [] hlog hfail⟩

end Pnio
