import Pnio.AlarmLog

/-!
The sequence numbers of an alarm channel in closed form.
-/

namespace Pnio

/-- The SendSeqNum of the alarm number `k`. -/
def sendSeqOf : Nat → UInt16
  | 0 => seqInit
  | k + 1 => UInt16.ofNat (k % 0x8000)

section Numbers

/-- A counter of `k` bits, by its mask. -/
lemma toNat_masked_succ {v mask : UInt16} {k n : Nat} (hk : k < 16) (hv : v.toNat = n % 2 ^ k)
    (hmask : mask.toNat = 2 ^ k - 1) : ((v + 1) &&& mask).toNat = (n + 1) % 2 ^ k := by
  have hpow : 2 ^ k ≤ 2 ^ 15 := Nat.pow_le_pow_right (by omega) (by omega)
  have hlt : n % 2 ^ k < 2 ^ k := Nat.mod_lt _ (Nat.two_pow_pos k)
  have hadd : (v + 1).toNat = n % 2 ^ k + 1 := by
    rw [UInt16.toNat_add, hv]
    show (n % 2 ^ k + 1) % 2 ^ 16 = _
    exact Nat.mod_eq_of_lt (by omega)
  rw [UInt16.toNat_and, hadd, hmask, Nat.and_two_pow_sub_one_eq_mod, Nat.mod_add_mod]

lemma toNat_sendSeqOf (k : Nat) : (sendSeqOf (k + 1)).toNat = k % 0x8000 := by
  rw [sendSeqOf, UInt16.toNat_ofNat']
  omega

lemma sendSeqOf_succ (k : Nat) : AlarmChannel.followingSeq (sendSeqOf k) = sendSeqOf (k + 1) := by
  cases k with
  | zero => rfl
  | succ k =>
    have hk := toNat_sendSeqOf k
    have hne : sendSeqOf (k + 1) ≠ seqInit := by
      intro h
      rw [h] at hk
      have hinit : seqInit.toNat = 0xFFFF := rfl
      omega
    have hnext : ((sendSeqOf (k + 1) + 1) &&& 0x7FFF).toNat = (k + 1) % 2 ^ 15 :=
      toNat_masked_succ (by omega) hk rfl
    rw [AlarmChannel.followingSeq, if_neg hne]
    apply UInt16.toNat_inj.1
    rw [hnext, toNat_sendSeqOf]
    rfl

/-- **Neighbours differ.** -/
lemma sendSeqOf_ne_succ (k : Nat) : sendSeqOf k ≠ sendSeqOf (k + 1) := by
  intro h
  have hk := congrArg UInt16.toNat h
  rw [toNat_sendSeqOf] at hk
  cases k with
  | zero =>
    have hinit : (sendSeqOf 0).toNat = 0xFFFF := rfl
    omega
  | succ k =>
    rw [toNat_sendSeqOf] at hk
    omega

/-- The number that stands for none is never used. -/
lemma sendSeqOf_ne_none (k : Nat) : sendSeqOf k ≠ seqNone := by
  intro h
  have hk := congrArg UInt16.toNat h
  have hnone : seqNone.toNat = 0xFFFE := rfl
  cases k with
  | zero =>
    have hinit : (sendSeqOf 0).toNat = 0xFFFF := rfl
    omega
  | succ k =>
    rw [toNat_sendSeqOf] at hk
    omega

end Numbers

/-! ### What the history says -/

namespace ChannelTurn

/-- All the frames that leave the channel in this call. -/
def frames (u : ChannelTurn) : List Bytes :=
  match u.reply with
  | .acts acts => sentFrames acts
  | .built frame => [frame]
  | .refused _ | .number _ => []

/-- The SendSeqNum of a DATA the peer sent. -/
def received (u : ChannelTurn) : Option UInt16 :=
  match u.call with
  | .op (.frame bytes _) =>
    (peerPdu u.before.cfg.peerMac bytes).bind fun pdu =>
      match pdu.body with
      | .data _ => some pdu.header.sendSeq
      | _ => none
  | _ => none

/-- The number for an AlarmSpecifier that was given out. -/
def number (u : ChannelTurn) : Option UInt16 :=
  match u.reply with
  | .number n => some n
  | _ => none

end ChannelTurn

/-- The SendSeqNum of the last DATA sent. -/
def lastDataSeq (log : List ChannelTurn) : UInt16 :=
  (((log.flatMap (·.datas)).getLast?.bind rtaHeaderOf).map (·.sendSeq)).getD seqNone

/-- The SendSeqNum of the last DATA accepted from the peer; a repetition has the same one. -/
def lastAcceptedSeq (log : List ChannelTurn) : UInt16 :=
  (log.filterMap (·.received)).getLast?.getD seqNone

/-- What a frame that leaves in the turn `u` carries, after the turns `pre`. -/
def CarriesSeqs (pre : List ChannelTurn) (u : ChannelTurn) (frame : Bytes) (h : RtaHeader) : Prop :=
  match h.pduType with
  | .ack => h.sendSeq = lastDataSeq pre
  | .err => h.sendSeq = lastDataSeq pre ∧ h.ackSeq = lastAcceptedSeq pre
  | .data =>
    if u.retries then (pre.flatMap (·.firsts)).getLast? = some frame
    else frame ∈ u.firsts ∧ h.sendSeq = sendSeqOf (pre.flatMap (·.firsts)).length ∧
      h.ackSeq = lastAcceptedSeq (pre ++ [u])
  | .nack => False

/-! ### One call -/

/-- A frame that leaves in this turn. -/
inductive Emits (u : ChannelTurn) : Bytes → Prop
  | ack (priority : Priority) (seq : UInt16) : Emits u (u.before.ackFrame priority seq)
  | err {status : PnioStatus} {frame : Bytes}
      (h : (u.before.errRta status : Res Empty _) = .ok frame) : Emits u frame
  | first {frame : Bytes} (hr : u.retries = false) (h : frame ∈ u.firsts) : Emits u frame
  | again {req : AlarmReq} {seq : UInt16} {frame : Bytes} {deadline : Instant}
      (hr : u.retries = true) (h : u.before.state = .sentData req seq frame deadline) :
      Emits u frame

/-- What a turn does to the counter of the alarms and to the frame that is kept. -/
inductive Counts (u : ChannelTurn) : Prop
  | same (hf : u.firsts = []) (hn : u.after.nextSendSeq = u.before.nextSendSeq)
      (hl : u.after.lastSentSeq = u.before.lastSentSeq)
      (hs : ∀ req seq frame deadline, u.after.state = .sentData req seq frame deadline →
        ∃ deadline', u.before.state = .sentData req seq frame deadline')
  | sent {req : AlarmReq} {deadline : Instant} (hr : u.retries = false)
      (hf : u.firsts =
        [dataFrame u.before.cfg req u.before.nextSendSeq u.after.lastRxSeq])
      (hn : u.after.nextSendSeq = AlarmChannel.followingSeq u.before.nextSendSeq)
      (hl : u.after.lastSentSeq = u.before.nextSendSeq)
      (hs : u.after.state = .sentData req u.before.nextSendSeq
        (dataFrame u.before.cfg req u.before.nextSendSeq u.after.lastRxSeq) deadline)

/-- What one turn does to the numbers. -/
structure Numbers (u : ChannelTurn) : Prop where
  counts : Counts u
  rx : u.after.lastRxSeq = u.received.getD u.before.lastRxSeq
  emits : ∀ frame ∈ u.frames, Emits u frame

namespace AlarmChannel

variable {ch ch' mid : AlarmChannel} {c : ChannelCall} {reply : ChannelReply} {now : Instant}
  {acts : List AlarmAction}

/-- A DATA of the peer. -/
lemma received_data {frame : Bytes} {pdu : RtaPdu} {data : RtaData}
    (hf : ReadFrom ch.cfg.peerMac frame pdu) (hb : pdu.body = .data data) :
    (⟨ch, .op (.frame frame now), ch', reply⟩ : ChannelTurn).received =
      some pdu.header.sendSeq := by
  simp only [ChannelTurn.received, peerPdu_eq_some.2 hf, Option.bind_some, hb]

/-- Another frame. -/
lemma received_none {frame : Bytes}
    (h : ∀ pdu data, ReadFrom ch.cfg.peerMac frame pdu → pdu.body ≠ .data data) :
    (⟨ch, .op (.frame frame now), ch', reply⟩ : ChannelTurn).received = none := by
  simp only [ChannelTurn.received]
  cases hp : peerPdu ch.cfg.peerMac frame with
  | none => rfl
  | some pdu =>
    cases hb : pdu.body with
    | data data => exact absurd hb (h pdu data (peerPdu_eq_some.1 hp))
    | _ => simp only [Option.bind_some, hb]

lemma received_other {frame : Bytes} {pdu : RtaPdu} (hf : ReadFrom ch.cfg.peerMac frame pdu)
    (hb : ∀ data, pdu.body ≠ .data data) :
    (⟨ch, .op (.frame frame now), ch', reply⟩ : ChannelTurn).received = none := by
  refine received_none fun pdu' data hf' => ?_
  cases hf.parse.symm.trans hf'.parse
  exact hb data

/-- The queue goes on, on a channel whose counters for sending are still those of `ch`. -/
lemma Started.counts {u : ChannelTurn} (h : Started now mid u.after acts)
    (hf : u.firsts = (sentFrames acts).filter isDataRta) (hr : u.retries = false)
    (hcfg : mid.cfg = u.before.cfg) (hn : mid.nextSendSeq = u.before.nextSendSeq)
    (hl : mid.lastSentSeq = u.before.lastSentSeq)
    (hs : mid.state = u.before.state ∨ mid.state.isSent = false) : Counts u := by
  generalize hafter : u.after = ch' at h
  cases h with
  | nothing hno =>
    refine .same hf (hafter ▸ hn) (hafter ▸ hl) fun req seq frame deadline hst => ?_
    rw [hafter] at hst
    rcases hs with hs | hs
    · exact ⟨deadline, hs ▸ hst⟩
    · rw [hst] at hs
      cases hs
  | @sent req queue hidle hq =>
    rw [sentFrames_send, List.filter_cons_of_pos (isDataRta_dataFrame _ _ _ _)] at hf
    have hrx : u.after.lastRxSeq = mid.lastRxSeq := by rw [hafter]; rfl
    have hframe : dataFrame mid.cfg req mid.nextSendSeq mid.lastRxSeq =
        dataFrame u.before.cfg req u.before.nextSendSeq u.after.lastRxSeq := by
      rw [hcfg, hn, hrx]
    have hfirsts := hf.trans (congrArg (· :: []) hframe)
    refine @Counts.sent u req (now + mid.cfg.rtaTimeout) hr hfirsts ?_ ?_ ?_
    · rw [hafter, ← hn]
      rfl
    · rw [hafter, ← hn]
      rfl
    · rw [← hframe, hafter, ← hn]
      rfl

/-- The channel still holds what it held. -/
lemma counts_same {u : ChannelTurn} (hf : u.firsts = [])
    (hn : u.after.nextSendSeq = u.before.nextSendSeq)
    (hl : u.after.lastSentSeq = u.before.lastSentSeq)
    (hs : u.after.state = u.before.state ∨ u.after.state.isSent = false) : Counts u := by
  refine .same hf hn hl fun req seq frame deadline hst => ?_
  rcases hs with hs | hs
  · exact ⟨deadline, hs ▸ hst⟩
  · rw [hst] at hs
    cases hs

/-- What `send_next` sends is sent for the first time. -/
lemma Started.emits {u : ChannelTurn} (h : Started now mid ch' acts)
    (hf : u.firsts = (sentFrames acts).filter isDataRta) (hr : u.retries = false) :
    ∀ frame ∈ sentFrames acts, Emits u frame := by
  intro frame hm
  refine .first hr ?_
  rw [hf]
  refine List.mem_filter.2 ⟨hm, ?_⟩
  cases h with
  | nothing hno => cases hm
  | sent hs hq =>
    rw [List.mem_singleton.1 hm]
    exact isDataRta_dataFrame _ _ _ _

/-- An acknowledgement goes ahead of the rest. -/
lemma emits_ack {u : ChannelTurn} {p : Priority} {seq : UInt16} {rest : List Bytes}
    (h : u.frames = u.before.ackFrame p seq :: rest) (hrest : ∀ frame ∈ rest, Emits u frame) :
    ∀ frame ∈ u.frames, Emits u frame := by
  intro frame hm
  rw [h] at hm
  rcases List.mem_cons.1 hm with rfl | hm
  · exact .ack p seq
  · exact hrest frame hm

lemma op_numbers {o : Op} (h : ch.op o = .ok (ch', acts)) :
    Numbers ⟨ch, .op o, ch', .acts acts⟩ := by
  have hnone : ∀ {u : ChannelTurn}, ∀ frame ∈ ([] : List Bytes), Emits u frame :=
    fun frame hm => absurd hm List.not_mem_nil
  cases op_step h with
  | @enqueued req now ch' acts hfit hs =>
    have hcounts : Counts ⟨ch, .op (.enqueue req now), ch', .acts acts⟩ := by
      refine Started.counts hs ?_ ?_ ?_ ?_ ?_ (.inl ?_) <;> rfl
    exact ⟨hcounts, by cases hs <;> rfl, hs.emits rfl rfl⟩
  | @unusable frame now =>
    refine ⟨counts_same rfl rfl rfl (.inl rfl), ?_, hnone⟩
    rw [received_none fun pdu data hf hb => ?_]
    · rfl
    · rw [onFrame_unusable h hf] at hb
      cases hb
  | delivered hf hb hs =>
    refine ⟨counts_same rfl rfl rfl (.inr rfl), ?_, hnone⟩
    rw [received_other hf (by simp [hb])]
    rfl
  | strayAck hf hb hs =>
    refine ⟨counts_same rfl rfl rfl (.inl rfl), ?_, hnone⟩
    rw [received_other hf (by simp [hb])]
    rfl
  | duplicate hf hb hseq =>
    refine ⟨counts_same (filter_ackFrame _ _ _ []) rfl rfl (.inl rfl), ?_, emits_ack rfl hnone⟩
    rw [received_data hf hb]
    exact hseq.symm
  | @acked frame now pdu a req ch' acts hf hb hseq hm hs =>
    have hfirsts : (⟨ch, .op (.frame frame now), ch', .acts (.send (ch.ackFrame pdu.priority
        pdu.header.sendSeq) :: .acked req.id a.status :: acts)⟩ : ChannelTurn).firsts =
        (sentFrames acts).filter isDataRta := filter_ackFrame _ _ _ _
    refine ⟨?_, ?_, emits_ack rfl (hs.emits hfirsts rfl)⟩
    · refine Started.counts hs hfirsts ?_ ?_ ?_ ?_ (.inr ?_) <;> rfl
    · rw [received_data hf hb]
      cases hs <;> rfl
  | otherData hf hb hseq hm =>
    refine ⟨counts_same (filter_ackFrame _ _ _ []) rfl rfl (.inl rfl), ?_, emits_ack rfl hnone⟩
    rw [received_data hf hb]
    rfl
  | errRta hf hb =>
    refine ⟨counts_same rfl rfl rfl (.inr rfl), ?_, hnone⟩
    rw [received_other hf (by simp [hb])]
    rfl
  | early hd => exact ⟨counts_same (ite_self _) rfl rfl (.inl rfl), rfl, hnone⟩
  | @resent now deadline req seq frame hs hd ha =>
    have hr : (⟨ch, .op (.tick now), ch.retransmitted req seq frame now, .acts [.send frame]⟩ :
        ChannelTurn).retries = true := by
      simp only [ChannelTurn.retries, hs]
    refine ⟨.same (if_pos hr) rfl rfl fun req' seq' frame' deadline' hst => ?_, rfl, ?_⟩
    · cases hst
      exact ⟨deadline, hs⟩
    · intro f hm
      rw [List.mem_singleton.1 hm]
      exact .again hr hs
  | gaveUp hs hd ha => exact ⟨counts_same (ite_self _) rfl rfl (.inr rfl), rfl, hnone⟩
  | @dropped now deadline req ch' acts hs hd hst =>
    have hr : ∀ {ch' : AlarmChannel} {reply : ChannelReply},
        (⟨ch, .op (.tick now), ch', reply⟩ : ChannelTurn).retries = false := by
      intro ch' reply
      simp only [ChannelTurn.retries, hs]
    have hfirsts : (⟨ch, .op (.tick now), ch', .acts acts⟩ : ChannelTurn).firsts =
        (sentFrames acts).filter isDataRta := if_neg (by rw [hr]; decide)
    refine ⟨?_, by cases hst <;> rfl, hst.emits hfirsts hr⟩
    refine Started.counts hst hfirsts hr ?_ ?_ ?_ (.inr ?_) <;> rfl

lemma Called.numbers (h : Called ch c ch' reply) : Numbers ⟨ch, c, ch', reply⟩ := by
  cases h with
  | op h => exact op_numbers h
  | refused h => exact ⟨counts_same rfl rfl rfl (.inl rfl), rfl, fun _ hm => by cases hm⟩
  | errRta status h =>
    refine ⟨counts_same rfl rfl rfl (.inl rfl), rfl, fun frame hm => ?_⟩
    rw [List.mem_singleton.1 hm]
    exact .err h
  | specifier => exact ⟨counts_same rfl rfl rfl (.inl rfl), rfl, fun _ hm => by cases hm⟩

/-- Only `next_specifier_sequence` gives a number out and moves that counter. -/
lemma Called.specifiers (h : Called ch c ch' reply) :
    (⟨ch, c, ch', reply⟩ : ChannelTurn).number = none ∧ ch'.specifierSeq = ch.specifierSeq ∨
      (⟨ch, c, ch', reply⟩ : ChannelTurn).number = some ch.specifierSeq ∧
        ch'.specifierSeq = (ch.specifierSeq + 1) &&& 0x07FF := by
  cases h with
  | op h => exact .inl ⟨rfl, (op_step h).frame.2⟩
  | refused h => exact .inl ⟨rfl, rfl⟩
  | errRta status h => exact .inl ⟨rfl, rfl⟩
  | specifier => exact .inr ⟨rfl, rfl⟩

end AlarmChannel

/-! ### Headers -/

section Headers

variable {u : ChannelTurn} {frame : Bytes}

lemma ChannelTurn.mem_datas (h : frame ∈ u.datas) : frame ∈ u.frames ∧ isDataRta frame = true := by
  obtain ⟨hm, hd⟩ := List.mem_filter.1 h
  refine ⟨?_, hd⟩
  unfold acts at hm
  unfold frames
  cases hr : u.reply with
  | acts acts =>
    rw [hr] at hm
    exact hm
  | _ =>
    rw [hr] at hm
    cases hm

lemma rtaHeaderOf_errRta {ch : AlarmChannel} {status : PnioStatus}
    (h : (ch.errRta status : Res Empty _) = .ok frame) :
    ∃ h, rtaHeaderOf frame = some h ∧ h.pduType = .err ∧ h.sendSeq = ch.lastSentSeq ∧
      h.ackSeq = ch.lastRxSeq := by
  cases h
  exact ⟨_, rtaHeaderOf_around _ _ _ _ _, rfl, rfl, rfl⟩

lemma isDataRta_errRta {ch : AlarmChannel} {status : PnioStatus}
    (h : (ch.errRta status : Res Empty _) = .ok frame) : isDataRta frame = false := by
  obtain ⟨hd, heq, hty, -⟩ := rtaHeaderOf_errRta h
  rw [isDataRta, heq, Option.any_some, hty]
  rfl

end Headers

/-! ### The numbers of a run -/

structure SeqInv (ch : AlarmChannel) (log : List ChannelTurn) : Prop where
  next : ch.nextSendSeq = sendSeqOf (log.flatMap (·.firsts)).length
  last : ch.lastSentSeq = lastDataSeq log
  rx : ch.lastRxSeq = lastAcceptedSeq log
  kept : ∀ req seq frame deadline, ch.state = .sentData req seq frame deadline →
    (log.flatMap (·.firsts)).getLast? = some frame
  spec : ch.specifierSeq.toNat = (log.filterMap (·.number)).length % 0x800
  firsts : ∀ (k : Nat) frame, (log.flatMap (·.firsts))[k]? = some frame →
    ∃ h, rtaHeaderOf frame = some h ∧ h.sendSeq = sendSeqOf k
  numbers : ∀ (k : Nat) n, (log.filterMap (·.number))[k]? = some n → n.toNat = k % 0x800
  frames : Along (fun pre u => ∀ frame ∈ u.frames,
    ∃ h, rtaHeaderOf frame = some h ∧ CarriesSeqs pre u frame h) log

section Step

variable {ch : AlarmChannel} {log : List ChannelTurn} {u : ChannelTurn}

/-- What the frames sent in a turn say about the last DATA. -/
lemma lastDataSeq_snoc {seq : UInt16}
    (h : ∀ frame ∈ u.datas, ∃ hd, rtaHeaderOf frame = some hd ∧ hd.sendSeq = seq)
    (hnil : u.datas = [] → lastDataSeq log = seq) : lastDataSeq (log ++ [u]) = seq := by
  rw [lastDataSeq, List.flatMap_append, List.flatMap_singleton]
  rcases List.eq_nil_or_concat u.datas with hd | ⟨l, frame, hd⟩
  · rw [hd, List.append_nil]
    exact hnil hd
  · obtain ⟨hdr, hh, hseq⟩ := h frame (by rw [hd]; simp)
    rw [hd, List.concat_eq_append, ← List.append_assoc, List.getLast?_concat, Option.bind_some, hh]
    exact hseq

/-- The DATA frames of a turn that sends none for the first time are the one that is kept. -/
lemma datas_again (hg : u.before.Good) (hn : Numbers u) (hf : u.firsts = []) :
    ∀ frame ∈ u.datas, ∃ hd, rtaHeaderOf frame = some hd ∧ hd.sendSeq = u.before.lastSentSeq := by
  intro frame hm
  obtain ⟨hframe, hdata⟩ := u.mem_datas hm
  cases hn.emits frame hframe with
  | ack priority seq =>
    rw [isDataRta_ackFrame] at hdata
    cases hdata
  | err h =>
    rw [isDataRta_errRta h] at hdata
    cases hdata
  | first hr h =>
    rw [hf] at h
    cases h
  | again hr h =>
    obtain ⟨hseq, ackSeq, rfl⟩ := hg.framed _ _ _ _ h
    obtain ⟨hd, hh, -, hs, -⟩ := rtaHeaderOf_dataFrame u.before.cfg _ _ ackSeq
    exact ⟨hd, hh, hs.trans hseq⟩

/-- The DATA frames of a turn that is no retry are those sent for the first time. -/
lemma ChannelTurn.firsts_of_not (hr : u.retries = false) : u.firsts = u.datas :=
  if_neg (by rw [hr]; decide)

lemma SeqInv.carries (h : SeqInv u.before log) (hn : Numbers u) (hg : u.before.Good)
    (hrx : u.after.lastRxSeq = lastAcceptedSeq (log ++ [u])) :
    ∀ frame ∈ u.frames, ∃ hd, rtaHeaderOf frame = some hd ∧ CarriesSeqs log u frame hd := by
  intro frame hm
  cases hn.emits frame hm with
  | ack priority seq => exact ⟨_, rtaHeaderOf_around _ _ _ _ _, h.last⟩
  | err herr =>
    obtain ⟨hd, hh, hty, hs, ha⟩ := rtaHeaderOf_errRta herr
    refine ⟨hd, hh, ?_⟩
    rw [CarriesSeqs, hty]
    exact ⟨hs.trans h.last, ha.trans h.rx⟩
  | first hr hf =>
    cases hn.counts with
    | same hnil => rw [hnil] at hf; cases hf
    | @sent req deadline _ hfirsts _ _ _ =>
      have hmem := hf
      rw [hfirsts] at hf
      obtain rfl := List.mem_singleton.1 hf
      obtain ⟨hd, hh, hty, hs, ha⟩ := rtaHeaderOf_dataFrame u.before.cfg req
        u.before.nextSendSeq u.after.lastRxSeq
      refine ⟨hd, hh, ?_⟩
      rw [CarriesSeqs, hty]
      dsimp only
      rw [if_neg (by rw [hr]; decide)]
      exact ⟨hmem, hs.trans h.next, ha.trans hrx⟩
  | @again req seq _ deadline hr hst =>
    obtain ⟨-, ackSeq, rfl⟩ := hg.framed _ _ _ _ hst
    obtain ⟨hd, hh, hty, -, -⟩ := rtaHeaderOf_dataFrame u.before.cfg req seq ackSeq
    refine ⟨hd, hh, ?_⟩
    rw [CarriesSeqs, hty]
    dsimp only
    rw [if_pos hr]
    exact h.kept _ _ _ _ hst

/-- An entry of a list that grew. -/
lemma getElem?_append_singletons {α : Type} {P : Nat → α → Prop} {l l' : List α}
    (h : ∀ k a, l[k]? = some a → P k a) (hl : l'.length ≤ 1) (h' : ∀ a ∈ l', P l.length a) :
    ∀ k a, (l ++ l')[k]? = some a → P k a := by
  intro k a hk
  rcases Nat.lt_or_ge k l.length with hlt | hge
  · rw [List.getElem?_append_left hlt] at hk
    exact h k a hk
  · rw [List.getElem?_append_right hge] at hk
    have hmem := List.mem_of_getElem? hk
    obtain ⟨hlt, -⟩ := List.getElem?_eq_some_iff.1 hk
    have heq : k = l.length := by omega
    rw [heq]
    exact h' a hmem

lemma SeqInv.step {c : ChannelCall} {ch' : AlarmChannel} {reply : ChannelReply}
    (h : SeqInv ch log) (hg : ch.Good) (hc : AlarmChannel.Called ch c ch' reply) :
    SeqInv ch' (log ++ [⟨ch, c, ch', reply⟩]) := by
  have hn := hc.numbers
  have hspec := hc.specifiers
  generalize hu : (⟨ch, c, ch', reply⟩ : ChannelTurn) = u at hn hspec ⊢
  obtain rfl : u.before = ch := by rw [← hu]
  obtain rfl : u.after = ch' := by rw [← hu]
  have hrx : u.after.lastRxSeq = lastAcceptedSeq (log ++ [u]) := by
    rw [hn.rx, h.rx, lastAcceptedSeq, lastAcceptedSeq, List.filterMap_append]
    cases hrec : u.received with
    | none => simp [hrec]
    | some seq => simp [hrec]
  have hframes := h.frames.snoc (h.carries hn hg hrx)
  have hnumbers : ∀ (k : Nat) n, ((log ++ [u]).filterMap (·.number))[k]? = some n →
      n.toNat = k % 0x800 := by
    rw [List.filterMap_append]
    refine getElem?_append_singletons h.numbers ?_ fun n hm => ?_
    · exact List.length_filterMap_le _ _
    · obtain ⟨v, hv, hvn⟩ := List.mem_filterMap.1 hm
      rw [List.mem_singleton.1 hv] at hvn
      rcases hspec with ⟨hnone, -⟩ | ⟨hsome, -⟩
      · rw [hnone] at hvn
        cases hvn
      · rw [hsome] at hvn
        cases hvn
        exact h.spec
  have hcount : u.after.specifierSeq.toNat =
      ((log ++ [u]).filterMap (·.number)).length % 0x800 := by
    rw [List.filterMap_append, List.length_append]
    rcases hspec with ⟨hnone, hsame⟩ | ⟨hsome, hnext⟩
    · rw [hsame, h.spec]
      simp [hnone]
    · rw [hnext, List.filterMap_cons_some hsome]
      exact toNat_masked_succ (k := 11) (by omega) h.spec rfl
  cases hn.counts with
  | same hf hnx hl hs =>
    have hfl : (log ++ [u]).flatMap (·.firsts) = log.flatMap (·.firsts) := by
      rw [List.flatMap_append, List.flatMap_singleton, hf, List.append_nil]
    refine ⟨?_, ?_, hrx, fun req seq frame deadline hst => ?_, hcount, ?_, hnumbers, hframes⟩
    · rw [hfl, hnx]
      exact h.next
    · rw [lastDataSeq_snoc (datas_again hg hn hf) fun _ => h.last.symm]
      exact hl
    · obtain ⟨deadline', hst'⟩ := hs _ _ _ _ hst
      rw [hfl]
      exact h.kept _ _ _ _ hst'
    · rw [hfl]
      exact h.firsts
  | @sent req deadline hr hf hnx hl hs =>
    have hfl : (log ++ [u]).flatMap (·.firsts) = log.flatMap (·.firsts) ++
        [dataFrame u.before.cfg req u.before.nextSendSeq u.after.lastRxSeq] := by
      rw [List.flatMap_append, List.flatMap_singleton, hf]
    obtain ⟨hd, hh, -, hseq, -⟩ := rtaHeaderOf_dataFrame u.before.cfg req
      u.before.nextSendSeq u.after.lastRxSeq
    have hdatas : u.datas = [dataFrame u.before.cfg req u.before.nextSendSeq
        u.after.lastRxSeq] := (ChannelTurn.firsts_of_not hr).symm.trans hf
    refine ⟨?_, ?_, hrx, fun req' seq' frame' deadline' hst => ?_, hcount, ?_, hnumbers, hframes⟩
    · rw [hfl, hnx, h.next, sendSeqOf_succ, List.length_append]
      rfl
    · refine hl.trans (lastDataSeq_snoc (fun frame hm => ?_) fun hnil => ?_).symm
      · rw [hdatas] at hm
        rw [List.mem_singleton.1 hm]
        exact ⟨hd, hh, hseq⟩
      · rw [hdatas] at hnil
        cases hnil
    · rw [hs] at hst
      cases hst
      rw [hfl, List.getLast?_concat]
    · rw [hfl]
      refine getElem?_append_singletons h.firsts (le_refl 1) fun frame hm => ?_
      rw [List.mem_singleton.1 hm]
      exact ⟨hd, hh, hseq.trans h.next⟩

end Step

lemma reach_seqInv {r : ChannelRun} (h : channelSystem.Reach r) : SeqInv r.ch r.log := by
  refine (channel_inv (fun cfg => ?_) (fun ch log c ch' reply hg hI hc => hI.step hg hc) h).2
  exact ⟨rfl, rfl, rfl, fun req seq frame deadline hst => (by cases hst), rfl,
    fun k frame hk => (by simp at hk), fun k n hk => (by simp at hk), along_nil⟩

lemma sendSeqOf_eq (k : Nat) :
    sendSeqOf k = if k = 0 then 0xFFFF else UInt16.ofNat ((k - 1) % 0x8000) := by
  cases k <;> rfl

/-- Every DATA frame was once sent for the first time. -/
lemma SeqInv.datas_mem {ch : AlarmChannel} {log : List ChannelTurn} (h : SeqInv ch log)
    {u : ChannelTurn} (hu : u ∈ log) {frame : Bytes} (hm : frame ∈ u.datas) :
    frame ∈ log.flatMap (·.firsts) := by
  obtain ⟨pre, post, rfl⟩ := List.append_of_mem hu
  obtain ⟨hframe, hdata⟩ := u.mem_datas hm
  obtain ⟨hd, hh, hcarries⟩ := h.frames pre u post rfl frame hframe
  have hty : hd.pduType = .data := by
    rw [isDataRta, hh, Option.any_some] at hdata
    exact of_decide_eq_true hdata
  rw [CarriesSeqs, hty] at hcarries
  dsimp only at hcarries
  rw [List.flatMap_append, List.flatMap_cons]
  split_ifs at hcarries
  · exact List.mem_append_left _ (List.mem_of_getLast? hcarries)
  · exact List.mem_append_right _ (List.mem_append_left _ hcarries.1)

/-- **The sequence numbers of a channel in closed form.** The first alarm is sent under the number
0xFFFF and the next ones under 0 to 0x7FFF in turn, so neighbours differ and 0xFFFE is not used.
An ACK-RTA or ERR-RTA carries the number of the last DATA sent. A DATA, when it was first built,
and an ERR-RTA acknowledge the last DATA accepted from the peer; a DATA that is sent again is the
last one that was sent for the first time. The numbers for AlarmSpecifiers are 0 to 0x7FF in
turn. -/
theorem channel_numbers {r : ChannelRun} (h : channelSystem.Reach r) :
    (∀ (k : Nat) frame, (r.log.flatMap (·.firsts))[k]? = some frame →
      ∃ hd, rtaHeaderOf frame = some hd ∧
        hd.sendSeq = if k = 0 then 0xFFFF else UInt16.ofNat ((k - 1) % 0x8000)) ∧
    (∀ (k : Nat) f g, (r.log.flatMap (·.firsts))[k]? = some f →
      (r.log.flatMap (·.firsts))[k + 1]? = some g →
      (rtaHeaderOf f).map (·.sendSeq) ≠ (rtaHeaderOf g).map (·.sendSeq)) ∧
    (∀ u ∈ r.log, ∀ frame ∈ u.datas, (rtaHeaderOf frame).map (·.sendSeq) ≠ some 0xFFFE) ∧
    (∀ pre u post, r.log = pre ++ u :: post → ∀ frame ∈ u.frames,
      ∃ hd, rtaHeaderOf frame = some hd ∧ CarriesSeqs pre u frame hd) ∧
    ∀ (k : Nat) n, (r.log.filterMap (·.number))[k]? = some n → n = UInt16.ofNat (k % 0x800) := by
  have hinv := reach_seqInv h
  refine ⟨fun k frame hk => ?_, fun k f g hf hg heq => ?_, fun u hu frame hm heq => ?_,
    hinv.frames, fun k n hk => ?_⟩
  · rw [← sendSeqOf_eq]
    exact hinv.firsts k frame hk
  · obtain ⟨hdf, hhf, hsf⟩ := hinv.firsts k f hf
    obtain ⟨hdg, hhg, hsg⟩ := hinv.firsts (k + 1) g hg
    rw [hhf, hhg, Option.map_some, Option.map_some, hsf, hsg, Option.some.injEq] at heq
    exact sendSeqOf_ne_succ k heq
  · obtain ⟨k, hk⟩ := List.mem_iff_getElem?.1 (hinv.datas_mem hu hm)
    obtain ⟨hd, hh, hs⟩ := hinv.firsts k frame hk
    rw [hh, Option.map_some, hs, Option.some.injEq] at heq
    exact sendSeqOf_ne_none k heq
  · apply UInt16.toNat_inj.1
    rw [hinv.numbers k n hk, UInt16.toNat_ofNat']
    omega

open AlarmDemo in
/-- Two alarms, the second one sent when the first one is acknowledged. -/
theorem channel_numbers_two_alarms :
    ∃ r f g, channelSystem.Reach r ∧ r.log.flatMap (·.firsts) = [f, g] ∧
      (∃ hd, rtaHeaderOf f = some hd ∧ hd.sendSeq = 0xFFFF) ∧
      ∃ hd, rtaHeaderOf g = some hd ∧ hd.sendSeq = 0 := by
  have hrun : (channelSystem.run ⟨.new cfg, []⟩ [.op (.enqueue (alarm 1) 0),
      .op (.enqueue (alarm 2) 1), .op (.frame (peerAck 0) 5)]).any (fun r =>
        r.log.flatMap (·.firsts) == [dataFrame cfg (alarm 1) 0xFFFF 0xFFFE,
          dataFrame cfg (alarm 2) 0 0xFFFF]) = true := by
    decide +kernel
  obtain ⟨r, hr, hp⟩ := System.exists_reach_of_run (S := channelSystem) ⟨cfg, rfl⟩ hrun
  have hfirsts := beq_iff_eq.1 hp
  obtain ⟨hnumbers, -⟩ := channel_numbers hr
  exact ⟨r, _, _, hr, hfirsts, hnumbers 0 _ (by rw [hfirsts]; rfl),
    hnumbers 1 _ (by rw [hfirsts]; rfl)⟩

end Pnio
