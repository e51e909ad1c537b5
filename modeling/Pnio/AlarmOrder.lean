import Pnio.AlarmLog

/-!
The books of an alarm channel: what is accepted is sent in the order it came, and every alarm that
was sent is accounted for.
-/

namespace Pnio

/-- The frame is a DATA frame of this alarm. -/
def Carries (cfg : AlarmChannelConfig) (req : AlarmReq) (frame : Bytes) : Prop :=
  ∃ seq ackSeq, frame = dataFrame cfg req seq ackSeq

/-- An ERR-RTA of the peer comes in while an alarm is in flight. -/
def ChannelTurn.errInFlight (u : ChannelTurn) : Bool :=
  match u.call with
  | .op (.frame bytes _) =>
    u.before.state.req.isSome && (peerPdu u.before.cfg.peerMac bytes).any fun pdu =>
      match pdu.body with
      | .err _ => true
      | _ => false
  | _ => false

/-- The turns since the last abort. -/
def sinceAbort (log : List ChannelTurn) : List ChannelTurn :=
  log.foldl (fun turns u => if u.aborts then [] else turns ++ [u]) []

section SinceAbort

variable {log a b : List ChannelTurn} {u : ChannelTurn}

lemma sinceAbort_snoc (log : List ChannelTurn) (u : ChannelTurn) :
    sinceAbort (log ++ [u]) = if u.aborts then [] else sinceAbort log ++ [u] := by
  rw [sinceAbort, List.foldl_append]
  rfl

/-- A stretch without aborts behind an abort, or from the beginning. -/
lemma sinceAbort_append (ha : ∀ u ∈ a.getLast?, u.aborts = true)
    (hb : ∀ u ∈ b, u.aborts = false) : sinceAbort (a ++ b) = b := by
  have hnil : sinceAbort a = [] := by
    rcases List.eq_nil_or_concat a with rfl | ⟨l, u, rfl⟩
    · rfl
    · rw [List.concat_eq_append, sinceAbort_snoc, if_pos (ha u (by simp))]
  induction b using List.reverseRecOn with
  | nil => rw [List.append_nil, hnil]
  | append_singleton b u ih =>
    rw [← List.append_assoc, sinceAbort_snoc, if_neg (by simp [hb u]),
      ih fun v hv => hb v (List.mem_append_left _ hv)]

end SinceAbort

namespace AlarmChannel

/-- The alarms in flight. -/
def inFlight (ch : AlarmChannel) : Nat := if ch.state.req.isSome then 1 else 0

/-- The alarms whose flight ended by what the channel counts. -/
def settled (ch : AlarmChannel) : Nat :=
  ch.stats.acked + ch.stats.ackTimeouts + ch.stats.sendFailures

variable {ch ch' : AlarmChannel} {now : Instant} {acts : List AlarmAction}

/-- The alarms that leave the queue are those that are sent. -/
lemma Started.accounts (h : Started now ch ch' acts) :
    ∃ new, ch.queue = new ++ ch'.queue ∧
      List.Forall₂ (Carries ch.cfg) new ((sentFrames acts).filter isDataRta) ∧
      ch'.stats.sent = ch.stats.sent + new.length ∧ ch'.settled = ch.settled ∧
      ch'.inFlight = ch.inFlight + new.length := by
  cases h with
  | nothing hn => exact ⟨[], rfl, .nil, rfl, rfl, rfl⟩
  | @sent req queue hs hq =>
    have hidle : ch.inFlight = 0 := by rw [inFlight, hs]; rfl
    refine ⟨[req], hq, ?_, rfl, rfl, ?_⟩
    · rw [sentFrames_send, List.filter_cons_of_pos (isDataRta_dataFrame _ _ _ _)]
      exact .cons ⟨_, _, rfl⟩ .nil
    · rw [hidle]
      rfl

end AlarmChannel

/-- What one turn does to the books: `new` are the alarms it sends for the first time. -/
structure Accounts (u : ChannelTurn) (new : List AlarmReq) : Prop where
  sent : List.Forall₂ (Carries u.before.cfg) new u.firsts
  count : u.after.stats.sent = u.before.stats.sent + new.length
  balance : u.after.settled + (if u.errInFlight then 1 else 0) + u.after.inFlight =
    u.before.settled + u.before.inFlight + new.length
  queue : u.aborts = false → u.before.queue ++ u.accepts = new ++ u.after.queue
  abort : ∀ reason, .abort reason ∈ u.acts →
    u.acts = [.abort reason] ∧ u.after.state = .idle ∧ u.after.queue = []

namespace AlarmChannel

variable {ch ch' : AlarmChannel} {c : ChannelCall} {reply : ChannelReply}

/-- A turn that sends no DATA for the first time. -/
lemma accounts_nothing {u : ChannelTurn} (hf : u.firsts = [])
    (hsent : u.after.stats.sent = u.before.stats.sent)
    (hbal : u.after.settled + (if u.errInFlight then 1 else 0) + u.after.inFlight =
      u.before.settled + u.before.inFlight)
    (hq : u.aborts = false → u.before.queue ++ u.accepts = u.after.queue)
    (ha : ∀ reason, .abort reason ∈ u.acts →
      u.acts = [.abort reason] ∧ u.after.state = .idle ∧ u.after.queue = []) :
    ∃ new, Accounts u new :=
  ⟨[], by rw [hf]; exact .nil, hsent, hbal, hq, ha⟩

/-- Such a turn that leaves the queue alone. -/
lemma accounts_quiet {u : ChannelTurn} (hf : u.firsts = [])
    (hsent : u.after.stats.sent = u.before.stats.sent)
    (hbal : u.after.settled + (if u.errInFlight then 1 else 0) + u.after.inFlight =
      u.before.settled + u.before.inFlight)
    (hq : u.before.queue ++ u.accepts = u.after.queue) (ha : ∀ reason, .abort reason ∉ u.acts) :
    ∃ new, Accounts u new :=
  accounts_nothing hf hsent hbal (fun _ => hq) fun reason hr => absurd hr (ha reason)

/-- An ERR-RTA is received in a turn whose frame is one of the peer. -/
lemma errInFlight_frame {frame : Bytes} {now : Instant} {pdu : RtaPdu}
    (hf : ReadFrom ch.cfg.peerMac frame pdu) :
    (⟨ch, .op (.frame frame now), ch', reply⟩ : ChannelTurn).errInFlight =
      (ch.state.req.isSome && match pdu.body with
        | .err _ => true
        | _ => false) := by
  simp only [ChannelTurn.errInFlight, peerPdu_eq_some.2 hf, Option.any_some]

/-- A frame of the peer that is no ERR-RTA. -/
lemma errInFlight_of_ne {frame : Bytes} {now : Instant} {pdu : RtaPdu}
    (hf : ReadFrom ch.cfg.peerMac frame pdu) (hb : ∀ status, pdu.body ≠ .err status) :
    (⟨ch, .op (.frame frame now), ch', reply⟩ : ChannelTurn).errInFlight = false := by
  rw [errInFlight_frame hf]
  cases hbody : pdu.body with
  | err status => exact absurd hbody (hb status)
  | _ => rw [Bool.and_false]

lemma inFlight_of_req {req : AlarmReq} (h : ch.state.req = some req) : ch.inFlight = 1 := by
  rw [inFlight, h]
  rfl

lemma op_accounts {o : Op} {acts : List AlarmAction} (h : ch.op o = .ok (ch', acts)) :
    ∃ new, Accounts ⟨ch, .op o, ch', .acts acts⟩ new := by
  have hnoAbort : ∀ {l : List AlarmAction} {P : AbortReason → Prop}, (∀ r, .abort r ∉ l) →
      ∀ r, .abort r ∈ l → P r := fun hl r hr => absurd hr (hl r)
  cases op_step h with
  | enqueued hfit hs =>
    obtain ⟨new, hq, hsent, hcount, hset, hfl⟩ := hs.accounts
    refine ⟨new, hsent, hcount, ?_, fun _ => hq, hnoAbort fun r hr => ?_⟩
    · show ch'.settled + 0 + ch'.inFlight = ch.settled + ch.inFlight + new.length
      rw [hset, hfl]
      show ch.settled + 0 + (ch.inFlight + new.length) = ch.settled + ch.inFlight + new.length
      omega
    · obtain ⟨frame, hframe⟩ := hs.sends _ hr
      cases hframe
  | @unusable frame now =>
    have herr : (⟨ch, .op (.frame frame now), ch.countUnexpected, .acts [.unexpectedRx]⟩ :
        ChannelTurn).errInFlight = false := by
      cases hp : peerPdu ch.cfg.peerMac frame with
      | none => simp only [ChannelTurn.errInFlight, hp, Option.any_none, Bool.and_false]
      | some pdu =>
        have hf := peerPdu_eq_some.1 hp
        refine errInFlight_of_ne hf fun status hb => ?_
        rw [onFrame_unusable h hf] at hb
        cases hb
    refine accounts_quiet rfl rfl ?_ (List.append_nil _) (by simp [ChannelTurn.acts])
    rw [herr]
    rfl
  | delivered hf hb hs =>
    have hfl : ch.inFlight = 1 := inFlight_of_req (by rw [hs]; rfl)
    refine accounts_quiet rfl rfl ?_ (List.append_nil _) (by simp [ChannelTurn.acts])
    rw [errInFlight_of_ne hf (by simp [hb])]
    show ch.settled + 0 + 1 = ch.settled + ch.inFlight
    omega
  | strayAck hf hb hs =>
    refine accounts_quiet rfl rfl ?_ (List.append_nil _) (by simp [ChannelTurn.acts])
    rw [errInFlight_of_ne hf (by simp [hb])]
    rfl
  | duplicate hf hb hseq =>
    refine accounts_quiet ?_ rfl ?_ (List.append_nil _) (by simp [ChannelTurn.acts])
    · exact filter_ackFrame _ _ _ []
    · rw [errInFlight_of_ne hf (by simp [hb])]
      rfl
  | @acked frame now pdu a req ch' acts hf hb hseq hm hs =>
    obtain ⟨new, hq, hsent, hcount, hset, hfl⟩ := hs.accounts
    have hone : ch.inFlight = 1 := inFlight_of_req (req_of_matchesInFlight hm)
    refine ⟨new, ?_, hcount, ?_, fun _ => ?_, hnoAbort fun r hr => ?_⟩
    · have hfirsts : (⟨ch, .op (.frame frame now), ch', .acts (.send (ch.ackFrame pdu.priority
          pdu.header.sendSeq) :: .acked req.id a.status :: acts)⟩ : ChannelTurn).firsts =
          (sentFrames acts).filter isDataRta := filter_ackFrame _ _ _ _
      rw [hfirsts]
      exact hsent
    · rw [errInFlight_of_ne hf (by simp [hb])]
      show ch'.settled + 0 + ch'.inFlight = ch.settled + ch.inFlight + new.length
      rw [hset, hfl, hone]
      show (ch.stats.acked + 1 + ch.stats.ackTimeouts + ch.stats.sendFailures) + 0 +
        (0 + new.length) = ch.settled + 1 + new.length
      simp only [settled]
      omega
    · exact (List.append_nil _).trans hq
    · simp only [ChannelTurn.acts, List.mem_cons, reduceCtorEq, false_or] at hr
      obtain ⟨frame, hframe⟩ := hs.sends _ hr
      cases hframe
  | otherData hf hb hseq hm =>
    refine accounts_quiet ?_ rfl ?_ (List.append_nil _) (by simp [ChannelTurn.acts])
    · exact filter_ackFrame _ _ _ []
    · rw [errInFlight_of_ne hf (by simp [hb])]
      rfl
  | @errRta frame now pdu status hf hb =>
    refine accounts_nothing rfl rfl ?_ (fun hno => by cases hno) fun r hr => ?_
    · rw [errInFlight_frame hf, hb, Bool.and_true]
      show ch.settled + (if ch.state.req.isSome then 1 else 0) + 0 = ch.settled + ch.inFlight
      rfl
    · cases List.mem_singleton.1 hr
      exact ⟨rfl, rfl, rfl⟩
  | early hd =>
    refine accounts_quiet ?_ rfl rfl (List.append_nil _) (by simp [ChannelTurn.acts])
    exact ite_self _
  | @resent now deadline req seq frame hs hd ha =>
    have hfl : ch.inFlight = 1 := inFlight_of_req (by rw [hs]; rfl)
    refine accounts_quiet ?_ rfl ?_ (List.append_nil _) (by simp [ChannelTurn.acts])
    · rw [ChannelTurn.firsts, if_pos (by simp only [ChannelTurn.retries, hs])]
    · show ch.settled + 0 + 1 = ch.settled + ch.inFlight
      omega
  | gaveUp hs hd ha =>
    have hfl : ch.inFlight = 1 := inFlight_of_req (by rw [hs]; rfl)
    refine accounts_nothing (ite_self _) rfl ?_ (fun hno => by cases hno) fun r hr => ?_
    · show ch.stats.acked + ch.stats.ackTimeouts + (ch.stats.sendFailures + 1) + 0 + 0 =
        ch.settled + ch.inFlight
      simp only [settled]
      omega
    · cases List.mem_singleton.1 hr
      exact ⟨rfl, rfl, rfl⟩
  | @dropped now deadline req ch' acts hs hd hst =>
    obtain ⟨new, hq, hsent, hcount, hset, hfl⟩ := hst.accounts
    have hone : ch.inFlight = 1 := inFlight_of_req (by rw [hs]; rfl)
    refine ⟨new, ?_, hcount, ?_, fun _ => (List.append_nil _).trans hq, hnoAbort fun r hr => ?_⟩
    · rw [ChannelTurn.firsts, if_neg (by simp [ChannelTurn.retries, hs])]
      exact hsent
    · show ch'.settled + 0 + ch'.inFlight = ch.settled + ch.inFlight + new.length
      rw [hset, hfl, hone]
      show (ch.stats.acked + (ch.stats.ackTimeouts + 1) + ch.stats.sendFailures) + 0 +
        (0 + new.length) = ch.settled + 1 + new.length
      simp only [settled]
      omega
    · obtain ⟨frame, hframe⟩ := hst.sends _ hr
      cases hframe

lemma Called.accounts (h : Called ch c ch' reply) : ∃ new, Accounts ⟨ch, c, ch', reply⟩ new := by
  cases h with
  | op h => exact op_accounts h
  | refused h => exact accounts_quiet rfl rfl rfl (List.append_nil _) fun _ hr => by cases hr
  | errRta status h => exact accounts_quiet rfl rfl rfl (List.append_nil _) fun _ hr => by cases hr
  | specifier => exact accounts_quiet rfl rfl rfl (List.append_nil _) fun _ hr => by cases hr

end AlarmChannel

/-! ### The books of a run -/

/-- The state of the books after a history. -/
structure Books (ch : AlarmChannel) (log : List ChannelTurn) : Prop where
  order : ∃ sent, (sinceAbort log).flatMap (·.accepts) = sent ++ ch.queue ∧
    List.Forall₂ (Carries ch.cfg) sent ((sinceAbort log).flatMap (·.firsts))
  count : ch.stats.sent = (log.flatMap (·.firsts)).length
  balance : ch.stats.sent = ch.settled + (log.filter (·.errInFlight)).length + ch.inFlight
  abort : ∀ u ∈ log, ∀ reason, .abort reason ∈ u.acts →
    u.acts = [.abort reason] ∧ u.after.state = .idle ∧ u.after.queue = []

/-- An abort is among the actions. -/
lemma ChannelTurn.exists_abort {u : ChannelTurn} (h : u.aborts = true) :
    ∃ reason, .abort reason ∈ u.acts := by
  obtain ⟨a, ha, hm⟩ := List.any_eq_true.1 h
  cases a with
  | abort reason => exact ⟨reason, ha⟩
  | _ => cases hm

lemma Books.step {ch ch' : AlarmChannel} {log : List ChannelTurn} {c : ChannelCall}
    {reply : ChannelReply} (h : Books ch log) (hc : AlarmChannel.Called ch c ch' reply) :
    Books ch' (log ++ [⟨ch, c, ch', reply⟩]) := by
  obtain ⟨new, hacc⟩ := hc.accounts
  have hcfg := hc.cfg
  generalize hu : (⟨ch, c, ch', reply⟩ : ChannelTurn) = u at hacc ⊢
  have hb : u.before = ch := by rw [← hu]
  have ha : u.after = ch' := by rw [← hu]
  have hnew := hacc.sent.length_eq
  refine ⟨?_, ?_, ?_, fun v hv => ?_⟩
  · rw [sinceAbort_snoc]
    cases habort : u.aborts with
    | true =>
      -- everything starts anew with an empty queue
      obtain ⟨reason, hr⟩ := ChannelTurn.exists_abort habort
      obtain ⟨-, -, hq⟩ := hacc.abort reason hr
      rw [ha] at hq
      exact ⟨[], by rw [hq]; rfl, .nil⟩
    | false =>
      obtain ⟨sent, hord, hsent⟩ := h.order
      have hqueue := hacc.queue habort
      have hcarry := hacc.sent
      rw [hb, ha] at hqueue
      rw [hb] at hcarry
      refine ⟨sent ++ new, ?_, ?_⟩
      · rw [if_neg Bool.false_ne_true, List.flatMap_append, List.flatMap_singleton, hord,
          List.append_assoc, hqueue, List.append_assoc]
      · rw [if_neg Bool.false_ne_true, List.flatMap_append, List.flatMap_singleton, hcfg]
        exact List.rel_append hsent hcarry
  · have hcount := hacc.count
    rw [ha, hb] at hcount
    rw [hcount, h.count, List.flatMap_append, List.flatMap_singleton, List.length_append, hnew]
  · have hcount := hacc.count
    have hbal := hacc.balance
    rw [ha, hb] at hcount hbal
    have hold := h.balance
    rw [List.filter_append, List.length_append]
    cases herr : u.errInFlight with
    | true =>
      rw [herr, if_pos rfl] at hbal
      rw [List.filter_cons_of_pos herr]
      simp only [List.filter_nil, List.length_cons, List.length_nil]
      omega
    | false =>
      rw [herr, if_neg Bool.false_ne_true] at hbal
      rw [List.filter_cons_of_neg (by rw [herr]; decide)]
      simp only [List.filter_nil, List.length_nil]
      omega
  · rcases List.mem_append.1 hv with hv | hv
    · exact h.abort v hv
    · rw [List.mem_singleton.1 hv]
      exact hacc.abort

lemma reach_books {r : ChannelRun} (h : channelSystem.Reach r) : r.ch.Good ∧ Books r.ch r.log := by
  refine channel_inv (fun cfg => ?_) (fun ch log c ch' reply _ hI hc => hI.step hc) h
  exact ⟨⟨[], rfl, .nil⟩, rfl, rfl, fun u hu => by cases hu⟩

/-- **The books of an alarm channel balance.** In every run and between any two aborts, the alarms
accepted are sent for the first time in the order they came, each once, and those that were not
sent yet are the last ones. An idle channel has nothing queued. An abort is asked for alone and
leaves the channel idle and empty. What was sent was acknowledged, dropped, given up or cut off
by an ERR-RTA, or it is the one alarm in flight. -/
theorem channel_books {r : ChannelRun} (h : channelSystem.Reach r) :
    (∀ a b c, r.log = a ++ (b ++ c) → (∀ u ∈ a.getLast?, u.aborts = true) →
      (∀ u ∈ b, u.aborts = false) →
      ∃ sent waiting, b.flatMap (·.accepts) = sent ++ waiting ∧
        List.Forall₂ (Carries r.ch.cfg) sent (b.flatMap (·.firsts))) ∧
    (r.ch.state = .idle → r.ch.queue = []) ∧
    (∀ u ∈ r.log, ∀ reason, .abort reason ∈ u.acts →
      u.acts = [.abort reason] ∧ u.after.state = .idle ∧ u.after.queue = []) ∧
    r.ch.stats.sent = (r.log.flatMap (·.firsts)).length ∧
    r.ch.stats.sent = r.ch.stats.acked + r.ch.stats.ackTimeouts + r.ch.stats.sendFailures +
      (r.log.filter (·.errInFlight)).length + (if r.ch.state.req.isSome then 1 else 0) := by
  obtain ⟨hgood, hbooks⟩ := reach_books h
  refine ⟨fun a b c hlog ha hb => ?_, hgood.idle, hbooks.abort, hbooks.count, hbooks.balance⟩
  -- the run was once at the end of the stretch
  rw [← List.append_assoc] at hlog
  obtain ⟨ch, hreach, hcfg⟩ := reach_of_prefix h hlog
  obtain ⟨sent, hord, hsent⟩ := (reach_books hreach).2.order
  rw [sinceAbort_append ha hb] at hord hsent
  exact ⟨sent, ch.queue, hord, hcfg ▸ hsent⟩

open AlarmDemo in
/-- Two alarms: the Alarm-Ack for the first one lets the second one go. -/
theorem channel_books_two_alarms :
    ∃ r, channelSystem.Reach r ∧ r.log.flatMap (·.accepts) = [alarm 1, alarm 2] ∧
      r.ch.stats.sent = 2 ∧ r.ch.stats.acked = 1 ∧
      ∃ sent waiting, [alarm 1, alarm 2] = sent ++ waiting ∧
        List.Forall₂ (Carries r.ch.cfg) sent (r.log.flatMap (·.firsts)) := by
  have hrun : (channelSystem.run ⟨.new cfg, []⟩ [.op (.enqueue (alarm 1) 0),
      .op (.enqueue (alarm 2) 1), .op (.frame (peerAck 0) 5)]).any (fun r =>
        r.log.flatMap (·.accepts) == [alarm 1, alarm 2] && r.ch.stats.sent == 2 &&
        r.ch.stats.acked == 1 && r.log.all fun u => !u.aborts) = true := by
    decide +kernel
  obtain ⟨r, hr, hp⟩ := System.exists_reach_of_run (S := channelSystem) ⟨cfg, rfl⟩ hrun
  simp only [Bool.and_eq_true, beq_iff_eq, List.all_eq_true, Bool.not_eq_true'] at hp
  obtain ⟨⟨⟨hacc, hsent⟩, hacked⟩, hno⟩ := hp
  obtain ⟨horder, -⟩ := channel_books hr
  obtain ⟨sent, waiting, heq, hall⟩ := horder [] r.log [] (by simp) (by simp) hno
  exact ⟨r, hr, hacc, hsent, hacked, sent, waiting, hacc ▸ heq, hall⟩

end Pnio
