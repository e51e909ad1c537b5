import Pnio.AlarmOrder

/-!
No alarm hangs: how many due ticks it takes at most until a channel is empty, whatever the peer
sends in between.
-/

namespace Pnio

namespace AlarmChannel

/-- The due ticks that the alarm in flight can still take. -/
def stateLeft (ch : AlarmChannel) : Nat :=
  match ch.state with
  | .idle => 0
  | .sentData .. => ch.cfg.rtaRetries.toNat - ch.attempt.toNat + 1
  | .awaitAlarmAck .. => 1

/-- The due ticks that one alarm can take: the retransmissions, and one that gives the alarm up,
unacknowledged by the transport or by the controller. -/
def perAlarm (ch : AlarmChannel) : Nat := ch.cfg.rtaRetries.toNat + 1

/-- The due ticks until the channel is empty. -/
def patience (ch : AlarmChannel) : Nat := ch.stateLeft + ch.queue.length * ch.perAlarm

/-- The alarms that are not settled yet. -/
def outstanding (ch : AlarmChannel) : Nat := ch.inFlight + ch.queue.length

variable {ch ch' : AlarmChannel} {now : Instant} {acts : List AlarmAction} {c : ChannelCall}
  {reply : ChannelReply}

lemma stateLeft_le (ch : AlarmChannel) : ch.stateLeft ≤ ch.inFlight * ch.perAlarm := by
  unfold stateLeft inFlight perAlarm
  cases ch.state with
  | idle => exact Nat.zero_le _
  | sentData req seq frame deadline =>
    simp only [ChannelState.req, Option.isSome_some, if_true]
    omega
  | awaitAlarmAck req deadline =>
    simp only [ChannelState.req, Option.isSome_some, if_true]
    omega

lemma patience_le (ch : AlarmChannel) : ch.patience ≤ ch.perAlarm * ch.outstanding := by
  have hstate := ch.stateLeft_le
  calc ch.patience ≤ ch.inFlight * ch.perAlarm + ch.queue.length * ch.perAlarm :=
        Nat.add_le_add_right hstate _
    _ = ch.perAlarm * ch.outstanding := by
        rw [outstanding]
        ring

lemma stateLeft_pos (h : ch.state ≠ .idle) : 1 ≤ ch.stateLeft := by
  unfold stateLeft
  cases hs : ch.state with
  | idle => exact absurd hs h
  | sentData req seq frame deadline => exact Nat.le_add_left 1 _
  | awaitAlarmAck req deadline => exact le_refl 1

/-- The next alarm is counted as it was in the queue. -/
lemma Started.patience (h : Started now ch ch' acts) : ch'.patience = ch.patience := by
  cases h with
  | nothing hn => rfl
  | @sent req queue hs hq =>
    have hbefore : ch.stateLeft = 0 := by rw [stateLeft, hs]
    have hafter : (ch.transmitted req queue (dataFrame ch.cfg req ch.nextSendSeq ch.lastRxSeq)
        now).stateLeft = ch.perAlarm := rfl
    rw [AlarmChannel.patience, AlarmChannel.patience, hafter, hbefore, hq, List.length_cons]
    change ch.perAlarm + queue.length * ch.perAlarm = 0 + (queue.length + 1) * ch.perAlarm
    ring

end AlarmChannel

/-- A tick that finds the deadline of the alarm in flight passed. -/
def ChannelTurn.due (u : ChannelTurn) : Bool :=
  match u.call, u.before.nextDeadline with
  | .op (.tick now), some deadline => decide (deadline ≤ now)
  | _, _ => false

namespace AlarmChannel

variable {ch ch' : AlarmChannel} {now : Instant} {acts : List AlarmAction} {c : ChannelCall}
  {reply : ChannelReply}

/-- The due ticks of one turn. -/
def dueIn (u : ChannelTurn) : Nat := if u.due then 1 else 0

/-- A turn that accepts nothing and is no due tick. -/
lemma patience_quiet {u : ChannelTurn} (hdue : u.due = false) (hacc : u.accepts = [])
    (h : u.after.patience ≤ u.before.patience) :
    dueIn u + u.after.patience ≤ u.before.patience + u.before.perAlarm * u.accepts.length := by
  rw [dueIn, hdue, hacc]
  simpa using h

/-- A turn that takes something off counts for a due tick, whatever it was. -/
lemma patience_due {u : ChannelTurn}
    (h : u.after.patience + 1 ≤ u.before.patience) :
    dueIn u + u.after.patience ≤ u.before.patience + u.before.perAlarm * u.accepts.length := by
  have hone : dueIn u ≤ 1 := by
    unfold dueIn
    split_ifs <;> omega
  omega

/-- **One operation**: a due tick takes one off, and only an accepted alarm puts any on. -/
lemma Step.patience {o : Op} (h : Step ch o ch' acts) :
    dueIn ⟨ch, .op o, ch', .acts acts⟩ + ch'.patience ≤ ch.patience +
      ch.perAlarm * (ChannelTurn.accepts ⟨ch, .op o, ch', .acts acts⟩).length := by
  cases h with
  | @enqueued req now ch' acts hfit h =>
    have hmore : AlarmChannel.patience { ch with queue := ch.queue ++ [req] } =
        ch.patience + ch.perAlarm := by
      change ch.stateLeft + (ch.queue ++ [req]).length * ch.perAlarm = _
      rw [AlarmChannel.patience, List.length_append, List.length_singleton]
      ring
    rw [h.patience, hmore]
    change 0 + (ch.patience + ch.perAlarm) ≤ ch.patience + ch.perAlarm * 1
    omega
  | unusable => exact patience_quiet rfl rfl (le_refl ch.patience)
  | delivered hf hb hs =>
    refine patience_quiet rfl rfl ?_
    have hpos : 1 ≤ ch.stateLeft := stateLeft_pos (by rw [hs]; nofun)
    exact Nat.add_le_add_right hpos _
  | strayAck hf hb hs => exact patience_quiet rfl rfl (le_refl ch.patience)
  | duplicate hf hb hseq => exact patience_quiet rfl rfl (le_refl ch.patience)
  | acked hf hb hseq hm h =>
    refine patience_quiet rfl rfl ?_
    change ch'.patience ≤ ch.patience
    rw [h.patience]
    exact Nat.add_le_add_right (Nat.zero_le ch.stateLeft) _
  | otherData hf hb hseq hm => exact patience_quiet rfl rfl (le_refl ch.patience)
  | errRta hf hb =>
    refine patience_quiet rfl rfl ?_
    change 0 + 0 * _ ≤ ch.patience
    omega
  | @early now h =>
    refine patience_quiet ?_ rfl (le_refl ch.patience)
    unfold ChannelTurn.due
    cases hd : ch.nextDeadline with
    | none => rfl
    | some d => exact decide_eq_false (not_le.2 (h d hd))
  | @resent now deadline req seq frame hs hd ha =>
    refine patience_due ?_
    -- one attempt more is one repetition less
    have hlt : ch.attempt.toNat < ch.cfg.rtaRetries.toNat := UInt16.lt_iff_toNat_lt.1 ha
    have hmax := ch.cfg.rtaRetries.toNat_lt
    have hnext : (ch.attempt + 1).toNat = ch.attempt.toNat + 1 := by
      rw [UInt16.toNat_add, UInt16.toNat_one, Nat.mod_eq_of_lt (by omega)]
    have hbefore : ch.stateLeft = ch.cfg.rtaRetries.toNat - ch.attempt.toNat + 1 := by
      rw [stateLeft, hs]
    have hafter : (ch.retransmitted req seq frame now).stateLeft =
        ch.cfg.rtaRetries.toNat - (ch.attempt + 1).toNat + 1 := rfl
    change (ch.retransmitted req seq frame now).stateLeft + ch.queue.length * ch.perAlarm + 1 ≤
      ch.stateLeft + ch.queue.length * ch.perAlarm
    omega
  | gaveUp hs hd ha =>
    refine patience_due ?_
    have hpos : 1 ≤ ch.stateLeft := stateLeft_pos (by rw [hs]; nofun)
    change 0 + 0 * _ + 1 ≤ ch.stateLeft + ch.queue.length * ch.perAlarm
    omega
  | dropped hs hd h =>
    refine patience_due ?_
    have hone : ch.stateLeft = 1 := by rw [stateLeft, hs]
    change ch'.patience + 1 ≤ ch.patience
    rw [h.patience, AlarmChannel.patience, AlarmChannel.patience, hone]
    change 0 + ch.queue.length * ch.perAlarm + 1 ≤ 1 + ch.queue.length * ch.perAlarm
    omega

lemma Called.patience (h : Called ch c ch' reply) :
    dueIn ⟨ch, c, ch', reply⟩ + ch'.patience ≤ ch.patience +
      ch.perAlarm * (ChannelTurn.accepts ⟨ch, c, ch', reply⟩).length := by
  cases h with
  | op h => exact (op_step h).patience
  | refused h => exact patience_quiet rfl rfl (le_refl ch.patience)
  | errRta status h => exact patience_quiet rfl rfl (le_refl ch.patience)
  | specifier => exact patience_quiet rfl rfl (le_refl ch.patience)

end AlarmChannel

/-! ### Runs -/

section Runs

variable {r : ChannelRun} {a b : List ChannelTurn}

/-- The due ticks of a stretch of a run. -/
def dueTicks (turns : List ChannelTurn) : Nat := (turns.filter (·.due)).length

lemma dueTicks_snoc (turns : List ChannelTurn) (u : ChannelTurn) :
    dueTicks (turns ++ [u]) = dueTicks turns + AlarmChannel.dueIn u := by
  unfold dueTicks AlarmChannel.dueIn
  cases hu : u.due <;> simp [hu]

/-- **A stretch of a run**: what its due ticks took off was there or was accepted meanwhile. -/
lemma reach_patience (h : channelSystem.Reach r) (hlog : r.log = a ++ b) :
    ∃ ch, channelSystem.Reach ⟨ch, a⟩ ∧ ch.cfg = r.ch.cfg ∧
      dueTicks b + r.ch.patience ≤ ch.patience + ch.perAlarm * (b.flatMap (·.accepts)).length := by
  induction h generalizing b with
  | init h0 =>
    obtain ⟨cfg, rfl⟩ := h0
    obtain ⟨rfl, rfl⟩ := List.append_eq_nil_iff.1 hlog.symm
    refine ⟨_, .init ⟨cfg, rfl⟩, rfl, ?_⟩
    exact Nat.le_add_right_of_le (by rw [dueTicks]; simp)
  | @step r r' c hr hg hs ih =>
    obtain ⟨reply, hc, hlog'⟩ := channelSystem_step hs
    rcases List.eq_nil_or_concat b with rfl | ⟨b, u, rfl⟩
    · rw [List.append_nil] at hlog
      refine ⟨r'.ch, hlog ▸ .step hr hg hs, rfl, ?_⟩
      exact Nat.le_add_right_of_le (by rw [dueTicks]; simp)
    · rw [hlog', List.concat_eq_append, ← List.append_assoc] at hlog
      obtain ⟨hpre, hu⟩ := List.append_inj' hlog rfl
      obtain ⟨ch, hch, hcfg, hle⟩ := ih hpre
      have hstep := hc.patience
      rw [List.cons.inj hu |>.1] at hstep
      have hper : r.ch.perAlarm = ch.perAlarm := by
        rw [AlarmChannel.perAlarm, AlarmChannel.perAlarm, hcfg]
      rw [hper] at hstep
      refine ⟨ch, hch, hcfg.trans hc.cfg.symm, ?_⟩
      rw [List.concat_eq_append, dueTicks_snoc, List.flatMap_append, List.flatMap_singleton,
        List.length_append, Nat.mul_add]
      omega

end Runs

/-- **No alarm hangs.** In every run, a channel with something to do has a deadline; and from any
moment on, whatever the peer sends, there are at most `rta_retries + 1` due ticks for each alarm
that was there or came later. After so many the channel is empty. -/
theorem alarm_never_hangs {r : ChannelRun} (h : channelSystem.Reach r) :
    (r.ch.nextDeadline = none ↔ r.ch.state = .idle ∧ r.ch.queue = []) ∧
      ∀ a b, r.log = a ++ b → ∃ ch, channelSystem.Reach ⟨ch, a⟩ ∧ ch.cfg = r.ch.cfg ∧
        let bound := (ch.cfg.rtaRetries.toNat + 1) *
          (ch.inFlight + ch.queue.length + (b.flatMap (·.accepts)).length)
        dueTicks b ≤ bound ∧ (dueTicks b = bound → r.ch.state = .idle ∧ r.ch.queue = []) := by
  have hgood := (reach_books h).1
  refine ⟨⟨fun hnone => ?_, fun hidle => ?_⟩, fun a b hlog => ?_⟩
  · have hidle : r.ch.state = .idle := by
      unfold AlarmChannel.nextDeadline at hnone
      split at hnone
      · cases hnone
      · cases hnone
      · assumption
    exact ⟨hidle, hgood.idle hidle⟩
  · rw [AlarmChannel.nextDeadline, hidle.1]
  · obtain ⟨ch, hch, hcfg, hle⟩ := reach_patience h hlog
    have hstart := ch.patience_le
    refine ⟨ch, hch, hcfg, ?_⟩
    intro bound
    have hbound : bound = ch.perAlarm * ch.outstanding +
        ch.perAlarm * (b.flatMap (·.accepts)).length := Nat.mul_add _ _ _
    refine ⟨by omega, fun heq => ?_⟩
    have hidle : r.ch.state = .idle := by
      by_contra hne
      have hpos : 1 ≤ r.ch.patience := le_trans (AlarmChannel.stateLeft_pos hne)
        (Nat.le_add_right _ _)
      omega
    exact ⟨hidle, hgood.idle hidle⟩

open AlarmDemo in
/-- An alarm nobody acknowledges is given up at the fourth due tick, which is the bound. -/
theorem alarm_never_hangs_unanswered :
    ∃ r, channelSystem.Reach r ∧ dueTicks r.log = 4 ∧ r.ch.nextDeadline = none ∧
      ∃ ch, channelSystem.Reach ⟨ch, []⟩ ∧ 4 ≤ 4 * (ch.inFlight + ch.queue.length + 1) := by
  have hrun : (channelSystem.run ⟨.new cfg, []⟩ [.op (.enqueue (alarm 1) 0), .op (.tick 100),
      .op (.tick 200), .op (.tick 300), .op (.tick 400)]).any (fun r =>
        dueTicks r.log == 4 && (r.log.flatMap (·.accepts)).length == 1 &&
          decide (r.ch.state = .idle ∧ r.ch.queue = []) && decide (r.ch.cfg = cfg)) = true := by
    decide +kernel
  obtain ⟨r, hr, hp⟩ := System.exists_reach_of_run (S := channelSystem) ⟨cfg, rfl⟩ hrun
  simp only [Bool.and_eq_true, beq_iff_eq, decide_eq_true_eq] at hp
  obtain ⟨⟨⟨hdue, hacc⟩, hidle⟩, hcfg⟩ := hp
  obtain ⟨hnone, hall⟩ := alarm_never_hangs hr
  obtain ⟨ch, hch, hsame, hle, -⟩ := hall [] r.log rfl
  rw [hdue, hacc, hsame, hcfg] at hle
  exact ⟨r, hr, hdue, hnone.2 hidle, ch, hch, hle⟩

end Pnio
