import Pnio.DeviceLife

/-!
The actions of an alarm channel are performed while it is the current one.

The epochs of the source wrap; that they still tell the channels apart comes from the numbers
of the ApplicationReady calls, which do not: each channel was opened by the answer to one.
-/

namespace Pnio

/-- The channel that is open, if any, after one more entry of the log. -/
def track (c : Option Nat) : Obs → Option Nat
  | .opened n _ => some n
  | .closed => none
  | _ => c

/-- The number of the channel that is open after the log. -/
def current (log : List Obs) : Option Nat := log.foldl track none

/-- Neither opens nor closes a channel. -/
def Obs.neutral (o : Obs) : Prop := ∀ c, track c o = c

/-- An action of the channel `p` may come after `pre`: the channel is open, it has not asked for
an abort that was performed, and no newer one was opened. -/
def MayPerform (pre : List Obs) (p : Nat) : Prop :=
  current pre = some p ∧ (∀ r, .performed p (.abort r) ∉ pre) ∧
    ∀ n cfg, .opened n cfg ∈ pre → n ≤ p

/-- What may come after `pre`. -/
def Allowed (pre : List Obs) : Obs → Prop
  | .performed p _ => MayPerform pre p
  | _ => True

section Log

variable {log obs : List Obs} {p : Nat}

lemma current_append (h : ∀ o ∈ obs, o.neutral) : current (log ++ obs) = current log := by
  rw [current, List.foldl_append, ← current]
  induction obs generalizing log with
  | nil => rfl
  | cons o obs ih =>
    rw [List.foldl_cons, h o (by simp)]
    exact ih fun o' ho' => h o' (by simp [ho'])

/-- Neutral for every statement about the channels. -/
def Plain (obs : List Obs) : Prop := ∀ o ∈ obs, o.neutral ∧ ∀ p a, o ≠ .performed p a

lemma plain_sends (h : ∀ o ∈ obs, o.isSend) : Plain obs := by
  intro o ho
  have hsend := h o ho
  cases o with
  | rpcSent o | ethSent frame => exact ⟨fun _ => rfl, fun p a heq => by cases heq⟩
  | _ => cases hsend

lemma plain_callback (state : ArState) (reason : Option AbortReason) :
    Plain [.callback state reason] := by
  intro o ho
  rw [List.mem_singleton.1 ho]
  exact ⟨fun _ => rfl, fun p a heq => by cases heq⟩

lemma plain_enqueued (n : AlarmNotification) : Plain [.enqueued n] := by
  intro o ho
  rw [List.mem_singleton.1 ho]
  exact ⟨fun _ => rfl, fun p a heq => by cases heq⟩

lemma Plain.opened_notMem (h : Plain obs) (n : Nat) (cfg : AlarmChannelConfig) :
    .opened n cfg ∉ obs := by
  intro hn
  have := (h _ hn).1 none
  cases this

lemma Plain.performed_notMem (h : Plain obs) (p : Nat) (a : AlarmAction) :
    .performed p a ∉ obs :=
  fun hm => (h _ hm).2 p a rfl

lemma Plain.along (h : Along Allowed log) (hp : Plain obs) : Along Allowed (log ++ obs) := by
  refine h.append fun pre o post heq => ?_
  have ho := (hp o (by rw [heq]; simp)).2
  cases o <;> first | exact trivial | exact absurd rfl (ho _ _)

lemma replays_neutral (ho : Device.Replays p obs) : ∀ o ∈ obs, o.neutral := by
  intro o hm
  rcases ho o hm with ⟨n, rfl⟩ | ⟨frame, rfl⟩ <;> exact fun _ => rfl

/-- Where `p` may act, what a replay on it does is allowed, and leaves it free to act. -/
lemma along_replays (h : Along Allowed log) (hp : MayPerform log p)
    (ho : Device.Replays p obs) : Along Allowed (log ++ obs) := by
  refine h.append fun pre o post heq => ?_
  rcases ho o (by rw [heq]; simp) with ⟨n, rfl⟩ | ⟨frame, rfl⟩
  · exact trivial
  · -- the entries between are themselves part of the replay
    have hpre : Device.Replays p pre := fun o' ho' => ho o' (by rw [heq]; simp [ho'])
    refine ⟨?_, ?_, ?_⟩
    · rw [current_append (replays_neutral hpre), hp.1]
    · intro r hr
      rcases List.mem_append.1 hr with hr | hr
      · exact hp.2.1 r hr
      · rcases hpre _ hr with ⟨n, hn⟩ | ⟨frame', hf⟩
        · cases hn
        · cases hf
    · intro n cfg hn
      rcases List.mem_append.1 hn with hn | hn
      · exact hp.2.2 n cfg hn
      · rcases hpre _ hn with ⟨m, hm⟩ | ⟨frame', hf⟩
        · cases hm
        · cases hf

end Log

namespace Device

/-- No abort of the channel that is open was performed. -/
def Fresh (d : Device) : Prop :=
  d.alarm.isSome → ∀ r, .performed d.opened (.abort r) ∉ d.log

/-- The books the device keeps on its channels. -/
structure Books (s : Device × List Batch) : Prop where
  epoch : s.1.alarmEpoch = UInt64.ofNat s.1.opened
  count : s.1.opened + (if s.1.cm.ar.state = .appReadySent then 1 else 0) ≤ s.1.cm.callSeq.toNat
  current : current s.1.log = if s.1.alarm.isSome then some s.1.opened else none
  opened : ∀ n cfg, .opened n cfg ∈ s.1.log → n ≤ s.1.opened
  performed : ∀ p a, .performed p a ∈ s.1.log → p ≤ s.1.opened
  batches : ∀ b ∈ s.2, b.epoch = UInt64.ofNat b.producer ∧ b.producer ≤ s.1.opened
  allowed : Along Allowed s.1.log

section Books

variable {d d' : Device} {ps ps' : List Batch} {cm : Cm} {out : CmOutput} {obs : List Obs}
  {b : Batch}

/-- The epochs tell the channels apart: there are fewer than there are call numbers. -/
lemma Books.producer_eq (h : Books (d, ps)) (hb : b ∈ ps) (he : d.alarmEpoch = b.epoch) :
    b.producer = d.opened := by
  obtain ⟨hepoch, hle⟩ := h.batches b hb
  have hcount : d.opened ≤ d.cm.callSeq.toNat := le_trans (Nat.le_add_right _ _) h.count
  have hseq : d.cm.callSeq.toNat < 2 ^ 32 := d.cm.callSeq.toNat_lt
  have heq : (UInt64.ofNat d.opened).toNat = (UInt64.ofNat b.producer).toNat := by
    rw [← h.epoch, he, hepoch]
  rw [UInt64.toNat_ofNat', UInt64.toNat_ofNat'] at heq
  have h1 : d.opened % 2 ^ 64 = d.opened := Nat.mod_eq_of_lt (by omega)
  have h2 : b.producer % 2 ^ 64 = b.producer := Nat.mod_eq_of_lt (by simp only at hle; omega)
  omega

/-- The current channel may act. -/
lemma Books.mayPerform (h : Books (d, ps)) (hf : d.Fresh) (hopen : d.alarm.isSome) :
    MayPerform d.log d.opened :=
  ⟨by rw [h.current, if_pos hopen], hf hopen, h.opened⟩

lemma Books.of_cm (h : Books (d, ps))
    (hc : d.opened + (if cm.ar.state = .appReadySent then 1 else 0) ≤ cm.callSeq.toNat) :
    Books ({ d with cm }, ps) :=
  ⟨h.epoch, hc, h.current, h.opened, h.performed, h.batches, h.allowed⟩

/-- In every other state but `appReadySent` a number is left over, or none is needed. -/
lemma Books.count_of_ne (h : Books (d, ps)) (hs : cm.ar.state ≠ .appReadySent)
    (hq : cm.callSeq = d.cm.callSeq) :
    d.opened + (if cm.ar.state = .appReadySent then 1 else 0) ≤ cm.callSeq.toNat := by
  rw [if_neg hs, hq]
  exact le_trans (Nat.le_add_right _ _) h.count

lemma Books.of_talks (h : Books (d, ps)) (ht : Talks d d' obs) (ho : Plain obs) :
    Books (d', ps) where
  epoch := by
    rw [show (d', ps).1.alarmEpoch = _ from ht.alarmEpoch,
      show (d', ps).1.opened = _ from ht.opened]
    exact h.epoch
  count := by
    rw [show (d', ps).1.cm = _ from ht.cm, show (d', ps).1.opened = _ from ht.opened]
    exact h.count
  current := by
    rw [show (d', ps).1.log = _ from ht.log, current_append fun o hm => (ho o hm).1, h.current,
      show (d', ps).1.opened = _ from ht.opened,
      show (d', ps).1.alarm.isSome = _ from ht.isSome]
  opened := by
    intro n cfg hn
    rw [show (d', ps).1.log = _ from ht.log] at hn
    rw [show (d', ps).1.opened = _ from ht.opened]
    exact h.opened n cfg ((List.mem_append.1 hn).resolve_right (ho.opened_notMem n cfg))
  performed := by
    intro p a hp
    rw [show (d', ps).1.log = _ from ht.log] at hp
    rw [show (d', ps).1.opened = _ from ht.opened]
    exact h.performed p a ((List.mem_append.1 hp).resolve_right (ho.performed_notMem p a))
  batches := by
    intro b hb
    rw [show (d', ps).1.opened = _ from ht.opened]
    exact h.batches b hb
  allowed := by
    rw [show (d', ps).1.log = _ from ht.log]
    exact ho.along h.allowed

lemma Fresh.of_talks (h : d.Fresh) (ht : Talks d d' obs) (ho : Plain obs) : d'.Fresh := by
  intro hopen r hr
  rw [ht.log, ht.opened] at hr
  exact h (ht.isSome ▸ hopen) r ((List.mem_append.1 hr).resolve_right (ho.performed_notMem _ _))

/-- A batch of the current channel joins the others. -/
lemma Books.defer {acts : List AlarmAction} (h : Books (d, ps)) : Books (d, d.defer ps acts) := by
  refine ⟨h.epoch, h.count, h.current, h.opened, h.performed, fun b hb => ?_, h.allowed⟩
  unfold Device.defer at hb
  split_ifs at hb
  · exact h.batches b hb
  · rcases List.mem_append.1 hb with hb | hb
    · exact h.batches b hb
    · rw [List.mem_singleton.1 hb]
      exact ⟨h.epoch, le_refl _⟩

lemma Books.note_performed {p : Nat} (h : Books (d, ps)) (hp : p = d.opened)
    (hm : MayPerform d.log p) (a : AlarmAction) : Books (d.note (.performed p a), ps) where
  epoch := h.epoch
  count := h.count
  current := by
    rw [show (d.note (.performed p a), ps).1.log = d.log ++ [.performed p a] from rfl,
      current_append]
    · exact h.current
    · intro o ho
      rw [List.mem_singleton.1 ho]
      exact fun _ => rfl
  opened := by
    intro n cfg hn
    rcases List.mem_append.1 hn with hn | hn
    · exact h.opened n cfg hn
    · cases List.mem_singleton.1 hn
  performed := by
    intro q a' hq
    rcases List.mem_append.1 hq with hq | hq
    · exact h.performed q a' hq
    · cases List.mem_singleton.1 hq
      exact le_of_eq hp
  batches := h.batches
  allowed := h.allowed.snoc hm

lemma Books.lostBy (h : Books (d, ps)) (r : AbortReason) : Books (d.lostBy r, ps) where
  epoch := by simpa using h.epoch
  count := by simpa using h.count
  current := by
    simp only [lostBy_log, lostBy_alarm]
    simp [Pnio.current, track]
  opened := by
    intro n cfg hn
    simp only [lostBy_log, lostBy_opened, List.mem_append] at hn ⊢
    exact h.opened n cfg (hn.resolve_right (by simp))
  performed := by
    intro p a hp
    simp only [lostBy_log, lostBy_opened, List.mem_append] at hp ⊢
    exact h.performed p a (hp.resolve_right (by simp))
  batches := by simpa using h.batches
  allowed := by
    have hc : d.log ++ [Obs.callback .idle (some r), Obs.closed] =
        (d.log ++ [Obs.callback .idle (some r)]) ++ [Obs.closed] := by simp
    rw [show (d.lostBy r, ps).1.log = _ from lostBy_log .., hc]
    have hcallback : Along Allowed (d.log ++ [Obs.callback .idle (some r)]) :=
      h.allowed.snoc trivial
    exact hcallback.snoc trivial

lemma fresh_lostBy (d : Device) (r : AbortReason) : (d.lostBy r).Fresh := by
  intro hopen
  rw [lostBy_alarm] at hopen
  cases hopen

/-- A new channel: its number is the next one, and only its own replay has acted on it. -/
lemma Books.entered {ctx : ArContext} {obs' : List Obs} (h : Books (d, ps))
    (hd : Entered d cm ctx d' obs obs') (ho : Plain obs) (ho' : Replays (d.opened + 1) obs')
    (hc : d.opened + 1 + (if cm.ar.state = .appReadySent then 1 else 0) ≤ cm.callSeq.toNat) :
    Books (d', ps) ∧ d'.Fresh := by
  let cfg := d.channelConfig ctx.params
  let pre := d.log ++ obs ++ [Obs.callback .data none, Obs.opened (d.opened + 1) cfg]
  have hlog : d'.log = pre ++ obs' := hd.log
  have hopen : d'.alarm.isSome := by simpa using congrArg Option.isSome hd.alarm
  have hcurrent : Pnio.current pre = some (d.opened + 1) := by
    simp [pre, Pnio.current, track]
  have hopened : ∀ n cfg', .opened n cfg' ∈ pre → n ≤ d.opened + 1 := by
    intro n cfg' hn
    simp only [pre, List.mem_append, List.mem_cons, List.not_mem_nil, or_false] at hn
    rcases hn with (hn | hn) | hn | hn
    · exact Nat.le_succ_of_le (h.opened n cfg' hn)
    · exact absurd hn (ho.opened_notMem n cfg')
    · cases hn
    · cases hn
      exact le_refl _
  have hperformed : ∀ p a, .performed p a ∈ pre → p ≤ d.opened := by
    intro p a hp
    simp only [pre, List.mem_append, List.mem_cons, List.not_mem_nil, or_false] at hp
    rcases hp with (hp | hp) | hp | hp
    · exact h.performed p a hp
    · exact absurd hp (ho.performed_notMem p a)
    · cases hp
    · cases hp
  have hmay : MayPerform pre (d.opened + 1) :=
    ⟨hcurrent, fun r hr => absurd (hperformed _ _ hr) (by omega), hopened⟩
  have hpre : Along Allowed pre := by
    have h1 : Along Allowed (d.log ++ obs) := ho.along h.allowed
    have h2 : Along Allowed (d.log ++ obs ++ [Obs.callback .data none]) := h1.snoc trivial
    have h3 : Along Allowed (d.log ++ obs ++ [Obs.callback .data none] ++
        [Obs.opened (d.opened + 1) cfg]) := h2.snoc trivial
    simpa [pre] using h3
  refine ⟨⟨?_, ?_, ?_, ?_, ?_, ?_, ?_⟩, ?_⟩
  · rw [show (d', ps).1.alarmEpoch = _ from hd.alarmEpoch,
      show (d', ps).1.opened = _ from hd.opened, show d.alarmEpoch = _ from h.epoch]
    simp
  · rw [show (d', ps).1.cm = _ from hd.cm, show (d', ps).1.opened = _ from hd.opened]
    exact hc
  · rw [show (d', ps).1.log = _ from hlog, current_append (replays_neutral ho'), hcurrent,
      if_pos hopen, show (d', ps).1.opened = _ from hd.opened]
  · intro n cfg' hn
    rw [show (d', ps).1.log = _ from hlog] at hn
    rw [show (d', ps).1.opened = _ from hd.opened]
    rcases List.mem_append.1 hn with hn | hn
    · exact hopened n cfg' hn
    · rcases ho' _ hn with ⟨m, hm⟩ | ⟨frame, hf⟩
      · cases hm
      · cases hf
  · intro p a hp
    rw [show (d', ps).1.log = _ from hlog] at hp
    rw [show (d', ps).1.opened = _ from hd.opened]
    rcases List.mem_append.1 hp with hp | hp
    · exact Nat.le_succ_of_le (hperformed p a hp)
    · rcases ho' _ hp with ⟨m, hm⟩ | ⟨frame, hf⟩
      · cases hm
      · cases hf
        exact le_refl _
  · intro b hb
    rw [show (d', ps).1.opened = _ from hd.opened]
    exact ⟨(h.batches b hb).1, Nat.le_succ_of_le (h.batches b hb).2⟩
  · rw [show (d', ps).1.log = _ from hlog]
    exact along_replays hpre hmay ho'
  · intro _ r hr
    rw [hlog, hd.opened] at hr
    rcases List.mem_append.1 hr with hr | hr
    · exact absurd (hperformed _ _ hr) (by omega)
    · rcases ho' _ hr with ⟨m, hm⟩ | ⟨frame, hf⟩
      · cases hm
      · cases hf

/-- **Every move keeps the books.** -/
lemma Books.micro {spawn : Bool} {s s' : Device × List Batch} (hl : Life s) (h : Books s)
    (hf : s.1.Fresh) (hm : Micro true spawn s s') : Books s' ∧ s'.1.Fresh := by
  cases hm with
  | talk ht ho => exact ⟨h.of_talks ht (plain_sends ho), hf.of_talks ht (plain_sends ho)⟩
  | @produced d d' ps acts hopen ht ha =>
    have hnil : Plain [] := fun o ho => by cases ho
    refine ⟨?_, hf.of_talks ht hnil⟩
    rw [← ht.defer]
    exact (h.of_talks ht hnil).defer
  | command hc hd =>
    exact ⟨⟨h.epoch, h.count, h.current, h.opened, h.performed, h.batches, h.allowed⟩, hf⟩
  | @announced d d' ps diag n acts hc hd hq =>
    have h' : Books ({ d with diag }, ps) :=
      ⟨h.epoch, h.count, h.current, h.opened, h.performed, h.batches, h.allowed⟩
    have hf' : Fresh { d with diag } := hf
    have hdefer (acts : List AlarmAction) : d.defer ps acts = { d with diag }.defer ps acts := rfl
    rw [hdefer]
    cases hq with
    | dropped ht hno =>
      have hnil : Plain [] := fun o ho => by cases ho
      rw [← ht.defer]
      exact ⟨(h'.of_talks ht hnil).defer, hf'.of_talks ht hnil⟩
    | queued hopen ht ha =>
      rw [← ht.defer]
      exact ⟨(h'.of_talks ht (plain_enqueued _)).defer, hf'.of_talks ht (plain_enqueued _)⟩
  | publish =>
    exact ⟨⟨h.epoch, h.count, h.current, h.opened, h.performed, h.batches, h.allowed⟩, hf⟩
  | @quiet d d' ps cm out obs he hf' hn ht ho =>
    have hcount := h.count
    have hc : d.opened + (if cm.ar.state = .appReadySent then 1 else 0) ≤ cm.callSeq.toNat := by
      obtain ⟨-, ⟨hst, hq⟩ | ⟨hst, hst', hq⟩⟩ := he.of_quiet hn
      · rw [hst, hq]
        exact hcount
      · -- the new call pays for the channel its answer may open
        rw [if_pos hst', hq]
        exact Nat.succ_le_succ (le_trans (Nat.le_add_right _ _) hcount)
    have hfresh : Fresh { d with cm } := hf
    exact ⟨(h.of_cm hc).of_talks ht (plain_sends ho), hfresh.of_talks ht (plain_sends ho)⟩
  | @connected d d' ps cm out obs he hf' hn ht ho =>
    obtain ⟨hst, hst', hq⟩ := he.of_connected hn
    have hfresh : Fresh { d with cm } := hf
    have hb := (h.of_cm (h.count_of_ne (by simp [hst']) hq)).of_talks ht (plain_sends ho)
    exact ⟨hb.of_talks (.note _ _) (plain_callback _ _),
      (hfresh.of_talks ht (plain_sends ho)).of_talks (.note _ _) (plain_callback _ _)⟩
  | @lost d d' ps cm out obs r he hf' hn ht ho =>
    obtain ⟨hst, hst', hq⟩ := he.of_lost hn
    have hb := (h.of_cm (h.count_of_ne (by simp [hst']) hq)).of_talks ht (plain_sends ho)
    exact ⟨hb.lostBy r, fresh_lostBy _ _⟩
  | @takeover d d' ps cm out obs r he hf' hn ht ho =>
    obtain ⟨hst, hst', hq⟩ := he.of_takeover hn
    have hb := (h.of_cm (h.count_of_ne (by simp [hst']) hq)).of_talks ht (plain_sends ho)
    exact ⟨(hb.lostBy r).of_talks (.note _ _) (plain_callback _ _),
      (fresh_lostBy _ _).of_talks (.note _ _) (plain_callback _ _)⟩
  | @data d d1 d2 d3 ps cm out obs obs' ctx spawns he hf' hn hctx ht ho hs hr ht' ho' hv =>
    obtain ⟨hst, hst', hq, -⟩ := he.of_data hn
    have hd := Device.entered hctx ht hr ht'
    have hnumber : d2.openAlarmChannel.opened = d.opened + 1 := ht'.opened.symm.trans hd.opened
    rw [hnumber] at ho'
    -- the call that was answered paid for this channel
    have hcount := h.count
    rw [if_pos hst] at hcount
    refine h.entered hd (plain_sends ho) ho' ?_
    rw [if_neg (by simp [hst']), hq]
    exact hcount
  | @performed d ps b a hb hopen hepoch ha =>
    have hp := h.producer_eq hb hepoch
    have hmay := h.mayPerform hf hopen
    refine ⟨h.note_performed hp (hp ▸ hmay) a, fun _ r hr => ?_⟩
    rcases List.mem_append.1 hr with hr | hr
    · exact hf hopen r hr
    · have heq := List.mem_singleton.1 hr
      injection heq with _ hact
      exact ha r hact.symm
  | @aborted d d' ps b r obs hb hopen hepoch ht ho hst =>
    have hp := h.producer_eq hb hepoch
    have hmay := h.mayPerform hf hopen
    have h1 := (h.note_performed hp (hp ▸ hmay) (.abort r)).of_talks ht (plain_sends ho)
    have h2 : Books ({ d' with cm := { d'.cm with ar := d'.cm.ar.dropped } }, ps) :=
      h1.of_cm (h1.count_of_ne (by simp [Ar.dropped]) rfl)
    exact ⟨h2.lostBy r, fresh_lostBy _ _⟩
  | abortedIdle hb hopen hepoch ht ho hst =>
    -- a channel is only open in `Data`
    have hdata := hl.alarm.1 hopen
    rw [hst] at hdata
    cases hdata
  | popped =>
    exact ⟨⟨h.epoch, h.count, h.current, h.opened, h.performed,
      fun b hb => h.batches b (by simp [hb]), h.allowed⟩, hf⟩

lemma books_kept (spawn : Bool) : Kept spawn fun s => Life s ∧ Books s ∧ s.1.Fresh where
  new setup := by
    refine ⟨(life_kept spawn).new setup, ⟨rfl, ?_, rfl, ?_, ?_, ?_, along_nil⟩, ?_⟩
    · simp [new, Cm.new, Ar.new]
    · simp [new]
    · simp [new]
    · simp
    · simp [Fresh, new]
  move _ _ _ h hm := ⟨h.1.micro hm, h.2.1.micro h.1 h.2.2 hm⟩
  image d im _ h := ⟨⟨h.1.alarm, h.1.runner, h.1.path⟩, ⟨h.2.1.epoch, h.2.1.count, h.2.1.current,
    h.2.1.opened, h.2.1.performed, h.2.1.batches, h.2.1.allowed⟩, h.2.2⟩

end Books

/-- **Actions are performed by the current channel only.** In every run, at every action that was
performed: the channel that produced it was the open one, it was the newest, and no abort of it
had been performed. -/
theorem performed_by_current {d : Device} (h : deviceSystem.Reach d) {pre post : List Obs}
    {p : Nat} {a : AlarmAction} (hlog : d.log = pre ++ .performed p a :: post) :
    current pre = some p ∧ (∀ r, .performed p (.abort r) ∉ pre) ∧
      ∀ n cfg, .opened n cfg ∈ pre → n ≤ p := by
  obtain ⟨-, hbooks, -⟩ := reach_inv (books_kept false) h
  exact hbooks.allowed pre (.performed p a) post hlog

/-- The channel of a second session announces a diagnosis that is still active. -/
theorem performed_by_second_channel :
    ∃ d pre a post, deviceSystem.Reach d ∧ d.log = pre ++ .performed 2 a :: post ∧
      current pre = some 2 ∧ ∀ r, .performed 2 (.abort r) ∉ pre := by
  have hrun : (deviceSystem.run (.new DeviceDemo.setup)
      (DeviceDemo.recv true [] [.raise DeviceDemo.fault] :: DeviceDemo.twoSessions)).any
      (fun d => d.log.any fun | .performed 2 _ => true | _ => false) = true := by
    decide +kernel
  obtain ⟨d, hd, hp⟩ := System.exists_reach_of_run DeviceDemo.new_init hrun
  obtain ⟨o, ho, htest⟩ := List.any_eq_true.1 hp
  split at htest
  · rename_i a
    obtain ⟨pre, post, hlog⟩ := List.append_of_mem ho
    obtain ⟨hcurrent, haborts, -⟩ := performed_by_current hd hlog
    exact ⟨d, pre, a, post, hd, hlog, hcurrent, haborts⟩
  · cases htest

end Device

end Pnio
