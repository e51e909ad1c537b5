import Pnio.CmTrans
import Pnio.Device

/-!
What a step of the device is made of. `Micro` lists the small moves, on the device and the
batches that wait for the end of the step; `step_parts` says that a whole step is a sequence
of them. Invariants are proved move by move.
-/

namespace Pnio

/-- A frame or a datagram goes out. -/
def Obs.isSend : Obs → Bool
  | ethSent _ | rpcSent _ => true
  | _ => false

/-- The notifications given to alarm channels. -/
def enqueuedOf (log : List Obs) : List AlarmNotification :=
  log.filterMap fun
    | .enqueued n => some n
    | _ => none

namespace Device

/-- Nothing but the counters and the inside of the open channel changed, and `obs` was done. -/
structure Talks (d d' : Device) (obs : List Obs) : Prop where
  setup : d'.setup = d.setup
  cm : d'.cm = d.cm
  image : d'.image = d.image
  problem : d'.problem = d.problem
  diag : d'.diag = d.diag
  active : d'.diagShared.active = d.diagShared.active
  alarm : d'.alarm.map (·.cfg) = d.alarm.map (·.cfg)
  alarmEpoch : d'.alarmEpoch = d.alarmEpoch
  runner : d'.runner = d.runner
  opened : d'.opened = d.opened
  log : d'.log = d.log ++ obs

namespace Talks

variable {d d1 d2 : Device} {o1 o2 : List Obs}

lemma refl (d : Device) : Talks d d [] := by
  constructor <;> simp

lemma trans (h : Talks d d1 o1) (h' : Talks d1 d2 o2) : Talks d d2 (o1 ++ o2) where
  setup := h'.setup.trans h.setup
  cm := h'.cm.trans h.cm
  image := h'.image.trans h.image
  problem := h'.problem.trans h.problem
  diag := h'.diag.trans h.diag
  active := h'.active.trans h.active
  alarm := h'.alarm.trans h.alarm
  alarmEpoch := h'.alarmEpoch.trans h.alarmEpoch
  runner := h'.runner.trans h.runner
  opened := h'.opened.trans h.opened
  log := by rw [h'.log, h.log, List.append_assoc]

lemma isSome (h : Talks d d1 o1) : d1.alarm.isSome = d.alarm.isSome := by
  simpa using congrArg Option.isSome h.alarm

lemma batch (h : Talks d d1 o1) (acts : List AlarmAction) : d1.batch acts = d.batch acts := by
  rw [Device.batch, h.alarmEpoch, h.opened, Device.batch]

lemma defer (h : Talks d d1 o1) (ps : List Batch) (acts : List AlarmAction) :
    d1.defer ps acts = d.defer ps acts := by
  rw [Device.defer, h.batch, Device.defer]

lemma note (d : Device) (o : Obs) : Talks d (d.note o) [o] := by
  constructor <;> rfl

lemma publishAlarmStats (d : Device) : Talks d d.publishAlarmStats [] := by
  unfold Device.publishAlarmStats
  split
  · constructor <;> simp
  · exact refl d

lemma channel {ch ch' : AlarmChannel} (h : d.alarm = some ch) (hc : ch'.cfg = ch.cfg) :
    Talks d { d with alarm := some ch' } [] := by
  constructor <;> simp [h, hc]

lemma sendRpc (d : Device) (o : Outgoing) : Talks d (d.sendRpc o) [.rpcSent o] := by
  constructor <;> rfl

lemma sendAll (d : Device) (os : List Outgoing) :
    Talks d (os.foldl Device.sendRpc d) (os.map .rpcSent) := by
  induction os generalizing d with
  | nil => exact refl d
  | cons o os ih => exact (sendRpc d o).trans (ih _)

end Talks

/-! ### The parts of a step -/

section Parts

variable {ε : Type} {d d' : Device} {now : Instant} {acts : List AlarmAction}

/-- What becomes of a notification: it is queued, or there is no channel that takes it. -/
inductive Queued (d : Device) (n : AlarmNotification) : Device → List AlarmAction → Prop
  | dropped {d' : Device} (ht : Talks d d' [])
      (h : ∀ ch, d.alarm = some ch →
        ch.cfg.maxAlarmDataLength.toNat < notificationFixedLen + dataLen n.data) :
      Queued d n d' []
  | queued {d' : Device} {acts : List AlarmAction} {seq : UInt16} (ho : d.alarm.isSome)
      (ht : Talks d d' [.enqueued (stamp n seq)]) (ha : ∀ a ∈ acts, ∃ frame, a = .send frame) :
      Queued d n d' acts

lemma queueNotification_queued {n : AlarmNotification}
    (h : (d.queueNotification n now : Res ε _) = .ok (d', acts)) : Queued d n d' acts := by
  unfold queueNotification at h
  split at h
  · rename_i hnone
    cases h
    exact .dropped (.refl d) fun ch hch => by rw [hnone] at hch; cases hch
  · rename_i ch hch
    dsimp only at h
    obtain ⟨r, hr, h⟩ := Res.bind_eq_ok.1 h
    rcases Res.attempt_eq_ok.1 hr with ⟨⟨ch', acts'⟩, he, rfl⟩ | ⟨e, he, rfl⟩
    · cases h
      have hstep := AlarmChannel.op_step (o := .enqueue _ now) he
      have hcfg : ch'.cfg = ch.cfg := hstep.frame.1
      cases hstep with
      | enqueued hfit hs =>
        have ht : Talks d { d with
            alarm := some ch'
            nextAlarmId := d.nextAlarmId + 1
            log := d.log ++ [.enqueued (stamp n ch.nextSpecifierSequence.1)] }
            [.enqueued (stamp n ch.nextSpecifierSequence.1)] := by
          constructor <;> simp [hch, hcfg]
        exact .queued (by rw [hch]; rfl) ht hs.sends
    · cases h
      refine .dropped (Talks.channel hch rfl) fun c hc => ?_
      rw [hch] at hc
      cases hc
      exact AlarmChannel.enqueue_refused he

/-- The frames `announceAbort` sends are all it does. -/
lemma announceAbort_talks {reason : AbortReason}
    (h : (d.announceAbort reason : Res ε _) = .ok d') :
    ∃ obs, Talks d d' obs ∧ ∀ o ∈ obs, o.isSend := by
  unfold announceAbort at h
  split at h
  · obtain ⟨frame, -, h⟩ := Res.bind_eq_ok.1 h
    cases h
    exact ⟨_, .note d _, by simp [Obs.isSend]⟩
  · cases h
    exact ⟨[], .refl d, by simp⟩

/-- The device after the AR went back to `Idle`. -/
def lostBy (d : Device) (reason : AbortReason) : Device :=
  (d.note (.callback .idle (some reason))).stopRunner.closeAlarmChannel

section LostBy

variable (d : Device) (r : AbortReason)

@[simp] lemma lostBy_setup : (d.lostBy r).setup = d.setup := by
  unfold lostBy stopRunner; split <;> rfl

@[simp] lemma lostBy_cm : (d.lostBy r).cm = d.cm := by
  unfold lostBy stopRunner; split <;> rfl

@[simp] lemma lostBy_diag : (d.lostBy r).diag = d.diag := by
  unfold lostBy stopRunner; split <;> rfl

@[simp] lemma lostBy_diagShared : (d.lostBy r).diagShared = d.diagShared := by
  unfold lostBy stopRunner; split <;> rfl

@[simp] lemma lostBy_problem : (d.lostBy r).problem = d.problem := by
  unfold lostBy stopRunner; split <;> rfl

@[simp] lemma lostBy_alarm : (d.lostBy r).alarm = none := by
  unfold lostBy stopRunner; split <;> rfl

@[simp] lemma lostBy_alarmEpoch : (d.lostBy r).alarmEpoch = d.alarmEpoch := by
  unfold lostBy stopRunner; split <;> rfl

@[simp] lemma lostBy_opened : (d.lostBy r).opened = d.opened := by
  unfold lostBy stopRunner; split <;> rfl

@[simp] lemma lostBy_runner : (d.lostBy r).runner = false := by
  unfold lostBy stopRunner
  split
  · rfl
  · rename_i h
    exact Bool.eq_false_iff.2 h

@[simp] lemma lostBy_log :
    (d.lostBy r).log = d.log ++ [.callback .idle (some r), .closed] := by
  unfold lostBy stopRunner; split <;> simp [note, closeAlarmChannel]

@[simp] lemma lostBy_image :
    (d.lostBy r).image = if d.runner then staleImage d.image else d.image := by
  unfold lostBy stopRunner; split <;> simp_all [note, closeAlarmChannel]

end LostBy

/-- The device after an abort of an established AR. -/
def aborted (d : Device) (reason : AbortReason) : Device :=
  lostBy { d with cm := { d.cm with ar := d.cm.ar.dropped } } reason

@[simp] lemma aborted_cm (d : Device) (r : AbortReason) :
    (d.aborted r).cm = { d.cm with ar := d.cm.ar.dropped } := lostBy_cm ..

/-- The abort does not re-enter `dispatch` more than once: it is the same at every depth. -/
lemma abortWithErrRta_eq (depth : Nat) (spawns : Bool) (reason : AbortReason) (d : Device) :
    (abortWithErrRta (depth + 1) now spawns reason d : Res ε _) =
      d.announceAbort reason >>= fun d =>
        .ok (if d.cm.ar.state = .idle then d else d.aborted reason) := by
  rw [abortWithErrRta]
  refine bind_congr fun d1 => ?_
  split_ifs with hs
  · rw [Cm.abort_idle hs]
    rfl
  · rw [Cm.abort_of_ne hs]
    rfl

/-- Sending never aborts. -/
lemma perform_sends {abort : AbortReason → Device → Res ε Device} {p : Nat}
    (ha : ∀ a ∈ acts, ∃ frame, a = .send frame)
    (h : acts.foldlM (perform abort p) d = .ok d') : Talks d d' (acts.map (.performed p)) := by
  induction acts generalizing d with
  | nil =>
    cases h
    exact .refl _
  | cons a acts ih =>
    obtain ⟨frame, rfl⟩ := ha a (by simp)
    rw [List.foldlM_cons] at h
    exact (Talks.note d _).trans (ih (fun b hb => ha b (by simp [hb])) h)

/-! ### The replay -/

/-- What a replay does: alarms are queued, and sent by the channel `p`. -/
def Replays (p : Nat) (obs : List Obs) : Prop :=
  ∀ o ∈ obs, (∃ n, o = .enqueued n) ∨ ∃ frame, o = .performed p (.send frame)

/-- A channel diagnosis takes six bytes. -/
def IsChannel (n : AlarmNotification) : Prop := dataLen n.data = 6

@[simp] lemma receive_stamp (v : View) (n : AlarmNotification) (seq : UInt16) :
    v.receive (stamp n seq) = v.receive n := rfl

lemma enqueuedOf_append (a b : List Obs) : enqueuedOf (a ++ b) = enqueuedOf a ++ enqueuedOf b :=
  List.filterMap_append

lemma enqueuedOf_performed (p : Nat) (acts : List AlarmAction) :
    enqueuedOf (acts.map (.performed p)) = [] := by
  simp [enqueuedOf]

lemma applyAlarmActions_sends {abort : AbortReason → Device → Res ε Device} {tag : Batch}
    (ha : ∀ a ∈ acts, ∃ frame, a = .send frame)
    (h : applyAlarmActions abort { tag with actions := acts } d = .ok d') :
    ∃ sent : List AlarmAction, Talks d d' (sent.map (.performed tag.producer)) ∧
      ∀ a ∈ sent, ∃ frame, a = .send frame := by
  unfold applyAlarmActions at h
  split_ifs at h
  · cases h
    exact ⟨[], .refl d, by simp⟩
  · obtain ⟨d1, hp, h⟩ := Res.bind_eq_ok.1 h
    cases h
    have ht := (perform_sends ha hp).trans (.publishAlarmStats d1)
    rw [List.append_nil] at ht
    exact ⟨acts, ht, ha⟩

/-- The channel takes every notification of the size `IsChannel`. -/
def Accepts (d : Device) : Prop :=
  ∃ ch, d.alarm = some ch ∧ notificationFixedLen + 6 ≤ ch.cfg.maxAlarmDataLength.toNat

lemma Talks.accepts {obs : List Obs} (h : Talks d d' obs) (ha : d.Accepts) : d'.Accepts := by
  obtain ⟨ch, hch, hmax⟩ := ha
  have hc := h.alarm
  rw [hch, Option.map_some, Option.map_eq_some_iff] at hc
  obtain ⟨ch', hch', hcfg⟩ := hc
  exact ⟨ch', hch', by rw [hcfg]; exact hmax⟩

lemma replays_append {p : Nat} {a b : List Obs} (ha : Replays p a) (hb : Replays p b) :
    Replays p (a ++ b) :=
  fun o ho => (List.mem_append.1 ho).elim (ha o) (hb o)

lemma replays_performed {p : Nat} {sent : List AlarmAction}
    (h : ∀ a ∈ sent, ∃ frame, a = .send frame) : Replays p (sent.map (.performed p)) := by
  intro o ho
  obtain ⟨a, ha, rfl⟩ := List.mem_map.1 ho
  obtain ⟨frame, rfl⟩ := h a ha
  exact .inr ⟨frame, rfl⟩

lemma replayOne_talks {abort : AbortReason → Device → Res ε Device} {tag : Batch}
    {n : AlarmNotification} (hn : IsChannel n) (h : replayOne abort now tag d n = .ok d') :
    ∃ obs, Talks d d' obs ∧ Replays tag.producer obs ∧
      (d.Accepts → ∀ v, (enqueuedOf obs).foldl View.receive v = v.receive n) := by
  obtain ⟨⟨d1, acts⟩, hq, h⟩ := Res.bind_eq_ok.1 h
  cases queueNotification_queued hq with
  | dropped ht hno =>
    obtain ⟨sent, ht', hsent⟩ := applyAlarmActions_sends (by simp) h
    refine ⟨_, ht.trans ht', replays_performed hsent, fun hacc => ?_⟩
    obtain ⟨ch, hch, hmax⟩ := hacc
    have := hno ch hch
    rw [hn] at this
    omega
  | queued ho ht ha =>
    obtain ⟨sent, ht', hsent⟩ := applyAlarmActions_sends ha h
    refine ⟨_, ht.trans ht', replays_append ?_ (replays_performed hsent), fun _ v => ?_⟩
    · intro o hmem
      exact .inl ⟨_, List.mem_singleton.1 hmem⟩
    · rw [enqueuedOf_append, enqueuedOf_performed]
      simp [enqueuedOf]

lemma replay_talks {abort : AbortReason → Device → Res ε Device} {tag : Batch}
    {ns : List AlarmNotification} (hns : ∀ n ∈ ns, IsChannel n)
    (h : ns.foldlM (replayOne abort now tag) d = .ok d') :
    ∃ obs, Talks d d' obs ∧ Replays tag.producer obs ∧
      (d.Accepts → ∀ v, (enqueuedOf obs).foldl View.receive v = ns.foldl View.receive v) := by
  induction ns generalizing d with
  | nil =>
    cases h
    exact ⟨[], .refl _, by simp [Replays], fun _ _ => rfl⟩
  | cons n ns ih =>
    rw [List.foldlM_cons] at h
    obtain ⟨d1, h1, h⟩ := Res.bind_eq_ok.1 h
    obtain ⟨o1, ht1, hr1, hv1⟩ := replayOne_talks (hns n (by simp)) h1
    obtain ⟨o2, ht2, hr2, hv2⟩ := ih (fun m hm => hns m (by simp [hm])) h
    refine ⟨o1 ++ o2, ht1.trans ht2, replays_append hr1 hr2, fun hacc v => ?_⟩
    rw [enqueuedOf_append, List.foldl_append, hv1 hacc, hv2 (ht1.accepts hacc), List.foldl_cons]

/-- What `startRunner` does: nothing if there is to be no thread or no layout can be built, else
the image is rebuilt from the layout of the AR and the thread is spawned if it can be. -/
inductive Spawned (params : ArParams) (spawns : Bool) (d : Device) : Device → Prop
  | nothing (hn : d.setup.rt → ∃ e, Layout.fromAr params d.setup.model = .err e) :
      Spawned params spawns d d
  | rebuilt {layout : Layout} (hrt : d.setup.rt)
      (hl : Layout.fromAr params d.setup.model = .ok layout) :
      Spawned params spawns d
        { d with image := d.image.rebuild layout, runner := if spawns then true else d.runner }

lemma startRunner_spawned {spawns : Bool} {ctx : ArContext} (hctx : d.cm.ar.ctx = some ctx)
    (h : (d.startRunner spawns : Res ε _) = .ok d') : Spawned ctx.params spawns d d' := by
  unfold startRunner at h
  by_cases hrt : d.setup.rt
  · rw [if_pos hrt, hctx] at h
    obtain ⟨r, hr, h⟩ := Res.bind_eq_ok.1 h
    rcases Res.attempt_eq_ok.1 hr with ⟨layout, hl, rfl⟩ | ⟨e, he, rfl⟩
    · cases h
      exact .rebuilt hrt hl
    · cases h
      exact .nothing fun _ => ⟨e, he⟩
  · rw [if_neg hrt] at h
    cases h
    exact .nothing fun hrt' => absurd hrt' hrt

end Parts

/-! ### The moves -/

/-- The small moves of a step. Diagnosis commands are drained only if `cmds`, and with `spawn`
every attempt to spawn the RT thread succeeds. -/
inductive Micro (cmds spawn : Bool) : Device × List Batch → Device × List Batch → Prop
  | talk {d d' : Device} {ps : List Batch} {obs : List Obs} (ht : Talks d d' obs)
      (ho : ∀ o ∈ obs, o.isSend) : Micro cmds spawn (d, ps) (d', ps)
  | produced {d d' : Device} {ps : List Batch} {acts : List AlarmAction} (hopen : d.alarm.isSome)
      (ht : Talks d d' []) (ha : ∀ r, .abort r ∈ acts → acts = [.abort r]) :
      Micro cmds spawn (d, ps) (d', d.defer ps acts)
  | command {d : Device} {ps : List Batch} {diag : DiagStore} (hc : cmds)
      (hd : d.diag.Changed diag none) : Micro cmds spawn (d, ps) ({ d with diag }, ps)
  | announced {d d' : Device} {ps : List Batch} {diag : DiagStore} {n : AlarmNotification}
      {acts : List AlarmAction} (hc : cmds) (hd : d.diag.Changed diag (some n))
      (hq : Queued { d with diag } n d' acts) : Micro cmds spawn (d, ps) (d', d.defer ps acts)
  | publish {d : Device} {ps : List Batch} : Micro cmds spawn (d, ps) (d.publishDiagState, ps)
  | quiet {d d' : Device} {ps : List Batch} {cm : Cm} {out : CmOutput} {obs : List Obs}
      (he : Cm.Effect d.cm cm out) (hf : Cm.Frame d.cm cm) (hn : out.notify = [])
      (ht : Talks { d with cm } d' obs) (ho : ∀ o ∈ obs, o.isSend) :
      Micro cmds spawn (d, ps) (d', ps)
  | connected {d d' : Device} {ps : List Batch} {cm : Cm} {out : CmOutput} {obs : List Obs}
      (he : Cm.Effect d.cm cm out) (hf : Cm.Frame d.cm cm)
      (hn : out.notify = [(.connected, none)]) (ht : Talks { d with cm } d' obs)
      (ho : ∀ o ∈ obs, o.isSend) :
      Micro cmds spawn (d, ps) (d'.note (.callback .connected none), ps)
  | lost {d d' : Device} {ps : List Batch} {cm : Cm} {out : CmOutput} {obs : List Obs}
      {r : AbortReason} (he : Cm.Effect d.cm cm out) (hf : Cm.Frame d.cm cm)
      (hn : out.notify = [(.idle, some r)]) (ht : Talks { d with cm } d' obs)
      (ho : ∀ o ∈ obs, o.isSend) : Micro cmds spawn (d, ps) (d'.lostBy r, ps)
  | takeover {d d' : Device} {ps : List Batch} {cm : Cm} {out : CmOutput} {obs : List Obs}
      {r : AbortReason} (he : Cm.Effect d.cm cm out) (hf : Cm.Frame d.cm cm)
      (hn : out.notify = [(.idle, some r), (.connected, none)])
      (ht : Talks { d with cm } d' obs) (ho : ∀ o ∈ obs, o.isSend) :
      Micro cmds spawn (d, ps) ((d'.lostBy r).note (.callback .connected none), ps)
  | data {d d1 d2 d3 : Device} {ps : List Batch} {cm : Cm} {out : CmOutput} {obs obs' : List Obs}
      {ctx : ArContext} {spawns : Bool} (he : Cm.Effect d.cm cm out) (hf : Cm.Frame d.cm cm)
      (hn : out.notify = [(.data, none)]) (hctx : cm.ar.ctx = some ctx)
      (ht : Talks { d with cm } d1 obs) (ho : ∀ o ∈ obs, o.isSend) (hs : spawn → spawns)
      (hr : Spawned ctx.params spawns (d1.note (.callback .data none)) d2)
      (ht' : Talks d2.openAlarmChannel d3 obs') (ho' : Replays d2.openAlarmChannel.opened obs')
      (hv : d2.openAlarmChannel.Accepts → ∀ v,
        (enqueuedOf obs').foldl View.receive v = d.diag.replay.foldl View.receive v) :
      Micro cmds spawn (d, ps) (d3.publishDiagState, ps)
  | performed {d : Device} {ps : List Batch} {b : Batch} {a : AlarmAction} (hb : b ∈ ps)
      (hopen : d.alarm.isSome) (hepoch : d.alarmEpoch = b.epoch) (ha : ∀ r, a ≠ .abort r) :
      Micro cmds spawn (d, ps) (d.note (.performed b.producer a), ps)
  | aborted {d d' : Device} {ps : List Batch} {b : Batch} {r : AbortReason} {obs : List Obs}
      (hb : b ∈ ps) (hopen : d.alarm.isSome) (hepoch : d.alarmEpoch = b.epoch)
      (ht : Talks (d.note (.performed b.producer (.abort r))) d' obs) (ho : ∀ o ∈ obs, o.isSend)
      (hs : d.cm.ar.state ≠ .idle) : Micro cmds spawn (d, ps) (d'.aborted r, ps)
  | abortedIdle {d d' : Device} {ps : List Batch} {b : Batch} {r : AbortReason} {obs : List Obs}
      (hb : b ∈ ps) (hopen : d.alarm.isSome) (hepoch : d.alarmEpoch = b.epoch)
      (ht : Talks (d.note (.performed b.producer (.abort r))) d' obs) (ho : ∀ o ∈ obs, o.isSend)
      (hs : d.cm.ar.state = .idle) : Micro cmds spawn (d, ps) (d', ps)
  | popped {d : Device} {b : Batch} {ps : List Batch} : Micro cmds spawn (d, b :: ps) (d, ps)

/-- Any number of moves. -/
abbrev Moves (cmds spawn : Bool) := Relation.ReflTransGen (Micro cmds spawn)

lemma Micro.weaken {cmds spawn : Bool} {s s' : Device × List Batch} (h : Micro false spawn s s') :
    Micro cmds spawn s s' := by
  cases h with
  | talk ht ho => exact .talk ht ho
  | produced hopen ht ha => exact .produced hopen ht ha
  | command hc hd => cases hc
  | announced hc hd hq => cases hc
  | publish => exact .publish
  | quiet he hf hn ht ho => exact .quiet he hf hn ht ho
  | connected he hf hn ht ho => exact .connected he hf hn ht ho
  | lost he hf hn ht ho => exact .lost he hf hn ht ho
  | takeover he hf hn ht ho => exact .takeover he hf hn ht ho
  | data he hf hn hctx ht ho hs hr ht' ho' hv =>
    exact .data he hf hn hctx ht ho hs hr ht' ho' hv
  | performed hb hopen hepoch ha => exact .performed hb hopen hepoch ha
  | aborted hb hopen hepoch ht ho hs => exact .aborted hb hopen hepoch ht ho hs
  | abortedIdle hb hopen hepoch ht ho hs => exact .abortedIdle hb hopen hepoch ht ho hs
  | popped => exact .popped

/-- What the moves rely on, and keep. -/
structure Sound (s : Device × List Batch) : Prop where
  cache : s.1.cm.CacheOk
  ctx : s.1.cm.ar.state ≠ .idle → s.1.cm.params.isSome
  diag : s.1.diag.Ok
  alone : ∀ b ∈ s.2, ∀ r, .abort r ∈ b.actions → b.actions = [.abort r]

section Sound

variable {ε : Type} {cmds spawn : Bool} {d d' : Device} {ps ps' : List Batch} {now : Instant}

lemma Sound.of_effect {cm : Cm} {out : CmOutput} (h : Sound (d, ps)) (hc : d'.cm = cm)
    (hd : d'.diag = d.diag) (he : Cm.Effect d.cm cm out) (hf : Cm.Frame d.cm cm) :
    Sound (d', ps) where
  cache := by rw [show (d', ps).1.cm = cm from hc]; exact hf.cache h.cache
  ctx := by rw [show (d', ps).1.cm = cm from hc]; exact he.params_isSome h.ctx
  diag := by rw [show (d', ps).1.diag = d.diag from hd]; exact h.diag
  alone := h.alone

lemma Sound.of_same (h : Sound (d, ps)) (hc : d'.cm = d.cm) (hd : d'.diag = d.diag) :
    Sound (d', ps) where
  cache := by rw [show (d', ps).1.cm = d.cm from hc]; exact h.cache
  ctx := by rw [show (d', ps).1.cm = d.cm from hc]; exact h.ctx
  diag := by rw [show (d', ps).1.diag = d.diag from hd]; exact h.diag
  alone := h.alone

lemma Sound.defer {acts : List AlarmAction} (h : Sound (d, ps))
    (ha : ∀ r, .abort r ∈ acts → acts = [.abort r]) (d1 : Device) :
    Sound (d, d1.defer ps acts) where
  cache := h.cache
  ctx := h.ctx
  diag := h.diag
  alone := by
    intro b hb
    unfold Device.defer at hb
    split_ifs at hb with hnil
    · exact h.alone b hb
    · rcases List.mem_append.1 hb with hb | hb
      · exact h.alone b hb
      · rw [List.mem_singleton.1 hb]
        exact ha

/-- What the device is once the AR is in `Data`, from the pieces of that move. -/
structure Entered (d : Device) (cm : Cm) (ctx : ArContext) (d' : Device) (obs obs' : List Obs) :
    Prop where
  setup : d'.setup = d.setup
  cm : d'.cm = cm
  diag : d'.diag = d.diag
  active : d'.diagShared.active = d.diag.activeList
  problem : d'.problem = d.diag.problemIndicator
  alarm : d'.alarm.map (·.cfg) = some (d.channelConfig ctx.params)
  alarmEpoch : d'.alarmEpoch = d.alarmEpoch + 1
  opened : d'.opened = d.opened + 1
  log : d'.log = d.log ++ obs ++ [.callback .data none,
    .opened (d.opened + 1) (d.channelConfig ctx.params)] ++ obs'

lemma Spawned.frame {params : ArParams} {spawns : Bool} (h : Spawned params spawns d d') :
    Talks { d with image := d'.image, runner := d'.runner } d' [] := by
  cases h <;> constructor <;> simp

lemma entered {cm : Cm} {d1 d2 d3 : Device} {obs obs' : List Obs} {ctx : ArContext}
    {spawns : Bool} (hctx : cm.ar.ctx = some ctx) (ht : Talks { d with cm } d1 obs)
    (hr : Spawned ctx.params spawns (d1.note (.callback .data none)) d2)
    (ht' : Talks d2.openAlarmChannel d3 obs') :
    Entered d cm ctx d3.publishDiagState obs obs' := by
  have hf := hr.frame
  have hctx2 : d2.cm.ar.ctx = some ctx := by
    rw [hf.cm]
    exact (congrArg (·.ar.ctx) ht.cm).trans hctx
  have hsetup : d2.setup = d.setup := hf.setup.trans ht.setup
  have hdiag : d2.diag = d.diag := hf.diag.trans ht.diag
  have hopened : d2.opened = d.opened := hf.opened.trans ht.opened
  have hcfg : d2.channelConfig ctx.params = d.channelConfig ctx.params := by
    rw [channelConfig, hsetup, channelConfig]
  have hopen : d2.openAlarmChannel =
      { d2 with
        alarmEpoch := d2.alarmEpoch + 1
        alarm := some (.new (d2.channelConfig ctx.params))
        opened := d2.opened + 1
        log := d2.log ++ [.opened (d2.opened + 1) (d2.channelConfig ctx.params)] } := by
    simp only [openAlarmChannel, hctx2]
  rw [hopen] at ht'
  have hdiag3 : d3.diag = d.diag := ht'.diag.trans hdiag
  exact
    { setup := ht'.setup.trans hsetup
      cm := ht'.cm.trans (hf.cm.trans ht.cm)
      diag := hdiag3
      active := congrArg DiagStore.activeList hdiag3
      problem := congrArg DiagStore.problemIndicator hdiag3
      alarm := by
        rw [show d3.publishDiagState.alarm = d3.alarm from rfl, ht'.alarm, ← hcfg]
        rfl
      alarmEpoch := by
        rw [show d3.publishDiagState.alarmEpoch = d3.alarmEpoch from rfl, ht'.alarmEpoch]
        exact congrArg (· + 1) (hf.alarmEpoch.trans ht.alarmEpoch)
      opened := by
        rw [show d3.publishDiagState.opened = d3.opened from rfl, ht'.opened]
        exact congrArg (· + 1) hopened
      log := by
        rw [show d3.publishDiagState.log = d3.log from rfl, ht'.log]
        dsimp only
        rw [hf.log, hopened, hcfg]
        simp [note, ht.log] }

/-- **The moves keep what they rely on.** -/
lemma Micro.sound {s s' : Device × List Batch} (h : Micro cmds spawn s s') (hs : Sound s) :
    Sound s' := by
  cases h with
  | talk ht ho => exact hs.of_same ht.cm ht.diag
  | produced hopen ht ha => exact (hs.of_same ht.cm ht.diag).defer ha _
  | command hc hd => exact { hs with diag := hd.ok hs.diag }
  | @announced d d' ps diag n acts hc hd hq =>
    have hs' : Sound ({ d with diag }, ps) := { hs with diag := hd.ok hs.diag }
    cases hq with
    | dropped ht hno => exact (hs'.of_same ht.cm ht.diag).defer (by simp) _
    | queued ho ht ha =>
      refine (hs'.of_same ht.cm ht.diag).defer (fun r hr => ?_) _
      obtain ⟨frame, hf⟩ := ha _ hr
      cases hf
  | publish => exact hs.of_same rfl rfl
  | quiet he hf hn ht ho => exact hs.of_effect ht.cm ht.diag he hf
  | connected he hf hn ht ho => exact hs.of_effect ht.cm ht.diag he hf
  | lost he hf hn ht ho =>
    exact hs.of_effect ((lostBy_cm ..).trans ht.cm) ((lostBy_diag ..).trans ht.diag) he hf
  | takeover he hf hn ht ho =>
    exact hs.of_effect ((lostBy_cm ..).trans ht.cm) ((lostBy_diag ..).trans ht.diag) he hf
  | data he hf hn hctx ht ho hsp hr ht' ho' hv =>
    have hd := entered hctx ht hr ht'
    exact hs.of_effect hd.cm hd.diag he hf
  | performed hb hopen hepoch ha => exact hs.of_same rfl rfl
  | @aborted d d' ps b r obs hb hopen hepoch ht ho hst =>
    obtain ⟨he, hf⟩ := Cm.dropped_effect hst r
    refine hs.of_effect ?_ ((lostBy_diag ..).trans ht.diag) he hf
    rw [aborted_cm, ht.cm]
    rfl
  | abortedIdle hb hopen hepoch ht ho hst => exact hs.of_same ht.cm ht.diag
  | popped => exact { hs with alone := fun b hb => hs.alone b (by simp [hb]) }

end Sound

end Device

end Pnio
