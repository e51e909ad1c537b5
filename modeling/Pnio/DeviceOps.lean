import Pnio.DeviceWords

/-!
A call of the device, taken apart into the operations it consists of (`next_operate`). Each of them
either sends no ERR-RTA at all, or it is an abort (`operate_spec`).
-/

namespace Pnio

/-! ### The operations of the device -/

/-- What a call of the device consists of, and what others do in between. -/
inductive DeviceOp where
  | reset
  | frame (now : Instant) (bytes : Bytes)
  | stats
  | command (now : Instant) (c : DiagCommand)
  | publish
  | datagram (now : Instant) (g : Device.Datagram)
  | event (now : Instant) (spawns : Bool) (ev : RtEvent)
  | timers (now : Instant) (spawns : Bool)
  | rtaTimers (now : Instant)
  | apply (now : Instant) (spawns : Bool)
  | abort (reason : AbortReason) (now : Instant) (spawns : Bool)
  | image (op : ImageOp)
deriving DecidableEq, Repr

namespace Device

/-- One operation. An event is taken from the RT thread while there is one, and `apply` performs
the first of the batches that wait. -/
def operate (s : Device × List Batch) : DeviceOp → Option (Device × List Batch)
  | .reset => some ({ s.1 with report := {} }, s.2)
  | .frame now bytes => (onEthFrame now s bytes : Res Empty _).toOption
  | .stats => some (s.1.publishAlarmStats, s.2)
  | .command now c => (onDiagCommand now s c : Res Empty _).toOption
  | .publish => some (s.1.publishDiagState, s.2)
  | .datagram now g => (onDatagram now s.1 g : Res Empty _).toOption.map (·, s.2)
  | .event now spawns ev =>
    if s.1.runner then (onRtEvent now spawns s.1 ev : Res Empty _).toOption.map (·, s.2) else none
  | .timers now spawns => (cmTimers now spawns s.1 : Res Empty _).toOption.map (·, s.2)
  | .rtaTimers now => (rtaTimers now s : Res Empty _).toOption
  | .apply now spawns =>
    match s.2 with
    | [] => none
    | b :: ps =>
      (applyAlarmActions (abortWithErrRta abortDepth now spawns) b s.1 :
        Res Empty _).toOption.map (·, ps)
  | .abort reason now spawns =>
    (abortWithErrRta abortDepth now spawns reason s.1 : Res Empty _).toOption.map (·, s.2)
  | .image op => some ({ s.1 with image := op.apply s.1.image }, s.2)

/-- The reason, if the operation takes the abort path with the ERR-RTA: for an event of the RT
thread, for an abort the current channel asks for, or when it is called for. -/
def abortPath (s : Device × List Batch) : DeviceOp → Option AbortReason
  | .event _ _ .watchdogExpired => some .rtWatchdog
  | .event _ _ .socketError => some .rtSocket
  | .apply .. =>
    match s.2 with
    | [] => none
    | b :: _ =>
      if s.1.alarm.isNone ∨ s.1.alarmEpoch ≠ b.epoch then none
      else b.actions.findSome? fun
        | .abort reason => some reason
        | _ => none
  | .abort reason _ _ => some reason
  | _ => none

/-- What holds before and after every operation. -/
structure OpInv (s : Device × List Batch) : Prop where
  sound : Sound s
  life : Life s
  clean : s.1.Clean
  batches : ∀ b ∈ s.2, AlarmChannel.CleanActs b.actions

/-- What an operation does about ERR-RTAs. -/
structure Tells (s : Device × List Batch) (op : DeviceOp) (d' : Device) (obs : List Obs) :
    Prop where
  log : d'.log = s.1.log ++ obs
  quiet : s.1.cm.ar.state ≠ .data ∨ abortPath s op = none → errRtasOf obs = []
  announced : ∀ reason, s.1.cm.ar.state = .data → abortPath s op = some reason →
    Announced s.1 reason d' obs

section Operations

variable {s s' : Device × List Batch} {d d' : Device} {ps ps' : List Batch} {now : Instant}
  {spawns : Bool} {op : DeviceOp}

/-- An operation off the abort path. -/
lemma Calm.tells (h : Calm d d') (hc : d.Clean) (hop : abortPath (d, ps) op = none) :
    d'.Clean ∧ ∃ obs, Tells (d, ps) op d' obs := by
  obtain ⟨hclean, obs, hlog, hno⟩ := h hc
  refine ⟨hclean, obs, hlog, fun _ => hno, fun r _ hr => ?_⟩
  rw [hop] at hr
  cases hr

/-- The abort path. -/
lemma abort_tells {r : AbortReason} (hinv : OpInv (d, ps)) (hop : abortPath (d, ps) op = some r)
    (h : (abortWithErrRta abortDepth now spawns r d : Res Empty _) = .ok d') :
    d'.Clean ∧ ∃ obs, Tells (d, ps) op d' obs := by
  by_cases hst : d.cm.ar.state = .data
  · obtain ⟨obs, hlog, hann, hnone⟩ :=
      abortWithErrRta_announced (hinv.life.alarm.2 hst) hst h
    refine ⟨fun ch hch => ?_, obs, hlog, fun hq => ?_, fun r' _ hr' => ?_⟩
    · rw [hnone] at hch
      cases hch
    · rw [hop] at hq
      rcases hq with hq | hq
      · exact absurd hst hq
      · cases hq
    · rw [hop] at hr'
      cases hr'
      exact hann
  · have hclosed : d.alarm = none := by
      rw [← Option.not_isSome_iff_eq_none]
      exact fun ha => hst (hinv.life.alarm.1 ha)
    obtain ⟨hclean, obs, hlog, hno⟩ := abortWithErrRta_calm hclosed h hinv.clean
    exact ⟨hclean, obs, hlog, fun _ => hno, fun _ hd _ => absurd hd hst⟩

/-- What is deferred stays free of ERR-RTAs. -/
lemma defer_clean {acts : List AlarmAction} (h : ∀ b ∈ ps, AlarmChannel.CleanActs b.actions)
    (ha : AlarmChannel.CleanActs acts) :
    ∀ b ∈ d.defer ps acts, AlarmChannel.CleanActs b.actions := by
  unfold defer
  split_ifs
  · exact h
  · intro b hb
    rcases List.mem_append.1 hb with hb | hb
    · exact h b hb
    · rw [List.mem_singleton.1 hb]
      exact ha

/-- The open channel made a step of its own. -/
lemma channel_calm {ch ch' : AlarmChannel} {o : AlarmChannel.Op} {acts : List AlarmAction}
    (hch : d.alarm = some ch) (h : AlarmChannel.Step ch o ch' acts) (hc : d.Clean) :
    Calm d { d with alarm := some ch' } ∧ AlarmChannel.CleanActs acts := by
  obtain ⟨hclean, hacts⟩ := h.clean (hc ch hch)
  refine ⟨fun _ => ⟨fun c hc' => ?_, [], (List.append_nil _).symm, rfl⟩, hacts⟩
  cases hc'
  exact hclean

/-- A part of the step that may defer actions. -/
def Defers (s s' : Device × List Batch) : Prop :=
  Calm s.1 s'.1 ∧ ∀ b ∈ s'.2, AlarmChannel.CleanActs b.actions

lemma receiveFrame_defers {frame : Bytes} (hc : d.Clean)
    (hps : ∀ b ∈ ps, AlarmChannel.CleanActs b.actions)
    (h : (receiveFrame now frame d ps : Res Empty _) = .ok (d', ps')) :
    Defers (d, ps) (d', ps') := by
  obtain ⟨isAlarm, -, h⟩ := Res.bind_eq_ok.1 h
  split_ifs at h with hal hmac
  · cases h
    exact ⟨.refl d, hps⟩
  · split at h
    · rename_i ch hch
      obtain ⟨⟨ch', acts⟩, hf, h⟩ := Res.bind_eq_ok.1 h
      cases h
      obtain ⟨hcalm, hacts⟩ := channel_calm hch (AlarmChannel.onFrame_step hf) hc
      exact ⟨hcalm, defer_clean hps hacts⟩
    · cases h
      exact ⟨.of_same rfl rfl, hps⟩
  · obtain ⟨r, hr, h⟩ := Res.bind_eq_ok.1 h
    split at h
    · rename_i resp
      cases h
      rcases Res.attempt_eq_ok.1 hr with ⟨out, hdcp, hout⟩ | ⟨e, -, hout⟩
      · cases hout
        refine ⟨calm_note fun f hf => ?_, hps⟩
        cases hf
        exact errRtaOf_dcp hdcp
      · cases hout
    · cases h
      exact ⟨.refl d, hps⟩
    · cases h
      exact ⟨.refl d, hps⟩

lemma onEthFrame_defers {frame : Bytes} (hc : d.Clean)
    (hps : ∀ b ∈ ps, AlarmChannel.CleanActs b.actions)
    (h : (onEthFrame now (d, ps) frame : Res Empty _) = .ok (d', ps')) :
    Defers (d, ps) (d', ps') := by
  have hcount : Calm d d.countFrame := .of_same rfl rfl
  obtain ⟨hcalm, hps'⟩ := receiveFrame_defers (hcount hc).1 hps h
  exact ⟨hcount.trans hcalm, hps'⟩

lemma onDiagCommand_defers {c : DiagCommand} (hc : d.Clean)
    (hps : ∀ b ∈ ps, AlarmChannel.CleanActs b.actions)
    (h : (onDiagCommand now (d, ps) c : Res Empty _) = .ok (d', ps')) :
    Defers (d, ps) (d', ps') := by
  unfold onDiagCommand at h
  dsimp only at h
  have hstore : Calm d { d with diag := (d.diag.command c).1 } := .of_same rfl rfl
  split at h
  · cases h
    exact ⟨hstore, hps⟩
  · obtain ⟨⟨d1, acts⟩, hq, h⟩ := Res.bind_eq_ok.1 h
    cases h
    obtain ⟨hcalm, hacts⟩ := queueNotification_calm (hstore hc).1 hq
    exact ⟨hstore.trans hcalm, defer_clean hps hacts⟩

lemma rtaTimers_defers (hc : d.Clean) (hps : ∀ b ∈ ps, AlarmChannel.CleanActs b.actions)
    (h : (rtaTimers now (d, ps) : Res Empty _) = .ok (d', ps')) :
    Defers (d, ps) (d', ps') := by
  unfold rtaTimers at h
  split at h
  · rename_i ch hch
    obtain ⟨⟨ch', acts⟩, hf, h⟩ := Res.bind_eq_ok.1 h
    cases h
    obtain ⟨hcalm, hacts⟩ := channel_calm hch (AlarmChannel.onTick_step hf) hc
    exact ⟨hcalm, defer_clean hps hacts⟩
  · cases h
    exact ⟨.refl d, hps⟩

lemma onDatagram_calm {g : Datagram} (h : (onDatagram now d g : Res Empty _) = .ok d') :
    Calm d d' := by
  have hcount : Calm d d.countDatagram := .of_same rfl rfl
  refine hcount.trans ?_
  obtain ⟨r, hr, h⟩ := Res.bind_eq_ok.1 h
  rcases Res.attempt_eq_ok.1 hr with ⟨⟨cm, out⟩, -, rfl⟩ | ⟨e, -, rfl⟩
  · have hcm : Calm d.countDatagram { d.countDatagram with cm } := .of_same rfl rfl
    exact hcm.trans (dispatch_calm h)
  · cases h
    exact .refl _

lemma cmTimers_calm (h : (cmTimers now spawns d : Res Empty _) = .ok d') : Calm d d' := by
  obtain ⟨⟨cm, out⟩, -, h⟩ := Res.bind_eq_ok.1 h
  have hcm : Calm d { d with cm } := .of_same rfl rfl
  exact hcm.trans (dispatch_calm h)

/-- A batch of the current channel with an abort is that abort alone. -/
lemma apply_abort {b : Batch} {r : AbortReason} (hinv : OpInv (d, b :: ps))
    (hr : .abort r ∈ b.actions) (hcur : ¬ (d.alarm.isNone ∨ d.alarmEpoch ≠ b.epoch))
    (h : (applyAlarmActions (abortWithErrRta abortDepth now spawns) b d : Res Empty _) = .ok d') :
    d'.Clean ∧ ∃ obs, Tells (d, b :: ps) (.apply now spawns) d' obs := by
  have halone : b.actions = [.abort r] := hinv.sound.alone b List.mem_cons_self r hr
  have hpath : abortPath (d, b :: ps) (.apply now spawns) = some r := by
    simp only [abortPath]
    rw [if_neg hcur, halone]
    rfl
  have hopen : d.alarm.isSome := by
    rw [Option.isSome_iff_ne_none]
    exact fun hn => hcur (.inl (by rw [hn]; rfl))
  have hst : d.cm.ar.state = .data := hinv.life.alarm.1 hopen
  unfold applyAlarmActions at h
  rw [if_neg hcur, halone] at h
  obtain ⟨d1, h1, h⟩ := Res.bind_eq_ok.1 h
  rw [List.foldlM_cons] at h1
  obtain ⟨d2, h2, h1⟩ := Res.bind_eq_ok.1 h1
  cases h1
  cases h
  obtain ⟨obs, hlog, ⟨hidle, ch, pre, said, hch, hwords, hpre, rfl⟩, hnone⟩ :=
    abortWithErrRta_announced (d := d.note (.performed b.producer (.abort r))) hopen hst h2
  -- the channel is gone, so its counters are not published any more
  have hstats : d1.publishAlarmStats = d1 := by
    unfold publishAlarmStats
    rw [hnone]
  rw [hstats]
  refine ⟨fun c hc => ?_, .performed b.producer (.abort r) :: (pre ++ said ++
    [.callback .idle (some r), .closed]), ?_, fun hq => ?_, fun r' _ hr' => ?_⟩
  · rw [hnone] at hc
    cases hc
  · rw [hlog]
    simp only [note, List.append_assoc, List.singleton_append]
  · rw [hpath] at hq
    rcases hq with hq | hq
    · exact absurd hst hq
    · cases hq
  · rw [hpath] at hr'
    cases hr'
    exact ⟨hidle, ch, .performed b.producer (.abort r) :: pre, said, hch, hwords, hpre, rfl⟩

/-- A batch that is stale or that has no abort. -/
lemma apply_calm {b : Batch} (hinv : OpInv (d, b :: ps))
    (hr : (∃ r, .abort r ∈ b.actions) → d.alarm.isNone ∨ d.alarmEpoch ≠ b.epoch)
    (h : (applyAlarmActions (abortWithErrRta abortDepth now spawns) b d : Res Empty _) = .ok d') :
    d'.Clean ∧ ∃ obs, Tells (d, b :: ps) (.apply now spawns) d' obs := by
  by_cases hcur : d.alarm.isNone ∨ d.alarmEpoch ≠ b.epoch
  · unfold applyAlarmActions at h
    rw [if_pos hcur] at h
    cases h
    refine (Calm.refl d).tells hinv.clean ?_
    simp only [abortPath]
    rw [if_pos hcur]
  · have hno : ∀ r, .abort r ∉ b.actions := fun r hr' => hcur (hr ⟨r, hr'⟩)
    refine (applyAlarmActions_calm (hinv.batches b List.mem_cons_self) hno h).tells hinv.clean ?_
    simp only [abortPath]
    rw [if_neg hcur, List.findSome?_eq_none_iff]
    intro a ha
    cases a with
    | abort r => exact absurd ha (hno r)
    | send frame => rfl
    | acked id status => rfl
    | unexpectedRx => rfl

/-- An operation is a sequence of moves, or someone else's work on the image. -/
lemma operate_moves (hs : Sound (d, ps)) (h : operate (d, ps) op = some (d', ps')) :
    Moves true false (d, ps) (d', ps') ∨ ps' = ps ∧ ∃ im, d' = { d with image := im } := by
  cases op with
  | reset =>
    cases h
    have ht : Talks d { d with report := {} } [] := by
      constructor <;> simp
    exact .inl (.single (.talk ht (by simp)))
  | frame now bytes => exact .inl (onEthFrame_moves (Res.toOption_eq_some.1 h)).weaken
  | stats =>
    cases h
    exact .inl (.single (.talk (.publishAlarmStats d) (by simp)))
  | command now c => exact .inl (onDiagCommand_moves hs (Res.toOption_eq_some.1 h))
  | publish =>
    cases h
    exact .inl (.single .publish)
  | datagram now g =>
    obtain ⟨d1, h1, h⟩ := Res.toOption_map_eq_some.1 h
    cases h
    have hm : Moves false false (d, ps) (d', ps) :=
      onDatagram_moves hs nofun h1
    exact .inl hm.weaken
  | event now spawns ev =>
    simp only [operate] at h
    split_ifs at h with hrun
    obtain ⟨d1, h1, h⟩ := Res.toOption_map_eq_some.1 h
    cases h
    exact .inl (onRtEvent_moves h1).weaken
  | timers now spawns =>
    obtain ⟨d1, h1, h⟩ := Res.toOption_map_eq_some.1 h
    cases h
    have hm : Moves false false (d, ps) (d', ps) :=
      cmTimers_moves hs nofun h1
    exact .inl hm.weaken
  | rtaTimers now => exact .inl (rtaTimers_moves (Res.toOption_eq_some.1 h)).weaken
  | apply now spawns =>
    cases ps with
    | nil => cases h
    | cons b ps =>
      obtain ⟨d1, h1, h⟩ := Res.toOption_map_eq_some.1 h
      cases h
      have hm : Moves false false (d, b :: ps') (d', ps') :=
        (applyAlarmActions_moves hs List.mem_cons_self h1).tail .popped
      exact .inl hm.weaken
  | abort reason now spawns =>
    obtain ⟨d1, h1, h⟩ := Res.toOption_map_eq_some.1 h
    cases h
    exact .inl (abortWithErrRta_moves h1).weaken
  | image op =>
    cases h
    exact .inr ⟨rfl, _, rfl⟩

/-- What the operations do to the channel and its actions, and what they say. -/
lemma operate_words (hinv : OpInv (d, ps)) (h : operate (d, ps) op = some (d', ps')) :
    (d'.Clean ∧ ∃ obs, Tells (d, ps) op d' obs) ∧
      ∀ b ∈ ps', AlarmChannel.CleanActs b.actions := by
  have hc := hinv.clean
  have hps := hinv.batches
  cases op with
  | reset =>
    cases h
    have hcalm : Calm d { d with report := {} } := .of_same rfl rfl
    exact ⟨hcalm.tells hc rfl, hps⟩
  | frame now bytes =>
    obtain ⟨hcalm, hps'⟩ := onEthFrame_defers hc hps (Res.toOption_eq_some.1 h)
    exact ⟨hcalm.tells hc rfl, hps'⟩
  | stats =>
    cases h
    exact ⟨(calm_stats d).tells hc rfl, hps⟩
  | command now c =>
    obtain ⟨hcalm, hps'⟩ := onDiagCommand_defers hc hps (Res.toOption_eq_some.1 h)
    exact ⟨hcalm.tells hc rfl, hps'⟩
  | publish =>
    cases h
    have hcalm : Calm d d.publishDiagState := .of_same rfl rfl
    exact ⟨hcalm.tells hc rfl, hps⟩
  | datagram now g =>
    obtain ⟨d1, h1, h⟩ := Res.toOption_map_eq_some.1 h
    cases h
    exact ⟨(onDatagram_calm h1).tells hc rfl, hps⟩
  | event now spawns ev =>
    simp only [operate] at h
    split_ifs at h with hrun
    obtain ⟨d1, h1, h⟩ := Res.toOption_map_eq_some.1 h
    cases h
    refine ⟨?_, hps⟩
    cases ev with
    | watchdogExpired => exact abort_tells hinv rfl h1
    | socketError => exact abort_tells hinv rfl h1
    | schedWarning =>
      cases h1
      exact (Calm.refl _).tells hc rfl
    | exited =>
      cases h1
      exact (Calm.refl _).tells hc rfl
  | timers now spawns =>
    obtain ⟨d1, h1, h⟩ := Res.toOption_map_eq_some.1 h
    cases h
    exact ⟨(cmTimers_calm h1).tells hc rfl, hps⟩
  | rtaTimers now =>
    obtain ⟨hcalm, hps'⟩ := rtaTimers_defers hc hps (Res.toOption_eq_some.1 h)
    exact ⟨hcalm.tells hc rfl, hps'⟩
  | apply now spawns =>
    cases ps with
    | nil => cases h
    | cons b ps =>
      obtain ⟨d1, h1, h⟩ := Res.toOption_map_eq_some.1 h
      cases h
      refine ⟨?_, fun b' hb' => hps b' (List.mem_cons_of_mem b hb')⟩
      by_cases hr : ∃ r, .abort r ∈ b.actions ∧ ¬ (d.alarm.isNone ∨ d.alarmEpoch ≠ b.epoch)
      · obtain ⟨r, hr, hcur⟩ := hr
        exact apply_abort hinv hr hcur h1
      · refine apply_calm hinv (fun ⟨r, hmem⟩ => ?_) h1
        by_contra hcur
        exact hr ⟨r, hmem, hcur⟩
  | abort reason now spawns =>
    obtain ⟨d1, h1, h⟩ := Res.toOption_map_eq_some.1 h
    cases h
    exact ⟨abort_tells hinv rfl h1, hps⟩
  | image op =>
    cases h
    have hcalm : Calm d { d with image := op.apply d.image } := .of_same rfl rfl
    exact ⟨hcalm.tells hc rfl, hps⟩

/-- **One operation**: the invariant is kept, and an ERR-RTA is only sent by the abort that ends
a period in `Data`. -/
theorem operate_spec (hinv : OpInv (d, ps)) (h : operate (d, ps) op = some (d', ps')) :
    OpInv (d', ps') ∧ ∃ obs, Tells (d, ps) op d' obs := by
  obtain ⟨⟨hclean, htells⟩, hps'⟩ := operate_words hinv h
  refine ⟨?_, htells⟩
  rcases operate_moves hinv.sound h with hm | ⟨rfl, im, rfl⟩
  · exact ⟨hm.sound hinv.sound, (life_kept false).moves hinv.sound hinv.life hm, hclean, hps'⟩
  · exact ⟨hinv.sound.of_same rfl rfl, ⟨hinv.life.alarm, hinv.life.runner, hinv.life.path⟩, hclean,
      hps'⟩

lemma new_opInv (setup : DeviceSetup) : OpInv (new setup, []) where
  sound := new_sound setup
  life := (life_kept false).new setup
  clean := by
    intro ch hch
    cases hch
  batches := by
    intro b hb
    cases hb

end Operations

end Device

/-! ### The operations of a call -/

namespace Device

/-- The operations of a step up to the events of the RT thread. -/
def StepInput.frontOps (i : StepInput) : List DeviceOp :=
  DeviceOp.reset :: i.frames.map (DeviceOp.frame i.now) ++ [DeviceOp.stats] ++
    (if i.commands = [] then []
      else i.commands.map (DeviceOp.command i.now) ++ [DeviceOp.publish]) ++
    i.datagrams.map (DeviceOp.datagram i.now)

/-- The operations between the events and what was deferred. -/
def StepInput.timerOps (i : StepInput) : List DeviceOp :=
  [DeviceOp.timers i.now i.spawns, DeviceOp.rtaTimers i.now, DeviceOp.stats]

/-- The operations of a step in which `k` events were taken and `m` batches performed. -/
def stepOps (i : StepInput) (k m : Nat) : List DeviceOp :=
  i.frontOps ++ (i.events.take k).map (DeviceOp.event i.now i.spawns) ++ i.timerOps ++
    List.replicate m (DeviceOp.apply i.now i.spawns)

/-- The operations of a call; there is nothing to shut down in `Idle`. -/
inductive OpsOf : DeviceInput → List DeviceOp → Prop
  | step (i : StepInput) (k m : Nat) : OpsOf (.step i) (stepOps i k m)
  | rest (now : Instant) (spawns : Bool) : OpsOf (.shutdown now spawns) []
  | shutdown (now : Instant) (spawns : Bool) :
      OpsOf (.shutdown now spawns) [.abort .shutdown now spawns]
  | abort (reason : AbortReason) (now : Instant) (spawns : Bool) :
      OpsOf (.abortWithErrRta reason now spawns) [.abort reason now spawns]
  | image (op : ImageOp) : OpsOf (.image op) [.image op]

section Decompose

variable {d d' : Device} {ps : List Batch} {s s1 s' : Device × List Batch} {now : Instant}
  {spawns : Bool}

lemma operate_append {a b : List DeviceOp} (ha : a.foldlM operate s = some s1)
    (hb : b.foldlM operate s1 = some s') : (a ++ b).foldlM operate s = some s' := by
  rw [List.foldlM_append, ha]
  exact hb

lemma operate_one {op : DeviceOp} (h : operate s op = some s') :
    [op].foldlM operate s = some s' := by
  rw [List.foldlM_cons, h]
  rfl

/-- A loop whose rounds are operations. -/
lemma foldlM_operate {α : Type} {f : Device × List Batch → α → Res Empty (Device × List Batch)}
    {g : α → DeviceOp} {l : List α} (hg : ∀ s a s', f s a = .ok s' → operate s (g a) = some s')
    (h : l.foldlM f s = .ok s') : (l.map g).foldlM operate s = some s' := by
  induction l generalizing s with
  | nil =>
    cases h
    rfl
  | cons a l ih =>
    rw [List.foldlM_cons] at h
    obtain ⟨s1, h1, h⟩ := Res.bind_eq_ok.1 h
    rw [List.map_cons, List.foldlM_cons, hg s a s1 h1]
    exact ih h

lemma datagrams_operate {gs : List Datagram}
    (h : gs.foldlM (onDatagram now) d = (.ok d' : Res Empty _)) :
    (gs.map (.datagram now)).foldlM operate (d, ps) = some (d', ps) := by
  induction gs generalizing d with
  | nil =>
    cases h
    rfl
  | cons g gs ih =>
    rw [List.foldlM_cons] at h
    obtain ⟨d1, h1, h⟩ := Res.bind_eq_ok.1 h
    have hop : operate (d, ps) (.datagram now g) = some (d1, ps) :=
      Res.toOption_map_eq_some.2 ⟨d1, h1, rfl⟩
    rw [List.map_cons, List.foldlM_cons, hop]
    exact ih h

lemma drainRtEvents_operate {evs : List RtEvent}
    (h : (drainRtEvents now spawns evs d : Res Empty _) = .ok d') :
    ∃ k, ((evs.take k).map (.event now spawns)).foldlM operate (d, ps) = some (d', ps) := by
  induction evs generalizing d with
  | nil =>
    cases h
    exact ⟨0, rfl⟩
  | cons ev evs ih =>
    rw [drainRtEvents] at h
    split_ifs at h with hrun
    · obtain ⟨d1, h1, h⟩ := Res.bind_eq_ok.1 h
      obtain ⟨k, hk⟩ := ih h
      have hop : operate (d, ps) (.event now spawns ev) = some (d1, ps) := by
        rw [operate, if_pos hrun]
        exact Res.toOption_map_eq_some.2 ⟨d1, h1, rfl⟩
      refine ⟨k + 1, ?_⟩
      rw [List.take_succ_cons, List.map_cons, List.foldlM_cons, hop]
      exact hk
    · cases h
      exact ⟨0, rfl⟩

lemma pending_operate
    (h : ps.foldlM (fun d b => applyAlarmActions (abortWithErrRta abortDepth now spawns) b d) d =
      (.ok d' : Res Empty _)) :
    (List.replicate ps.length (DeviceOp.apply now spawns)).foldlM operate (d, ps) =
      some (d', []) := by
  induction ps generalizing d with
  | nil =>
    cases h
    rfl
  | cons b ps ih =>
    rw [List.foldlM_cons] at h
    obtain ⟨d1, h1, h⟩ := Res.bind_eq_ok.1 h
    have hop : operate (d, b :: ps) (.apply now spawns) = some (d1, ps) :=
      Res.toOption_map_eq_some.2 ⟨d1, h1, rfl⟩
    rw [List.length_cons, List.replicate_succ, List.foldlM_cons, hop]
    exact ih h

lemma drainDiagQueue_operate {cs : List DiagCommand}
    (h : (drainDiagQueue now cs s : Res Empty _) = .ok s') :
    (if cs = [] then [] else cs.map (.command now) ++ [.publish]).foldlM operate s = some s' := by
  unfold drainDiagQueue at h
  split_ifs at h ⊢
  · cases h
    rfl
  · obtain ⟨⟨d1, ps1⟩, h1, h⟩ := Res.bind_eq_ok.1 h
    cases h
    exact operate_append (foldlM_operate (fun _ _ _ => Res.toOption_eq_some.2) h1)
      (operate_one rfl)

/-- A step: the operations before the events, the events, those after them, and what was
deferred. -/
lemma step_stages {i : StepInput} (h : (d.step i : Res Empty _) = .ok d') :
    ∃ d1 d2 d3 ps1 ps3, i.frontOps.foldlM operate (d, []) = some (d1, ps1) ∧
      (drainRtEvents i.now i.spawns i.events d1 : Res Empty _) = .ok d2 ∧
      i.timerOps.foldlM operate (d2, ps1) = some (d3, ps3) ∧
      ps3.foldlM (fun d b => applyAlarmActions (abortWithErrRta abortDepth i.now i.spawns) b d) d3 =
        (.ok d' : Res Empty _) := by
  obtain ⟨⟨d1, ps1⟩, h1, h⟩ := Res.bind_eq_ok.1 h
  obtain ⟨⟨d2, ps2⟩, h2, h⟩ := Res.bind_eq_ok.1 h
  obtain ⟨d3, h3, h⟩ := Res.bind_eq_ok.1 h
  obtain ⟨d4, h4, h⟩ := Res.bind_eq_ok.1 h
  obtain ⟨d5, h5, h⟩ := Res.bind_eq_ok.1 h
  obtain ⟨⟨d6, ps6⟩, h6, h⟩ := Res.bind_eq_ok.1 h
  have hframes : (i.frames.map (.frame i.now)).foldlM operate ({ d with report := {} }, []) =
      some (d1, ps1) := foldlM_operate (fun _ _ _ => Res.toOption_eq_some.2) h1
  have htimers : operate (d4, ps2) (.timers i.now i.spawns) = some (d5, ps2) :=
    Res.toOption_map_eq_some.2 ⟨d5, h5, rfl⟩
  have hrta : operate (d5, ps2) (.rtaTimers i.now) = some (d6, ps6) := Res.toOption_eq_some.2 h6
  refine ⟨d3, d4, d6.publishAlarmStats, ps2, ps6, ?_, h4, ?_, h⟩
  · exact operate_append (operate_append (operate_append (operate_append (operate_one rfl) hframes)
      (operate_one rfl)) (drainDiagQueue_operate h2)) (datagrams_operate h3)
  · exact operate_append (operate_one htimers) (operate_append (operate_one hrta) (operate_one rfl))

lemma step_operate {i : StepInput} (h : (d.step i : Res Empty _) = .ok d') :
    ∃ k m, (stepOps i k m).foldlM operate (d, []) = some (d', []) := by
  obtain ⟨d1, d2, d3, ps1, ps3, hfront, hevents, htimers, hpending⟩ := step_stages h
  obtain ⟨k, hevents⟩ : ∃ k, ((i.events.take k).map (.event i.now i.spawns)).foldlM operate
      (d1, ps1) = some (d2, ps1) := drainRtEvents_operate hevents
  exact ⟨k, ps3.length, operate_append (operate_append (operate_append hfront hevents) htimers)
    (pending_operate hpending)⟩

/-- **A call of the device is a sequence of operations.** -/
theorem next_operate {i : DeviceInput} (h : d.next i = some d') :
    ∃ ops, OpsOf i ops ∧ ops.foldlM operate (d, []) = some (d', []) := by
  cases i with
  | step i =>
    obtain ⟨k, m, hops⟩ := step_operate (settle_eq_some h)
    exact ⟨_, .step i k m, hops⟩
  | shutdown now spawns =>
    have h := settle_eq_some h
    unfold shutdown at h
    split_ifs at h
    · cases h
      exact ⟨[], .rest now spawns, rfl⟩
    · exact ⟨_, .shutdown now spawns, operate_one (Res.toOption_map_eq_some.2 ⟨d', h, rfl⟩)⟩
  | abortWithErrRta reason now spawns =>
    have hop : operate (d, []) (.abort reason now spawns) = some (d', []) :=
      Res.toOption_map_eq_some.2 ⟨d', settle_eq_some h, rfl⟩
    exact ⟨_, .abort reason now spawns, operate_one hop⟩
  | image op =>
    cases h
    exact ⟨_, .image op, rfl⟩

end Decompose

end Device

end Pnio
