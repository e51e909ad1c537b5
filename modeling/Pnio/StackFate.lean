import Pnio.Stack

/-!
What one operation of the device means for its RT thread: it tells the application nothing that
matters to the thread, or the AR is lost, or an AR comes up. No operation does two of these.
-/

namespace Pnio

namespace Device

/-- What an operation does to the callbacks and, in the end, to the thread and the image. -/
inductive Fate (d d' : Device) : List (ArState × Option AbortReason) → Prop
  | kept (runner : d'.runner = d.runner) (image : d'.image = d.image)
      (layout : d.runner = true → d'.layout = d.layout) : Fate d d' []
  | connected (alone : d.runner = false) (runner : d'.runner = false) (image : d'.image = d.image) :
      Fate d d' [(.connected, none)]
  | lost (r : AbortReason) (runner : d'.runner = false)
      (image : d'.image = if d.runner then staleImage d.image else d.image) :
      Fate d d' [(.idle, some r)]
  | takeover (r : AbortReason) (runner : d'.runner = false)
      (image : d'.image = if d.runner then staleImage d.image else d.image) :
      Fate d d' [(.idle, some r), (.connected, none)]
  | entered (alone : d.runner = false) (layout : d'.runner = true → d'.layout.isSome)
      (image : d'.image = (d'.layout.map d.image.rebuild).getD d.image) :
      Fate d d' [(.data, none)]

/-- The log has grown by these callbacks, among other things. -/
def Reports (d d' : Device) (cbs : List (ArState × Option AbortReason)) : Prop :=
  ∃ obs, d'.log = d.log ++ obs ∧ callbacksOf obs = cbs

/-- An operation as a whole. -/
def Fated (d d' : Device) : Prop := ∃ cbs, Reports d d' cbs ∧ Fate d d' cbs

/-- The operation leaves the AR and its thread alone, and tells the application nothing. -/
structure Still (d d' : Device) : Prop where
  reports : Reports d d' []
  cm : d'.cm = d.cm
  setup : d'.setup = d.setup
  runner : d'.runner = d.runner
  image : d'.image = d.image

section Still

variable {d d' d'' : Device} {obs : List Obs} {cbs cbs' : List (ArState × Option AbortReason)}

lemma Reports.trans (h : Reports d d' cbs) (h' : Reports d' d'' cbs') :
    Reports d d'' (cbs ++ cbs') := by
  obtain ⟨obs, hlog, rfl⟩ := h
  obtain ⟨obs', hlog', rfl⟩ := h'
  exact ⟨obs ++ obs', by rw [hlog', hlog, List.append_assoc], callbacksOf_append _ _⟩

lemma layout_congr (hp : d'.cm.params = d.cm.params) (hs : d'.setup = d.setup) :
    d'.layout = d.layout := by
  rw [layout, layout, hp, hs]

lemma Still.layout (h : Still d d') : d'.layout = d.layout :=
  layout_congr (congrArg Cm.params h.cm) h.setup

lemma Still.refl (d : Device) : Still d d :=
  ⟨⟨[], (List.append_nil _).symm, rfl⟩, rfl, rfl, rfl, rfl⟩

lemma Still.trans (h : Still d d') (h' : Still d' d'') : Still d d'' :=
  ⟨h.reports.trans h'.reports, h'.cm.trans h.cm, h'.setup.trans h.setup, h'.runner.trans h.runner,
    h'.image.trans h.image⟩

lemma Still.of_talks (ht : Talks d d' obs) (ho : callbacksOf obs = []) : Still d d' :=
  ⟨⟨obs, ht.log, ho⟩, ht.cm, ht.setup, ht.runner, ht.image⟩

lemma Still.of_sends (ht : Talks d d' obs) (ho : ∀ o ∈ obs, o.isSend) : Still d d' :=
  .of_talks ht (callbacksOf_sends ho)

lemma Still.fated (h : Still d d') : Fated d d' :=
  ⟨[], h.reports, .kept h.runner h.image fun _ => h.layout⟩

/-- What comes after a quiet part decides. -/
lemma Still.then (h : Still d d') (hf : Fated d' d'') : Fated d d'' := by
  obtain ⟨cbs, hrep, hf⟩ := hf
  refine ⟨cbs, h.reports.trans hrep, ?_⟩
  cases hf with
  | kept hr hi hl =>
    exact .kept (hr.trans h.runner) (hi.trans h.image) fun hrun =>
      (hl (h.runner.trans hrun)).trans h.layout
  | connected hn hr hi => exact .connected (h.runner.symm.trans hn) hr (hi.trans h.image)
  | lost r hr hi => exact .lost r hr (by rw [hi, h.runner, h.image])
  | takeover r hr hi => exact .takeover r hr (by rw [hi, h.runner, h.image])
  | entered hn hl hi =>
    exact .entered (h.runner.symm.trans hn) hl (by rw [hi, h.image])

/-- And so does what comes before it. -/
lemma Fated.still (hf : Fated d d') (h : Still d' d'') : Fated d d'' := by
  obtain ⟨cbs, hrep, hf⟩ := hf
  have hlay := h.layout
  refine ⟨cbs, by simpa using hrep.trans h.reports, ?_⟩
  cases hf with
  | kept hr hi hl =>
    exact .kept (h.runner.trans hr) (h.image.trans hi) fun hrun => hlay.trans (hl hrun)
  | connected hn hr hi => exact .connected hn (h.runner.trans hr) (h.image.trans hi)
  | lost r hr hi => exact .lost r (h.runner.trans hr) (h.image.trans hi)
  | takeover r hr hi => exact .takeover r (h.runner.trans hr) (h.image.trans hi)
  | entered hn hl hi =>
    refine .entered hn (fun hrun => ?_) ?_
    · rw [hlay]
      exact hl (h.runner.symm.trans hrun)
    · rw [hlay, h.image]
      exact hi

end Still

/-! ### The moves -/

section Moves

variable {d d' : Device} {obs : List Obs} {ps : List Batch}

lemma Talks.lost_image {cm : Cm} (ht : Talks { d with cm } d' obs) (r : AbortReason) :
    (d'.lostBy r).image = if d.runner then staleImage d.image else d.image := by
  rw [lostBy_image, ht.image, ht.runner]

lemma Talks.lost_reports {cm : Cm} (ht : Talks { d with cm } d' obs) (ho : ∀ o ∈ obs, o.isSend)
    (r : AbortReason) : Reports d (d'.lostBy r) [(.idle, some r)] := by
  refine ⟨obs ++ [.callback .idle (some r), .closed], ?_, ?_⟩
  · rw [lostBy_log, ht.log, List.append_assoc]
  · rw [callbacksOf_append, callbacksOf_sends ho]
    rfl

/-- What `start_runner` does, in terms of the layout. -/
lemma Spawned.layout {params : ArParams} {spawns : Bool} (hp : d.cm.params = some params)
    (h : Spawned params spawns d d') (hn : d.runner = false) :
    d'.image = (d.layout.map d.image.rebuild).getD d.image ∧
      (d'.runner = true → d.layout.isSome) := by
  have hlayout : d.layout =
      if d.setup.rt then (Layout.fromAr params d.setup.model).toOption else none := by
    rw [Device.layout, hp]
    rfl
  rw [hlayout]
  cases h with
  | nothing hno =>
    refine ⟨?_, fun hr => ?_⟩
    · split_ifs with hrt
      · obtain ⟨e, he⟩ := hno hrt
        rw [he]
        rfl
      · rfl
    · rw [hn] at hr
      cases hr
  | @rebuilt layout hrt hl =>
    rw [if_pos hrt, hl]
    exact ⟨rfl, fun _ => rfl⟩

lemma openAlarmChannel_same (d : Device) : d.openAlarmChannel.runner = d.runner ∧
    d.openAlarmChannel.image = d.image := by
  unfold openAlarmChannel
  split <;> exact ⟨rfl, rfl⟩

/-- **Every move is one of these.** -/
lemma Micro.fated {spawn : Bool} {s s' : Device × List Batch} (hl : Life s)
    (hm : Micro true spawn s s') : Fated s.1 s'.1 := by
  cases hm with
  | talk ht ho => exact (Still.of_sends ht ho).fated
  | produced hopen ht ha => exact (Still.of_talks ht rfl).fated
  | @command d ps diag hc hd =>
    have h : Still d { d with diag } := ⟨⟨[], (List.append_nil _).symm, rfl⟩, rfl, rfl, rfl, rfl⟩
    exact h.fated
  | @announced d d' ps diag n acts hc hd hq =>
    have h : Still d { d with diag } := ⟨⟨[], (List.append_nil _).symm, rfl⟩, rfl, rfl, rfl, rfl⟩
    cases hq with
    | dropped ht hno => exact (h.trans (.of_talks ht rfl)).fated
    | queued hopen ht ha => exact (h.trans (.of_talks ht rfl)).fated
  | @publish d ps =>
    have h : Still d d.publishDiagState := ⟨⟨[], (List.append_nil _).symm, rfl⟩, rfl, rfl, rfl, rfl⟩
    exact h.fated
  | @quiet d d' ps cm out obs he hf hn ht ho =>
    have hparams : d'.cm.params = d.cm.params :=
      (congrArg Cm.params ht.cm).trans (he.of_quiet hn).1
    exact ⟨[], ⟨obs, ht.log, callbacksOf_sends ho⟩,
      .kept ht.runner ht.image fun _ => layout_congr hparams ht.setup⟩
  | @connected d d' ps cm out obs he hf hn ht ho =>
    have hnone : d.runner = false := hl.no_runner (by simp [(he.of_connected hn).1])
    refine ⟨[(.connected, none)], ⟨obs ++ [.callback .connected none], ?_, ?_⟩,
      .connected hnone (ht.runner.trans hnone) ht.image⟩
    · rw [note, ht.log, List.append_assoc]
    · rw [callbacksOf_append, callbacksOf_sends ho]
      rfl
  | @lost d d' ps cm out obs r he hf hn ht ho =>
    exact ⟨_, ht.lost_reports ho r, .lost r (lostBy_runner ..) (ht.lost_image r)⟩
  | @takeover d d' ps cm out obs r he hf hn ht ho =>
    have hsaid : Reports (d'.lostBy r) ((d'.lostBy r).note (.callback .connected none))
        [(.connected, none)] := ⟨[.callback .connected none], rfl, rfl⟩
    exact ⟨_, (ht.lost_reports ho r).trans hsaid,
      .takeover r (lostBy_runner ..) (ht.lost_image r)⟩
  | @data d d1 d2 d3 ps cm out obs obs' ctx spawns he hf hn hctx ht ho hs hr ht' ho' hv =>
    have hnone : d.runner = false := hl.no_runner (by simp [(he.of_data hn).1])
    have hd := entered hctx ht hr ht'
    have hparams : (d1.note (.callback .data none)).cm.params = some ctx.params := by
      rw [show (d1.note (.callback .data none)).cm = cm from ht.cm, Cm.params, hctx]
      rfl
    obtain ⟨himage, hlay⟩ := hr.layout hparams (ht.runner.trans hnone)
    have hsame : d3.publishDiagState.layout = (d1.note (.callback .data none)).layout :=
      layout_congr (congrArg Cm.params (hd.cm.trans ht.cm.symm)) (hd.setup.trans ht.setup.symm)
    refine ⟨[(.data, none)], ⟨obs ++ [.callback .data none,
      .opened (d.opened + 1) (d.channelConfig ctx.params)] ++ obs', ?_, ?_⟩,
      .entered hnone (fun hrun => ?_) ?_⟩
    · rw [hd.log]
      simp only [List.append_assoc]
    · rw [callbacksOf_append, callbacksOf_append, callbacksOf_sends ho, callbacksOf_replays ho']
      rfl
    · rw [hsame]
      exact hlay ((openAlarmChannel_same d2).1 ▸ ht'.runner ▸ hrun)
    · rw [hsame]
      exact ht'.image.trans ((openAlarmChannel_same d2).2.trans (ht.image ▸ himage))
  | performed hb hopen hepoch ha => exact (Still.of_talks (.note _ _) rfl).fated
  | @aborted d d' ps b r obs hb hopen hepoch ht ho hst =>
    have hperf : Still d (d.note (.performed b.producer (.abort r))) := .of_talks (.note _ _) rfl
    have ht1 : Talks { d.note (.performed b.producer (.abort r)) with
        cm := { d.cm with ar := d.cm.ar.dropped } }
        { d' with cm := { d'.cm with ar := d'.cm.ar.dropped } } obs :=
      { ht with cm := congrArg (fun c : Cm => { c with ar := c.ar.dropped }) ht.cm }
    exact hperf.then ⟨_, ht1.lost_reports ho r, .lost r (lostBy_runner ..) (ht1.lost_image r)⟩
  | @abortedIdle d d' ps b r obs hb hopen hepoch ht ho hst =>
    have hperf : Still d (d.note (.performed b.producer (.abort r))) := .of_talks (.note _ _) rfl
    exact (hperf.trans (.of_sends ht ho)).fated
  | popped => exact (Still.refl _).fated

end Moves

/-! ### The operations -/

section Operations

variable {ε : Type} {d d' : Device} {ps ps' : List Batch} {now : Instant} {spawns : Bool}

lemma receiveFrame_still {frame : Bytes}
    (h : (receiveFrame now frame d ps : Res ε _) = .ok (d', ps')) : Still d d' := by
  obtain ⟨isAlarm, -, h⟩ := Res.bind_eq_ok.1 h
  split_ifs at h with hal hmac
  · cases h
    exact .refl d
  · split at h
    · rename_i ch hch
      obtain ⟨⟨ch', acts⟩, hf, h⟩ := Res.bind_eq_ok.1 h
      cases h
      exact .of_talks (.channel hch (AlarmChannel.onFrame_step hf).frame.1) rfl
    · cases h
      exact ⟨⟨[], (List.append_nil _).symm, rfl⟩, rfl, rfl, rfl, rfl⟩
  · obtain ⟨r, -, h⟩ := Res.bind_eq_ok.1 h
    split at h
    · cases h
      exact .of_talks (.note d _) rfl
    · cases h
      exact .refl d
    · cases h
      exact .refl d

lemma onDiagCommand_still {c : DiagCommand}
    (h : (onDiagCommand now (d, ps) c : Res ε _) = .ok (d', ps')) : Still d d' := by
  have hstore : Still d { d with diag := (d.diag.command c).1 } :=
    ⟨⟨[], (List.append_nil _).symm, rfl⟩, rfl, rfl, rfl, rfl⟩
  unfold onDiagCommand at h
  dsimp only at h
  split at h
  · cases h
    exact hstore
  · obtain ⟨⟨d1, acts⟩, hq, h⟩ := Res.bind_eq_ok.1 h
    cases h
    cases queueNotification_queued hq with
    | dropped ht hno => exact hstore.trans (.of_talks ht rfl)
    | queued hopen ht ha => exact hstore.trans (.of_talks ht rfl)

lemma rtaTimers_still (h : (rtaTimers now (d, ps) : Res ε _) = .ok (d', ps')) : Still d d' := by
  unfold rtaTimers at h
  split at h
  · rename_i ch hch
    obtain ⟨⟨ch', acts⟩, hf, h⟩ := Res.bind_eq_ok.1 h
    cases h
    exact .of_talks (.channel hch (AlarmChannel.onTick_step hf).frame.1) rfl
  · cases h
    exact .refl d

lemma abortWithErrRta_fated {r : AbortReason} (hl : Life (d, ps))
    (h : (abortWithErrRta abortDepth now spawns r d : Res ε _) = .ok d') : Fated d d' := by
  rw [abortDepth, abortWithErrRta_eq] at h
  obtain ⟨d1, ha, h⟩ := Res.bind_eq_ok.1 h
  obtain ⟨obs, ht, ho⟩ := announceAbort_talks ha
  have hstill : Still d d1 := .of_sends ht ho
  split_ifs at h with hst
  · cases h
    exact hstill.fated
  · cases h
    obtain ⟨he, hf⟩ := Cm.dropped_effect hst r
    have hm : Micro true false (d1, ps) (d1.aborted r, ps) :=
      .lost he hf rfl (.refl _) (by simp)
    exact hstill.then (hm.fated (hl.of_talks ht (callbacksOf_sends ho)))

/-- Actions that are no aborts. -/
lemma perform_still {abort : AbortReason → Device → Res ε Device} {p : Nat}
    {acts : List AlarmAction} (ha : ∀ r, .abort r ∉ acts)
    (h : acts.foldlM (perform abort p) d = .ok d') : Still d d' := by
  refine Res.foldlM_inv_mem (I := fun d1 => Still d d1) ?_ (.refl d) h
  intro d1 a hmem d2 hd1 h1
  have hnote : d2 = d1.note (.performed p a) := by
    cases a with
    | abort r => exact absurd hmem (ha r)
    | send frame => exact (Res.ok.inj h1).symm
    | acked id status => exact (Res.ok.inj h1).symm
    | unexpectedRx => exact (Res.ok.inj h1).symm
  rw [hnote]
  exact hd1.trans (.of_talks (.note d1 _) rfl)

/-- A batch with an abort is that abort alone. -/
lemma applyAlarmActions_fated {b : Batch} (hs : Sound (d, b :: ps)) (hl : Life (d, b :: ps))
    (h : applyAlarmActions (abortWithErrRta abortDepth now spawns) b d = (.ok d' : Res ε _)) :
    Fated d d' := by
  unfold applyAlarmActions at h
  split_ifs at h with hguard
  · cases h
    exact (Still.refl d).fated
  · obtain ⟨d1, hp, h⟩ := Res.bind_eq_ok.1 h
    cases h
    push Not at hguard
    obtain ⟨hsome, hepoch⟩ := hguard
    have hopen : d.alarm.isSome := Option.isSome_iff_ne_none.2 (by simpa using hsome)
    refine Fated.still ?_ (.of_talks (.publishAlarmStats d1) rfl)
    by_cases ha : ∃ r, .abort r ∈ b.actions
    · obtain ⟨r, hr⟩ := ha
      rw [hs.alone b List.mem_cons_self r hr, List.foldlM_cons] at hp
      obtain ⟨d2, h2, hp⟩ := Res.bind_eq_ok.1 hp
      cases hp
      have hm : Micro false false (d, b :: ps) (d1, b :: ps) :=
        performAbort_micro List.mem_cons_self hopen hepoch h2
      exact hm.weaken.fated hl
    · exact (perform_still (not_exists.1 ha) hp).fated

/-- **No operation does two of these.** -/
lemma operate_fated {o : DeviceOp} (hs : Sound (d, ps)) (hl : Life (d, ps))
    (ho : ∀ op, o ≠ .image op) (h : Device.operate (d, ps) o = some (d', ps')) : Fated d d' := by
  cases o with
  | reset =>
    cases h
    have hreset : Still d { d with report := {} } :=
      ⟨⟨[], (List.append_nil _).symm, rfl⟩, rfl, rfl, rfl, rfl⟩
    exact hreset.fated
  | frame now bytes =>
    have hcount : Still d d.countFrame := ⟨⟨[], (List.append_nil _).symm, rfl⟩, rfl, rfl, rfl, rfl⟩
    exact (hcount.trans (receiveFrame_still (Res.toOption_eq_some.1 h))).fated
  | stats =>
    cases h
    exact (Still.of_talks (.publishAlarmStats d) rfl).fated
  | command now c => exact (onDiagCommand_still (Res.toOption_eq_some.1 h)).fated
  | publish =>
    cases h
    have hm : Micro true false (d, ps) (d.publishDiagState, ps) := .publish
    exact hm.fated hl
  | datagram now g =>
    obtain ⟨d1, h1, h⟩ := Res.toOption_map_eq_some.1 h
    cases h
    have ht : Talks d d.countDatagram [] := by
      constructor <;> simp [countDatagram]
    obtain ⟨r, hr, h1⟩ := Res.bind_eq_ok.1 h1
    rcases Res.attempt_eq_ok.1 hr with ⟨⟨cm, out⟩, hcm, rfl⟩ | ⟨e, -, rfl⟩
    · obtain ⟨he, hf⟩ := Cm.handleDatagram_effect hs.cache hcm
      have hm : Micro false false (d.countDatagram, ps) (d', ps) :=
        dispatch_micro (hs.of_same rfl rfl) he hf (by simp) h1
      exact (Still.of_talks ht rfl).then (hm.weaken.fated (hl.of_talks ht rfl))
    · cases h1
      exact (Still.of_talks ht rfl).fated
  | event now spawns ev =>
    simp only [Device.operate] at h
    split_ifs at h with hrun
    obtain ⟨d1, h1, h⟩ := Res.toOption_map_eq_some.1 h
    cases h
    cases ev with
    | watchdogExpired => exact abortWithErrRta_fated hl h1
    | socketError => exact abortWithErrRta_fated hl h1
    | schedWarning =>
      cases h1
      exact (Still.refl d).fated
    | exited =>
      cases h1
      exact (Still.refl d).fated
  | timers now spawns =>
    obtain ⟨d1, h1, h⟩ := Res.toOption_map_eq_some.1 h
    cases h
    obtain ⟨⟨cm, out⟩, hcm, h1⟩ := Res.bind_eq_ok.1 h1
    obtain ⟨he, hf⟩ := Cm.tick_effect hcm
    have hm : Micro false false (d, ps) (d', ps) := dispatch_micro hs he hf (by simp) h1
    exact hm.weaken.fated hl
  | rtaTimers now => exact (rtaTimers_still (Res.toOption_eq_some.1 h)).fated
  | apply now spawns =>
    cases ps with
    | nil => cases h
    | cons b ps =>
      obtain ⟨d1, h1, h⟩ := Res.toOption_map_eq_some.1 h
      cases h
      exact applyAlarmActions_fated hs hl h1
  | abort reason now spawns =>
    obtain ⟨d1, h1, h⟩ := Res.toOption_map_eq_some.1 h
    cases h
    exact abortWithErrRta_fated hl h1
  | image op => exact absurd rfl (ho op)

end Operations

end Device

end Pnio
