import Pnio.DeviceRun

/-!
The alarm channel, the RT thread and the callbacks follow the state of the AR.
-/

namespace Pnio

/-- The calls of the state-change callback. -/
def callbacksOf (log : List Obs) : List (ArState × Option AbortReason) :=
  log.filterMap fun
    | .callback state reason => some (state, reason)
    | _ => none

/-- The lifecycle the application is shown. `Idle` comes with a reason, the others without. -/
def lifecycle : ArState → ArState × Option AbortReason → Option ArState
  | .idle, (.connected, none) => some .connected
  | .connected, (.data, none) => some .data
  | .connected, (.idle, some _) | .data, (.idle, some _) => some .idle
  | _, _ => none

/-- The state as the application knows it. -/
def ArState.reported : ArState → ArState
  | .appReadySent => .connected
  | s => s

section Lifecycle

variable {s s' : ArState} {cbs : List (ArState × Option AbortReason)}

lemma lifecycle_target {cb : ArState × Option AbortReason} (h : lifecycle s cb = some s') :
    cb.1 = s' := by
  unfold lifecycle at h
  split at h <;> cases h <;> rfl

/-- The only way on from `Data` is an `Idle` with its reason. -/
lemma lifecycle_data {cb : ArState × Option AbortReason} (h : lifecycle .data cb = some s') :
    ∃ r, cb = (.idle, some r) := by
  obtain ⟨state, reason⟩ := cb
  cases state <;> cases reason <;> cases h
  exact ⟨_, rfl⟩

/-- A path ends in the state of its last callback. -/
lemma lifecycle_last (h : cbs.foldlM lifecycle s = some s') :
    (cbs.getLast?.map (·.1)).getD s = s' := by
  induction cbs using List.reverseRecOn with
  | nil => exact Option.some.inj h
  | append_singleton cbs cb _ =>
    rw [List.foldlM_append] at h
    obtain ⟨s1, -, h⟩ := Option.bind_eq_some_iff.1 h
    rw [List.foldlM_cons] at h
    obtain ⟨s2, hcb, h⟩ := Option.bind_eq_some_iff.1 h
    cases h
    simpa using lifecycle_target hcb

/-- A path is left through `Idle` before `Data` is reached again. -/
lemma lifecycle_between {a b c : List (ArState × Option AbortReason)}
    (h : (a ++ (.data, none) :: (b ++ (.data, none) :: c)).foldlM lifecycle s = some s') :
    ∃ r, (.idle, some r) ∈ b := by
  rw [List.foldlM_append] at h
  obtain ⟨s1, -, h⟩ := Option.bind_eq_some_iff.1 h
  rw [List.foldlM_cons] at h
  obtain ⟨s2, hdata, h⟩ := Option.bind_eq_some_iff.1 h
  obtain rfl := lifecycle_target hdata
  -- the first callback after `Data` is the one looked for
  cases b with
  | nil =>
    rw [List.nil_append, List.foldlM_cons] at h
    obtain ⟨s3, h3, -⟩ := Option.bind_eq_some_iff.1 h
    obtain ⟨r, hr⟩ := lifecycle_data h3
    cases hr
  | cons cb b =>
    rw [List.cons_append, List.foldlM_cons] at h
    obtain ⟨s3, h3, -⟩ := Option.bind_eq_some_iff.1 h
    obtain ⟨r, rfl⟩ := lifecycle_data h3
    exact ⟨r, by simp⟩

lemma lifecycle_idle (h : s ≠ .idle) (r : AbortReason) :
    lifecycle s.reported (.idle, some r) = some .idle := by
  cases s <;> first | rfl | exact absurd rfl h

end Lifecycle

/-! ### What is no callback -/

section Callbacks

lemma callbacksOf_append (a b : List Obs) : callbacksOf (a ++ b) = callbacksOf a ++ callbacksOf b :=
  List.filterMap_append

lemma callbacksOf_sends {obs : List Obs} (h : ∀ o ∈ obs, o.isSend) : callbacksOf obs = [] := by
  refine List.filterMap_eq_nil_iff.2 fun o ho => ?_
  have := h o ho
  cases o <;> first | rfl | cases this

lemma callbacksOf_replays {p : Nat} {obs : List Obs} (h : Device.Replays p obs) :
    callbacksOf obs = [] := by
  refine List.filterMap_eq_nil_iff.2 fun o ho => ?_
  rcases h o ho with ⟨n, rfl⟩ | ⟨frame, rfl⟩ <;> rfl

end Callbacks

namespace Device

/-- The channel and the RT thread are tied to `Data`, and the callbacks lead to the state. -/
structure Life (s : Device × List Batch) : Prop where
  alarm : s.1.alarm.isSome ↔ s.1.cm.ar.state = .data
  runner : s.1.runner → s.1.cm.ar.state = .data
  path : (callbacksOf s.1.log).foldlM lifecycle .idle = some s.1.cm.ar.state.reported

section Life

variable {d d' : Device} {ps ps' : List Batch} {cm : Cm} {out : CmOutput} {obs : List Obs}

lemma Life.no_runner (h : Life (d, ps)) (hs : d.cm.ar.state ≠ .data) : d.runner = false :=
  Bool.eq_false_iff.2 fun hr => hs (h.runner hr)

/-- A move that leaves the AR, the channel and the thread alone. -/
lemma Life.of_talks (h : Life (d, ps)) (ht : Talks d d' obs) (ho : callbacksOf obs = []) :
    Life (d', ps') where
  alarm := by
    rw [show (d', ps').1.alarm.isSome = d.alarm.isSome from ht.isSome,
      show (d', ps').1.cm = d.cm from ht.cm]
    exact h.alarm
  runner := by
    rw [show (d', ps').1.runner = d.runner from ht.runner, show (d', ps').1.cm = d.cm from ht.cm]
    exact h.runner
  path := by
    rw [show (d', ps').1.log = d.log ++ obs from ht.log, show (d', ps').1.cm = d.cm from ht.cm,
      callbacksOf_append, ho, List.append_nil]
    exact h.path

/-- The manager moved within what the application sees as one state. -/
lemma Life.of_quiet (h : Life (d, ps)) (he : Cm.Effect d.cm cm out) (hn : out.notify = []) :
    Life ({ d with cm }, ps) := by
  obtain ⟨-, ⟨hst, -⟩ | ⟨hst, hst', -⟩⟩ := he.of_quiet hn
  · have hreported : cm.ar.state.reported = d.cm.ar.state.reported := congrArg _ hst
    exact ⟨h.alarm.trans (by rw [hst]), fun hr => hst.trans (h.runner hr),
      h.path.trans (congrArg some hreported.symm)⟩
  · -- neither before nor after is the AR in `Data`
    have hclosed : ¬ d.alarm.isSome := fun ha => by
      have := h.alarm.1 ha
      rw [hst] at this
      cases this
    have hnone : ¬ d.runner := fun hr => by
      have := h.runner hr
      rw [hst] at this
      cases this
    refine ⟨⟨fun ha => absurd ha hclosed, fun hd => ?_⟩, fun hr => absurd hr hnone, ?_⟩
    · rw [show cm.ar.state = _ from hst'] at hd
      cases hd
    · have hpath := h.path
      rw [hst] at hpath
      rw [show cm.ar.state = _ from hst']
      exact hpath

/-- Any state but `Idle` can be left for it. -/
lemma Life.lost_path (h : Life (d, ps)) (ht : Talks { d with cm } d' obs)
    (ho : callbacksOf obs = []) (hst : d.cm.ar.state ≠ .idle) (r : AbortReason) :
    (callbacksOf (d'.lostBy r).log).foldlM lifecycle .idle = some .idle := by
  have hlog : callbacksOf (d'.lostBy r).log = callbacksOf d.log ++ [(.idle, some r)] := by
    rw [lostBy_log, ht.log, callbacksOf_append, callbacksOf_append, ho, List.append_nil]
    rfl
  rw [hlog, List.foldlM_append, h.path]
  simp [lifecycle_idle hst r]

lemma Life.lost_idle (h : Life (d, ps)) (ht : Talks { d with cm } d' obs)
    (ho : callbacksOf obs = []) (hst : d.cm.ar.state ≠ .idle) (hst' : cm.ar.state = .idle)
    (r : AbortReason) : Life (d'.lostBy r, ps') := by
  have hstate : d'.cm.ar.state = .idle := (congrArg (·.ar.state) ht.cm).trans hst'
  refine ⟨by simp [hstate], by simp, ?_⟩
  rw [show (d'.lostBy r, ps').1.cm.ar.state = .idle by simpa using hstate]
  exact h.lost_path ht ho hst r

/-- **Every move keeps the lifecycle.** -/
lemma Life.micro {spawn : Bool} {s s' : Device × List Batch} (h : Life s)
    (hm : Micro true spawn s s') : Life s' := by
  cases hm with
  | talk ht ho => exact h.of_talks ht (callbacksOf_sends ho)
  | produced hopen ht ha => exact h.of_talks ht rfl
  | command hc hd => exact ⟨h.alarm, h.runner, h.path⟩
  | @announced d d' ps diag n acts hc hd hq =>
    have h' : Life ({ d with diag }, ps) := ⟨h.alarm, h.runner, h.path⟩
    cases hq with
    | dropped ht hno => exact h'.of_talks ht rfl
    | queued hopen ht ha => exact h'.of_talks ht rfl
  | publish => exact ⟨h.alarm, h.runner, h.path⟩
  | quiet he hf hn ht ho => exact (h.of_quiet he hn).of_talks ht (callbacksOf_sends ho)
  | @connected d d' ps cm out obs he hf hn ht ho =>
    obtain ⟨hst, hst', -⟩ := he.of_connected hn
    have hstate : d'.cm.ar.state = .connected := (congrArg (·.ar.state) ht.cm).trans hst'
    have hclosed : ¬ d'.alarm.isSome := fun ha => by
      have := h.alarm.1 (ht.isSome ▸ ha)
      rw [hst] at this
      cases this
    have hnone : ¬ d'.runner := fun hr => by
      have := h.runner (ht.runner ▸ hr)
      rw [hst] at this
      cases this
    refine ⟨⟨fun ha => absurd ha hclosed, fun hd => ?_⟩, fun hr => absurd hr hnone, ?_⟩
    · rw [show (d'.note _).cm.ar.state = .connected from hstate] at hd
      cases hd
    · have hpath := h.path
      rw [hst] at hpath
      have hlog : callbacksOf (d'.note (.callback .connected none)).log =
          callbacksOf d.log ++ [(.connected, none)] := by
        rw [note, ht.log, callbacksOf_append, callbacksOf_append, callbacksOf_sends ho,
          List.append_nil]
        rfl
      rw [hlog, List.foldlM_append, hpath, show (d'.note _).cm.ar.state = .connected from hstate]
      rfl
  | @lost d d' ps cm out obs r he hf hn ht ho =>
    obtain ⟨hst, hst', -⟩ := he.of_lost hn
    exact h.lost_idle ht (callbacksOf_sends ho) hst hst' r
  | @takeover d d' ps cm out obs r he hf hn ht ho =>
    obtain ⟨hst, hst', -⟩ := he.of_takeover hn
    have hstate : d'.cm.ar.state = .connected := (congrArg (·.ar.state) ht.cm).trans hst'
    refine ⟨by simp [note, hstate], by simp [note], ?_⟩
    have hlog : callbacksOf ((d'.lostBy r).note (.callback .connected none)).log =
        callbacksOf (d'.lostBy r).log ++ [(.connected, none)] := by
      rw [note, callbacksOf_append]
      rfl
    rw [hlog, List.foldlM_append, h.lost_path ht (callbacksOf_sends ho) hst r,
      show ((d'.lostBy r).note (.callback .connected none)).cm.ar.state = .connected by
        simpa [note] using hstate]
    rfl
  | @data d d1 d2 d3 ps cm out obs obs' ctx spawns he hf hn hctx ht ho hs hr ht' ho' hv =>
    obtain ⟨hst, hst', -⟩ := he.of_data hn
    have hd := entered hctx ht hr ht'
    have hstate : d3.publishDiagState.cm.ar.state = .data := by
      rw [hd.cm]
      exact hst'
    have hopen : d3.publishDiagState.alarm.isSome := by
      simpa using congrArg Option.isSome hd.alarm
    refine ⟨⟨fun _ => hstate, fun _ => hopen⟩, fun _ => hstate, ?_⟩
    have hpath := h.path
    rw [hst] at hpath
    have hlog : callbacksOf d3.publishDiagState.log = callbacksOf d.log ++ [(.data, none)] := by
      rw [hd.log, callbacksOf_append, callbacksOf_append, callbacksOf_append,
        callbacksOf_sends ho, callbacksOf_replays ho', List.append_nil, List.append_nil]
      rfl
    rw [hlog, List.foldlM_append, hpath, hstate]
    rfl
  | performed hb hopen hepoch ha => exact h.of_talks (.note _ _) rfl
  | @aborted d d' ps b r obs hb hopen hepoch ht ho hst =>
    have h' : Life (d.note (.performed b.producer (.abort r)), ps) := h.of_talks (.note _ _) rfl
    have ht1 : Talks { d.note (.performed b.producer (.abort r)) with
        cm := { d.cm with ar := d.cm.ar.dropped } }
        { d' with cm := { d'.cm with ar := d'.cm.ar.dropped } } obs :=
      { ht with cm := congrArg (fun c : Cm => { c with ar := c.ar.dropped }) ht.cm }
    exact h'.lost_idle ht1 (callbacksOf_sends ho) hst rfl r
  | abortedIdle hb hopen hepoch ht ho hst =>
    -- a channel is only open in `Data`
    have hdata := h.alarm.1 hopen
    rw [hst] at hdata
    cases hdata
  | popped => exact ⟨h.alarm, h.runner, h.path⟩

lemma life_kept (spawn : Bool) : Kept spawn Life where
  new setup := ⟨by simp [new, Cm.new, Ar.new], by simp [new], rfl⟩
  move _ _ _ h hm := h.micro hm
  image d im _ h := ⟨h.alarm, h.runner, h.path⟩

end Life

/-- **The device lives with its AR.** In every run, whatever arrives and whenever it is aborted,
there is an alarm channel exactly in `Data` and an RT thread at most then; the callbacks follow
the lifecycle from `Idle` to the current state, the last of them reports that state, and between
two of `Data` there is one of `Idle`. -/
theorem reach_lifecycle {d : Device} (h : deviceSystem.Reach d) :
    (d.alarm.isSome ↔ d.cm.ar.state = .data) ∧ (d.runner → d.cm.ar.state = .data) ∧
      (callbacksOf d.log).foldlM lifecycle .idle = some d.cm.ar.state.reported ∧
      (((callbacksOf d.log).getLast?.map (·.1)).getD .idle = d.cm.ar.state.reported) ∧
      ∀ a b c, callbacksOf d.log = a ++ (.data, none) :: (b ++ (.data, none) :: c) →
        ∃ r, (.idle, some r) ∈ b := by
  have hlife : Life (d, []) := reach_inv (life_kept false) h
  refine ⟨hlife.alarm, hlife.runner, hlife.path, lifecycle_last hlife.path, fun a b c heq => ?_⟩
  have hpath := hlife.path
  rw [heq] at hpath
  exact lifecycle_between hpath

/-- Two sessions one after the other: the second is in `Data`. -/
theorem reach_lifecycle_second_session :
    ∃ d a b c, deviceSystem.Reach d ∧ d.cm.ar.state = .data ∧
      callbacksOf d.log = a ++ (.data, none) :: (b ++ (.data, none) :: c) ∧
      d.alarm.isSome ∧ ∃ r, (.idle, some r) ∈ b := by
  have hrun : (deviceSystem.run (.new DeviceDemo.setup) DeviceDemo.twoSessions).any
      (fun d => d.cm.ar.state == .data &&
        callbacksOf d.log == [(.connected, none), (.data, none),
          (.idle, some .controllerRelease), (.connected, none), (.data, none)]) = true := by
    decide +kernel
  obtain ⟨d, hd, hp⟩ := System.exists_reach_of_run DeviceDemo.new_init hrun
  simp only [Bool.and_eq_true, beq_iff_eq] at hp
  obtain ⟨halarm, -, -, -, hbetween⟩ := reach_lifecycle hd
  refine ⟨d, [(.connected, none)], [(.idle, some .controllerRelease), (.connected, none)], [],
    hd, hp.1, hp.2, halarm.2 hp.1, hbetween [(.connected, none)] _ [] hp.2⟩

end Device

end Pnio
