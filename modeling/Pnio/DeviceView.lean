import Pnio.DeviceRun

/-!
What the controller was told of the diagnoses on the open alarm channel is what the store holds,
and what the application reads is what the store holds.
-/

namespace Pnio

/-- What the controller of the newest channel knows, after one more entry of the log. -/
def hear (v : View) : Obs → View
  | .opened _ _ => .empty
  | .enqueued n => v.receive n
  | _ => v

/-- What was announced since the last channel was opened. -/
def viewOf (log : List Obs) : View := log.foldl hear .empty

/-- Every channel takes a notification of a channel diagnosis. -/
def WideEnough (log : List Obs) : Prop :=
  ∀ n cfg, .opened n cfg ∈ log → 30 ≤ cfg.maxAlarmDataLength.toNat

/-- Says nothing to the controller and opens no channel. -/
def Unheard (obs : List Obs) : Prop := ∀ o ∈ obs, ∀ v, hear v o = v

section Log

variable {log obs : List Obs} {v : View}

lemma viewOf_append (log obs : List Obs) : viewOf (log ++ obs) = obs.foldl hear (viewOf log) :=
  List.foldl_append

lemma foldl_unheard (h : Unheard obs) : obs.foldl hear v = v := by
  induction obs with
  | nil => rfl
  | cons o obs ih =>
    rw [List.foldl_cons, h o (by simp)]
    exact ih fun o' ho' => h o' (by simp [ho'])

lemma viewOf_unheard (h : Unheard obs) : viewOf (log ++ obs) = viewOf log := by
  rw [viewOf_append, foldl_unheard h]

/-- On one channel only the notifications count. -/
lemma foldl_replays {p : Nat} (h : Device.Replays p obs) :
    obs.foldl hear v = (enqueuedOf obs).foldl View.receive v := by
  induction obs generalizing v with
  | nil => rfl
  | cons o obs ih =>
    have ih := @ih (hear v o) fun o' ho' => h o' (by simp [ho'])
    rcases h o (by simp) with ⟨n, rfl⟩ | ⟨frame, rfl⟩
    · rw [List.foldl_cons, ih]
      rfl
    · rw [List.foldl_cons, ih]
      rfl

lemma unheard_sends (h : ∀ o ∈ obs, o.isSend) : Unheard obs := by
  intro o ho
  have hsend := h o ho
  cases o with
  | rpcSent o | ethSent frame => exact fun _ => rfl
  | _ => cases hsend

lemma unheard_nil : Unheard [] := fun o ho => by cases ho

lemma unheard_callback (state : ArState) (reason : Option AbortReason) :
    Unheard [.callback state reason] := by
  intro o ho
  rw [List.mem_singleton.1 ho]
  exact fun _ => rfl

lemma unheard_performed (p : Nat) (a : AlarmAction) : Unheard [.performed p a] := by
  intro o ho
  rw [List.mem_singleton.1 ho]
  exact fun _ => rfl

lemma WideEnough.of_append (h : WideEnough (log ++ obs)) : WideEnough log :=
  fun n cfg hn => h n cfg (by simp [hn])

end Log

namespace Device

/-- The open channel is one that was opened, and its controller knows the store. -/
structure Viewed (s : Device × List Batch) : Prop where
  cfg : ∀ cfg, s.1.alarm.map (·.cfg) = some cfg → ∃ n, .opened n cfg ∈ s.1.log
  view : WideEnough s.1.log → s.1.alarm.isSome → s.1.diag.TrackedBy (viewOf s.1.log)

section Viewed

variable {d d' : Device} {ps ps' : List Batch} {obs : List Obs}

lemma Viewed.of_talks (h : Viewed (d, ps)) (ht : Talks d d' obs) (ho : Unheard obs) :
    Viewed (d', ps') where
  cfg := by
    intro cfg hcfg
    obtain ⟨n, hn⟩ := h.cfg cfg (ht.alarm ▸ hcfg)
    exact ⟨n, by rw [show (d', ps').1.log = _ from ht.log]; simp [hn]⟩
  view := by
    intro hw hopen
    rw [show (d', ps').1.log = _ from ht.log] at hw
    rw [show (d', ps').1.log = _ from ht.log, viewOf_unheard ho,
      show (d', ps').1.diag = _ from ht.diag]
    exact h.view hw.of_append (ht.isSome ▸ hopen)

/-- Without a channel there is no one to know anything. -/
lemma Viewed.of_closed (h : d.alarm = none) : Viewed (d, ps) where
  cfg := by
    intro cfg hcfg
    rw [show (d, ps).1.alarm = _ from h] at hcfg
    cases hcfg
  view := by
    intro _ hopen
    rw [show (d, ps).1.alarm = _ from h] at hopen
    cases hopen

/-- In a log with wide channels only, the open channel takes every channel diagnosis. -/
lemma Viewed.accepts (h : Viewed (d, ps)) (hw : WideEnough d.log) {ch : AlarmChannel}
    (hch : d.alarm = some ch) : notificationFixedLen + 6 ≤ ch.cfg.maxAlarmDataLength.toNat := by
  obtain ⟨n, hn⟩ := h.cfg ch.cfg (by rw [show (d, ps).1.alarm = _ from hch]; rfl)
  exact hw n ch.cfg hn

/-- The replay to a new channel brings its controller up to date. -/
lemma Viewed.entered {cm : Cm} {ctx : ArContext} {obs' : List Obs} {p : Nat} (hok : d.diag.Ok)
    (hd : Entered d cm ctx d' obs obs') (ho' : Replays p obs')
    (hv : 30 ≤ (d.channelConfig ctx.params).maxAlarmDataLength.toNat →
      ∀ v, (enqueuedOf obs').foldl View.receive v = d.diag.replay.foldl View.receive v) :
    Viewed (d', ps) where
  cfg := by
    intro cfg hcfg
    cases hd.alarm.symm.trans hcfg
    exact ⟨d.opened + 1, by rw [show (d', ps).1.log = _ from hd.log]; simp⟩
  view := by
    intro hw _
    have hmax := hw (d.opened + 1) (d.channelConfig ctx.params)
      (by rw [show (d', ps).1.log = _ from hd.log]; simp)
    have hview : viewOf d'.log = d.diag.replay.foldl View.receive .empty := by
      rw [hd.log, viewOf_append, foldl_replays ho', hv hmax, viewOf_append]
      rfl
    rw [show (d', ps).1.log = d'.log from rfl, hview, show (d', ps).1.diag = _ from hd.diag]
    exact DiagStore.replay_tracked hok

/-- **Every move keeps the controller up to date.** -/
lemma Viewed.micro {spawn : Bool} {s s' : Device × List Batch} (hs : Sound s) (h : Viewed s)
    (hm : Micro true spawn s s') : Viewed s' := by
  cases hm with
  | talk ht ho => exact h.of_talks ht (unheard_sends ho)
  | produced hopen ht ha => exact h.of_talks ht unheard_nil
  | command hc hd => exact ⟨h.cfg, fun hw hopen => hd.tracked (h.view hw hopen)⟩
  | @announced d d' ps diag n acts hc hd hq =>
    cases hq with
    | dropped ht hno =>
      -- a channel that is wide enough would have taken the notification
      refine ⟨fun cfg hcfg => ?_, fun hw hopen => ?_⟩
      · obtain ⟨m, hm⟩ := h.cfg cfg (ht.alarm ▸ hcfg)
        exact ⟨m, by rw [ht.log]; simpa using hm⟩
      · have hopen' : d.alarm.isSome := by
          rw [← hopen]
          exact ht.isSome.symm
        obtain ⟨ch, hch⟩ := Option.isSome_iff_exists.1 hopen'
        have hlog : d'.log = d.log := ht.log.trans (List.append_nil _)
        have hacc := h.accepts (hlog ▸ hw) hch
        have hlt := hno ch hch
        rw [hd.isChannel] at hlt
        omega
    | @queued _ seq hopen ht ha =>
      refine ⟨fun cfg hcfg => ?_, fun hw hopen' => ?_⟩
      · obtain ⟨m, hm⟩ := h.cfg cfg (ht.alarm ▸ hcfg)
        exact ⟨m, by rw [ht.log]; simp [hm]⟩
      · have hw' : WideEnough d.log := WideEnough.of_append (ht.log ▸ hw)
        have hview : viewOf d'.log = (viewOf d.log).receive n := by
          rw [ht.log, viewOf_append]
          exact receive_stamp _ n seq
        have htracked := hd.tracked (h.view hw' hopen)
        rw [show (d', d.defer ps acts).1.log = d'.log from rfl, hview,
          show (d', d.defer ps acts).1.diag = diag from ht.diag]
        exact htracked
  | publish => exact ⟨h.cfg, h.view⟩
  | @quiet d d' ps cm out obs he hf hn ht ho =>
    have h' : Viewed ({ d with cm }, ps) := ⟨h.cfg, h.view⟩
    exact h'.of_talks ht (unheard_sends ho)
  | @connected d d' ps cm out obs he hf hn ht ho =>
    have h' : Viewed ({ d with cm }, ps) := ⟨h.cfg, h.view⟩
    have h1 : Viewed (d', ps) := h'.of_talks ht (unheard_sends ho)
    exact h1.of_talks (.note _ _) (unheard_callback _ _)
  | lost he hf hn ht ho => exact .of_closed (lostBy_alarm ..)
  | @takeover d d' ps cm out obs r he hf hn ht ho => exact .of_closed (lostBy_alarm d' r)
  | @data d d1 d2 d3 ps cm out obs obs' ctx spawns he hf hn hctx ht ho hsp hr ht' ho' hv =>
    have hd := Device.entered hctx ht hr ht'
    refine Viewed.entered hs.diag hd ho' fun hmax => hv ?_
    have halarm : d2.openAlarmChannel.alarm.map (·.cfg) = some (d.channelConfig ctx.params) :=
      ht'.alarm.symm.trans hd.alarm
    obtain ⟨ch, hch, hcfg⟩ := Option.map_eq_some_iff.1 halarm
    exact ⟨ch, hch, by rw [hcfg]; exact hmax⟩
  | performed hb hopen hepoch ha => exact h.of_talks (.note _ _) (unheard_performed _ _)
  | aborted hb hopen hepoch ht ho hst => exact .of_closed (lostBy_alarm ..)
  | @abortedIdle d d' ps b r obs hb hopen hepoch ht ho hst =>
    have h1 : Viewed (d.note (.performed b.producer (.abort r)), ps) :=
      h.of_talks (.note _ _) (unheard_performed _ _)
    exact h1.of_talks ht (unheard_sends ho)
  | popped => exact ⟨h.cfg, h.view⟩

lemma viewed_kept (spawn : Bool) : Kept spawn Viewed where
  new _ := .of_closed rfl
  move _ _ hs h hm := h.micro hs hm
  image _ _ _ h := ⟨h.cfg, h.view⟩

end Viewed

/-! ### What the application reads -/

/-- The published diagnoses and the problem indicator are those of the store. -/
structure Published (d : Device) : Prop where
  active : d.diagShared.active = d.diag.activeList
  problem : d.problem = d.diag.problemIndicator

section Published

variable {d d' : Device} {obs : List Obs}

lemma Published.of_talks (h : d.Published) (ht : Talks d d' obs) : d'.Published where
  active := by
    rw [ht.active, ht.diag]
    exact h.active
  problem := by
    rw [ht.problem, ht.diag]
    exact h.problem

lemma Published.lostBy (h : d.Published) (r : AbortReason) : (d.lostBy r).Published := by
  refine ⟨?_, ?_⟩
  · rw [lostBy_diagShared, lostBy_diag]
    exact h.active
  · rw [lostBy_problem, lostBy_diag]
    exact h.problem

/-- Outside the draining of commands nothing is left unpublished. -/
lemma Published.micro {spawn : Bool} {s s' : Device × List Batch} (h : s.1.Published)
    (hm : Micro false spawn s s') : s'.1.Published := by
  cases hm with
  | talk ht ho => exact h.of_talks ht
  | produced hopen ht ha => exact h.of_talks ht
  | command hc hd => cases hc
  | announced hc hd hq => cases hc
  | publish => exact ⟨rfl, rfl⟩
  | @quiet d d' ps cm out obs he hf hn ht ho =>
    have h' : Published { d with cm } := ⟨h.active, h.problem⟩
    exact h'.of_talks ht
  | @connected d d' ps cm out obs he hf hn ht ho =>
    have h' : Published { d with cm } := ⟨h.active, h.problem⟩
    exact (h'.of_talks ht).of_talks (.note _ _)
  | @lost d d' ps cm out obs r he hf hn ht ho =>
    have h' : Published { d with cm } := ⟨h.active, h.problem⟩
    exact (h'.of_talks ht).lostBy r
  | @takeover d d' ps cm out obs r he hf hn ht ho =>
    have h' : Published { d with cm } := ⟨h.active, h.problem⟩
    exact ((h'.of_talks ht).lostBy r).of_talks (.note _ _)
  | data he hf hn hctx ht ho hsp hr ht' ho' hv => exact ⟨rfl, rfl⟩
  | performed hb hopen hepoch ha => exact h.of_talks (.note _ _)
  | @aborted d d' ps b r obs hb hopen hepoch ht ho hst =>
    have h1 := (h.of_talks (.note _ _)).of_talks ht
    have h2 : Published { d' with cm := { d'.cm with ar := d'.cm.ar.dropped } } :=
      ⟨h1.active, h1.problem⟩
    exact h2.lostBy r
  | abortedIdle hb hopen hepoch ht ho hst => exact (h.of_talks (.note _ _)).of_talks ht
  | popped => exact h

lemma Published.moves {spawn : Bool} {s s' : Device × List Batch} (h : s.1.Published)
    (hm : Moves false spawn s s') : s'.1.Published := by
  induction hm with
  | refl => exact h
  | tail _ h1 ih => exact ih.micro h1

lemma Published.drained {spawn : Bool} {s s' : Device × List Batch} (h : s.1.Published)
    (hd : Drained spawn s s') : s'.1.Published := by
  rcases hd with rfl | ⟨s1, -, rfl⟩
  · exact h
  · exact ⟨rfl, rfl⟩

lemma new_published (setup : DeviceSetup) : (new setup).Published := by
  constructor <;> rfl

lemma reach_published (h : deviceSystem.Reach d) : d.Published := by
  refine (System.Reach.inv (I := fun d => Sound (d, []) ∧ d.Published) ?_ ?_ h).2
  · rintro _ ⟨setup, rfl⟩
    exact ⟨new_sound setup, new_published setup⟩
  · rintro d i d' ⟨hs, hd⟩ hnext
    have hno : false = true → i.Spawns := nofun
    rcases next_parts hs hno hnext with ⟨s1, s2, m1, m2, m3⟩ | ⟨im, -, rfl⟩
    · have hs2 := m2.moves.sound (m1.sound hs)
      exact ⟨m3.sound hs2, ((hd.moves m1).drained m2).moves m3⟩
    · exact ⟨hs.of_same rfl rfl, ⟨hd.active, hd.problem⟩⟩

end Published

/-- **The controller and the application both see the store.** In every run, if every channel so
far takes 30 bytes: while a channel is open, the notifications queued on it add up to the active
diagnoses with their severities. After every call the published list and the problem indicator
are those of the store. -/
theorem view_tracks_store {d : Device} (h : deviceSystem.Reach d) :
    (WideEnough d.log → d.alarm.isSome → d.diag.TrackedBy (viewOf d.log)) ∧
      d.diagShared.active = d.diag.activeList ∧ d.problem = d.diag.problemIndicator := by
  have hviewed : Viewed (d, []) := reach_inv (viewed_kept false) h
  have hpublished := reach_published h
  exact ⟨hviewed.view, hpublished.active, hpublished.problem⟩

/-- A wire breaks before the session and another diagnosis comes up during it. -/
theorem view_tracks_two_diagnoses :
    ∃ d, deviceSystem.Reach d ∧ d.alarm.isSome ∧ d.diag.activeList.length = 2 ∧
      d.diag.TrackedBy (viewOf d.log) ∧ d.diagShared.active = d.diag.activeList ∧
      d.problem = d.diag.problemIndicator := by
  have hrun : (deviceSystem.run (.new DeviceDemo.setup)
      (DeviceDemo.recv true [] [.raise DeviceDemo.fault] :: DeviceDemo.bringUp true ++
        [DeviceDemo.recv true [] [.raise { DeviceDemo.fault with error := .overload }]])).any
      (fun d => d.alarm.isSome && d.diag.activeList.length == 2 && d.log.all fun
        | .opened _ cfg => decide (30 ≤ cfg.maxAlarmDataLength.toNat)
        | _ => true) = true := by
    decide +kernel
  obtain ⟨d, hd, hp⟩ := System.exists_reach_of_run DeviceDemo.new_init hrun
  simp only [Bool.and_eq_true, beq_iff_eq, List.all_eq_true] at hp
  obtain ⟨⟨hopen, hlen⟩, hall⟩ := hp
  have hwide : WideEnough d.log := fun n cfg hn => of_decide_eq_true (hall _ hn)
  obtain ⟨hview, hactive, hproblem⟩ := view_tracks_store hd
  exact ⟨d, hd, hopen, hlen, hview hwide hopen, hactive, hproblem⟩

end Device

end Pnio
