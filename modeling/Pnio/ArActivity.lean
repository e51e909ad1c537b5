import Pnio.ArRun

/-!
The activity timer of an AR that is being parametrised, against the events so far: it runs from
the Connect that established the AR and starts again with every Write that was answered OK, and
with nothing else.
-/

namespace Pnio

namespace ArTurn

/-- A Write answered OK while the AR was being parametrised. -/
def writes (t : ArTurn) : Bool :=
  match t.event with
  | .writeReq _ => t.acts.any Cm.isRespondOk && t.before = .connected
  | _ => false

/-- When the turn started the activity timer. -/
def activity (t : ArTurn) : Option Instant :=
  if t.establishes || t.writes then some t.now else none

end ArTurn

/-- The last time it was started. -/
def lastActivity (log : List ArTurn) : Option Instant :=
  log.foldl (fun acc t => t.activity.or acc) none

lemma lastActivity_snoc (log : List ArTurn) (t : ArTurn) :
    lastActivity (log ++ [t]) = t.activity.or (lastActivity log) := by
  simp [lastActivity, List.foldl_append]

/-- While it waits for parameters, the machine is due a fixed time after the last activity. -/
def ArRun.Active (r : ArRun) : Prop :=
  r.ar.state = .connected → ∃ c t, r.ar.ctx = some c ∧ lastActivity r.log = some t ∧
    r.ar.activityDeadline = some (t + activityTimeoutUnit * c.params.activityTimeoutFactor.toNat)

lemma ArRun.Active.quiet {ar : Ar} {log : List ArTurn} {turn : ArTurn}
    (h : ArRun.Active ⟨ar, log⟩) (ht : turn.activity = none) :
    ArRun.Active ⟨ar, log ++ [turn]⟩ := by
  intro hs
  obtain ⟨c, t, hc, hl, hd⟩ := h hs
  exact ⟨c, t, hc, by rw [lastActivity_snoc, ht, Option.none_or, hl], hd⟩

lemma activity_refused {ev : Event} {now : Instant} {before : ArState} {s : PnioStatus}
    (hz : s.val ≠ 0) : ArTurn.activity ⟨ev, now, before, [refuse s]⟩ = none := by
  cases ev <;> simp [ArTurn.activity, ArTurn.establishes, ArTurn.writes, refuse, Cm.isRespondOk,
    Cm.isNotifyConnected, hz]

lemma activity_silent (ev : Event) (now : Instant) (before : ArState) :
    ArTurn.activity ⟨ev, now, before, []⟩ = none := by
  cases ev <;> simp [ArTurn.activity, ArTurn.establishes, ArTurn.writes]

lemma Ar.Trans.active {ε : Type} {ar ar' : Ar} {ev : Event} {now : Instant} {acts : List Action}
    {log : List ArTurn} (h : ArRun.Active ⟨ar, log⟩) (ht : Trans ε now ar ev ar' acts) :
    ArRun.Active ⟨ar', log ++ [⟨ev, now, ar.state, acts⟩]⟩ := by
  cases ht with
  | refused hr hz => exact h.quiet (activity_refused hz)
  | ignored hr => exact h.quiet (activity_silent ev now ar.state)
  | resend | prmEndAgain | releaseIdle => exact h.quiet rfl
  | connect | takeover =>
    intro _
    refine ⟨_, now, rfl, ?_, rfl⟩
    rw [lastActivity_snoc]
    rfl
  | @write req ctx blocks hs hctx hu hcap hb =>
    intro hcon
    have hcon : ar.state = .connected := hcon
    refine ⟨_, now, rfl, ?_, ?_⟩
    · rw [lastActivity_snoc]
      simp [ArTurn.activity, ArTurn.writes, hcon, Cm.isRespondOk, PnioStatus.ok]
    · simp [Ar.stored, Ar.activityFrom, hcon]
  | retry hs =>
    intro hcon
    have hcon : ar.state = .connected := hcon
    rw [hs] at hcon
    cases hcon
  | prmEnd | appReady | takeoverRefused | release | appReadyRejected | activityTimeout
  | appReadyFailed | abort =>
    intro hcon
    cases hcon

lemma active_reach {model : DeviceModel} {r : ArRun} (h : (arSystem model).Reach r) :
    r.Active := by
  refine h.inv ?_ ?_
  · rintro r rfl hs
    cases hs
  · intro r i r' ha hs
    obtain ⟨ar, acts, ht, rfl⟩ := ar_step hs
    exact ht.active ha

/-- The actions end the AR for want of activity. -/
def TimesOut (acts : List Action) : Prop := .notify .idle (some .activityTimeout) ∈ acts

/-- A tick while the AR is being parametrised. -/
lemma Ar.on_tick_connected {ε : Type} {ar : Ar} {deadline : Instant}
    (hs : ar.state = .connected) (hd : ar.activityDeadline = some deadline) (now : Instant) :
    ∃ ar' acts, (ar.on .tick now : Res ε _) = .ok (ar', acts) ∧
      (TimesOut acts ↔ deadline ≤ now) := by
  unfold on handleTick
  simp only [hs, hd, due, Option.any_some, decide_eq_true_eq]
  by_cases hle : deadline ≤ now
  · rw [if_pos hle]
    exact ⟨_, _, rfl, iff_of_true (List.mem_singleton.2 rfl) hle⟩
  · rw [if_neg hle]
    exact ⟨_, _, rfl, iff_of_false nofun hle⟩

/-- Only a tick that finds the AR without parameters times out. -/
lemma Ar.Trans.timesOut {ε : Type} {ar ar' : Ar} {ev : Event} {now : Instant}
    {acts : List Action} (ht : Trans ε now ar ev ar' acts) (hev : ∀ reason, ev ≠ .abort reason)
    (h : TimesOut acts) : ev = .tick ∧ ar.state = .connected := by
  cases ht with
  | activityTimeout hs => exact ⟨rfl, hs⟩
  | abort => exact absurd rfl (hev _)
  | _ => simp [TimesOut, refuse] at h

/-- A turn that did not start the timer leaves it as it is. -/
lemma Ar.Trans.keeps_deadline {ε : Type} {ar ar' : Ar} {ev : Event} {now : Instant}
    {acts : List Action} (ht : Trans ε now ar ev ar' acts)
    (ha : ArTurn.activity ⟨ev, now, ar.state, acts⟩ = none) (hs : ar'.state = .connected) :
    ar.state = .connected ∧ ar'.activityDeadline = ar.activityDeadline := by
  cases ht with
  | refused | ignored | resend | prmEndAgain | releaseIdle => exact ⟨hs, rfl⟩
  | connect | takeover => cases ha
  | write =>
    have hcon : ar.state = .connected := hs
    simp [ArTurn.activity, ArTurn.writes, hcon, Cm.isRespondOk, PnioStatus.ok] at ha
  | retry => exact ⟨hs, rfl⟩
  | prmEnd | appReady | takeoverRefused | release | appReadyRejected | activityTimeout
  | appReadyFailed | abort => cases hs

/-- **The activity timeout.** After any events at any times:

* while the AR is being parametrised, a tick ends it for want of activity if and only if
  `activity_timeout_factor` times 100 ms have passed since the Connect that established it or the
  last Write answered OK, whichever was later;
* no other turn moves the deadline, so refused Writes, repeated and foreign Connects and foreign
  control requests do not postpone it;
* no event but a tick in this state times out (an abort from outside may give any reason). -/
theorem activity_timeout_iff {model : DeviceModel} {r : ArRun} (hr : (arSystem model).Reach r) :
    (r.ar.state = .connected → ∃ c t, r.ar.ctx = some c ∧ lastActivity r.log = some t ∧
      ∀ now, ∃ ar' acts, (r.ar.on .tick now : Res Empty _) = .ok (ar', acts) ∧
        (TimesOut acts ↔ t + c.params.activityTimeoutFactor.toNat * 100000000 ≤ now)) ∧
    (∀ ev now ar' acts, (r.ar.on ev now : Res Empty _) = .ok (ar', acts) →
      ArTurn.activity ⟨ev, now, r.ar.state, acts⟩ = none → ar'.state = .connected →
      r.ar.state = .connected ∧ ar'.activityDeadline = r.ar.activityDeadline) ∧
    ∀ ev now ar' acts, (r.ar.on ev now : Res Empty _) = .ok (ar', acts) →
      (∀ reason, ev ≠ .abort reason) → TimesOut acts → ev = .tick ∧ r.ar.state = .connected := by
  refine ⟨fun hs => ?_, fun ev now ar' acts hon => (Ar.on_trans hon).keeps_deadline,
    fun ev now ar' acts hon => (Ar.on_trans hon).timesOut⟩
  obtain ⟨c, t, hc, hl, hd⟩ := active_reach hr hs
  refine ⟨c, t, hc, hl, fun now => ?_⟩
  obtain ⟨ar', acts, hon, hiff⟩ := Ar.on_tick_connected (ε := Empty) hs hd now
  refine ⟨ar', acts, hon, ?_⟩
  rw [hiff, activityTimeoutUnit, Nat.mul_comm]

namespace Demo

/-- Set up, and one of two Writes is for another AR. -/
def parametrising : List (Event × Instant) :=
  [(.connectReq connectReq, 0), (.writeReq ⟨[record 1]⟩, 10),
    (.writeReq ⟨[{ record 2 with arUuid := uuid 9 }]⟩, 20)]

/-- The machine waits, since the first Write. -/
def waitsSince (t : Instant) (r : ArRun) : Bool :=
  r.ar.state = .connected && lastActivity r.log = some t

end Demo

/-- The refused Write did not start the timer again. -/
theorem activity_timeout_refused_write :
    ∃ r c, (arSystem Demo.model).Reach r ∧ r.ar.ctx = some c ∧
      ∀ now, ∃ ar' acts, (r.ar.on .tick now : Res Empty _) = .ok (ar', acts) ∧
        (TimesOut acts ↔ 10 + c.params.activityTimeoutFactor.toNat * 100000000 ≤ now) := by
  have hrun : ((arSystem Demo.model).run ⟨.new Demo.model, []⟩ Demo.parametrising).any
      (Demo.waitsSince 10) = true := by
    decide +kernel
  obtain ⟨r, hr, hw⟩ := System.exists_reach_of_run (S := arSystem Demo.model) rfl hrun
  simp only [Demo.waitsSince, Bool.and_eq_true, decide_eq_true_eq] at hw
  obtain ⟨c, t, hc, hl, htick⟩ := (activity_timeout_iff hr).1 hw.1
  rw [hw.2] at hl
  cases hl
  exact ⟨r, c, hr, hc, htick⟩

end Pnio
