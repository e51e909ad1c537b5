import Pnio.StackAlone

/-!
The device and its threads over whole runs, under every interleaving: a thread that fails takes
its AR down with it, and a thread that was let go comes to its end.
-/

namespace Pnio

namespace RtWorld

variable {w w' : RtWorld} {act : RtAct}

/-- A step of the thread takes nothing out of its queue. -/
lemma Did.ofThread (h : Did w act w') (ha : act.ofThread = true) :
    w'.taken = w.taken ∧ w.shared.queue <+: w'.shared.queue := by
  cases h with
  | push _ => exact ⟨rfl, List.prefix_append _ _⟩
  | exit _ _ => exact ⟨rfl, List.prefix_append _ _⟩
  | pass _ _ =>
    obtain ⟨hs, ht, -, -⟩ := worked_shared w (w.thread.pass _ _)
    exact ⟨ht, by rw [hs]⟩
  | setup | armFailed | stop | top | pollFailed | poll | drain | leave =>
    exact ⟨rfl, List.prefix_rfl⟩
  | takeNone | take | storeStop | signalWake | image => cases ha

/-- An event that is taken is the first of the queue. -/
lemma Did.head {e : RtThreadEvent} (h : Did w .take w') (he : w.shared.queue.head? = some e) :
    w'.taken = w.taken ++ [e] ∧ w.shared.queue = e :: w'.shared.queue := by
  cases h with
  | takeNone hq =>
    rw [hq] at he
    cases he
  | take hq =>
    rw [hq] at he
    cases he
    exact ⟨rfl, hq⟩

lemma Did.head_none (h : Did w .take w') (hq : w.shared.queue = []) : w'.taken = w.taken := by
  cases h with
  | takeNone _ => rfl
  | take hq' =>
    rw [hq] at hq'
    cases hq'

/-- The death of a thread nobody asked to stop is in its queue, unless it was taken. -/
lemma Genuine.fatal_of_gone (h : w.Genuine) (hrun : w.shared.running = false)
    (hstop : w.shared.stop = false) : ∃ e ∈ w.pushed, e.isFatal = true := by
  obtain ⟨lay, th, hf, hr⟩ := h
  obtain ⟨ws, k, err, hy⟩ := rt_story hf hr
  have hgone := hy.running hrun
  have herr : err ≠ [] := fun herr => by
    have := hy.cause (by rw [hgone]; rfl) herr
    rw [hstop] at this
    cases this
  obtain ⟨e, he⟩ := List.exists_mem_of_ne_nil err herr
  have htext := hy.text
  rw [hy.last (by rw [hgone]; rfl), List.append_nil] at htext
  refine ⟨e, ?_, ?_⟩
  · rw [htext]
    simp [he]
  · have := hy.error e he
    cases e <;> first | rfl | cases this

end RtWorld

/-- A step of the RT thread with this number. -/
def StackAct.isOf (k : Nat) : StackAct → Bool
  | .thread j _ => j = k
  | _ => false

namespace Device

variable {d d' : Device} {ps ps' : List Batch} {now : Instant} {spawns : Bool}
  {e : RtThreadEvent}

/-- A fatal event costs the AR and with it the thread. -/
lemma operate_fatal (hl : Life (d, ps)) (hf : e.isFatal = true)
    (h : operate (d, ps) (.event now spawns e.toDevice) = some (d', ps')) : d'.runner = false := by
  simp only [operate] at h
  split_ifs at h with hr
  obtain ⟨d1, h1, h⟩ := Res.toOption_map_eq_some.1 h
  cases h
  have hdata : d.cm.ar.state = .data := hl.runner hr
  have habort : ∀ r, (abortWithErrRta abortDepth now spawns r d : Res Empty _) = .ok d' →
      d'.runner = false := by
    intro r h
    rw [abortDepth, abortWithErrRta_eq] at h
    obtain ⟨d1, ha, h⟩ := Res.bind_eq_ok.1 h
    obtain ⟨obs, ht, -⟩ := announceAbort_talks ha
    rw [if_neg (by rw [ht.cm, hdata]; simp)] at h
    cases h
    exact lostBy_runner ..
  cases e with
  | watchdogExpired => exact habort _ h1
  | socketError why => exact habort _ h1
  | schedWarning what => cases hf
  | exited => cases hf

end Device

namespace Stack

open Device

variable {s s' : Stack} {act : StackAct} {k : Nat} {w : RtWorld}

/-! ### What becomes of one thread -/

/-- A step that moves one thread, seen from another or from the same. -/
lemma Moved.cases {j : Nat} {ract : RtAct} {w₁ w₂ : RtWorld} (hm : s.Moved j ract w₁ w₂)
    (hw : s.threads[k]? = some w) :
    j ≠ k ∧ (s.threads.set j w₂)[k]? = some w ∨
      j = k ∧ w₁ = w ∧ (s.threads.set j w₂)[k]? = some w₂ := by
  by_cases hj : j = k
  · subst hj
    exact .inr ⟨rfl, Option.some.inj (hm.was.symm.trans hw),
      threads_set hw w₂⟩
  · exact .inl ⟨hj, (List.getElem?_set_ne hj).trans hw⟩

/-- A thread stays as it is, or makes a step of its own, or its owner makes one. -/
lemma Stepped.of_thread (h : Stepped s act s') (hw : s.threads[k]? = some w) :
    act.isOf k = false ∧ s'.threads[k]? = some w ∨
      ∃ ract w', act.isOf k = ract.ofThread ∧ s.Moved k ract w w' ∧
        s'.threads[k]? = some w' := by
  cases h with
  | call | tell | operated | drainedAlone | performed | startNone | start | stopNone | stop | join
  | timeout | read | expire | clear | drop | write => exact .inl ⟨rfl, hw⟩
  | spawn hpc hth =>
    exact .inl ⟨rfl, (List.getElem?_append_left (List.getElem?_eq_some_iff.1 hw).1).trans hw⟩
  | event hpc hn ht hh hm he ho =>
    rcases hm.cases hw with ⟨-, hsame⟩ | ⟨rfl, rfl, hset⟩
    · exact .inl ⟨rfl, hsame⟩
    · exact .inr ⟨_, _, rfl, hm, hset⟩
  | drained hpc hn ht hh hm hq =>
    rcases hm.cases hw with ⟨-, hsame⟩ | ⟨rfl, rfl, hset⟩
    · exact .inl ⟨rfl, hsame⟩
    · exact .inr ⟨_, _, rfl, hm, hset⟩
  | asked ha hm =>
    rcases hm.cases hw with ⟨-, hsame⟩ | ⟨rfl, rfl, hset⟩
    · exact .inl ⟨rfl, hsame⟩
    · refine .inr ⟨_, _, ?_, hm, hset⟩
      generalize s.pc = q at ha
      cases ha <;> rfl
  | thread hof hm =>
    rcases hm.cases hw with ⟨hj, hsame⟩ | ⟨rfl, rfl, hset⟩
    · exact .inl ⟨by simp [StackAct.isOf, hj], hsame⟩
    · exact .inr ⟨_, _, by simp [StackAct.isOf, hof], hm, hset⟩

/-- **A thread that is on its way out** stays on it, and each step it makes leaves it less to do. -/
lemma Stepped.left (h : Stepped s act s') (hw : s.threads[k]? = some w) (hg : w.Genuine)
    (hs : w.Stopped) : ∃ w', s'.threads[k]? = some w' ∧ w'.Genuine ∧ w'.Stopped ∧
      (act.isOf k).toNat + w'.left ≤ w.left := by
  rcases h.of_thread hw with ⟨hno, hsame⟩ | ⟨ract, w', hact, hm, hw'⟩
  · exact ⟨w, hsame, hg, hs, by simp [hno]⟩
  · have hd := RtWorld.step_did hm.step
    have hs' : (w.onImage s.device.image).Stopped := ⟨hs.stop, hs.wake⟩
    refine ⟨w', hw', hm.genuine hg, hd.stopped hs', ?_⟩
    obtain ⟨lay, th, hf, hr⟩ := hg.onImage s.device.image
    rw [hact]
    rcases hd.left (rt_safe hf hr) with ⟨hof, hlt⟩ | ⟨hof, hle⟩ | ⟨hno, -⟩
    · rw [hof, Bool.toNat_true]
      exact Nat.add_comm 1 w'.left ▸ hlt
    · rw [hof, Bool.toNat_false, Nat.zero_add]
      exact hle.le
    · cases hs'.stop.symm.trans hno

lemma run_left {acts : List StackAct} (hw : s.threads[k]? = some w) (hg : w.Genuine)
    (hs : w.Stopped) (hr : stackSystem.run s acts = some s') :
    ∃ w', s'.threads[k]? = some w' ∧ w'.Stopped ∧
      acts.countP (·.isOf k) + w'.left ≤ w.left := by
  induction acts generalizing s w with
  | nil =>
    cases hr
    exact ⟨w, hw, hs, by simp⟩
  | cons act acts ih =>
    obtain ⟨s₁, h₁, hr⟩ := System.run_cons.1 hr
    obtain ⟨w₁, hw₁, hg₁, hs₁, hle₁⟩ := (step_stepped h₁).left hw hg hs
    obtain ⟨w', hw', hs', hle⟩ := ih hw₁ hg₁ hs₁ hr
    refine ⟨w', hw', hs', ?_⟩
    rw [List.countP_cons]
    cases hb : act.isOf k <;> simp only [hb, Bool.toNat_true, Bool.toNat_false] at hle₁ ⊢ <;>
      simp <;> omega

/-- The loss of the AR is told next. -/
def Losing (s : Stack) : Prop := s.pc = .loop ∧ ∃ r cbs, s.notify = (.idle, some r) :: cbs

/-- While the device is there, a thread is behind the handle only in `Data`, or until its loss is
dealt with. -/
lemma Upright.handle (h : s.Upright) (hh : s.handle = some k) (hd : s.dropped = false) :
    s.device.runner = true ∧ s.device.cm.ar.state = .data ∨ s.Losing ∨
      s.pc = .stop ∧ ∃ r, s.told.getLast? = some (.idle, some r) := by
  have ht := h.tied
  cases hpc : s.pc with
  | loop =>
    rw [Tied, hpc] at ht
    rcases ht with ⟨-, hr, -⟩ | ⟨-, -, r, cbs, hn, -⟩ | ⟨-, hnone, -⟩
    · have hrun : s.device.runner = true := by rw [hr hd, hh]; rfl
      exact .inl ⟨hrun, (h.running hd).life.runner hrun⟩
    · exact .inr (.inl ⟨hpc, r, cbs, hn⟩)
    · cases hh.symm.trans hnone
  | stop =>
    rw [Tied, hpc] at ht
    exact .inr (.inr ⟨rfl, (ht.2 hd).2⟩)
  | start | spawn | flag | wake | join | read | expire | clear | dropFlag | dropWake =>
    cases hh.symm.trans (ht.handle_none (by simp [hpc]) (by simp [hpc]))

lemma Role.Fits.stop {r : Role} (h : r.Fits w) (hr : r ≠ .held) : w.shared.stop = true := by
  cases r with
  | held => exact absurd rfl hr
  | flagged => exact h.1
  | woken => exact h.1.stop
  | again => exact h.1.stop

/-- A thread that was asked to stop and woken is on its way out. -/
lemma Crew.stopped (hc : s.Crew) (hw : s.threads[k]? = some w) (hstop : w.shared.stop = true)
    (hpc : s.pc ≠ .wake k) : w.Genuine ∧ w.Stopped := by
  obtain ⟨hg, hfits⟩ := hc k w hw
  refine ⟨hg, ?_⟩
  unfold role at hfits
  split_ifs at hfits with hheld hwake
  · cases hfits.1.symm.trans hstop
  · exact hfits.1
  · exact hfits.1

/-! ### A thread that fails -/

/-- Nothing fatal was taken from the thread behind the handle, while the device counts on it. -/
def Mild (s : Stack) : Prop :=
  s.dropped = false → s.device.runner = true → ∀ k, s.handle = some k →
    ∃ w, s.threads[k]? = some w ∧ ∀ e ∈ w.taken, e.isFatal = false

lemma Stepped.mild (h : Stepped s act s') (hu : s.Upright) (hm : s.Mild) : s'.Mild := by
  intro hd' hr' k hh'
  cases h with
  | call | tell | performed | drainedAlone | startNone | start | stopNone | join | timeout | read
  | expire | clear | write => exact hm hd' hr' k hh'
  | operated hpc hn ht ho =>
    exact hm hd' (hu.tied.runner_of_handle hpc hn hd' hh') k hh'
  | @event boot now spawns todo j w₁ w₂ e r hpc hn ht hh hw he ho =>
    obtain rfl : j = k := Option.some.inj (hh.symm.trans hh')
    obtain ⟨w, hw', hmild⟩ := hm hd' (hu.tied.runner_of_handle hpc hn hd' hh) j hh
    obtain rfl := Option.some.inj (hw'.symm.trans hw.was)
    refine ⟨w₂, threads_set hw' w₂, ?_⟩
    rw [((RtWorld.step_did hw.step).head he).1]
    intro e' he'
    rcases List.mem_append.1 he' with he' | he'
    · exact hmild e' he'
    · -- the device would not count on the thread any more
      obtain rfl := List.mem_singleton.1 he'
      by_contra hfatal
      have hgone := operate_fatal (hu.running hd').life (Bool.not_eq_false _ ▸ hfatal) ho
      cases hgone.symm.trans hr'
  | drained hpc hn ht hh hw hq =>
    obtain ⟨w, hw', hmild⟩ := hm hd' hr' k hh'
    rcases hw.cases hw' with ⟨-, hsame⟩ | ⟨-, rfl, hset⟩
    · exact ⟨w, hsame, hmild⟩
    · exact ⟨_, hset, by rw [(RtWorld.step_did hw.step).head_none hq]; exact hmild⟩
  | spawn hpc hth =>
    cases hh'
    exact ⟨_, List.getElem?_concat_length, by simp [RtWorld.spawned]⟩
  | stop hpc hh => cases hh'
  | asked ha hw => cases (Tied.asked ha hu.tied).2.1.symm.trans hh'
  | drop hf => cases hd'
  | thread ha hw =>
    obtain ⟨w, hw', hmild⟩ := hm hd' hr' k hh'
    rcases hw.cases hw' with ⟨-, hsame⟩ | ⟨-, rfl, hset⟩
    · exact ⟨w, hsame, hmild⟩
    · exact ⟨_, hset, by rw [((RtWorld.step_did hw.step).ofThread ha).1]; exact hmild⟩

/-- What holds in every state, as far as failing threads are concerned. -/
structure Alert (s : Stack) : Prop where
  upright : s.Upright
  crew : s.Crew
  mild : s.Mild

lemma Stepped.alert (h : Stepped s act s') (ha : s.Alert) : s'.Alert :=
  ⟨h.upright ha.upright, h.crew ha.upright ha.crew, h.mild ha.upright ha.mild⟩

theorem reach_alert (h : stackSystem.Reach s) : s.Alert := by
  refine h.inv ?_ fun s act s' ha hst => (step_stepped hst).alert ha
  rintro s ⟨setup, rfl⟩
  exact ⟨new_upright setup, by simp [Crew, new], by simp [Mild, new]⟩

/-- A fatal event waits to be taken from the thread the device counts on. -/
def Pressing (s : Stack) : Prop :=
  s.device.runner = true ∧ ∃ k w, s.handle = some k ∧ s.threads[k]? = some w ∧
    ∃ e ∈ w.shared.queue, e.isFatal = true

/-- The loss was told after the first `n` callbacks. -/
def Lost (n : Nat) (s : Stack) : Prop := ∃ r, (.idle, some r) ∈ s.told.drop n

lemma Stepped.told (h : Stepped s act s') : s.told <+: s'.told := by
  cases h with
  | tell => exact List.prefix_append _ _
  | _ => exact List.prefix_rfl

lemma Stepped.dropped (h : Stepped s act s') (hd : s'.dropped = false) : s.dropped = false := by
  cases h with
  | drop => cases hd
  | _ => exact hd

lemma Lost.mono {n : Nat} (hl : Lost n s) (h : s.told <+: s'.told) : Lost n s' := by
  obtain ⟨r, hr⟩ := hl
  obtain ⟨cbs, hcbs⟩ := h
  refine ⟨r, ?_⟩
  rw [← hcbs, List.drop_append]
  exact List.mem_append_left _ hr

/-- What is to be told is told. -/
lemma Losing.step {n : Nat} (hl : s.Losing) (hn : n ≤ s.told.length) (h : Stepped s act s') :
    s'.drained = s.drained ∧ (Lost n s' ∨ s'.Losing) := by
  obtain ⟨hpc, r, cbs, hnotify⟩ := hl
  cases h with
  | call hf _ | drop hf => cases hf.2.1.symm.trans hnotify
  | tell _ hn' =>
    cases hn'.symm.trans hnotify
    refine ⟨rfl, .inl ⟨r, ?_⟩⟩
    show (ArState.idle, some r) ∈ (s.told ++ [(ArState.idle, some r)]).drop n
    rw [List.drop_append_of_le_length hn]
    simp
  | operated _ hn' _ _ | event _ hn' _ _ _ _ _ | drained _ hn' _ _ _ _ | drainedAlone _ hn' _ _
  | performed _ hn' _ => cases hn'.symm.trans hnotify
  | startNone hpc' _ | start hpc' _ | spawn hpc' _ | stopNone hpc' _ | stop hpc' _ | join hpc' _ _
  | timeout hpc' | read hpc' _ | expire hpc' | clear hpc' => cases hpc'.symm.trans hpc
  | asked ha _ =>
    rw [hpc] at ha
    cases ha
  | thread _ _ => exact ⟨rfl, .inr ⟨hpc, r, cbs, hnotify⟩⟩
  | write _ _ => exact ⟨rfl, .inr ⟨hpc, r, cbs, hnotify⟩⟩

/-- A thread the device counts on is in no `dispatch` that concerns it. -/
lemma Pressing.loop (hp : s.Pressing) (hu : s.Upright) (hd : s.dropped = false) :
    s.pc = .loop := by
  obtain ⟨hr, k, w, hh, -⟩ := hp
  have ht := hu.tied
  cases hpc : s.pc with
  | loop => rfl
  | stop =>
    rw [Tied, hpc] at ht
    cases (ht.2 hd).1.symm.trans hr
  | start | spawn | flag | wake | join | read | expire | clear | dropFlag | dropWake =>
    cases hh.symm.trans (ht.handle_none (by simp [hpc]) (by simp [hpc]))

/-- An operation keeps the thread, or the loss is told next. -/
lemma operated_losing {todo : List Task} {r : Device × List Batch} (hpc : s.pc = .loop)
    (hr : s.device.runner = true) (hf : Fate s.device r.1 (s.operated todo r).notify) :
    (s.operated todo r).Losing ∨ r.1.runner = true := by
  generalize hc : (s.operated todo r).notify = cbs at hf
  cases hf with
  | kept hrunner himage hlay => exact .inr (hrunner.trans hr)
  | lost reason hrunner himage => exact .inl ⟨hpc, reason, _, hc⟩
  | takeover reason hrunner himage => exact .inl ⟨hpc, reason, _, hc⟩
  | connected hnone _ _ => cases hnone.symm.trans hr
  | entered hnone _ _ => cases hnone.symm.trans hr

/-- **A fatal event is seen to** before the acyclic thread finds the queue empty. -/
lemma Pressing.step (hp : s.Pressing) (hu : s.Upright) (h : Stepped s act s')
    (hd : s'.dropped = false) : s'.drained = s.drained ∧ (s'.Losing ∨ s'.Pressing) := by
  have hup := h.dropped hd
  have hpc := hp.loop hu hup
  have hpressing := hp
  obtain ⟨hr, k, w, hh, hw, e, he, hfatal⟩ := hp
  cases h with
  | call | performed | write => exact ⟨rfl, .inr hpressing⟩
  | tell => exact ⟨rfl, .inr hpressing⟩
  | @operated boot o todo r _ hn ht ho =>
    have hop := (ht.own hu.own).1
    have hf := ((hu.running hup).operated todo hn hop ho).2
    exact ⟨rfl, (operated_losing hpc hr hf).imp_right fun hr' => ⟨hr', k, w, hh, hw, e, he, hfatal⟩⟩
  | @event boot now spawns todo j w₁ w₂ e' r _ hn ht hh' hm he' ho =>
    obtain rfl : j = k := Option.some.inj (hh'.symm.trans hh)
    obtain rfl := Option.some.inj (hm.was.symm.trans hw)
    have hrun := (hu.running hup).withThread (k := j) (w := w₂)
    have ho' := ho
    rw [← hm.device rfl (by simp)] at ho'
    have hf := (hrun.operated s.todo hn (by simp) ho').2
    refine ⟨rfl, (operated_losing (s := s.withThread j w₂) hpc hr hf).imp_right fun hr' => ?_⟩
    -- what was taken was not fatal, so what is fatal is still there
    have hqueue := ((RtWorld.step_did hm.step).head he').2
    rw [show w₁.shared.queue = _ from hqueue] at he
    rcases List.mem_cons.1 he with rfl | he
    · cases (operate_fatal (hu.running hup).life hfatal ho).symm.trans hr'
    · exact ⟨hr', j, w₂, hh, threads_set hw w₂, e, he, hfatal⟩
  | drained _ _ _ hh' hm hnone =>
    cases hh'.symm.trans hh
    cases hm.was.symm.trans hw
    rw [hnone] at he
    cases he
  | drainedAlone _ _ _ hnone => cases hnone.symm.trans hh
  | startNone hpc' _ | start hpc' _ | spawn hpc' _ | stopNone hpc' _ | stop hpc' _ | join hpc' _ _
  | timeout hpc' | read hpc' _ | expire hpc' | clear hpc' => cases hpc'.symm.trans hpc
  | asked ha _ =>
    rw [hpc] at ha
    cases ha
  | drop hf => cases hd
  | thread ha hm =>
    refine ⟨rfl, .inr ⟨hr, k, ?_⟩⟩
    rcases hm.cases hw with ⟨-, hsame⟩ | ⟨-, rfl, hset⟩
    · exact ⟨w, hh, hsame, e, he, hfatal⟩
    · exact ⟨_, hh, hset, e, ((RtWorld.step_did hm.step).ofThread ha).2.subset he, hfatal⟩

/-- Sooner or later the loss is told. -/
def Due (n : Nat) (s : Stack) : Prop := Lost n s ∨ s.Losing ∨ s.Pressing

lemma Due.step {n : Nat} (hdue : Due n s) (ha : s.Alert) (hn : n ≤ s.told.length)
    (h : Stepped s act s') (hd : s'.dropped = false) :
    Due n s' ∧ (s.drained < s'.drained → Lost n s') := by
  rcases hdue with hl | hl | hp
  · exact ⟨.inl (hl.mono h.told), fun _ => hl.mono h.told⟩
  · obtain ⟨hsame, hthen⟩ := hl.step hn h
    exact ⟨hthen.imp_right .inl, fun hlt => absurd hsame hlt.ne'⟩
  · obtain ⟨hsame, hthen⟩ := hp.step ha.upright h hd
    exact ⟨.inr hthen, fun hlt => absurd hsame hlt.ne'⟩

lemma dropped_run {acts : List StackAct} (hr : stackSystem.run s acts = some s')
    (hd : s'.dropped = false) : s.dropped = false := by
  induction acts generalizing s with
  | nil =>
    cases hr
    exact hd
  | cons act acts ih =>
    obtain ⟨s₁, h₁, hr⟩ := System.run_cons.1 hr
    exact (step_stepped h₁).dropped (ih hr)

/-- A run in which the queue was found empty has told the loss. -/
lemma Due.run {n : Nat} {acts : List StackAct} (hdue : Due n s) (ha : s.Alert)
    (hn : n ≤ s.told.length) (hr : stackSystem.run s acts = some s') (hd : s'.dropped = false) :
    Due n s' ∧ (s.drained < s'.drained → Lost n s') ∧ s.told <+: s'.told := by
  induction acts generalizing s with
  | nil =>
    cases hr
    exact ⟨hdue, fun hlt => absurd hlt (Nat.lt_irrefl _), List.prefix_rfl⟩
  | cons act acts ih =>
    obtain ⟨s₁, h₁, hr⟩ := System.run_cons.1 hr
    have hstep := step_stepped h₁
    have hgrows := hstep.told
    obtain ⟨hdue₁, hlost₁⟩ := hdue.step ha hn hstep (dropped_run hr hd)
    obtain ⟨hdue', hlost, hprefix⟩ := ih hdue₁ (hstep.alert ha) (hn.trans hgrows.length_le) hr
    refine ⟨hdue', fun hlt => ?_, hgrows.trans hprefix⟩
    rcases Nat.lt_or_ge s.drained s₁.drained with hfirst | hlater
    · exact (hlost₁ hfirst).mono hprefix
    · exact hlost (hlater.trans_lt hlt)

/-- A thread that failed, or is no longer there, has left a fatal event in its queue. -/
lemma Alert.pressing (ha : s.Alert) (hd : s.dropped = false) (hr : s.device.runner = true)
    (hh : s.handle = some k) (hw : s.threads[k]? = some w)
    (hf : w.shared.running = false ∨ ∃ e ∈ w.pushed, e.isFatal = true) :
    s.Pressing ∧ 0 < w.shared.eventFd := by
  obtain ⟨hg, hfits⟩ := ha.crew k w hw
  rw [show s.role k = .held by simp [role, hh]] at hfits
  obtain ⟨e, he, hfatal⟩ : ∃ e ∈ w.pushed, e.isFatal = true :=
    hf.elim (fun hrun => hg.fatal_of_gone hrun hfits.1) id
  obtain ⟨w₁, hw₁, hmild⟩ := ha.mild hd hr k hh
  obtain rfl := Option.some.inj (hw.symm.trans hw₁)
  obtain ⟨lay, th, -, hreach⟩ := hg
  have hbell := rt_bell hreach
  rw [← hbell.fifo] at he
  rcases List.mem_append.1 he with he | he
  · cases (hmild e he).symm.trans hfatal
  · exact ⟨⟨hr, k, w, hh, hw, e, he, hfatal⟩, hbell.rings.2 (List.ne_nil_of_mem he)⟩

end Stack

/-! ### A device whose thread fails -/

namespace StackDemo

def boot : RtBoot := default

/-- A step that finds these datagrams of the controller, for `n` steps of the acyclic thread. -/
def recv (bufs : List Bytes) (n : Nat) : List StackAct :=
  .call (.step ⟨0, [], [], bufs.map (⟨·, Demo.plc, true⟩), [], true⟩) ::
    List.replicate n (.go boot)

/-- The controller brings its AR up, and the thread comes to wait. -/
def bringUp : List StackAct :=
  recv [Demo.connect 0 1] 9 ++ recv [Demo.prmEnd 1 1] 8 ++ recv [Demo.answer 0] 11 ++
    [.thread 0 ThreadDemo.setup, .thread 0 .go, .thread 0 .go]

/-- The first frame cannot be sent. -/
def failed : List StackAct :=
  bringUp ++ [.thread 0 ThreadDemo.ticked, .thread 0 .go, .thread 0 ThreadDemo.badTick,
    .thread 0 .go, .thread 0 .go, .thread 0 .go]

/-- A step that finds nothing new on the wire. -/
def look : List StackAct := recv [] 19

lemma exists_failed : ∃ s w s', stackSystem.Reach s ∧ s.Free ∧ s.todo = [] ∧ s.handle = some 0 ∧
    s.threads[0]? = some w ∧ w.shared.running = false ∧ s.told.getLast? = some (.data, none) ∧
    stackSystem.run s look = some s' ∧ s'.dropped = false ∧ s.drained < s'.drained := by
  have hrun : (stackSystem.run (.new DeviceDemo.setup) failed).any (fun s =>
      decide s.Free && s.todo.isEmpty && s.handle == some 0 &&
        s.threads[0]?.any (fun w => !w.shared.running) &&
        s.told.getLast? == some (.data, none) &&
        (stackSystem.run s look).any fun s' => !s'.dropped && s.drained < s'.drained) = true := by
    decide +kernel
  obtain ⟨s, hs, hp⟩ := System.exists_reach_of_run (S := stackSystem) ⟨_, rfl⟩ hrun
  simp only [Bool.and_eq_true, beq_iff_eq, decide_eq_true_eq, List.isEmpty_iff] at hp
  obtain ⟨⟨⟨⟨⟨hf, ht⟩, hh⟩, hw⟩, hlast⟩, hp⟩ := hp
  obtain ⟨w, hw, hrunning⟩ := (Option.any_eq_true _ _).1 hw
  obtain ⟨s', hs', hp⟩ := (Option.any_eq_true _ _).1 hp
  simp only [Bool.and_eq_true, Bool.not_eq_true', decide_eq_true_eq] at hp hrunning
  exact ⟨s, w, s', hs, hf, ht, hh, hw, hrunning, hlast, hs', hp.1, hp.2⟩

end StackDemo

/-- **A thread never fails silently.** Once the RT thread behind the handle has reported an expired
watchdog or a failed socket, or is gone for whatever reason, its doorbell rings, unless the device
has heard it and the loss of the AR is what it tells next; and the application has been told of the
loss by the time the acyclic thread has once more found no events, if it was not told before. All
this however the threads, the application and the calls interleave, as long as the device is not
dropped. And the acyclic thread gets there: between two calls it needs nobody to take the next call
to its end. -/
theorem rt_failure_ends_ar {s : Stack} {k : Nat} {w : RtWorld} (h : stackSystem.Reach s)
    (hup : s.dropped = false) (hh : s.handle = some k) (hw : s.threads[k]? = some w)
    (hf : w.shared.running = false ∨ ∃ e ∈ w.pushed, e.isFatal = true) :
    ((∃ r, s.told.getLast? = some (.idle, some r)) ∨
      (0 < w.shared.eventFd ∨ ∃ r, (.idle, some r) ∈ s.notify) ∧
        ∀ acts s', stackSystem.run s acts = some s' → s'.dropped = false →
          s.drained < s'.drained → ∃ cbs r, s'.told = s.told ++ cbs ∧ (.idle, some r) ∈ cbs) ∧
    (s.Free → s.todo = [] → ∀ c, s.Completes c) := by
  have ha := Stack.reach_alert h
  have hlost : Stack.Due s.told.length s → ∀ acts s', stackSystem.run s acts = some s' →
      s'.dropped = false → s.drained < s'.drained →
      ∃ cbs r, s'.told = s.told ++ cbs ∧ (.idle, some r) ∈ cbs := by
    intro hdue acts s' hr hup' hdrained
    obtain ⟨-, hlost, cbs, hcbs⟩ := hdue.run ha (le_refl _) hr hup'
    obtain ⟨r, hr⟩ := hlost hdrained
    rw [← hcbs, List.drop_left] at hr
    exact ⟨cbs, r, hcbs.symm, hr⟩
  refine ⟨?_, fun hfree ht c => Stack.call_alone c h hfree ht⟩
  rcases ha.upright.handle hh hup with ⟨hrunner, -⟩ | hl | ⟨-, htold⟩
  · obtain ⟨hp, hfd⟩ := ha.pressing hup hrunner hh hw hf
    exact .inr ⟨.inl hfd, hlost (.inr (.inr hp))⟩
  · have hlosing := hl
    obtain ⟨-, r, cbs, hn⟩ := hl
    exact .inr ⟨.inr ⟨r, by simp [hn]⟩, hlost (.inr (.inl hlosing))⟩
  · exact .inl htold

/-- The first frame of the thread could not be sent; the next step of the device tells. -/
theorem rt_failure_ends_ar_unsent : ∃ s w s', stackSystem.Reach s ∧ s.threads[0]? = some w ∧
    w.shared.running = false ∧ 0 < w.shared.eventFd ∧ (∀ c, s.Completes c) ∧
    stackSystem.run s StackDemo.look = some s' ∧
    ∃ cbs r, s'.told = s.told ++ cbs ∧ (.idle, some r) ∈ cbs := by
  obtain ⟨s, w, s', hs, hfree, ht, hh, hw, hrun, hlast, hs', hup, hdr⟩ := StackDemo.exists_failed
  obtain ⟨hend, hcomplete⟩ := rt_failure_ends_ar hs hfree.2.2 hh hw (.inl hrun)
  rcases hend with ⟨r, hr⟩ | ⟨hfd, htold⟩
  · rw [hlast] at hr
    cases hr
  · refine ⟨s, w, s', hs, hw, hrun, hfd.resolve_right fun ⟨r, hr⟩ => ?_, hcomplete hfree ht, hs',
      htold _ s' hs' hup hdr⟩
    rw [hfree.2.1] at hr
    cases hr

namespace StackDemo

/-- The AR comes up and is released in one call, and its thread comes to wait in between. -/
def brief : List StackAct :=
  recv [Demo.connect 0 1] 9 ++ recv [Demo.prmEnd 1 1] 8 ++
    recv [Demo.answer 0, Demo.release 2 1] 6 ++
    [.thread 0 ThreadDemo.setup, .thread 0 .go, .thread 0 .go] ++
    List.replicate 5 (.go boot)

lemma exists_released : ∃ s w, stackSystem.Reach s ∧ s.pc = .join 0 ∧
    s.threads[0]? = some w ∧ w.phase = .polling ∧ w.shared.stop = true := by
  have hrun : (stackSystem.run (.new DeviceDemo.setup) brief).any (fun s => s.pc == .join 0 &&
      s.threads[0]?.any fun w => w.phase == .polling && w.shared.stop) = true := by
    decide +kernel
  obtain ⟨s, hs, hp⟩ := System.exists_reach_of_run (S := stackSystem) ⟨_, rfl⟩ hrun
  simp only [Bool.and_eq_true, beq_iff_eq] at hp
  obtain ⟨w, hw, hp'⟩ := (Option.any_eq_true _ _).1 hp.2
  simp only [Bool.and_eq_true, beq_iff_eq] at hp'
  exact ⟨s, w, hs, hp.1, hw, hp'.1, hp'.2⟩

end StackDemo

/-- **No thread is left behind.** Every thread that was ever spawned is behind the handle, or was
asked to stop, or is being asked next. It is behind the handle only while the AR is in `Data`, or
until its loss is told and the handle is taken; and nothing is behind the handle of a device that
was dropped. Every thread that was asked to stop and woken makes at most eight more steps, whatever
the others do, and can make the step it is at until it is gone. -/
theorem released_threads_end {s s' : Stack} {acts : List StackAct} (h : stackSystem.Reach s)
    (hr : stackSystem.run s acts = some s') :
    (∀ k w, s.threads[k]? = some w →
      s.handle = some k ∨ s.pc = .flag k ∨ w.shared.stop = true) ∧
    (s.handle.isSome → s.dropped = false → s.device.cm.ar.state = .data ∨
      (∃ r, (.idle, some r) ∈ s.notify) ∨ s.pc = .stop) ∧
    (s.dropped = true → s.pc = .loop → s.handle = none) ∧
    ∀ k w, s.threads[k]? = some w → w.shared.stop = true → s.pc ≠ .wake k →
      acts.countP (·.isOf k) ≤ 8 ∧ ∃ w', s'.threads[k]? = some w' ∧
        (w'.phase = .gone ∧ w'.todo = [] ∨ (∃ act, w'.Asks act) ∧
          ∀ act, w'.Asks act → ∃ s'', s'.step (.thread k act) = some s'') := by
  obtain ⟨hu, hc⟩ := Stack.reach_upright h
  refine ⟨fun k w hw => ?_, fun hh hd => ?_, fun hd hpc => ?_, fun k w hw hstop hpc => ?_⟩
  · by_cases hheld : s.handle = some k ∨ s.pc = .flag k
    · exact hheld.imp_right .inl
    · refine .inr (.inr ((hc k w hw).2.stop ?_))
      unfold Stack.role
      split_ifs <;> simp
  · obtain ⟨k, hk⟩ := Option.isSome_iff_exists.1 hh
    rcases hu.handle hk hd with ⟨-, hdata⟩ | ⟨-, r, cbs, hn⟩ | ⟨hpc, -⟩
    · exact .inl hdata
    · exact .inr (.inl ⟨r, by simp [hn]⟩)
    · exact .inr (.inr hpc)
  · have ht := hu.tied
    rw [Stack.Tied, hpc] at ht
    rcases ht with ⟨-, -, hnone⟩ | ⟨hno, -⟩ | ⟨hno, -⟩
    · exact hnone hd
    · cases hno.symm.trans hd
    · cases hno.symm.trans hd
  · obtain ⟨hg, hs⟩ := hc.stopped hw hstop hpc
    obtain ⟨w', hw', hs', hle⟩ := Stack.run_left hw hg hs hr
    obtain ⟨lay, th, hf, hreach⟩ := hg
    have hleft := rt_left_le hf hreach
    refine ⟨by omega, w', hw', ?_⟩
    rcases w'.exists_asks with hgone | hasks
    · exact .inl hgone
    · refine .inr ⟨hasks, fun act ha => ?_⟩
      have hstop' : (w'.onImage s'.device.image).Stopped := ⟨hs'.stop, hs'.wake⟩
      have hasks' : (w'.onImage s'.device.image).Asks act := by cases act <;> exact ha
      obtain ⟨w'', hs''⟩ := hstop'.steps hasks'
      have hof : act.ofThread = true := by
        cases act <;> first | rfl | exact ha.elim
      refine ⟨s'.withThread k w'', ?_⟩
      rw [Stack.step, if_pos hof, Stack.onThread, hw', Option.bind_eq_bind, Option.bind_some, hs'']
      rfl

/-- A thread whose AR came up and was released within one call of the device. -/
theorem released_threads_end_waiting : ∃ s w, stackSystem.Reach s ∧ s.threads[0]? = some w ∧
    w.phase = .polling ∧ w.shared.stop = true ∧
    ∀ acts s', stackSystem.run s acts = some s' → acts.countP (·.isOf 0) ≤ 8 := by
  obtain ⟨s, w, hs, hpc, hw, hpoll, hstop⟩ := StackDemo.exists_released
  refine ⟨s, w, hs, hw, hpoll, hstop, fun acts s' hr => ?_⟩
  exact ((released_threads_end hs hr).2.2.2 0 w hw hstop (by simp [hpc])).1

end Pnio
