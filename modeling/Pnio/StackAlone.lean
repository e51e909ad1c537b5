import Pnio.StackRun

/-!
The acyclic thread by itself. When nobody moves in between, the steps it takes from a call of the
device to the end of the call make of the device what the call makes of it in one go.
-/

namespace Pnio

/-- The call as an input of the device, with the events it finds. -/
def DeviceCall.input (events : List RtEvent) : DeviceCall → DeviceInput
  | .step i => .step { i with events }
  | .shutdown now spawns => .shutdown now spawns
  | .abortWithErrRta reason now spawns => .abortWithErrRta reason now spawns

/-- How often the call comes to the end of the events. -/
def DeviceCall.drains : DeviceCall → Nat
  | .step _ => 1
  | .shutdown .. | .abortWithErrRta .. => 0

instance : Inhabited RtBoot := ⟨⟨{}, .new, .new, .new, true⟩⟩

namespace Stack

open Device

variable {s t : Stack}

/-- The acyclic thread goes on, with nobody else moving. -/
def Alone : Stack → Stack → Prop :=
  Relation.ReflTransGen fun s t =>
    (∃ boot, stackSystem.step s (.go boot) = some t) ∨ stackSystem.step s .timeout = some t

lemma Alone.reach (h : Alone s t) (hr : stackSystem.Reach s) : stackSystem.Reach t := by
  induction h with
  | refl => exact hr
  | tail _ hst ih =>
    rcases hst with ⟨boot, hst⟩ | hst
    · exact .step ih trivial hst
    · exact .step ih trivial hst

lemma Alone.go (boot : RtBoot) (h : s.go boot = some t) : Alone s t := .single (.inl ⟨boot, h⟩)

/-- The handle is that of a thread. -/
lemma reach_held (h : stackSystem.Reach s) {k : Nat} (hh : s.handle = some k) :
    ∃ w, s.threads[k]? = some w := by
  have hlt : ∀ k, s.handle = some k → k < s.threads.length := by
    refine System.Reach.inv (I := fun s => ∀ k, s.handle = some k → k < s.threads.length) ?_ ?_ h
    · rintro s ⟨setup, rfl⟩ k hk
      cases hk
    · intro s act s' hi hst
      cases step_stepped hst with
      | spawn =>
        rintro k hk
        cases hk
        simp
      | stop => simp
      | event | drained | asked | thread => simpa [withThread, operated, onImage, moveTo] using hi
      | call | tell | operated | drainedAlone | performed | startNone | start | stopNone | join
      | timeout | read | expire | clear | drop | write => exact hi
  exact ⟨_, List.getElem?_eq_getElem (hlt k hh)⟩

/-! ### `dispatch` -/

/-- What the owner of a thread does changes the thread and nothing else. -/
lemma onThread_owner {k : Nat} {act : RtAct} {w w' : RtWorld} (hm : s.Moved k act w w')
    (ha : act.ofThread = false) (hi : ∀ im, act ≠ .image im) :
    s.onThread k act = some { s with threads := s.threads.set k w' } := by
  have hdev := hm.device ha hi
  have hsame : s.withThread k w' = { s with threads := s.threads.set k w' } := by
    simp only [withThread, onImage] at hdev ⊢
    rw [hdev]
  simp only [onThread, hm.was, hm.step, Option.bind_eq_bind, Option.bind_some, hsame]

lemma go_asks {boot : RtBoot} {k : Nat} {act : RtAct} {pc : Pc} {w w' : RtWorld}
    (ha : s.pc.Asks k act pc) (hm : s.Moved k act w w') :
    s.go boot = some { s with threads := s.threads.set k w', pc } := by
  generalize hpc : s.pc = q at ha
  cases ha <;> simp only [Stack.go, hpc, onThread_owner hm rfl (by simp), Option.map_some, moveTo]

/-- A thread is asked to stop: the flag and the wake-up, from `pc` to `pc''`. -/
lemma asked_alone (boot : RtBoot) {k : Nat} {w : RtWorld} {pc' pc'' : Pc}
    (hw : s.threads[k]? = some w) (hflag : s.pc.Asks k .storeStop pc')
    (hwake : pc'.Asks k .signalWake pc'') :
    ∃ w', Alone s { s with threads := s.threads.set k w', pc := pc'' } := by
  obtain ⟨w₁, hm₁, hne⟩ : ∃ w₁, s.Moved k .storeStop w w₁ ∧ w₁.stopping ≠ 0 :=
    ⟨_, ⟨hw, rfl⟩, Nat.succ_ne_zero _⟩
  obtain ⟨w₂, hm₂⟩ : ∃ w₂, Moved { s with threads := s.threads.set k w₁, pc := pc' } k .signalWake
      w₁ w₂ := ⟨_, threads_set hw w₁, if_neg hne⟩
  refine ⟨w₂, (Alone.go boot (go_asks hflag hm₁)).trans (Alone.go boot ?_)⟩
  rw [go_asks hwake hm₂, List.set_set]

/-- `stop_runner` with a thread behind the handle. -/
lemma stop_alone (boot : RtBoot) {k : Nat} {w : RtWorld} (hpc : s.pc = .stop)
    (hh : s.handle = some k) (hw : s.threads[k]? = some w) :
    ∃ w', Alone s { s with
      device := { s.device with image := staleImage s.device.image }
      handle := none
      threads := s.threads.set k w'
      pc := .loop } := by
  have htake : Alone s { s with handle := none, pc := .flag k } :=
    .go boot (by simp only [Stack.go, hpc, hh])
  obtain ⟨w₁, hasked⟩ := asked_alone (s := { s with handle := none, pc := .flag k }) boot hw
    (.flag k) (.wake k)
  -- nobody moves, so the wait ends by itself; the image is marked as stale and cleared
  have hjoined : Alone { s with handle := none, threads := s.threads.set k w₁, pc := .join k }
      { s with
        device := { s.device with image := staleImage s.device.image }
        handle := none
        threads := s.threads.set k w₁
        pc := .dropFlag k } :=
    (Relation.ReflTransGen.single (.inr rfl)).trans
      (.trans (Alone.go boot rfl) (.trans (Alone.go boot rfl) (Alone.go boot rfl)))
  obtain ⟨w₂, hdropped⟩ := asked_alone boot
    (s := { s with
      device := { s.device with image := staleImage s.device.image }
      handle := none
      threads := s.threads.set k w₁
      pc := .dropFlag k }) (threads_set hw w₁) (.dropFlag k) (.dropWake k)
  rw [List.set_set] at hdropped
  exact ⟨w₂, htake.trans (hasked.trans (hjoined.trans hdropped))⟩

/-- The end of `dispatch`: the device is `d`, and the call can go on. -/
structure Settled (s : Stack) (d : Device) (t : Stack) : Prop where
  run : Alone s t
  free : t.Free
  device : t.device = d
  pending : t.pending = s.pending
  todo : t.todo = s.todo
  drained : t.drained = s.drained
  quiet : s.notify = [] → t = s

/-- The loss of an AR is told, and its thread let go. -/
lemma lost_alone (boot : RtBoot) {r : AbortReason}
    {cbs : List (ArState × Option AbortReason)} (hr : stackSystem.Reach s) (hpc : s.pc = .loop)
    (hn : s.notify = (.idle, some r) :: cbs) :
    ∃ threads, Alone s { s with
      device := { s.device with
        image := if s.handle.isSome then staleImage s.device.image else s.device.image }
      told := s.told ++ [(.idle, some r)]
      notify := cbs
      handle := none
      threads
      pc := .loop } := by
  have htold : Alone s { s with told := s.told ++ [(.idle, some r)], notify := cbs, pc := .stop } :=
    .go boot (by simp only [Stack.go, hpc, hn, Pc.after])
  cases hh : s.handle with
  | none =>
    refine ⟨s.threads, htold.trans (Alone.go boot ?_)⟩
    simp [Stack.go, hh, moveTo]
  | some k =>
    obtain ⟨w, hw⟩ := reach_held hr hh
    obtain ⟨w', hstop⟩ := stop_alone boot
      (s := { s with told := s.told ++ [(.idle, some r)], notify := cbs, pc := .stop }) rfl hh hw
    exact ⟨_, htold.trans hstop⟩

/-- There is a thread for every layout. -/
lemma exists_newThread (boot : RtBoot) {d : Device} {lay : Layout} (h : d.layout = some lay) :
    ∃ th, d.newThread boot = some th := by
  have hl := h
  unfold Device.layout at hl
  split_ifs at hl
  obtain ⟨params, hp, -⟩ := Option.bind_eq_some_iff.1 hl
  exact ⟨_, by rw [newThread, hp, h]; rfl⟩

/-- An AR that has come up is told, and its thread started. -/
lemma entered_alone (boot : RtBoot) (hpc : s.pc = .loop) (hn : s.notify = [(.data, none)]) :
    ∃ handle threads, Alone s { s with
      device := { s.device with
        image := (s.device.layout.map s.device.image.rebuild).getD s.device.image }
      told := s.told ++ [(.data, none)]
      notify := []
      handle
      threads
      pc := .loop } := by
  have htold : Alone s { s with told := s.told ++ [(.data, none)], notify := [], pc := .start } :=
    .go boot (by simp only [Stack.go, hpc, hn, Pc.after])
  cases hl : s.device.layout with
  | none =>
    refine ⟨s.handle, s.threads, htold.trans (Alone.go boot ?_)⟩
    simp [Stack.go, hl, moveTo]
  | some lay =>
    have hstart : Alone { s with told := s.told ++ [(.data, none)], notify := [], pc := .start }
        { s with
          device := { s.device with image := s.device.image.rebuild lay }
          told := s.told ++ [(.data, none)]
          notify := []
          pc := if s.device.runner then .spawn else .loop } := by
      refine Alone.go boot ?_
      simp [Stack.go, hl, moveTo, onImage]
    cases hr : s.device.runner with
    | false =>
      rw [hr] at hstart
      exact ⟨s.handle, s.threads, htold.trans hstart⟩
    | true =>
      rw [hr] at hstart
      obtain ⟨th, hth⟩ := exists_newThread boot
        (d := { s.device with image := s.device.image.rebuild lay }) hl
      refine ⟨some s.threads.length, s.threads ++ [.spawned th],
        htold.trans (hstart.trans (Alone.go boot ?_))⟩
      simp only [Stack.go, if_true, hth, Option.map_some]
      rfl

/-- **`dispatch` alone** makes of the image, the thread and the handle what the operation made of
the device. -/
lemma dispatch_alone (boot : RtBoot) {d d' : Device} (hr : stackSystem.Reach s)
    (hpc : s.pc = .loop) (hd : s.dropped = false) (hdev : s.device = { d' with image := d.image })
    (hrun : d.runner = s.handle.isSome) (hf : Fate d d' s.notify) : ∃ t, s.Settled d' t := by
  generalize hn : s.notify = cbs at hf
  cases hf with
  | kept hrunner himage hlay =>
    refine ⟨s, .refl, ⟨hpc, hn, hd⟩, ?_, rfl, rfl, rfl, fun _ => rfl⟩
    rw [hdev, ← himage]
  | connected hnone hrunner himage =>
    have htold : Alone s { s with
        told := s.told ++ [(.connected, none)]
        notify := []
        pc := .loop } := .go boot (by simp only [Stack.go, hpc, hn, Pc.after])
    refine ⟨_, htold, ⟨rfl, rfl, hd⟩, ?_, rfl, rfl, rfl, by simp [hn]⟩
    rw [hdev, ← himage]
  | lost r hrunner himage =>
    obtain ⟨threads, hlost⟩ := lost_alone boot hr hpc hn
    refine ⟨_, hlost, ⟨rfl, rfl, hd⟩, ?_, rfl, rfl, rfl, by simp [hn]⟩
    rw [hdev, ← hrun, ← himage]
  | takeover r hrunner himage =>
    obtain ⟨threads, hlost⟩ := lost_alone boot hr hpc hn
    refine ⟨_, hlost.trans (Alone.go boot rfl), ⟨rfl, rfl, hd⟩, ?_, rfl, rfl, rfl, by simp [hn]⟩
    rw [hdev, ← hrun, ← himage]
  | entered hnone hlay himage =>
    obtain ⟨handle, threads, hentered⟩ := entered_alone boot hpc hn
    refine ⟨_, hentered, ⟨rfl, rfl, hd⟩, ?_, rfl, rfl, rfl, by simp [hn]⟩
    have hl : s.device.layout = d'.layout := by rw [hdev]; rfl
    rw [hl, hdev, ← himage]

/-! ### The tasks of a call -/

/-- What the acyclic thread finds when it takes the events. -/
def events (s : Stack) : List RtEvent :=
  ((s.handle.bind (s.threads[·]?)).map (·.shared.queue.map RtThreadEvent.toDevice)).getD []

/-- The acyclic thread, alone, is at its task list again: with the device `r.1` and the deferred
`r.2`, and `todo` is left; it has come to the end of the events `n` times. -/
structure Comes (s : Stack) (r : Device × List Batch) (todo : List Task) (n : Nat) (t : Stack) :
    Prop where
  run : Alone s t
  free : t.Free
  state : (t.device, t.pending) = r
  todo : t.todo = todo
  drained : t.drained = s.drained + n

lemma Comes.trans {r r' : Device × List Batch} {todo todo' : List Task} {n n' : Nat}
    (h : s.Comes r todo n t) {t' : Stack} (h' : t.Comes r' todo' n' t') :
    s.Comes r' todo' (n + n') t' :=
  ⟨h.run.trans h'.run, h'.free, h'.state, h'.todo, by rw [h'.drained, h.drained, Nat.add_assoc]⟩

/-- An operation, from where it was done. If it keeps the thread, there was nothing to tell. -/
lemma operated_alone (boot : RtBoot) {o : DeviceOp} {todo : List Task} {r : Device × List Batch}
    (hu : s.Upright) (hf : s.Free) (hop : ∀ op, o ≠ .image op)
    (ho : Device.operate (s.device, s.pending) o = some r)
    (hr : stackSystem.Reach (s.operated todo r)) :
    ∃ t, (s.operated todo r).Comes r todo 0 t ∧
      (s.handle.isSome → r.1.runner = true → t = s.operated todo r) := by
  obtain ⟨hpc, hn, hd⟩ := hf
  have hrunner := hu.tied.runner hpc hn hd
  obtain ⟨-, hfate⟩ := (hu.running hd).operated todo hn hop ho
  obtain ⟨t, ht⟩ := dispatch_alone boot hr hpc hd rfl hrunner hfate
  refine ⟨t, ⟨ht.run, ht.free, ?_, ht.todo, ht.drained⟩, fun hh hkept => ht.quiet ?_⟩
  · rw [ht.device, ht.pending]
    rfl
  · rw [hh] at hrunner
    generalize (s.operated todo r).notify = cbs at hfate
    cases hfate with
    | kept => rfl
    | connected hnone | entered hnone => cases hnone.symm.trans hrunner
    | lost _ hno | takeover _ hno => cases hno.symm.trans hkept

lemma go_next {boot : RtBoot} {o : DeviceOp} {todo : List Task} {r : Device × List Batch}
    (hf : s.Free) (ht : s.Next o todo) (ho : Device.operate (s.device, s.pending) o = some r) :
    s.go boot = some (s.operated todo r) := by
  obtain ⟨hpc, hn, -⟩ := hf
  cases ht with
  | op h => simp only [Stack.go, hpc, hn, work, h, Stack.operate, ho, Option.map_some]
  | perform h =>
    cases hp : s.pending with
    | nil =>
      rw [hp] at ho
      cases ho
    | cons b ps =>
      simp only [Stack.go, hpc, hn, work, h, hp, Stack.operate]
      rw [← hp, ho, Option.map_some]

lemma op_alone (boot : RtBoot) {o : DeviceOp} {todo : List Task} {r : Device × List Batch}
    (hr : stackSystem.Reach s) (hf : s.Free) (ht : s.Next o todo)
    (ho : Device.operate (s.device, s.pending) o = some r) : ∃ t, s.Comes r todo 0 t := by
  have hgo : s.go boot = some (s.operated todo r) := go_next hf ht ho
  have hr' : stackSystem.Reach (s.operated todo r) := .step hr (i := .go boot) trivial hgo
  obtain ⟨hu, -⟩ := reach_upright hr
  obtain ⟨t, ht, -⟩ := operated_alone boot hu hf (ht.own hu.own).1 ho hr'
  exact ⟨t, (Alone.go boot hgo).trans ht.run, ht.free, ht.state, ht.todo, ht.drained⟩

/-- Operations one after the other. -/
lemma ops_alone (boot : RtBoot) {ops : List DeviceOp} {todo : List Task}
    {r : Device × List Batch} (hr : stackSystem.Reach s) (hf : s.Free)
    (ht : s.todo = ops.map .op ++ todo)
    (ho : ops.foldlM Device.operate (s.device, s.pending) = some r) : ∃ t, s.Comes r todo 0 t := by
  induction ops generalizing s with
  | nil =>
    cases ho
    exact ⟨s, .refl, hf, rfl, ht, rfl⟩
  | cons o ops ih =>
    obtain ⟨r₁, h₁, ho⟩ := Option.bind_eq_some_iff.1 ((List.foldlM_cons ..).symm.trans ho)
    obtain ⟨t₁, hc⟩ := op_alone boot hr hf (.op ht) h₁
    rw [← hc.state] at ho
    obtain ⟨t, hc'⟩ := ih (hc.run.reach hr) hc.free hc.todo ho
    exact ⟨t, hc.trans hc'⟩

/-- What was deferred. -/
lemma perform_alone (boot : RtBoot) {now : Instant} {spawns : Bool} {todo : List Task} {d : Device}
    (hr : stackSystem.Reach s) (hf : s.Free) (ht : s.todo = .perform now spawns :: todo)
    (h : s.pending.foldlM
      (fun d b => applyAlarmActions (abortWithErrRta abortDepth now spawns) b d) s.device =
      (.ok d : Res Empty _)) : ∃ t, s.Comes (d, []) todo 0 t := by
  generalize hp : s.pending = ps at h
  induction ps generalizing s with
  | nil =>
    cases h
    refine ⟨{ s with todo }, Alone.go boot ?_, hf, ?_, rfl, rfl⟩
    · simp only [Stack.go, hf.1, hf.2.1, work, ht, hp]
    · rw [hp]
  | cons b ps ih =>
    obtain ⟨d₁, h₁, h⟩ := Res.bind_eq_ok.1 ((List.foldlM_cons ..).symm.trans h)
    have hop : Device.operate (s.device, s.pending) (.apply now spawns) = some (d₁, ps) := by
      rw [hp]
      exact Res.toOption_map_eq_some.2 ⟨d₁, h₁, rfl⟩
    obtain ⟨t₁, hc⟩ := op_alone boot hr hf (.perform ht) hop
    obtain ⟨hdev, hpend⟩ := Prod.mk.inj hc.state
    obtain ⟨t, hc'⟩ := ih (hc.run.reach hr) hc.free (hc.todo.trans ht) hpend (by rwa [hdev])
    exact ⟨t, hc.trans hc'⟩

lemma exists_take {k : Nat} {w : RtWorld} (hw : s.threads[k]? = some w) :
    ∃ w', s.Moved k .take w w' ∧ w'.shared.queue = w.shared.queue.tail := by
  cases hq : w.shared.queue with
  | nil =>
    have hs : (w.onImage s.device.image).step .take = some { w.onImage s.device.image with
        shared := { w.shared with queue := [], eventFd := 0 } } := by
      simp [RtWorld.step, RtWorld.ownerStep, RtWorld.onImage, RtShared.takeEvent, hq]
    exact ⟨_, ⟨hw, hs⟩, rfl⟩
  | cons e q =>
    have hs : (w.onImage s.device.image).step .take = some { w.onImage s.device.image with
        shared := { w.shared with
          queue := q
          eventFd := if q.isEmpty then 0 else w.shared.eventFd }
        taken := w.taken ++ [e] } := by
      simp [RtWorld.step, RtWorld.ownerStep, RtWorld.onImage, RtShared.takeEvent, hq]
    exact ⟨_, ⟨hw, hs⟩, rfl⟩

lemma drainRtEvents_of_none {now : Instant} {spawns : Bool} {evs : List RtEvent} {d : Device}
    (h : d.runner = false) : (drainRtEvents now spawns evs d : Res Empty _) = .ok d := by
  cases evs with
  | nil => rfl
  | cons e evs => rw [drainRtEvents, h, if_neg (by simp)]

/-- No thread, no events. -/
lemma drainNone_alone (boot : RtBoot) {now : Instant} {spawns : Bool} {todo : List Task}
    (hf : s.Free) (ht : s.todo = .drain now spawns :: todo) (hh : s.handle = none) :
    ∃ t, s.Comes (s.device, s.pending) todo 1 t := by
  refine ⟨{ s with todo, drained := s.drained + 1 }, Alone.go boot ?_, hf, rfl, rfl, rfl⟩
  simp only [Stack.go, hf.1, hf.2.1, work, ht, hh]

/-- An event is taken and seen to, and the drain is still the task at hand. The rest of the events
is there, unless the thread was let go. -/
lemma event_alone (boot : RtBoot) {now : Instant} {spawns : Bool} {todo : List Task} {k : Nat}
    {w : RtWorld} {e : RtThreadEvent} {q : List RtThreadEvent} {d : Device}
    (hr : stackSystem.Reach s) (hf : s.Free) (ht : s.todo = .drain now spawns :: todo)
    (hh : s.handle = some k) (hw : s.threads[k]? = some w) (hq : w.shared.queue = e :: q)
    (ho : Device.operate (s.device, s.pending) (.event now spawns e.toDevice) =
      some (d, s.pending)) :
    ∃ t, s.Comes (d, s.pending) s.todo 0 t ∧
      if d.runner then t.handle = some k ∧ ∃ w', t.threads[k]? = some w' ∧ w'.shared.queue = q
      else t.handle = none := by
  obtain ⟨w', hm, hq'⟩ := exists_take hw
  obtain ⟨hu, -⟩ := reach_upright hr
  let s₁ : Stack := { s with threads := s.threads.set k w' }
  have hgo : s.go boot = some (s₁.operated s.todo (d, s.pending)) := by
    simp only [Stack.go, hf.1, hf.2.1, work, ht, hh, hw, onThread_owner hm rfl (by simp),
      RtShared.takeEvent_snd, hq, List.head?_cons, Option.bind_eq_bind, Option.bind_some,
      Stack.operate, ho, Option.map_some, s₁]
  have hr₁ : stackSystem.Reach (s₁.operated s.todo (d, s.pending)) :=
    .step hr (i := .go boot) trivial hgo
  have hu₁ : s₁.Upright := hu.move rfl rfl (List.Subset.refl _) rfl rfl hu.tied
  obtain ⟨t, hc, hkept⟩ := operated_alone boot hu₁ hf (by simp) ho hr₁
  have hrun : Alone s t := (Alone.go boot hgo).trans hc.run
  refine ⟨t, ⟨hrun, hc.free, hc.state, hc.todo, hc.drained⟩, ?_⟩
  split_ifs with hrunner
  · obtain rfl := hkept (by simp [s₁, hh]) hrunner
    exact ⟨hh, w', threads_set hw w', by rw [hq', hq, List.tail_cons]⟩
  · obtain ⟨hpc, hn, hd⟩ := hc.free
    have hsome := (reach_upright (hrun.reach hr)).1.tied.runner hpc hn hd
    rw [(Prod.mk.inj hc.state).1, Bool.eq_false_of_not_eq_true hrunner] at hsome
    simpa using hsome.symm

/-- The events of the thread, up to the one that ends the AR. -/
lemma drain_alone (boot : RtBoot) {now : Instant} {spawns : Bool} {todo : List Task} {d : Device}
    (hr : stackSystem.Reach s) (hf : s.Free) (ht : s.todo = .drain now spawns :: todo)
    (h : (drainRtEvents now spawns s.events s.device : Res Empty _) = .ok d) :
    ∃ t, s.Comes (d, s.pending) todo 1 t := by
  cases hh : s.handle with
  | none =>
    have hnone : s.events = [] := by simp [events, hh]
    rw [hnone] at h
    cases h
    exact drainNone_alone boot hf ht hh
  | some k =>
    obtain ⟨w, hw⟩ := reach_held hr hh
    have hevents : s.events = w.shared.queue.map RtThreadEvent.toDevice := by simp [events, hh, hw]
    rw [hevents] at h
    clear hevents
    generalize hq : w.shared.queue = q at h
    induction q generalizing s w with
    | nil =>
      cases h
      obtain ⟨w', hm, -⟩ := exists_take hw
      refine ⟨{ s with threads := s.threads.set k w', todo, drained := s.drained + 1 },
        Alone.go boot ?_, hf, rfl, rfl, rfl⟩
      simp only [Stack.go, hf.1, hf.2.1, work, ht, hh, hw, onThread_owner hm rfl (by simp),
        RtShared.takeEvent_snd, hq, List.head?_nil, Option.bind_eq_bind, Option.bind_some]
    | cons e q ih =>
      obtain ⟨hu, -⟩ := reach_upright hr
      have hrunner := hu.tied.runner_of_handle hf.1 hf.2.1 hf.2.2 hh
      rw [List.map_cons, drainRtEvents, if_pos hrunner] at h
      obtain ⟨d₁, h₁, h⟩ := Res.bind_eq_ok.1 h
      have hop : Device.operate (s.device, s.pending) (.event now spawns e.toDevice) =
          some (d₁, s.pending) := by
        rw [Device.operate, if_pos hrunner]
        exact Res.toOption_map_eq_some.2 ⟨d₁, h₁, rfl⟩
      obtain ⟨t₁, hc, hthread⟩ := event_alone boot hr hf ht hh hw hq hop
      obtain ⟨hdev, hpend⟩ := Prod.mk.inj hc.state
      have hr₁ := hc.run.reach hr
      rw [← hpend]
      split_ifs at hthread with hrun
      · obtain ⟨hh₁, w₁, hw₁, hq₁⟩ := hthread
        rw [← hdev] at h
        obtain ⟨t, hc'⟩ := ih hr₁ hc.free (hc.todo.trans ht) hh₁ w₁ hw₁ hq₁ h
        exact ⟨t, hc.trans hc'⟩
      · -- the thread was let go, and whatever it had to say is not looked at
        cases (drainRtEvents_of_none (Bool.eq_false_of_not_eq_true hrun)).symm.trans h
        obtain ⟨t, hc'⟩ := drainNone_alone boot hc.free (hc.todo.trans ht) hthread
        rw [hdev] at hc'
        exact ⟨t, hc.trans hc'⟩

/-- The stages of a step after the first operations. -/
lemma stages_alone (boot : RtBoot) {i : StepInput} {d₂ d₃ d : Device} {ps : List Batch}
    (hr : stackSystem.Reach s) (hf : s.Free)
    (ht : s.todo = .drain i.now i.spawns :: (i.timerOps.map .op ++ [.perform i.now i.spawns]))
    (hevents : (drainRtEvents i.now i.spawns s.events s.device : Res Empty _) = .ok d₂)
    (htimers : i.timerOps.foldlM Device.operate (d₂, s.pending) = some (d₃, ps))
    (hpending : ps.foldlM
      (fun d b => applyAlarmActions (abortWithErrRta abortDepth i.now i.spawns) b d) d₃ =
      (.ok d : Res Empty _)) : ∃ t, s.Comes (d, []) [] 1 t := by
  obtain ⟨t₂, hc₂⟩ := drain_alone boot hr hf ht hevents
  have hr₂ := hc₂.run.reach hr
  rw [← hc₂.state] at htimers
  obtain ⟨t₃, hc₃⟩ := ops_alone boot hr₂ hc₂.free hc₂.todo htimers
  obtain ⟨hdev, hps⟩ := Prod.mk.inj hc₃.state
  rw [← hdev, ← hps] at hpending
  obtain ⟨t, hc⟩ := perform_alone boot (hc₃.run.reach hr₂) hc₃.free hc₃.todo hpending
  exact ⟨t, hc₂.trans (hc₃.trans hc)⟩

/-- The acyclic thread by itself takes the call `c` to its end; `t₁` is where it comes to the
events. What it makes of the device is what the call makes of it in one go; a call that panics has
no end. -/
def Completes (s : Stack) (c : DeviceCall) : Prop :=
  ∃ s₁ t₁, s.step (.call c) = some s₁ ∧ Alone s₁ t₁ ∧
    ∀ d, s.device.next (c.input t₁.events) = some d →
      ∃ t, Alone t₁ t ∧ t.Free ∧ t.todo = [] ∧ t.device = d ∧ t.drained = s.drained + c.drains

/-- A call of one operation. -/
lemma one_completes (boot : RtBoot) {c : DeviceCall} {o : DeviceOp} {s₁ : Stack}
    (hr : stackSystem.Reach s₁) (hf : s₁.Free) (hcall : s.step (.call c) = some s₁)
    (ht : s₁.todo = [.op o]) (hd : s₁.drained = s.drained + c.drains)
    (ho : ∀ d, s.device.next (c.input s₁.events) = some d →
      Device.operate (s₁.device, s₁.pending) o = some (d, [])) : s.Completes c := by
  refine ⟨s₁, s₁, hcall, .refl, fun d hd' => ?_⟩
  obtain ⟨t, hc⟩ := op_alone boot hr hf (.op ht) (ho d hd')
  exact ⟨t, hc.run, hc.free, hc.todo, (Prod.mk.inj hc.state).1, hc.drained.trans hd⟩

/-- **A call, alone.** With nobody moving in between, the steps of the acyclic thread make of the
device what the call makes of it in one go. -/
theorem call_alone (c : DeviceCall) (hr : stackSystem.Reach s) (hf : s.Free) (ht : s.todo = []) :
    s.Completes c := by
  have hcall : s.step (.call c) = some { s with pending := [], todo := c.tasks s.device } := by
    simp only [step, ht, if_pos hf]
  have hr₁ : stackSystem.Reach { s with pending := [], todo := c.tasks s.device } :=
    .step hr (i := .call c) trivial hcall
  cases c with
  | step i =>
    cases hfront : i.frontOps.foldlM Device.operate (s.device, []) with
    | none =>
      refine ⟨_, _, hcall, .refl, fun d hd => ?_⟩
      obtain ⟨d₁, _, _, ps₁, _, hfront', -⟩ := step_stages (settle_eq_some hd)
      cases hfront.symm.trans hfront'
    | some r =>
      have htodo : DeviceCall.tasks s.device (.step i) = i.frontOps.map .op ++
          .drain i.now i.spawns :: (i.timerOps.map .op ++ [.perform i.now i.spawns]) := by
        simp [DeviceCall.tasks]
      obtain ⟨t₁, hc₁⟩ := ops_alone default hr₁ hf htodo hfront
      refine ⟨_, t₁, hcall, hc₁.run, fun d hd => ?_⟩
      obtain ⟨d₁, d₂, d₃, ps₁, ps₃, hfront', hevents, htimers, hpending⟩ :=
        step_stages (settle_eq_some hd)
      cases hfront.symm.trans hfront'
      obtain ⟨hdev, hps⟩ := Prod.mk.inj hc₁.state
      rw [← hdev] at hevents
      rw [← hps] at htimers
      obtain ⟨t, hc⟩ := stages_alone default (hc₁.run.reach hr₁) hc₁.free hc₁.todo hevents htimers
        hpending
      exact ⟨t, hc.run, hc.free, hc.todo, (Prod.mk.inj hc.state).1, (hc₁.trans hc).drained⟩
  | shutdown now spawns =>
    by_cases hidle : s.device.cm.ar.state = .idle
    · refine ⟨_, _, hcall, .refl, fun d hd => ?_⟩
      have hd := settle_eq_some hd
      rw [Device.shutdown, if_pos hidle] at hd
      cases hd
      exact ⟨_, .refl, hf, if_pos hidle, rfl, rfl⟩
    · refine one_completes default hr₁ hf hcall (if_neg hidle) rfl fun d hd => ?_
      have hd := settle_eq_some hd
      rw [Device.shutdown, if_neg hidle] at hd
      exact Res.toOption_map_eq_some.2 ⟨d, hd, rfl⟩
  | abortWithErrRta reason now spawns =>
    exact one_completes default hr₁ hf hcall rfl rfl fun d hd =>
      Res.toOption_map_eq_some.2 ⟨d, settle_eq_some hd, rfl⟩

end Stack

end Pnio
