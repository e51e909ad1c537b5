import Pnio.StackFate

/-!
The steps of the device with its threads, and what holds in every state: where the acyclic thread
is tells what the handle, the device and the application know of the RT thread, and every thread
that is not behind the handle was asked to stop, or is just being asked.
-/

namespace Pnio

/-- The application does not write the outputs. -/
lemma ImageOp.write_outputs (im : IoImage) (slot subslot : UInt16) (bytes : Bytes) :
    ((ImageOp.writeInputs slot subslot bytes).apply im).outputs = im.outputs := by
  unfold apply
  dsimp only
  split
  · rename_i im' h
    obtain ⟨cell, -, h⟩ := Res.bind_eq_ok.1 h
    obtain ⟨off, -, h⟩ := Res.bind_eq_ok.1 h
    obtain ⟨-, -, h⟩ := Res.bind_eq_ok.1 h
    obtain ⟨-, -, h⟩ := Res.bind_eq_ok.1 h
    obtain ⟨inputs, -, h⟩ := Res.bind_eq_ok.1 h
    cases h
    rfl
  · rfl
  · rfl

lemma RtShared.takeEvent_snd (s : RtShared) : s.takeEvent.2 = s.queue.head? := by
  unfold takeEvent
  split
  · rename_i h
    rw [h]
    rfl
  · rename_i e queue h
    rw [h]
    rfl

/-- What the owner of a thread does leaves its own state alone. -/
lemma RtWorld.Did.of_owner {w w' : RtWorld} {act : RtAct} (h : Did w act w')
    (ha : act.ofThread = false) (hi : ∀ im, act ≠ .image im) : w'.thread = w.thread := by
  cases h with
  | takeNone | take | storeStop | signalWake => rfl
  | image im => exact absurd rfl (hi im)
  | push | setup | armFailed | stop | top | pollFailed | poll | drain | pass | exit | leave =>
    cases ha

namespace RtWorld

variable {w w' : RtWorld} {act : RtAct}

/-- A state of some thread that was started for an AR. -/
def Genuine (w : RtWorld) : Prop :=
  ∃ lay th, RtThread.Fresh lay th ∧ (rtThreadSystem th).Reach w

lemma Genuine.step (h : w.Genuine) (hs : w.step act = some w') : w'.Genuine := by
  obtain ⟨lay, th, hf, hr⟩ := h
  exact ⟨lay, th, hf, .step hr trivial hs⟩

lemma Genuine.onImage (h : w.Genuine) (im : IoImage) : (w.onImage im).Genuine :=
  h.step (show w.step (.image im) = some (w.onImage im) from rfl)

/-- Only the owner of a thread asks it to stop. -/
lemma Did.stop_eq (h : Did w act w') (ha : act.ofThread = true ∨ act = .take) :
    w'.shared.stop = w.shared.stop ∧ w'.stopping = w.stopping := by
  cases h with
  | pass _ _ =>
    obtain ⟨hs, -, -, hst⟩ := worked_shared w (w.thread.pass _ _)
    exact ⟨by rw [hs], hst⟩
  | push | setup | armFailed | stop | top | pollFailed | poll | drain | exit | leave | takeNone
  | take => exact ⟨rfl, rfl⟩
  | storeStop | signalWake | image => rcases ha with ha | ha <;> cases ha

end RtWorld

/-- What the acyclic thread asks of a thread it lets go, and where it is then. -/
inductive Pc.Asks : Pc → Nat → RtAct → Pc → Prop
  | flag (k : Nat) : Asks (.flag k) k .storeStop (.wake k)
  | wake (k : Nat) : Asks (.wake k) k .signalWake (.join k)
  | dropFlag (k : Nat) : Asks (.dropFlag k) k .storeStop (.dropWake k)
  | dropWake (k : Nat) : Asks (.dropWake k) k .signalWake .loop

namespace Stack

open Device

variable {s s' : Stack} {act : StackAct}

/-! ### What a step does -/

/-- The task at hand is this operation, and these are the tasks after it. -/
inductive Next (s : Stack) : DeviceOp → List Task → Prop
  | op {o : DeviceOp} {todo : List Task} (h : s.todo = .op o :: todo) : Next s o todo
  | perform {now : Instant} {spawns : Bool} {todo : List Task}
      (h : s.todo = .perform now spawns :: todo) : Next s (.apply now spawns) s.todo

/-- A step of an RT thread or of its owner. -/
structure Moved (s : Stack) (k : Nat) (act : RtAct) (w w' : RtWorld) : Prop where
  was : s.threads[k]? = some w
  step : (w.onImage s.device.image).step act = some w'

inductive Stepped (s : Stack) : StackAct → Stack → Prop
  | call {c : DeviceCall} (hf : s.Free) (ht : s.todo = []) :
      Stepped s (.call c) { s with pending := [], todo := c.tasks s.device }
  | tell {boot : RtBoot} {n : ArState × Option AbortReason}
      {notify : List (ArState × Option AbortReason)} (hpc : s.pc = .loop)
      (hn : s.notify = n :: notify) :
      Stepped s (.go boot) { s with told := s.told ++ [n], notify, pc := .after n }
  | operated {boot : RtBoot} {o : DeviceOp} {todo : List Task} {r : Device × List Batch}
      (hpc : s.pc = .loop) (hn : s.notify = []) (ht : s.Next o todo)
      (ho : Device.operate (s.device, s.pending) o = some r) :
      Stepped s (.go boot) (s.operated todo r)
  | event {boot : RtBoot} {now : Instant} {spawns : Bool} {todo : List Task} {k : Nat}
      {w w' : RtWorld} {e : RtThreadEvent} {r : Device × List Batch} (hpc : s.pc = .loop)
      (hn : s.notify = []) (ht : s.todo = .drain now spawns :: todo) (hh : s.handle = some k)
      (hw : s.Moved k .take w w') (he : w.shared.queue.head? = some e)
      (ho : Device.operate (s.device, s.pending) (.event now spawns e.toDevice) = some r) :
      Stepped s (.go boot) ((s.withThread k w').operated s.todo r)
  | drained {boot : RtBoot} {now : Instant} {spawns : Bool} {todo : List Task} {k : Nat}
      {w w' : RtWorld} (hpc : s.pc = .loop) (hn : s.notify = [])
      (ht : s.todo = .drain now spawns :: todo) (hh : s.handle = some k)
      (hw : s.Moved k .take w w') (hq : w.shared.queue = []) :
      Stepped s (.go boot) { s.withThread k w' with todo, drained := s.drained + 1 }
  | drainedAlone {boot : RtBoot} {now : Instant} {spawns : Bool} {todo : List Task}
      (hpc : s.pc = .loop) (hn : s.notify = []) (ht : s.todo = .drain now spawns :: todo)
      (hh : s.handle = none) : Stepped s (.go boot) { s with todo, drained := s.drained + 1 }
  | performed {boot : RtBoot} {now : Instant} {spawns : Bool} {todo : List Task}
      (hpc : s.pc = .loop) (hn : s.notify = []) (ht : s.todo = .perform now spawns :: todo) :
      Stepped s (.go boot) { s with todo }
  | startNone {boot : RtBoot} (hpc : s.pc = .start) (hl : s.device.layout = none) :
      Stepped s (.go boot) (s.moveTo .loop)
  | start {boot : RtBoot} {layout : Layout} (hpc : s.pc = .start)
      (hl : s.device.layout = some layout) :
      Stepped s (.go boot) ((s.onImage (s.device.image.rebuild layout)).moveTo
        (if s.device.runner then .spawn else .loop))
  | spawn {boot : RtBoot} {th : RtThread} (hpc : s.pc = .spawn)
      (hth : s.device.newThread boot = some th) :
      Stepped s (.go boot) { s with
        handle := some s.threads.length
        threads := s.threads ++ [.spawned th]
        pc := .loop }
  | stopNone {boot : RtBoot} (hpc : s.pc = .stop) (hh : s.handle = none) :
      Stepped s (.go boot) (s.moveTo .loop)
  | stop {boot : RtBoot} {k : Nat} (hpc : s.pc = .stop) (hh : s.handle = some k) :
      Stepped s (.go boot) { s with handle := none, pc := .flag k }
  | asked {boot : RtBoot} {k : Nat} {act : RtAct} {pc : Pc} {w w' : RtWorld}
      (ha : s.pc.Asks k act pc) (hw : s.Moved k act w w') :
      Stepped s (.go boot) ((s.withThread k w').moveTo pc)
  | join {boot : RtBoot} {k : Nat} {w : RtWorld} (hpc : s.pc = .join k)
      (hw : s.threads[k]? = some w) (hg : w.phase = .gone) :
      Stepped s (.go boot) (s.moveTo (.read k))
  | timeout {k : Nat} (hpc : s.pc = .join k) : Stepped s .timeout (s.moveTo (.read k))
  | read {boot : RtBoot} {k : Nat} {v : Validity} (hpc : s.pc = .read k)
      (hv : v.watchdog = .expired) : Stepped s (.go boot) (s.moveTo (.expire k v))
  | expire {boot : RtBoot} {k : Nat} {v : Validity} (hpc : s.pc = .expire k v) :
      Stepped s (.go boot) ((s.onImage (s.device.image.setValidity v)).moveTo (.clear k))
  | clear {boot : RtBoot} {k : Nat} (hpc : s.pc = .clear k) :
      Stepped s (.go boot) ((s.onImage s.device.image.clear).moveTo (.dropFlag k))
  | drop {left : Device} (hf : s.Free) : Stepped s (.drop left) { s with
      device := { left with image := s.device.image }
      pending := []
      todo := []
      pc := .stop
      dropped := true }
  | thread {k : Nat} {act : RtAct} {w w' : RtWorld} (ha : act.ofThread = true)
      (hw : s.Moved k act w w') : Stepped s (.thread k act) (s.withThread k w')
  | write {slot subslot : UInt16} {bytes : Bytes} (image : IoImage)
      (ho : image.outputs = s.device.image.outputs) :
      Stepped s (.write slot subslot bytes) (s.onImage image)

lemma onThread_moved {k : Nat} {act : RtAct} (h : s.onThread k act = some s') :
    ∃ w w', s.Moved k act w w' ∧ s' = s.withThread k w' := by
  obtain ⟨w, hw, h⟩ := Option.bind_eq_some_iff.1 h
  obtain ⟨w', hs, h⟩ := Option.bind_eq_some_iff.1 h
  cases h
  exact ⟨w, w', ⟨hw, hs⟩, rfl⟩

/-- Neither taking an event nor asking to stop touches the device. -/
lemma Moved.device {k : Nat} {act : RtAct} {w w' : RtWorld} (h : s.Moved k act w w')
    (ha : act.ofThread = false) (hi : ∀ im, act ≠ .image im) :
    (s.withThread k w').device = s.device := by
  have hth := (RtWorld.step_did h.step).of_owner ha hi
  simp only [withThread, onImage, hth]
  rfl

lemma work_stepped {boot : RtBoot} (hpc : s.pc = .loop) (hn : s.notify = [])
    (h : s.work = some s') : Stepped s (.go boot) s' := by
  unfold work at h
  split at h
  · cases h
  · rename_i o todo ht
    obtain ⟨r, ho, rfl⟩ := Option.map_eq_some_iff.1 h
    exact .operated hpc hn (.op ht) ho
  · rename_i now spawns todo ht
    split at h
    · rename_i hh
      cases h
      exact .drainedAlone hpc hn ht hh
    · rename_i k hh
      obtain ⟨w, hw, h⟩ := Option.bind_eq_some_iff.1 h
      obtain ⟨s₁, h₁, h⟩ := Option.bind_eq_some_iff.1 h
      obtain ⟨w₁, w', hm, rfl⟩ := onThread_moved h₁
      obtain rfl := Option.some.inj (hm.was.symm.trans hw)
      rw [RtShared.takeEvent_snd] at h
      split at h
      · rename_i hq
        cases h
        exact .drained hpc hn ht hh hm (List.head?_eq_none_iff.1 hq)
      · rename_i e he
        obtain ⟨r, ho, rfl⟩ := Option.map_eq_some_iff.1 h
        rw [hm.device rfl (by simp)] at ho
        rw [← ht]
        exact .event hpc hn ht hh hm he ho
  · rename_i now spawns todo ht
    split at h
    · cases h
      exact .performed hpc hn ht
    · obtain ⟨r, ho, rfl⟩ := Option.map_eq_some_iff.1 h
      rw [← ht]
      exact .operated hpc hn (.perform ht) ho

lemma asked_stepped {boot : RtBoot} {k : Nat} {act : RtAct} {pc : Pc} (ha : s.pc.Asks k act pc)
    (h : (s.onThread k act).map (·.moveTo pc) = some s') : Stepped s (.go boot) s' := by
  obtain ⟨s₁, h₁, rfl⟩ := Option.map_eq_some_iff.1 h
  obtain ⟨w, w', hm, rfl⟩ := onThread_moved h₁
  exact .asked ha hm

lemma go_stepped {boot : RtBoot} (h : s.go boot = some s') : Stepped s (.go boot) s' := by
  unfold go at h
  split at h
  · rename_i hpc
    split at h
    · rename_i hn
      exact work_stepped hpc hn h
    · rename_i n notify hn
      cases h
      exact .tell hpc hn
  · rename_i hpc
    split at h
    · rename_i hl
      cases h
      exact .startNone hpc hl
    · rename_i layout hl
      cases h
      exact .start hpc hl
  · rename_i hpc
    obtain ⟨th, hth, rfl⟩ := Option.map_eq_some_iff.1 h
    exact .spawn hpc hth
  · rename_i hpc
    split at h
    · rename_i hh
      cases h
      exact .stopNone hpc hh
    · rename_i k hh
      cases h
      exact .stop hpc hh
  · rename_i k hpc
    exact asked_stepped (hpc ▸ .flag k) h
  · rename_i k hpc
    exact asked_stepped (hpc ▸ .wake k) h
  · rename_i k hpc
    obtain ⟨w, hw, h⟩ := Option.bind_eq_some_iff.1 h
    split_ifs at h with hg
    cases h
    exact .join hpc hw hg
  · rename_i k hpc
    cases h
    exact .read hpc rfl
  · rename_i k v hpc
    cases h
    exact .expire hpc
  · rename_i k hpc
    cases h
    exact .clear hpc
  · rename_i k hpc
    exact asked_stepped (hpc ▸ .dropFlag k) h
  · rename_i k hpc
    exact asked_stepped (hpc ▸ .dropWake k) h

/-- **What a step can be.** -/
lemma step_stepped (h : s.step act = some s') : Stepped s act s' := by
  cases act with
  | call c =>
    unfold step at h
    dsimp only at h
    split at h
    · rename_i ht
      split_ifs at h with hf
      cases h
      exact .call hf ht
    · cases h
  | go boot => exact go_stepped h
  | timeout =>
    unfold step at h
    dsimp only at h
    split at h
    · rename_i k hpc
      cases h
      exact .timeout hpc
    · cases h
  | drop left =>
    simp only [step] at h
    split_ifs at h with hf
    cases h
    exact .drop hf
  | thread k act =>
    simp only [step] at h
    split_ifs at h with ha
    obtain ⟨w, w', hm, rfl⟩ := onThread_moved h
    exact .thread ha hm
  | write slot subslot bytes =>
    cases h
    exact .write _ (ImageOp.write_outputs ..)

/-! ### The device while it is not dropped -/

/-- What the operations rely on. What the application was told, and what it is about to be told, is
what the device has logged. -/
structure Running (s : Stack) : Prop where
  sound : Device.Sound (s.device, s.pending)
  life : Device.Life (s.device, s.pending)
  laid : s.device.runner = true → s.device.layout.isSome
  told : callbacksOf s.device.log = s.told ++ s.notify

lemma Running.onImage (h : s.Running) (image : IoImage) : (s.onImage image).Running :=
  ⟨h.sound.of_same rfl rfl, ⟨h.life.alarm, h.life.runner, h.life.path⟩, h.laid, h.told⟩

lemma Running.withThread (h : s.Running) {k : Nat} {w : RtWorld} : (s.withThread k w).Running := by
  obtain ⟨hs, hl, hlaid, htold⟩ := h.onImage w.thread.loop.image
  exact ⟨hs, hl, hlaid, htold⟩

/-- **An operation**: what it has to tell is one of the fates of the thread. -/
lemma Running.operated {o : DeviceOp} {r : Device × List Batch} (h : s.Running)
    (todo : List Task) (hn : s.notify = []) (hop : ∀ op, o ≠ .image op)
    (ho : Device.operate (s.device, s.pending) o = some r) :
    (s.operated todo r).Running ∧ Fate s.device r.1 (s.operated todo r).notify := by
  obtain ⟨d, ps⟩ := r
  obtain ⟨cbs, ⟨obs, hlog, hcbs⟩, hfate⟩ := operate_fated h.sound h.life hop ho
  have hnotify : (s.operated todo (d, ps)).notify = cbs := by
    simp only [Stack.operated, hlog, List.drop_left, hcbs]
  have hdev : Device.Sound (d, ps) ∧ Device.Life (d, ps) := by
    rcases operate_moves h.sound ho with hm | ⟨rfl, im, rfl⟩
    · exact ⟨hm.sound h.sound, (life_kept false).moves h.sound h.life hm⟩
    · exact ⟨h.sound.of_same rfl rfl, ⟨h.life.alarm, h.life.runner, h.life.path⟩⟩
  refine ⟨⟨hdev.1.of_same rfl rfl, ⟨hdev.2.alarm, hdev.2.runner, hdev.2.path⟩, fun hr => ?_, ?_⟩,
    hnotify ▸ hfate⟩
  · cases hfate with
    | kept hrunner himage hlay =>
      have hrun : s.device.runner = true := hrunner.symm.trans hr
      show d.layout.isSome
      rw [hlay hrun]
      exact h.laid hrun
    | connected _ hrunner _ | lost _ hrunner _ | takeover _ hrunner _ =>
      cases hrunner.symm.trans hr
    | entered hnone hlay himage => exact hlay hr
  · rw [hnotify, ← hcbs]
    show callbacksOf d.log = s.told ++ callbacksOf obs
    have htold := h.told
    rw [hn, List.append_nil] at htold
    rw [hlog, callbacksOf_append, htold]

/-! ### Where the acyclic thread is -/

/-- Nothing is to be told that concerns the thread. -/
def Quietly (cbs : List (ArState × Option AbortReason)) : Prop :=
  cbs = [] ∨ cbs = [(.connected, none)]

/-- What the handle, the device and the application know of the thread, by where the acyclic thread
is. Only in the loop they can be of different minds: when an AR was lost or has come up, the device
is ahead of the other two. -/
def Tied (s : Stack) : Prop :=
  match s.pc with
  | .loop =>
    ((s.notify = [] ∨ s.notify = [(.connected, none)] ∧ s.handle = none) ∧
        (s.dropped = false → s.device.runner = s.handle.isSome) ∧
        (s.dropped = true → s.handle = none)) ∨
      s.dropped = false ∧ s.device.runner = false ∧
        (∃ r cbs, s.notify = (.idle, some r) :: cbs ∧ Quietly cbs) ∨
      s.dropped = false ∧ s.handle = none ∧ s.notify = [(.data, none)]
  | .start => s.dropped = false ∧ s.handle = none ∧ s.notify = [] ∧
      s.told.getLast? = some (.data, none)
  | .spawn => s.dropped = false ∧ s.handle = none ∧ s.notify = [] ∧
      s.told.getLast? = some (.data, none) ∧ s.device.runner = true
  | .stop => Quietly s.notify ∧ (s.dropped = false → s.device.runner = false ∧
      ∃ r, s.told.getLast? = some (.idle, some r))
  | .flag _ | .wake _ | .join _ | .read _ | .expire _ _ | .clear _ | .dropFlag _ | .dropWake _ =>
    Quietly s.notify ∧ s.handle = none ∧ (s.dropped = false → s.device.runner = false)

/-- Outside of `dispatch` the handle is what the device takes it for. -/
lemma Tied.runner (h : s.Tied) (hpc : s.pc = .loop) (hn : s.notify = []) (hd : s.dropped = false) :
    s.device.runner = s.handle.isSome := by
  rw [Tied, hpc] at h
  rcases h with ⟨-, hr, -⟩ | ⟨-, -, r, cbs, hc, -⟩ | ⟨-, -, hc⟩
  · exact hr hd
  · rw [hn] at hc
    cases hc
  · rw [hn] at hc
    cases hc

lemma Tied.runner_of_handle {k : Nat} (h : s.Tied) (hpc : s.pc = .loop) (hn : s.notify = [])
    (hd : s.dropped = false) (hh : s.handle = some k) : s.device.runner = true := by
  rw [h.runner hpc hn hd, hh]
  rfl

/-- Inside of `start_runner` and `stop_runner` there is no thread behind the handle. -/
lemma Tied.handle_none (h : s.Tied) (hl : s.pc ≠ .loop) (hs : s.pc ≠ .stop) : s.handle = none := by
  unfold Tied at h
  cases hpc : s.pc with
  | loop => exact absurd hpc hl
  | stop => exact absurd hpc hs
  | start | spawn | flag | wake | join | read | expire | clear | dropFlag | dropWake =>
    rw [hpc] at h
    exact h.2.1

/-- The acyclic thread on its way through `stop_runner`. -/
lemma Tied.asked {k : Nat} {act : RtAct} {pc : Pc} (ha : s.pc.Asks k act pc) (h : s.Tied) :
    Quietly s.notify ∧ s.handle = none ∧ (s.dropped = false → s.device.runner = false) := by
  generalize hpc : s.pc = q at ha
  rw [Tied, hpc] at h
  cases ha <;> exact h

lemma Tied.after_asked {k : Nat} {act : RtAct} {pc : Pc} (ha : s.pc.Asks k act pc) {t : Stack}
    (hpc : t.pc = pc) (h : Quietly t.notify ∧ t.handle = none ∧
      (t.dropped = false → t.device.runner = false)) : t.Tied := by
  generalize s.pc = q at ha
  rw [Tied, hpc]
  cases ha with
  | flag | wake | dropFlag => exact h
  | dropWake =>
    obtain ⟨hq, hh, hr⟩ := h
    refine .inl ⟨hq.imp_right (⟨·, hh⟩), fun hd => ?_, fun _ => hh⟩
    rw [hr hd, hh]
    rfl

/-- After an operation, by the fate it was. -/
lemma Tied.operated {todo : List Task} {r : Device × List Batch} (hpc : s.pc = .loop)
    (hd : s.dropped = false) (hr : s.device.runner = s.handle.isSome)
    (hf : Fate s.device r.1 (s.operated todo r).notify) : (s.operated todo r).Tied := by
  rw [Tied, show (s.operated todo r).pc = .loop from hpc]
  have hup : (s.operated todo r).dropped ≠ true := by simp [Stack.operated, hd]
  generalize (s.operated todo r).notify = cbs at hf
  cases hf with
  | kept hrunner himage hlay =>
    exact .inl ⟨.inl rfl, fun _ => hrunner.trans hr, fun h => absurd h hup⟩
  | connected hnone hrunner himage =>
    have hh : s.handle = none := by simpa [hr] using hnone
    exact .inl ⟨.inr ⟨rfl, hh⟩, fun _ => hrunner.trans (hnone.symm.trans hr),
      fun h => absurd h hup⟩
  | lost reason hrunner himage => exact .inr (.inl ⟨hd, hrunner, reason, [], rfl, .inl rfl⟩)
  | takeover reason hrunner himage => exact .inr (.inl ⟨hd, hrunner, reason, _, rfl, .inr rfl⟩)
  | entered hnone hlay himage =>
    have hh : s.handle = none := by simpa [hr] using hnone
    exact .inr (.inr ⟨hd, hh, rfl⟩)

/-! ### The acyclic thread in every state -/

/-- What holds of the acyclic thread. -/
structure Upright (s : Stack) : Prop where
  own : ∀ o, .op o ∈ s.todo → ∀ op, o ≠ .image op
  ended : s.dropped = true → s.todo = []
  running : s.dropped = false → s.Running
  tied : s.Tied

/-- No task of a call is someone else's work on the image. -/
lemma tasks_own (d : Device) (c : DeviceCall) {o : DeviceOp} (h : .op o ∈ c.tasks d)
    (op : ImageOp) : o ≠ .image op := by
  rintro rfl
  cases c with
  | step i =>
    simp only [DeviceCall.tasks, StepInput.frontOps, StepInput.timerOps] at h
    split_ifs at h <;> simp at h
  | shutdown now spawns =>
    simp only [DeviceCall.tasks] at h
    split_ifs at h <;> simp at h
  | abortWithErrRta reason now spawns => simp [DeviceCall.tasks] at h

lemma Next.own {o : DeviceOp} {todo : List Task} (h : s.Next o todo)
    (hown : ∀ o, .op o ∈ s.todo → ∀ op, o ≠ .image op) :
    (∀ op, o ≠ .image op) ∧ ∀ o, .op o ∈ todo → ∀ op, o ≠ .image op := by
  cases h with
  | op h => exact ⟨hown o (by simp [h]), fun o' ho' => hown o' (by simp [h, ho'])⟩
  | perform h => exact ⟨by simp, hown⟩

/-- The call at hand is one of a device that is still there. -/
lemma Upright.up {task : Task} {todo : List Task} (h : s.Upright) (ht : s.todo = task :: todo) :
    s.dropped = false := by
  cases hd : s.dropped with
  | false => rfl
  | true =>
    rw [h.ended hd] at ht
    cases ht

lemma Next.cons {o : DeviceOp} {todo : List Task} (h : s.Next o todo) :
    ∃ task rest, s.todo = task :: rest := by
  cases h with
  | op h => exact ⟨_, _, h⟩
  | perform h => exact ⟨_, _, h⟩

lemma Upright.operated {o : DeviceOp} {todo : List Task} {r : Device × List Batch}
    (h : s.Upright) (hpc : s.pc = .loop) (hn : s.notify = []) (hd : s.dropped = false)
    (hop : ∀ op, o ≠ .image op) (hown : ∀ o, .op o ∈ todo → ∀ op, o ≠ .image op)
    (ho : Device.operate (s.device, s.pending) o = some r) : (s.operated todo r).Upright := by
  obtain ⟨hrun, hfate⟩ := (h.running hd).operated todo hn hop ho
  refine ⟨hown, fun hd' => ?_, fun _ => hrun,
    .operated hpc hd (h.tied.runner hpc hn hd) hfate⟩
  rw [show (s.operated todo r).dropped = false from hd] at hd'
  cases hd'

/-- No operation was done, and what there is to tell is no more and no less. -/
lemma Upright.move {t : Stack} (h : s.Upright) {image : IoImage}
    (hdev : t.device = { s.device with image }) (hp : t.pending = s.pending)
    (ht : t.todo ⊆ s.todo) (htold : t.told ++ t.notify = s.told ++ s.notify)
    (hd : t.dropped = s.dropped) (htied : t.Tied) : t.Upright := by
  refine ⟨fun o ho => h.own o (ht ho), fun hd' => ?_, fun hd' => ?_, htied⟩
  · rw [h.ended (hd.symm.trans hd')] at ht
    exact List.subset_nil.1 ht
  · obtain ⟨hs, hl, hlaid, hlog⟩ := (h.running (hd.symm.trans hd')).onImage image
    rw [show (s.onImage image).device = t.device from hdev.symm,
      show (s.onImage image).pending = t.pending from hp.symm] at hs hl
    rw [show (s.onImage image).device = t.device from hdev.symm] at hlaid hlog
    exact ⟨hs, hl, hlaid, hlog.trans htold.symm⟩

lemma Upright.tell {n : ArState × Option AbortReason}
    {notify : List (ArState × Option AbortReason)} (h : s.Upright) (hpc : s.pc = .loop)
    (hn : s.notify = n :: notify) :
    Upright { s with told := s.told ++ [n], notify, pc := .after n } := by
  refine h.move rfl rfl (List.Subset.refl _) (by simp [hn]) rfl ?_
  have ht := h.tied
  rw [Tied, hpc, hn] at ht
  rcases ht with ⟨hq, hr, hh⟩ | ⟨hd, hr, r, cbs, hc, hq⟩ | ⟨hd, hh, hc⟩
  · rcases hq with hq | ⟨hq, -⟩
    · cases hq
    · cases hq
      exact .inl ⟨.inl rfl, hr, hh⟩
  · cases hc
    exact ⟨hq, fun _ => ⟨hr, r, by simp⟩⟩
  · cases hc
    exact ⟨hd, hh, rfl, by simp⟩

/-- **Every step keeps what holds of the acyclic thread.** -/
lemma Stepped.upright (h : Stepped s act s') (hu : s.Upright) : s'.Upright := by
  have htied := hu.tied
  cases h with
  | @call c hf ht =>
    obtain ⟨hpc, hn, hd⟩ := hf
    obtain ⟨hs, hl, hlaid, hlog⟩ := hu.running hd
    refine ⟨fun o ho op => tasks_own s.device c ho op, fun hd' => ?_, fun _ => ?_, htied⟩
    · rw [show _ = false from hd] at hd'
      cases hd'
    · exact ⟨⟨hs.cache, hs.ctx, hs.diag, by simp⟩, ⟨hl.alarm, hl.runner, hl.path⟩, hlaid, hlog⟩
  | tell hpc hn => exact hu.tell hpc hn
  | operated hpc hn ht ho =>
    obtain ⟨task, rest, htask⟩ := ht.cons
    obtain ⟨hop, hown⟩ := ht.own hu.own
    exact hu.operated hpc hn (hu.up htask) hop hown ho
  | @event boot now spawns todo k w w' e r hpc hn ht hh hw he ho =>
    have hdev : (s.withThread k w').device = s.device := hw.device rfl (by simp)
    have hu' : (s.withThread k w').Upright :=
      hu.move rfl rfl (List.Subset.refl _) rfl rfl htied
    rw [← hdev] at ho
    exact hu'.operated hpc hn (hu.up ht) (by simp) hu.own ho
  | drained hpc hn ht hh hw hq | drainedAlone hpc hn ht hh | performed hpc hn ht =>
    exact hu.move rfl rfl (ht ▸ List.subset_cons_self _ _) rfl rfl htied
  | startNone hpc hl =>
    rw [Tied, hpc] at htied
    obtain ⟨hd, hh, hn, -⟩ := htied
    refine hu.move rfl rfl (List.Subset.refl _) rfl rfl (.inl ⟨.inl hn, fun _ => ?_, fun _ => hh⟩)
    show s.device.runner = s.handle.isSome
    -- a thread would have its layout
    rw [hh, Option.isSome_none, Bool.eq_false_iff]
    intro hr
    have := (hu.running hd).laid hr
    rw [hl] at this
    cases this
  | start hpc hl =>
    rw [Tied, hpc] at htied
    obtain ⟨hd, hh, hn, htold⟩ := htied
    refine hu.move rfl rfl (List.Subset.refl _) rfl rfl ?_
    cases hr : s.device.runner with
    | true => exact ⟨hd, hh, hn, htold, hr⟩
    | false =>
      exact .inl ⟨.inl hn, fun _ => hr.trans (congrArg Option.isSome hh).symm, fun _ => hh⟩
  | spawn hpc hth =>
    rw [Tied, hpc] at htied
    obtain ⟨hd, -, hn, -, hr⟩ := htied
    refine hu.move rfl rfl (List.Subset.refl _) rfl rfl (.inl ⟨.inl hn, fun _ => hr, fun hd' => ?_⟩)
    cases hd.symm.trans hd'
  | stopNone hpc hh =>
    rw [Tied, hpc] at htied
    obtain ⟨hq, hr⟩ := htied
    refine hu.move rfl rfl (List.Subset.refl _) rfl rfl
      (.inl ⟨hq.imp_right (⟨·, hh⟩), fun hd => ?_, fun _ => hh⟩)
    exact (hr hd).1.trans (congrArg Option.isSome hh).symm
  | stop hpc hh =>
    rw [Tied, hpc] at htied
    obtain ⟨hq, hr⟩ := htied
    exact hu.move rfl rfl (List.Subset.refl _) rfl rfl ⟨hq, rfl, fun hd => (hr hd).1⟩
  | asked ha hw =>
    have hkept := Tied.asked ha htied
    exact hu.move rfl rfl (List.Subset.refl _) rfl rfl (.after_asked ha rfl hkept)
  | join hpc hw hg | timeout hpc | read hpc hv | expire hpc | clear hpc =>
    rw [Tied, hpc] at htied
    exact hu.move rfl rfl (List.Subset.refl _) rfl rfl htied
  | drop hf =>
    obtain ⟨hpc, hn, hd⟩ := hf
    refine ⟨by simp, fun _ => rfl, ?_, .inl hn, ?_⟩ <;> exact fun hd' => by cases hd'
  | thread ha hw => exact hu.move rfl rfl (List.Subset.refl _) rfl rfl htied
  | write image ho => exact hu.move rfl rfl (List.Subset.refl _) rfl rfl htied

/-! ### The threads -/

/-- How far the acyclic thread has come with asking a thread to stop. -/
inductive Role where
  | held
  | flagged
  | woken
  /-- The flag is set once more, by the drop of the handle. -/
  | again

def Role.Fits : Role → RtWorld → Prop
  | .held, w => w.shared.stop = false ∧ w.stopping = 0
  | .flagged, w => w.shared.stop = true ∧ w.stopping = 1
  | .woken, w => w.Stopped ∧ w.stopping = 0
  | .again, w => w.Stopped ∧ w.stopping = 1

def role (s : Stack) (k : Nat) : Role :=
  if s.handle = some k ∨ s.pc = .flag k then .held
  else if s.pc = .wake k then .flagged
  else if s.pc = .dropWake k then .again
  else .woken

/-- Every thread was started for an AR, and has been asked to stop as far as its role says. -/
def Crew (s : Stack) : Prop :=
  ∀ k w, s.threads[k]? = some w → w.Genuine ∧ (s.role k).Fits w

section Crew

variable {t : Stack} {k : Nat} {w w' : RtWorld} {ract : RtAct}

/-- The thread that was just moved. -/
lemma threads_set {threads : List RtWorld} {j : Nat} {w : RtWorld} (h : threads[j]? = some w)
    (w' : RtWorld) : (threads.set j w')[j]? = some w' :=
  List.getElem?_set_self (List.getElem?_eq_some_iff.1 h).1

/-- The thread that was just spawned, or one of those before it. -/
lemma threads_spawn {threads : List RtWorld} {w₀ : RtWorld} {j : Nat} {w : RtWorld}
    (h : (threads ++ [w₀])[j]? = some w) :
    threads[j]? = some w ∧ j < threads.length ∨ j = threads.length ∧ w = w₀ := by
  rcases Nat.lt_trichotomy j threads.length with hlt | rfl | hgt
  · exact .inl ⟨(List.getElem?_append_left hlt).symm.trans h, hlt⟩
  · exact .inr ⟨rfl, (Option.some.inj (List.getElem?_concat_length.symm.trans h)).symm⟩
  · have hlen := (List.getElem?_eq_some_iff.1 h).1
    rw [List.length_append, List.length_singleton] at hlen
    omega

/-- What neither sets the flag nor wakes leaves a thread in its role. -/
lemma Role.Fits.did {r : Role} (h : r.Fits w) (im : IoImage)
    (hd : RtWorld.Did (w.onImage im) ract w') (ha : ract.ofThread = true ∨ ract = .take) :
    r.Fits w' := by
  obtain ⟨hstop, hstopping⟩ := hd.stop_eq ha
  cases r with
  | held => exact ⟨hstop.trans h.1, hstopping.trans h.2⟩
  | flagged => exact ⟨hstop.trans h.1, hstopping.trans h.2⟩
  | woken => exact ⟨hd.stopped ⟨h.1.stop, h.1.wake⟩, hstopping.trans h.2⟩
  | again => exact ⟨hd.stopped ⟨h.1.stop, h.1.wake⟩, hstopping.trans h.2⟩

lemma Moved.genuine (h : s.Moved k ract w w') (hw : w.Genuine) : w'.Genuine :=
  (hw.onImage _).step h.step

lemma Crew.same (h : s.Crew) (ht : t.threads = s.threads) (hr : ∀ j, t.role j = s.role j) :
    t.Crew := by
  intro j w hj
  rw [hr j]
  exact h j w (ht ▸ hj)

/-- One thread has made a step. -/
lemma Crew.set (h : s.Crew) (hm : s.Moved k ract w w') (ht : t.threads = s.threads.set k w')
    (hr : ∀ j, j ≠ k → t.role j = s.role j)
    (hfit : w.Genuine → (s.role k).Fits w → (t.role k).Fits w') : t.Crew := by
  intro j w₁ hj
  rw [ht] at hj
  by_cases hjk : j = k
  · subst hjk
    obtain ⟨hw, hrole⟩ := h j w hm.was
    rw [threads_set hm.was] at hj
    cases hj
    exact ⟨hm.genuine hw, hfit hw hrole⟩
  · rw [List.getElem?_set_ne (Ne.symm hjk)] at hj
    rw [hr j hjk]
    exact h j w₁ hj

/-- The acyclic thread goes on with asking a thread to stop. -/
lemma Crew.asked {pc : Pc} (h : s.Crew) (hh : s.handle = none) (ha : s.pc.Asks k ract pc)
    (hm : s.Moved k ract w w') : ((s.withThread k w').moveTo pc).Crew := by
  have hd := RtWorld.step_did hm.step
  generalize hpc : s.pc = q at ha
  have hh' : ((s.withThread k w').moveTo pc).handle = none := hh
  have hpc' : ((s.withThread k w').moveTo pc).pc = pc := rfl
  refine h.set hm rfl (fun j hj => ?_) fun hw hfit => ?_
  · cases ha <;> simp [role, hh, hh', hpc, hpc', Ne.symm hj]
  · cases ha with
    | flag =>
      rw [show s.role k = .held by simp [role, hpc]] at hfit
      rw [show role _ k = .flagged by simp [role, hh', hpc']]
      cases hd
      exact ⟨rfl, congrArg (· + 1) hfit.2⟩
    | wake =>
      rw [show s.role k = .flagged by simp [role, hh, hpc]] at hfit
      rw [show role _ k = .woken by simp [role, hh', hpc']]
      obtain ⟨lay, th, -, hr⟩ := hm.genuine hw
      cases hd
      have hdone : w.stopping - 1 = 0 := by rw [hfit.2]
      exact ⟨rt_stopped hr hfit.1 hdone, hdone⟩
    | dropFlag =>
      rw [show s.role k = .woken by simp [role, hh, hpc]] at hfit
      rw [show role _ k = .again by simp [role, hh', hpc']]
      have hstopped := hd.stopped ⟨hfit.1.stop, hfit.1.wake⟩
      cases hd
      exact ⟨hstopped, congrArg (· + 1) hfit.2⟩
    | dropWake =>
      rw [show s.role k = .again by simp [role, hh, hpc]] at hfit
      rw [show role _ k = .woken by simp [role, hh', hpc']]
      have hstopped := hd.stopped ⟨hfit.1.stop, hfit.1.wake⟩
      cases hd
      exact ⟨hstopped, congrArg (· - 1) hfit.2⟩

lemma newThread_fresh {d : Device} {boot : RtBoot} {th : RtThread}
    (h : d.newThread boot = some th) : ∃ lay, th.Fresh lay := by
  obtain ⟨params, hp, h⟩ := Option.bind_eq_some_iff.1 h
  obtain ⟨lay, hl, h⟩ := Option.bind_eq_some_iff.1 h
  cases h
  unfold Device.layout at hl
  split_ifs at hl
  obtain ⟨params', -, hl⟩ := Option.bind_eq_some_iff.1 hl
  exact ⟨lay, ⟨_, _, Res.toOption_eq_some.1 hl⟩, _, _, _, _, _, _, _, _, rfl⟩

lemma Crew.spawn (h : s.Crew) {th : RtThread} {lay : Layout} (hth : th.Fresh lay)
    (hpc : s.pc = .spawn) (hh : s.handle = none) :
    Crew { s with
      handle := some s.threads.length
      threads := s.threads ++ [.spawned th]
      pc := .loop } := by
  intro j w hj
  rcases threads_spawn hj with ⟨hj, hlt⟩ | ⟨rfl, rfl⟩
  · obtain ⟨hw, hfit⟩ := h j w hj
    refine ⟨hw, ?_⟩
    rw [show s.role j = .woken by simp [role, hpc, hh]] at hfit
    rw [show role _ j = .woken by simp [role, hlt.ne']]
    exact hfit
  · rw [show role _ s.threads.length = .held by simp [role]]
    exact ⟨⟨lay, th, hth, .init rfl⟩, rfl, rfl⟩

/-- **Every step keeps the crew.** -/
lemma Stepped.crew (h : Stepped s act s') (hu : s.Upright) (hc : s.Crew) : s'.Crew := by
  cases h with
  | call hf ht => exact hc.same rfl fun j => rfl
  | @tell boot n notify hpc hn =>
    refine hc.same rfl fun j => ?_
    have hafter : ∀ k, Pc.after n ≠ .flag k ∧ Pc.after n ≠ .wake k ∧ Pc.after n ≠ .dropWake k := by
      intro k
      unfold Pc.after
      split <;> simp
    simp [role, hpc, hafter]
  | operated hpc hn ht ho => exact hc.same rfl fun j => rfl
  | event hpc hn ht hh hw he ho =>
    exact hc.set hw rfl (fun j hj => rfl) fun hg hfit =>
      hfit.did _ (RtWorld.step_did hw.step) (.inr rfl)
  | drained hpc hn ht hh hw hq =>
    exact hc.set hw rfl (fun j hj => rfl) fun hg hfit =>
      hfit.did _ (RtWorld.step_did hw.step) (.inr rfl)
  | drainedAlone hpc hn ht hh => exact hc.same rfl fun j => rfl
  | performed hpc hn ht => exact hc.same rfl fun j => rfl
  | startNone hpc hl => exact hc.same rfl fun j => by simp [role, moveTo, hpc]
  | start hpc hl =>
    refine hc.same rfl fun j => ?_
    cases s.device.runner <;> simp [role, moveTo, onImage, hpc]
  | spawn hpc hth =>
    obtain ⟨lay, hfresh⟩ := newThread_fresh hth
    exact hc.spawn hfresh hpc (hu.tied.handle_none (by simp [hpc]) (by simp [hpc]))
  | stopNone hpc hh => exact hc.same rfl fun j => by simp [role, moveTo, hpc]
  | stop hpc hh => exact hc.same rfl fun j => by simp [role, hpc, hh]
  | asked ha hw => exact hc.asked (Tied.asked ha hu.tied).2.1 ha hw
  | join hpc hw hg => exact hc.same rfl fun j => by simp [role, moveTo, hpc]
  | timeout hpc => exact hc.same rfl fun j => by simp [role, moveTo, hpc]
  | read hpc hv => exact hc.same rfl fun j => by simp [role, moveTo, hpc]
  | expire hpc => exact hc.same rfl fun j => by simp [role, moveTo, onImage, hpc]
  | clear hpc => exact hc.same rfl fun j => by simp [role, moveTo, onImage, hpc]
  | drop hf => exact hc.same rfl fun j => by simp [role, hf.1]
  | thread ha hw =>
    exact hc.set hw rfl (fun j hj => rfl) fun hg hfit =>
      hfit.did _ (RtWorld.step_did hw.step) (.inl ha)
  | write image ho => exact hc.same rfl fun j => rfl

end Crew

lemma new_upright (setup : DeviceSetup) : (new setup).Upright where
  own := by simp [new]
  ended := fun _ => rfl
  running := fun _ => ⟨new_sound setup, (life_kept false).new setup, by simp [new, Device.new], rfl⟩
  tied := .inl ⟨.inl rfl, fun _ => rfl, fun _ => rfl⟩

/-- **What holds in every state.** -/
theorem reach_upright (h : stackSystem.Reach s) : s.Upright ∧ s.Crew := by
  refine System.Reach.inv (I := fun s => s.Upright ∧ s.Crew) ?_ ?_ h
  · rintro s ⟨setup, rfl⟩
    exact ⟨new_upright setup, by simp [Crew, new]⟩
  · rintro s act s' ⟨hu, hc⟩ hst
    have hstep := step_stepped hst
    exact ⟨hstep.upright hu, hstep.crew hu hc⟩

end Stack

end Pnio
