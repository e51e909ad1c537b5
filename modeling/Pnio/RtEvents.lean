import Pnio.RtPass

/-!
The RT thread beside its owner, over its whole life and under every interleaving: what it reports
and in which order, that the doorbell says whether there is something to take, and that a request
to stop is never lost.
-/

namespace Pnio

def RtThreadEvent.isWarning : RtThreadEvent → Bool
  | .schedWarning _ => true
  | _ => false

namespace RtWorld

/-! ### What one step does -/

/-- The steps of the thread and of its owner. -/
inductive Did (w : RtWorld) : RtAct → RtWorld → Prop
  | push {e : RtThreadEvent} {todo : List RtThreadEvent} (h : w.todo = e :: todo) : Did w .go
      { w with todo, shared := w.shared.pushEvent e, pushed := w.pushed ++ [e] }
  | setup {s : RtSetup} (ht : w.todo = []) (hp : w.phase = .setup) (ha : s.armFailed = none) :
      Did w (.setup s) { w with todo := s.warnings, phase := .top }
  | armFailed {s : RtSetup} {e : String} (ht : w.todo = []) (hp : w.phase = .setup)
      (ha : s.armFailed = some e) : Did w (.setup s)
      { w with todo := s.warnings ++ [.socketError ("timerfd arm: " ++ e)], phase := .exiting }
  | stop (ht : w.todo = []) (hp : w.phase = .top) (hs : w.shared.stop = true) :
      Did w .go { w with phase := .exiting }
  | top (ht : w.todo = []) (hp : w.phase = .top) (hs : w.shared.stop = false) :
      Did w .go { w with phase := .polling }
  | pollFailed {e : String} (ht : w.todo = []) (hp : w.phase = .polling) :
      Did w (.poll (.error e))
        { w with todo := [.socketError ("poll: " ++ e)], phase := .exiting }
  | poll {r : RtReady} (ht : w.todo = []) (hp : w.phase = .polling) :
      Did w (.poll (.ok r)) { w with phase := .polled r (0 < w.shared.wakeFd) }
  | drain {r : RtReady} {woken : Bool} (ht : w.todo = []) (hp : w.phase = .polled r woken) :
      Did w .go { w with
        phase := .working r
        shared := { w.shared with wakeFd := if woken then 0 else w.shared.wakeFd } }
  | pass {r : RtReady} {p : RtPass} (ht : w.todo = []) (hp : w.phase = .working r) :
      Did w (.pass p) (w.worked (w.thread.pass r p))
  | exit (ht : w.todo = []) (hp : w.phase = .exiting) : Did w .go
      { w with
        phase := .leaving
        shared := w.shared.pushEvent .exited
        pushed := w.pushed ++ [.exited] }
  | leave (ht : w.todo = []) (hp : w.phase = .leaving) :
      Did w .go { w with phase := .gone, shared := { w.shared with running := false } }
  | takeNone (h : w.shared.queue = []) :
      Did w .take { w with shared := { w.shared with queue := [], eventFd := 0 } }
  | take {e : RtThreadEvent} {queue : List RtThreadEvent} (h : w.shared.queue = e :: queue) :
      Did w .take { w with
        shared := { w.shared with queue, eventFd := if queue.isEmpty then 0 else w.shared.eventFd }
        taken := w.taken ++ [e] }
  | storeStop : Did w .storeStop
      { w with shared := { w.shared with stop := true }, stopping := w.stopping + 1 }
  | signalWake (h : w.stopping ≠ 0) : Did w .signalWake
      { w with
        stopping := w.stopping - 1
        shared := { w.shared with wakeFd := EventFd.signal w.shared.wakeFd } }
  | image (im : IoImage) : Did w (.image im) { w with thread := w.thread.onImage im }

lemma step_did {w w' : RtWorld} {act : RtAct} (h : w.step act = some w') : Did w act w' := by
  obtain ⟨thread, phase, todo, shared, stopping, pushed, taken, seen, ticks, passes⟩ := w
  cases act with
  | take =>
    simp only [step, ownerStep, RtShared.takeEvent] at h
    cases hq : shared.queue with
    | nil =>
      rw [hq] at h
      cases h
      exact .takeNone hq
    | cons e queue =>
      rw [hq] at h
      cases h
      exact .take hq
  | storeStop =>
    cases h
    exact .storeStop
  | signalWake =>
    simp only [step, ownerStep] at h
    split_ifs at h with hz
    cases h
    exact .signalWake hz
  | image im =>
    cases h
    exact .image im
  | go =>
    cases todo with
    | cons e todo =>
      cases h
      exact .push rfl
    | nil =>
      cases phase with
      | top =>
        cases hs : shared.stop with
        | true =>
          simp only [step, threadStep, hs, if_true, Option.some.injEq] at h
          subst h
          exact .stop rfl rfl hs
        | false =>
          simp only [step, threadStep, hs, Bool.false_eq_true, if_false, Option.some.injEq] at h
          subst h
          exact .top rfl rfl hs
      | polled r woken =>
        cases h
        exact .drain rfl rfl
      | exiting =>
        cases h
        exact .exit rfl rfl
      | leaving =>
        cases h
        exact .leave rfl rfl
      | setup | polling | working | gone => cases h
  | setup s =>
    cases todo with
    | cons e todo => cases h
    | nil =>
      cases phase with
      | setup =>
        simp only [step, threadStep] at h
        cases ha : s.armFailed with
        | none =>
          rw [ha] at h
          cases h
          exact .setup rfl rfl ha
        | some e =>
          rw [ha] at h
          cases h
          exact .armFailed rfl rfl ha
      | top | polling | polled | working | exiting | leaving | gone => cases h
  | poll r =>
    cases todo with
    | cons e todo => cases h
    | nil =>
      cases phase with
      | polling =>
        cases r with
        | error e =>
          cases h
          exact .pollFailed rfl rfl
        | ok r =>
          simp only [step, threadStep] at h
          split_ifs at h
          cases h
          exact .poll rfl rfl
      | setup | top | polled | working | exiting | leaving | gone => cases h
  | pass p =>
    cases todo with
    | cons e todo => cases h
    | nil =>
      cases phase with
      | working r =>
        cases h
        exact .pass rfl rfl
      | setup | top | polling | polled | exiting | leaving | gone => cases h

/-! ### The doorbell -/

/-- The queue is what was pushed and not yet taken, and the doorbell rings while it is not
empty. -/
structure Bell (w : RtWorld) : Prop where
  fifo : w.taken ++ w.shared.queue = w.pushed
  rings : 0 < w.shared.eventFd ↔ w.shared.queue ≠ []

lemma EventFd.signal_pos (n : Nat) : 0 < EventFd.signal n := by
  unfold EventFd.signal
  split_ifs <;> omega

lemma Bell.pushEvent {w w' : RtWorld} {e : RtThreadEvent} (h : Bell w)
    (hs : w'.shared = w.shared.pushEvent e) (ht : w'.taken = w.taken)
    (hp : w'.pushed = w.pushed ++ [e]) : Bell w' := by
  refine ⟨?_, ?_⟩
  · rw [hs, ht, hp, ← h.fifo, List.append_assoc]
    rfl
  · rw [hs]
    simp [RtShared.pushEvent, EventFd.signal_pos]

/-- A step that leaves the queue and the doorbell alone. -/
lemma Bell.congr {w w' : RtWorld} (h : Bell w) (hq : w'.shared.queue = w.shared.queue)
    (hf : w'.shared.eventFd = w.shared.eventFd) (ht : w'.taken = w.taken)
    (hp : w'.pushed = w.pushed) : Bell w' :=
  ⟨by rw [hq, ht, hp, h.fifo], by rw [hq, hf, h.rings]⟩

lemma worked_shared (w : RtWorld) (r : Res Empty (RtThread × RtThread.Passed)) :
    (w.worked r).shared = w.shared ∧ (w.worked r).taken = w.taken ∧
      (w.worked r).pushed = w.pushed ∧ (w.worked r).stopping = w.stopping := by
  cases r <;> exact ⟨rfl, rfl, rfl, rfl⟩

lemma Did.bell {w w' : RtWorld} {act : RtAct} (h : Did w act w') (hb : Bell w) : Bell w' := by
  cases h with
  | push _ => exact hb.pushEvent rfl rfl rfl
  | exit _ _ => exact hb.pushEvent rfl rfl rfl
  | pass _ _ =>
    obtain ⟨hs, ht, hp, -⟩ := worked_shared w (w.thread.pass _ _)
    exact hb.congr (by rw [hs]) (by rw [hs]) ht hp
  | takeNone hq => exact ⟨hq ▸ hb.fifo, by simp⟩
  | @take e queue hq =>
    refine ⟨?_, ?_⟩
    · rw [List.append_assoc, List.singleton_append, ← hq]
      exact hb.fifo
    · have hpos : 0 < w.shared.eventFd := hb.rings.2 (by rw [hq]; exact List.cons_ne_nil _ _)
      cases queue with
      | nil => simp
      | cons e' queue => simp [hpos]
  | setup | armFailed | stop | top | pollFailed | poll | drain | leave | storeStop | signalWake
  | image => exact hb.congr rfl rfl rfl rfl

end RtWorld

/-! ### A thread to try things on -/

namespace ThreadDemo

def thread : RtThread :=
  .start AppDemo.layout AppDemo.mac AppDemo.params.initiatorMac {} .new .new .new .empty true

/-- A thread that may not lock its memory. -/
def setup : RtAct := .setup ⟨none, none, some (some "EPERM"), none⟩

def ticked : RtAct := .poll (.ok ⟨true, false⟩)

/-- A tick whose frame cannot be sent. -/
def badTick : RtAct := .pass ⟨.ok 1, ⟨0, ⟨true, true, true⟩, false, some "ENETDOWN", 0⟩, []⟩

end ThreadDemo

open ThreadDemo

lemma rt_bell {th : RtThread} {w : RtWorld} (h : (rtThreadSystem th).Reach w) : w.Bell := by
  refine h.inv ?_ fun w act w' hb hs => (RtWorld.step_did hs).bell hb
  rintro w rfl
  exact ⟨rfl, by simp [RtWorld.spawned, RtShared.new]⟩

/-- Under every interleaving of the thread with its owner, the owner takes the events in the order
they were pushed, none twice and none left out, and the doorbell is readable exactly while there is
one to take. -/
theorem rt_doorbell {th : RtThread} {w : RtWorld} (h : (rtThreadSystem th).Reach w) :
    w.taken ++ w.shared.queue = w.pushed ∧ (0 < w.shared.eventFd ↔ w.shared.queue ≠ []) := by
  have hb := rt_bell h
  exact ⟨hb.fifo, hb.rings⟩

theorem rt_doorbell_rings : ∃ w, (rtThreadSystem thread).Reach w ∧
    w.pushed = [.schedWarning "mlockall: EPERM"] ∧
    w.taken ++ w.shared.queue = w.pushed ∧ (0 < w.shared.eventFd ↔ w.shared.queue ≠ []) := by
  have hrun : ((rtThreadSystem thread).run (.spawned thread) [setup, .go]).any
      (·.pushed == [.schedWarning "mlockall: EPERM"]) = true := by
    decide +kernel
  obtain ⟨w, hw, hp⟩ := System.exists_reach_of_run rfl hrun
  exact ⟨w, hw, beq_iff_eq.1 hp, rt_doorbell hw⟩

/-! ### Safety over the whole life -/

namespace RtWorld

variable {lay : Layout} {w w' : RtWorld} {act : RtAct}

lemma worked_ok {th : RtThread} {p : RtThread.Passed} (w : RtWorld) :
    w.worked (.ok (th, p)) =
      { w with
        thread := th
        phase := if p.goOn then .top else .exiting
        todo := p.events
        seen := w.seen ++ p.seen
        ticks := w.ticks + if p.ticked then 1 else 0
        passes := w.passes + 1 } := rfl

/-- Only a pass changes the thread, the image apart. -/
lemma Did.thread (h : Did w act w') :
    (∃ im, w'.thread = w.thread.onImage im) ∨ ∃ r p, w.phase = .working r ∧ w.todo = [] ∧
      w' = w.worked (w.thread.pass r p) := by
  cases h with
  | @pass r p ht hp => exact .inr ⟨r, p, hp, ht, rfl⟩
  | image im => exact .inl ⟨im, rfl⟩
  | _ => exact .inl ⟨w.thread.loop.image, rfl⟩

lemma Did.safe (h : Did w act w') (hs : w.thread.loop.Safe lay) : w'.thread.loop.Safe lay := by
  rcases h.thread with ⟨im, ht⟩ | ⟨r, p, -, -, rfl⟩
  · rw [ht]
    exact { hs with }
  · obtain ⟨th', res, hpass, hspec⟩ := RtThread.pass_spec (ε := Empty) hs r p
    rw [hpass]
    exact hspec.safe

end RtWorld

/-- The threads of this section run over a layout that was built for an AR. -/
structure RtThread.Fresh (lay : Layout) (th : RtThread) : Prop where
  built : ∃ params model, Layout.fromAr params model = .ok lay
  started : ∃ ourMac cpuMac stats lateness work interval image hasFd,
    th = RtThread.start lay ourMac cpuMac stats lateness work interval image hasFd

lemma RtThread.Fresh.safe {lay : Layout} {th : RtThread} (h : th.Fresh lay) :
    th.loop.Safe lay := by
  obtain ⟨params, model, hl⟩ := h.built
  obtain ⟨ourMac, cpuMac, stats, lateness, work, interval, image, hasFd, rfl⟩ := h.started
  obtain ⟨hin, hout, -⟩ := Layout.fromAr_eq_ok.1 hl
  exact ⟨buildCr_sound hin, buildCr_sound hout, RtEngine.built_new _ _ _ _,
    List.length_replicate⟩

lemma ThreadDemo.fresh : thread.Fresh AppDemo.layout :=
  ⟨⟨_, _, AppDemo.fromAr_params⟩, _, _, _, _, _, _, _, _, rfl⟩

lemma rt_safe {lay : Layout} {th : RtThread} {w : RtWorld} (hf : th.Fresh lay)
    (h : (rtThreadSystem th).Reach w) : w.thread.loop.Safe lay := by
  refine h.inv (I := fun w => w.thread.loop.Safe lay) ?_ fun w act w' hs hst =>
    (RtWorld.step_did hst).safe hs
  rintro w rfl
  exact hf.safe

/-! ### Stopping -/

lemma RtSetup.length_warnings (s : RtSetup) : s.warnings.length ≤ 3 := by
  rcases s with ⟨_ | ⟨cpu, _ | e⟩, _ | ⟨prio, _ | e⟩, _ | _ | e, arm⟩ <;> simp [warnings]

def RtAct.ofThread : RtAct → Bool
  | .go | .setup _ | .poll _ | .pass _ => true
  | .take | .storeStop | .signalWake | .image _ => false

namespace RtPhase

/-- How many steps a thread that is asked to stop may still make, its pushes apart. -/
def left : RtPhase → Nat
  | gone => 0
  | leaving => 1
  | exiting => 2
  | top => 3
  | working _ => 6
  | polled _ _ => 7
  | setup => 7
  | polling => 8

end RtPhase

namespace RtWorld

variable {lay : Layout} {w w' : RtWorld} {act : RtAct}

def left (w : RtWorld) : Nat := w.todo.length + w.phase.left

/-- The thread is asked for this act next, whatever the outside makes of it. -/
def Asks (w : RtWorld) : RtAct → Prop
  | .go => w.todo ≠ [] ∨ w.phase = .top ∨ (∃ r woken, w.phase = .polled r woken) ∨
      w.phase = .exiting ∨ w.phase = .leaving
  | .setup _ => w.todo = [] ∧ w.phase = .setup
  | .poll _ => w.todo = [] ∧ w.phase = .polling
  | .pass _ => w.todo = [] ∧ ∃ r, w.phase = .working r
  | _ => False

/-- **What a step leaves to do**: a step of the thread leaves less, unless the thread turns to wait
because no stop was asked for. -/
lemma Did.left (h : Did w act w') (hs : w.thread.loop.Safe lay) :
    (act.ofThread = true ∧ w'.left < w.left) ∨ (act.ofThread = false ∧ w'.left = w.left) ∨
      (w.shared.stop = false ∧ w'.left = 8) := by
  cases h with
  | push ht => exact .inl ⟨rfl, by simp [RtWorld.left, ht]⟩
  | @setup s ht hp _ =>
    have := s.length_warnings
    refine .inl ⟨rfl, ?_⟩
    simp only [RtWorld.left, ht, hp, RtPhase.left, List.length_nil]
    omega
  | @armFailed s e ht hp _ =>
    have := s.length_warnings
    refine .inl ⟨rfl, ?_⟩
    simp only [RtWorld.left, ht, hp, RtPhase.left, List.length_nil, List.length_append,
      List.length_singleton]
    omega
  | top ht hp hstop => exact .inr (.inr ⟨hstop, by simp [RtWorld.left, ht, RtPhase.left]⟩)
  | @pass r p ht hp =>
    refine .inl ⟨rfl, ?_⟩
    obtain ⟨th', res, hpass, hspec⟩ := RtThread.pass_spec (ε := Empty) hs r p
    obtain ⟨expired, sent, ⟨err, hev, herr, -, -⟩, -⟩ := hspec.counted
    have hlen : res.events.length ≤ 2 := by
      rw [hev, List.length_append]
      cases expired <;> simp <;> omega
    rw [hpass, worked_ok]
    simp only [RtWorld.left, ht, hp, RtPhase.left, List.length_nil]
    cases res.goOn <;> simp <;> omega
  | stop ht hp _ | pollFailed ht hp | poll ht hp | drain ht hp | exit ht hp | leave ht hp =>
    exact .inl ⟨rfl, by simp [RtWorld.left, ht, hp, RtPhase.left]⟩
  | takeNone | take | storeStop | signalWake | image => exact .inr (.inl ⟨rfl, rfl⟩)

lemma worked_phase (w : RtWorld) (r : Res Empty (RtThread × RtThread.Passed)) :
    (w.worked r).phase = .top ∨ (w.worked r).phase = .exiting := by
  cases r with
  | ok x =>
    obtain ⟨th, p⟩ := x
    rw [worked_ok]
    cases p.goOn
    · exact .inr rfl
    · exact .inl rfl
  | err e => cases e
  | panic s => exact .inr rfl

/-- How a thread comes to wait, or goes on waiting: nobody had asked it to stop, or it has been
woken, or the step was not about it. -/
lemma Did.polling (h : Did w act w') (hp' : w'.phase = .polling) :
    w'.shared.stop = false ∨ 0 < w'.shared.wakeFd ∨
      (w.phase = .polling ∧ w'.shared.wakeFd = w.shared.wakeFd ∧
        (0 < w'.stopping ∨ w'.shared.stop = w.shared.stop ∧ w'.stopping = w.stopping)) := by
  cases h with
  | top _ _ hs => exact .inl hs
  | signalWake _ => exact .inr (.inl (EventFd.signal_pos _))
  | storeStop => exact .inr (.inr ⟨hp', rfl, .inl (Nat.succ_pos _)⟩)
  | pass _ _ =>
    rcases w.worked_phase (w.thread.pass _ _) with h | h <;> rw [h] at hp' <;> cases hp'
  | push _ | takeNone _ | take _ | image _ => exact .inr (.inr ⟨hp', rfl, .inr ⟨rfl, rfl⟩⟩)
  | setup | armFailed | stop | pollFailed | poll | drain | exit | leave => cases hp'

lemma Did.stop_mono (h : Did w act w') (hs : w.shared.stop = true) : w'.shared.stop = true := by
  cases h with
  | storeStop => rfl
  | pass _ _ => rw [(w.worked_shared _).1, hs]
  | _ => exact hs

/-- A thread that waits although it was asked to stop has been woken, or is about to be. -/
def Heeds (w : RtWorld) : Prop :=
  w.phase = .polling → w.shared.stop = true → 0 < w.shared.wakeFd ∨ 0 < w.stopping

lemma Did.heeds (h : Did w act w') (hi : w.Heeds) : w'.Heeds := by
  intro hp' hs'
  rcases h.polling hp' with hf | hw | ⟨hp, hw, hst | ⟨hs, hst⟩⟩
  · rw [hf] at hs'
    cases hs'
  · exact .inl hw
  · exact .inr hst
  · rw [hw, hst]
    exact hi hp (hs ▸ hs')

/-- The request to stop stands, and the thread does not wait on. -/
structure Stopped (w : RtWorld) : Prop where
  stop : w.shared.stop = true
  wake : w.phase = .polling → 0 < w.shared.wakeFd

lemma Did.stopped (h : Did w act w') (hw : w.Stopped) : w'.Stopped := by
  have hs' := h.stop_mono hw.stop
  refine ⟨hs', fun hp' => ?_⟩
  rcases h.polling hp' with hf | hwake | ⟨hp, hwake, -⟩
  · rw [hf] at hs'
    cases hs'
  · exact hwake
  · rw [hwake]
    exact hw.wake hp

/-- It can make whatever step it is asked for. -/
lemma Stopped.steps (hw : w.Stopped) (ha : w.Asks act) : ∃ w', w.step act = some w' := by
  obtain ⟨thread, phase, todo, shared, stopping, pushed, taken, seen, ticks, passes⟩ := w
  cases act with
  | go =>
    cases todo with
    | cons e todo => exact ⟨_, rfl⟩
    | nil =>
      rcases ha with ha | rfl | ⟨r, woken, rfl⟩ | rfl | rfl
      · exact absurd rfl ha
      all_goals exact ⟨_, rfl⟩
  | setup s =>
    obtain ⟨rfl, rfl⟩ := ha
    cases hs : s.armFailed <;> simp [step, threadStep, hs]
  | poll r =>
    obtain ⟨rfl, rfl⟩ := ha
    have hwake : 0 < shared.wakeFd := hw.wake rfl
    cases r with
    | error e => exact ⟨_, rfl⟩
    | ok r => simp [step, threadStep, hwake]
  | pass p =>
    obtain ⟨rfl, r, rfl⟩ := ha
    exact ⟨_, rfl⟩
  | take | storeStop | signalWake | image => cases ha

/-- A thread that is not gone is asked for something. -/
lemma exists_asks (w : RtWorld) : w.phase = .gone ∧ w.todo = [] ∨ ∃ act, w.Asks act := by
  by_cases ht : w.todo = []
  · cases hp : w.phase with
    | gone => exact .inl ⟨rfl, ht⟩
    | setup => exact .inr ⟨.setup ⟨none, none, none, none⟩, ht, hp⟩
    | polling => exact .inr ⟨.poll (.error ""), ht, hp⟩
    | working r =>
      exact .inr ⟨.pass ⟨.ok 0, ⟨0, ⟨true, true, true⟩, false, none, 0⟩, []⟩, ht, r, hp⟩
    | top => exact .inr ⟨.go, .inr (.inl hp)⟩
    | polled r woken => exact .inr ⟨.go, .inr (.inr (.inl ⟨r, woken, hp⟩))⟩
    | exiting => exact .inr ⟨.go, .inr (.inr (.inr (.inl hp)))⟩
    | leaving => exact .inr ⟨.go, .inr (.inr (.inr (.inr hp)))⟩
  · exact .inr ⟨.go, .inl ht⟩

end RtWorld

section

variable {lay : Layout} {th : RtThread} {w w' : RtWorld}

lemma rt_left_le (hf : th.Fresh lay) (h : (rtThreadSystem th).Reach w) : w.left ≤ 8 := by
  have hi : w.thread.loop.Safe lay ∧ w.left ≤ 8 := by
    refine h.inv (I := fun w => w.thread.loop.Safe lay ∧ w.left ≤ 8) ?_ ?_
    · rintro w rfl
      exact ⟨hf.safe, by simp [RtWorld.left, RtWorld.spawned, RtPhase.left]⟩
    · rintro w act w' ⟨hs, hle⟩ hst
      have hd := RtWorld.step_did hst
      refine ⟨hd.safe hs, ?_⟩
      rcases hd.left hs with ⟨-, h⟩ | ⟨-, h⟩ | ⟨-, h⟩ <;> omega
  exact hi.2

/-- A run of a thread that was stopped: each of its own steps leaves less to do. -/
lemma RtWorld.Stopped.run (hw : w.Stopped) (hs : w.thread.loop.Safe lay) {acts : List RtAct}
    (hr : (rtThreadSystem th).run w acts = some w') :
    w'.Stopped ∧ acts.countP RtAct.ofThread + w'.left ≤ w.left := by
  induction acts generalizing w with
  | nil =>
    cases hr
    exact ⟨hw, by simp⟩
  | cons act acts ih =>
    obtain ⟨w₁, h₁, hr⟩ := System.run_cons.1 hr
    have hd := RtWorld.step_did h₁
    obtain ⟨hw', hle⟩ := ih (hd.stopped hw) (hd.safe hs) hr
    refine ⟨hw', ?_⟩
    rw [List.countP_cons]
    rcases hd.left hs with ⟨ha, h⟩ | ⟨ha, h⟩ | ⟨ha, -⟩
    · simp only [ha, if_true]
      omega
    · simp only [ha, Bool.false_eq_true, if_false]
      omega
    · rw [hw.stop] at ha
      cases ha

/-- Once a request to stop has been made, the thread is on its way out. -/
lemma rt_stopped (h : (rtThreadSystem th).Reach w) (hstop : w.shared.stop = true)
    (hdone : w.stopping = 0) : w.Stopped := by
  have hheeds : w.Heeds := by
    refine h.inv ?_ fun w act w' hi hst => (RtWorld.step_did hst).heeds hi
    rintro w rfl
    exact fun hp => by cases hp
  refine ⟨hstop, fun hp => ?_⟩
  rcases hheeds hp hstop with hw | hst
  · exact hw
  · omega

end

/-- Once a request to stop has been made, in whatever state of the thread, the thread makes at most
eight more steps, whatever the outside does in between; and until it is gone it is never blocked:
it can make the step it is at, with any result of the call that step makes. -/
theorem rt_stop_ends {lay : Layout} {th : RtThread} {w w' : RtWorld} {acts : List RtAct}
    (hf : th.Fresh lay) (h : (rtThreadSystem th).Reach w) (hstop : w.shared.stop = true)
    (hdone : w.stopping = 0) (hr : (rtThreadSystem th).run w acts = some w') :
    acts.countP RtAct.ofThread ≤ 8 ∧
      (w'.phase = .gone ∧ w'.todo = [] ∨
        (∃ act, w'.Asks act) ∧ ∀ act, w'.Asks act → ∃ w'', w'.step act = some w'') := by
  obtain ⟨hw', hle⟩ := (rt_stopped h hstop hdone).run (rt_safe hf h) hr
  have := rt_left_le hf h
  refine ⟨by omega, ?_⟩
  rcases w'.exists_asks with hgone | hasks
  · exact .inl hgone
  · exact .inr ⟨hasks, fun act ha => hw'.steps ha⟩

/-- A stop that comes in while the thread waits. -/
theorem rt_stop_ends_waiting : ∃ w, (rtThreadSystem thread).Reach w ∧ w.phase = .polling ∧
    ∀ acts w', (rtThreadSystem thread).run w acts = some w' →
      acts.countP RtAct.ofThread ≤ 8 := by
  have hrun : ((rtThreadSystem thread).run (.spawned thread)
      [setup, .go, .go, .storeStop, .signalWake]).any
      (fun w => w.phase == .polling && w.shared.stop && w.stopping == 0) = true := by
    decide +kernel
  obtain ⟨w, hw, hp⟩ := System.exists_reach_of_run rfl hrun
  simp only [Bool.and_eq_true, beq_iff_eq] at hp
  obtain ⟨⟨hp, hs⟩, hz⟩ := hp
  exact ⟨w, hw, hp, fun acts w' hr => (rt_stop_ends fresh hw hs hz hr).1⟩

/-! ### The story of a thread -/

lemma RtSetup.isWarning_of_mem_warnings {s : RtSetup} {e : RtThreadEvent} (h : e ∈ s.warnings) :
    e.isWarning = true := by
  rcases s with ⟨_ | ⟨cpu, _ | e⟩, _ | ⟨prio, _ | e⟩, _ | _ | e, arm⟩ <;>
    simp [warnings] at h <;> aesop

namespace RtPhase

/-- The body of the thread has ended. -/
def ends : RtPhase → Bool
  | exiting | leaving | gone => true
  | _ => false

/-- `Exited` has been pushed. -/
def hasExited : RtPhase → Bool
  | leaving | gone => true
  | _ => false

end RtPhase

namespace RtWorld

variable {lay : Layout} {w w' : RtWorld} {act : RtAct}

/-- What the thread has reported and is about to report: the warnings `ws` of its setup, `k`
expiries and the failure `err`, if any, and at last that it exits. `n` is what its counter began
with. -/
structure Story (n : Nat) (w : RtWorld) (ws : List RtThreadEvent) (k : Nat)
    (err : List RtThreadEvent) : Prop where
  text : w.pushed ++ w.todo = ws ++ List.replicate k .watchdogExpired ++ err ++
    if w.phase.hasExited then [.exited] else []
  warnings : ∀ e ∈ ws, e.isWarning = true
  few : ws.length ≤ 3
  error : ∀ e ∈ err, e.isSocketError = true
  one : err.length ≤ 1
  expired : w.thread.tally .expirations = n + k
  fresh : w.phase = .setup → w.pushed ++ w.todo = []
  quiet : w.phase.ends = false → err = []
  cause : w.phase.ends = true → err = [] → w.shared.stop = true
  last : w.phase.hasExited = true → w.todo = []
  running : w.shared.running = false → w.phase = .gone

/-- While the body runs, the text is the warnings and the expiries. -/
lemma Story.body {n k : Nat} {ws err : List RtThreadEvent} (hy : w.Story n ws k err)
    (hp : w.phase.ends = false) :
    w.pushed ++ w.todo = ws ++ List.replicate k .watchdogExpired ∧ w.shared.running = true := by
  have hx : w.phase.hasExited = false := by
    cases hph : w.phase <;> first | rfl | (rw [hph] at hp; cases hp)
  constructor
  · simpa [hy.quiet hp, hx] using hy.text
  · by_contra hr
    rw [hy.running (Bool.not_eq_true _ ▸ hr)] at hp
    cases hp

/-- The body goes on, and reports expiries at most. -/
lemma Story.goOn {n k j : Nat} {ws err : List RtThreadEvent} (hy : w.Story n ws k err)
    (hp : w.phase.ends = false)
    (htext : w'.pushed ++ w'.todo = w.pushed ++ w.todo ++ List.replicate j .watchdogExpired)
    (hexp : w'.thread.tally .expirations = w.thread.tally .expirations + j)
    (hp' : w'.phase.ends = false) (hne : w'.phase ≠ .setup)
    (hrun : w'.shared.running = w.shared.running) : w'.Story n ws (k + j) [] := by
  obtain ⟨hbody, halive⟩ := hy.body hp
  have hx : w'.phase.hasExited = false := by
    cases hph : w'.phase <;> first | rfl | (rw [hph] at hp'; cases hp')
  refine ⟨?_, hy.warnings, hy.few, by simp, Nat.zero_le 1, ?_, fun h => absurd h hne, fun _ => rfl,
    fun h => ?_, fun h => ?_, fun h => ?_⟩
  · rw [htext, hbody, hx]
    simp
  · rw [hexp, hy.expired, Nat.add_assoc]
  · rw [hp'] at h
    cases h
  · rw [hx] at h
    cases h
  · rw [hrun, halive] at h
    cases h

/-- The body ends with its last report, if any. -/
lemma Story.finish {n k j : Nat} {ws err err' : List RtThreadEvent} (hy : w.Story n ws k err)
    (hp : w.phase.ends = false)
    (htext : w'.pushed ++ w'.todo =
      w.pushed ++ w.todo ++ (List.replicate j .watchdogExpired ++ err'))
    (hexp : w'.thread.tally .expirations = w.thread.tally .expirations + j)
    (hp' : w'.phase = .exiting) (hrun : w'.shared.running = w.shared.running)
    (herr : ∀ e ∈ err', e.isSocketError = true) (hone : err'.length ≤ 1)
    (hcause : err' = [] → w'.shared.stop = true) : w'.Story n ws (k + j) err' := by
  obtain ⟨hbody, halive⟩ := hy.body hp
  refine ⟨?_, hy.warnings, hy.few, herr, hone, ?_, fun h => ?_, fun h => ?_, fun _ => hcause,
    fun h => ?_, fun h => ?_⟩
  · rw [htext, hbody, hp']
    simp only [RtPhase.hasExited, Bool.false_eq_true, if_false, List.append_nil,
      List.replicate_add, List.append_assoc]
  · rw [hexp, hy.expired, Nat.add_assoc]
  · rw [hp'] at h
    cases h
  · rw [hp'] at h
    cases h
  · rw [hp'] at h
    cases h
  · rw [hrun, halive] at h
    cases h

/-- The setup reports its warnings. -/
lemma Story.setUp {n k : Nat} {ws err : List RtThreadEvent} (hy : w.Story n ws k err)
    (hp : w.phase = .setup) (s : RtSetup) :
    ({ w with todo := s.warnings, phase := .top } : RtWorld).Story n s.warnings 0 [] := by
  have hnil := hy.fresh hp
  obtain ⟨hbody, halive⟩ := hy.body (by rw [hp]; rfl)
  have hk : k = 0 := by
    rw [hnil] at hbody
    simpa using (List.append_eq_nil_iff.1 hbody.symm).2
  refine ⟨?_, fun e => RtSetup.isWarning_of_mem_warnings, s.length_warnings, by simp,
    Nat.zero_le 1, hk ▸ hy.expired, by simp, fun _ => rfl, by simp [RtPhase.ends],
    by simp [RtPhase.hasExited], fun h => ?_⟩
  · simp [(List.append_eq_nil_iff.1 hnil).1, RtPhase.hasExited]
  · rw [halive] at h
    cases h

/-- A pass reports its expiry and its failure, if any. -/
lemma Story.worked {n k : Nat} {ws err : List RtThreadEvent} {r : RtReady} (hy : w.Story n ws k err)
    (hs : w.thread.loop.Safe lay) (ht : w.todo = []) (hp : w.phase = .working r) (p : RtPass) :
    ∃ k' err', (w.worked (w.thread.pass r p)).Story n ws k' err' := by
  have hends : w.phase.ends = false := by rw [hp]; rfl
  obtain ⟨th', res, hpass, hspec⟩ := RtThread.pass_spec (ε := Empty) hs r p
  obtain ⟨expired, sent, ⟨err', hev, hone, herr, hgo⟩, htally, -⟩ := hspec.counted
  have hev' : res.events = List.replicate expired.toNat .watchdogExpired ++ err' := by
    rw [hev]
    cases expired <;> rfl
  have hexp : th'.tally .expirations = w.thread.tally .expirations + expired.toNat := by
    rw [htally]
    simp only [Pi.add_apply, framesTally_ofTimer (c := .expirations) rfl]
    cases expired <;> cases res.ticked <;> cases sent <;> rfl
  rw [hpass, worked_ok]
  cases hon : res.goOn with
  | true =>
    refine ⟨k + expired.toNat, [], hy.goOn hends ?_ hexp rfl (by simp) rfl⟩
    rw [ht, hev', hgo.1 hon, List.append_nil, List.append_nil]
  | false =>
    refine ⟨k + expired.toNat, err', hy.finish hends ?_ hexp rfl rfl herr hone fun h => ?_⟩
    · rw [ht, hev', List.append_nil]
    · rw [hgo.2 h] at hon
      cases hon

lemma Did.story {n k : Nat} {ws err : List RtThreadEvent} (h : Did w act w')
    (hs : w.thread.loop.Safe lay) (hy : w.Story n ws k err) :
    ∃ ws' k' err', w'.Story n ws' k' err' := by
  cases h with
  | @push e todo ht =>
    refine ⟨ws, k, err, { hy with text := ?_, fresh := ?_, last := ?_ }⟩
    · rw [← hy.text, ht, List.append_assoc, List.singleton_append]
    · intro hp
      have := hy.fresh hp
      simp [ht] at this
    · intro hp
      rw [hy.last hp] at ht
      cases ht
  | @setup s ht hp _ => exact ⟨_, _, _, hy.setUp hp s⟩
  | @armFailed s e ht hp _ =>
    refine ⟨_, _, [.socketError ("timerfd arm: " ++ e)], (hy.setUp hp s).finish (j := 0) rfl ?_ rfl
      rfl rfl ?_ (le_refl 1) ?_⟩
    · simp
    · simp [RtThreadEvent.isSocketError]
    · simp
  | stop ht hp hstop =>
    exact ⟨ws, k, [], hy.finish (j := 0) (by rw [hp]; rfl) (by simp) rfl rfl rfl (by simp)
      (Nat.zero_le 1) fun _ => hstop⟩
  | @pollFailed e ht hp =>
    refine ⟨ws, k, [.socketError ("poll: " ++ e)], hy.finish (j := 0) (by rw [hp]; rfl) ?_ rfl rfl
      rfl ?_ (le_refl 1) ?_⟩
    · simp [ht]
    · simp [RtThreadEvent.isSocketError]
    · simp
  | top ht hp _ | poll ht hp | drain ht hp =>
    exact ⟨ws, k, [], hy.goOn (j := 0) (by rw [hp]; rfl) (by simp) rfl rfl (by simp) rfl⟩
  | @pass r p ht hp => exact ⟨ws, hy.worked hs ht hp p⟩
  | exit ht hp =>
    refine ⟨ws, k, err, { hy with
      text := ?_, fresh := ?_, quiet := ?_, cause := fun _ => hy.cause (by rw [hp]; rfl)
      last := fun _ => ht, running := ?_ }⟩
    · have := hy.text
      simp only [ht, hp, RtPhase.hasExited, List.append_nil, Bool.false_eq_true, if_false] at this
      simp [ht, this, RtPhase.hasExited]
    · simp
    · simp [RtPhase.ends]
    · intro h
      have := hy.running h
      rw [hp] at this
      cases this
  | leave ht hp =>
    refine ⟨ws, k, err, { hy with
      text := ?_, fresh := ?_, quiet := ?_, cause := fun _ => hy.cause (by rw [hp]; rfl)
      last := fun _ => ht, running := fun _ => rfl }⟩
    · rw [hy.text, hp]
      rfl
    · simp
    · simp [RtPhase.ends]
  | takeNone _ | take _ | signalWake _ | image _ => exact ⟨ws, k, err, { hy with }⟩
  | storeStop => exact ⟨ws, k, err, { hy with cause := fun _ _ => rfl }⟩

end RtWorld

lemma rt_story {lay : Layout} {th : RtThread} {w : RtWorld} (hf : th.Fresh lay)
    (h : (rtThreadSystem th).Reach w) :
    ∃ ws k err, w.Story th.loop.engine.stats.watchdogExpirations ws k err := by
  let n := th.loop.engine.stats.watchdogExpirations
  have hi : w.thread.loop.Safe lay ∧ ∃ ws k err, w.Story n ws k err := by
    refine h.inv (I := fun w => w.thread.loop.Safe lay ∧ ∃ ws k err, w.Story n ws k err) ?_ ?_
    · rintro w rfl
      refine ⟨hf.safe, [], 0, [], ?_⟩
      exact ⟨rfl, by simp, Nat.zero_le 3, by simp, Nat.zero_le 1, rfl, fun _ => rfl, fun _ => rfl,
        by simp [RtWorld.spawned, RtPhase.ends], fun _ => rfl,
        by simp [RtWorld.spawned, RtShared.new]⟩
    · rintro w act w' ⟨hs, ws, k, err, hy⟩ hst
      have hd := RtWorld.step_did hst
      exact ⟨hd.safe hs, hd.story hs hy⟩
  exact hi.2

/-- **The story of a thread**, under every interleaving with its owner: up to three warnings of its
setup, one expiry for each that it counted, one failure at most, and `Exited` as the last. What the
owner has taken and can still take is a beginning of it; once the thread no longer runs it is all of
it, and a thread that ended without a failure was asked to. -/
theorem rt_events_life {lay : Layout} {th : RtThread} {w : RtWorld} (hf : th.Fresh lay)
    (h : (rtThreadSystem th).Reach w) :
    ∃ ws k err, ws.length ≤ 3 ∧ (∀ e ∈ ws, e.isWarning = true) ∧
      err.length ≤ 1 ∧ (∀ e ∈ err, e.isSocketError = true) ∧
      w.thread.loop.engine.stats.watchdogExpirations =
        th.loop.engine.stats.watchdogExpirations + k ∧
      w.taken ++ w.shared.queue <+:
        ws ++ List.replicate k .watchdogExpired ++ err ++ [.exited] ∧
      (w.shared.running = false →
        w.taken ++ w.shared.queue = ws ++ List.replicate k .watchdogExpired ++ err ++ [.exited] ∧
        (err = [] → w.shared.stop = true)) := by
  have hb := rt_bell h
  obtain ⟨ws, k, err, hy⟩ := rt_story hf h
  have htext := hy.text
  refine ⟨ws, k, err, hy.few, hy.warnings, hy.one, hy.error, hy.expired, ?_, fun hrun => ?_⟩
  · rw [hb.fifo]
    refine (List.prefix_append w.pushed w.todo).trans ?_
    rw [htext]
    cases w.phase.hasExited
    · simp
    · exact List.prefix_rfl
  · have hp := hy.running hrun
    rw [hp] at htext
    rw [hb.fifo]
    refine ⟨?_, hy.cause (by rw [hp]; rfl)⟩
    simpa [hy.last (by rw [hp]; rfl), RtPhase.hasExited] using htext

theorem rt_events_life_unsent : ∃ w, (rtThreadSystem thread).Reach w ∧
    w.shared.running = false ∧ ∃ ws k err, w.taken ++ w.shared.queue =
      ws ++ List.replicate k .watchdogExpired ++ err ++ [.exited] ∧ err ≠ [] := by
  have hrun : ((rtThreadSystem thread).run (.spawned thread)
      [setup, .go, .go, ticked, .take, .go, badTick, .go, .go, .go]).any
      (fun w => !w.shared.running && !w.shared.stop) = true := by
    decide +kernel
  obtain ⟨w, hw, hp⟩ := System.exists_reach_of_run rfl hrun
  simp only [Bool.and_eq_true, Bool.not_eq_true'] at hp
  obtain ⟨ws, k, err, -, -, -, -, -, -, hend⟩ := rt_events_life fresh hw
  obtain ⟨hall, hstop⟩ := hend hp.1
  refine ⟨w, hw, hp.1, ws, k, err, hall, fun herr => ?_⟩
  have := hstop herr
  rw [hp.2] at this
  cases this

end Pnio
