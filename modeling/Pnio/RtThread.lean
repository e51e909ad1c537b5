import Pnio.Hist
import Pnio.RtLoop

/-!
The RT thread: it sets itself up, then waits for the timer, for its socket or for a request to
stop, and works off what is ready. What it has to report goes into a queue with a doorbell for
the acyclic side.

The owner of the thread runs beside it. The two meet at the stop flag, at two event counters, at
the queue, whose lock makes a push and a take one step each, and at the image.
-/

namespace Pnio

/-- The events with their texts, which the device does not look at. -/
inductive RtThreadEvent where
  | watchdogExpired
  | socketError (why : String)
  | schedWarning (what : String)
  | exited
deriving DecidableEq, Repr

def maxRxPerPass : Nat := 64

def maxNoProgressIterations : Nat := 1000

/-! ### One pass of the loop -/

/-- What one `recv` gives. -/
inductive Recv where
  | none
  | frame (bytes : Bytes) (now : Instant) (free : Bool)
  | frameTooLong
  | failed (why : String)

/-- One turn of the drain; whether the socket is readable is only asked of a descriptor. -/
structure RxTurn where
  readable : Except String Bool
  recv : Recv

/-- What a due timer meets. -/
structure TickTurn where
  now : Instant
  locks : TickLocks
  problem : Bool
  sendFailed : Option String
  elapsed : Nat

/-- What one pass of the loop meets after `poll`. -/
structure RtPass where
  timer : Except String Nat
  tick : TickTurn
  rx : List RxTurn

/-- The descriptors that `poll` found readable. -/
structure RtReady where
  timer : Bool
  socket : Bool
deriving DecidableEq, Repr

/-- The thread's own state; `hasFd` is whether its transport can be polled. -/
structure RtThread where
  loop : RtLoop
  tickLateness : Histogram
  cycleWork : Histogram
  rxInterval : Histogram
  noProgress : Nat
  hasFd : Bool

namespace RtThread

variable {ε : Type}

/-- The counters and histograms are those of the device; they go on from one AR to the next. -/
def start (layout : Layout) (ourMac cpuMac : MacAddr) (stats : RtStats)
    (tickLateness cycleWork rxInterval : Histogram) (image : IoImage) (hasFd : Bool) : RtThread :=
  { loop := .start layout ourMac cpuMac stats image
    tickLateness, cycleWork, rxInterval
    noProgress := 0
    hasFd }

/-- The thread when others have worked on the image. -/
def onImage (th : RtThread) (image : IoImage) : RtThread :=
  { th with loop := { th.loop with image } }

/-- An oversized frame is counted and nothing else. -/
def countInvalid (th : RtThread) : RtThread :=
  let e := th.loop.engine
  { th with loop := { th.loop with engine :=
    { e with stats := { e.stats with rxInvalid := e.stats.rxInvalid + 1 } } } }

/-- The interval to the accepted frame before. -/
def noteInterval (th : RtThread) (prevRx : Option Instant) (now : Instant) :
    RxVerdict → RtThread
  | .accepted _ _ _ =>
    match prevRx with
    | some prev => { th with rxInterval := th.rxInterval.record (now - prev) }
    | none => th
  | _ => th

def onFrame (th : RtThread) (bytes : Bytes) (now : Instant) (free : Bool) :
    Res ε (RtThread × RxVerdict) := do
  let prevRx := th.loop.engine.lastRx
  let (loop, verdict) ← th.loop.receive bytes now free
  .ok (({ th with loop }).noteInterval prevRx now verdict, verdict)

def drainShouldContinue (hasFd readable gotFrame : Bool) : Bool :=
  if hasFd then readable else gotFrame

/-- What came of one drain: the verdicts on the frames (none for an oversized one), and the event
if the socket failed. -/
structure Drained where
  seen : List (Option RxVerdict)
  failed : Option RtThreadEvent
deriving DecidableEq, Repr

def Drained.push (v : Option RxVerdict) (d : Drained) : Drained := { d with seen := v :: d.seen }

/-- The turns of a drain; where the list ends there is nothing more to receive. -/
def drainRx (th : RtThread) : List RxTurn → Res ε (RtThread × Drained)
  | [] => .ok (th, ⟨[], none⟩)
  | turn :: turns =>
    match (if th.hasFd then turn.readable else .ok true) with
    | .error e => .ok (th, ⟨[], some (.socketError ("poll: " ++ e))⟩)
    | .ok false => .ok (th, ⟨[], none⟩)
    | .ok true =>
      match turn.recv with
      | .none =>
        if drainShouldContinue th.hasFd true false then th.drainRx turns
        else .ok (th, ⟨[], none⟩)
      | .frame bytes now free => do
        let (th, verdict) ← th.onFrame bytes now free
        let (th, d) ← if drainShouldContinue th.hasFd true true then th.drainRx turns
          else .ok (th, ⟨[], none⟩)
        .ok (th, d.push (some verdict))
      | .frameTooLong => do
        let th := th.countInvalid
        let (th, d) ← if drainShouldContinue th.hasFd true true then th.drainRx turns
          else .ok (th, ⟨[], none⟩)
        .ok (th, d.push none)
      | .failed e => .ok (th, ⟨[], some (.socketError ("recv: " ++ e))⟩)

/-- The drain of a pass, if it makes one. -/
def drainIf (th : RtThread) (drain : Bool) (turns : List RxTurn) : Res ε (RtThread × Drained) :=
  if drain then th.drainRx (turns.take maxRxPerPass) else .ok (th, ⟨[], none⟩)

/-- What came of the timer: the events, whether it ticked, and whether the loop goes on. -/
structure Ticked where
  events : List RtThreadEvent
  ticked : Bool
  goOn : Bool
deriving DecidableEq, Repr

def onTimer (th : RtThread) (ready : Bool) (p : RtPass) : Res ε (RtThread × Ticked) :=
  if !ready then .ok (th, ⟨[], false, true⟩)
  else
    match p.timer with
    | .error e => .ok (th, ⟨[.socketError ("timerfd read: " ++ e)], false, false⟩)
    | .ok 0 => .ok (th, ⟨[], false, true⟩)
    | .ok expirations => do
      let (loop, out) ← th.loop.tick p.tick.now expirations p.tick.locks p.tick.problem
      let th := { th with loop, tickLateness := th.tickLateness.record out.lateness }
      let events := if out.watchdogExpired then [.watchdogExpired] else []
      match p.tick.sendFailed with
      | some e => .ok (th, ⟨events ++ [.socketError ("send: " ++ e)], true, false⟩)
      | none =>
        .ok ({ th with cycleWork := th.cycleWork.record p.tick.elapsed }, ⟨events, true, true⟩)

/-- What came of a pass. -/
structure Passed where
  events : List RtThreadEvent
  ticked : Bool
  seen : List (Option RxVerdict)
  goOn : Bool
deriving DecidableEq, Repr

/-- A pass with neither a tick nor a frame counts towards the limit. -/
def account (th : RtThread) (t : Ticked) (d : Drained) : RtThread × Passed :=
  if t.ticked || !d.seen.isEmpty then
    ({ th with noProgress := 0 }, ⟨t.events, t.ticked, d.seen, true⟩)
  else
    let noProgress := min (th.noProgress + 1) (2 ^ 32 - 1)
    if maxNoProgressIterations ≤ noProgress then
      ({ th with noProgress },
        ⟨t.events ++ [.socketError "poll made no progress"], t.ticked, d.seen, false⟩)
    else ({ th with noProgress }, ⟨t.events, t.ticked, d.seen, true⟩)

/-- One pass: the timer, then the socket if it is ready; a transport without a descriptor is
drained after a tick. -/
def pass (th : RtThread) (ready : RtReady) (p : RtPass) : Res ε (RtThread × Passed) := do
  let (th, t) ← th.onTimer ready.timer p
  if !t.goOn then .ok (th, ⟨t.events, t.ticked, [], false⟩)
  else do
    let (th, d) ← th.drainIf (if th.hasFd then ready.socket else t.ticked) p.rx
    match d.failed with
    | some e => .ok (th, ⟨t.events ++ [e], t.ticked, d.seen, false⟩)
    | none => .ok (th.account t d)

end RtThread

/-! ### The thread and its owner -/

/-- The counter of an `eventfd`; a write that would pass the limit is refused. -/
def EventFd.signal (n : Nat) : Nat := if n + 1 < 2 ^ 64 - 1 then n + 1 else n

structure RtShared where
  stop : Bool
  running : Bool
  queue : List RtThreadEvent
  eventFd : Nat
  wakeFd : Nat
deriving DecidableEq, Repr

namespace RtShared

def new : RtShared := { stop := false, running := true, queue := [], eventFd := 0, wakeFd := 0 }

def pushEvent (s : RtShared) (e : RtThreadEvent) : RtShared :=
  { s with queue := s.queue ++ [e], eventFd := EventFd.signal s.eventFd }

/-- The counter goes back to zero once the queue is empty. -/
def takeEvent (s : RtShared) : RtShared × Option RtThreadEvent :=
  match s.queue with
  | [] => ({ s with eventFd := 0 }, none)
  | e :: queue => ({ s with queue, eventFd := if queue.isEmpty then 0 else s.eventFd }, some e)

end RtShared

/-- What the thread was asked to set up, and the error of each step that failed. -/
structure RtSetup where
  cpuPin : Option (Nat × Option String)
  rtPriority : Option (UInt8 × Option String)
  lockMemory : Option (Option String)
  armFailed : Option String
deriving DecidableEq, Repr

namespace RtSetup

def warnings (s : RtSetup) : List RtThreadEvent :=
  (match s.cpuPin with
    | some (cpu, some e) => [.schedWarning ("CPU pin " ++ toString cpu ++ ": " ++ e)]
    | _ => []) ++
  (match s.rtPriority with
    | some (prio, some e) =>
      [.schedWarning ("SCHED_FIFO priority " ++ toString prio.toNat ++ ": " ++ e)]
    | _ => []) ++
  (match s.lockMemory with
    | some (some e) => [.schedWarning ("mlockall: " ++ e)]
    | _ => [])

end RtSetup

/-- Where the thread is. -/
inductive RtPhase where
  | setup
  /-- Before the test of the stop flag. -/
  | top
  | polling
  /-- `poll` has returned; the second flag is for the wake counter. -/
  | polled (ready : RtReady) (woken : Bool)
  | working (ready : RtReady)
  /-- The body has returned or panicked, `Exited` is next. -/
  | exiting
  | leaving
  | gone
deriving DecidableEq, Repr

/-- The thread, its owner and what they share. `todo` is what the thread is about to push;
`stopping` counts the requests to stop that have set the flag and not yet signalled. `pushed` and
`taken` keep the events of the past, `seen` and `ticks` what the thread worked off. -/
structure RtWorld where
  thread : RtThread
  phase : RtPhase
  todo : List RtThreadEvent
  shared : RtShared
  stopping : Nat
  pushed : List RtThreadEvent
  taken : List RtThreadEvent
  seen : List (Option RxVerdict)
  ticks : Nat
  passes : Nat

inductive RtAct where
  /-- A step of the thread that depends on nothing outside. -/
  | go
  | setup (s : RtSetup)
  | poll (r : Except String RtReady)
  | pass (p : RtPass)
  | take
  | storeStop
  | signalWake
  /-- Others have worked on the image. -/
  | image (im : IoImage)

namespace RtWorld

/-- A pass that panicked unwinds into the exit guard. -/
def worked (w : RtWorld) : Res Empty (RtThread × RtThread.Passed) → RtWorld
  | .ok (thread, r) =>
    { w with
      thread
      phase := if r.goOn then .top else .exiting
      todo := r.events
      seen := w.seen ++ r.seen
      ticks := w.ticks + if r.ticked then 1 else 0
      passes := w.passes + 1 }
  | .err _ => w
  | .panic _ => { w with phase := .exiting, passes := w.passes + 1 }

/-- The steps of the thread: a push if there is one to make, else what its phase asks for. -/
def threadStep (w : RtWorld) (act : RtAct) : Option RtWorld :=
  match w.todo, act with
  | e :: todo, .go =>
    some { w with todo, shared := w.shared.pushEvent e, pushed := w.pushed ++ [e] }
  | _ :: _, _ => none
  | [], act =>
    match w.phase, act with
    | .setup, .setup s =>
      match s.armFailed with
      | some e => some { w with
          todo := s.warnings ++ [.socketError ("timerfd arm: " ++ e)], phase := .exiting }
      | none => some { w with todo := s.warnings, phase := .top }
    | .top, .go => some { w with phase := if w.shared.stop then .exiting else .polling }
    | .polling, .poll (.error e) =>
      some { w with todo := [.socketError ("poll: " ++ e)], phase := .exiting }
    | .polling, .poll (.ok r) =>
      -- `poll` waits until something is readable
      if r.timer || (w.thread.hasFd && r.socket) || 0 < w.shared.wakeFd then
        some { w with phase := .polled r (0 < w.shared.wakeFd) }
      else none
    | .polled r woken, .go =>
      some { w with
        phase := .working r
        shared := { w.shared with wakeFd := if woken then 0 else w.shared.wakeFd } }
    | .working r, .pass p => some (w.worked (w.thread.pass r p))
    | .exiting, .go =>
      some { w with
        phase := .leaving
        shared := w.shared.pushEvent .exited
        pushed := w.pushed ++ [.exited] }
    | .leaving, .go => some { w with phase := .gone, shared := { w.shared with running := false } }
    | _, _ => none

/-- The steps of the owner, and of whoever else works on the image. -/
def ownerStep (w : RtWorld) : RtAct → Option RtWorld
  | .take =>
    match w.shared.takeEvent with
    | (shared, some e) => some { w with shared, taken := w.taken ++ [e] }
    | (shared, none) => some { w with shared }
  | .storeStop =>
    some { w with shared := { w.shared with stop := true }, stopping := w.stopping + 1 }
  | .signalWake =>
    if w.stopping = 0 then none
    else some { w with
      stopping := w.stopping - 1
      shared := { w.shared with wakeFd := EventFd.signal w.shared.wakeFd } }
  | .image im => some { w with thread := w.thread.onImage im }
  | _ => none

def step (w : RtWorld) (act : RtAct) : Option RtWorld :=
  match act with
  | .take | .storeStop | .signalWake | .image _ => w.ownerStep act
  | _ => w.threadStep act

end RtWorld

/-- A thread that was just spawned. -/
def RtWorld.spawned (thread : RtThread) : RtWorld :=
  { thread, phase := .setup, todo := [], shared := .new, stopping := 0, pushed := []
    taken := [], seen := [], ticks := 0, passes := 0 }

def rtThreadSystem (th : RtThread) : System RtWorld RtAct where
  init w := w = .spawned th
  step := RtWorld.step

end Pnio
