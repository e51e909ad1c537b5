import Pnio.DeviceOps
import Pnio.RtEvents

/-!
The device together with its RT threads: the acyclic thread, which owns the device, every RT thread
it has spawned, and the threads of the application.

They meet at the image, at the cell the callback writes, and at what an RT thread shares with its
handle. Where the acyclic thread works on these, it takes the steps of the source one by one: the
callback comes before `start_runner` and `stop_runner`, and these rebuild the image, spawn, ask the
thread to stop, wait for it, mark the outputs as stale and clear the image one after the other. What
it does to the device alone is one step for each operation.
-/

namespace Pnio

namespace RtThreadEvent

/-- The event without its text. -/
def toDevice : RtThreadEvent → RtEvent
  | watchdogExpired => .watchdogExpired
  | socketError _ => .socketError
  | schedWarning _ => .schedWarning
  | exited => .exited

/-- The device gives up the AR for it. -/
def isFatal : RtThreadEvent → Bool
  | watchdogExpired | socketError _ => true
  | schedWarning _ | exited => false

end RtThreadEvent

/-- What a new thread finds besides the image. The counters are shared with the threads before. -/
structure RtBoot where
  stats : RtStats
  tickLateness : Histogram
  cycleWork : Histogram
  rxInterval : Histogram
  hasFd : Bool

namespace Device

/-- The layout `start_runner` builds, if there is to be an RT thread. -/
def layout (d : Device) : Option Layout :=
  if d.setup.rt then do
    let params ← d.cm.params
    (Layout.fromAr params d.setup.model).toOption
  else none

/-- The thread for the AR that has just come up. -/
def newThread (d : Device) (boot : RtBoot) : Option RtThread := do
  let params ← d.cm.params
  let layout ← d.layout
  some (.start layout d.setup.dcp.mac params.initiatorMac boot.stats boot.tickLateness
    boot.cycleWork boot.rxInterval d.image boot.hasFd)

end Device

def RtWorld.onImage (w : RtWorld) (image : IoImage) : RtWorld :=
  { w with thread := w.thread.onImage image }

/-! ### The acyclic thread -/

/-- The calls of the device. The events of a step are those of the thread, not those of `i`. -/
inductive DeviceCall where
  | step (i : Device.StepInput)
  | shutdown (now : Instant) (spawns : Bool)
  | abortWithErrRta (reason : AbortReason) (now : Instant) (spawns : Bool)

/-- What a call has still to do. -/
inductive Task where
  | op (o : DeviceOp)
  /-- The events of the RT thread are taken until there are none. -/
  | drain (now : Instant) (spawns : Bool)
  /-- What was deferred is performed until nothing is left. -/
  | perform (now : Instant) (spawns : Bool)

def DeviceCall.tasks (d : Device) : DeviceCall → List Task
  | .step i => i.frontOps.map .op ++ [.drain i.now i.spawns] ++ i.timerOps.map .op ++
      [.perform i.now i.spawns]
  | .shutdown now spawns =>
    if d.cm.ar.state = .idle then [] else [.op (.abort .shutdown now spawns)]
  | .abortWithErrRta reason now spawns => [.op (.abort reason now spawns)]

/-- Where the acyclic thread is. -/
inductive Pc where
  /-- At the loop of `dispatch` over the notifications, or outside of `dispatch`. -/
  | loop
  /-- `start_runner` begins. -/
  | start
  /-- The image is rebuilt, and the thread is spawned next. -/
  | spawn
  /-- `stop_runner` begins. -/
  | stop
  /-- The thread with this number is asked to stop: the flag, then the wake-up. -/
  | flag (k : Nat)
  | wake (k : Nat)
  | join (k : Nat)
  /-- The validity is read, and then set as that of an expired watchdog. -/
  | read (k : Nat)
  | expire (k : Nat) (v : Validity)
  | clear (k : Nat)
  /-- The handle is dropped, which asks the thread to stop once more. -/
  | dropFlag (k : Nat)
  | dropWake (k : Nat)
deriving DecidableEq

/-- What follows a call of the callback. -/
def Pc.after : ArState × Option AbortReason → Pc
  | (.data, none) => .start
  | (.idle, some _) => .stop
  | _ => .loop

structure Stack where
  /-- The image in it is the one the threads share. -/
  device : Device
  /-- What the call in progress has deferred, and what it has still to do. -/
  pending : List Batch
  todo : List Task
  /-- The notifications `dispatch` has still to pass on. -/
  notify : List (ArState × Option AbortReason)
  pc : Pc
  /-- The calls of the state-change callback so far. -/
  told : List (ArState × Option AbortReason)
  /-- The number of the RT thread behind the handle. -/
  handle : Option Nat
  /-- The RT threads, in the order in which they were spawned. -/
  threads : List RtWorld
  /-- How often the acyclic thread has found no more events of the RT thread. -/
  drained : Nat
  /-- The device is dropped. -/
  dropped : Bool

inductive StackAct where
  | call (c : DeviceCall)
  /-- The acyclic thread goes on; `boot` is for the thread it may spawn. -/
  | go (boot : RtBoot)
  /-- It has waited long enough for a thread that does not end. -/
  | timeout
  /-- The device is dropped, because its owner is done with it, or because a transport has failed
  in the middle of a call. What such a call has made of the device is not looked at again. -/
  | drop (left : Device)
  /-- A step of the RT thread with this number. -/
  | thread (k : Nat) (act : RtAct)
  /-- The application writes its inputs. -/
  | write (slot subslot : UInt16) (bytes : Bytes)

namespace Stack

def new (setup : DeviceSetup) : Stack :=
  { device := .new setup, pending := [], todo := [], notify := [], pc := .loop, told := []
    handle := none, threads := [], drained := 0, dropped := false }

def onImage (s : Stack) (image : IoImage) : Stack :=
  { s with device := { s.device with image } }

def moveTo (s : Stack) (pc : Pc) : Stack := { s with pc }

def withThread (s : Stack) (k : Nat) (w : RtWorld) : Stack :=
  { s.onImage w.thread.loop.image with threads := s.threads.set k w }

/-- A step of an RT thread, or of its owner, on the image as it is now. -/
def onThread (s : Stack) (k : Nat) (act : RtAct) : Option Stack := do
  let w ← s.threads[k]?
  let w ← (w.onImage s.device.image).step act
  some (s.withThread k w)

/-- After an operation of the device. What it has to tell the application, and what goes with that
for the image and the thread, is left to `go`. -/
def operated (s : Stack) (todo : List Task) (r : Device × List Batch) : Stack :=
  { s with
    device := { r.1 with image := s.device.image }
    pending := r.2
    todo
    notify := callbacksOf (r.1.log.drop s.device.log.length) }

def operate (s : Stack) (o : DeviceOp) (todo : List Task) : Option Stack :=
  (Device.operate (s.device, s.pending) o).map (s.operated todo)

/-- The next task of a call. A panic has no successor. -/
def work (s : Stack) : Option Stack :=
  match s.todo with
  | [] => none
  | .op o :: todo => s.operate o todo
  | .drain now spawns :: todo =>
    match s.handle with
    | none => some { s with todo, drained := s.drained + 1 }
    | some k => do
      let w ← s.threads[k]?
      let s ← s.onThread k .take
      match w.shared.takeEvent.2 with
      | none => some { s with todo, drained := s.drained + 1 }
      | some e => s.operate (.event now spawns e.toDevice) (.drain now spawns :: todo)
  | .perform now spawns :: todo =>
    match s.pending with
    | [] => some { s with todo }
    | _ :: _ => s.operate (.apply now spawns) (.perform now spawns :: todo)

/-- The next step of the acyclic thread. It comes out of `join` when the thread has finished. -/
def go (s : Stack) (boot : RtBoot) : Option Stack :=
  match s.pc with
  | .loop =>
    match s.notify with
    | [] => s.work
    | n :: notify => some { s with told := s.told ++ [n], notify, pc := .after n }
  | .start =>
    match s.device.layout with
    | none => some (s.moveTo .loop)
    | some layout => some ((s.onImage (s.device.image.rebuild layout)).moveTo
        (if s.device.runner then .spawn else .loop))
  | .spawn => (s.device.newThread boot).map fun th => { s with
      handle := some s.threads.length
      threads := s.threads ++ [.spawned th]
      pc := .loop }
  | .stop =>
    match s.handle with
    | none => some (s.moveTo .loop)
    | some k => some { s with handle := none, pc := .flag k }
  | .flag k => (s.onThread k .storeStop).map (·.moveTo (.wake k))
  | .wake k => (s.onThread k .signalWake).map (·.moveTo (.join k))
  | .join k => do
    let w ← s.threads[k]?
    if w.phase = .gone then some (s.moveTo (.read k)) else none
  | .read k => some (s.moveTo (.expire k
      { s.device.image.outputs.validity with watchdog := .expired, providerRun := false }))
  | .expire k v => some ((s.onImage (s.device.image.setValidity v)).moveTo (.clear k))
  | .clear k => some ((s.onImage s.device.image.clear).moveTo (.dropFlag k))
  | .dropFlag k => (s.onThread k .storeStop).map (·.moveTo (.dropWake k))
  | .dropWake k => (s.onThread k .signalWake).map (·.moveTo .loop)

/-- The acyclic thread is in no dispatch. -/
def Free (s : Stack) : Prop := s.pc = .loop ∧ s.notify = [] ∧ s.dropped = false

instance (s : Stack) : Decidable s.Free :=
  inferInstanceAs (Decidable (s.pc = .loop ∧ s.notify = [] ∧ s.dropped = false))

def step (s : Stack) : StackAct → Option Stack
  | .call c =>
    match s.todo with
    | [] => if s.Free then some { s with pending := [], todo := c.tasks s.device } else none
    | _ :: _ => none
  | .go boot => s.go boot
  | .timeout =>
    match s.pc with
    | .join k => some (s.moveTo (.read k))
    | _ => none
  | .drop left =>
    if s.Free then some { s with
      device := { left with image := s.device.image }
      pending := []
      todo := []
      pc := .stop
      dropped := true }
    else none
  | .thread k act => if act.ofThread then s.onThread k act else none
  | .write slot subslot bytes =>
    some (s.onImage ((ImageOp.writeInputs slot subslot bytes).apply s.device.image))

end Stack

def stackSystem : System Stack StackAct where
  init s := ∃ setup, s = .new setup
  step := Stack.step

end Pnio
