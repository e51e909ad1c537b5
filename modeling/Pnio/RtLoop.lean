import Pnio.Image
import Pnio.RtEngine
import Pnio.Lib.Runs

/-!
The body of the RT thread: timer ticks and received frames over the engine, the image and a
publish that the image could not take yet.
-/

namespace Pnio

/-- A publish to be retried on the next tick. -/
inductive Pending where
  | data (v : Validity)
  | validity (v : Validity)
deriving DecidableEq, Repr

/-- An instant keeps its seconds in a signed 64-bit number. -/
def Instant.limit : Nat := 2 ^ 63 * 1000000000

def Instant.checkedAdd (t : Instant) (d : Nat) : Option Instant :=
  if t + d < Instant.limit then some (t + d) else none

structure TickGrid where
  period : Nat
  start : Option Instant
  ticks : Nat
deriving DecidableEq, Repr

namespace TickGrid

/-- The largest value of a 64-bit counter; the grid saturates there. -/
def maxU64 : Nat := 2 ^ 64 - 1

def new (period : Nat) : TickGrid := { period, start := none, ticks := 0 }

/-- One timer read; the second component is how late it is against the grid. -/
def onRead (g : TickGrid) (now : Instant) (expirations : Nat) : TickGrid × Nat :=
  match g.start with
  | none => ({ g with start := some now, ticks := 1 }, 0)
  | some start =>
    let ticks := min (g.ticks + expirations) maxU64
    let offset := min (g.period % 2 ^ 64 * (ticks - 1)) maxU64
    let lateness :=
      match Instant.checkedAdd start offset with
      | some expected => (now - expected) % 2 ^ 64
      | none => 0
    ({ g with ticks }, lateness)

end TickGrid

structure RtLoop where
  engine : RtEngine
  image : IoImage
  pending : Option Pending
  grid : TickGrid
  snapshot : Bytes
deriving DecidableEq, Repr

/-- Which locks of the image were free during a tick. -/
structure TickLocks where
  retry : Bool
  watchdog : Bool
  inputs : Bool
deriving DecidableEq, Repr

/-- What a tick reports besides the new state. -/
structure TickOut where
  frame : Bytes
  lateness : Nat
  watchdogExpired : Bool
deriving DecidableEq, Repr

namespace RtLoop

variable {ε : Type}

def start (layout : Layout) (ourMac cpuMac : MacAddr) (stats : RtStats) (image : IoImage) :
    RtLoop :=
  { engine := .new layout ourMac cpuMac stats
    image := image.rebuild layout
    pending := none
    grid := .new layout.inputCr.period
    snapshot := List.replicate layout.inputCr.dataLength 0 }

/-- The publish stays pending; the shared counter says so. -/
def defer (l : RtLoop) (p : Pending) : RtLoop :=
  let stats := l.engine.stats
  { l with
    pending := some p
    engine := { l.engine with stats :=
      { stats with outputPublishDeferred := stats.outputPublishDeferred + 1 } } }

/-- The outcome of an attempt to publish `p`. -/
def settle (l : RtLoop) (p : Pending) (r : IoImage × Bool) : RtLoop :=
  if r.2 then { l with image := r.1 } else ({ l with image := r.1 }).defer p

def retryPending (l : RtLoop) (p : Pending) (free : Bool) : RtLoop :=
  match p with
  | .data v => l.settle p (l.image.rtPublish free l.engine.rxCsdu v)
  | .validity v => l.settle p (l.image.rtSetValidity free v)

/-- `if let Some(p) = pending.take() { retry_pending(..) }`. -/
def retry (l : RtLoop) (free : Bool) : RtLoop :=
  match l.pending with
  | some p => ({ l with pending := none }).retryPending p free
  | none => l

/-- The validity published when the watchdog expires. -/
def expiredValidity (l : RtLoop) (now : Instant) : Validity :=
  { providerRun := l.engine.providerRun
    primary := l.engine.primary
    watchdog := .expired
    lastRxAge := l.engine.lastRx.map (now - ·)
    cycle := l.grid.ticks }

/-- The watchdog check of a tick, and whether it expired. -/
def watch (l : RtLoop) (now : Instant) (free : Bool) : RtLoop × Bool :=
  match l.engine.checkWatchdog now with
  | (engine, .expired) =>
    let l := { l with engine := engine.markOutputsStale }
    let v := l.expiredValidity now
    (l.settle (.validity v) (l.image.rtSetValidity free v), true)
  | (engine, _) => ({ l with engine }, false)

/-- The input snapshot and the frame of a tick. -/
def produce (l : RtLoop) (problem : Bool) (free : Bool) (expirations : UInt32) :
    Res ε (RtLoop × Bytes) := do
  let (snapshot, taken) := l.image.rtSnapshotInputs free l.snapshot
  let reused := l.engine.stats.inputSnapshotReused + if taken then 0 else 1
  let engine := { l.engine with stats := { l.engine.stats with inputSnapshotReused := reused } }
  let (engine, frame) ← engine.onTick problem expirations snapshot
  .ok ({ l with engine, snapshot }, frame)

/-- The loop after the timer read was put on the grid. -/
def onRead (l : RtLoop) (now : Instant) (expirations : Nat) : RtLoop :=
  { l with grid := (l.grid.onRead now expirations).1 }

/-- One timer read of `expirations` ticks at `now`. -/
def tick (l : RtLoop) (now : Instant) (expirations : Nat) (locks : TickLocks) (problem : Bool) :
    Res ε (RtLoop × TickOut) := do
  let isFirstRead := l.grid.ticks == 0
  let lateness := (l.grid.onRead now expirations).2
  let watched := ((l.onRead now expirations).retry locks.retry).watch now locks.watchdog
  let engineExpirations :=
    if isFirstRead then 1 else UInt32.ofNat (min expirations (2 ^ 32 - 1))
  let (l, frame) ← watched.1.produce problem locks.inputs engineExpirations
  .ok (l, { frame, lateness, watchdogExpired := watched.2 })

/-- The validity published with an accepted frame. -/
def freshValidity (l : RtLoop) : Validity :=
  { providerRun := l.engine.providerRun
    primary := l.engine.primary
    watchdog := .ok
    lastRxAge := some 0
    cycle := l.grid.ticks }

/-- The publish of an accepted frame replaces any that was pending. -/
def publish (l : RtLoop) (free : Bool) : RtLoop :=
  let v := l.freshValidity
  ({ l with pending := none }).settle (.data v) (l.image.rtPublish free l.engine.rxCsdu v)

/-- One frame out of `drain_rx`. -/
def receive (l : RtLoop) (frame : Bytes) (now : Instant) (free : Bool) :
    Res ε (RtLoop × RxVerdict) := do
  let (engine, verdict) ← l.engine.onFrame frame now
  let l := { l with engine }
  match verdict with
  | .accepted _ _ _ => .ok (l.publish free, verdict)
  | _ => .ok (l, verdict)

end RtLoop

end Pnio
