import Pnio.AlarmChannel
import Pnio.Cm
import Pnio.Diag
import Pnio.Image

/-!
The acyclic loop: one step drains the two sockets, the diagnosis commands and the events of
the RT thread, runs the timers, and last performs what the alarm channel asked for.

What the device does is kept in `log`, in order. Transports never fail, and what they deliver
is an input of the step; so is whether the RT thread can be spawned.
-/

namespace Pnio

structure DeviceSetup where
  dcp : DcpConfig
  model : DeviceModel
  activitySeed : Uuid
  /-- Whether there is to be an RT thread; its options only reach the thread itself. -/
  rt : Bool
  im0 : Im0
  /-- The writable I&M records as they were loaded. -/
  im : ImStore
deriving DecidableEq

/-- What the application reads: the active diagnoses and the counters of the alarm channel. -/
structure DiagShared where
  active : List Diagnosis := []
  stats : AlarmStats := {}
  rxNoChannel : Nat := 0
deriving DecidableEq, Repr

inductive RtEvent where
  | watchdogExpired
  | socketError
  | schedWarning
  | exited
deriving DecidableEq, Repr

structure StepReport where
  ethFrames : Nat := 0
  rpcDatagrams : Nat := 0
  sent : Nat := 0
deriving DecidableEq, Repr

/-- What the device does, as seen from outside. The channels are numbered as they are opened;
an action carries the number of the channel that produced it. -/
inductive Obs where
  | callback (state : ArState) (reason : Option AbortReason)
  | rpcSent (o : Outgoing)
  | ethSent (frame : Bytes)
  | opened (n : Nat) (cfg : AlarmChannelConfig)
  | closed
  | enqueued (n : AlarmNotification)
  | performed (producer : Nat) (action : AlarmAction)
deriving DecidableEq, Repr

/-- Actions of one channel that wait for the end of the step. The source only has the epoch;
`producer` is the number of the channel. -/
structure Batch where
  epoch : UInt64
  actions : List AlarmAction
  producer : Nat
deriving DecidableEq, Repr

structure Device where
  setup : DeviceSetup
  cm : Cm
  image : IoImage
  problem : Bool
  diag : DiagStore
  diagShared : DiagShared
  alarm : Option AlarmChannel
  nextAlarmId : UInt32
  alarmEpoch : UInt64
  /-- Whether the RT thread is there. -/
  runner : Bool
  report : StepReport
  /-- How many alarm channels were opened; the source only has `alarmEpoch`. -/
  opened : Nat
  log : List Obs

namespace PnioStatus

def rtaAbortAlarmSendFailed : UInt8 := 3
def rtaAbortDhtWdtExpired : UInt8 := 5
def rtaAbortArRemoved : UInt8 := 17

end PnioStatus

/-- The code announced before an abort; the controller's own ERR-RTA is not answered. -/
def errRtaCode2 : AbortReason → Option UInt8
  | .controllerErrRta _ => none
  | .rtWatchdog => some PnioStatus.rtaAbortDhtWdtExpired
  | .alarmSendFailed => some PnioStatus.rtaAbortAlarmSendFailed
  | .rtSocket | .shutdown | .controllerRelease | .controllerReconnect | .appReadyFailed
  | .appReadyRejected _ | .activityTimeout | .ext _ => some PnioStatus.rtaAbortArRemoved

/-- `RTATimeoutFactor` counts 100 ms. -/
def rtaTimeoutUnit : Nat := 100000000

namespace Device

variable {ε : Type}

def new (setup : DeviceSetup) : Device :=
  { setup
    cm := { Cm.new setup.model setup.activitySeed with im0 := setup.im0, im := setup.im }
    image := .empty
    problem := false
    diag := .fromModel setup.model
    diagShared := {}
    alarm := none
    nextAlarmId := 0
    alarmEpoch := 0
    runner := false
    report := {}
    opened := 0
    log := [] }

def note (d : Device) (o : Obs) : Device := { d with log := d.log ++ [o] }

/-! ### Publishing -/

def publishAlarmStats (d : Device) : Device :=
  match d.alarm with
  | some ch => { d with diagShared := { d.diagShared with stats := ch.stats } }
  | none => d

def publishDiagState (d : Device) : Device :=
  { d with
    diagShared := { d.diagShared with active := d.diag.activeList }
    problem := d.diag.problemIndicator }

/-! ### The alarm channel -/

/-- The notification with its per-AR sequence number. -/
def stamp (n : AlarmNotification) (sequence : UInt16) : AlarmNotification :=
  { n with specifier := { n.specifier with sequence } }

/-- Without a channel the notification is dropped; the store announces it to the next AR. A
refused one has used up its sequence number. -/
def queueNotification (d : Device) (n : AlarmNotification) (now : Instant) :
    Res ε (Device × List AlarmAction) :=
  match d.alarm with
  | none => .ok (d, [])
  | some ch => do
    let n := stamp n ch.nextSpecifierSequence.1
    let ch := ch.nextSpecifierSequence.2
    match ← Res.attempt
      (ch.enqueue { id := d.nextAlarmId, priority := .low, notification := n } now) with
    | .ok (ch, actions) =>
      .ok ({ d with alarm := some ch, nextAlarmId := d.nextAlarmId + 1,
                    log := d.log ++ [.enqueued n] }, actions)
    | .error _ => .ok ({ d with alarm := some ch }, [])

def channelConfig (d : Device) (params : ArParams) : AlarmChannelConfig :=
  { localRef := params.alarmRefLocal
    remoteRef := params.alarmRefRemote
    rtaTimeout := rtaTimeoutUnit * max params.rtaTimeoutFactor.toNat 1
    rtaRetries := params.rtaRetries
    maxAlarmDataLength := params.maxAlarmDataLengthRemote
    peerMac := params.initiatorMac
    ourMac := d.setup.dcp.mac }

def openAlarmChannel (d : Device) : Device :=
  match d.cm.ar.ctx with
  | none => d
  | some ctx =>
    { d with
      alarmEpoch := d.alarmEpoch + 1
      alarm := some (.new (d.channelConfig ctx.params))
      opened := d.opened + 1
      log := d.log ++ [.opened (d.opened + 1) (d.channelConfig ctx.params)] }

def closeAlarmChannel (d : Device) : Device :=
  { d with alarm := none, log := d.log ++ [.closed] }

/-- The actions of the current channel, for the end of the step. -/
def batch (d : Device) (actions : List AlarmAction) : Batch :=
  { epoch := d.alarmEpoch, actions, producer := d.opened }

/-- `pending` with one more batch, unless it is empty. -/
def defer (d : Device) (pending : List Batch) (actions : List AlarmAction) : List Batch :=
  if actions = [] then pending else pending ++ [d.batch actions]

/-! ### The RT thread -/

/-- A layout that cannot be built or a thread that cannot be spawned leaves the AR up. The
image is rebuilt before the thread is spawned. -/
def startRunner (d : Device) (spawns : Bool) : Res ε Device :=
  if d.setup.rt then
    match d.cm.ar.ctx with
    | none => .ok d
    | some ctx => do
      match ← Res.attempt (Layout.fromAr ctx.params d.setup.model) with
      | .ok layout =>
        .ok { d with image := d.image.rebuild layout, runner := if spawns then true else d.runner }
      | .error _ => .ok d
  else .ok d

/-- The image as it is left behind by a thread that was stopped. -/
def staleImage (im : IoImage) : IoImage :=
  (im.setValidity { im.outputs.validity with watchdog := .expired, providerRun := false }).clear

def stopRunner (d : Device) : Device :=
  if d.runner then { d with runner := false, image := staleImage d.image } else d

/-! ### Performing what the managers ask for -/

/-- One action of the channel numbered `producer`; `abort` tears the AR down. -/
def perform (abort : AbortReason → Device → Res ε Device) (producer : Nat) (d : Device)
    (action : AlarmAction) : Res ε Device :=
  let d := d.note (.performed producer action)
  match action with
  | .abort reason => abort reason d
  | .send _ | .acked _ _ | .unexpectedRx => .ok d

/-- A batch whose channel was closed or replaced is dropped whole. -/
def applyAlarmActions (abort : AbortReason → Device → Res ε Device) (b : Batch) (d : Device) :
    Res ε Device :=
  if d.alarm.isNone ∨ d.alarmEpoch ≠ b.epoch then .ok d
  else do
    let d ← b.actions.foldlM (perform abort b.producer) d
    .ok d.publishAlarmStats

/-- One notification of the replay on the channel `tag` names, performed at once. -/
def replayOne (abort : AbortReason → Device → Res ε Device) (now : Instant) (tag : Batch)
    (d : Device) (n : AlarmNotification) : Res ε Device := do
  let (d, actions) ← d.queueNotification n now
  applyAlarmActions abort { tag with actions } d

/-- The AR reached `Data`. -/
def enterData (abort : AbortReason → Device → Res ε Device) (now : Instant) (spawns : Bool)
    (d : Device) : Res ε Device := do
  let d ← d.startRunner spawns
  let d := d.openAlarmChannel
  let d ← d.diag.replay.foldlM (replayOne abort now (d.batch [])) d
  .ok d.publishDiagState

/-- One notification of the AR machine. -/
def notified (abort : AbortReason → Device → Res ε Device) (now : Instant) (spawns : Bool)
    (d : Device) (n : ArState × Option AbortReason) : Res ε Device :=
  let d := d.note (.callback n.1 n.2)
  match n with
  | (.data, none) => d.enterData abort now spawns
  | (.idle, some _) => .ok d.stopRunner.closeAlarmChannel
  | _ => .ok d

def sendRpc (d : Device) (o : Outgoing) : Device :=
  { d.note (.rpcSent o) with report := { d.report with sent := d.report.sent + 1 } }

def dispatch (abort : AbortReason → Device → Res ε Device) (now : Instant) (spawns : Bool)
    (out : CmOutput) (d : Device) : Res ε Device :=
  out.notify.foldlM (notified abort now spawns) (out.send.foldl sendRpc d)

/-- The ERR-RTA that goes ahead of an abort. -/
def announceAbort (d : Device) (reason : AbortReason) : Res ε Device :=
  match errRtaCode2 reason, d.alarm with
  | some code2, some ch => do
    let frame ← ch.errRta (PnioStatus.rtaAbort code2)
    .ok (d.note (.ethSent frame))
  | _, _ => .ok d

/-- The abort re-enters `dispatch`, whose replay could ask for another abort; `depth` bounds how
often. `enqueue` never asks for one, so no depth above 1 is used. -/
def abortWithErrRta : Nat → Instant → Bool → AbortReason → Device → Res ε Device
  | 0, _, _, _, _ => .panic .nonterm
  | depth + 1, now, spawns, reason, d => do
    let d ← d.announceAbort reason
    let (cm, out) ← d.cm.abort reason now
    dispatch (abortWithErrRta depth now spawns) now spawns out { d with cm }

/-- The depth the device runs with. -/
def abortDepth : Nat := 2

def shutdown (d : Device) (now : Instant) (spawns : Bool) : Res ε Device :=
  if d.cm.ar.state = .idle then .ok d
  else abortWithErrRta abortDepth now spawns .shutdown d

/-! ### One step -/

/-- Alarm frames go to the channel, everything else to DCP. -/
def receiveFrame (now : Instant) (frame : Bytes) (d : Device) (pending : List Batch) :
    Res ε (Device × List Batch) := do
  if ← isAlarmFrame frame then
    -- an alarm for another station must not move the counters
    if frame.take 6 ≠ d.setup.dcp.mac.bytes then .ok (d, pending)
    else match d.alarm with
      | some ch => do
        let (ch, actions) ← ch.onFrame frame now
        .ok ({ d with alarm := some ch }, d.defer pending actions)
      | none =>
        .ok ({ d with diagShared :=
                 { d.diagShared with rxNoChannel := d.diagShared.rxNoChannel + 1 } }, pending)
  else
    match ← Res.attempt (handleDcpFrame frame d.setup.dcp) with
    | .ok (some resp) => .ok (d.note (.ethSent resp), pending)
    | .ok none | .error _ => .ok (d, pending)

def countFrame (d : Device) : Device :=
  { d with report := { d.report with ethFrames := d.report.ethFrames + 1 } }

def onEthFrame (now : Instant) (s : Device × List Batch) (frame : Bytes) :
    Res ε (Device × List Batch) :=
  receiveFrame now frame s.1.countFrame s.2

def onDiagCommand (now : Instant) (s : Device × List Batch) (c : DiagCommand) :
    Res ε (Device × List Batch) :=
  let d := { s.1 with diag := (s.1.diag.command c).1 }
  match (s.1.diag.command c).2 with
  | none => .ok (d, s.2)
  | some n => do
    let (d, actions) ← d.queueNotification n now
    .ok (d, d.defer s.2 actions)

def drainDiagQueue (now : Instant) (commands : List DiagCommand) (s : Device × List Batch) :
    Res ε (Device × List Batch) :=
  if commands = [] then .ok s
  else do
    let (d, pending) ← commands.foldlM (onDiagCommand now) s
    .ok (d.publishDiagState, pending)

/-- A datagram, with whether an RT thread can be spawned while it is handled. -/
structure Datagram where
  buf : Bytes
  src : SocketAddr
  spawns : Bool
deriving DecidableEq, Repr

def receiveDatagram (now : Instant) (g : Datagram) (d : Device) : Res ε Device := do
  match ← Res.attempt (d.cm.handleDatagram g.buf g.src now) with
  | .ok (cm, out) =>
    dispatch (abortWithErrRta abortDepth now g.spawns) now g.spawns out { d with cm }
  | .error _ => .ok d

def countDatagram (d : Device) : Device :=
  { d with report := { d.report with rpcDatagrams := d.report.rpcDatagrams + 1 } }

def onDatagram (now : Instant) (d : Device) (g : Datagram) : Res ε Device :=
  receiveDatagram now g d.countDatagram

def onRtEvent (now : Instant) (spawns : Bool) (d : Device) : RtEvent → Res ε Device
  | .watchdogExpired => abortWithErrRta abortDepth now spawns .rtWatchdog d
  | .socketError => abortWithErrRta abortDepth now spawns .rtSocket d
  | .schedWarning | .exited => .ok d

/-- The events are lost with the thread that raised them. -/
def drainRtEvents (now : Instant) (spawns : Bool) : List RtEvent → Device → Res ε Device
  | [], d => .ok d
  | ev :: evs, d =>
    if d.runner then do
      let d ← onRtEvent now spawns d ev
      drainRtEvents now spawns evs d
    else .ok d

def cmTimers (now : Instant) (spawns : Bool) (d : Device) : Res ε Device := do
  let (cm, out) ← d.cm.tick now
  dispatch (abortWithErrRta abortDepth now spawns) now spawns out { d with cm }

def rtaTimers (now : Instant) (s : Device × List Batch) : Res ε (Device × List Batch) :=
  match s.1.alarm with
  | some ch => do
    let (ch, actions) ← ch.onTick now
    .ok ({ s.1 with alarm := some ch }, s.1.defer s.2 actions)
  | none => .ok s

/-- What one step finds, and the time after the wait. -/
structure StepInput where
  now : Instant
  frames : List Bytes
  commands : List DiagCommand
  datagrams : List Datagram
  events : List RtEvent
  /-- Whether an RT thread can be spawned outside the handling of datagrams. -/
  spawns : Bool
deriving DecidableEq, Repr

def step (d : Device) (i : StepInput) : Res ε Device := do
  let (d, pending) ← i.frames.foldlM (onEthFrame i.now) ({ d with report := {} }, [])
  let (d, pending) ← drainDiagQueue i.now i.commands (d.publishAlarmStats, pending)
  let d ← i.datagrams.foldlM (onDatagram i.now) d
  let d ← drainRtEvents i.now i.spawns i.events d
  let d ← cmTimers i.now i.spawns d
  let (d, pending) ← rtaTimers i.now (d, pending)
  pending.foldlM
    (fun d b => applyAlarmActions (abortWithErrRta abortDepth i.now i.spawns) b d)
    d.publishAlarmStats

end Device

end Pnio
