import Pnio.Ar
import Pnio.Layout
import Pnio.RtFrame

/-!
The engine of the cyclic exchange: it produces the provider frame of each cycle, consumes the
controller's frames and keeps the consumer watchdog.
-/

namespace Pnio

def ioxsGood : UInt8 := 0x80
def ioxsBad : UInt8 := 0x00

inductive DropReason where
  | transferStatus (s : UInt8)
  | shortCsdu (have_ need : Nat)
  | malformed
deriving DecidableEq, Repr

inductive RxVerdict where
  | accepted (providerRun primary dataValid : Bool)
  | ignored
  | dropped (why : DropReason)
deriving DecidableEq, Repr

inductive WatchdogVerdict where
  | notArmed
  | ok
  | expired
  | stopped
deriving DecidableEq, Repr

structure RtStats where
  tx : Nat := 0
  rxAccepted : Nat := 0
  rxIgnored : Nat := 0
  rxDropped : Nat := 0
  rxInvalid : Nat := 0
  reordered : Nat := 0
  watchdogExpirations : Nat := 0
  missedTicks : Nat := 0
  inputSnapshotReused : Nat := 0
  outputPublishDeferred : Nat := 0
deriving DecidableEq, Repr

/-- The engine's own watchdog state. -/
inductive EngineWatchdog where
  | notArmed
  | ok
  | expired
deriving DecidableEq, Repr

structure RtEngine where
  layout : Layout
  ourMac : MacAddr
  cpuMac : MacAddr
  stats : RtStats
  tx : Bytes
  txCsdu : Bytes
  rxCsdu : Bytes
  rxIopsGood : List Bool
  rxIocsGood : List Bool
  cycleCounter : UInt16
  lastRx : Option Instant
  lastRxCycleCounter : Option UInt16
  watchdogState : EngineWatchdog
  providerRun : Bool
  primary : Bool
deriving DecidableEq, Repr

namespace RtEngine

variable {ε : Type}

def new (layout : Layout) (ourMac cpuMac : MacAddr) (stats : RtStats) : RtEngine :=
  { layout, ourMac, cpuMac, stats
    tx := List.replicate (frameLen layout.inputCr.dataLength) 0
    txCsdu := List.replicate layout.inputCr.dataLength 0
    rxCsdu := List.replicate layout.outputCr.dataLength 0
    rxIopsGood := List.replicate layout.outputCr.objects.length false
    rxIocsGood := List.replicate layout.outputCr.iocs.length false
    cycleCounter := 0
    lastRx := none
    lastRxCycleCounter := none
    watchdogState := .notArmed
    providerRun := false
    primary := false }

/-! ### Producing -/

/-- One object's data and its good IOPS byte into the C-SDU. -/
def putObject (inputs csdu : Bytes) (obj : IoObject) : Res ε Bytes := do
  let data ← slice inputs obj.dataOff (obj.dataOff + obj.dataLen)
  let csdu ← patch csdu obj.dataOff data
  patch csdu obj.iopsOff [ioxsGood]

def putIocs (csdu : Bytes) (cs : CsObject) : Res ε Bytes :=
  patch csdu cs.iocsOff [ioxsGood]

/-- The provider frame of a cycle; `problem` is the station problem flag at that moment. -/
def onTick (e : RtEngine) (problem : Bool) (expirations : UInt32) (inputs : Bytes) :
    Res ε (RtEngine × Bytes) := do
  let cr := e.layout.inputCr
  let csdu ← cr.objects.foldlM (putObject inputs) e.txCsdu
  let csdu ← cr.iocs.foldlM putIocs csdu
  let cycleCounter := e.cycleCounter + cr.cycleStep * expirations.toUInt16
  let dataStatus :=
    if problem then DataStatus.runPrimaryValidProblem else DataStatus.runPrimaryValidOk
  let rt : RtFrame := { frameId := cr.frameId, csdu, cycleCounter, dataStatus, transferStatus := 0 }
  match ← Res.attempt (rt.write e.tx e.cpuMac e.ourMac) with
  | .ok (tx, n) =>
    .ok ({ e with
      txCsdu := csdu, cycleCounter, tx
      stats := { e.stats with
        tx := e.stats.tx + 1
        missedTicks := e.stats.missedTicks + (expirations.toNat - 1) } }, tx.take n)
  | .error _ => .panic .unwrap

/-! ### Consuming -/

/-- The C-SDU of a frame with valid data, and the status bytes read off it. -/
def takeCsdu (e : RtEngine) (csdu : Bytes) : Res ε RtEngine := do
  let cr := e.layout.outputCr
  let rxCsdu ← patch e.rxCsdu 0 (← slice csdu 0 cr.dataLength)
  let iops ← cr.objects.mapM fun obj => idx rxCsdu obj.iopsOff
  let iocs ← cr.iocs.mapM fun cs => idx rxCsdu cs.iocsOff
  .ok { e with
    rxCsdu
    rxIopsGood := iops.map (· &&& 0x80 != 0)
    rxIocsGood := iocs.map (· &&& 0x80 != 0)
    stats := { e.stats with rxAccepted := e.stats.rxAccepted + 1 } }

/-- The counter did not advance by at least one and at most half of its range. -/
def isReordered (prev : Option UInt16) (cycleCounter : UInt16) : Bool :=
  match prev with
  | some p => cycleCounter - p == 0 || cycleCounter - p > 0x8000
  | none => false

/-- What an accepted frame changes whether its data is valid or not. -/
def heard (e : RtEngine) (rt : RtFrame) (now : Instant) : RtEngine :=
  { e with
    lastRx := some now
    watchdogState := .ok
    stats := { e.stats with
      reordered := e.stats.reordered +
        (if isReordered e.lastRxCycleCounter rt.cycleCounter then 1 else 0) }
    lastRxCycleCounter := some rt.cycleCounter
    providerRun := rt.dataStatus.providerRun
    primary := rt.dataStatus.primary }

def drop (e : RtEngine) (why : DropReason) : RtEngine × RxVerdict :=
  ({ e with stats := { e.stats with rxDropped := e.stats.rxDropped + 1 } }, .dropped why)

def onFrame (e : RtEngine) (frame : Bytes) (now : Instant) : Res ε (RtEngine × RxVerdict) := do
  match ← Res.attempt (RtFrame.parse frame) with
  | .error _ => .ok (e.drop .malformed)
  | .ok (eth, rt) =>
    let cr := e.layout.outputCr
    if eth.src ≠ e.cpuMac ∨ rt.frameId ≠ cr.frameId then
      .ok ({ e with stats := { e.stats with rxIgnored := e.stats.rxIgnored + 1 } }, .ignored)
    else if rt.transferStatus ≠ 0 then .ok (e.drop (.transferStatus rt.transferStatus))
    else if rt.csdu.length < cr.dataLength then
      .ok (e.drop (.shortCsdu rt.csdu.length cr.dataLength))
    else do
      let verdict := RxVerdict.accepted rt.dataStatus.providerRun rt.dataStatus.primary
        rt.dataStatus.dataValid
      let e := e.heard rt now
      if rt.dataStatus.dataValid then do
        let e ← e.takeCsdu rt.csdu
        .ok (e, verdict)
      else
        .ok ({ e with stats := { e.stats with rxInvalid := e.stats.rxInvalid + 1 } }, verdict)

/-! ### The consumer watchdog -/

def checkWatchdog (e : RtEngine) (now : Instant) : RtEngine × WatchdogVerdict :=
  match e.lastRx with
  | none => (e, .notArmed)
  | some lastRx =>
    if now - lastRx ≤ e.layout.outputCr.watchdog then ({ e with watchdogState := .ok }, .ok)
    else
      match e.watchdogState with
      | .expired => (e, .stopped)
      | _ =>
        ({ e with
          watchdogState := .expired
          stats := { e.stats with watchdogExpirations := e.stats.watchdogExpirations + 1 } },
          .expired)

def markOutputsStale (e : RtEngine) : RtEngine :=
  { e with rxIopsGood := e.rxIopsGood.map fun _ => false }

/-! ### What the engine's operations do to its receive side -/

/-- The parts of an engine the image follows. -/
structure SameRx (e e' : RtEngine) : Prop where
  layout : e'.layout = e.layout
  rxCsdu : e'.rxCsdu = e.rxCsdu
  lastRx : e'.lastRx = e.lastRx
  watchdogState : e'.watchdogState = e.watchdogState

/-- What a tick of `n` expirations changes, whatever the image holds. -/
lemma onTick_cases {e e' : RtEngine} {problem : Bool} {n : UInt32} {inputs frame : Bytes}
    (h : (e.onTick problem n inputs : Res ε _) = .ok (e', frame)) :
    ∃ txCsdu tx,
      { e with
        txCsdu, tx
        cycleCounter := e.cycleCounter + e.layout.inputCr.cycleStep * n.toUInt16
        stats := { e.stats with
          tx := e.stats.tx + 1
          missedTicks := e.stats.missedTicks + (n.toNat - 1) } } = e' := by
  unfold onTick at h
  obtain ⟨csdu, -, h⟩ := Res.bind_eq_ok.1 h
  obtain ⟨csdu', -, h⟩ := Res.bind_eq_ok.1 h
  obtain ⟨r, -, h⟩ := Res.bind_eq_ok.1 h
  split at h
  · cases h
    exact ⟨_, _, rfl⟩
  · cases h

lemma onTick_sameRx {e e' : RtEngine} {problem : Bool} {n : UInt32} {inputs frame : Bytes}
    (h : (e.onTick problem n inputs : Res ε _) = .ok (e', frame)) : SameRx e e' := by
  obtain ⟨csdu, tx, rfl⟩ := onTick_cases h
  exact ⟨rfl, rfl, rfl, rfl⟩

/-- The engine after a frame with valid data: its C-SDU and what its status bytes say. -/
def took (e : RtEngine) (rxCsdu : Bytes) (iops iocs : List UInt8) : RtEngine :=
  { e with
    rxCsdu
    rxIopsGood := iops.map (· &&& 0x80 != 0)
    rxIocsGood := iocs.map (· &&& 0x80 != 0)
    stats := { e.stats with rxAccepted := e.stats.rxAccepted + 1 } }

/-- The outcomes of a received frame, with the engine each leaves behind. -/
inductive FrameStep (e : RtEngine) (now : Instant) : RtEngine → RxVerdict → Prop
  | dropped (why : DropReason) : FrameStep e now (e.drop why).1 (.dropped why)
  | ignored : FrameStep e now
      { e with stats := { e.stats with rxIgnored := e.stats.rxIgnored + 1 } } .ignored
  | valid {rt : RtFrame} {rxCsdu : Bytes} {iops iocs : List UInt8} {p q d : Bool}
      (hc : rxCsdu.length = e.rxCsdu.length) :
      FrameStep e now ((e.heard rt now).took rxCsdu iops iocs) (.accepted p q d)
  | invalid {rt : RtFrame} {n : Nat} {p q d : Bool} :
      FrameStep e now
        { e.heard rt now with stats := { (e.heard rt now).stats with rxInvalid := n } }
        (.accepted p q d)

lemma onFrame_step {e e' : RtEngine} {frame : Bytes} {now : Instant} {verdict : RxVerdict}
    (h : (e.onFrame frame now : Res ε _) = .ok (e', verdict)) : FrameStep e now e' verdict := by
  obtain ⟨r, -, h⟩ := Res.bind_eq_ok.1 h
  split at h
  · cases h
    exact .dropped _
  · dsimp only at h
    split_ifs at h
    · cases h
      exact .ignored
    · cases h
      exact .dropped _
    · cases h
      exact .dropped _
    · obtain ⟨e1, ht, h⟩ := Res.bind_eq_ok.1 h
      cases h
      simp only [takeCsdu, Res.bind_eq_ok] at ht
      obtain ⟨s, -, rx, hp, iops, -, iocs, -, ht⟩ := ht
      cases ht
      exact .valid (length_of_patch hp)
    · cases h
      exact .invalid

/-- What a received frame can do to the receive side. -/
inductive OnFrame (e : RtEngine) (now : Instant) : RtEngine → RxVerdict → Prop
  | unused {e' : RtEngine} {verdict : RxVerdict} (h : SameRx e e')
      (hv : ∀ p q d, verdict ≠ .accepted p q d) : OnFrame e now e' verdict
  | accepted {e' : RtEngine} {p q d : Bool} (hl : e'.layout = e.layout)
      (hc : e'.rxCsdu.length = e.rxCsdu.length) (ht : e'.lastRx = some now)
      (hw : e'.watchdogState = .ok) : OnFrame e now e' (.accepted p q d)

lemma onFrame_spec {e e' : RtEngine} {frame : Bytes} {now : Instant} {verdict : RxVerdict}
    (h : (e.onFrame frame now : Res ε _) = .ok (e', verdict)) : OnFrame e now e' verdict := by
  cases onFrame_step h with
  | dropped why => exact .unused ⟨rfl, rfl, rfl, rfl⟩ nofun
  | ignored => exact .unused ⟨rfl, rfl, rfl, rfl⟩ nofun
  | valid hc => exact .accepted rfl hc rfl rfl
  | invalid => exact .accepted rfl rfl rfl rfl

/-- The verdicts of the watchdog, with what each leaves behind. -/
inductive Checked (e : RtEngine) (now : Instant) : RtEngine → WatchdogVerdict → Prop
  | notArmed (ht : e.lastRx = none) : Checked e now e .notArmed
  | ok {t : Instant} (ht : e.lastRx = some t) (hw : now - t ≤ e.layout.outputCr.watchdog) :
      Checked e now { e with watchdogState := .ok } .ok
  | stopped {t : Instant} (ht : e.lastRx = some t) (hw : e.layout.outputCr.watchdog < now - t)
      (hs : e.watchdogState = .expired) : Checked e now e .stopped
  | expired {t : Instant} {e' : RtEngine} (ht : e.lastRx = some t)
      (hw : e.layout.outputCr.watchdog < now - t) (hs : e.watchdogState ≠ .expired)
      (hl : e'.layout = e.layout) (hc : e'.rxCsdu = e.rxCsdu) (hr : e'.lastRx = e.lastRx)
      (he : e'.watchdogState = .expired) : Checked e now e' .expired

lemma checkWatchdog_spec (e : RtEngine) (now : Instant) :
    Checked e now (e.checkWatchdog now).1 (e.checkWatchdog now).2 := by
  unfold checkWatchdog
  split
  · rename_i ht
    exact .notArmed ht
  · rename_i t ht
    split_ifs with hw
    · exact .ok ht hw
    · split
      · rename_i hs
        exact .stopped ht (not_le.1 hw) hs
      · rename_i hs
        exact .expired ht (not_le.1 hw) hs rfl rfl rfl rfl

lemma SameRx.verdict_eq {e e' : RtEngine} (h : SameRx e e') (now : Instant) :
    (e'.checkWatchdog now).2 = (e.checkWatchdog now).2 := by
  unfold checkWatchdog
  rw [h.lastRx, h.layout, h.watchdogState]
  cases e.lastRx with
  | none => rfl
  | some t =>
    dsimp only
    split_ifs
    · rfl
    · cases e.watchdogState <;> rfl

end RtEngine

end Pnio
