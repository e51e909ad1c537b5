import Pnio.Connect

/-!
The C-SDU layout of an AR: where each submodule's data and status bytes lie in the two
communication relationships.
-/

namespace Pnio

/-- The send-clock unit, 31.25 µs in nanoseconds. -/
def cycleUnit : Nat := 31250

structure IoObject where
  slot : UInt16
  subslot : UInt16
  dataOff : Nat
  dataLen : Nat
  iopsOff : Nat
deriving DecidableEq, Repr

structure CsObject where
  slot : UInt16
  subslot : UInt16
  iocsOff : Nat
deriving DecidableEq, Repr

structure CrLayout where
  frameId : UInt16
  dataLength : Nat
  cycleStep : UInt16
  /-- In nanoseconds. -/
  watchdog : Nat
  objects : List IoObject
  iocs : List CsObject
deriving DecidableEq, Repr

def CrLayout.period (cr : CrLayout) : Nat := cycleUnit * cr.cycleStep.toNat

structure Cell where
  slot : UInt16
  subslot : UInt16
  inputLen : Nat
  outputLen : Nat
  inputOff : Option Nat
  outputOff : Option Nat
deriving DecidableEq, Repr

structure Layout where
  inputCr : CrLayout
  outputCr : CrLayout
  cells : List Cell
deriving DecidableEq, Repr

inductive LayoutError where
  | unknownSubmodule (slot subslot : UInt16)
  | outOfBounds (slot subslot : UInt16) (bound dataLength : Nat)
  | overlap (slot subslot : UInt16)
deriving DecidableEq, Repr

inductive Dir where
  | input
  | output
deriving DecidableEq, Repr

/-- Which bytes of a C-SDU are taken. -/
abbrev Occupied := List Bool

/-- Take the bytes `[off, off + len)`; the slice panics out of range. -/
def mark (occupied : Occupied) (off len : Nat) (slot subslot : UInt16) :
    Res LayoutError Occupied :=
  if off + len ≤ occupied.length then
    if ((occupied.drop off).take len).any id then .err (.overlap slot subslot)
    else .ok (occupied.take off ++ List.replicate len true ++ occupied.drop (off + len))
  else .panic .bounds

/-- One round of the loop over the IO data objects of a CR. -/
def placeObject (model : DeviceModel) (dir : Dir) (dataLength : Nat)
    (acc : Occupied × List IoObject) (obj : IocrObject) :
    Res LayoutError (Occupied × List IoObject) := do
  let sm ← Res.okOr (model.find obj.slot obj.subslot) (.unknownSubmodule obj.slot obj.subslot)
  let len := match dir with
    | .input => sm.inputLen.toNat
    | .output => sm.outputLen.toNat
  let dataOff := obj.frameOffset.toNat
  let iopsOff := dataOff + len
  let bound := iopsOff + 1
  Res.reject (dataLength < bound) (.outOfBounds obj.slot obj.subslot bound dataLength)
  let occupied ← mark acc.1 dataOff len obj.slot obj.subslot
  let occupied ← mark occupied iopsOff 1 obj.slot obj.subslot
  .ok (occupied, acc.2 ++ [{ slot := obj.slot, subslot := obj.subslot, dataOff, dataLen := len,
                             iopsOff }])

/-- One round of the loop over the IOCS objects of a CR. -/
def placeIocs (dataLength : Nat) (acc : Occupied × List CsObject) (obj : IocrObject) :
    Res LayoutError (Occupied × List CsObject) := do
  let iocsOff := obj.frameOffset.toNat
  let bound := iocsOff + 1
  Res.reject (dataLength < bound) (.outOfBounds obj.slot obj.subslot bound dataLength)
  let occupied ← mark acc.1 iocsOff 1 obj.slot obj.subslot
  .ok (occupied, acc.2 ++ [{ slot := obj.slot, subslot := obj.subslot, iocsOff }])

def buildCr (cr : IocrParams) (model : DeviceModel) (dir : Dir) : Res LayoutError CrLayout := do
  let dataLength := cr.dataLength.toNat
  Res.reject (65535 < cr.sendClockFactor.toNat * cr.reductionRatio.toNat)
    (.outOfBounds 0 0 65535 dataLength)
  let cycleStep := cr.sendClockFactor * cr.reductionRatio
  let watchdog := cr.dataHoldFactor.toNat * cycleStep.toNat * cycleUnit
  let (occupied, objects) ←
    cr.ioData.foldlM (placeObject model dir dataLength) (List.replicate dataLength false, [])
  let (_, iocs) ← cr.iocs.foldlM (placeIocs dataLength) (occupied, [])
  .ok { frameId := cr.frameId, dataLength, cycleStep, watchdog, objects, iocs }

/-- The offset of a submodule's data in a CR. -/
def CrLayout.findOff (cr : CrLayout) (slot subslot : UInt16) : Option Nat :=
  (cr.objects.find? fun o => o.slot == slot && o.subslot == subslot).map (·.dataOff)

def Layout.fromAr (params : ArParams) (model : DeviceModel) : Res LayoutError Layout := do
  let inputCr ← buildCr params.inputCr model .input
  let outputCr ← buildCr params.outputCr model .output
  let cells := model.slots.flatMap fun slot => slot.submodules.map fun sm =>
    { slot := slot.slot
      subslot := sm.subslot
      inputLen := sm.inputLen.toNat
      outputLen := sm.outputLen.toNat
      inputOff := inputCr.findOff slot.slot sm.subslot
      outputOff := outputCr.findOff slot.slot sm.subslot : Cell }
  .ok { inputCr, outputCr, cells }

end Pnio
