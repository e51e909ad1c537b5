import Pnio.Layout

/-!
The I/O image shared by the application and the RT thread.

The RT thread only tries the locks: every operation of its side takes whether the lock was free
and returns whether it was.
-/

namespace Pnio

inductive WatchdogState where
  | notArmed
  | ok
  | expired
deriving DecidableEq, Repr

structure Validity where
  providerRun : Bool
  primary : Bool
  watchdog : WatchdogState
  lastRxAge : Option Nat
  cycle : Nat
deriving DecidableEq, Repr

def Validity.default : Validity :=
  { providerRun := false, primary := false, watchdog := .notArmed, lastRxAge := none, cycle := 0 }

/-- How the application should treat the outputs. -/
inductive Freshness where
  | noData
  | fresh
  | stopped
  | stale
deriving DecidableEq, Repr

def Validity.freshness (v : Validity) : Freshness :=
  if v.watchdog = .notArmed then .noData
  else if v.watchdog = .expired then .stale
  else if !v.providerRun then .stopped
  else .fresh

inductive ImageError where
  | unknownSubmodule (slot subslot : UInt16)
  | lengthMismatch (expected got : Nat)
  | noInput (slot subslot : UInt16)
  | noOutput (slot subslot : UInt16)
deriving DecidableEq, Repr

structure Outputs where
  csdu : Bytes
  validity : Validity
deriving DecidableEq, Repr

structure IoImage where
  cells : List Cell
  inputs : Bytes
  outputs : Outputs
deriving DecidableEq, Repr

namespace IoImage

def empty : IoImage := { cells := [], inputs := [], outputs := ⟨[], .default⟩ }

/-- The image for a new AR; `new` builds the same from nothing. -/
def rebuild (_ : IoImage) (layout : Layout) : IoImage :=
  { cells := layout.cells
    inputs := List.replicate layout.inputCr.dataLength 0
    outputs := ⟨List.replicate layout.outputCr.dataLength 0, .default⟩ }

/-- The validity is kept. -/
def clear (im : IoImage) : IoImage :=
  { cells := [], inputs := [], outputs := { im.outputs with csdu := [] } }

def find (im : IoImage) (slot subslot : UInt16) : Res ImageError Cell :=
  Res.okOr (im.cells.find? fun c => c.slot == slot && c.subslot == subslot)
    (.unknownSubmodule slot subslot)

def writeInputs (im : IoImage) (slot subslot : UInt16) (bytes : Bytes) :
    Res ImageError IoImage := do
  let cell ← im.find slot subslot
  let off ← Res.okOr cell.inputOff (.noInput slot subslot)
  let len := cell.inputLen
  Res.reject (bytes.length ≠ len) (.lengthMismatch len bytes.length)
  Res.reject (im.inputs.length < off + len) (.lengthMismatch len (im.inputs.length - off))
  let inputs ← patch im.inputs off bytes
  .ok { im with inputs }

/-- What the reader's closure is given. -/
def readOutputs (im : IoImage) (slot subslot : UInt16) : Res ImageError (Bytes × Validity) := do
  let cell ← im.find slot subslot
  let off ← Res.okOr cell.outputOff (.noOutput slot subslot)
  let len := cell.outputLen
  let csdu := im.outputs.csdu
  Res.reject (csdu.length < off + len) (.lengthMismatch len (csdu.length - off))
  let bytes ← slice csdu off (off + len)
  .ok (bytes, im.outputs.validity)

def setValidity (im : IoImage) (validity : Validity) : IoImage :=
  { im with outputs := { im.outputs with validity } }

/-! ### The side of the RT thread -/

/-- As much of `src` as `dst` takes, over the front of `dst`. -/
def copyFront (dst src : Bytes) : Bytes :=
  let n := min dst.length src.length
  src.take n ++ dst.drop n

/-- The whole output C-SDU, as far as `dst` takes it, and its validity. -/
def snapshotOutputs (im : IoImage) (dst : Bytes) : Bytes × Validity :=
  (copyFront dst im.outputs.csdu, im.outputs.validity)

lemma copyFront_of_length {dst src : Bytes} (h : dst.length = src.length) :
    copyFront dst src = src := by
  simp [copyFront, h, List.drop_of_length_le (le_of_eq h)]

def rtSnapshotInputs (im : IoImage) (free : Bool) (dst : Bytes) : Bytes × Bool :=
  if free then (copyFront dst im.inputs, true) else (dst, false)

def rtPublish (im : IoImage) (free : Bool) (csdu : Bytes) (validity : Validity) : IoImage × Bool :=
  if free then ({ im with outputs := ⟨copyFront im.outputs.csdu csdu, validity⟩ }, true)
  else (im, false)

def rtSetValidity (im : IoImage) (free : Bool) (validity : Validity) : IoImage × Bool :=
  if free then (im.setValidity validity, true) else (im, false)

end IoImage

end Pnio
