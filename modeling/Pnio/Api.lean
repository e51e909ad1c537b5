import Pnio.ConfigSpec
import Pnio.Image

/-!
The typed facade of a running device: fields of the controller's outputs are read from the image,
fields of the inputs are set in a working copy that is then published whole.
-/

namespace Pnio

inductive ApiError where
  | unknownSlot (slot : UInt16)
  | indexOutOfRange (slot : UInt16) (index len : Nat)
  | typeMismatch (slot : UInt16) (index : Nat) (declared requested : FieldType)
  | wrongDirection (slot : UInt16) (expected : Direction)
  | noLayoutYet
  | image (e : ImageError)
  | codec (e : CodecError)
  /-- What the device or the start of it reports; no accessor raises these. -/
  | device
  | io
deriving DecidableEq, Repr

/-- A submodule the image does not know is one of a layout that is not there. -/
def ApiError.ofImage : ImageError → ApiError
  | .unknownSubmodule _ _ => .noLayoutYet
  | e => .image e

/-! ### Writing -/

/-- The scratch copy of a slot's data that a closure is given. -/
structure SlotWriter where
  slot : UInt16
  fields : List FieldRef
  bytes : Bytes
deriving DecidableEq, Repr

def SlotWriter.set (w : SlotWriter) (index : Nat) (v : Value) : Res ApiError SlotWriter := do
  let f ← Res.okOr w.fields[index]? (.indexOutOfRange w.slot index w.fields.length)
  Res.reject (f.ty ≠ v.fieldType) (.typeMismatch w.slot index f.ty v.fieldType)
  let bytes ← Res.mapErr .codec (f.put v w.bytes)
  .ok { w with bytes }

/-- What a caller's closure does with its writer: it sets fields one after the other, may look at
the result of each, and in the end returns, fails or panics. It does not call back into the
device. -/
inductive Closure (τ : Type) where
  | ret (out : τ)
  | fail (e : ApiError)
  | panic (p : Panic)
  | set (index : Nat) (v : Value) (next : Except ApiError Unit → Closure τ)

namespace Closure

variable {τ : Type}

def run : Closure τ → SlotWriter → Res ApiError (τ × SlotWriter)
  | ret out, w => .ok (out, w)
  | fail e, _ => .err e
  | panic p, _ => .panic p
  | set index v next, w =>
    match w.set index v with
    | .ok w' => (next (.ok ())).run w'
    | .err e => (next (.error e)).run w
    | .panic p => .panic p

/-- The fields the closure set, oldest first. -/
def sets : Closure τ → SlotWriter → List (Nat × Value)
  | ret _, _ => []
  | fail _, _ => []
  | panic _, _ => []
  | set index v next, w =>
    match w.set index v with
    | .ok w' => (index, v) :: (next (.ok ())).sets w'
    | .err e => (next (.error e)).sets w
    | .panic _ => []

end Closure

/-- The facade: the configuration, the image it shares with the RT thread and the working copies
of the submodules' inputs, one for each submodule. -/
structure IoDevice where
  cfg : DeviceConfig
  image : IoImage
  inputs : List Bytes
deriving DecidableEq

namespace IoDevice

variable {τ : Type}

/-- A device that was just started. -/
def start (cfg : DeviceConfig) : IoDevice :=
  { cfg
    image := .empty
    inputs := cfg.submodules.map fun s =>
      List.replicate ((cfg.inputLen s.slot).map (·.toNat) |>.getD 0) 0 }

/-- The writer for a slot, with the place of its working copy. -/
def writer (d : IoDevice) (slot : UInt16) : Res ApiError (Nat × SlotWriter) := do
  let i ← Res.okOr (d.cfg.indexOf slot) (.unknownSlot slot)
  let sm ← Res.unwrap d.cfg.submodules[i]?
  let fields ← Res.okOr (d.cfg.fields slot .input) (.wrongDirection slot sm.direction)
  let bytes ← Res.unwrap d.inputs[i]?
  .ok (i, { slot, fields, bytes })

/-- The working copy is kept even where it cannot be published. -/
def withInputs (d : IoDevice) (slot : UInt16) (f : Closure τ) : IoDevice × Res ApiError τ :=
  match d.writer slot with
  | .err e => (d, .err e)
  | .panic p => (d, .panic p)
  | .ok (i, w) =>
    match f.run w with
    | .err e => (d, .err e)
    | .panic p => (d, .panic p)
    | .ok (out, w) =>
      let d := { d with inputs := d.inputs.set i w.bytes }
      match d.image.writeInputs slot 1 w.bytes with
      | .ok image => ({ d with image }, .ok out)
      | .err e => (d, .err (.ofImage e))
      | .panic p => (d, .panic p)

def write (d : IoDevice) (slot : UInt16) (index : Nat) (v : Value) : IoDevice × Res ApiError Unit :=
  d.withInputs slot (.set index v fun r =>
    match r with
    | .ok u => .ret u
    | .error e => .fail e)

/-! ### Reading -/

/-- One field of a direction, of the type `want` if one is asked for. -/
def field (d : IoDevice) (slot : UInt16) (dir : Direction) (index : Nat)
    (want : Option FieldType) : Res ApiError FieldRef := do
  let sm ← Res.okOr (d.cfg.submodule slot) (.unknownSlot slot)
  let fields ← Res.okOr (d.cfg.fields slot dir) (.wrongDirection slot sm.direction)
  let f ← Res.okOr fields[index]? (.indexOutOfRange slot index fields.length)
  match want with
  | some w => do
    Res.reject (w ≠ f.ty) (.typeMismatch slot index f.ty w)
    .ok f
  | none => .ok f

/-- The value of a field in the outputs of its slot. -/
def decodeOutput (d : IoDevice) (slot : UInt16) (f : FieldRef) : Res ApiError Value := do
  let (b, _) ← Res.mapErr .ofImage (d.image.readOutputs slot 1)
  let src ← slice b f.byte.toNat b.length
  Res.mapErr .codec (Value.decode f.ty src f.bit.toNat)

def read (d : IoDevice) (slot : UInt16) (index : Nat) : Res ApiError Value := do
  let f ← d.field slot .output index none
  d.decodeOutput slot f

/-- `read` for a field that has to be of the type `want`. -/
def typed (d : IoDevice) (slot : UInt16) (index : Nat) (want : FieldType) : Res ApiError Value := do
  let f ← d.field slot .output index (some want)
  d.decodeOutput slot f

end IoDevice

/-! ### An AR with one submodule -/

namespace AppDemo

def cr (reference frameId len : UInt16) : IocrParams :=
  { reference, frameId
    dataLength := 40
    sendClockFactor := 32
    reductionRatio := 1
    watchdogFactor := 3
    dataHoldFactor := 3
    ioData := [⟨1, 1, 0⟩]
    iocs := [⟨1, 1, len + 1⟩] }

/-- An AR with the submodule at the start of both CRs. -/
def params : ArParams :=
  { arUuid := .fill 16 1
    sessionKey := 1
    initiatorMac := .of 2 0 0 0 0 2
    initiatorObjectUuid := .fill 16 2
    activityTimeoutFactor := 600
    inputCr := cr 1 0x8000 3
    outputCr := cr 2 0x8001 2
    alarmRefRemote := 0
    maxAlarmDataLength := 200
    maxAlarmDataLengthRemote := 200
    rtaTimeoutFactor := 1
    rtaRetries := 3
    alarmRefLocal := 1
    alarmTagHigh := 0xC000
    alarmTagLow := 0xA000 }

def layoutCr (frameId : UInt16) (len : Nat) : CrLayout :=
  { frameId
    dataLength := 40
    cycleStep := 32
    watchdog := 3 * 32 * cycleUnit
    objects := [⟨1, 1, 0, len, len⟩]
    iocs := [⟨1, 1, len + 1⟩] }

def layout : Layout :=
  { inputCr := layoutCr 0x8000 3
    outputCr := layoutCr 0x8001 2
    cells := [⟨0, 1, 0, 0, none, none⟩, ⟨0, 0x8000, 0, 0, none, none⟩,
      ⟨0, 0x8001, 0, 0, none, none⟩, ⟨1, 1, 3, 2, some 0, some 0⟩] }

lemma fromAr_params : Layout.fromAr params (cfg.model mac) = .ok layout := by decide +kernel

lemma cell_one : layout.cells.find? (fun c => c.slot == 1 && c.subslot == 1) =
    some ⟨1, 1, 3, 2, some 0, some 0⟩ := by decide +kernel

end AppDemo

end Pnio
