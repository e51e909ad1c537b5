import Pnio.Dcp
import Pnio.Records

/-!
The typed device configuration: what the builder accepts, and the device model and DCP
identity it derives from it.
-/

namespace Pnio

/-- The largest C-SDU of a submodule in one direction. -/
def maxSubmoduleBytes : Nat := 1440

inductive FieldType where
  | bool
  | int
  | word
  | dint
  | real
deriving DecidableEq, Repr

/-- The size of a byte-aligned type; none for a `bool`, which takes a bit. -/
def FieldType.byteLen : FieldType → Option Nat
  | bool => none
  | int | word => some 2
  | dint | real => some 4

inductive Direction where
  | input
  | output
  | inputOutput
deriving DecidableEq, Repr

structure SubmoduleSpec where
  slot : UInt16
  name : Str
  inputs : List FieldType
  outputs : List FieldType
deriving DecidableEq

structure FieldRef where
  byte : UInt16
  bit : UInt8
  ty : FieldType
deriving DecidableEq, Repr

inductive ConfigError where
  | slotZeroReserved
  | duplicateSlot (slot : UInt16)
  | emptySubmodule (slot : UInt16)
  | noSubmodule
  | tooLong (slot : UInt16) (bytes max : Nat)
  | badStationName (name : Str)
  | badInterval (interval : UInt16)
  | badIdentity
  | tooLongTotal (direction : Direction) (bytes max : Nat)
  | im (e : ImError)
deriving DecidableEq

/-! ### Field layout -/

/-- The loop state of `layout`; `bitByte` is the byte that still takes bits, with the next
bit of it. -/
structure Packing where
  refs : List FieldRef := []
  nextByte : Nat := 0
  bitByte : Option (Nat × Nat) := none

namespace Packing

/-- Where the next bit goes, and the first free byte after it. -/
def bitPlace (s : Packing) : (Nat × Nat) × Nat :=
  match s.bitByte with
  | some (b, bit) => if bit < 8 then ((b, bit), s.nextByte) else ((s.nextByte, 0), s.nextByte + 1)
  | none => ((s.nextByte, 0), s.nextByte + 1)

def push (s : Packing) (ty : FieldType) : Packing :=
  match ty.byteLen with
  | none =>
    let place := s.bitPlace
    { refs := s.refs ++ [⟨UInt16.ofNat place.1.1, UInt8.ofNat place.1.2, ty⟩]
      nextByte := place.2
      bitByte := some (place.1.1, place.1.2 + 1) }
  | some n =>
    { refs := s.refs ++ [⟨UInt16.ofNat s.nextByte, 0, ty⟩]
      nextByte := s.nextByte + n
      bitByte := none }

end Packing

def layout (fields : List FieldType) : List FieldRef × UInt16 :=
  let s := fields.foldl Packing.push {}
  (s.refs, UInt16.ofNat s.nextByte)

/-- The bytes a field adds to `n`, with `openBits` bits taken in the last byte. -/
def countField (s : Nat × Nat) (f : FieldType) : Nat × Nat :=
  match f.byteLen with
  | none => (if s.2 = 0 then s.1 + 1 else s.1, (s.2 + 1) % 8)
  | some k => (s.1 + k, 0)

def checkedLayout (slot : UInt16) (fields : List FieldType) :
    Res ConfigError (List FieldRef × UInt16) := do
  let bytes := (fields.foldl countField (0, 0)).1
  Res.reject (maxSubmoduleBytes < bytes) (.tooLong slot bytes maxSubmoduleBytes)
  .ok (layout fields)

structure Derived where
  inputs : List FieldRef
  inputLen : UInt16
  outputs : List FieldRef
  outputLen : UInt16
deriving DecidableEq, Repr

/-! ### The station name -/

def toAsciiLowercase (b : UInt8) : UInt8 := if 0x41 ≤ b ∧ b ≤ 0x5a then b + 0x20 else b

def isAsciiLowercase (b : UInt8) : Bool := 0x61 ≤ b ∧ b ≤ 0x7a

def isAsciiDigit (b : UInt8) : Bool := 0x30 ≤ b ∧ b ≤ 0x39

def allDigits (s : Bytes) (len : Nat) : Bool := s.length == len && s.all isAsciiDigit

/-- `port-xyz` or `port-xyz-abcde`, the names a device's ports get. -/
def isReservedPortName (s : Bytes) : Bool :=
  if [0x70, 0x6f, 0x72, 0x74, 0x2d].isPrefixOf s then
    match (s.drop 5).span (· != 0x2d) with
    | (xyz, []) => allDigits xyz 3
    | (xyz, _ :: abcde) => allDigits xyz 3 && allDigits abcde 5
  else false

/-- A label of the name: `[a-z0-9-]`, not empty, no hyphen at either end. -/
def goodLabel (label : Bytes) : Bool :=
  !label.isEmpty && label.head? != some 0x2d && label.getLast? != some 0x2d &&
    label.all fun b => isAsciiLowercase b || isAsciiDigit b || b == 0x2d

def normalizeStationName (s : Str) : Option Str :=
  let b := s.bytes.map toAsciiLowercase
  let labels := b.splitOn 0x2e
  if b.isEmpty || 240 < b.length || !b.all (· < 0x80) || isReservedPortName b then none
  else if !labels.all goodLabel then none
  -- a name of numbers only would look like an address
  else if labels.all (·.all isAsciiDigit) then none
  else some (Str.ofAscii b)

/-! ### The builder -/

structure DeviceConfig where
  stationName : Str
  stationType : Str
  vendorId : UInt16
  deviceId : UInt16
  minDeviceInterval : UInt16
  submodules : List SubmoduleSpec
  derived : List Derived
  im0 : Im0
deriving DecidableEq

structure DeviceConfigBuilder where
  stationName : Str
  stationType : Str
  vendorId : UInt16
  deviceId : UInt16
  minDeviceInterval : UInt16
  submodules : List SubmoduleSpec
  im0 : Option Im0
deriving DecidableEq

/-- A declaration with every default. -/
def DeviceConfig.builder (stationName : Str) : DeviceConfigBuilder :=
  { stationName
    stationType := im0Default.orderId
    vendorId := 0xFFFF
    deviceId := 0x0001
    minDeviceInterval := 32
    submodules := []
    im0 := none }

def isAsciiWhitespace (b : UInt8) : Bool := (9 ≤ b ∧ b ≤ 13) ∨ b = 32

/-- The ASCII characters of the station type, cut to the 20 bytes of the record's field. -/
def orderIdFromStationType (stationType : Str) : Str :=
  let id := (stationType.bytes.filter (· < 0x80)).take 20
  if id.all isAsciiWhitespace then im0Default.orderId else Str.ofAscii id

/-- The C-SDU lengths of the input and the output CR: three status bytes of the DAP, then the
data and status bytes of every submodule. -/
def crLengths (submodules : List SubmoduleSpec) (derived : List Derived) : Nat × Nat :=
  (submodules.zip derived).foldl
    (fun acc p =>
      let hasIn := p.1.inputs ≠ []
      let hasOut := p.1.outputs ≠ []
      (acc.1 + (if hasIn then p.2.inputLen.toNat + 1 else 0) + (if hasOut then 1 else 0),
       acc.2 + (if hasOut then p.2.outputLen.toNat + 1 else 0) + (if hasIn then 1 else 0)))
    (3, 3)

def checkTotalCsdu (submodules : List SubmoduleSpec) (derived : List Derived) :
    Res ConfigError Unit := do
  let (inputBytes, outputBytes) := crLengths submodules derived
  Res.reject (maxSubmoduleBytes < inputBytes) (.tooLongTotal .input inputBytes maxSubmoduleBytes)
  Res.reject (maxSubmoduleBytes < outputBytes)
    (.tooLongTotal .output outputBytes maxSubmoduleBytes)

namespace DeviceConfigBuilder

def submodule (b : DeviceConfigBuilder) (slot : UInt16) (name : Str)
    (inputs outputs : List FieldType) : DeviceConfigBuilder :=
  { b with submodules := b.submodules ++ [{ slot, name, inputs, outputs }] }

/-- The tables of one submodule; `prev` is the slot before it in slot order. -/
def derive (prev : Option UInt16) (sm : SubmoduleSpec) : Res ConfigError Derived := do
  Res.reject (sm.slot = 0) .slotZeroReserved
  Res.reject (prev = some sm.slot) (.duplicateSlot sm.slot)
  Res.reject (sm.inputs = [] ∧ sm.outputs = []) (.emptySubmodule sm.slot)
  let (inputs, inputLen) ← checkedLayout sm.slot sm.inputs
  let (outputs, outputLen) ← checkedLayout sm.slot sm.outputs
  .ok { inputs, inputLen, outputs, outputLen }

def deriveAll (prev : Option UInt16) : List SubmoduleSpec → Res ConfigError (List Derived)
  | [] => .ok []
  | sm :: rest => do
    let d ← derive prev sm
    let ds ← deriveAll (some sm.slot) rest
    .ok (d :: ds)

def build (b : DeviceConfigBuilder) : Res ConfigError DeviceConfig := do
  let stationName ← Res.okOr (normalizeStationName b.stationName) (.badStationName b.stationName)
  Res.reject (b.minDeviceInterval ≠ 16 ∧ b.minDeviceInterval ≠ 32)
    (.badInterval b.minDeviceInterval)
  Res.reject (b.vendorId = 0) .badIdentity
  let im0 := b.im0.getD { im0Default with orderId := orderIdFromStationType b.stationType }
  Res.mapErr .im im0.validate
  Res.reject (b.submodules = []) .noSubmodule
  -- the sort of the source is stable, as insertion is
  let submodules := b.submodules.insertionSort (·.slot ≤ ·.slot)
  let derived ← deriveAll none submodules
  checkTotalCsdu submodules derived
  .ok
    { stationName
      stationType := b.stationType
      vendorId := b.vendorId
      deviceId := b.deviceId
      minDeviceInterval := b.minDeviceInterval
      submodules
      derived
      im0 }

end DeviceConfigBuilder

/-! ### What the device takes from it -/

/-- A submodule without fields is of no direction either. -/
def SubmoduleSpec.direction (sm : SubmoduleSpec) : Direction :=
  match sm.inputs.isEmpty, sm.outputs.isEmpty with
  | false, true => .input
  | true, false => .output
  | _, _ => .inputOutput

namespace DeviceConfig

def indexOf (cfg : DeviceConfig) (slot : UInt16) : Option Nat :=
  cfg.submodules.findIdx? (·.slot == slot)

def submodule (cfg : DeviceConfig) (slot : UInt16) : Option SubmoduleSpec := do
  let i ← cfg.indexOf slot
  cfg.submodules[i]?

/-- The fields of one direction; `inputOutput` is none. -/
def fields (cfg : DeviceConfig) (slot : UInt16) (dir : Direction) : Option (List FieldRef) := do
  let i ← cfg.indexOf slot
  let d ← cfg.derived[i]?
  match dir with
  | .input => if d.inputs.isEmpty then none else some d.inputs
  | .output => if d.outputs.isEmpty then none else some d.outputs
  | .inputOutput => none

def inputLen (cfg : DeviceConfig) (slot : UInt16) : Option UInt16 := do
  let i ← cfg.indexOf slot
  let d ← cfg.derived[i]?
  some d.inputLen

def outputLen (cfg : DeviceConfig) (slot : UInt16) : Option UInt16 := do
  let i ← cfg.indexOf slot
  let d ← cfg.derived[i]?
  some d.outputLen

def inputCrLen (cfg : DeviceConfig) : UInt16 :=
  UInt16.ofNat (crLengths cfg.submodules cfg.derived).1

def outputCrLen (cfg : DeviceConfig) : UInt16 :=
  UInt16.ofNat (crLengths cfg.submodules cfg.derived).2

/-- The DAP in slot 0: its own submodule, the interface and the port. -/
def dap : SlotModel :=
  { slot := 0
    moduleIdent := 1
    submodules := [⟨1, 1, 0, 0⟩, ⟨0x8000, 0x8000, 0, 0⟩, ⟨0x8001, 0x8001, 0, 0⟩] }

def model (cfg : DeviceConfig) (mac : MacAddr) : DeviceModel :=
  { vendorId := cfg.vendorId
    deviceId := cfg.deviceId
    inst := 1
    stationName := cfg.stationName
    mac
    maxAlarmDataLength := 200
    slots := dap :: (cfg.submodules.zip cfg.derived).map fun p =>
      { slot := p.1.slot
        moduleIdent := 0x100 + p.1.slot.toUInt32
        submodules := [⟨1, 1, p.2.inputLen, p.2.outputLen⟩] } }

def dcpProperties (cfg : DeviceConfig) (ip : Octets 4) : DeviceProperties :=
  { nameOfStation := cfg.stationName
    typeOfStation := cfg.stationType
    vendorId := cfg.vendorId
    deviceId := cfg.deviceId
    deviceRole := 0x0100
    deviceInstance := 1
    deviceOptions := [1, 2, 2, 2, 2, 3]
    ip
    subnet := ⟨[255, 255, 255, 0], rfl⟩
    gateway := ip
    ipBlockInfo := 1 }

end DeviceConfig

end Pnio
