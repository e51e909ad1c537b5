import Pnio.ConnectSynthetic
import Pnio.GsdmlIds
import Pnio.Lib.Values

/-!
The GSDML document as an engineering tool takes it in: the modules with their idents, submodules
and variables, and the slots they go to. What the tool has then is the model of the device.
-/

namespace Pnio.Gsd

open Xml (Piece Element)

/-! ### The values of attributes -/

def hexValue (s : Bytes) : Option Nat :=
  if s.take 2 = utf8 "0x" then numeral 16 (s.drop 2) else none

def toU16 (n : Nat) : Option UInt16 := if n < 65536 then some (UInt16.ofNat n) else none

def toU32 (n : Nat) : Option UInt32 := if n < 4294967296 then some (UInt32.ofNat n) else none

/-- The last slot of a range that begins with slot 0. -/
def lastSlot (s : Bytes) : Option UInt16 := do
  let n ← if s.take 3 = utf8 "0.." then numeral 10 (s.drop 3) else none
  toU16 n

/-- A letter and the numbers of a version. -/
def release : Bytes → Option (UInt8 × List Nat)
  | [] => none
  | c :: s => do
    let numbers ← (s.splitOn 0x2e).mapM (numeral 10)
    some (c, numbers)

def dataTypes : List DataType := [.unsigned8, .integer16, .unsigned16, .integer32, .float32]

def dataTypeOf (s : Bytes) : Option DataType := dataTypes.find? fun t => utf8 t.name == s

/-! ### What the tool keeps -/

structure Variable where
  textId : Bytes
  byte : Nat
  bit : Nat
deriving DecidableEq

/-- The data of a submodule in one direction, as far as its items were laid out. -/
structure Block where
  vars : List Variable := []
  len : Nat := 0
deriving DecidableEq

structure Submodule where
  subslot : UInt16
  ident : UInt32
  /-- The last one first, as in the two lists below. -/
  blocks : List (Side × Block) := []
deriving DecidableEq

structure Module where
  id : Bytes
  ident : UInt32
  orderNumber : Option Bytes := none
  hardwareRelease : Option Nat := none
  softwareRelease : Option (UInt8 × List Nat) := none
  submodules : List Submodule := []
deriving DecidableEq

structure Catalog where
  vendorId : Option UInt16 := none
  deviceId : Option UInt16 := none
  stationName : Option Bytes := none
  minDeviceInterval : Option UInt16 := none
  lastSlot : Option UInt16 := none
  maxInputLength : Option Nat := none
  maxOutputLength : Option Nat := none
  /-- The module that each slot takes. -/
  plugs : List (Bytes × UInt16) := []
  modules : List Module := []
deriving DecidableEq

/-! ### Reading -/

/-- The elements that the tool looks at. -/
inductive Tag where
  | deviceIdentity
  | accessPoint
  | orderNumber
  | hardwareRelease
  | softwareRelease
  | ioConfigData
  | moduleItemRef
  | moduleItem
  | virtualSubmodule
  | systemSubmodule
  | side (side : Side)
  | dataItem
  | bitDataItem
deriving DecidableEq

def Tag.names : List (String × Tag) :=
  [("DeviceIdentity", .deviceIdentity), ("DeviceAccessPointItem", .accessPoint),
    ("OrderNumber", .orderNumber), ("HardwareRelease", .hardwareRelease),
    ("SoftwareRelease", .softwareRelease), ("IOConfigData", .ioConfigData),
    ("ModuleItemRef", .moduleItemRef), ("ModuleItem", .moduleItem),
    ("VirtualSubmoduleItem", .virtualSubmodule), ("InterfaceSubmoduleItem", .systemSubmodule),
    ("PortSubmoduleItem", .systemSubmodule), ("Input", .side .input), ("Output", .side .output),
    ("DataItem", .dataItem), ("BitDataItem", .bitDataItem)]

/-- The last entry of a list that is kept with the last one first. -/
def onLast {α : Type} (f : α → Option α) : List α → Option (List α)
  | [] => none
  | a :: l => (f a).map (· :: l)

namespace Block

def addItem (b : Block) (e : Element) : Option Block := do
  let ty ← (e.get "DataType").bind dataTypeOf
  let textId ← e.get "TextId"
  match e.get "UseAsBits" with
  | none => some ⟨b.vars ++ [⟨textId, b.len, 0⟩], b.len + ty.byteLen⟩
  | some v =>
    if v = utf8 "true" ∧ ty = .unsigned8 then some { b with len := b.len + ty.byteLen } else none

/-- A bit of the item that was laid out last, which is one byte long. -/
def addBit (b : Block) (e : Element) : Option Block := do
  let bit ← (e.get "BitOffset").bind (numeral 10)
  let textId ← e.get "TextId"
  some { b with vars := b.vars ++ [⟨textId, b.len - 1, bit⟩] }

end Block

namespace Catalog

variable (c : Catalog)

def onModule (f : Module → Option Module) : Option Catalog := do
  let modules ← onLast f c.modules
  some { c with modules }

def onSubmodule (f : Submodule → Option Submodule) : Option Catalog :=
  c.onModule fun m => do
    let submodules ← onLast f m.submodules
    some { m with submodules }

def onBlock (f : Block → Option Block) : Option Catalog :=
  c.onSubmodule fun s => do
    let blocks ← onLast (fun p => (f p.2).map (p.1, ·)) s.blocks
    some { s with blocks }

def addModule (e : Element) : Option Catalog := do
  let id ← e.get "ID"
  let ident ← ((e.get "ModuleIdentNumber").bind hexValue).bind toU32
  some { c with modules := { id, ident } :: c.modules }

def addSubmodule (subslot : UInt16) (e : Element) : Option Catalog := do
  let ident ← ((e.get "SubmoduleIdentNumber").bind hexValue).bind toU32
  c.onModule fun m => some { m with submodules := { subslot, ident } :: m.submodules }

/-- One element of the document; a virtual submodule is in subslot 1. -/
def visit (e : Element) : Tag → Option Catalog
  | .deviceIdentity => do
    let vendorId ← ((e.get "VendorID").bind hexValue).bind toU16
    let deviceId ← ((e.get "DeviceID").bind hexValue).bind toU16
    some { c with vendorId := some vendorId, deviceId := some deviceId }
  | .accessPoint => do
    let id ← e.get "ID"
    let slot ← ((e.get "FixedInSlots").bind (numeral 10)).bind toU16
    let name ← (e.get "DNS_CompatibleName").bind unescape
    let interval ← ((e.get "MinDeviceInterval").bind (numeral 10)).bind toU16
    let last ← (e.get "PhysicalSlots").bind Gsd.lastSlot
    { c with
      stationName := some name
      minDeviceInterval := some interval
      lastSlot := some last
      plugs := c.plugs ++ [(id, slot)] }.addModule e
  | .orderNumber => do
    let v ← (e.get "Value").bind unescape
    c.onModule fun m => some { m with orderNumber := some v }
  | .hardwareRelease => do
    let v ← (e.get "Value").bind (numeral 10)
    c.onModule fun m => some { m with hardwareRelease := some v }
  | .softwareRelease => do
    let v ← (e.get "Value").bind release
    c.onModule fun m => some { m with softwareRelease := some v }
  | .ioConfigData => do
    let input ← (e.get "MaxInputLength").bind (numeral 10)
    let output ← (e.get "MaxOutputLength").bind (numeral 10)
    some { c with maxInputLength := some input, maxOutputLength := some output }
  | .moduleItemRef => do
    let id ← e.get "ModuleItemTarget"
    let slot ← ((e.get "AllowedInSlots").bind (numeral 10)).bind toU16
    some { c with plugs := c.plugs ++ [(id, slot)] }
  | .moduleItem => c.addModule e
  | .virtualSubmodule => c.addSubmodule 1 e
  | .systemSubmodule => do
    let subslot ← ((e.get "SubslotNumber").bind (numeral 10)).bind toU16
    c.addSubmodule subslot e
  | .side side => c.onSubmodule fun s => some { s with blocks := (side, {}) :: s.blocks }
  | .dataItem => c.onBlock (·.addItem e)
  | .bitDataItem => c.onBlock (·.addBit e)

def step (e : Element) : Option Catalog :=
  match (Tag.names.map fun p => (utf8 p.1, p.2)).lookup e.name with
  | none => some c
  | some tag => c.visit e tag

end Catalog

/-- The catalog of a file. -/
def load (file : Bytes) : Option Catalog := (Xml.read file).foldlM Catalog.step {}

/-! ### The device as the tool sees it -/

/-- A direction that is not there has no data. -/
def Submodule.block (s : Submodule) (side : Side) : Block := (s.blocks.lookup side).getD {}

def Submodule.model (s : Submodule) : Option SubmoduleModel := do
  let inputLen ← toU16 (s.block .input).len
  let outputLen ← toU16 (s.block .output).len
  some { subslot := s.subslot, submoduleIdent := s.ident, inputLen, outputLen }

def Module.model (slot : UInt16) (m : Module) : Option SlotModel := do
  let submodules ← m.submodules.reverse.mapM Submodule.model
  some { slot, moduleIdent := m.ident, submodules }

namespace Catalog

variable (c : Catalog)

def moduleOf (id : Bytes) : Option Module := c.modules.find? (·.id == id)

/-- The slots with their modules plugged. -/
def slots : Option (List SlotModel) :=
  c.plugs.mapM fun p => (c.moduleOf p.1).bind (Module.model p.2)

/-- The variables of a slot. -/
def vars (slot : UInt16) (side : Side) : Option (List Variable) := do
  let p ← c.plugs.find? (·.2 == slot)
  let m ← c.moduleOf p.1
  let s ← m.submodules.head?
  some (s.block side).vars

end Catalog

/-! ### Values are read back -/

section Values

lemma digitValue_hexDigit : ∀ d < 16, digitValue (hexDigit d) = some d := by decide

lemma foldlM_hex (width n acc : Nat) :
    (hex width n).foldlM (addDigit 16) acc = some (acc * 16 ^ width + n % 16 ^ width) := by
  induction width generalizing acc with
  | zero => simp [hex, Nat.mod_one]
  | succ width ih =>
    have hfirst : hex (width + 1) n = hexDigit (n / 16 ^ width % 16) :: hex width n := by
      simp [hex, List.range_succ]
    have hdigit : n / 16 ^ width % 16 < 16 := Nat.mod_lt _ (by decide)
    rw [hfirst, List.foldlM_cons, addDigit_of_value (digitValue_hexDigit _ hdigit) hdigit]
    change (hex width n).foldlM (addDigit 16) _ = _
    rw [ih, pow_succ, Nat.mod_mul]
    refine congrArg some ?_
    ring

lemma hexValue_hex {width n : Nat} (hw : 0 < width) (hn : n < 16 ^ width) :
    hexValue (utf8 "0x" ++ hex width n) = some n := by
  have hlen : (utf8 "0x").length = 2 := by decide
  have hne : hex width n ≠ [] := by
    intro h
    have := congrArg List.length h
    simp [hex] at this
    omega
  rw [hexValue, List.take_left' hlen, if_pos rfl, List.drop_left' hlen]
  refine numeral_of_fold hne ?_
  rw [foldlM_hex, Nat.zero_mul, Nat.zero_add, Nat.mod_eq_of_lt hn]

lemma toU16_toNat (x : UInt16) : toU16 x.toNat = some x := by
  rw [toU16, if_pos x.toNat_lt, UInt16.ofNat_toNat]

lemma toU32_toNat (x : UInt32) : toU32 x.toNat = some x := by
  rw [toU32, if_pos x.toNat_lt, UInt32.ofNat_toNat]

lemma hexValue_u16 (x : UInt16) : hexValue (utf8 "0x" ++ hex 4 x.toNat) = some x.toNat :=
  hexValue_hex (by decide) x.toNat_lt

lemma hexValue_u32 (x : UInt32) : hexValue (utf8 "0x" ++ hex 8 x.toNat) = some x.toNat :=
  hexValue_hex (by decide) x.toNat_lt

lemma lastSlot_range (n : UInt16) : lastSlot (utf8 "0.." ++ dec n.toNat) = some n := by
  have hlen : (utf8 "0..").length = 3 := by decide
  rw [lastSlot, List.take_left' hlen, if_pos rfl, List.drop_left' hlen, numeral_dec]
  exact toU16_toNat n

lemma dataTypeOf_name (t : DataType) : dataTypeOf (utf8 t.name) = some t := by
  cases t <;> decide

/-- The escaping is undone. -/
lemma unescape_escape (s : Str) : unescape (escape s) = some s.bytes := by
  refine unescape_flatMap (fun b out => ?_) s.bytes
  unfold escapeByte
  split_ifs with h1 h2 h3 h4 h5
  · subst h1
    rfl
  · subst h2
    rfl
  · subst h3
    rfl
  · subst h4
    rfl
  · subst h5
    rfl
  · simp [unescapeByte, h1]

/-- The version of a revision whose letter the builder accepts. -/
def releaseOf (sw : SwRevision) : UInt8 × List Nat :=
  (UInt8.ofNat sw.swPrefix.toNat, [sw.functional.toNat, sw.bugFix.toNat, sw.internal.toNat])

lemma release_revision {sw : SwRevision} (h : sw.swPrefix ∈ Im0.validSwPrefixes) :
    release (String.utf8EncodeChar sw.swPrefix ++ dec sw.functional.toNat ++ utf8 "." ++
      dec sw.bugFix.toNat ++ utf8 "." ++ dec sw.internal.toNat) = some (releaseOf sw) := by
  have hascii : Im0.validSwPrefixes.all
      (fun c => String.utf8EncodeChar c == [UInt8.ofNat c.toNat]) = true := by decide
  have hletter := eq_of_beq (List.all_eq_true.1 hascii _ h)
  have hdot : utf8 "." = [0x2e] := by decide
  have hparts : dec sw.functional.toNat ++ [0x2e] ++ dec sw.bugFix.toNat ++ [0x2e] ++
      dec sw.internal.toNat = [0x2e].intercalate
        [dec sw.functional.toNat, dec sw.bugFix.toNat, dec sw.internal.toNat] := by
    simp [List.intercalate]
  have hfree : ∀ l ∈ [dec sw.functional.toNat, dec sw.bugFix.toNat, dec sw.internal.toNat],
      (0x2e : UInt8) ∉ l := by
    intro l hl hmem
    have hdec : ∃ k, l = dec k := by
      simp only [List.mem_cons, List.not_mem_nil, or_false] at hl
      rcases hl with rfl | rfl | rfl
      · exact ⟨_, rfl⟩
      · exact ⟨_, rfl⟩
      · exact ⟨_, rfl⟩
    obtain ⟨k, rfl⟩ := hdec
    exact absurd (isDigit_of_mem_dec hmem) (by decide)
  rw [hletter, hdot, List.singleton_append, List.cons_append, List.cons_append,
    List.cons_append, List.cons_append, hparts]
  simp only [release]
  rw [List.splitOn_intercalate _ hfree (by simp)]
  simp [List.mapM_cons, numeral_dec, releaseOf]

end Values

/-! ### Going over the pieces -/

/-- The catalog after what the pieces are read as. -/
def run (c : Catalog) (ps : List Piece) : Option Catalog :=
  (ps.flatMap Piece.elements).foldlM Catalog.step c

/-- What a tag is read as. -/
def element (name : String) (attrs : List (String × Bytes)) : Element :=
  ⟨utf8 name, attrs.map fun a => (utf8 a.1, a.2)⟩

section Run

variable {c : Catalog} {name : String} {attrs : List (String × Bytes)} {ps : List Piece}

lemma step_element : c.step (element name attrs) =
    match Tag.names.lookup name with
    | none => some c
    | some tag => c.visit (element name attrs) tag := by
  simp only [element, Catalog.step, lookup_utf8]

lemma get_element (key : String) : (element name attrs).get key = attrs.lookup key :=
  lookup_utf8 key attrs

@[simp] lemma run_nil : run c [] = some c := rfl

@[simp] lemma run_append (a b : List Piece) : run c (a ++ b) = (run c a).bind (run · b) := by
  rw [run, List.flatMap_append, List.foldlM_append]
  rfl

@[simp] lemma run_opening :
    run c (.opening name attrs :: ps) = (c.step (element name attrs)).bind (run · ps) := rfl

@[simp] lemma run_tag :
    run c (.empty name attrs :: ps) = (c.step (element name attrs)).bind (run · ps) := rfl

@[simp] lemma run_closing : run c (.closing name :: ps) = run c ps := rfl

@[simp] lemma run_instruction : run c (.instruction name :: ps) = run c ps := rfl

@[simp] lemma run_text : run c (.text name :: ps) = run c ps := rfl

@[simp] lemma run_line (indent : Nat) : run c (line indent ps) = run c ps := by
  simp [line]

end Run

/-! ### The parts of the document -/

/-- A module with the identity that the device answers in its I&M0 record. -/
def identify (cfg : DeviceConfig) (m : Module) : Module :=
  { m with
    orderNumber := some cfg.im0.orderId.bytes
    hardwareRelease := some cfg.im0.hardwareRevision.toNat
    softwareRelease := some (releaseOf cfg.im0.softwareRevision) }

section Parts

variable (c : Catalog) (cfg : DeviceConfig) (vendor : GsdmlMeta)

lemma run_profileHeader : run c profileHeader = some c := by
  simp [profileHeader, textElement, step_element, Tag.names, List.lookup_cons]

lemma run_deviceIdentity : run c (deviceIdentity cfg vendor) =
    some { c with vendorId := some cfg.vendorId, deviceId := some cfg.deviceId } := by
  simp [deviceIdentity, step_element, Tag.names, List.lookup_cons, Catalog.visit, get_element,
    hexValue_u16, toU16_toNat]

lemma run_identity (h : cfg.im0.softwareRevision.swPrefix ∈ Im0.validSwPrefixes) :
    run c (moduleIdentityXml cfg) = c.onModule fun m => some (identify cfg m) := by
  have hsw := release_revision h
  simp only [List.append_assoc] at hsw
  cases hm : c.modules <;> simp [hm, moduleIdentityXml, step_element, Tag.names, List.lookup_cons,
    Catalog.visit, get_element, unescape_escape, numeral_dec, Catalog.onModule, onLast, hsw,
    identify]

lemma run_accessPointHead (h : cfg.im0.softwareRevision.swPrefix ∈ Im0.validSwPrefixes) :
    run c (accessPointHead cfg vendor) =
    some { c with
      stationName := some cfg.stationName.bytes
      minDeviceInterval := some cfg.minDeviceInterval
      lastSlot := some ((cfg.submodules.getLast?.map (·.slot)).getD 0)
      maxInputLength := some cfg.inputCrLen.toNat
      maxOutputLength := some cfg.outputCrLen.toNat
      plugs := c.plugs ++ [(utf8 "DAP1", 0)]
      modules := identify cfg { id := utf8 "DAP1", ident := 1 } :: c.modules } := by
  have hident : (hexValue (utf8 "0x00000001")).bind toU32 = some 1 := by decide
  have hslot : (numeral 10 (utf8 "0")).bind toU16 = some 0 := by decide
  simp [accessPointHead, step_element, Tag.names, List.lookup_cons, Catalog.visit, get_element,
    unescape_escape, numeral_dec, toU16_toNat, lastSlot_range, Catalog.addModule, hident, hslot,
    run_identity _ _ h, Catalog.onModule, onLast]

/-- The module a slot takes. -/
def plug (s : SubmoduleSpec) : Bytes × UInt16 := (utf8 s!"M{s.slot}", s.slot)

lemma run_moduleItemRef (s : SubmoduleSpec) :
    run c (moduleItemRef s) = some { c with plugs := c.plugs ++ [plug s] } := by
  simp [moduleItemRef, step_element, Tag.names, List.lookup_cons, Catalog.visit, get_element,
    utf8_slot, numeral_dec, toU16_toNat, plug]

lemma run_plugs (l : List SubmoduleSpec) :
    run c (l.flatMap moduleItemRef) = some { c with plugs := c.plugs ++ l.map plug } := by
  induction l generalizing c with
  | nil => simp
  | cons s l ih => simp [run_moduleItemRef, ih]

lemma run_accessPointSubmodule : run c accessPointSubmodule =
    c.onModule fun m => some { m with submodules :=
      { subslot := 0x8000, ident := 0x8000 } :: { subslot := 1, ident := 1 } :: m.submodules } := by
  have hvirtual : (hexValue (utf8 "0x00000001")).bind toU32 = some 1 := by decide
  have hinterface : (hexValue (utf8 "0x00008000")).bind toU32 = some 0x8000 := by decide
  have hsubslot : (numeral 10 (utf8 "32768")).bind toU16 = some 0x8000 := by decide
  cases hm : c.modules <;> simp [hm, accessPointSubmodule, step_element, Tag.names,
    List.lookup_cons, Catalog.visit, get_element, Catalog.addSubmodule, Catalog.onModule, onLast,
    hvirtual, hinterface, hsubslot]

lemma run_timingProperties : run c (timingProperties cfg) = some c := by
  simp [timingProperties, step_element, Tag.names, List.lookup_cons]

lemma run_accessPointTail : run c accessPointTail =
    c.onModule fun m => some { m with submodules :=
      { subslot := 0x8001, ident := 0x8001 } :: m.submodules } := by
  have hport : (hexValue (utf8 "0x00008001")).bind toU32 = some 0x8001 := by decide
  have hsubslot : (numeral 10 (utf8 "32769")).bind toU16 = some 0x8001 := by decide
  cases hm : c.modules <;> simp [hm, accessPointTail, step_element, Tag.names, List.lookup_cons,
    Catalog.visit, get_element, Catalog.addSubmodule, Catalog.onModule, onLast, hport, hsubslot]

lemma run_moduleHead (h : cfg.im0.softwareRevision.swPrefix ∈ Im0.validSwPrefixes)
    (s : SubmoduleSpec) :
    run c (moduleHead cfg s).x =
      some { c with modules := { identify cfg
        { id := utf8 s!"M{s.slot}", ident := 0x100 + s.slot.toUInt32 } with
          submodules := [{ subslot := 1, ident := 1 }] } :: c.modules } := by
  have hvirtual : (hexValue (utf8 "0x00000001")).bind toU32 = some 1 := by decide
  dsimp only [moduleHead]
  generalize 0x100 + s.slot.toUInt32 = ident
  simp [step_element, Tag.names, List.lookup_cons, Catalog.visit, get_element,
    Catalog.addModule, hexValue_u32, toU32_toNat, run_identity _ _ h,
    Catalog.addSubmodule, Catalog.onModule, onLast, hvirtual, identify]

lemma run_moduleTail (n : UInt16) : run c (moduleTail n) = some c := by
  simp [moduleTail, step_element, Tag.names, List.lookup_cons]

lemma run_texts (l : List (Bytes × Bytes)) : run c (l.flatMap textXml) = some c := by
  induction l with
  | nil => simp
  | cons t l ih => simp [textXml, step_element, Tag.names, List.lookup_cons, ih]

lemma run_textListHead : run c textListHead = some c := by
  simp [textListHead, step_element, Tag.names, List.lookup_cons]

lemma run_textListTail : run c textListTail = some c := by
  simp [textListTail]

end Parts

/-! ### The data items -/

def toVariable (p : Place) : Variable := ⟨utf8 p.textId, p.byte, p.bit⟩

/-- The block that the places of a reader make. -/
def blockOf (r : List Place × Nat) : Block := ⟨r.1.map toVariable, r.2⟩

/-- A catalog as a function of its last block. -/
def HasBlock (k : Block → Catalog) : Prop := ∀ b f, (k b).onBlock f = (f b).map k

/-- A catalog as a function of its last submodule. -/
def HasSubmodule (k : Submodule → Catalog) : Prop := ∀ s f, (k s).onSubmodule f = (f s).map k

lemma HasSubmodule.block {k : Submodule → Catalog} (hk : HasSubmodule k) (s : Submodule)
    (side : Side) : HasBlock fun b => k { s with blocks := (side, b) :: s.blocks } := by
  intro b f
  rw [Catalog.onBlock, hk]
  cases h : f b <;> simp [onLast, h]

lemma hasSubmodule_module (c : Catalog) (m : Module) (ms : List Module) :
    HasSubmodule fun s => { c with modules := { m with submodules := [s] } :: ms } := by
  intro s f
  rw [Catalog.onSubmodule, Catalog.onModule]
  cases h : f s <;> simp [onLast, h]

section Items

variable {k : Block → Catalog} (hk : HasBlock k) (n : UInt16) (side : Side)
include hk

lemma run_bits (group : List (Nat × FieldRef)) (b : Block) :
    run (k b) ((group.map fun p => (⟨p.2.bit, bitId n side.short p.1⟩ : BitDataItem)).flatMap
      BitDataItem.xml) = some (k { b with vars := b.vars ++ group.map fun p =>
        ⟨utf8 (bitId n side.short p.1), b.len - 1, p.2.bit.toNat⟩ }) := by
  induction group generalizing b with
  | nil => simp
  | cons p group ih =>
    have hstep : run (k b) (BitDataItem.xml ⟨p.2.bit, bitId n side.short p.1⟩) =
        some (k { b with vars := b.vars ++
          [⟨utf8 (bitId n side.short p.1), b.len - 1, p.2.bit.toNat⟩] }) := by
      simp [BitDataItem.xml, step_element, Tag.names, List.lookup_cons, Catalog.visit, get_element,
        hk b, Block.addBit, utf8_offset, numeral_dec]
    rw [List.map_cons, List.flatMap_cons, run_append, hstep, Option.bind_some, ih,
      List.append_assoc]
    rfl

lemma run_item (item : Item) (r : List Place × Nat) :
    run (k (blockOf r)) (item.render n side.short).xml =
      some (k (blockOf (readItem r (item.render n side.short)))) := by
  cases item with
  | scalar ty i =>
    simp [Item.render, DataItem.xml, step_element, Tag.names, List.lookup_cons, Catalog.visit,
      get_element, hk _, Block.addItem, dataTypeOf_name, blockOf, readItem, toVariable]
  | bits group =>
    have hbits := run_bits hk n side group ⟨r.1.map toVariable, r.2 + 1⟩
    simp [Item.render, DataItem.xml, step_element, Tag.names, List.lookup_cons, Catalog.visit,
      get_element, hk _, Block.addItem, dataTypeOf_name, blockOf, readItem, DataType.byteLen, hbits]
    rfl

lemma run_items (l : List Item) (r : List Place × Nat) :
    run (k (blockOf r)) ((l.map (Item.draft n side.short)).flatMap (·.x)) =
      some (k (blockOf ((l.map (Item.render n side.short)).foldl readItem r))) := by
  induction l generalizing r with
  | nil => rfl
  | cons item l ih =>
    rw [List.map_cons, List.flatMap_cons, run_append, Item.draft, run_item hk, Option.bind_some,
      ih]
    rfl

end Items

/-! ### The modules -/

/-- What a direction of a module is read as. -/
def blocksOf (cfg : DeviceConfig) (n : UInt16) (side : Side) : List (Side × Block) :=
  match cfg.fields n side.direction with
  | none => []
  | some fields =>
    [(side, blockOf (readItems ((items fields).map (Item.render n side.short))))]

def submoduleOf (cfg : DeviceConfig) (n : UInt16) : Submodule where
  subslot := 1
  ident := 1
  blocks := blocksOf cfg n .output ++ blocksOf cfg n .input

def moduleOf (cfg : DeviceConfig) (s : SubmoduleSpec) : Module :=
  { identify cfg { id := utf8 s!"M{s.slot}", ident := 0x100 + s.slot.toUInt32 } with
    submodules := [submoduleOf cfg s.slot] }

lemma run_sideDraft {k : Submodule → Catalog} (hk : HasSubmodule k) (cfg : DeviceConfig)
    (n : UInt16) (side : Side) (s : Submodule) :
    run (k s) (sideDraft cfg n side).x =
      some (k { s with blocks := blocksOf cfg n side ++ s.blocks }) := by
  unfold sideDraft blocksOf
  cases cfg.fields n side.direction with
  | none => rfl
  | some fields =>
    have hside : Tag.names.lookup side.tag = some (.side side) := by cases side <;> decide
    have hitems := run_items (hk.block s side) n side (items fields) ([], 0)
    have hopen : (k s).step (element side.tag [("Consistency", utf8 "All items consistency")]) =
        some (k { s with blocks := (side, blockOf ([], 0)) :: s.blocks }) := by
      rw [step_element, hside]
      exact hk s _
    simp [hopen, hitems]
    rfl

lemma run_moduleDraft (c : Catalog) {cfg : DeviceConfig}
    (h : cfg.im0.softwareRevision.swPrefix ∈ Im0.validSwPrefixes) (s : SubmoduleSpec) :
    run c (moduleDraft cfg s).x = some { c with modules := moduleOf cfg s :: c.modules } := by
  have hx : (moduleDraft cfg s).x = (moduleHead cfg s).x ++ (sideDraft cfg s.slot .input).x ++
      (sideDraft cfg s.slot .output).x ++ moduleTail s.slot := rfl
  have hk := hasSubmodule_module c
    (identify cfg { id := utf8 s!"M{s.slot}", ident := 0x100 + s.slot.toUInt32 }) c.modules
  rw [hx, run_append, run_append, run_append, run_moduleHead c cfg h, Option.bind_some,
    run_sideDraft hk, Option.bind_some, run_sideDraft hk, Option.bind_some, run_moduleTail,
    List.append_nil]
  rfl

lemma run_modules (c : Catalog) {cfg : DeviceConfig}
    (h : cfg.im0.softwareRevision.swPrefix ∈ Im0.validSwPrefixes) (l : List SubmoduleSpec) :
    run c ((l.map (moduleDraft cfg)).flatMap (·.x)) =
      some { c with modules := (l.map (moduleOf cfg)).reverse ++ c.modules } := by
  induction l generalizing c with
  | nil => rfl
  | cons s l ih =>
    rw [List.map_cons, List.flatMap_cons, run_append, run_moduleDraft c h, Option.bind_some, ih]
    simp

/-! ### The whole -/

def accessPoint (cfg : DeviceConfig) : Module :=
  { identify cfg { id := utf8 "DAP1", ident := 1 } with
    submodules := [{ subslot := 0x8001, ident := 0x8001 }, { subslot := 0x8000, ident := 0x8000 },
      { subslot := 1, ident := 1 }] }

/-- What the document of a configuration is read as. -/
def catalogOf (cfg : DeviceConfig) : Catalog where
  vendorId := some cfg.vendorId
  deviceId := some cfg.deviceId
  stationName := some cfg.stationName.bytes
  minDeviceInterval := some cfg.minDeviceInterval
  lastSlot := some ((cfg.submodules.getLast?.map (·.slot)).getD 0)
  maxInputLength := some cfg.inputCrLen.toNat
  maxOutputLength := some cfg.outputCrLen.toNat
  plugs := (utf8 "DAP1", 0) :: cfg.submodules.map plug
  modules := (cfg.submodules.map (moduleOf cfg)).reverse ++ [accessPoint cfg]

lemma load_render {b : DeviceConfigBuilder} {cfg : DeviceConfig} (h : b.build = .ok cfg)
    (vendor : GsdmlMeta) : load (render cfg vendor) = some (catalogOf cfg) := by
  have hsw := DeviceConfigBuilder.build_swPrefix h
  have hrun : load (render cfg vendor) = run {} (document cfg vendor) := by
    rw [load, read_render h]
    rfl
  rw [hrun, document]
  simp only [run_append, run_profileHeader, run_deviceIdentity, run_accessPointHead _ _ _ hsw,
    run_plugs, run_accessPointSubmodule, run_timingProperties, run_accessPointTail,
    run_modules _ hsw, run_textListHead, run_texts, run_textListTail, Option.bind_some,
    Catalog.onModule, onLast, Option.map_some]
  rfl

/-! ### The catalog and the model -/

section Model

variable {cfg : DeviceConfig} {s : SubmoduleSpec} {d : Derived}

/-- The table of one direction. -/
def refs (d : Derived) : Side → List FieldRef
  | .input => d.inputs
  | .output => d.outputs

def len (d : Derived) : Side → UInt16
  | .input => d.inputLen
  | .output => d.outputLen

lemma exists_checked (h : s.HasTables d) (side : Side) :
    ∃ fields, checkedLayout s.slot fields = .ok (refs d side, len d side) := by
  cases side with
  | input => exact ⟨_, h.inputs⟩
  | output => exact ⟨_, h.outputs⟩

/-- The reader and the table agree on where the fields are. -/
lemma readItems_refs (h : s.HasTables d) (side : Side) :
    readItems ((items (refs d side)).map (Item.render s.slot side.short)) =
      ((refs d side).zipIdx.map (devicePlace s.slot side.short), (len d side).toNat) := by
  obtain ⟨fields, hfields⟩ := exists_checked h side
  obtain ⟨hle, hrefs, hlen⟩ := checkedLayout_eq_ok.1 hfields
  rw [maxSubmoduleBytes] at hle
  have hagrees : Agrees s.slot side.short (packed fields) (items (packed fields).refs) :=
    packed_agrees (by omega)
  rw [← hlen, ← hrefs, Packing.toNat_ofNat_byte (by omega)]
  exact hagrees.places

lemma fields_eq_refs (h : cfg.Sound) (hp : (s, d) ∈ cfg.submodules.zip cfg.derived)
    (side : Side) : cfg.fields s.slot side.direction =
      if (refs d side).isEmpty then none else some (refs d side) := by
  obtain ⟨i, hi⟩ := List.mem_iff_getElem?.1 hp
  obtain ⟨hs, hd⟩ := List.getElem?_zip_eq_some.1 hi
  unfold DeviceConfig.fields
  rw [h.indexOf hs, Option.bind_eq_bind, Option.bind_some, hd, Option.bind_eq_bind,
    Option.bind_some]
  cases side <;> rfl

lemma lookup_blocks (cfg : DeviceConfig) (n : UInt16) (side : Side) :
    (blocksOf cfg n .output ++ blocksOf cfg n .input).lookup side =
      (cfg.fields n side.direction).map fun fields =>
        blockOf (readItems ((items fields).map (Item.render n side.short))) := by
  have hne : (Side.input == Side.output) = false ∧ (Side.output == Side.input) = false := by decide
  unfold blocksOf
  cases side <;> cases cfg.fields n Side.output.direction <;>
    cases cfg.fields n Side.input.direction <;> simp [List.lookup_cons, hne]

/-- The data of a module, as it was read. -/
lemma block_submoduleOf (h : cfg.Sound) (hp : (s, d) ∈ cfg.submodules.zip cfg.derived)
    (side : Side) : (submoduleOf cfg s.slot).block side =
      blockOf ((refs d side).zipIdx.map (devicePlace s.slot side.short), (len d side).toNat) := by
  have ht : s.HasTables d := (List.forall₂_iff_zip.1 h.tables).2 hp
  have hread := readItems_refs ht side
  rw [Submodule.block, submoduleOf, lookup_blocks, fields_eq_refs h hp]
  split_ifs with hempty
  · rw [List.isEmpty_iff.1 hempty] at hread ⊢
    rw [← hread]
    rfl
  · rw [Option.map_some, hread]
    rfl

lemma model_moduleOf (h : cfg.Sound) (hp : (s, d) ∈ cfg.submodules.zip cfg.derived) :
    (moduleOf cfg s).model s.slot = some (d.slotModel s.slot) := by
  have hlen : ∀ side, toU16 ((submoduleOf cfg s.slot).block side).len = some (len d side) := by
    intro side
    rw [block_submoduleOf h hp]
    exact toU16_toNat _
  have hsub : (submoduleOf cfg s.slot).model = some ⟨1, 1, d.inputLen, d.outputLen⟩ := by
    rw [Submodule.model, hlen, hlen]
    rfl
  rw [Module.model, moduleOf]
  simp [hsub]
  rfl

/-- The modules have different ids. -/
lemma moduleOf_plug (h : cfg.Sound) (hs : s ∈ cfg.submodules) :
    (catalogOf cfg).moduleOf (plug s).1 = some (moduleOf cfg s) := by
  refine find?_of_unique ?_ (beq_self_eq_true _) fun m hm hid => ?_
  · exact List.mem_append_left _ (List.mem_reverse.2 (List.mem_map_of_mem hs))
  rw [beq_iff_eq] at hid
  rcases List.mem_append.1 hm with hm | hm
  · obtain ⟨s', hs', rfl⟩ := List.mem_map.1 (List.mem_reverse.1 hm)
    have hkey : IdKey.item s'.slot = IdKey.item s.slot := IdKey.bytes_injective hid
    have hslot : s'.slot = s.slot := by injection hkey
    have hinj : (cfg.submodules.map (·.slot)).Nodup := List.nodup_iff_pairwise_ne.2
      (List.pairwise_map.2 h.slots_ne)
    rw [List.inj_on_of_nodup_map hinj hs' hs hslot]
  · cases List.mem_singleton.1 hm
    have hkey : IdKey.dap = IdKey.item s.slot := IdKey.bytes_injective hid
    cases hkey

lemma moduleOf_accessPoint (cfg : DeviceConfig) :
    (catalogOf cfg).moduleOf (utf8 "DAP1") = some (accessPoint cfg) := by
  refine find?_of_unique ?_ (beq_self_eq_true _) fun m hm hid => ?_
  · exact List.mem_append_right _ (List.mem_singleton_self _)
  rw [beq_iff_eq] at hid
  rcases List.mem_append.1 hm with hm | hm
  · obtain ⟨s', hs', rfl⟩ := List.mem_map.1 (List.mem_reverse.1 hm)
    have hkey : IdKey.item s'.slot = IdKey.dap := IdKey.bytes_injective hid
    cases hkey
  · exact List.mem_singleton.1 hm

/-- A traversal in which nothing fails. -/
lemma mapM_eq_map {α β : Type} {f : α → Option β} {g : α → β} {l : List α}
    (h : ∀ a ∈ l, f a = some (g a)) : l.mapM f = some (l.map g) := by
  induction l with
  | nil => rfl
  | cons a l ih =>
    obtain ⟨ha, hl⟩ := List.forall_mem_cons.1 h
    simp [List.mapM_cons, ha, ih hl]

lemma slots_catalogOf (h : cfg.Sound) (mac : MacAddr) :
    (catalogOf cfg).slots = some (cfg.model mac).slots := by
  have hfst : (cfg.submodules.zip cfg.derived).map Prod.fst = cfg.submodules :=
    List.map_fst_zip (le_of_eq h.length_derived)
  have hplugs : cfg.submodules.map plug =
      (cfg.submodules.zip cfg.derived).map (plug ∘ Prod.fst) := by
    rw [← List.map_map, hfst]
  have hdap : (accessPoint cfg).model 0 = some DeviceConfig.dap := rfl
  have hslots : (cfg.submodules.map plug).mapM
      (fun p => ((catalogOf cfg).moduleOf p.1).bind (Module.model p.2)) =
        some ((cfg.submodules.zip cfg.derived).map fun p => p.2.slotModel p.1.slot) := by
    rw [hplugs, List.mapM_map]
    refine mapM_eq_map fun p hp => ?_
    have hs : p.1 ∈ cfg.submodules := (List.of_mem_zip hp).1
    simp only [Function.comp, moduleOf_plug h hs, Option.bind_some]
    exact model_moduleOf h hp
  have hall : (catalogOf cfg).plugs = (utf8 "DAP1", 0) :: cfg.submodules.map plug := rfl
  rw [Catalog.slots, hall, List.mapM_cons, moduleOf_accessPoint, Option.bind_some, hdap, hslots]
  rfl

lemma vars_catalogOf (h : cfg.Sound) (hp : (s, d) ∈ cfg.submodules.zip cfg.derived)
    (side : Side) : (catalogOf cfg).vars s.slot side =
      some ((refs d side).zipIdx.map (toVariable ∘ devicePlace s.slot side.short)) := by
  have hs : s ∈ cfg.submodules := (List.of_mem_zip hp).1
  have ht : s.HasTables d := (List.forall₂_iff_zip.1 h.tables).2 hp
  have hplug : (catalogOf cfg).plugs.find? (·.2 == s.slot) = some (plug s) := by
    refine find?_of_unique (List.mem_cons_of_mem _ (List.mem_map_of_mem hs))
      (beq_self_eq_true _) fun p hp hslot => ?_
    rw [beq_iff_eq] at hslot
    rcases List.mem_cons.1 hp with rfl | hp
    · exact absurd hslot.symm ht.slot
    · obtain ⟨s', -, rfl⟩ := List.mem_map.1 hp
      change s'.slot = s.slot at hslot
      rw [plug, plug, hslot]
  rw [Catalog.vars, hplug, Option.bind_eq_bind, Option.bind_some, moduleOf_plug h hs,
    Option.bind_eq_bind, Option.bind_some]
  change some ((submoduleOf cfg s.slot).block side).vars = _
  rw [block_submoduleOf h hp, blockOf, List.map_map]

/-- No slot is past the last one. -/
lemma le_lastSlot (h : cfg.Sound) (hs : s ∈ cfg.submodules) :
    s.slot ≤ (cfg.submodules.getLast?.map (·.slot)).getD 0 := by
  have hsorted := h.slots
  rcases List.eq_nil_or_concat cfg.submodules with hnil | ⟨l, t, hl⟩
  · rw [hnil] at hs
    cases hs
  · rw [List.concat_eq_append] at hl
    rw [hl, List.pairwise_append] at hsorted
    rw [hl] at hs ⊢
    rw [List.getLast?_concat]
    rcases List.mem_append.1 hs with hs | hs
    · exact UInt16.le_of_lt (hsorted.2.2 s hs t (List.mem_singleton_self t))
    · rw [List.mem_singleton.1 hs]
      exact UInt16.le_refl _

end Model

/-! ### The result -/

/-- The catalog is that of the device: every value in it is the one the device goes by. -/
structure Describes (c : Catalog) (cfg : DeviceConfig) (mac : MacAddr) : Prop where
  vendorId : c.vendorId = some (cfg.model mac).vendorId
  deviceId : c.deviceId = some (cfg.model mac).deviceId
  stationName : c.stationName = some (cfg.model mac).stationName.bytes
  minDeviceInterval : c.minDeviceInterval = some cfg.minDeviceInterval
  slots : c.slots = some (cfg.model mac).slots
  lastSlot : ∃ last, c.lastSlot = some last ∧ ∀ s ∈ (cfg.model mac).slots, s.slot ≤ last
  /-- The lengths are those of the CRs that a controller makes for the slots. -/
  lengths : ∃ p, packModel (ε := Empty) (cfg.model mac) = .ok p ∧
    c.maxInputLength = some p.1.off.toNat ∧ c.maxOutputLength = some p.2.off.toNat
  /-- The variables are where the application finds the fields. -/
  vars : ∀ s ∈ cfg.submodules, ∀ side, c.vars s.slot side =
    some (((cfg.fields s.slot side.direction).getD []).zipIdx.map
      (toVariable ∘ devicePlace s.slot side.short))
  /-- Every module has the identity of the I&M0 record. -/
  identity : ∀ m ∈ c.modules, m.orderNumber = some cfg.im0.orderId.bytes ∧
    m.hardwareRelease = some cfg.im0.hardwareRevision.toNat ∧
    m.softwareRelease = some (releaseOf cfg.im0.softwareRevision)

/-- **The file cannot drift from the device.** A tool that takes in the document of a configuration
that `build` returns has the model of the device: its ids, every slot with the idents and lengths
of its submodules, every variable at the byte and bit the application reads it from, the lengths
of the two CRs and the identity of the I&M0 record. -/
theorem load_render_describes {b : DeviceConfigBuilder} {cfg : DeviceConfig}
    (h : b.build = .ok cfg) (vendor : GsdmlMeta) (mac : MacAddr) :
    ∃ c, load (render cfg vendor) = some c ∧ Describes c cfg mac := by
  have hsound := DeviceConfigBuilder.build_sound h
  refine ⟨catalogOf cfg, load_render h vendor, rfl, rfl, rfl, rfl, slots_catalogOf hsound mac,
    ⟨_, rfl, fun t ht => ?_⟩, ?_, fun s hs side => ?_, fun m hm => ?_⟩
  · rcases List.mem_cons.1 ht with rfl | ht
    · exact UInt16.zero_le
    · obtain ⟨p, hp, rfl⟩ := List.mem_map.1 ht
      exact le_lastSlot hsound (List.of_mem_zip hp).1
  · obtain ⟨hin, hout⟩ := modelShare_eq hsound mac
    obtain ⟨-, hx, hy⟩ := crLen_toNat hsound
    obtain ⟨p, hp, hfill⟩ := packModel_spec (ε := Empty) (hsound.model_distinct mac)
      (by omega) (by omega)
    refine ⟨p, hp, congrArg some ?_, congrArg some ?_⟩
    · rw [hfill.inputOff, hin]
    · rw [hfill.outputOff, hout]
  · obtain ⟨i, hi⟩ := List.mem_iff_getElem?.1 hs
    obtain ⟨_, d, hs', hd, -⟩ := hsound.lookup (hsound.indexOf hi)
    cases hi.symm.trans hs'
    have hp : (s, d) ∈ cfg.submodules.zip cfg.derived :=
      List.mem_iff_getElem?.2 ⟨i, List.getElem?_zip_eq_some.2 ⟨hi, hd⟩⟩
    rw [vars_catalogOf hsound hp, fields_eq_refs hsound hp]
    split_ifs with hempty
    · rw [List.isEmpty_iff.1 hempty]
      rfl
    · rfl
  · rcases List.mem_append.1 hm with hm | hm
    · obtain ⟨s, -, rfl⟩ := List.mem_map.1 (List.mem_reverse.1 hm)
      exact ⟨rfl, rfl, rfl⟩
    · cases List.mem_singleton.1 hm
      exact ⟨rfl, rfl, rfl⟩

theorem load_render_describes_demo :
    AppDemo.builder.build = .ok AppDemo.cfg ∧
      ∃ c, load (render AppDemo.cfg
        ⟨AppDemo.cfg.stationType, AppDemo.cfg.stationType, AppDemo.cfg.stationType⟩) = some c ∧
          Describes c AppDemo.cfg (.of 2 0 0 0 0 1) :=
  ⟨AppDemo.build_builder, load_render_describes AppDemo.build_builder _ _⟩

end Pnio.Gsd
