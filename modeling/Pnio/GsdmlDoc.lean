import Pnio.Gsdml
import Pnio.Lib.Xml

/-!
The GSDML document: the identity of the device, the module of each slot with the data items of its
two directions, and the list of all texts that these elements refer to.
-/

namespace Pnio

open Xml (Piece)

/-- The texts of the vendor that go into the document. -/
structure GsdmlMeta where
  vendorName : Str
  productFamily : Str
  infoText : Str
deriving DecidableEq

/-! ### Formatting -/

def escapeByte (b : UInt8) : Bytes :=
  if b = 0x26 then utf8 "&amp;"
  else if b = 0x3c then utf8 "&lt;"
  else if b = 0x3e then utf8 "&gt;"
  else if b = 0x22 then utf8 "&quot;"
  else if b = 0x27 then utf8 "&apos;"
  else [b]

/-- The special characters are ASCII, so the other bytes of a text stay as they are. -/
def escape (s : Str) : Bytes := s.bytes.flatMap escapeByte

def hexDigit (d : Nat) : UInt8 := UInt8.ofNat (if d < 10 then 0x30 + d else 0x37 + d)

/-- The last `width` digits of a number, in upper case. -/
def hex (width n : Nat) : Bytes :=
  (List.range width).reverse.map fun i => hexDigit (n / 16 ^ i % 16)

def DataType.name : DataType → String
  | unsigned8 => "Unsigned8"
  | integer16 => "Integer16"
  | unsigned16 => "Unsigned16"
  | integer32 => "Integer32"
  | float32 => "Float32"

/-- The type as its `Debug` form writes it. -/
def FieldType.debug : FieldType → String
  | bool => "Bool"
  | int => "Int"
  | word => "Word"
  | dint => "Dint"
  | real => "Real"

/-- A line of the document. -/
def line (indent : Nat) (pieces : List Piece) : List Piece :=
  .text (String.ofList (List.replicate indent ' ')) :: pieces ++ [.text "\n"]

/-- An element of nothing but text. -/
def textElement (name content : String) : List Piece :=
  [.opening name [], .text content, .closing name]

/-- What was written so far, and the texts it refers to: their ids and values. -/
structure Draft where
  x : List Piece := []
  texts : List (Bytes × Bytes) := []
deriving DecidableEq

instance : Append Draft := ⟨fun a b => ⟨a.x ++ b.x, a.texts ++ b.texts⟩⟩

/-! The pieces of an interpolated text. -/

lemma toString_text (t : String) : toString t = t := rfl

lemma utf8_slot (n : UInt16) : utf8 (toString n) = dec n.toNat := rfl

lemma utf8_offset (n : UInt8) : utf8 (toString n) = dec n.toNat := rfl

lemma utf8_index (i : Nat) : utf8 (toString i) = dec i := rfl

/-! ### The parts of the document -/

/-- The identity in the `ModuleInfo` of every module, as in the I&M0 record. -/
def moduleIdentityXml (cfg : DeviceConfig) : List Piece :=
  let im0 := cfg.im0
  let sw := im0.softwareRevision
  line 12 [.empty "OrderNumber" [("Value", escape im0.orderId)]] ++
  line 12 [.empty "HardwareRelease" [("Value", dec im0.hardwareRevision.toNat)]] ++
  line 12 [.empty "SoftwareRelease"
    [("Value", String.utf8EncodeChar sw.swPrefix ++ dec sw.functional.toNat ++ utf8 "." ++
      dec sw.bugFix.toNat ++ utf8 "." ++ dec sw.internal.toNat)]]

def profileHeader : List Piece :=
  line 0 [.instruction "xml version=\"1.0\" encoding=\"utf-8\""] ++
  line 0 [.opening "ISO15745Profile"
    [("xmlns", utf8 "http://www.profibus.com/GSDML/2003/11/DeviceProfile"),
      ("xmlns:xsi", utf8 "http://www.w3.org/2001/XMLSchema-instance"),
      ("xsi:schemaLocation", utf8 ("http://www.profibus.com/GSDML/2003/11/DeviceProfile " ++
        "..\\xsd\\GSDML-DeviceProfile-V2.4.xsd"))]] ++
  line 2 [.opening "ProfileHeader" []] ++
  line 4 (textElement "ProfileIdentification" "PROFINET Device Profile") ++
  line 4 (textElement "ProfileRevision" "1.00") ++
  line 4 (textElement "ProfileName" "Device Profile for PROFINET Devices") ++
  line 4 (textElement "ProfileSource" "PROFIBUS Nutzerorganisation e. V. (PNO)") ++
  line 4 (textElement "ProfileClassID" "Device") ++
  line 4 [.opening "ISO15745Reference" []] ++
  line 6 (textElement "ISO15745Part" "4") ++
  line 6 (textElement "ISO15745Edition" "1") ++
  line 6 (textElement "ProfileTechnology" "GSDML") ++
  line 4 [.closing "ISO15745Reference"] ++
  line 2 [.closing "ProfileHeader"] ++
  line 2 [.opening "ProfileBody" []]

def deviceIdentity (cfg : DeviceConfig) (vendor : GsdmlMeta) : List Piece :=
  line 4 [.opening "DeviceIdentity"
    [("VendorID", utf8 "0x" ++ hex 4 cfg.vendorId.toNat),
      ("DeviceID", utf8 "0x" ++ hex 4 cfg.deviceId.toNat)]] ++
  line 6 [.empty "InfoText" [("TextId", utf8 "T_InfoText")]] ++
  line 6 [.empty "VendorName" [("Value", escape vendor.vendorName)]] ++
  line 4 [.closing "DeviceIdentity"] ++
  line 4 [.opening "DeviceFunction" []] ++
  line 6 [.empty "Family"
    [("MainFamily", utf8 "I/O"), ("ProductFamily", escape vendor.productFamily)]] ++
  line 4 [.closing "DeviceFunction"] ++
  line 4 [.opening "ApplicationProcess" []] ++
  line 6 [.opening "DeviceAccessPointList" []]

/-- The access point, up to the modules it takes. -/
def accessPointHead (cfg : DeviceConfig) (vendor : GsdmlMeta) : List Piece :=
  let nSlots := (cfg.submodules.getLast?.map (·.slot)).getD 0
  let maxIn := cfg.inputCrLen
  let maxOut := cfg.outputCrLen
  let maxData := maxIn.toUInt32 + maxOut.toUInt32
  line 8 [.opening "DeviceAccessPointItem"
    [("ID", utf8 "DAP1"), ("PNIO_Version", utf8 "V2.3"),
      ("PhysicalSlots", utf8 "0.." ++ dec nSlots.toNat),
      ("ModuleIdentNumber", utf8 "0x00000001"),
      ("MinDeviceInterval", dec cfg.minDeviceInterval.toNat),
      ("DNS_CompatibleName", escape cfg.stationName), ("FixedInSlots", utf8 "0"),
      ("ObjectUUID_LocalIndex", utf8 "1"), ("MultipleWriteSupported", utf8 "true"),
      ("DeviceAccessSupported", utf8 "false"), ("CheckDeviceID_Allowed", utf8 "true"),
      ("NameOfStationNotTransferable", utf8 "false")]] ++
  line 10 [.opening "ModuleInfo" []] ++
  line 12 [.empty "Name" [("TextId", utf8 "T_DAP_Name")]] ++
  line 12 [.empty "InfoText" [("TextId", utf8 "T_DAP_Info")]] ++
  line 12 [.empty "VendorName" [("Value", escape vendor.vendorName)]] ++
  moduleIdentityXml cfg ++
  line 10 [.closing "ModuleInfo"] ++
  line 10 [.empty "IOConfigData"
    [("MaxInputLength", dec maxIn.toNat), ("MaxOutputLength", dec maxOut.toNat),
      ("MaxDataLength", dec maxData.toNat)]] ++
  line 10 [.opening "UseableModules" []]

def moduleItemRef (s : SubmoduleSpec) : List Piece :=
  line 12 [.empty "ModuleItemRef"
    [("ModuleItemTarget", utf8 s!"M{s.slot}"), ("AllowedInSlots", utf8 s!"{s.slot}")]]

def sendClock (cfg : DeviceConfig) : Bytes :=
  if cfg.minDeviceInterval < 32 then utf8 s!"{cfg.minDeviceInterval} 32" else utf8 "32"

def accessPointSubmodule : List Piece :=
  line 10 [.closing "UseableModules"] ++
  line 10 [.opening "VirtualSubmoduleList" []] ++
  line 12 [.opening "VirtualSubmoduleItem"
    [("ID", utf8 "DAP1_SM"), ("SubmoduleIdentNumber", utf8 "0x00000001"),
      ("MayIssueProcessAlarm", utf8 "false"), ("Writeable_IM_Records", utf8 "1 2 3")]] ++
  line 14 [.empty "IOData" []] ++
  line 14 [.opening "ModuleInfo" []] ++
  line 16 [.empty "Name" [("TextId", utf8 "T_DAP_Name")]] ++
  line 16 [.empty "InfoText" [("TextId", utf8 "T_DAP_Info")]] ++
  line 14 [.closing "ModuleInfo"] ++
  line 12 [.closing "VirtualSubmoduleItem"] ++
  line 10 [.closing "VirtualSubmoduleList"] ++
  line 10 [.opening "SystemDefinedSubmoduleList" []] ++
  line 12 [.opening "InterfaceSubmoduleItem"
    [("ID", utf8 "DAP1_IF"), ("SubslotNumber", utf8 "32768"), ("TextId", utf8 "T_Interface"),
      ("SubmoduleIdentNumber", utf8 "0x00008000"), ("SupportedRT_Classes", utf8 "RT_CLASS_1"),
      ("SupportedProtocols", utf8 ""), ("DCP_HelloSupported", utf8 "false"),
      ("PTP_BoundarySupported", utf8 "false"), ("DCP_BoundarySupported", utf8 "false"),
      ("DelayMeasurementSupported", utf8 "false")]] ++
  line 14 [.opening "ApplicationRelations" [("StartupMode", utf8 "Advanced")]]

def timingProperties (cfg : DeviceConfig) : List Piece :=
  line 16 [.empty "TimingProperties"
    [("SendClock", sendClock cfg), ("ReductionRatio", utf8 "1 2 4 8 16 32 64 128 256 512")]]

/-- The rest of the access point, up to the list of modules. -/
def accessPointTail : List Piece :=
  line 14 [.closing "ApplicationRelations"] ++
  line 12 [.closing "InterfaceSubmoduleItem"] ++
  line 12 [.opening "PortSubmoduleItem"
    [("ID", utf8 "DAP1_P1"), ("SubslotNumber", utf8 "32769"), ("TextId", utf8 "T_Port1"),
      ("SubmoduleIdentNumber", utf8 "0x00008001"), ("MaxPortTxDelay", utf8 "160"),
      ("MaxPortRxDelay", utf8 "350")]] ++
  line 14 [.opening "MAUTypeList" []] ++
  line 16 [.empty "MAUTypeItem" [("Value", utf8 "16")]] ++
  line 14 [.closing "MAUTypeList"] ++
  line 12 [.closing "PortSubmoduleItem"] ++
  line 10 [.closing "SystemDefinedSubmoduleList"] ++
  line 8 [.closing "DeviceAccessPointItem"] ++
  line 6 [.closing "DeviceAccessPointList"] ++
  line 6 [.opening "ModuleList" []]

/-- The texts of the access point. -/
def accessPointTexts (vendor : GsdmlMeta) : List (Bytes × Bytes) :=
  [(utf8 "T_InfoText", escape vendor.infoText),
    (utf8 "T_DAP_Name", escape vendor.productFamily ++ utf8 " DAP"),
    (utf8 "T_DAP_Info", utf8 "Device access point"),
    (utf8 "T_Interface", utf8 "PROFINET interface"),
    (utf8 "T_Port1", utf8 "Port 1")]

/-! ### The modules -/

/-- The two directions of a module, as the loop of `render` goes over them. -/
inductive Side where
  | input
  | output
deriving DecidableEq, Repr

namespace Side

def direction : Side → Direction
  | input => .input
  | output => .output

def tag : Side → String
  | input => "Input"
  | output => "Output"

/-- What the ids of the side's items begin with. -/
def short : Side → String
  | input => "In"
  | output => "Out"

end Side

def BitDataItem.xml (b : BitDataItem) : List Piece :=
  line 20 [.empty "BitDataItem"
    [("BitOffset", utf8 s!"{b.bitOffset}"), ("TextId", utf8 b.textId)]]

def DataItem.xml : DataItem → List Piece
  | .plain ty id => line 18 [.empty "DataItem" [("DataType", utf8 ty.name), ("TextId", utf8 id)]]
  | .useAsBits ty id bits =>
    line 18 [.opening "DataItem"
      [("DataType", utf8 ty.name), ("UseAsBits", utf8 "true"), ("TextId", utf8 id)]] ++
    bits.flatMap BitDataItem.xml ++
    line 18 [.closing "DataItem"]

/-- The texts of an item of slot `n`. -/
def Item.texts (n : UInt16) (tag : String) : Item → List (Bytes × Bytes)
  | .scalar ty i => [(utf8 (scalarId n tag i), utf8 s!"{tag} {i} ({ty.debug})")]
  | .bits group =>
    let first := (group.head?.map (·.1)).getD 0
    let last := (group.getLast?.map (·.1)).getD 0
    (utf8 (bitsId n tag first), utf8 s!"{tag} bits {first}..{last}") ::
      group.map fun p => (utf8 (bitId n tag p.1), utf8 s!"{tag} {p.1} (Bool)")

def Item.draft (n : UInt16) (tag : String) (item : Item) : Draft :=
  ⟨(item.render n tag).xml, item.texts n tag⟩

/-- The data items of one direction; a direction without fields has none. -/
def sideDraft (cfg : DeviceConfig) (n : UInt16) (side : Side) : Draft :=
  match cfg.fields n side.direction with
  | none => {}
  | some fields =>
    let drafts := (items fields).map (Item.draft n side.short)
    ⟨line 16 [.opening side.tag [("Consistency", utf8 "All items consistency")]] ++
        drafts.flatMap (·.x) ++ line 16 [.closing side.tag],
      drafts.flatMap (·.texts)⟩

def moduleHead (cfg : DeviceConfig) (s : SubmoduleSpec) : Draft :=
  let n := s.slot
  ⟨line 8 [.opening "ModuleItem"
      [("ID", utf8 s!"M{n}"),
        ("ModuleIdentNumber", utf8 "0x" ++ hex 8 (0x100 + n.toUInt32).toNat)]] ++
    line 10 [.opening "ModuleInfo" []] ++
    line 12 [.empty "Name" [("TextId", utf8 s!"M{n}_Name")]] ++
    line 12 [.empty "InfoText" [("TextId", utf8 s!"M{n}_Info")]] ++
    moduleIdentityXml cfg ++
    line 10 [.closing "ModuleInfo"] ++
    line 10 [.opening "VirtualSubmoduleList" []] ++
    line 12 [.opening "VirtualSubmoduleItem"
      [("ID", utf8 s!"M{n}_SM"), ("SubmoduleIdentNumber", utf8 "0x00000001"),
        ("MayIssueProcessAlarm", utf8 "false")]] ++
    line 14 [.opening "IOData" []],
    [(utf8 s!"M{n}_Name", escape s.name),
      (utf8 s!"M{n}_Info",
        utf8 (s!"Slot {n}: {(cfg.inputLen n).getD 0} input bytes, " ++
          s!"{(cfg.outputLen n).getD 0} output bytes"))]⟩

def moduleTail (n : UInt16) : List Piece :=
  line 14 [.closing "IOData"] ++
  line 14 [.opening "ModuleInfo" []] ++
  line 16 [.empty "Name" [("TextId", utf8 s!"M{n}_Name")]] ++
  line 16 [.empty "InfoText" [("TextId", utf8 s!"M{n}_Info")]] ++
  line 14 [.closing "ModuleInfo"] ++
  line 12 [.closing "VirtualSubmoduleItem"] ++
  line 10 [.closing "VirtualSubmoduleList"] ++
  line 8 [.closing "ModuleItem"]

def moduleDraft (cfg : DeviceConfig) (s : SubmoduleSpec) : Draft :=
  moduleHead cfg s ++ sideDraft cfg s.slot .input ++ sideDraft cfg s.slot .output ++
    ⟨moduleTail s.slot, []⟩

/-! ### The whole -/

def textXml (t : Bytes × Bytes) : List Piece :=
  line 10 [.empty "Text" [("TextId", t.1), ("Value", t.2)]]

def textListHead : List Piece :=
  line 6 [.closing "ModuleList"] ++
  line 6 [.opening "ExternalTextList" []] ++
  line 8 [.opening "PrimaryLanguage" []]

def textListTail : List Piece :=
  line 8 [.closing "PrimaryLanguage"] ++
  line 6 [.closing "ExternalTextList"] ++
  line 4 [.closing "ApplicationProcess"] ++
  line 2 [.closing "ProfileBody"] ++
  line 0 [.closing "ISO15745Profile"]

def document (cfg : DeviceConfig) (vendor : GsdmlMeta) : List Piece :=
  let modules := cfg.submodules.map (moduleDraft cfg)
  let texts := accessPointTexts vendor ++ modules.flatMap (·.texts)
  profileHeader ++ deviceIdentity cfg vendor ++ accessPointHead cfg vendor ++
    cfg.submodules.flatMap moduleItemRef ++ accessPointSubmodule ++ timingProperties cfg ++
    accessPointTail ++ modules.flatMap (·.x) ++ textListHead ++ texts.flatMap textXml ++
    textListTail

def render (cfg : DeviceConfig) (vendor : GsdmlMeta) : Bytes :=
  (document cfg vendor).flatMap Piece.write

end Pnio
