import Pnio.Blocks

/-!
Connect: the blocks of the request grouped by type, their validation against the device
model, the AR parameters taken from them and the blocks of the response.
-/

namespace Pnio

/-! ### The device model -/

structure SubmoduleModel where
  subslot : UInt16
  submoduleIdent : UInt32
  inputLen : UInt16
  outputLen : UInt16
deriving DecidableEq, Repr

structure SlotModel where
  slot : UInt16
  moduleIdent : UInt32
  submodules : List SubmoduleModel
deriving DecidableEq, Repr

structure DeviceModel where
  vendorId : UInt16
  deviceId : UInt16
  inst : UInt16
  stationName : Str
  mac : MacAddr
  maxAlarmDataLength : UInt16
  slots : List SlotModel
deriving DecidableEq

def DeviceModel.find (m : DeviceModel) (slot subslot : UInt16) : Option SubmoduleModel := do
  let s ← m.slots.find? (·.slot == slot)
  s.submodules.find? (·.subslot == subslot)

/-! ### The request -/

structure ConnectReq where
  ar : ArBlockReq
  iocrs : List IocrBlockReq
  expected : List ExpectedSubmoduleBlockReq
  alarmCr : AlarmCrBlockReq
deriving DecidableEq

namespace ConnectReq

/-- The blocks seen so far by the loop of `parse`. -/
structure Acc where
  ar : Option ArBlockReq
  iocrs : List IocrBlockReq
  expected : List ExpectedSubmoduleBlockReq
  alarmCr : Option AlarmCrBlockReq

def Acc.push (a : Acc) (b : BlockHeader × Bytes) : Res CmError Acc :=
  if b.1.blockType = Ty.arBlockReq then do
    Res.reject a.ar.isSome (.reject (.connectReject .arBlock 0))
    let ar ← Res.mapErr .block (ArBlockReq.parse b.2)
    .ok { a with ar := some ar }
  else if b.1.blockType = Ty.iocrBlockReq then do
    let cr ← Res.mapErr .block (IocrBlockReq.parse b.2)
    .ok { a with iocrs := a.iocrs ++ [cr] }
  else if b.1.blockType = Ty.expectedSubmoduleBlockReq then do
    let e ← Res.mapErr .block (ExpectedSubmoduleBlockReq.parse b.2)
    .ok { a with expected := a.expected ++ [e] }
  else if b.1.blockType = Ty.alarmCrBlockReq then do
    Res.reject a.alarmCr.isSome (.reject (.connectReject .alarmCr 0))
    let cr ← Res.mapErr .block (AlarmCrBlockReq.parse b.2)
    .ok { a with alarmCr := some cr }
  else .err (.reject (.connectReject .arBlock 0xff))

def parse (blocks : Bytes) : Res CmError ConnectReq := do
  let all ← Res.mapErr .block (BlockHeader.readAll blocks)
  let acc ← all.foldlM Acc.push ⟨none, [], [], none⟩
  let ar ← Res.okOr acc.ar (.reject (.connectReject .arBlock 0))
  let alarmCr ← Res.okOr acc.alarmCr (.reject (.connectReject .alarmCr 0))
  .ok { ar, iocrs := acc.iocrs, expected := acc.expected, alarmCr }

end ConnectReq

/-! ### The parameters of an AR -/

structure IocrParams where
  reference : UInt16
  frameId : UInt16
  dataLength : UInt16
  sendClockFactor : UInt16
  reductionRatio : UInt16
  watchdogFactor : UInt16
  dataHoldFactor : UInt16
  ioData : List IocrObject
  iocs : List IocrObject
deriving DecidableEq, Repr

def IocrParams.fromReq (cr : IocrBlockReq) : IocrParams :=
  { reference := cr.reference
    frameId := cr.frameId
    dataLength := cr.dataLength
    sendClockFactor := cr.sendClockFactor
    reductionRatio := cr.reductionRatio
    watchdogFactor := cr.watchdogFactor
    dataHoldFactor := cr.dataHoldFactor
    ioData := (cr.apis.head?.map (·.ioData)).getD []
    iocs := (cr.apis.head?.map (·.iocs)).getD [] }

structure ArParams where
  arUuid : Uuid
  sessionKey : UInt16
  initiatorMac : MacAddr
  initiatorObjectUuid : Uuid
  activityTimeoutFactor : UInt16
  inputCr : IocrParams
  outputCr : IocrParams
  alarmRefRemote : UInt16
  maxAlarmDataLength : UInt16
  maxAlarmDataLengthRemote : UInt16
  rtaTimeoutFactor : UInt16
  rtaRetries : UInt16
  alarmRefLocal : UInt16
  alarmTagHigh : UInt16
  alarmTagLow : UInt16
deriving DecidableEq, Repr

/-! ### Validation -/

def frameIdDeviceSelects : UInt16 := 0xFFFF

def frameIdInRange (id : UInt16) : Prop := 0x8000 ≤ id ∧ id ≤ 0xBBFF

instance (id : UInt16) : Decidable (frameIdInRange id) := inferInstanceAs (Decidable (_ ∧ _))

/-- The first FrameID of `0x8001..=0xBBFF` other than the Input CR's. -/
def selectOutputFrameId (inputFrameId : UInt16) : UInt16 :=
  (((List.range' 0x8001 0x3BFF).map UInt16.ofNat).find? (· != inputFrameId)).getD 0x8001

def checkIocrDataLength (cr : IocrBlockReq) (model : DeviceModel) (isOutputCr : Bool) :
    Res PnioStatus Unit :=
  let tooSmall := PnioStatus.connectReject .iocrBlock 5
  match cr.apis with
  | [api] => do
    api.ioData.forM fun obj => do
      let sm ← Res.okOr (model.find obj.slot obj.subslot) tooSmall
      let modelLen := if isOutputCr then sm.outputLen else sm.inputLen
      Res.reject (cr.dataLength.toNat < obj.frameOffset.toNat + modelLen.toNat + 1) tooSmall
    api.iocs.forM fun obj =>
      Res.reject (cr.dataLength.toNat < obj.frameOffset.toNat + 1) tooSmall
  | _ => .err (.connectReject .iocrBlock 15)

/-- One expected submodule against the model: presence, then identity, then lengths. -/
def checkExpectedSubmodule (model : DeviceModel) (slot : UInt16) (sm : ExpectedSubmodule) :
    Res PnioStatus Unit := do
  let m ← Res.okOr (model.find slot sm.subslot) (.connectReject .expectedSubmodule 7)
  Res.reject (m.submoduleIdent ≠ sm.submoduleIdent) (.connectReject .expectedSubmodule 6)
  let inputLen := (sm.input.map (·.dataLength)).getD 0
  let outputLen := (sm.output.map (·.dataLength)).getD 0
  Res.reject (m.inputLen ≠ inputLen ∨ m.outputLen ≠ outputLen)
    (.connectReject .expectedSubmodule 7)

/-- A slot the model does not have is left to the check of its submodules. -/
def checkExpectedModule (model : DeviceModel) (api : ExpectedApi) : Res PnioStatus Unit :=
  match model.slots.find? (·.slot == api.slot) with
  | some slotModel =>
    Res.reject (slotModel.moduleIdent ≠ api.moduleIdent) (.connectReject .expectedSubmodule 4)
  | none => .ok ()

def checkExpectedApi (model : DeviceModel) (api : ExpectedApi) : Res PnioStatus Unit := do
  checkExpectedModule model api
  api.submodules.forM (checkExpectedSubmodule model api.slot)

def validate (req : ConnectReq) (model : DeviceModel) : Res PnioStatus ArParams := do
  Res.reject (req.ar.arType ≠ 1) (.connectReject .arBlock 1)
  Res.reject (req.ar.arUuid = Uuid.nil) (.connectReject .arBlock 2)
  Res.reject (req.iocrs.length ≠ 2) (.connectReject .iocrBlock 1)
  let input ← Res.okOr (req.iocrs.find? (·.iocrType == 1)) (.connectReject .iocrBlock 1)
  let output ← Res.okOr (req.iocrs.find? (·.iocrType == 2)) (.connectReject .iocrBlock 1)
  Res.reject (¬ frameIdInRange input.frameId) (.connectReject .iocrBlock 6)
  Res.reject (¬ frameIdInRange output.frameId ∧ output.frameId ≠ frameIdDeviceSelects)
    (.connectReject .iocrBlock 6)
  req.expected.forM fun block => block.apis.forM (checkExpectedApi model)
  checkIocrDataLength input model false
  checkIocrDataLength output model true
  Res.reject (req.alarmCr.alarmCrType ≠ 1) (.connectReject .alarmCr 1)
  let outputCr := IocrParams.fromReq output
  let outputCr :=
    if output.frameId = frameIdDeviceSelects then
      { outputCr with frameId := selectOutputFrameId input.frameId }
    else outputCr
  .ok
    { arUuid := req.ar.arUuid
      sessionKey := req.ar.sessionKey
      initiatorMac := req.ar.initiatorMac
      initiatorObjectUuid := req.ar.initiatorObjectUuid
      activityTimeoutFactor := req.ar.activityTimeoutFactor
      inputCr := IocrParams.fromReq input
      outputCr
      alarmRefRemote := req.alarmCr.localAlarmReference
      maxAlarmDataLength := model.maxAlarmDataLength
      maxAlarmDataLengthRemote := req.alarmCr.maxAlarmDataLength
      rtaTimeoutFactor := req.alarmCr.rtaTimeoutFactor
      rtaRetries := req.alarmCr.rtaRetries
      alarmRefLocal := 0
      alarmTagHigh := req.alarmCr.tagHeaderHigh
      alarmTagLow := req.alarmCr.tagHeaderLow }

/-! ### The response -/

section Response

variable {ε : Type}

def writeArBlockRes (params : ArParams) (model : DeviceModel) : Res ε Bytes :=
  writeBlock Ty.arBlockRes
    (be16 1 ++ params.arUuid.write .big ++ be16 params.sessionKey ++ model.mac.bytes ++ be16 0x8892)

def writeIocrBlockRes (iocrType : UInt16) (cr : IocrParams) : Res ε Bytes :=
  writeBlock Ty.iocrBlockRes (be16 iocrType ++ be16 cr.reference ++ be16 cr.frameId)

def writeAlarmCrBlockRes (maxAlarmDataLength : UInt16) : Res ε Bytes :=
  writeBlock Ty.alarmCrBlockRes (be16 1 ++ be16 0 ++ be16 maxAlarmDataLength)

/-- The whole block is padded to a multiple of four bytes. -/
def writeArServerBlockRes (stationName : Str) : Res ε Bytes :=
  let name := stationName.bytes
  let body := be16 (UInt16.ofNat name.length) ++ name
  let total := BlockHeader.hdrLen + body.length
  let pad := (4 - total % 4) % 4
  writeBlock Ty.arServerBlockRes (body ++ List.replicate pad 0)

def buildConnectRes (params : ArParams) (model : DeviceModel) : Res ε Bytes := do
  let ar ← writeArBlockRes params model
  let input ← writeIocrBlockRes 1 params.inputCr
  let output ← writeIocrBlockRes 2 params.outputCr
  let alarmCr ← writeAlarmCrBlockRes model.maxAlarmDataLength
  let server ← writeArServerBlockRes model.stationName
  .ok (ar ++ input ++ output ++ alarmCr ++ server)

end Response

/-! ### What a validated request and its parameters agree on -/

/-- The parameters name the AR and the session of the request they were taken from. -/
lemma validate_arUuid_sessionKey {req : ConnectReq} {model : DeviceModel} {p : ArParams}
    (h : validate req model = .ok p) :
    p.arUuid = req.ar.arUuid ∧ p.sessionKey = req.ar.sessionKey ∧
      p.initiatorObjectUuid = req.ar.initiatorObjectUuid := by
  simp only [validate, Res.bind_eq_ok, Res.ok.injEq] at h
  obtain ⟨-, -, -, -, -, -, -, -, -, -, -, -, -, -, -, -, -, -, -, -, -, -, rfl⟩ := h
  exact ⟨rfl, rfl, rfl⟩

/-! ### Refusals are never a success -/

lemma checkIocrDataLength_raises (cr : IocrBlockReq) (model : DeviceModel) (out : Bool) :
    Res.Raises (·.val ≠ 0) (checkIocrDataLength cr model out) := by
  have hr := PnioStatus.connectReject_val_ne_zero .iocrBlock
  unfold checkIocrDataLength
  split
  · refine Res.raises_bind (Res.raises_forM fun obj => ?_) fun _ =>
      Res.raises_forM fun obj => Res.raises_reject (hr 5)
    exact Res.raises_bind (Res.raises_okOr (hr 5)) fun sm => Res.raises_reject (hr 5)
  · exact Res.raises_err (hr 15)

lemma checkExpectedApi_raises (model : DeviceModel) (api : ExpectedApi) :
    Res.Raises (·.val ≠ 0) (checkExpectedApi model api) := by
  have hr := PnioStatus.connectReject_val_ne_zero .expectedSubmodule
  refine Res.raises_bind ?_ fun _ => Res.raises_forM fun sm => ?_
  · unfold checkExpectedModule
    split
    · exact Res.raises_reject (hr 4)
    · exact Res.raises_ok _
  · refine Res.raises_bind (Res.raises_okOr (hr 7)) fun m => ?_
    exact Res.raises_bind (Res.raises_reject (hr 6)) fun _ => Res.raises_reject (hr 7)

/-- A Connect that fails validation is answered with a status other than OK. -/
lemma validate_raises (req : ConnectReq) (model : DeviceModel) :
    Res.Raises (·.val ≠ 0) (validate req model) := by
  have ha := PnioStatus.connectReject_val_ne_zero .arBlock
  have hi := PnioStatus.connectReject_val_ne_zero .iocrBlock
  unfold validate
  refine Res.raises_bind (Res.raises_reject (ha 1)) fun _ => ?_
  refine Res.raises_bind (Res.raises_reject (ha 2)) fun _ => ?_
  refine Res.raises_bind (Res.raises_reject (hi 1)) fun _ => ?_
  refine Res.raises_bind (Res.raises_okOr (hi 1)) fun input => ?_
  refine Res.raises_bind (Res.raises_okOr (hi 1)) fun output => ?_
  refine Res.raises_bind (Res.raises_reject (hi 6)) fun _ => ?_
  refine Res.raises_bind (Res.raises_reject (hi 6)) fun _ => ?_
  refine Res.raises_bind (Res.raises_forM fun b => Res.raises_forM fun api =>
    checkExpectedApi_raises model api) fun _ => ?_
  refine Res.raises_bind (checkIocrDataLength_raises input model false) fun _ => ?_
  refine Res.raises_bind (checkIocrDataLength_raises output model true) fun _ => ?_
  refine Res.raises_bind
    (Res.raises_reject (PnioStatus.connectReject_val_ne_zero .alarmCr 1)) fun _ => ?_
  exact Res.raises_ok _

/-- A rejection by the parser carries a status other than OK as well. -/
lemma ConnectReq.parse_raises (blocks : Bytes) :
    Res.Raises (fun e => ∀ s, e = .reject s → s.val ≠ 0) (ConnectReq.parse blocks) := by
  have hc := PnioStatus.connectReject_val_ne_zero
  have hb : ∀ e : BlockError, ∀ s, CmError.block e = .reject s → s.val ≠ 0 := nofun
  have hr : ∀ b f, ∀ s, CmError.reject (.connectReject b f) = .reject s → s.val ≠ 0 := by
    rintro b f s ⟨⟩; exact hc b f
  unfold ConnectReq.parse
  refine Res.raises_bind (Res.raises_mapErr hb) fun all => ?_
  refine Res.raises_bind (Res.raises_foldlM fun a b => ?_) fun acc => ?_
  · unfold Acc.push
    split_ifs
    · refine Res.raises_bind (Res.raises_reject (hr _ _)) fun _ => ?_
      exact Res.raises_bind (Res.raises_mapErr hb) fun _ => Res.raises_ok _
    · exact Res.raises_bind (Res.raises_mapErr hb) fun _ => Res.raises_ok _
    · exact Res.raises_bind (Res.raises_mapErr hb) fun _ => Res.raises_ok _
    · refine Res.raises_bind (Res.raises_reject (hr _ _)) fun _ => ?_
      exact Res.raises_bind (Res.raises_mapErr hb) fun _ => Res.raises_ok _
    · exact Res.raises_err (hr _ _)
  · refine Res.raises_bind (Res.raises_okOr (hr _ _)) fun ar => ?_
    exact Res.raises_bind (Res.raises_okOr (hr _ _)) fun cr => Res.raises_ok _

end Pnio
