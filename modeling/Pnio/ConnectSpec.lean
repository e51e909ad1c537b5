import Pnio.LayoutSpec

/-!
What an accepted Connect has been checked for, and what it has not: an expected module without
submodules may be in a slot that does not exist, and the two CRs may share a FrameID.
-/

namespace Pnio

/-- What the checks of `validate` found, with the blocks of the two CRs. -/
structure Accepted (req : ConnectReq) (model : DeviceModel) (p : ArParams)
    (input output : IocrBlockReq) : Prop where
  iocrs : req.iocrs.length = 2
  findInput : req.iocrs.find? (·.iocrType == 1) = some input
  findOutput : req.iocrs.find? (·.iocrType == 2) = some output
  inputId : frameIdInRange input.frameId
  outputId : frameIdInRange output.frameId ∨ output.frameId = frameIdDeviceSelects
  expected : ∀ block ∈ req.expected, ∀ api ∈ block.apis, checkExpectedApi model api = .ok ()
  inputLength : checkIocrDataLength input model false = .ok ()
  outputLength : checkIocrDataLength output model true = .ok ()
  inputCr : p.inputCr = .fromReq input
  outputCr : p.outputCr =
    if output.frameId = frameIdDeviceSelects then
      { IocrParams.fromReq output with frameId := selectOutputFrameId input.frameId }
    else .fromReq output

lemma validate_accepted {req : ConnectReq} {model : DeviceModel} {p : ArParams}
    (h : validate req model = .ok p) : ∃ input output, Accepted req model p input output := by
  obtain ⟨_, -, h⟩ := Res.bind_eq_ok.1 h
  obtain ⟨_, -, h⟩ := Res.bind_eq_ok.1 h
  obtain ⟨_, hlen, h⟩ := Res.bind_eq_ok.1 h
  obtain ⟨input, hin, h⟩ := Res.bind_eq_ok.1 h
  obtain ⟨output, hout, h⟩ := Res.bind_eq_ok.1 h
  obtain ⟨_, hid, h⟩ := Res.bind_eq_ok.1 h
  obtain ⟨_, hod, h⟩ := Res.bind_eq_ok.1 h
  obtain ⟨_, hexp, h⟩ := Res.bind_eq_ok.1 h
  obtain ⟨_, hinl, h⟩ := Res.bind_eq_ok.1 h
  obtain ⟨_, houtl, h⟩ := Res.bind_eq_ok.1 h
  obtain ⟨_, -, h⟩ := Res.bind_eq_ok.1 h
  cases h
  rw [Res.reject_eq_ok, not_not] at hlen hid
  rw [Res.reject_eq_ok, not_and_or, not_not, not_not] at hod
  rw [Res.okOr_eq_ok] at hin hout
  refine ⟨input, output, hlen, hin, hout, hid, hod, fun block hb api ha => ?_, hinl, houtl, rfl,
    rfl⟩
  exact Res.forM_eq_ok.1 (Res.forM_eq_ok.1 hexp block hb) api ha

/-! ### The FrameIDs -/

lemma selectOutputFrameId_eq (id : UInt16) :
    selectOutputFrameId id = if id = 0x8001 then 0x8002 else 0x8001 := by
  have hrange : List.range' 0x8001 0x3BFF = 0x8001 :: 0x8002 :: List.range' 0x8003 0x3BFD := by
    rw [show 0x3BFF = 0x3BFD + 1 + 1 from rfl, List.range'_succ, List.range'_succ]
  unfold selectOutputFrameId
  rw [hrange, List.map_cons, List.map_cons, List.find?_cons]
  by_cases h : id = 0x8001
  · subst h
    rfl
  · have hne : (UInt16.ofNat 0x8001 != id) = true := bne_iff_ne.2 fun h' => h h'.symm
    rw [hne, if_neg h]
    rfl

lemma selectOutputFrameId_inRange (id : UInt16) : frameIdInRange (selectOutputFrameId id) := by
  rw [selectOutputFrameId_eq]
  split_ifs <;> decide

lemma selectOutputFrameId_ne (id : UInt16) : selectOutputFrameId id ≠ id := by
  rw [selectOutputFrameId_eq]
  split_ifs with h
  · rw [h]
    decide
  · exact fun h' => h h'.symm

/-! ### The lookups -/

/-- What a search for a key finds has that key. -/
lemma find?_key {α : Type} {key : α → UInt16} {k : UInt16} {l : List α} {a : α}
    (h : l.find? (fun x => key x == k) = some a) : a ∈ l ∧ key a = k := by
  have hk := List.find?_some h
  exact ⟨List.mem_of_find?_eq_some h, beq_iff_eq.1 hk⟩

lemma DeviceModel.find_eq_some {model : DeviceModel} {slot subslot : UInt16} {m : SubmoduleModel} :
    model.find slot subslot = some m ↔
      ∃ s, model.slots.find? (·.slot == slot) = some s ∧
        s.submodules.find? (·.subslot == subslot) = some m :=
  Option.bind_eq_some_iff

def Dir.isOutput : Dir → Bool
  | .input => false
  | .output => true

/-- The length check asks for one API and for what the layout will ask for, but not for the
objects to lie apart. -/
lemma checkIocrDataLength_eq_ok {cr : IocrBlockReq} {model : DeviceModel} {dir : Dir} {u : Unit} :
    checkIocrDataLength cr model dir.isOutput = .ok u ↔
      cr.apis.length = 1 ∧ (IocrParams.fromReq cr).Fits model dir := by
  unfold checkIocrDataLength
  dsimp only
  split
  · rename_i api hapi
    have hio : (IocrParams.fromReq cr).ioData = api.ioData := by simp [IocrParams.fromReq, hapi]
    have hcs : (IocrParams.fromReq cr).iocs = api.iocs := by simp [IocrParams.fromReq, hapi]
    have hlen (sm : SubmoduleModel) :
        (if dir.isOutput then sm.outputLen else sm.inputLen).toNat = dir.len sm := by
      cases dir <;> rfl
    have hobj (obj : IocrObject) {sm : SubmoduleModel}
        (h : model.find obj.slot obj.subslot = some sm) : objLen model dir obj = dir.len sm := by
      rw [objLen, h]
      rfl
    simp only [Res.bind_eq_ok, Res.forM_eq_ok, Res.okOr_eq_ok, Res.reject_eq_ok, not_lt, hlen]
    constructor
    · rintro ⟨-, hdata, hiocs⟩
      refine ⟨by rw [hapi]; rfl, fun obj ho => ?_, fun s hs => ?_⟩
      · obtain ⟨sm, hsm, -⟩ := hdata obj (hio ▸ ho)
        rw [hsm]
        rfl
      · rcases List.mem_append.1 hs with hs | hs
        · obtain ⟨obj, ho, rfl⟩ := List.mem_map.1 hs
          obtain ⟨sm, hsm, hle⟩ := hdata obj (hio ▸ ho)
          rw [ioSpan, hobj obj hsm]
          exact hle
        · obtain ⟨obj, ho, rfl⟩ := List.mem_map.1 hs
          exact hiocs obj (hcs ▸ ho)
    · rintro ⟨-, hfits⟩
      refine ⟨⟨⟩, fun obj ho => ?_, fun obj ho => ?_⟩
      · rw [← hio] at ho
        obtain ⟨sm, hsm⟩ := Option.isSome_iff_exists.1 (hfits.known obj ho)
        have hle := hfits.within _ (List.mem_append_left _ (List.mem_map_of_mem ho))
        rw [ioSpan, hobj obj hsm] at hle
        exact ⟨sm, hsm, hle⟩
      · rw [← hcs] at ho
        exact hfits.within _ (List.mem_append_right _ (List.mem_map_of_mem ho))
  · rename_i hapis
    constructor
    · intro h
      cases h
    · rintro ⟨hone, -⟩
      obtain ⟨api, hapi⟩ := List.length_eq_one_iff.1 hone
      exact absurd hapi (hapis api)

/-! ### The expected modules -/

/-- The model has a module in this slot, with this identity. -/
def DeviceModel.HasModule (model : DeviceModel) (slot : SlotModel) (api : ExpectedApi) : Prop :=
  slot ∈ model.slots ∧ slot.slot = api.slot ∧ slot.moduleIdent = api.moduleIdent

/-- The slot has the expected submodule, with its identity and its lengths. -/
def SlotModel.HasSubmodule (slot : SlotModel) (sm : ExpectedSubmodule) : Prop :=
  ∃ m ∈ slot.submodules, m.subslot = sm.subslot ∧ m.submoduleIdent = sm.submoduleIdent ∧
    m.inputLen = (sm.input.map (·.dataLength)).getD 0 ∧
    m.outputLen = (sm.output.map (·.dataLength)).getD 0

lemma checkExpectedSubmodule_ok {model : DeviceModel} {slot : UInt16} {sm : ExpectedSubmodule}
    {u : Unit} (h : checkExpectedSubmodule model slot sm = .ok u) :
    ∃ s, model.slots.find? (·.slot == slot) = some s ∧ s.HasSubmodule sm := by
  obtain ⟨m, hm, h⟩ := Res.bind_eq_ok.1 h
  obtain ⟨_, hident, h⟩ := Res.bind_eq_ok.1 h
  rw [Res.okOr_eq_ok, DeviceModel.find_eq_some] at hm
  rw [Res.reject_eq_ok, not_not] at hident
  rw [Res.reject_eq_ok, not_or, not_not, not_not] at h
  obtain ⟨s, hs, hsub⟩ := hm
  obtain ⟨hmem, hkey⟩ := find?_key hsub
  exact ⟨s, hs, m, hmem, hkey, hident, h⟩

/-- An accepted module is where the model has it, unless it has no submodules and its slot does
not exist. -/
lemma checkExpectedApi_ok {model : DeviceModel} {api : ExpectedApi} {u : Unit}
    (h : checkExpectedApi model api = .ok u)
    (hslot : api.submodules = [] → ∃ s ∈ model.slots, s.slot = api.slot) :
    ∃ s, model.HasModule s api ∧ ∀ sm ∈ api.submodules, s.HasSubmodule sm := by
  obtain ⟨_, hmod, h⟩ := Res.bind_eq_ok.1 h
  have hsub := Res.forM_eq_ok.1 h
  -- the slot is there: by the condition, or because a submodule was found in it
  obtain ⟨s, hs⟩ : ∃ s, model.slots.find? (·.slot == api.slot) = some s := by
    cases hsms : api.submodules with
    | nil =>
      obtain ⟨s, hs, heq⟩ := hslot hsms
      exact Option.isSome_iff_exists.1 (List.find?_isSome.2 ⟨s, hs, beq_iff_eq.2 heq⟩)
    | cons sm sms =>
      obtain ⟨s, hs, -⟩ := checkExpectedSubmodule_ok (hsub sm (by simp [hsms]))
      exact ⟨s, hs⟩
  rw [checkExpectedModule, hs, Res.reject_eq_ok, not_not] at hmod
  obtain ⟨hmem, hkey⟩ := find?_key hs
  refine ⟨s, ⟨hmem, hkey, hmod⟩, fun sm hsm => ?_⟩
  obtain ⟨s', hs', hhas⟩ := checkExpectedSubmodule_ok (hsub sm hsm)
  cases hs.symm.trans hs'
  exact hhas

/-! ### What an accepted Connect declares -/

/-- Everything the request declares is in the model, and the FrameIDs are proper. -/
structure Declared (req : ConnectReq) (model : DeviceModel) (p : ArParams) : Prop where
  modules : ∀ block ∈ req.expected, ∀ api ∈ block.apis,
    ∃ s, model.HasModule s api ∧ ∀ sm ∈ api.submodules, s.HasSubmodule sm
  inputId : frameIdInRange p.inputCr.frameId
  outputId : frameIdInRange p.outputCr.frameId
  distinct : p.inputCr.frameId ≠ p.outputCr.frameId
  objects : ∀ cr ∈ req.iocrs, ∀ api ∈ cr.apis, ∀ obj ∈ api.ioData,
    ∃ s ∈ model.slots, s.slot = obj.slot ∧ ∃ m ∈ s.submodules, m.subslot = obj.subslot

/-- What `validate` leaves to the controller. -/
structure ConnectReq.Careful (req : ConnectReq) (model : DeviceModel) : Prop where
  slots : ∀ block ∈ req.expected, ∀ api ∈ block.apis, api.submodules = [] →
    ∃ s ∈ model.slots, s.slot = api.slot
  frameIds : ∀ i ∈ req.iocrs, ∀ o ∈ req.iocrs, i.iocrType = 1 → o.iocrType = 2 →
    i.frameId ≠ o.frameId

section Accepted

variable {req : ConnectReq} {model : DeviceModel} {p : ArParams} {input output : IocrBlockReq}

lemma Accepted.mem_input (h : Accepted req model p input output) :
    input ∈ req.iocrs ∧ input.iocrType = 1 :=
  find?_key h.findInput

lemma Accepted.mem_output (h : Accepted req model p input output) :
    output ∈ req.iocrs ∧ output.iocrType = 2 :=
  find?_key h.findOutput

/-- The two CRs, in one order or the other. -/
lemma Accepted.iocrs_eq (h : Accepted req model p input output) :
    req.iocrs = [input, output] ∨ req.iocrs = [output, input] := by
  obtain ⟨hi, hti⟩ := h.mem_input
  obtain ⟨ho, hto⟩ := h.mem_output
  have hne : input ≠ output := by
    rintro rfl
    rw [hti] at hto
    exact absurd hto (by decide)
  obtain ⟨a, b, hab⟩ := List.length_eq_two.1 h.iocrs
  rw [hab, List.mem_pair] at hi ho
  rw [hab]
  rcases hi with rfl | rfl <;> rcases ho with rfl | rfl
  · exact absurd rfl hne
  · exact .inl rfl
  · exact .inr rfl
  · exact absurd rfl hne

/-- There are no other CRs than these two. -/
lemma Accepted.eq_of_mem (h : Accepted req model p input output) {cr : IocrBlockReq}
    (hcr : cr ∈ req.iocrs) : cr = input ∨ cr = output := by
  rcases h.iocrs_eq with heq | heq <;> rw [heq, List.mem_pair] at hcr
  · exact hcr
  · exact hcr.symm

lemma Accepted.fits_input (h : Accepted req model p input output) :
    input.apis.length = 1 ∧ (IocrParams.fromReq input).Fits model .input :=
  checkIocrDataLength_eq_ok.1 h.inputLength

lemma Accepted.fits_output (h : Accepted req model p input output) :
    output.apis.length = 1 ∧ (IocrParams.fromReq output).Fits model .output :=
  checkIocrDataLength_eq_ok.1 h.outputLength

/-- The objects of a CR that was checked are in the model. -/
lemma IocrParams.Fits.has_object {cr : IocrBlockReq} {dir : Dir} (hone : cr.apis.length = 1)
    (h : (IocrParams.fromReq cr).Fits model dir) {api : IocrApi} (ha : api ∈ cr.apis)
    {obj : IocrObject} (ho : obj ∈ api.ioData) :
    ∃ s ∈ model.slots, s.slot = obj.slot ∧ ∃ m ∈ s.submodules, m.subslot = obj.subslot := by
  obtain ⟨api', hapis⟩ := List.length_eq_one_iff.1 hone
  rw [hapis, List.mem_singleton] at ha
  subst ha
  have hobj : obj ∈ (IocrParams.fromReq cr).ioData := by
    simpa [IocrParams.fromReq, hapis] using ho
  obtain ⟨m, hm⟩ := Option.isSome_iff_exists.1 (h.known obj hobj)
  obtain ⟨s, hs, hsub⟩ := DeviceModel.find_eq_some.1 hm
  obtain ⟨hs, hslot⟩ := find?_key hs
  exact ⟨s, hs, hslot, m, find?_key hsub⟩

lemma Accepted.objects (h : Accepted req model p input output) : ∀ cr ∈ req.iocrs,
    ∀ api ∈ cr.apis, ∀ obj ∈ api.ioData,
      ∃ s ∈ model.slots, s.slot = obj.slot ∧ ∃ m ∈ s.submodules, m.subslot = obj.subslot := by
  intro cr hcr api ha obj ho
  rcases h.eq_of_mem hcr with rfl | rfl
  · exact h.fits_input.2.has_object h.fits_input.1 ha ho
  · exact h.fits_output.2.has_object h.fits_output.1 ha ho

lemma frameIdInRange_ne_deviceSelects {id : UInt16} (h : frameIdInRange id) :
    id ≠ frameIdDeviceSelects := by
  rintro rfl
  exact absurd h (by decide)

/-- The FrameID of the Output CR is in range, and it is the Input CR's only if the request says
so. -/
lemma Accepted.outputFrameId (h : Accepted req model p input output) :
    frameIdInRange p.outputCr.frameId ∧
      (p.inputCr.frameId = p.outputCr.frameId ↔ input.frameId = output.frameId) := by
  rw [h.inputCr, h.outputCr]
  split_ifs with hsel
  · refine ⟨selectOutputFrameId_inRange _, iff_of_false (selectOutputFrameId_ne _).symm ?_⟩
    rw [hsel]
    exact frameIdInRange_ne_deviceSelects h.inputId
  · exact ⟨h.outputId.resolve_right hsel, Iff.rfl⟩

end Accepted

/-- **An accepted Connect fits the device, if the controller is careful**: if it puts no module
without submodules where there is no slot, and gives the two CRs different FrameIDs. -/
theorem declared_iff_careful {req : ConnectReq} {model : DeviceModel} {p : ArParams}
    (h : validate req model = .ok p) : Declared req model p ↔ req.Careful model := by
  obtain ⟨input, output, ha⟩ := validate_accepted h
  obtain ⟨hout, hsame⟩ := ha.outputFrameId
  constructor
  · intro hd
    refine ⟨fun block hb api hapi _ => ?_, fun i hi o ho hti hto hid => hd.distinct ?_⟩
    · obtain ⟨s, ⟨hs, hslot, -⟩, -⟩ := hd.modules block hb api hapi
      exact ⟨s, hs, hslot⟩
    · -- the blocks of these types are the ones found
      have hin : i = input := by
        rcases ha.eq_of_mem hi with rfl | rfl
        · rfl
        · exact absurd (hti.symm.trans ha.mem_output.2) (by decide)
      have hout : o = output := by
        rcases ha.eq_of_mem ho with rfl | rfl
        · exact absurd (hto.symm.trans ha.mem_input.2) (by decide)
        · rfl
      subst hin hout
      exact hsame.2 hid
  · intro hc
    refine ⟨fun block hb api hapi => ?_, ?_, hout, fun heq => ?_, ha.objects⟩
    · exact checkExpectedApi_ok (ha.expected block hb api hapi) (hc.slots block hb api hapi)
    · rw [ha.inputCr]
      exact ha.inputId
    · exact hc.frameIds input ha.mem_input.1 output ha.mem_output.1 ha.mem_input.2
        ha.mem_output.2 (hsame.1 heq)

/-! ### Two requests -/

namespace ConnectDemo

def uuid (b : UInt8) : Uuid := .fill 16 b

/-- Two bytes of inputs in slot 1. -/
def model : DeviceModel :=
  { vendorId := 1, deviceId := 2, inst := 1, stationName := .ofAscii [0x61],
    mac := MacAddr.of 2 0 0 0 0 1, maxAlarmDataLength := 200,
    slots := [{ slot := 1, moduleIdent := 0x101, submodules := [⟨1, 1, 2, 0⟩] }] }

/-- A CR of 40 bytes every 32 ms with these objects. -/
def iocr (iocrType frameId : UInt16) (ioData iocs : List IocrObject) : IocrBlockReq :=
  { iocrType, reference := iocrType, lt := 0x8892, properties := 0, dataLength := 40, frameId,
    sendClockFactor := 32, reductionRatio := 32, phase := 1, sequence := 0, frameSendOffset := 0,
    watchdogFactor := 3, dataHoldFactor := 3, tagHeader := 0xC000,
    multicastMac := MacAddr.of 0 0 0 0 0 0, apis := [{ api := 0, ioData, iocs }] }

def request (expected : List ExpectedApi) (input output : IocrBlockReq) : ConnectReq :=
  { ar :=
      { arType := 1, arUuid := uuid 3, sessionKey := 1, initiatorMac := MacAddr.of 2 0 0 0 0 2,
        initiatorObjectUuid := uuid 4, arProperties := 0, activityTimeoutFactor := 600,
        initiatorUdpRtPort := 0x8892, stationName := .ofAscii [0x62] }
    iocrs := [input, output]
    expected := [⟨expected⟩]
    alarmCr :=
      { alarmCrType := 1, lt := 0x8892, properties := 0, rtaTimeoutFactor := 1, rtaRetries := 3,
        localAlarmReference := 0, maxAlarmDataLength := 200, tagHeaderHigh := 0xC000,
        tagHeaderLow := 0xA000 } }

/-- The module in slot 1, as the model has it. -/
def expected : ExpectedApi :=
  { api := 0, slot := 1, moduleIdent := 0x101, moduleProperties := 0,
    submodules := [⟨1, 1, 0, some ⟨2, 1, 1⟩, none⟩] }

/-- A request as an engineering tool would make it. -/
def good : ConnectReq :=
  request [expected] (iocr 1 0x8000 [⟨1, 1, 0⟩] []) (iocr 2 0x8001 [] [⟨1, 1, 0⟩])

/-- A module without submodules in slot 7, and one FrameID for both CRs. -/
def careless : ConnectReq :=
  request [{ expected with slot := 7, submodules := [] }] (iocr 1 0x8000 [] [])
    (iocr 2 0x8000 [] [])

def params (req : ConnectReq) : Option ArParams :=
  match validate req model with
  | .ok p => some p
  | _ => none

lemma validate_of_params {req : ConnectReq} {p : ArParams} (h : params req = some p) :
    validate req model = .ok p := by
  unfold params at h
  split at h
  · rename_i q hq
    cases h
    exact hq
  · cases h

end ConnectDemo

theorem declared_good :
    ∃ p, validate ConnectDemo.good ConnectDemo.model = .ok p ∧
      Declared ConnectDemo.good ConnectDemo.model p := by
  have hp : (ConnectDemo.params ConnectDemo.good).isSome = true := by decide +kernel
  obtain ⟨p, hp⟩ := Option.isSome_iff_exists.1 hp
  have hv := ConnectDemo.validate_of_params hp
  refine ⟨p, hv, (declared_iff_careful hv).2 ⟨?_, ?_⟩⟩
  · decide +kernel
  · decide +kernel

/-- The device accepts a module in a slot it does not have, and receives and sends under one
FrameID. -/
theorem careless_accepted :
    (ConnectDemo.model.slots.map (·.slot)).Nodup ∧
      ∃ p, validate ConnectDemo.careless ConnectDemo.model = .ok p ∧
        p.inputCr.frameId = p.outputCr.frameId ∧
        (∃ block ∈ ConnectDemo.careless.expected, ∃ api ∈ block.apis,
          ∀ s, ¬ ConnectDemo.model.HasModule s api) ∧
        ¬ Declared ConnectDemo.careless ConnectDemo.model p := by
  have hp : (ConnectDemo.params ConnectDemo.careless).any
      (fun p => p.inputCr.frameId == p.outputCr.frameId) = true := by decide +kernel
  obtain ⟨p, hp, hid⟩ := (Option.any_eq_true _ _).1 hp
  have hids := beq_iff_eq.1 hid
  refine ⟨by decide, p, ConnectDemo.validate_of_params hp, hids, ?_, fun hd => hd.distinct hids⟩
  refine ⟨_, List.mem_singleton.2 rfl, _, List.mem_singleton.2 rfl, ?_⟩
  rintro s ⟨hs, hslot, -⟩
  rw [List.mem_singleton.1 hs] at hslot
  exact absurd hslot (by decide)

end Pnio
