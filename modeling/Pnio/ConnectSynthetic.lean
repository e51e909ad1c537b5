import Pnio.ConfigSpec
import Pnio.ConnectBlocks
import Pnio.ConnectLayout
import Pnio.Ndr

/-!
The Connect request that a controller derives from the device model, walking it and placing the
submodules one after the other, and that the device takes it and lays the same lengths out.
-/

namespace Pnio

/-! ### The request -/

section Request

variable {ε : Type}

/-- Additions in 16 bits are checked. -/
def addU16 (a b : UInt16) : Res ε UInt16 :=
  if a.toNat + b.toNat < 65536 then .ok (a + b) else .panic .overflow

def addU32 (a b : UInt32) : Res ε UInt32 :=
  if a.toNat + b.toNat < 4294967296 then .ok (a + b) else .panic .overflow

/-- The objects of one CR so far, and the offset of the next one. -/
structure CrPacking where
  data : List IocrObject
  iocs : List IocrObject
  off : UInt16
deriving DecidableEq, Repr

namespace CrPacking

def empty : CrPacking := ⟨[], [], 0⟩

/-- The data of a submodule and its IOPS. -/
def pushData (p : CrPacking) (slot subslot len : UInt16) : Res ε CrPacking := do
  let n ← addU16 len 1
  let off ← addU16 p.off n
  .ok { p with data := p.data ++ [⟨slot, subslot, p.off⟩], off }

/-- The IOCS for data of the other direction. -/
def pushIocs (p : CrPacking) (slot subslot : UInt16) : Res ε CrPacking := do
  let off ← addU16 p.off 1
  .ok { p with iocs := p.iocs ++ [⟨slot, subslot, p.off⟩], off }

end CrPacking

/-- Inputs: data in the Input CR, an IOCS in the Output CR. -/
def packInputs (slot : UInt16) (p : CrPacking × CrPacking) (sm : SubmoduleModel) :
    Res ε (CrPacking × CrPacking) := do
  let input ← p.1.pushData slot sm.subslot sm.inputLen
  let output ← p.2.pushIocs slot sm.subslot
  .ok (input, output)

/-- Outputs: data in the Output CR, an IOCS in the Input CR. -/
def packOutputs (slot : UInt16) (p : CrPacking × CrPacking) (sm : SubmoduleModel) :
    Res ε (CrPacking × CrPacking) := do
  let output ← p.2.pushData slot sm.subslot sm.outputLen
  let input ← p.1.pushIocs slot sm.subslot
  .ok (input, output)

/-- One submodule; those of the DAP have an IOPS even without data. -/
def packSubmodule (slot : UInt16) (p : CrPacking × CrPacking) (sm : SubmoduleModel) :
    Res ε (CrPacking × CrPacking) := do
  let p ← if 0 < sm.inputLen ∨ slot = 0 then packInputs slot p sm else .ok p
  if 0 < sm.outputLen then packOutputs slot p sm else .ok p

/-- The walk over the model. -/
def packModel (model : DeviceModel) : Res ε (CrPacking × CrPacking) :=
  model.slots.foldlM (fun p s => s.submodules.foldlM (packSubmodule s.slot) p) (.empty, .empty)

/-- The blocks of the request, each with its type. -/
def syntheticBlocks (ar : ArBlockReq) (model : DeviceModel) (p : CrPacking × CrPacking) :
    List (UInt16 × Bytes) :=
  (Ty.arBlockReq, arBody ar) ::
  (Ty.iocrBlockReq, iocrBody 1 1 0x8000 p.1.off p.1.data p.1.iocs) ::
  (Ty.iocrBlockReq, iocrBody 2 2 0x8001 p.2.off p.2.data p.2.iocs) ::
  (model.slots.map (fun s => (Ty.expectedSubmoduleBlockReq, expectedBody s)) ++
    [(Ty.alarmCrBlockReq, alarmBody)])

end Request

/-! ### The captured request it is based on -/

/-- Where the blocks begin in the PDU. -/
def synthBlocksOff : Nat := RpcHeader.hdrLen + NdrRequest.hdrLen

/-- The captured request, from its RPC header to the end of its first block. -/
def goldenPdu : Bytes :=
  [0x04, 0x00, 0x20, 0x00, 0x10, 0x00, 0x00, 0x00, 0x00, 0x00, 0xA0, 0xDE, 0x97, 0x6C, 0xD1, 0x11,
    0x82, 0x71, 0x00, 0x01, 0x00, 0x02, 0x04, 0x93, 0x01, 0x00, 0xA0, 0xDE, 0x97, 0x6C, 0xD1, 0x11,
    0x82, 0x71, 0x00, 0xA0, 0x24, 0x42, 0xDF, 0x7D, 0xAE, 0xA1, 0xAC, 0xD2, 0x32, 0x00, 0x10, 0x10,
    0xB0, 0x58, 0xEC, 0x1C, 0x5D, 0x61, 0xE7, 0x3F, 0x00, 0x00, 0x00, 0x00, 0x01, 0x00, 0x00, 0x00,
    0x00, 0x00, 0x00, 0x00, 0x00, 0x00, 0xFF, 0xFF, 0xFF, 0xFF, 0x41, 0x02, 0x00, 0x00, 0x00, 0x00,
    0x2D, 0x02, 0x00, 0x00, 0x2D, 0x02, 0x00, 0x00, 0x2D, 0x02, 0x00, 0x00, 0x00, 0x00, 0x00, 0x00,
    0x2D, 0x02, 0x00, 0x00, 0x01, 0x01, 0x00, 0x5B, 0x01, 0x00, 0x00, 0x01, 0xE5, 0xE1, 0xAE, 0xCC,
    0xB1, 0x33, 0x4B, 0x4D, 0xB1, 0x87, 0xCC, 0x68, 0xB0, 0x21, 0x1E, 0xD2, 0x00, 0x02, 0xEC, 0x1C,
    0x5D, 0x61, 0xE7, 0x3F, 0xDE, 0xA0, 0x00, 0x00, 0x6C, 0x97, 0x11, 0xD1, 0x82, 0x71, 0x10, 0x64,
    0x01, 0x0E, 0x00, 0x2A, 0x40, 0x00, 0x00, 0x11, 0x00, 0xC8, 0x88, 0x92, 0x00, 0x25, 0x70, 0x6C,
    0x63, 0x78, 0x62, 0x62, 0x65, 0x6E, 0x63, 0x68, 0x2E, 0x70, 0x72, 0x6F, 0x66, 0x69, 0x6E, 0x65,
    0x74, 0x78, 0x61, 0x69, 0x6E, 0x74, 0x65, 0x72, 0x66, 0x61, 0x63, 0x65, 0x78, 0x62, 0x32, 0x35,
    0x66, 0x62, 0x64]

/-- The header of the captured request. -/
def goldenHdr : RpcHeader :=
  { ptype := .request
    flags1 := 0x20
    flags2 := 0
    drep := .little
    serialHi := 0
    object := ⟨[0xDE, 0xA0, 0x00, 0x00, 0x6C, 0x97, 0x11, 0xD1, 0x82, 0x71, 0x00, 0x01, 0x00, 0x02,
      0x04, 0x93], rfl⟩
    interface := pnioDeviceInterface
    activity := ⟨[0xD2, 0xAC, 0xA1, 0xAE, 0x00, 0x32, 0x10, 0x10, 0xB0, 0x58, 0xEC, 0x1C, 0x5D,
      0x61, 0xE7, 0x3F], rfl⟩
    serverBoot := 0
    ifVersion := 1
    seqNum := 0
    opnum := 0
    ihint := 0xFFFF
    ahint := 0xFFFF
    fragLen := 0x0241
    fragNum := 0
    authProto := 0
    serialLo := 0 }

/-- The AR block of the captured request. -/
def goldenAr : ArBlockReq :=
  { arType := 1
    arUuid := ⟨[0xE5, 0xE1, 0xAE, 0xCC, 0xB1, 0x33, 0x4B, 0x4D, 0xB1, 0x87, 0xCC, 0x68, 0xB0, 0x21,
      0x1E, 0xD2], rfl⟩
    sessionKey := 2
    initiatorMac := .of 0xEC 0x1C 0x5D 0x61 0xE7 0x3F
    initiatorObjectUuid := ⟨[0xDE, 0xA0, 0x00, 0x00, 0x6C, 0x97, 0x11, 0xD1, 0x82, 0x71, 0x10, 0x64,
      0x01, 0x0E, 0x00, 0x2A], rfl⟩
    arProperties := 0x40000011
    activityTimeoutFactor := 200
    initiatorUdpRtPort := 0x8892
    -- "plcxbbench.profinetxainterfacexb25fbd"
    stationName := .ofAscii [0x70, 0x6C, 0x63, 0x78, 0x62, 0x62, 0x65, 0x6E, 0x63, 0x68, 0x2E, 0x70,
      0x72, 0x6F, 0x66, 0x69, 0x6E, 0x65, 0x74, 0x78, 0x61, 0x69, 0x6E, 0x74, 0x65, 0x72, 0x66,
      0x61, 0x63, 0x65, 0x78, 0x62, 0x32, 0x35, 0x66, 0x62, 0x64] }

lemma parse_goldenHdr : RpcHeader.parse goldenPdu = .ok goldenHdr := by decide +kernel

lemma parse_goldenAr :
    ArBlockReq.parse (goldenPdu.drop (synthBlocksOff + BlockHeader.hdrLen)) = .ok goldenAr := by
  decide +kernel

/-- The PDU for a model: the captured header with a new length, the array header, the blocks. -/
def syntheticConnectReq {ε : Type} (model : DeviceModel) : Res ε Bytes := do
  let hdr ← Res.expect (RpcHeader.parse goldenPdu)
  let ar ← Res.expect (ArBlockReq.parse (goldenPdu.drop (synthBlocksOff + BlockHeader.hdrLen)))
  let p ← packModel model
  let written ← (syntheticBlocks ar model p).mapM fun b => writeBlock b.1 b.2
  let blocks := written.flatten
  let argsMax ← addU32 (UInt32.ofNat blocks.length) 16
  let hdr := { hdr with fragLen := UInt16.ofNat (NdrRequest.hdrLen + blocks.length) }
  .ok (hdr.write ++ (NdrRequest.forBlocks argsMax (UInt32.ofNat blocks.length)).write hdr.drep ++
    blocks)

/-- The bytes that the objects of a CR take. -/
def CrLayout.taken (l : CrLayout) : Nat := (l.objects.map (·.dataLen + 1)).sum + l.iocs.length

/-! ### The walk -/

section Walk

variable {ε : Type} {model : DeviceModel} {dir : Dir} {p : CrPacking} {slot : UInt16}
  {sm : SubmoduleModel}

lemma addU16_of_lt {a b : UInt16} (h : a.toNat + b.toNat < 65536) :
    ∃ c, (addU16 a b : Res ε _) = .ok c ∧ c.toNat = a.toNat + b.toNat := by
  refine ⟨a + b, if_pos h, ?_⟩
  rw [UInt16.toNat_add, Nat.mod_eq_of_lt h]

namespace CrPacking

/-- The ranges of the objects, as the layout will see them. -/
def spans (p : CrPacking) (model : DeviceModel) (dir : Dir) : List Span :=
  p.data.map (ioSpan model dir) ++ p.iocs.map csSpan

/-- The objects fill the CR up to the offset. -/
structure Holds (p : CrPacking) (model : DeviceModel) (dir : Dir) : Prop where
  packed : Packed (p.spans model dir) p.off.toNat
  known : ∀ obj ∈ p.data, (model.find obj.slot obj.subslot).isSome

lemma holds_empty : empty.Holds model dir := ⟨Packed.nil, List.forall_mem_nil _⟩

lemma Holds.pushData_spec (h : p.Holds model dir) (hsm : model.find slot sm.subslot = some sm)
    {len : UInt16} (hlen : len.toNat = dir.len sm) (hfit : p.off.toNat + (len.toNat + 1) < 65536) :
    ∃ p', (p.pushData slot sm.subslot len : Res ε _) = .ok p' ∧ p'.Holds model dir ∧
      p'.off.toNat = p.off.toNat + (len.toNat + 1) := by
  have hone : (1 : UInt16).toNat = 1 := by decide
  obtain ⟨n, hn, hn'⟩ := addU16_of_lt (ε := ε) (a := len) (b := 1) (by rw [hone]; omega)
  rw [hone] at hn'
  obtain ⟨off, ho, ho'⟩ := addU16_of_lt (ε := ε) (a := p.off) (b := n) (by omega)
  rw [hn'] at ho'
  refine ⟨_, by rw [pushData, hn, Res.ok_bind, ho, Res.ok_bind], ⟨?_, ?_⟩, ho'⟩
  · have hspan : ioSpan model dir ⟨slot, sm.subslot, p.off⟩ = ⟨p.off.toNat, len.toNat + 1⟩ := by
      rw [ioSpan, objLen, hsm, hlen]
      rfl
    dsimp only
    rw [ho']
    refine h.packed.push (Nat.succ_pos _) ?_
    rw [← hspan, spans, List.map_append, List.map_singleton, List.append_assoc,
      List.singleton_append]
    exact List.perm_middle
  · intro obj hobj
    rcases List.mem_append.1 hobj with hobj | hobj
    · exact h.known obj hobj
    · cases List.mem_singleton.1 hobj
      rw [hsm]
      rfl

lemma Holds.pushIocs_spec (h : p.Holds model dir) (slot subslot : UInt16)
    (hfit : p.off.toNat + 1 < 65536) :
    ∃ p', (p.pushIocs slot subslot : Res ε _) = .ok p' ∧ p'.Holds model dir ∧
      p'.off.toNat = p.off.toNat + 1 := by
  have hone : (1 : UInt16).toNat = 1 := by decide
  obtain ⟨off, ho, ho'⟩ := addU16_of_lt (ε := ε) (a := p.off) (b := 1) (by rw [hone]; omega)
  rw [hone] at ho'
  refine ⟨{ p with iocs := p.iocs ++ [⟨slot, subslot, p.off⟩], off }, ?_, ⟨?_, h.known⟩, ho'⟩
  · rw [pushIocs, ho, Res.ok_bind]
  dsimp only
  rw [ho']
  refine h.packed.push Nat.one_pos ?_
  rw [spans, List.map_append, List.map_singleton, ← List.append_assoc]
  exact List.perm_append_singleton _ _

end CrPacking

/-- The bytes a submodule takes in a CR. -/
def share (dir : Dir) (slot : UInt16) (sm : SubmoduleModel) : Nat :=
  match dir with
  | .input =>
    (if 0 < sm.inputLen ∨ slot = 0 then sm.inputLen.toNat + 1 else 0) +
      if 0 < sm.outputLen then 1 else 0
  | .output =>
    (if 0 < sm.inputLen ∨ slot = 0 then 1 else 0) +
      if 0 < sm.outputLen then sm.outputLen.toNat + 1 else 0

/-- The two CRs are filled up to `x` and `y`. -/
structure FilledTo (model : DeviceModel) (p : CrPacking × CrPacking) (x y : Nat) : Prop where
  input : p.1.Holds model .input
  output : p.2.Holds model .output
  inputOff : p.1.off.toNat = x
  outputOff : p.2.off.toNat = y

section Fill

variable {p : CrPacking × CrPacking} {x y : Nat}

lemma packInputs_spec (hsm : model.find slot sm.subslot = some sm) (h : FilledTo model p x y)
    (hx : x + (sm.inputLen.toNat + 1) < 65536) (hy : y + 1 < 65536) :
    ∃ p', (packInputs slot p sm : Res ε _) = .ok p' ∧
      FilledTo model p' (x + (sm.inputLen.toNat + 1)) (y + 1) := by
  obtain ⟨hi, ho, rfl, rfl⟩ := h
  obtain ⟨input, hin, hi', hix⟩ := hi.pushData_spec (ε := ε) hsm rfl hx
  obtain ⟨output, hout, ho', hoy⟩ := ho.pushIocs_spec (ε := ε) slot sm.subslot hy
  refine ⟨(input, output), ?_, hi', ho', hix, hoy⟩
  rw [packInputs, hin, Res.ok_bind, hout, Res.ok_bind]

lemma packOutputs_spec (hsm : model.find slot sm.subslot = some sm) (h : FilledTo model p x y)
    (hx : x + 1 < 65536) (hy : y + (sm.outputLen.toNat + 1) < 65536) :
    ∃ p', (packOutputs slot p sm : Res ε _) = .ok p' ∧
      FilledTo model p' (x + 1) (y + (sm.outputLen.toNat + 1)) := by
  obtain ⟨hi, ho, rfl, rfl⟩ := h
  obtain ⟨output, hout, ho', hoy⟩ := ho.pushData_spec (ε := ε) hsm rfl hy
  obtain ⟨input, hin, hi', hix⟩ := hi.pushIocs_spec (ε := ε) slot sm.subslot hx
  refine ⟨(input, output), ?_, hi', ho', hix, hoy⟩
  rw [packOutputs, hout, Res.ok_bind, hin, Res.ok_bind]

lemma packSubmodule_spec (hsm : model.find slot sm.subslot = some sm) (h : FilledTo model p x y)
    (hx : x + share .input slot sm < 65536) (hy : y + share .output slot sm < 65536) :
    ∃ p', (packSubmodule slot p sm : Res ε _) = .ok p' ∧
      FilledTo model p' (x + share .input slot sm) (y + share .output slot sm) := by
  unfold packSubmodule
  dsimp only [share] at *
  by_cases hin : 0 < sm.inputLen ∨ slot = 0 <;> by_cases hout : 0 < sm.outputLen
  · simp only [if_pos hin, if_pos hout] at *
    obtain ⟨p1, h1, hf1⟩ := packInputs_spec (ε := ε) hsm h (by omega) (by omega)
    obtain ⟨p2, h2, hf2⟩ := packOutputs_spec (ε := ε) hsm hf1 (by omega) (by omega)
    rw [Nat.add_assoc x, Nat.add_assoc y] at hf2
    exact ⟨p2, by rw [h1, Res.ok_bind, h2], hf2⟩
  · simp only [if_pos hin, if_neg hout] at *
    obtain ⟨p1, h1, hf1⟩ := packInputs_spec (ε := ε) hsm h (by omega) (by omega)
    exact ⟨p1, by rw [h1, Res.ok_bind], hf1⟩
  · simp only [if_neg hin, if_pos hout] at *
    obtain ⟨p1, h1, hf1⟩ := packOutputs_spec (ε := ε) hsm h (by omega) (by omega)
    rw [Nat.zero_add, Nat.zero_add]
    exact ⟨p1, by rw [Res.ok_bind, h1], hf1⟩
  · simp only [if_neg hin, if_neg hout] at *
    exact ⟨p, rfl, h⟩

/-- The bytes a slot takes in a CR. -/
def slotShare (dir : Dir) (s : SlotModel) : Nat := (s.submodules.map (share dir s.slot)).sum

/-- **The walk**: it fills both CRs with what the slots take. -/
lemma packModel_spec (hm : model.Distinct)
    (hx : (model.slots.map (slotShare .input)).sum < 65536)
    (hy : (model.slots.map (slotShare .output)).sum < 65536) :
    ∃ p, (packModel model : Res ε _) = .ok p ∧
      FilledTo model p (model.slots.map (slotShare .input)).sum
        (model.slots.map (slotShare .output)).sum := by
  have hstart : FilledTo model (.empty, .empty) 0 0 :=
    ⟨CrPacking.holds_empty, CrPacking.holds_empty, rfl, rfl⟩
  have hloop := Res.foldlM_sums (ε := ε) (I := FilledTo model) (n := 65536)
    (f := fun p s => s.submodules.foldlM (packSubmodule s.slot) p) (u := slotShare .input)
    (v := slotShare .output) (l := model.slots) (b := (.empty, .empty)) (x := 0) (y := 0)
    (fun s hs p x y hf hx hy => ?_) hstart (by omega) (by omega)
  · rw [Nat.zero_add, Nat.zero_add] at hloop
    exact hloop
  · exact Res.foldlM_sums (fun sm hsm p x y hf hx hy =>
      packSubmodule_spec (hm.find hs hsm) hf hx hy) hf hx hy

end Fill

end Walk

/-! ### The lengths the configuration has computed -/

section Lengths

/-- A fold that adds up two sums. -/
lemma foldl_sums {α : Type} {f : Nat × Nat → α → Nat × Nat} {u v : α → Nat} {l : List α}
    (h : ∀ a ∈ l, ∀ s, f s a = (s.1 + u a, s.2 + v a)) (s : Nat × Nat) :
    l.foldl f s = (s.1 + (l.map u).sum, s.2 + (l.map v).sum) := by
  induction l generalizing s with
  | nil => rfl
  | cons a l ih =>
    rw [List.forall_mem_cons] at h
    rw [List.foldl_cons, ih h.2, h.1, List.map_cons, List.map_cons, List.sum_cons, List.sum_cons,
      Nat.add_assoc, Nat.add_assoc]

variable {cfg : DeviceConfig}

/-- What a declared submodule takes in a CR. -/
def declaredShare (dir : Dir) (p : SubmoduleSpec × Derived) : Nat :=
  share dir p.1.slot ⟨1, 1, p.2.inputLen, p.2.outputLen⟩

lemma crLengths_eq (h : cfg.Sound) :
    crLengths cfg.submodules cfg.derived =
      (3 + ((cfg.submodules.zip cfg.derived).map (declaredShare .input)).sum,
        3 + ((cfg.submodules.zip cfg.derived).map (declaredShare .output)).sum) := by
  refine foldl_sums (fun p hp s => ?_) (3, 3)
  have ht : p.1.HasTables p.2 := (List.forall₂_iff_zip.1 h.tables).2 hp
  have hin := checkedLayout_pos ht.inputs
  have hout := checkedLayout_pos ht.outputs
  have hslot : ¬ p.1.slot = 0 := ht.slot
  simp only [declaredShare, share, hin, hout, hslot, or_false, Nat.add_assoc]
  rw [Nat.add_comm (if 0 < p.2.inputLen then 1 else 0)]

/-- The lengths of the two CRs do not overflow. -/
lemma crLen_toNat (h : cfg.Sound) :
    (cfg.inputCrLen.toNat, cfg.outputCrLen.toNat) = crLengths cfg.submodules cfg.derived ∧
      cfg.inputCrLen.toNat ≤ 1440 ∧ cfg.outputCrLen.toNat ≤ 1440 := by
  have hin := h.inputTotal
  have hout := h.outputTotal
  unfold DeviceConfig.inputCrLen DeviceConfig.outputCrLen
  rw [maxSubmoduleBytes] at hin hout
  rw [UInt16.toNat_ofNat', UInt16.toNat_ofNat', Nat.mod_eq_of_lt (by omega),
    Nat.mod_eq_of_lt (by omega)]
  exact ⟨rfl, hin, hout⟩

/-- The whole model takes as much as the configuration says. -/
lemma modelShare_eq (h : cfg.Sound) (mac : MacAddr) :
    ((cfg.model mac).slots.map (slotShare .input)).sum = cfg.inputCrLen.toNat ∧
      ((cfg.model mac).slots.map (slotShare .output)).sum = cfg.outputCrLen.toNat := by
  have hslots : ∀ dir, ((cfg.model mac).slots.map (slotShare dir)).sum =
      slotShare dir DeviceConfig.dap +
        ((cfg.submodules.zip cfg.derived).map (declaredShare dir)).sum := by
    intro dir
    rw [DeviceConfig.model, List.map_cons, List.sum_cons, List.map_map]
    rfl
  have hlens := (crLen_toNat h).1
  rw [crLengths_eq h] at hlens
  obtain ⟨hin, hout⟩ := Prod.mk.inj hlens
  rw [hslots, hslots, hin, hout]
  exact ⟨rfl, rfl⟩

/-- Every submodule takes at least a byte of the Input CR, so there are not many. -/
lemma length_slots_le (h : cfg.Sound) (mac : MacAddr) : (cfg.model mac).slots.length ≤ 1440 := by
  have htotal := h.inputTotal
  rw [crLengths_eq h, maxSubmoduleBytes] at htotal
  have hle := List.length_le_sum_of_one_le
    ((cfg.submodules.zip cfg.derived).map (declaredShare .input)) fun n hn => by
      obtain ⟨p, hp, rfl⟩ := List.mem_map.1 hn
      have ht : p.1.HasTables p.2 := (List.forall₂_iff_zip.1 h.tables).2 hp
      have hdata := ht.data
      rw [not_and_or, ← ne_eq, ← ne_eq, checkedLayout_pos ht.inputs,
        checkedLayout_pos ht.outputs] at hdata
      dsimp only [declaredShare, share]
      rcases hdata with hin | hout
      · rw [if_pos (.inl hin)]
        omega
      · rw [if_pos hout]
        omega
  rw [List.length_map] at hle
  rw [DeviceConfig.model, List.length_cons, List.length_map]
  omega

lemma length_submodules_le (mac : MacAddr) :
    ∀ s ∈ (cfg.model mac).slots, s.submodules.length ≤ 3 := by
  intro s hs
  rcases List.mem_cons.1 hs with rfl | hs
  · exact le_refl _
  · obtain ⟨p, -, rfl⟩ := List.mem_map.1 hs
    exact Nat.le_of_ble_eq_true rfl

end Lengths

/-! ### The device takes the request -/

section Taken

variable {model : DeviceModel} {p : CrPacking × CrPacking} {x y : Nat}

def inputReq (p : CrPacking × CrPacking) : IocrBlockReq :=
  iocrReq 1 1 0x8000 p.1.off p.1.data p.1.iocs

def outputReq (p : CrPacking × CrPacking) : IocrBlockReq :=
  iocrReq 2 2 0x8001 p.2.off p.2.data p.2.iocs

/-- What the device reads. -/
def syntheticReq (model : DeviceModel) (p : CrPacking × CrPacking) : ConnectReq :=
  { ar := goldenAr
    iocrs := [inputReq p, outputReq p]
    expected := model.slots.map fun s => ⟨[s.expected]⟩
    alarmCr := alarmReq }

lemma CrPacking.Holds.length_le {q : CrPacking} {dir : Dir} (h : q.Holds model dir) :
    q.data.length + q.iocs.length ≤ q.off.toNat := by
  have hle := h.packed.length_le
  rwa [spans, List.length_append, List.length_map, List.length_map] at hle

lemma length_goldenName : goldenAr.stationName.bytes.length = 37 := by decide

lemma length_alarmBody : alarmBody.length = 20 := by simp [alarmBody]

lemma syntheticBlocks_fit (hf : FilledTo model p x y) (hx : x ≤ 1440) (hy : y ≤ 1440)
    (hs : ∀ s ∈ model.slots, s.submodules.length ≤ 3) :
    ∀ b ∈ syntheticBlocks goldenAr model p, BlockFits b := by
  have hi := hf.input.length_le
  have ho := hf.output.length_le
  rw [hf.inputOff] at hi
  rw [hf.outputOff] at ho
  simp only [syntheticBlocks, List.forall_mem_cons, List.forall_mem_append]
  refine ⟨?_, ?_, ?_, fun b hb => ?_, ?_, List.forall_mem_nil _⟩
  · dsimp only [BlockFits]
    rw [length_arBody, length_goldenName]
    omega
  · dsimp only [BlockFits]
    rw [length_iocrBody]
    omega
  · dsimp only [BlockFits]
    rw [length_iocrBody]
    omega
  · obtain ⟨s, hmem, rfl⟩ := List.mem_map.1 hb
    have hlen := length_expectedBody s
    have hthree := hs s hmem
    dsimp only [BlockFits]
    omega
  · dsimp only [BlockFits]
    rw [length_alarmBody]
    omega

lemma parse_synthetic (hf : FilledTo model p x y) (hx : x ≤ 1440) (hy : y ≤ 1440)
    (hs : ∀ s ∈ model.slots, s.submodules.length ≤ 3) :
    ConnectReq.parse ((syntheticBlocks goldenAr model p).flatMap blockBytes) =
      .ok (syntheticReq model p) := by
  have hi := hf.input.length_le
  have ho := hf.output.length_le
  rw [hf.inputOff] at hi
  rw [hf.outputOff] at ho
  have har : ArBlockReq.parse (arBody goldenAr) = .ok goldenAr :=
    parse_arBody (by rw [length_goldenName]; omega)
  have hin : IocrBlockReq.parse (iocrBody 1 1 0x8000 p.1.off p.1.data p.1.iocs) =
      .ok (inputReq p) :=
    parse_iocrBody (by omega) (by omega) 1 1 0x8000 p.1.off
  have hout : IocrBlockReq.parse (iocrBody 2 2 0x8001 p.2.off p.2.data p.2.iocs) =
      .ok (outputReq p) :=
    parse_iocrBody (by omega) (by omega) 2 2 0x8001 p.2.off
  have hslots : ∀ s ∈ model.slots, s.submodules.length < 65536 := fun s hmem =>
    lt_of_le_of_lt (hs s hmem) (by omega)
  have hfit := syntheticBlocks_fit hf hx hy hs
  refine ConnectReq.parse_blocks hfit ?_
  unfold syntheticBlocks
  -- only what the bodies are read as matters now
  generalize arBody goldenAr = arBytes at har ⊢
  generalize iocrBody 1 1 0x8000 p.1.off p.1.data p.1.iocs = inBytes at hin ⊢
  generalize iocrBody 2 2 0x8001 p.2.off p.2.data p.2.iocs = outBytes at hout ⊢
  rw [List.map_cons, List.foldlM_cons, ConnectReq.push_ar har rfl,
    Res.ok_bind, List.map_cons, List.foldlM_cons, ConnectReq.push_iocr hin, Res.ok_bind,
    List.map_cons, List.foldlM_cons, ConnectReq.push_iocr hout, Res.ok_bind, List.map_append,
    List.foldlM_append, ConnectReq.push_slots hslots, Res.ok_bind, List.map_singleton,
    List.foldlM_cons, ConnectReq.push_alarm parse_alarmBody rfl]
  rfl

/-! #### The checks -/

lemma toNat_max (a b : UInt16) : (max a b).toNat = max a.toNat b.toNat := by
  change (if a ≤ b then b else a).toNat = _
  split_ifs with h
  · exact (max_eq_right (UInt16.le_iff_toNat_le.1 h)).symm
  · rw [UInt16.le_iff_toNat_le] at h
    exact (max_eq_left (by omega)).symm

lemma forty_toNat : (40 : UInt16).toNat = 40 := by decide

/-- The CR that was packed fits its own length. -/
lemma CrPacking.Holds.fits {q : CrPacking} {dir : Dir} (h : q.Holds model dir)
    (iocrType reference frameId : UInt16) :
    (IocrParams.fromReq (iocrReq iocrType reference frameId q.off q.data q.iocs)).Fits model
      dir := by
  refine ⟨h.known, fun s hs => ?_⟩
  have hw := h.packed.within s hs
  change _ ≤ (max q.off 40).toNat
  rw [toNat_max]
  exact le_trans hw (le_max_left _ _)

/-- Its table can be built, and takes as much as was packed. -/
lemma CrPacking.Holds.build {q : CrPacking} {dir : Dir} (h : q.Holds model dir)
    (iocrType reference frameId : UInt16) :
    ∃ l, buildCr (.fromReq (iocrReq iocrType reference frameId q.off q.data q.iocs)) model dir =
        .ok l ∧ l.dataLength = max q.off.toNat 40 ∧ l.taken = q.off.toNat := by
  refine ⟨_, buildCr_eq_ok.2 ⟨?_, h.fits iocrType reference frameId, h.packed.apart, rfl⟩, ?_, ?_⟩
  · change (32 : UInt16).toNat * (1 : UInt16).toNat ≤ 65535
    decide
  · change (max q.off 40).toNat = _
    rw [toNat_max, forty_toNat]
  · have htotal := h.packed.total
    rw [spans, List.map_append, List.sum_append, List.map_map, List.map_map] at htotal
    have hones : (q.iocs.map (Span.len ∘ csSpan)).sum = q.iocs.length := by
      change (q.iocs.map fun _ => 1).sum = _
      simp
    rw [← htotal, hones]
    unfold CrLayout.taken IocrParams.table
    rw [List.length_map, List.map_map]
    rfl

lemma eq_zero_of_not_pos {n : UInt16} (h : ¬ 0 < n) : n = 0 := by
  rw [UInt16.lt_iff_toNat_lt, UInt16.toNat_zero] at h
  exact UInt16.toNat_inj.1 (by rw [UInt16.toNat_zero]; omega)

/-- A direction that is not described has no data. -/
lemma SubmoduleModel.expected_lengths (sm : SubmoduleModel) :
    (sm.expected.input.map (·.dataLength)).getD 0 = sm.inputLen ∧
      (sm.expected.output.map (·.dataLength)).getD 0 = sm.outputLen := by
  unfold SubmoduleModel.expected SubmoduleModel.properties
  by_cases hi : 0 < sm.inputLen <;> by_cases ho : 0 < sm.outputLen
  · simp [hi, ho]
  · simp [hi, eq_zero_of_not_pos ho]
  · simp [ho, eq_zero_of_not_pos hi]
  · simp [hi, eq_zero_of_not_pos ho]

lemma checkExpectedApi_synthetic (hm : model.Distinct) {s : SlotModel} (hs : s ∈ model.slots) :
    checkExpectedApi model s.expected = .ok () := by
  have hmodule : checkExpectedModule model s.expected = .ok () := by
    have hfind : model.slots.find? (·.slot == s.expected.slot) = some s := hm.find_slot hs
    rw [checkExpectedModule, hfind]
    exact Res.reject_of_not (not_not.2 rfl)
  rw [checkExpectedApi, hmodule, Res.ok_bind]
  refine Res.forM_eq_ok.2 fun e he => ?_
  obtain ⟨sm, hsm, rfl⟩ := List.mem_map.1 he
  have hfind : model.find s.expected.slot sm.expected.subslot = some sm := hm.find hs hsm
  have hident : ¬ sm.submoduleIdent ≠ sm.expected.submoduleIdent := not_not.2 rfl
  obtain ⟨hin, hout⟩ := sm.expected_lengths
  rw [checkExpectedSubmodule, hfind, Res.okOr_some, Res.ok_bind, Res.reject_of_not hident,
    Res.ok_bind]
  refine Res.reject_of_not ?_
  rw [not_or, not_not, not_not]
  exact ⟨hin.symm, hout.symm⟩

/-- **The request is accepted**, with its own two CRs. -/
lemma validate_synthetic (hm : model.Distinct) (hf : FilledTo model p x y) :
    ∃ params, validate (syntheticReq model p) model = .ok params ∧
      params.inputCr = .fromReq (inputReq p) ∧ params.outputCr = .fromReq (outputReq p) := by
  have huuid : ¬ goldenAr.arUuid = Uuid.nil := by decide
  have hfi : (syntheticReq model p).iocrs.find? (·.iocrType == 1) = some (inputReq p) := rfl
  have hfo : (syntheticReq model p).iocrs.find? (·.iocrType == 2) = some (outputReq p) := rfl
  have hexp : ((syntheticReq model p).expected.forM fun block =>
      block.apis.forM (checkExpectedApi model)) = .ok ⟨⟩ := by
    refine Res.forM_eq_ok.2 fun block hb => ?_
    obtain ⟨s, hs, rfl⟩ := List.mem_map.1 hb
    refine Res.forM_eq_ok.2 fun api ha => ?_
    cases List.mem_singleton.1 ha
    exact checkExpectedApi_synthetic hm hs
  have hin : checkIocrDataLength (inputReq p) model false = .ok () :=
    (checkIocrDataLength_eq_ok : checkIocrDataLength _ _ Dir.input.isOutput = .ok () ↔ _).2
      ⟨rfl, hf.input.fits 1 1 0x8000⟩
  have hout : checkIocrDataLength (outputReq p) model true = .ok () :=
    (checkIocrDataLength_eq_ok : checkIocrDataLength _ _ Dir.output.isOutput = .ok () ↔ _).2
      ⟨rfl, hf.output.fits 2 2 0x8001⟩
  have hin' : frameIdInRange (inputReq p).frameId := by
    change frameIdInRange 0x8000
    decide
  have hout' : frameIdInRange (outputReq p).frameId := by
    change frameIdInRange 0x8001
    decide
  obtain ⟨params, hok⟩ : ∃ params, validate (syntheticReq model p) model = .ok params := by
    refine Res.bind_returns (Res.reject_of_not (not_not.2 rfl)) ?_
    refine Res.bind_returns (Res.reject_of_not huuid) ?_
    refine Res.bind_returns (Res.reject_of_not (not_not.2 rfl)) ?_
    refine Res.bind_returns (Res.okOr_eq_ok.2 hfi) (Res.bind_returns (Res.okOr_eq_ok.2 hfo) ?_)
    refine Res.bind_returns (Res.reject_of_not (not_not.2 hin')) ?_
    refine Res.bind_returns (Res.reject_of_not fun h => h.1 hout') ?_
    refine Res.bind_returns hexp (Res.bind_returns hin (Res.bind_returns hout ?_))
    exact Res.bind_returns (Res.reject_of_not (not_not.2 rfl)) ⟨_, rfl⟩
  obtain ⟨input, output, ha⟩ := validate_accepted hok
  cases hfi.symm.trans ha.findInput
  cases hfo.symm.trans ha.findOutput
  refine ⟨params, hok, ha.inputCr, ?_⟩
  rw [ha.outputCr, if_neg (frameIdInRange_ne_deviceSelects hout')]

/-! #### The PDU -/

/-- The array header in front of blocks. -/
def ndrFor (blocks : Bytes) : NdrRequest :=
  .forBlocks (UInt32.ofNat blocks.length + 16) (UInt32.ofNat blocks.length)

def hdrFor (blocks : Bytes) : RpcHeader :=
  { goldenHdr with fragLen := UInt16.ofNat (NdrRequest.hdrLen + blocks.length) }

lemma length_blocks_le {l : List (UInt16 × Bytes)} (hl : ∀ b ∈ l, BlockFits b) :
    (l.flatMap blockBytes).length ≤ 65540 * l.length := by
  have hle := List.sum_le_card_nsmul (l.map fun b => (blockBytes b).length) 65540 fun n hn => by
    obtain ⟨b, hb, rfl⟩ := List.mem_map.1 hn
    have hfit := hl b hb
    rw [BlockFits] at hfit
    rw [length_blockBytes, BlockHeader.hdrLen]
    omega
  rwa [List.length_map, smul_eq_mul, Nat.mul_comm, ← List.length_flatMap] at hle

lemma syntheticConnectReq_eq {ε : Type} (hp : (packModel model : Res ε _) = .ok p)
    (hl : ∀ b ∈ syntheticBlocks goldenAr model p, BlockFits b) (hn : model.slots.length ≤ 1440) :
    let blocks := (syntheticBlocks goldenAr model p).flatMap blockBytes
    (syntheticConnectReq model : Res ε _) =
        .ok ((hdrFor blocks).write ++ ((ndrFor blocks).write .little ++ blocks)) ∧
      (ndrFor blocks).actualCount.toNat = blocks.length := by
  intro blocks
  have hlen : blocks.length ≤ 65540 * 1444 := by
    refine le_trans (length_blocks_le hl) (Nat.mul_le_mul_left _ ?_)
    simp only [syntheticBlocks, List.length_cons, List.length_append, List.length_map,
      List.length_nil]
    omega
  have hnat : (UInt32.ofNat blocks.length).toNat = blocks.length := by
    rw [UInt32.toNat_ofNat', Nat.mod_eq_of_lt (by omega)]
  have hadd : (addU32 (UInt32.ofNat blocks.length) 16 : Res ε _) =
      .ok (UInt32.ofNat blocks.length + 16) := by
    refine if_pos ?_
    rw [hnat]
    change _ + 16 < _
    omega
  refine ⟨?_, hnat⟩
  unfold syntheticConnectReq
  rw [parse_goldenHdr, Res.expect_ok, Res.ok_bind, parse_goldenAr, Res.expect_ok, Res.ok_bind, hp,
    Res.ok_bind, mapM_writeBlock hl, Res.ok_bind]
  dsimp only
  rw [← List.flatMap_def, hadd, Res.ok_bind, List.append_assoc]
  rfl

/-- The parts of the PDU are read back. -/
lemma parse_pdu {blocks : Bytes} (hc : (ndrFor blocks).actualCount.toNat = blocks.length) :
    let pdu := (hdrFor blocks).write ++ ((ndrFor blocks).write .little ++ blocks)
    RpcHeader.parse pdu = .ok (hdrFor blocks) ∧
      NdrRequest.parse (pdu.drop RpcHeader.hdrLen) (hdrFor blocks).drep =
        .ok (ndrFor blocks, blocks) ∧
      pdu.drop synthBlocksOff = blocks := by
  intro pdu
  have hhdr : (hdrFor blocks).write.length = RpcHeader.hdrLen := RpcHeader.length_write _
  have hndr : ((ndrFor blocks).write .little).length = NdrRequest.hdrLen :=
    NdrRequest.length_write _ _
  have hdrop : pdu.drop RpcHeader.hdrLen = (ndrFor blocks).write .little ++ blocks :=
    List.drop_left' hhdr
  refine ⟨RpcHeader.parse_write _ _ rfl (show (0x20 : UInt8) &&& flag1Frag = 0 by decide), ?_, ?_⟩
  · have hparse := NdrRequest.parse_write (ndrFor blocks) .little blocks [] rfl rfl hc
    rw [List.append_nil] at hparse
    rw [hdrop]
    exact hparse
  · rw [synthBlocksOff, ← List.drop_drop, hdrop]
    exact List.drop_left' hndr

end Taken

/-- **The Connect request derived from the model is taken.** For every configuration that `build`
accepts: the walk does not overflow, the PDU and its blocks are read back, the request is
accepted, its layout can be built, and in both CRs what is packed is as long as the
configuration computed, at most 1440 bytes. -/
theorem synthetic_connect_taken {b : DeviceConfigBuilder} {cfg : DeviceConfig}
    (hb : b.build = .ok cfg) (mac : MacAddr) :
    ∃ p pdu hdr ndr blocks req params l,
      (packModel (cfg.model mac) : Res Empty _) = .ok p ∧
      (syntheticConnectReq (cfg.model mac) : Res Empty _) = .ok pdu ∧
      RpcHeader.parse pdu = .ok hdr ∧
      NdrRequest.parse (pdu.drop RpcHeader.hdrLen) hdr.drep = .ok (ndr, blocks) ∧
      pdu.drop synthBlocksOff = blocks ∧ ConnectReq.parse blocks = .ok req ∧
      validate req (cfg.model mac) = .ok params ∧
      Layout.fromAr params (cfg.model mac) = .ok l ∧
      p.1.off = cfg.inputCrLen ∧ p.2.off = cfg.outputCrLen ∧
      l.inputCr.taken = cfg.inputCrLen.toNat ∧ l.outputCr.taken = cfg.outputCrLen.toNat ∧
      l.inputCr.dataLength = max cfg.inputCrLen.toNat 40 ∧
      l.outputCr.dataLength = max cfg.outputCrLen.toNat 40 ∧
      cfg.inputCrLen ≤ 1440 ∧ cfg.outputCrLen ≤ 1440 := by
  have hcfg := DeviceConfigBuilder.build_sound hb
  have hm := hcfg.model_distinct mac
  obtain ⟨hx, hy⟩ := modelShare_eq hcfg mac
  obtain ⟨-, hxle, hyle⟩ := crLen_toNat hcfg
  obtain ⟨p, hp, hf⟩ := packModel_spec (ε := Empty) hm (by omega) (by omega)
  rw [hx, hy] at hf
  have hs : ∀ s ∈ (cfg.model mac).slots, s.submodules.length ≤ 3 := length_submodules_le mac
  have hfit := syntheticBlocks_fit hf hxle hyle hs
  obtain ⟨hpdu, hc⟩ := syntheticConnectReq_eq hp hfit (length_slots_le hcfg mac)
  obtain ⟨hhdr, hndr, hdrop⟩ := parse_pdu hc
  obtain ⟨params, hval, hin, hout⟩ := validate_synthetic hm hf
  obtain ⟨li, hbi, hdi, hti⟩ := hf.input.build 1 1 0x8000
  obtain ⟨lo, hbo, hdo, hto⟩ := hf.output.build 2 2 0x8001
  obtain ⟨l, hl, rfl, rfl⟩ := exists_fromAr (hin ▸ hbi) (hout ▸ hbo)
  rw [hf.inputOff] at hdi hti
  rw [hf.outputOff] at hdo hto
  exact ⟨p, _, _, _, _, _, params, l, hp, hpdu, hhdr, hndr, hdrop,
    parse_synthetic hf hxle hyle hs, hval, hl, UInt16.toNat_inj.1 hf.inputOff,
    UInt16.toNat_inj.1 hf.outputOff, hti, hto, hdi, hdo, UInt16.le_iff_toNat_le.2 hxle,
    UInt16.le_iff_toNat_le.2 hyle⟩

/-- With a bit and a word of inputs and a word of outputs: 8 and 7 bytes, in CRs of 40. -/
theorem synthetic_connect_taken_word :
    AppDemo.builder.build = .ok AppDemo.cfg ∧
      ∃ pdu req params l,
        (syntheticConnectReq (AppDemo.cfg.model AppDemo.mac) : Res Empty _) = .ok pdu ∧
        ConnectReq.parse (pdu.drop synthBlocksOff) = .ok req ∧
        validate req (AppDemo.cfg.model AppDemo.mac) = .ok params ∧
        Layout.fromAr params (AppDemo.cfg.model AppDemo.mac) = .ok l ∧
        l.inputCr.taken = 8 ∧ l.outputCr.taken = 7 ∧ l.inputCr.dataLength = 40 := by
  obtain ⟨p, pdu, hdr, ndr, blocks, req, params, l, -, hpdu, -, -, rfl, hreq, hval, hl, -, -, hi,
    ho, hd, -, -, -⟩ := synthetic_connect_taken AppDemo.build_builder AppDemo.mac
  have hin : AppDemo.cfg.inputCrLen.toNat = 8 := by decide +kernel
  have hout : AppDemo.cfg.outputCrLen.toNat = 7 := by decide +kernel
  rw [hin] at hi hd
  rw [hout] at ho
  exact ⟨AppDemo.build_builder, pdu, req, params, l, hpdu, hreq, hval, hl, hi, ho, hd⟩

end Pnio
