import Pnio.Connect

/-!
The blocks of a Connect request as a controller writes them, and that the device reads each of
them back.
-/

namespace Pnio

open Reader BlockReader

/-! ### Fields -/

namespace BlockReader

lemma reads_u8 (v : UInt8) : Reads u8 [v] v := by
  have hv : UInt8.ofNat (ofBe [v]) = v := by simp [ofBe]
  have hread : Reads (bytes 1) [v] [v] := Reads.bytes rfl
  have hmap := hread.map (g := fun b => UInt8.ofNat (ofBe b))
  rwa [hv] at hmap

lemma reads_u16 (v : UInt16) : Reads u16 (be16 v) v := u16_split v

lemma reads_u32 (v : UInt32) : Reads u32 (be32 v) v := u32_split v

lemma reads_uuid (u : Uuid) : Reads uuid (u.write .big) u := by
  intro pre t
  rw [uuid, bind_apply, bytes, bytes_split (Uuid.length_write u .big), Res.ok_bind]
  dsimp only
  rw [bind_apply, lift_apply, Uuid.read_write, Res.ok_bind, Res.ok_bind]
  rfl

lemma reads_mac (m : MacAddr) : Reads mac m.bytes m := by
  intro pre t
  rw [mac, bind_apply, bytes, bytes_split m.len, Res.ok_bind]
  dsimp only
  rw [lift_apply, Octets.copyFrom_of_length m.len, Res.ok_bind]

end BlockReader

/-! ### Bodies -/

section Bodies

/-- The AR block: its type and the UDP port are fixed. -/
def arBody (ar : ArBlockReq) : Bytes :=
  be16 1 ++ ar.arUuid.write .big ++ be16 ar.sessionKey ++ ar.initiatorMac.bytes ++
  ar.initiatorObjectUuid.write .big ++ be32 ar.arProperties ++ be16 ar.activityTimeoutFactor ++
  be16 0x8892 ++ be16 (UInt16.ofNat ar.stationName.bytes.length) ++ ar.stationName.bytes

def objBytes (o : IocrObject) : Bytes := be16 o.slot ++ be16 o.subslot ++ be16 o.frameOffset

/-- The request for a CR with one API; all but its objects and identity is fixed. -/
def iocrReq (iocrType reference frameId len : UInt16) (data iocs : List IocrObject) :
    IocrBlockReq :=
  { iocrType, reference, frameId
    lt := 0x8892
    properties := 2
    dataLength := max len 40
    sendClockFactor := 32
    reductionRatio := 1
    phase := 1
    sequence := 0
    frameSendOffset := 0xFFFFFFFF
    watchdogFactor := 3
    dataHoldFactor := 3
    tagHeader := 0xC000
    multicastMac := .zero 6
    apis := [⟨0, data, iocs⟩] }

def iocrBody (iocrType reference frameId len : UInt16) (data iocs : List IocrObject) : Bytes :=
  be16 iocrType ++ be16 reference ++ be16 0x8892 ++ be32 2 ++ be16 (max len 40) ++ be16 frameId ++
  be16 32 ++ be16 1 ++ be16 1 ++ be16 0 ++ be32 0xFFFFFFFF ++ be16 3 ++ be16 3 ++ be16 0xC000 ++
  (Octets.zero 6).bytes ++ be16 1 ++ be32 0 ++ be16 (UInt16.ofNat data.length) ++
  data.flatMap objBytes ++ be16 (UInt16.ofNat iocs.length) ++ iocs.flatMap objBytes

/-- A submodule without data is of type 0. -/
def SubmoduleModel.properties (sm : SubmoduleModel) : UInt16 :=
  match decide (0 < sm.inputLen), decide (0 < sm.outputLen) with
  | false, false => 0
  | true, false => 1
  | false, true => 2
  | true, true => 3

def descBytes (tag len : UInt16) : Bytes := be16 tag ++ be16 len ++ [1, 1]

def SubmoduleModel.descsBytes (sm : SubmoduleModel) : Bytes :=
  if sm.properties = 0 ∨ sm.properties = 1 then descBytes 1 sm.inputLen
  else if sm.properties = 2 then descBytes 2 sm.outputLen
  else descBytes 1 sm.inputLen ++ descBytes 2 sm.outputLen

def SubmoduleModel.expectedBytes (sm : SubmoduleModel) : Bytes :=
  be16 sm.subslot ++ be32 sm.submoduleIdent ++ be16 sm.properties ++ sm.descsBytes

def expectedBody (s : SlotModel) : Bytes :=
  be16 1 ++ be32 0 ++ be16 s.slot ++ be32 s.moduleIdent ++ be16 0 ++
  be16 (UInt16.ofNat s.submodules.length) ++ s.submodules.flatMap SubmoduleModel.expectedBytes

def alarmReq : AlarmCrBlockReq :=
  { alarmCrType := 1
    lt := 0x8892
    properties := 0
    rtaTimeoutFactor := 1
    rtaRetries := 3
    localAlarmReference := 1
    maxAlarmDataLength := 200
    tagHeaderHigh := 0xC000
    tagHeaderLow := 0xA000 }

def alarmBody : Bytes :=
  be16 1 ++ be16 0x8892 ++ be32 0 ++ be16 1 ++ be16 3 ++ be16 1 ++ be16 200 ++ be16 0xC000 ++
  be16 0xA000

end Bodies

/-! ### Reading the bodies -/

lemma parse_arBody {ar : ArBlockReq} (h : ar.stationName.bytes.length < 65536) :
    ArBlockReq.parse (arBody ar) = .ok { ar with arType := 1, initiatorUdpRtPort := 0x8892 } := by
  have hlen : ar.stationName.bytes.length =
      (UInt16.ofNat ar.stationName.bytes.length).toNat := by
    rw [UInt16.toNat_ofNat', Nat.mod_eq_of_lt h]
  have hname : (Res.okOr (Str.fromUtf8 ar.stationName.bytes)
      (BlockError.malformed "station name not valid utf-8")) = .ok ar.stationName := by
    rw [Res.okOr_eq_ok, Str.fromUtf8, dif_pos ar.stationName.valid]
  apply Reads.runOn
  simp only [arBody, List.append_assoc]
  refine (reads_u16 _).bind ((reads_uuid _).bind ((reads_u16 _).bind ((reads_mac _).bind ?_)))
  refine (reads_uuid _).bind ((reads_u32 _).bind ((reads_u16 _).bind ((reads_u16 _).bind ?_)))
  exact (reads_u16 _).bind ((Reads.bytes hlen).bind_nil (Reads.lift hname).map)

lemma reads_obj (o : IocrObject) : Reads IocrObject.read (objBytes o) o := by
  simp only [objBytes, List.append_assoc]
  exact (reads_u16 _).bind ((reads_u16 _).bind (reads_u16 _).map)

section Iocr

variable {data iocs : List IocrObject} (hd : data.length < 65536) (hi : iocs.length < 65536)

include hd hi

lemma reads_iocrApi : Reads IocrApi.read (be32 0 ++ (be16 (UInt16.ofNat data.length) ++
    (data.flatMap objBytes ++ (be16 (UInt16.ofNat iocs.length) ++ iocs.flatMap objBytes))))
    ⟨0, data, iocs⟩ := by
  refine (reads_u32 _).bind ((reads_u16 _).bind ?_)
  rw [UInt16.toNat_ofNat', Nat.mod_eq_of_lt hd]
  refine (Reads.many data fun o _ => reads_obj o).bind ((reads_u16 _).bind ?_)
  rw [UInt16.toNat_ofNat', Nat.mod_eq_of_lt hi]
  exact (Reads.many iocs fun o _ => reads_obj o).map

lemma parse_iocrBody (iocrType reference frameId len : UInt16) :
    IocrBlockReq.parse (iocrBody iocrType reference frameId len data iocs) =
      .ok (iocrReq iocrType reference frameId len data iocs) := by
  have hone : (1 : UInt16).toNat = 1 := by decide
  refine Reads.runOn ?_
  unfold iocrBody
  simp only [List.append_assoc]
  refine (reads_u16 _).bind ((reads_u16 _).bind ((reads_u16 _).bind ((reads_u32 _).bind ?_)))
  refine (reads_u16 _).bind ((reads_u16 _).bind ((reads_u16 _).bind ((reads_u16 _).bind ?_)))
  refine (reads_u16 _).bind ((reads_u16 _).bind ((reads_u32 _).bind ((reads_u16 _).bind ?_)))
  refine (reads_u16 _).bind ((reads_u16 _).bind ((reads_mac _).bind ((reads_u16 _).bind ?_)))
  rw [hone]
  exact (reads_iocrApi hd hi).many_one.map

end Iocr

section Expected

open ExpectedSubmoduleBlockReq

/-- How the device reads a submodule of the model. -/
def SubmoduleModel.expected (sm : SubmoduleModel) : ExpectedSubmodule :=
  { subslot := sm.subslot
    submoduleIdent := sm.submoduleIdent
    properties := sm.properties
    input := if sm.properties = 2 then none else some ⟨sm.inputLen, 1, 1⟩
    output := if sm.properties = 2 ∨ sm.properties = 3 then some ⟨sm.outputLen, 1, 1⟩ else none }

def SlotModel.expected (s : SlotModel) : ExpectedApi :=
  { api := 0
    slot := s.slot
    moduleIdent := s.moduleIdent
    moduleProperties := 0
    submodules := s.submodules.map SubmoduleModel.expected }

lemma reads_desc (tag len : UInt16) :
    Reads (dataDescription tag) (descBytes tag len) ⟨len, 1, 1⟩ := by
  have hones : ([1, 1] : Bytes) = [1] ++ [1] := rfl
  have htag : (Res.reject (tag ≠ tag) (BlockError.malformed "data description tag")) = .ok () :=
    Res.reject_of_not (not_not.2 rfl)
  have hrest : Reads (do
      let dataLength ← u16
      let lengthIocs ← u8
      let lengthIops ← u8
      pure (⟨dataLength, lengthIocs, lengthIops⟩ : DataDescription)) (be16 len ++ ([1] ++ [1]))
      ⟨len, 1, 1⟩ :=
    (reads_u16 _).bind ((reads_u8 _).bind (reads_u8 _).map)
  rw [descBytes, List.append_assoc, hones]
  exact (reads_u16 _).bind ((Reads.lift htag).bind hrest)

lemma reads_descs (sm : SubmoduleModel) :
    Reads (descriptions sm.properties) sm.descsBytes (sm.expected.input, sm.expected.output) := by
  unfold SubmoduleModel.expected SubmoduleModel.descsBytes SubmoduleModel.properties
  cases decide (0 < sm.inputLen) <;> cases decide (0 < sm.outputLen)
  · exact (reads_desc 1 _).map
  · exact (reads_desc 2 _).map
  · exact (reads_desc 1 _).map
  · exact (reads_desc 1 _).bind (reads_desc 2 _).map

lemma reads_expected (sm : SubmoduleModel) :
    Reads readSubmodule sm.expectedBytes sm.expected := by
  unfold SubmoduleModel.expectedBytes
  simp only [List.append_assoc]
  refine (reads_u16 _).bind ((reads_u32 _).bind ((reads_u16 _).bind ?_))
  exact (reads_descs sm).bind_nil (Reads.pure _)

lemma parse_expectedBody {s : SlotModel} (h : s.submodules.length < 65536) :
    ExpectedSubmoduleBlockReq.parse (expectedBody s) = .ok ⟨[s.expected]⟩ := by
  have hone : (1 : UInt16).toNat = 1 := by decide
  have hsubs := Reads.many_map s.submodules fun sm _ => reads_expected sm
  refine Reads.runOn ?_
  unfold expectedBody
  simp only [List.append_assoc]
  refine (reads_u16 _).bind ?_
  rw [hone]
  refine Reads.map (Reads.many_one ?_)
  refine (reads_u32 _).bind ((reads_u16 _).bind ((reads_u32 _).bind ((reads_u16 _).bind ?_)))
  refine (reads_u16 _).bind ?_
  rw [UInt16.toNat_ofNat', Nat.mod_eq_of_lt h]
  exact hsubs.map

end Expected

lemma parse_alarmBody : AlarmCrBlockReq.parse alarmBody = .ok alarmReq := by
  refine Reads.runOn ?_
  unfold alarmBody
  simp only [List.append_assoc]
  refine (reads_u16 _).bind ((reads_u16 _).bind ((reads_u32 _).bind ((reads_u16 _).bind ?_)))
  refine (reads_u16 _).bind ((reads_u16 _).bind ((reads_u16 _).bind ((reads_u16 _).bind ?_)))
  exact (reads_u16 _).map

/-! ### Lengths -/

@[simp] lemma length_objBytes (o : IocrObject) : (objBytes o).length = 6 := by
  simp [objBytes]

lemma length_arBody (ar : ArBlockReq) :
    (arBody ar).length = 52 + ar.stationName.bytes.length := by
  simp [arBody, ar.initiatorMac.len]
  omega

lemma length_objs (l : List IocrObject) : (l.flatMap objBytes).length = 6 * l.length := by
  simp [List.length_flatMap, Nat.mul_comm]

lemma length_iocrBody (iocrType reference frameId len : UInt16) (data iocs : List IocrObject) :
    (iocrBody iocrType reference frameId len data iocs).length =
      48 + 6 * (data.length + iocs.length) := by
  unfold iocrBody
  simp only [List.length_append, length_be16, length_be32, (Octets.zero 6).len, length_objs]
  omega

lemma length_expectedBytes (sm : SubmoduleModel) : sm.expectedBytes.length ≤ 20 := by
  unfold SubmoduleModel.expectedBytes SubmoduleModel.descsBytes descBytes
  split_ifs <;> simp

lemma length_expectedBody (s : SlotModel) :
    (expectedBody s).length ≤ 16 + 20 * s.submodules.length := by
  have hsum : (s.submodules.flatMap SubmoduleModel.expectedBytes).length ≤
      20 * s.submodules.length := by
    have hle := List.sum_le_card_nsmul (s.submodules.map fun sm => sm.expectedBytes.length) 20
      fun n hn => by
        obtain ⟨sm, -, rfl⟩ := List.mem_map.1 hn
        exact length_expectedBytes sm
    rwa [List.length_map, smul_eq_mul, Nat.mul_comm, ← List.length_flatMap] at hle
  simp only [expectedBody, List.length_append, length_be16, length_be32]
  omega

/-! ### The request -/

namespace ConnectReq

variable {acc : Acc} {body : Bytes}

lemma push_ar {ar : ArBlockReq} (hb : ArBlockReq.parse body = .ok ar) (hn : acc.ar = none) :
    acc.push (blockHeader (Ty.arBlockReq, body), body) = .ok { acc with ar := some ar } := by
  have ht : (blockHeader (Ty.arBlockReq, body)).blockType = Ty.arBlockReq := rfl
  rw [Acc.push, if_pos ht, hn, Res.reject_of_not (by decide), Res.ok_bind, hb, Res.mapErr_ok,
    Res.ok_bind]

lemma push_iocr {cr : IocrBlockReq} (hb : IocrBlockReq.parse body = .ok cr) :
    acc.push (blockHeader (Ty.iocrBlockReq, body), body) =
      .ok { acc with iocrs := acc.iocrs ++ [cr] } := by
  have ht : (blockHeader (Ty.iocrBlockReq, body)).blockType = Ty.iocrBlockReq := rfl
  rw [Acc.push, if_neg (by rw [ht]; decide), if_pos ht, hb, Res.mapErr_ok, Res.ok_bind]

lemma push_expected {e : ExpectedSubmoduleBlockReq}
    (hb : ExpectedSubmoduleBlockReq.parse body = .ok e) :
    acc.push (blockHeader (Ty.expectedSubmoduleBlockReq, body), body) =
      .ok { acc with expected := acc.expected ++ [e] } := by
  have ht : (blockHeader (Ty.expectedSubmoduleBlockReq, body)).blockType =
      Ty.expectedSubmoduleBlockReq := rfl
  rw [Acc.push, if_neg (by rw [ht]; decide), if_neg (by rw [ht]; decide), if_pos ht, hb,
    Res.mapErr_ok, Res.ok_bind]

lemma push_alarm {cr : AlarmCrBlockReq} (hb : AlarmCrBlockReq.parse body = .ok cr)
    (hn : acc.alarmCr = none) :
    acc.push (blockHeader (Ty.alarmCrBlockReq, body), body) =
      .ok { acc with alarmCr := some cr } := by
  have ht : (blockHeader (Ty.alarmCrBlockReq, body)).blockType = Ty.alarmCrBlockReq := rfl
  rw [Acc.push, if_neg (by rw [ht]; decide), if_neg (by rw [ht]; decide),
    if_neg (by rw [ht]; decide), if_pos ht, hn, Res.reject_of_not (by decide), Res.ok_bind, hb,
    Res.mapErr_ok, Res.ok_bind]

/-- The blocks of the modules, one for each slot. -/
lemma push_slots {slots : List SlotModel} (h : ∀ s ∈ slots, s.submodules.length < 65536) :
    ((slots.map fun s => (Ty.expectedSubmoduleBlockReq, expectedBody s)).map
        fun b => (blockHeader b, b.2)).foldlM Acc.push acc =
      .ok { acc with expected := acc.expected ++ slots.map fun s => ⟨[s.expected]⟩ } := by
  induction slots generalizing acc with
  | nil =>
    simp only [List.map_nil, List.append_nil]
    rfl
  | cons s slots ih =>
    rw [List.forall_mem_cons] at h
    rw [List.map_cons, List.map_cons, List.foldlM_cons,
      push_expected (parse_expectedBody h.1), Res.ok_bind, ih h.2, List.map_cons,
      List.append_assoc]
    rfl

/-- A request is what its blocks were collected to. -/
lemma parse_blocks {l : List (UInt16 × Bytes)} {ar : ArBlockReq} {iocrs : List IocrBlockReq}
    {expected : List ExpectedSubmoduleBlockReq} {alarmCr : AlarmCrBlockReq}
    (hl : ∀ b ∈ l, BlockFits b)
    (h : (l.map fun b => (blockHeader b, b.2)).foldlM Acc.push ⟨none, [], [], none⟩ =
      .ok ⟨some ar, iocrs, expected, some alarmCr⟩) :
    ConnectReq.parse (l.flatMap blockBytes) = .ok ⟨ar, iocrs, expected, alarmCr⟩ := by
  rw [ConnectReq.parse, readAll_blocks hl, Res.mapErr_ok, Res.ok_bind, h, Res.ok_bind]
  rfl

end ConnectReq

end Pnio
