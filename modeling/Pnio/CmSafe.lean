import Pnio.Cm

/-!
The context manager does not panic: its parsers never leave the datagram, and what it builds fits
its length fields, as long as the station name does.
-/

namespace Pnio

/-! ### The RPC envelope -/

section Envelope

variable {ε α : Type} {buf : Bytes} {lo hi : Nat} (drep : Drep)

lemma Drep.noPanic_u16 {b : Bytes} (h : 2 ≤ b.length) : (drep.u16 b : Res ε _).NoPanic :=
  Res.noPanic_bind_of (noPanic_slice ⟨by omega, h⟩) fun _ _ => Res.noPanic_ok _

lemma Drep.noPanic_u32 {b : Bytes} (h : 4 ≤ b.length) : (drep.u32 b : Res ε _).NoPanic :=
  Res.noPanic_bind_of (noPanic_slice ⟨by omega, h⟩) fun _ _ => Res.noPanic_ok _

lemma Drep.noPanic_u16_slice {f : UInt16 → Res ε α} (hlo : lo + 2 ≤ hi) (hhi : hi ≤ buf.length)
    (hf : ∀ v, (f v).NoPanic) : (slice buf lo hi >>= fun b => drep.u16 b >>= f).NoPanic := by
  refine Res.noPanic_bind_of (noPanic_slice ⟨by omega, hhi⟩) fun b hb => ?_
  have hlen := length_of_slice hb
  exact Res.noPanic_bind_of (drep.noPanic_u16 (by omega)) fun v _ => hf v

lemma Drep.noPanic_u32_slice {f : UInt32 → Res ε α} (hlo : lo + 4 ≤ hi) (hhi : hi ≤ buf.length)
    (hf : ∀ v, (f v).NoPanic) : (slice buf lo hi >>= fun b => drep.u32 b >>= f).NoPanic := by
  refine Res.noPanic_bind_of (noPanic_slice ⟨by omega, hhi⟩) fun b hb => ?_
  have hlen := length_of_slice hb
  exact Res.noPanic_bind_of (drep.noPanic_u32 (by omega)) fun v _ => hf v

/-- A UUID is read from 16 bytes or more, and only from those. -/
lemma Uuid.read_returns (b : Bytes) :
    ∃ o, (Uuid.read b drep : Res ε _) = .ok o ∧ (16 ≤ b.length → o.isSome) := by
  unfold Uuid.read
  split_ifs with h
  · exact ⟨none, rfl, fun h' => absurd h (by omega)⟩
  · have h16 : 16 ≤ b.length := by omega
    rw [slice_of_le ⟨by omega, by omega⟩, slice_of_le ⟨by omega, by omega⟩,
      slice_of_le ⟨by omega, by omega⟩, slice_of_le ⟨by omega, by omega⟩]
    simp only [Res.ok_bind, Drep.u32, Drep.u16]
    rw [slice_of_le ⟨by omega, by simp; omega⟩, slice_of_le ⟨by omega, by simp; omega⟩,
      slice_of_le ⟨by omega, by simp; omega⟩]
    simp only [Res.ok_bind]
    rw [Octets.copyFrom_of_length (by simp; omega)]
    exact ⟨some _, rfl, fun _ => rfl⟩

instance Uuid.noPanic_read (b : Bytes) : (Uuid.read b drep : Res ε _).NoPanic := by
  obtain ⟨o, ho, -⟩ := Uuid.read_returns (ε := ε) drep b
  exact Res.noPanic_of_returns ⟨o, ho⟩

lemma Uuid.noPanic_slice {f : Uuid → Res ε α} (hlo : lo + 16 ≤ hi) (hhi : hi ≤ buf.length)
    (hf : ∀ v, (f v).NoPanic) :
    (slice buf lo hi >>= fun b => Uuid.read b drep >>= fun o => Res.unwrap o >>= f).NoPanic := by
  refine Res.noPanic_bind_of (Pnio.noPanic_slice ⟨by omega, hhi⟩) fun b hb => ?_
  have hlen := length_of_slice hb
  obtain ⟨o, ho, hsome⟩ := Uuid.read_returns (ε := ε) drep b
  obtain ⟨u, rfl⟩ := Option.isSome_iff_exists.1 (hsome (by omega))
  rw [ho, Res.ok_bind, Res.unwrap_some, Res.ok_bind]
  exact hf u

instance PacketType.noPanic_fromU8 (b : UInt8) : (PacketType.fromU8 b).NoPanic := by
  unfold PacketType.fromU8
  split <;> infer_instance

instance RpcHeader.noPanic_parse (buf : Bytes) : (RpcHeader.parse buf).NoPanic := by
  unfold RpcHeader.parse
  refine Res.noPanic_bind_of inferInstance fun _ hlen => ?_
  have h80 : 80 ≤ buf.length := not_lt.1 (Res.reject_eq_ok.1 hlen)
  refine Res.noPanic_bind_of (noPanic_idx (by omega)) fun v _ => ?_
  refine Res.noPanic_bind_of inferInstance fun _ _ => ?_
  refine Res.noPanic_bind_of (noPanic_idx (by omega)) fun t _ => ?_
  refine Res.noPanic_bind_of inferInstance fun ptype _ => ?_
  refine Res.noPanic_bind_of (noPanic_idx (by omega)) fun flags1 _ => ?_
  refine Res.noPanic_bind_of (noPanic_idx (by omega)) fun flags2 _ => ?_
  refine Res.noPanic_bind_of (noPanic_idx (by omega)) fun d _ => ?_
  refine Res.noPanic_bind_of (noPanic_idx (by omega)) fun serialHi _ => ?_
  refine Uuid.noPanic_slice _ (by omega) (by omega) fun object => ?_
  refine Uuid.noPanic_slice _ (by omega) (by omega) fun interface => ?_
  refine Uuid.noPanic_slice _ (by omega) (by omega) fun activity => ?_
  refine Drep.noPanic_u32_slice _ (by omega) (by omega) fun serverBoot => ?_
  refine Drep.noPanic_u32_slice _ (by omega) (by omega) fun ifVersion => ?_
  refine Drep.noPanic_u32_slice _ (by omega) (by omega) fun seqNum => ?_
  refine Drep.noPanic_u16_slice _ (by omega) (by omega) fun opnum => ?_
  refine Drep.noPanic_u16_slice _ (by omega) (by omega) fun ihint => ?_
  refine Drep.noPanic_u16_slice _ (by omega) (by omega) fun ahint => ?_
  refine Drep.noPanic_u16_slice _ (by omega) (by omega) fun fragLen => ?_
  refine Drep.noPanic_u16_slice _ (by omega) (by omega) fun fragNum => ?_
  refine Res.noPanic_bind_of (noPanic_idx (by omega)) fun authProto _ => ?_
  refine Res.noPanic_bind_of (noPanic_idx (by omega)) fun serialLo _ => ?_
  infer_instance

lemma noPanic_ndrBlocks {argsLen offset actualCount : UInt32} (h : 20 ≤ buf.length) :
    (ndrBlocks buf argsLen offset actualCount).NoPanic := by
  unfold ndrBlocks
  refine Res.noPanic_bind_of inferInstance fun _ _ => ?_
  refine Res.noPanic_bind_of inferInstance fun _ _ => ?_
  refine Res.noPanic_bind_of inferInstance fun _ hcnt => ?_
  have hle := not_lt.1 (Res.reject_eq_ok.1 hcnt)
  exact noPanic_slice ⟨by omega, by omega⟩

/-- The five counters in front of the blocks, in both directions. -/
lemma noPanic_ndr {f : UInt32 → UInt32 → UInt32 → UInt32 → UInt32 → Bytes → Res RpcError α}
    (hf : ∀ a b c d e blocks, (f a b c d e blocks).NoPanic) (h : 20 ≤ buf.length) :
    (do
      let a ← drep.u32 (← slice buf 0 4)
      let b ← drep.u32 (← slice buf 4 8)
      let c ← drep.u32 (← slice buf 8 12)
      let d ← drep.u32 (← slice buf 12 16)
      let e ← drep.u32 (← slice buf 16 20)
      let blocks ← ndrBlocks buf b d e
      f a b c d e blocks).NoPanic := by
  refine Drep.noPanic_u32_slice _ (by omega) (by omega) fun a => ?_
  refine Drep.noPanic_u32_slice _ (by omega) (by omega) fun b => ?_
  refine Drep.noPanic_u32_slice _ (by omega) (by omega) fun c => ?_
  refine Drep.noPanic_u32_slice _ (by omega) (by omega) fun d => ?_
  refine Drep.noPanic_u32_slice _ (by omega) (by omega) fun e => ?_
  exact Res.noPanic_bind_of (noPanic_ndrBlocks h) fun blocks _ => hf a b c d e blocks

instance NdrRequest.noPanic_parse (buf : Bytes) (drep : Drep) :
    (NdrRequest.parse buf drep).NoPanic := by
  unfold NdrRequest.parse
  refine Res.noPanic_bind_of inferInstance fun _ hlen => ?_
  exact noPanic_ndr drep (fun _ _ _ _ _ _ => Res.noPanic_ok _)
    (not_lt.1 (Res.reject_eq_ok.1 hlen))

instance NdrResponse.noPanic_parse (buf : Bytes) (drep : Drep) :
    (NdrResponse.parse buf drep).NoPanic := by
  unfold NdrResponse.parse
  refine Res.noPanic_bind_of inferInstance fun _ hlen => ?_
  exact noPanic_ndr drep (fun _ _ _ _ _ _ => Res.noPanic_ok _)
    (not_lt.1 (Res.reject_eq_ok.1 hlen))

end Envelope

/-! ### Blocks -/

namespace BlockReader

instance safe_bytes (n : Nat) : Reader.Safe (bytes n) := Reader.safe_bytes _ n

instance safe_u8 : Reader.Safe u8 := by
  unfold u8
  infer_instance

instance safe_u16 : Reader.Safe u16 := by
  unfold u16
  infer_instance

instance safe_u32 : Reader.Safe u32 := by
  unfold u32
  infer_instance

instance safe_uuid : Reader.Safe uuid := by
  unfold uuid
  refine Reader.safe_bind_of inferInstance fun b _ _ _ => ?_
  refine Reader.safe_bind_of inferInstance fun o _ _ _ => ?_
  cases o <;> infer_instance

instance safe_mac : Reader.Safe mac := by
  unfold mac
  refine Reader.safe_bind_of inferInstance fun b c c' hb => ?_
  have hlen : b.length = 6 := Reader.length_of_bytes hb
  have := Res.noPanic_of_returns (ε := BlockError) ⟨_, Octets.copyFrom_of_length hlen⟩
  infer_instance

end BlockReader

instance BlockHeader.noPanic_parse (buf : Bytes) : (BlockHeader.parse buf).NoPanic := by
  unfold BlockHeader.parse
  refine Res.noPanic_bind_of inferInstance fun _ hlen => ?_
  have h6 : 6 ≤ buf.length := not_lt.1 (Res.reject_eq_ok.1 hlen)
  refine Res.noPanic_bind_of (noPanic_slice ⟨by omega, by omega⟩) fun ty _ => ?_
  refine Res.noPanic_bind_of (noPanic_slice ⟨by omega, by omega⟩) fun len _ => ?_
  refine Res.noPanic_bind_of (noPanic_idx (by omega)) fun vh _ => ?_
  refine Res.noPanic_bind_of (noPanic_idx (by omega)) fun vl _ => ?_
  refine Res.noPanic_bind_of inferInstance fun _ _ => ?_
  refine Res.noPanic_bind_of inferInstance fun _ hav => ?_
  have hle := not_lt.1 (Res.reject_eq_ok.1 hav)
  simp only [hdrLen] at hle ⊢
  refine Res.noPanic_bind_of (noPanic_slice ⟨by omega, by omega⟩) fun body _ => ?_
  infer_instance

/-- Every round takes a header off the front, so the bound on the rounds is never met. -/
lemma BlockHeader.noPanic_readAllFrom {fuel : Nat} {buf : Bytes} (h : buf.length ≤ fuel) :
    (BlockHeader.readAllFrom fuel buf).NoPanic := by
  induction fuel generalizing buf with
  | zero =>
    rw [readAllFrom, if_pos (by omega)]
    infer_instance
  | succ fuel ih =>
    rw [readAllFrom]
    split_ifs with hnil
    · infer_instance
    · refine Res.noPanic_bind_of inferInstance fun r _ => ?_
      refine Res.noPanic_bind_of (ih ?_) fun rest _ => Res.noPanic_ok _
      rw [List.length_drop, hdrLen]
      omega

instance BlockHeader.noPanic_readAll (buf : Bytes) : (BlockHeader.readAll buf).NoPanic :=
  noPanic_readAllFrom le_rfl

instance ArBlockReq.noPanic_parse (body : Bytes) : (ArBlockReq.parse body).NoPanic := by
  unfold ArBlockReq.parse
  infer_instance

instance IocrObject.safe_read : Reader.Safe IocrObject.read := by
  unfold IocrObject.read
  infer_instance

instance IocrApi.safe_read : Reader.Safe IocrApi.read := by
  unfold IocrApi.read
  infer_instance

instance IocrBlockReq.noPanic_parse (body : Bytes) : (IocrBlockReq.parse body).NoPanic := by
  unfold IocrBlockReq.parse
  infer_instance

namespace ExpectedSubmoduleBlockReq

instance safe_dataDescription (tag : UInt16) : Reader.Safe (dataDescription tag) := by
  unfold dataDescription
  infer_instance

instance safe_descriptions (properties : UInt16) : Reader.Safe (descriptions properties) := by
  unfold descriptions
  split <;> infer_instance

instance safe_readSubmodule : Reader.Safe readSubmodule := by
  unfold readSubmodule
  infer_instance

instance safe_readApi : Reader.Safe readApi := by
  unfold readApi
  infer_instance

instance noPanic_parse (body : Bytes) : (parse body).NoPanic := by
  unfold parse
  infer_instance

end ExpectedSubmoduleBlockReq

instance AlarmCrBlockReq.noPanic_parse (body : Bytes) : (AlarmCrBlockReq.parse body).NoPanic := by
  unfold AlarmCrBlockReq.parse
  infer_instance

/-! ### Requests -/

instance ConnectReq.noPanic_push (a : ConnectReq.Acc) (b : BlockHeader × Bytes) :
    (a.push b).NoPanic := by
  unfold ConnectReq.Acc.push
  split_ifs <;> infer_instance

instance ConnectReq.noPanic_parse (blocks : Bytes) : (ConnectReq.parse blocks).NoPanic := by
  unfold ConnectReq.parse
  infer_instance

instance ControlBlock.noPanic_parse (blocks : Bytes) : (ControlBlock.parse blocks).NoPanic := by
  unfold ControlBlock.parse
  refine Res.noPanic_bind_of inferInstance fun r _ => ?_
  refine Res.noPanic_bind_of inferInstance fun _ _ => ?_
  infer_instance

instance ReadReq.noPanic_parse (blocks : Bytes) : (ReadReq.parse blocks).NoPanic := by
  unfold ReadReq.parse
  refine Res.noPanic_bind_of inferInstance fun r _ => ?_
  dsimp only
  infer_instance

namespace WriteReq

instance noPanic_parseOne (buf : Bytes) : (parseOne buf).NoPanic := by
  unfold parseOne
  refine Res.noPanic_bind_of inferInstance fun r _ => ?_
  refine Res.noPanic_bind_of inferInstance fun _ _ => ?_
  refine Res.noPanic_bind_of inferInstance fun q _ => ?_
  refine Res.noPanic_bind_of inferInstance fun _ hle => ?_
  refine Res.noPanic_bind_of (noPanic_slice ⟨by omega, ?_⟩) fun data _ => Res.noPanic_ok _
  exact not_lt.1 (Res.reject_eq_ok.1 hle)

/-- A record takes its header at least. -/
lemma consumed_pos {buf : Bytes} {r : Record} {n : Nat} (h : parseOne buf = .ok (r, n)) :
    0 < n := by
  unfold parseOne at h
  obtain ⟨⟨hd, body⟩, -, h⟩ := Res.bind_eq_ok.1 h
  obtain ⟨_, -, h⟩ := Res.bind_eq_ok.1 h
  obtain ⟨q, -, h⟩ := Res.bind_eq_ok.1 h
  obtain ⟨_, -, h⟩ := Res.bind_eq_ok.1 h
  obtain ⟨data, -, h⟩ := Res.bind_eq_ok.1 h
  cases h
  simp only [BlockHeader.hdrLen]
  omega

lemma noPanic_parseNested {data : Bytes} {fuel pos : Nat} (h : data.length ≤ pos + fuel) :
    (parseNested data fuel pos).NoPanic := by
  induction fuel generalizing pos with
  | zero =>
    rw [parseNested, if_neg (by omega)]
    infer_instance
  | succ fuel ih =>
    rw [parseNested]
    split_ifs with hpos
    · refine Res.noPanic_bind_of inferInstance fun r hr => ?_
      have := consumed_pos hr
      refine Res.noPanic_bind_of (ih (by omega)) fun rest _ => Res.noPanic_ok _
    · infer_instance

instance noPanic_parse (blocks : Bytes) : (parse blocks).NoPanic := by
  unfold parse
  refine Res.noPanic_bind_of inferInstance fun r _ => ?_
  dsimp only
  split_ifs
  · have := noPanic_parseNested (show r.1.data.length ≤ 0 + r.1.data.length by omega)
    infer_instance
  · infer_instance

end WriteReq

instance checkIocrDataLength_noPanic (cr : IocrBlockReq) (model : DeviceModel) (out : Bool) :
    (checkIocrDataLength cr model out).NoPanic := by
  unfold checkIocrDataLength
  split <;> infer_instance

instance checkExpectedApi_noPanic (model : DeviceModel) (api : ExpectedApi) :
    (checkExpectedApi model api).NoPanic := by
  have hm : (checkExpectedModule model api).NoPanic := by
    unfold checkExpectedModule
    split <;> infer_instance
  have hs : ∀ sm, (checkExpectedSubmodule model api.slot sm).NoPanic := by
    intro sm
    unfold checkExpectedSubmodule
    infer_instance
  unfold checkExpectedApi
  infer_instance

instance validate_noPanic (req : ConnectReq) (model : DeviceModel) :
    (validate req model).NoPanic := by
  unfold validate
  refine Res.noPanic_bind_of inferInstance fun _ _ => ?_
  refine Res.noPanic_bind_of inferInstance fun _ _ => ?_
  refine Res.noPanic_bind_of inferInstance fun _ _ => ?_
  refine Res.noPanic_bind_of inferInstance fun input _ => ?_
  refine Res.noPanic_bind_of inferInstance fun output _ => ?_
  refine Res.noPanic_bind_of inferInstance fun _ _ => ?_
  refine Res.noPanic_bind_of inferInstance fun _ _ => ?_
  refine Res.noPanic_bind_of inferInstance fun _ _ => ?_
  refine Res.noPanic_bind_of inferInstance fun _ _ => ?_
  refine Res.noPanic_bind_of inferInstance fun _ _ => ?_
  exact Res.noPanic_bind_of inferInstance fun _ _ => Res.noPanic_ok _

/-! ### What is built fits its length fields -/

section Builders

variable {ε : Type}

lemma BlockHeader.write_returns (ty : UInt16) {len : UInt16} (h : len.toNat + 2 < 65536) :
    ∃ w, (BlockHeader.write ty len : Res ε _) = .ok w := by
  rw [BlockHeader.write, if_pos h]
  exact ⟨_, rfl⟩

lemma writeBlock_returns (ty : UInt16) {body : Bytes} (h : body.length + 2 < 65536) :
    ∃ w, (writeBlock ty body : Res ε _) = .ok w := by
  have hlen : (UInt16.ofNat body.length).toNat = body.length := by
    rw [UInt16.toNat_ofNat']
    exact Nat.mod_eq_of_lt (by omega)
  obtain ⟨w, hw⟩ := BlockHeader.write_returns (ε := ε) ty (hlen ▸ h)
  rw [writeBlock, hw]
  exact ⟨_, rfl⟩

lemma ControlBlock.write_returns (cb : ControlBlock) : ∃ w, (cb.write : Res ε _) = .ok w :=
  ⟨_, rfl⟩

lemma buildWriteRes_returns (req : WriteReq) : ∃ w, (buildWriteRes req : Res ε _) = .ok w := by
  obtain ⟨ws, hws⟩ : ∃ ws, (req.records.mapM writeResRecord : Res ε _) = .ok ws :=
    Res.mapM_returns fun r _ => ⟨_, rfl⟩
  rw [buildWriteRes, hws]
  exact ⟨_, rfl⟩

lemma readRecord_returns (req : ReadReq) (model : DeviceModel) (im0 : Im0) (im : ImStore) :
    ∃ o, (readRecord req model im0 im : Res ε _) = .ok o := by
  have hblock : ∀ (ty : UInt16) {n : Nat} (b : Octets n), n < 60000 →
      ∃ o, (ImStore.readBlock ty b.bytes : Res ε _) = .ok o := by
    intro ty n b hn
    have hlen : b.bytes.length + 2 < 65536 := by
      rw [b.len]
      omega
    obtain ⟨w, hw⟩ := writeBlock_returns (ε := ε) ty hlen
    rw [ImStore.readBlock, hw]
    exact ⟨_, rfl⟩
  unfold readRecord ImStore.read
  split_ifs
  · exact ⟨_, rfl⟩
  · exact ⟨_, rfl⟩
  · exact hblock _ im.im1 (by omega)
  · exact hblock _ im.im2 (by omega)
  · exact hblock _ im.im3 (by omega)
  · exact ⟨_, rfl⟩
  · exact ⟨_, rfl⟩

lemma handleRead_returns (cm : Cm) (req : ReadReq) (checkAr : Bool) :
    ∃ acts, (cm.handleRead req checkAr : Res ε _) = .ok acts := by
  unfold Cm.handleRead
  dsimp only
  split_ifs
  · exact ⟨_, rfl⟩
  · obtain ⟨o, ho⟩ := readRecord_returns (ε := ε) req cm.model cm.im0 cm.im
    rw [ho, Res.ok_bind]
    cases o with
    | none => exact ⟨_, rfl⟩
    | some data => exact ⟨_, rfl⟩

instance ImStore.noPanic_recordBody (index ty : UInt16) (len : Nat) (record : Bytes) :
    (ImStore.recordBody index ty len record).NoPanic := by
  unfold ImStore.recordBody
  refine Res.noPanic_bind_of inferInstance fun r _ => ?_
  refine Res.noPanic_bind_of inferInstance fun _ _ => ?_
  refine Res.noPanic_bind_of inferInstance fun _ hlen => ?_
  exact Res.noPanic_of_returns ⟨_, Octets.copyFrom_of_length (not_not.1 (Res.reject_eq_ok.1 hlen))⟩

instance ImStore.noPanic_write (im : ImStore) (index : UInt16) (record : Bytes) :
    (im.write index record).NoPanic := by
  unfold ImStore.write
  split_ifs <;> infer_instance

lemma writeImRecord_returns (r : Record) (model : DeviceModel) (im : ImStore) :
    ∃ o, (writeImRecord r model im : Res ε _) = .ok o := by
  unfold writeImRecord
  split_ifs
  · exact ⟨_, rfl⟩
  · obtain ⟨e, he⟩ := Res.attempt_returns (δ := ε) (im.write r.index r.data)
    rw [he, Res.ok_bind]
    cases e <;> exact ⟨_, rfl⟩

lemma writeImRecords_returns (cm : Cm) (records : List Record) :
    ∃ im, (cm.writeImRecords records : Res ε _) = .ok im := by
  unfold Cm.writeImRecords
  generalize cm.im = im
  induction records generalizing im with
  | nil => exact ⟨im, rfl⟩
  | cons r records ih =>
    rw [List.foldlM_cons]
    split_ifs
    · obtain ⟨o, ho⟩ := writeImRecord_returns (ε := ε) r cm.model im
      rw [ho]
      exact ih o.2
    · exact ih im

/-- The length of the server block of the response: the name, its length and the padding. -/
def serverLen (stationName : Str) : Nat :=
  let total := BlockHeader.hdrLen + (2 + stationName.bytes.length)
  2 + stationName.bytes.length + (4 - total % 4) % 4

/-- The length field of the server block does not overflow. -/
def DeviceModel.NameFits (model : DeviceModel) : Prop :=
  serverLen model.stationName % 65536 + 2 < 65536

instance (model : DeviceModel) : Decidable model.NameFits := inferInstanceAs (Decidable (_ < _))

lemma writeArServerBlockRes_eq (name : Str) :
    ∃ w, (writeArServerBlockRes name : Res ε _) =
      if serverLen name % 65536 + 2 < 65536 then .ok w else .panic .overflow := by
  have hlen : (be16 (UInt16.ofNat name.bytes.length) ++ name.bytes).length =
      2 + name.bytes.length := by simp
  have hfield : (UInt16.ofNat (be16 (UInt16.ofNat name.bytes.length) ++ name.bytes ++
      List.replicate ((4 - (BlockHeader.hdrLen + (2 + name.bytes.length)) % 4) % 4)
        0).length).toNat = serverLen name % 65536 := by
    rw [UInt16.toNat_ofNat', List.length_append, List.length_replicate, hlen]
    rfl
  unfold writeArServerBlockRes writeBlock BlockHeader.write
  dsimp only
  rw [hlen, hfield]
  split_ifs with h
  · exact ⟨_, rfl⟩
  · exact ⟨[], rfl⟩

/-- The response to a Connect is built if the station name fits; if not, its length field
overflows. -/
lemma buildConnectRes_eq (params : ArParams) (model : DeviceModel) :
    ∃ w, (buildConnectRes params model : Res ε _) =
      if model.NameFits then .ok w else .panic .overflow := by
  obtain ⟨ar, har⟩ : ∃ w, (writeArBlockRes params model : Res ε _) = .ok w :=
    writeBlock_returns _ (by simp)
  obtain ⟨input, hin⟩ : ∃ w, (writeIocrBlockRes 1 params.inputCr : Res ε _) = .ok w :=
    writeBlock_returns _ (by simp)
  obtain ⟨output, hout⟩ : ∃ w, (writeIocrBlockRes 2 params.outputCr : Res ε _) = .ok w :=
    writeBlock_returns _ (by simp)
  obtain ⟨alarm, hal⟩ : ∃ w, (writeAlarmCrBlockRes model.maxAlarmDataLength : Res ε _) = .ok w :=
    writeBlock_returns _ (by simp)
  obtain ⟨server, hs⟩ := writeArServerBlockRes_eq (ε := ε) model.stationName
  unfold buildConnectRes
  simp only [har, hin, hout, hal, hs, Res.ok_bind]
  by_cases hn : model.NameFits
  · refine ⟨ar ++ input ++ output ++ alarm ++ server, ?_⟩
    rw [if_pos hn, if_pos (show serverLen model.stationName % 65536 + 2 < 65536 from hn)]
    rfl
  · refine ⟨[], ?_⟩
    rw [if_neg hn, if_neg (show ¬ serverLen model.stationName % 65536 + 2 < 65536 from hn)]
    rfl

lemma buildConnectRes_returns (params : ArParams) {model : DeviceModel} (h : model.NameFits) :
    ∃ w, (buildConnectRes params model : Res ε _) = .ok w := by
  obtain ⟨w, hw⟩ := buildConnectRes_eq (ε := ε) params model
  rw [if_pos h] at hw
  exact ⟨w, hw⟩

lemma buildConnectRes_overflow (params : ArParams) {model : DeviceModel} (h : ¬ model.NameFits) :
    (buildConnectRes params model : Res ε _) = .panic .overflow := by
  obtain ⟨w, hw⟩ := buildConnectRes_eq (ε := ε) params model
  rw [hw, if_neg h]

end Builders

/-! ### The AR machine -/

namespace Ar

variable {ε : Type} {ar : Ar}

/-- What the machine relies on: a context outside `Idle`, and a name that fits. -/
structure Ready (ar : Ar) : Prop where
  ctx : ar.state ≠ .idle → ∃ ctx, ar.ctx = some ctx
  name : ar.model.NameFits

lemma connectIdle_returns (h : ar.model.NameFits) (req : ConnectReq) (now : Instant) :
    ∃ r, (ar.connectIdle req now : Res ε _) = .ok r := by
  unfold connectIdle
  obtain ⟨v, hv⟩ := Res.attempt_returns (δ := ε) (validate req ar.model)
  rw [hv, Res.ok_bind]
  cases v with
  | error s => exact ⟨_, rfl⟩
  | ok p =>
    obtain ⟨res, hres⟩ := buildConnectRes_returns (ε := ε) p h
    dsimp only
    rw [hres]
    exact ⟨_, rfl⟩

lemma handleConnect_returns (h : ar.Ready) (req : ConnectReq) (now : Instant) :
    ∃ r, (ar.handleConnect req now : Res ε _) = .ok r := by
  unfold handleConnect
  split
  · exact connectIdle_returns h.name req now
  · rename_i hs
    obtain ⟨ctx, hc⟩ := h.ctx hs
    rw [hc, Res.unwrap_some, Res.ok_bind]
    dsimp only
    split_ifs
    · exact ⟨_, rfl⟩
    · have hname : ar.dropped.model.NameFits := h.name
      obtain ⟨r, hr⟩ := connectIdle_returns (ε := ε) hname req now
      dsimp only [Ar.abort]
      rw [hr]
      exact ⟨_, rfl⟩
    · exact ⟨_, rfl⟩

lemma handleWrite_returns (h : ar.Ready) (req : WriteReq) (now : Instant) :
    ∃ r, (ar.handleWrite req now : Res ε _) = .ok r := by
  unfold handleWrite
  split
  · exact ⟨_, rfl⟩
  · rename_i hs
    obtain ⟨ctx, hc⟩ := h.ctx hs
    rw [hc, Res.unwrap_some, Res.ok_bind]
    split_ifs
    · exact ⟨_, rfl⟩
    · exact ⟨_, rfl⟩
    · obtain ⟨w, hw⟩ := buildWriteRes_returns (ε := ε) req
      rw [hw]
      exact ⟨_, rfl⟩

lemma handlePrmEnd_returns (h : ar.Ready) (req : ControlBlock) (now : Instant) :
    ∃ r, (ar.handlePrmEnd req now : Res ε _) = .ok r := by
  unfold handlePrmEnd
  split
  · exact ⟨_, rfl⟩
  · rename_i hs
    obtain ⟨ctx, hc⟩ := h.ctx (by rw [hs]; decide)
    rw [hc, Res.unwrap_some, Res.ok_bind]
    split_ifs <;> exact ⟨_, rfl⟩
  · rename_i hs _
    obtain ⟨ctx, hc⟩ := h.ctx hs
    rw [hc, Res.unwrap_some, Res.ok_bind]
    split_ifs <;> exact ⟨_, rfl⟩

lemma handleRelease_returns (h : ar.Ready) (req : ControlBlock) :
    ∃ r, (ar.handleRelease req : Res ε _) = .ok r := by
  unfold handleRelease
  split_ifs with hs
  · exact ⟨_, rfl⟩
  · obtain ⟨ctx, hc⟩ := h.ctx hs
    rw [hc, Res.unwrap_some, Res.ok_bind]
    split_ifs <;> exact ⟨_, rfl⟩

lemma handleTick_returns (h : ar.Ready) (now : Instant) :
    ∃ r, (ar.handleTick now : Res ε _) = .ok r := by
  unfold handleTick
  split
  · split_ifs <;> exact ⟨_, rfl⟩
  · rename_i hs
    obtain ⟨ctx, hc⟩ := h.ctx (by rw [hs]; decide)
    rw [hc, Res.unwrap_some, Res.ok_bind]
    split_ifs <;> exact ⟨_, rfl⟩
  all_goals exact ⟨_, rfl⟩

/-- **The AR machine takes every event.** -/
theorem on_returns (h : ar.Ready) (ev : Event) (now : Instant) :
    ∃ r, (ar.on ev now : Res ε _) = .ok r := by
  cases ev with
  | connectReq req => exact handleConnect_returns h req now
  | writeReq req => exact handleWrite_returns h req now
  | prmEndReq req => exact handlePrmEnd_returns h req now
  | releaseReq req => exact handleRelease_returns h req
  | appReadyRsp s => exact ⟨_, rfl⟩
  | tick => exact handleTick_returns h now
  | abort reason =>
    rw [on]
    split_ifs <;> exact ⟨_, rfl⟩

end Ar

end Pnio
