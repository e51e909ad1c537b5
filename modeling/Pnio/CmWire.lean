import Pnio.CmTotal
import Pnio.WriteSpec

/-!
Every PDU the context manager puts on the wire is well formed.

The blocks of a response split into whole blocks and are short enough for the 16-bit lengths around
them: a Connect response by the length of the station name, a Write response by the cap on the
records of an AR, and all others by their fixed size. What is cached was sent once, so a replay is
no different.
-/

namespace Pnio

/-! ### Blocks -/

/-- The bytes are a sequence of whole blocks. -/
def Splits (b : Bytes) : Prop := ∃ bs, BlockHeader.readAll b = .ok bs

section Splits

variable {ε : Type} {a b body w : Bytes} {ty n : UInt16}

lemma splits_nil : Splits [] := ⟨[], rfl⟩

lemma Splits.append (ha : Splits a) (hb : Splits b) : Splits (a ++ b) := by
  obtain ⟨as, ha⟩ := ha
  obtain ⟨bs, hb⟩ := hb
  obtain ⟨hwa, rfl⟩ := BlockHeader.readAll_eq_ok.1 ha
  obtain ⟨hwb, rfl⟩ := BlockHeader.readAll_eq_ok.1 hb
  refine ⟨as ++ bs, BlockHeader.readAll_eq_ok.2 ⟨?_, List.flatMap_append.symm⟩⟩
  exact List.forall_mem_append.2 ⟨hwa, hwb⟩

lemma splits_flatten {l : List Bytes} (h : ∀ b ∈ l, Splits b) : Splits l.flatten := by
  induction l with
  | nil => exact splits_nil
  | cons b l ih =>
    rw [List.forall_mem_cons] at h
    exact h.1.append (ih h.2)

/-- A header and the body it announces. -/
lemma splits_write (hw : (BlockHeader.write ty n : Res ε _) = .ok w)
    (hn : body.length = n.toNat) : Splits (w ++ body) ∧ (w ++ body).length = 6 + n.toNat := by
  have hparse := BlockHeader.parse_write hw hn []
  obtain ⟨hwhole, -⟩ := BlockHeader.parse_eq_ok.1 hparse
  unfold BlockHeader.write at hw
  split_ifs at hw
  cases hw
  refine ⟨⟨[_], BlockHeader.readAll_eq_ok.2 ⟨List.forall_mem_singleton.2 hwhole, ?_⟩⟩, ?_⟩
  · rw [BlockHeader.wire_cons, BlockHeader.bytes]
    exact (List.append_nil _).symm
  · simp [hn]
    omega

lemma splits_writeBlock (h : (writeBlock ty body : Res ε _) = .ok b) (hlen : body.length < 65536) :
    Splits b ∧ b.length = 6 + body.length := by
  obtain ⟨w, hw, h⟩ := Res.bind_eq_ok.1 h
  cases h
  have hn : body.length = (UInt16.ofNat body.length).toNat := by
    rw [UInt16.toNat_ofNat', Nat.mod_eq_of_lt hlen]
  have hsplit := splits_write hw hn
  rwa [← hn] at hsplit

end Splits

/-- Blocks that a PDU can carry. -/
structure Carried (b : Bytes) : Prop where
  splits : Splits b
  fits : b.length ≤ 65515

section Carried

variable {ε : Type} {b : Bytes}

lemma carried_nil : Carried [] := ⟨splits_nil, Nat.zero_le _⟩

lemma carried_control {c : ControlBlock} (h : (c.write : Res ε _) = .ok b) : Carried b := by
  obtain ⟨w, hw, h⟩ := Res.bind_eq_ok.1 h
  simp only [List.append_assoc] at h
  cases h
  have hlen : (be16 0 ++ (c.arUuid.write .big ++ (be16 c.sessionKey ++
      (be16 0 ++ (be16 c.command ++ be16 c.properties))))).length =
      (UInt16.ofNat ControlBlock.bodyLen).toNat := by
    simp [ControlBlock.bodyLen]
  obtain ⟨hs, hl⟩ := splits_write hw hlen
  exact ⟨hs, by rw [hl]; decide⟩

/-- The response to a Connect is as long as the name of the station makes it. -/
lemma carried_connectRes {p : ArParams} {model : DeviceModel}
    (hname : model.stationName.bytes.length ≤ 240)
    (h : (buildConnectRes p model : Res ε _) = .ok b) : Carried b := by
  obtain ⟨b1, h1, h⟩ := Res.bind_eq_ok.1 h
  obtain ⟨b2, h2, h⟩ := Res.bind_eq_ok.1 h
  obtain ⟨b3, h3, h⟩ := Res.bind_eq_ok.1 h
  obtain ⟨b4, h4, h⟩ := Res.bind_eq_ok.1 h
  obtain ⟨b5, h5, h⟩ := Res.bind_eq_ok.1 h
  cases h
  obtain ⟨s1, l1⟩ := splits_writeBlock h1 (by simp)
  obtain ⟨s2, l2⟩ := splits_writeBlock h2 (by simp)
  obtain ⟨s3, l3⟩ := splits_writeBlock h3 (by simp)
  obtain ⟨s4, l4⟩ := splits_writeBlock h4 (by simp)
  obtain ⟨s5, l5⟩ := splits_writeBlock h5 (by simp; omega)
  refine ⟨(((s1.append s2).append s3).append s4).append s5, ?_⟩
  simp only [List.length_append, l1, l2, l3, l4, l5]
  simp
  omega

/-- The cap on the records of an AR bounds the response to a Write. -/
lemma carried_writeRes {req : WriteReq} (hlen : req.records.length ≤ maxRecords)
    (h : (buildWriteRes req : Res ε _) = .ok b) : Carried b := by
  rw [buildWriteRes_eq] at h
  cases h
  constructor
  · refine splits_flatten fun b hb => ?_
    obtain ⟨r, -, rfl⟩ := List.mem_map.1 hb
    have hw : (BlockHeader.write Ty.iodWriteResHeader 58 : Res Unit _) =
        .ok (be16 Ty.iodWriteResHeader ++ be16 60 ++ [1, 0]) := rfl
    exact (splits_write hw (length_echoBody r)).1
  · have hsum : (req.records.map echo).flatten.length = 64 * req.records.length := by
      rw [List.length_flatten, List.map_map]
      have hconst : (List.length ∘ echo) = fun _ => 64 := funext length_echo
      rw [hconst, List.map_const', List.sum_replicate, smul_eq_mul, Nat.mul_comm]
    rw [hsum]
    rw [maxRecords] at hlen
    omega

lemma length_pushPadded (s : Str) (len : Nat) : (pushPadded s len).length = len := by
  rw [pushPadded, List.length_append, List.length_take, List.length_replicate]
  omega

/-- A record that can be read is one block. -/
lemma splits_readRecord {req : ReadReq} {model : DeviceModel} {im0 : Im0} {im : ImStore}
    (h : (readRecord req model im0 im : Res ε _) = .ok (some b)) : Splits b ∧ b.length ≤ 60 := by
  have hblock : ∀ {ty : UInt16} {n : Nat} {body : Octets n}, n ≤ 54 →
      (ImStore.readBlock ty body.bytes : Res ε _) = .ok (some b) → Splits b ∧ b.length ≤ 60 := by
    intro ty n body hn h
    obtain ⟨w, hw, h⟩ := Res.bind_eq_ok.1 h
    cases h
    have hl := body.len
    obtain ⟨hs, hlen⟩ := splits_writeBlock hw (by omega)
    exact ⟨hs, by omega⟩
  unfold readRecord at h
  split_ifs at h
  · cases h
  · obtain ⟨b', hb, h⟩ := Res.bind_eq_ok.1 h
    cases h
    obtain ⟨w, hw, hb⟩ := Res.bind_eq_ok.1 hb
    simp only [List.append_assoc] at hb
    cases hb
    refine (splits_write hw ?_).imp_right fun hlen => by rw [hlen]; decide
    simp only [List.length_append, length_be16, length_pushPadded, List.length_cons,
      List.length_nil]
    rfl
  · unfold ImStore.read at h
    split_ifs at h
    · exact hblock (le_refl _) h
    · exact hblock (by decide) h
    · exact hblock (le_refl _) h
    · cases h
  · cases h

lemma carried_readRes {req : ReadReq} {data : Bytes} (hs : Splits data) (hl : data.length ≤ 60)
    (h : (buildReadRes req data : Res ε _) = .ok b) : Carried b := by
  obtain ⟨w, hw, h⟩ := Res.bind_eq_ok.1 h
  cases h
  obtain ⟨hh, hlen⟩ : Splits (w ++ be16 req.seq ++ req.arUuid.write .big ++ be32 req.api ++
        be16 req.slot ++ be16 req.subslot ++ be16 0 ++ be16 req.index ++
        be32 (UInt32.ofNat data.length) ++ be16 0 ++ be16 0 ++ List.replicate 20 0) ∧
      (w ++ be16 req.seq ++ req.arUuid.write .big ++ be32 req.api ++
        be16 req.slot ++ be16 req.subslot ++ be16 0 ++ be16 req.index ++
        be32 (UInt32.ofNat data.length) ++ be16 0 ++ be16 0 ++ List.replicate 20 0).length =
        6 + (58 : UInt16).toNat := by
    simp only [List.append_assoc]
    exact splits_write hw (by simp)
  refine ⟨hh.append hs, ?_⟩
  rw [List.length_append, hlen]
  have h58 : (58 : UInt16).toNat = 58 := rfl
  omega

end Carried

/-! ### What the AR asks for -/

/-- The blocks of the action can be carried. -/
def Action.Carries : Action → Prop
  | .respond _ b | .callController b => Carried b
  | .notify _ _ => True

lemma carries_refuse (s : PnioStatus) : (refuse s).Carries := carried_nil

/-- An AR whose response to the Connect can be sent again. -/
structure Ar.Tidy (ar : Ar) : Prop where
  name : ar.model.stationName.bytes.length ≤ 240
  connectRes : ∀ c ∈ ar.ctx, Carried c.connectRes

namespace Ar

variable {ε : Type} {ar ar' : Ar} {now : Instant} {ev : Event} {acts : List Action}

lemma Tidy.dropped (h : ar.Tidy) : ar.dropped.Tidy := ⟨h.name, fun c hc => (by cases hc)⟩

/-- **Every action of the AR carries blocks that can be sent.** -/
lemma Trans.tidy (ht : Trans ε now ar ev ar' acts) (h : ar.Tidy) :
    ar'.Tidy ∧ ∀ a ∈ acts, a.Carries := by
  cases ht with
  | refused hr hz => exact ⟨h, by simp [carries_refuse]⟩
  | ignored hr => exact ⟨h, by simp⟩
  | connect hs hv hb =>
    have hc := carried_connectRes h.name hb
    refine ⟨⟨h.name, ?_⟩, by simp [Action.Carries, hc]⟩
    rintro c ⟨⟩
    exact hc
  | resend hs hc hu hk => exact ⟨h, by simp [Action.Carries, h.connectRes _ hc]⟩
  | takeover hs hc hn ho hv hb =>
    have hc := carried_connectRes h.name hb
    refine ⟨⟨h.name, ?_⟩, by simp [Action.Carries, hc]⟩
    rintro c ⟨⟩
    exact hc
  | takeoverRefused hs hc hz ho hn =>
    exact ⟨h.dropped, by simp [Action.Carries, refuse, carried_nil]⟩
  | write hs hc hu hcap hb =>
    obtain ⟨hcount, -⟩ := not_exceedsRecordCap.1 hcap
    rw [List.length_append] at hcount
    have hb := carried_writeRes (by omega) hb
    refine ⟨⟨h.name, ?_⟩, by simp [Action.Carries, hb]⟩
    rintro c ⟨⟩
    have hres := h.connectRes _ hc
    exact hres
  | prmEnd hs hc hu hr hb =>
    exact ⟨⟨h.name, h.connectRes⟩, by simp [Action.Carries, carried_control hr, carried_control hb]⟩
  | prmEndAgain hs hc hu hr => exact ⟨h, by simp [Action.Carries, carried_control hr]⟩
  | releaseIdle hs hr => exact ⟨h, by simp [Action.Carries, carried_control hr]⟩
  | release hs hc hu hr => exact ⟨h.dropped, by simp [Action.Carries, carried_control hr]⟩
  | appReady hs hz => exact ⟨⟨h.name, h.connectRes⟩, by simp [Action.Carries]⟩
  | appReadyRejected hs hz => exact ⟨h.dropped, by simp [Action.Carries]⟩
  | activityTimeout hs hd => exact ⟨h.dropped, by simp [Action.Carries]⟩
  | retry hs hd ha hc hb =>
    exact ⟨⟨h.name, h.connectRes⟩, by simp [Action.Carries, carried_control hb]⟩
  | appReadyFailed hs hd ha => exact ⟨h.dropped, by simp [Action.Carries]⟩
  | abort hs => exact ⟨h.dropped, by simp [Action.Carries]⟩

end Ar

/-! ### PDUs -/

/-- The NDR parser for the direction of the PDU takes its body apart and leaves nothing; a response
that reports an error has no blocks. -/
inductive NdrReads (h : RpcHeader) (body blocks : Bytes) : Prop
  | response {n : NdrResponse} (ptype : h.ptype = .response)
      (read : NdrResponse.parse body h.drep = .ok (n, blocks))
      (all : body.length = NdrResponse.hdrLen + blocks.length)
      (error : n.status ≠ 0 → blocks = [])
  | request {n : NdrRequest} (ptype : h.ptype = .request)
      (read : NdrRequest.parse body h.drep = .ok (n, blocks))
      (all : body.length = NdrRequest.hdrLen + blocks.length)

/-- A PDU that can be taken apart down to its blocks. -/
def WellFormed (pdu : Bytes) : Prop :=
  ∃ h blocks, RpcHeader.parse pdu = .ok h ∧ 80 ≤ pdu.length ∧
    h.fragLen.toNat = pdu.length - 80 ∧ NdrReads h (pdu.drop 80) blocks ∧ Splits blocks

/-- What the manager can put on the wire when it answers the request `rc`. -/
inductive Emitted (rc : Option RespondCtx) : Bytes → Prop
  | response {ctx : RespondCtx} (s : PnioStatus) {b : Bytes} (hc : rc = some ctx) (hb : Carried b) :
      Emitted rc (buildResponsePdu ctx s b)
  | call (cm : Cm) (object : Uuid) (k : UInt32) {b : Bytes} (hb : Carried b) :
      Emitted rc (cm.callPdu object k b)

section Pdu

variable {ctx : RespondCtx} {s : PnioStatus} {b : Bytes}

lemma Carried.sends (hb : Carried b) (s : PnioStatus) : Carried (s.sends b) := by
  unfold PnioStatus.sends
  split_ifs
  · exact hb
  · exact carried_nil

/-- The 16-bit length of a body that carries these blocks. -/
lemma Carried.fragLen (hb : Carried b) : (UInt16.ofNat (20 + b.length)).toNat = 20 + b.length := by
  have hfits := hb.fits
  rw [UInt16.toNat_ofNat']
  omega

lemma Carried.count (hb : Carried b) : (UInt32.ofNat b.length).toNat = b.length := by
  have hfits := hb.fits
  rw [UInt32.toNat_ofNat']
  omega

/-- The NDR part of a response: the status, and the blocks if it is OK. -/
lemma ndr_response (ctx : RespondCtx) (s : PnioStatus) (hb : Carried b) :
    ∃ n : NdrResponse, n.status = s.val ∧
      (buildResponsePdu ctx s b).drop 80 = n.write .big ++ s.sends b ∧
      NdrResponse.parse ((buildResponsePdu ctx s b).drop 80) .big = .ok (n, s.sends b) := by
  have hout := hb.sends s
  obtain ⟨n, hpdu, hargs, hoff, hcount, hstatus⟩ : ∃ n : NdrResponse,
      buildResponsePdu ctx s b =
        (responseHeader ctx (s.sends b).length).write ++ (n.write .big ++ s.sends b) ∧
      n.argsLen = n.actualCount ∧ n.offset = 0 ∧ n.actualCount.toNat = (s.sends b).length ∧
      n.status = s.val := by
    refine ⟨if s.val = 0 then NdrResponse.ok ctx.argsMax (UInt32.ofNat (s.sends b).length)
      else NdrResponse.error s.val ctx.argsMax, ?_, ?_⟩
    · rw [← List.append_assoc]
      rfl
    · split_ifs with hz
      · exact ⟨rfl, rfl, hout.count, hz.symm⟩
      · exact ⟨rfl, rfl, by rw [PnioStatus.sends, if_neg hz]; rfl, rfl⟩
  have hdrop : (buildResponsePdu ctx s b).drop 80 = n.write .big ++ s.sends b := by
    rw [hpdu]
    exact List.drop_left' (RpcHeader.length_write _)
  have hread := NdrResponse.parse_write n .big (s.sends b) [] hargs hoff hcount
  rw [List.append_nil, ← hdrop] at hread
  exact ⟨n, hstatus, hdrop, hread⟩

lemma wellFormed_response (ctx : RespondCtx) (s : PnioStatus) (hb : Carried b) :
    WellFormed (buildResponsePdu ctx s b) := by
  have hout := hb.sends s
  have hparse := parse_buildResponsePdu ctx s b
  obtain ⟨n, hstatus, hdrop, hread⟩ := ndr_response ctx s hb
  have hbody : ((buildResponsePdu ctx s b).drop 80).length = 20 + (s.sends b).length := by
    rw [hdrop, List.length_append, NdrResponse.length_write]
  rw [List.length_drop] at hbody
  refine ⟨_, s.sends b, hparse, by omega, ?_, .response rfl hread ?_ fun hz => ?_, hout.splits⟩
  · rw [hbody]
    exact hout.fragLen
  · rw [List.length_drop, hbody]
    rfl
  · rw [hstatus] at hz
    exact if_neg hz

/-- The NDR part of a call carries its blocks. -/
lemma ndr_call (cm : Cm) (object : Uuid) (k : UInt32) (hb : Carried b) :
    NdrRequest.parse ((cm.callPdu object k b).drop 80) .big =
      .ok (NdrRequest.forBlocks rpcArgsMax (UInt32.ofNat b.length), b) := by
  have hdrop : (cm.callPdu object k b).drop 80 =
      (NdrRequest.forBlocks rpcArgsMax (UInt32.ofNat b.length)).write .big ++ b := by
    rw [Cm.callPdu, List.append_assoc]
    exact List.drop_left' (RpcHeader.length_write _)
  have hread := NdrRequest.parse_write (NdrRequest.forBlocks rpcArgsMax (UInt32.ofNat b.length))
    .big b [] rfl rfl hb.count
  rwa [List.append_nil, ← hdrop] at hread

lemma wellFormed_call (cm : Cm) (object : Uuid) (k : UInt32) (hb : Carried b) :
    WellFormed (cm.callPdu object k b) := by
  have hparse := parse_callPdu cm object k b
  have hread := ndr_call cm object k hb
  have hlen : (cm.callPdu object k b).length = 80 + (20 + b.length) := by
    rw [Cm.callPdu, List.append_assoc, List.length_append, List.length_append,
      RpcHeader.length_write, NdrRequest.length_write]
  refine ⟨_, b, hparse, by omega, ?_, .request rfl hread ?_, hb.splits⟩
  · rw [hlen, Nat.add_sub_cancel_left]
    exact hb.fragLen
  · rw [List.length_drop, hlen, Nat.add_sub_cancel_left]
    rfl

end Pdu

/-! ### The ApplicationReady call -/

open Reader BlockReader in
/-- A control block is read back. -/
lemma ControlBlock.parse_write {ε : Type} {c : ControlBlock} {b : Bytes}
    (ht : ControlBlock.isControlType c.blockType) (h : (c.write : Res ε _) = .ok b) :
    ControlBlock.parse b = .ok c := by
  obtain ⟨w, hw, h⟩ := Res.bind_eq_ok.1 h
  simp only [List.append_assoc] at h
  cases h
  have hlen : (be16 0 ++ (c.arUuid.write .big ++ (be16 c.sessionKey ++
      (be16 0 ++ (be16 c.command ++ be16 c.properties))))).length = ControlBlock.bodyLen := by
    simp [ControlBlock.bodyLen]
  have hblock := BlockHeader.parse_write hw hlen []
  rw [List.append_nil] at hblock
  unfold ControlBlock.parse
  rw [hblock, Res.mapErr_ok, Res.ok_bind]
  dsimp only
  rw [Res.reject_of_not (not_not.2 ht), Res.ok_bind, Res.reject_of_not (not_not.2 hlen),
    Res.ok_bind]
  refine congrArg (Res.mapErr CmError.block) (Reads.runOn ?_)
  refine (reads_u16 _).bind ((reads_uuid _).bind ((reads_u16 _).bind ((reads_u16 _).bind ?_)))
  exact (reads_u16 _).bind (reads_u16 _).map

/-- The PDU is an ApplicationReady call: a control request to the controller's interface that names
its object, whose block names the AR, its session and the command. -/
def ReadsReady (pdu : Bytes) (object activity : Uuid) (k : UInt32) (arUuid : Uuid)
    (sessionKey : UInt16) : Prop :=
  ∃ h n blocks, RpcHeader.parse pdu = .ok h ∧ h.ptype = .request ∧ h.object = object ∧
    h.interface = pnioControllerInterface ∧ h.activity = activity ∧ h.seqNum = k ∧ h.opnum = 4 ∧
    NdrRequest.parse (pdu.drop 80) h.drep = .ok (n, blocks) ∧
    ControlBlock.parse blocks = .ok
      { blockType := 0x0112, arUuid, sessionKey, command := 0x0002, properties := 0 }

lemma readsReady_callPdu {ε : Type} (cm : Cm) (object : Uuid) (k : UInt32) {arUuid : Uuid}
    {sessionKey : UInt16} {call : Bytes}
    (h : ((appReadyReq arUuid sessionKey).write : Res ε _) = .ok call) :
    ReadsReady (cm.callPdu object k call) object cm.activitySeed k arUuid sessionKey :=
  ⟨_, _, call, parse_callPdu cm object k call, rfl, rfl, rfl, rfl, rfl, rfl,
    ndr_call cm object k (carried_control h), ControlBlock.parse_write (by rfl) h⟩

/-- The header of the response is that of the request it answers. -/
def EchoesRequest (req h : RpcHeader) : Prop :=
  h.object = req.object ∧ h.activity = req.activity ∧ h.seqNum = req.seqNum ∧ h.opnum = req.opnum

section Emitted

variable {rc : Option RespondCtx} {pdu : Bytes}

lemma Emitted.wellFormed (h : Emitted rc pdu) : WellFormed pdu := by
  cases h with
  | response s hc hb => exact wellFormed_response _ s hb
  | call cm object k hb => exact wellFormed_call cm object k hb

/-- A response answers the request. -/
lemma Emitted.echoes {req h : RpcHeader} {n : NdrRequest} {src : SocketAddr}
    (he : Emitted (some (req.respondCtx n src)) pdu) (hp : RpcHeader.parse pdu = .ok h)
    (ht : h.ptype = .response) : EchoesRequest req h := by
  cases he with
  | response s hc hb =>
    cases hc
    cases (parse_buildResponsePdu _ _ _).symm.trans hp
    exact ⟨rfl, rfl, rfl, rfl⟩
  | call cm object k hb =>
    cases (parse_callPdu _ _ _ _).symm.trans hp
    cases ht

/-- Without a request there is no response. -/
lemma Emitted.not_response {h : RpcHeader} (he : Emitted none pdu)
    (hp : RpcHeader.parse pdu = .ok h) : h.ptype ≠ .response := by
  cases he with
  | response s hc hb => cases hc
  | call cm object k hb =>
    cases (parse_callPdu _ _ _ _).symm.trans hp
    exact fun ht => by cases ht

end Emitted

/-! ### The manager -/

namespace Cm

variable {ε : Type} {cm cm' : Cm} {acts : List Action} {rc : Option RespondCtx} {isNew : Bool}
  {out : CmOutput} {opnum : UInt16} {blocks buf : Bytes} {src : SocketAddr} {now : Instant}

/-- Everything the manager may send again can be sent. -/
structure Tidy (cm : Cm) : Prop where
  ar : cm.ar.Tidy
  cache : ∀ e ∈ cm.cache, WellFormed e.2

lemma Tidy.withAr {ar : Ar} (h : cm.Tidy) (har : ar.Tidy) : Tidy { cm with ar } := ⟨har, h.cache⟩

/-- What is sent in answer to `rc` is kept for a replay and nothing else. -/
lemma apply_emitted (hc : ∀ a ∈ acts, a.Carries) (ht : cm.Tidy)
    (h : (cm.apply acts rc isNew : Res ε _) = .ok (cm', out)) :
    cm'.Tidy ∧ ∀ o ∈ out.send, Emitted rc o.bytes := by
  refine Res.foldlM_inv_mem (I := fun s : Cm × CmOutput => s.1.Tidy ∧
    ∀ o ∈ s.2.send, Emitted rc o.bytes) ?_ ⟨ht, fun o ho => (by cases ho)⟩ h
  rintro ⟨cm1, out1⟩ act hact ⟨cm2, out2⟩ ⟨ht1, hout1⟩ hone
  have hcarries := hc act hact
  cases applyOne_applied hone with
  | dropped | notified => exact ⟨ht1, hout1⟩
  | @answered s b ctx hrc =>
    refine ⟨⟨ht1.ar, fun e he => ?_⟩, fun o ho => ?_⟩
    · rcases List.mem_append.1 he with he | he
      · refine ht1.cache e ?_
        split_ifs at he
        · exact List.mem_of_mem_tail he
        · exact he
      · rw [List.mem_singleton.1 he]
        exact wellFormed_response ctx s hcarries
    · rcases List.mem_append.1 ho with ho | ho
      · exact hout1 o ho
      · rw [List.mem_singleton.1 ho]
        exact .response s hrc hcarries
  | called | again =>
    refine ⟨⟨ht1.ar, ht1.cache⟩, fun o ho => ?_⟩
    rcases List.mem_append.1 ho with ho | ho
    · exact hout1 o ho
    · rw [List.mem_singleton.1 ho]
      exact .call cm1 _ _ hcarries

lemma serveRead_carries {checkAr : Bool}
    (h : (cm.serveRead blocks checkAr : Res ε _) = .ok (cm', acts)) :
    ∀ a ∈ acts, a.Carries := by
  obtain ⟨r, -, h⟩ := Res.bind_eq_ok.1 h
  cases r with
  | error e =>
    cases h
    simp [carries_refuse]
  | ok req =>
    obtain ⟨acts', hread, h⟩ := Res.bind_eq_ok.1 h
    cases h
    unfold handleRead at hread
    dsimp only at hread
    split_ifs at hread
    · cases hread
      simp [carries_refuse]
    · obtain ⟨data, hdata, hread⟩ := Res.bind_eq_ok.1 hread
      cases data with
      | none =>
        cases hread
        simp [carries_refuse]
      | some data =>
        obtain ⟨b, hb, hread⟩ := Res.bind_eq_ok.1 hread
        cases hread
        obtain ⟨hs, hl⟩ := splits_readRecord hdata
        simp [Action.Carries, carried_readRes hs hl hb]

/-- **A request served**: the actions carry blocks that can be sent. -/
lemma serve_tidy (ht : cm.Tidy) (h : (cm.serve opnum blocks src now : Res ε _) = .ok (cm', acts)) :
    cm'.Tidy ∧ ∀ a ∈ acts, a.Carries := by
  cases serve_served h with
  | refused hz => exact ⟨ht, by simp [carries_refuse]⟩
  | read ho =>
    refine ⟨ht, ?_⟩
    rcases ho with ho | ho
    · rw [serve, ho] at h
      exact serveRead_carries h
    · rw [serve, ho] at h
      exact serveRead_carries h
  | @connect req ar acts ho hp htr =>
    obtain ⟨har, hacts⟩ := htr.tidy ht.ar
    refine ⟨?_, hacts⟩
    unfold afterConnect
    split_ifs
    · exact ⟨har, ht.cache⟩
    · exact ⟨har, ht.cache⟩
  | write ho hp htr him =>
    obtain ⟨har, hacts⟩ := htr.tidy ht.ar
    exact ⟨⟨har, ht.cache⟩, hacts⟩
  | prmEnd ho hp hc htr =>
    obtain ⟨har, hacts⟩ := htr.tidy ht.ar
    exact ⟨ht.withAr har, hacts⟩
  | release ho hp htr =>
    obtain ⟨har, hacts⟩ := htr.tidy ht.ar
    exact ⟨ht.withAr har, hacts⟩

/-- A datagram: what it makes the manager send is replayed, or is emitted for this request. -/
lemma handleDatagram_emitted (ht : cm.Tidy) (h : cm.handleDatagram buf src now = .ok (cm', out)) :
    cm'.Tidy ∧ ∀ o ∈ out.send, WellFormed o.bytes ∧
      ∀ req hd, RpcHeader.parse buf = .ok req → cm.cacheLookup req.key = none →
        RpcHeader.parse o.bytes = .ok hd → hd.ptype = .response → EchoesRequest req hd := by
  cases handleDatagram_handled h with
  | response hh hp hn hon ha =>
    obtain ⟨har, hacts⟩ := hon.tidy ht.ar
    obtain ⟨ht', hout⟩ := apply_emitted hacts (ht.withAr har) ha
    refine ⟨ht', fun o ho => ⟨(hout o ho).wellFormed, ?_⟩⟩
    intro req hd hreq hnone hparse hresp
    exact absurd hresp ((hout o ho).not_response hparse)
  | other hh hp hp' => exact ⟨ht, fun o ho => (by cases ho)⟩
  | @cached hdr bytes hh hp hl =>
    refine ⟨ht, fun o ho => ?_⟩
    rw [List.mem_singleton.1 ho]
    refine ⟨ht.cache _ (cacheLookup_mem hl), ?_⟩
    intro req hd hreq hnone
    cases hh.symm.trans hreq
    exact absurd (hl.symm.trans hnone) (by simp)
  | @fresh hdr n blocks cm1 _ acts ctx _ hh hp hl hn hs hctx ha =>
    have hi := handleDatagram_interface hh hp h
    rw [handleDatagram_asked ⟨hh, hp, hi, hn⟩ hl] at h
    obtain ⟨⟨cm2, acts2⟩, hserve, happly⟩ := Res.bind_eq_ok.1 h
    obtain ⟨ht2, hacts⟩ := serve_tidy ht hserve
    obtain ⟨ht', hout⟩ := apply_emitted hacts ht2 happly
    refine ⟨ht', fun o ho => ⟨(hout o ho).wellFormed, ?_⟩⟩
    intro req hd hreq hnone hparse hresp
    cases hh.symm.trans hreq
    exact (hout o ho).echoes hparse hresp

/-- A tick or an abort. -/
lemma event_emitted {ar : Ar} {ev : Event} (ht : cm.Tidy)
    (hon : (cm.ar.on ev now : Res ε _) = .ok (ar, acts))
    (h : (apply { cm with ar } acts none false : Res ε _) = .ok (cm', out)) :
    cm'.Tidy ∧ ∀ o ∈ out.send, Emitted none o.bytes := by
  obtain ⟨har, hacts⟩ := (Ar.on_trans hon).tidy ht.ar
  exact apply_emitted hacts (ht.withAr har) h

end Cm

/-! ### All runs -/

/-- A manager in use: datagrams, ticks and aborts in any order, and the identity and the store set
at any time. -/
def managerSystem (model : DeviceModel) (seed : Uuid) : System Cm (CmInput ⊕ (Im0 × ImStore)) where
  init cm := cm = Cm.new model seed
  step cm
    | .inl i => (cm.step i).map Prod.fst
    | .inr (im0, im) => some { cm with im0, im }

lemma Cm.step_tidy {cm cm' : Cm} {i : CmInput} {out : CmOutput} (ht : cm.Tidy)
    (h : cm.step i = some (cm', out)) : cm'.Tidy := by
  cases i with
  | datagram buf src now =>
    rcases settle_cases h with hok | ⟨-, rfl, rfl⟩
    · exact (handleDatagram_emitted ht hok).1
    · exact ht
  | tick now =>
    rcases settle_cases h with hok | ⟨-, rfl, rfl⟩
    · obtain ⟨⟨ar, acts⟩, hon, ha⟩ := Res.bind_eq_ok.1 hok
      exact (event_emitted ht hon ha).1
    · exact ht
  | abort reason now =>
    rcases settle_cases h with hok | ⟨-, rfl, rfl⟩
    · obtain ⟨⟨ar, acts⟩, hon, ha⟩ := Res.bind_eq_ok.1 hok
      exact (event_emitted ht hon ha).1
    · exact ht

lemma tidy_reach {model : DeviceModel} {seed : Uuid} {cm : Cm}
    (hname : model.stationName.bytes.length ≤ 240) (hr : (managerSystem model seed).Reach cm) :
    cm.Tidy := by
  refine hr.inv (I := Cm.Tidy) ?_ ?_
  · rintro cm rfl
    exact ⟨⟨hname, fun c hc => (by cases hc)⟩, fun e he => (by cases he)⟩
  · rintro cm (i | ⟨im0, im⟩) cm' ht hs
    · obtain ⟨⟨cm1, out⟩, hstep, rfl⟩ := Option.map_eq_some_iff.1 hs
      exact Cm.step_tidy ht hstep
    · cases hs
      exact ⟨ht.ar, ht.cache⟩

/-- **Every PDU on the wire is well formed**, and every response that is not a replay echoes the
request it answers. -/
theorem emitted_wellFormed (model : DeviceModel) (seed : Uuid)
    (hname : model.stationName.bytes.length ≤ 240) (cm : Cm)
    (hr : (managerSystem model seed).Reach cm) :
    (∀ buf src now cm' out, cm.handleDatagram buf src now = .ok (cm', out) → ∀ o ∈ out.send,
      WellFormed o.bytes ∧
      ∀ req h, RpcHeader.parse buf = .ok req → cm.cacheLookup req.key = none →
        RpcHeader.parse o.bytes = .ok h → h.ptype = .response → EchoesRequest req h) ∧
    ∀ now cm' out, (cm.tick now : Res RpcError _) = .ok (cm', out) → ∀ o ∈ out.send,
      WellFormed o.bytes ∧ ∀ h, RpcHeader.parse o.bytes = .ok h → h.ptype ≠ .response := by
  have ht := tidy_reach hname hr
  constructor
  · intro buf src now cm' out h
    exact (Cm.handleDatagram_emitted ht h).2
  · intro now cm' out h o ho
    obtain ⟨⟨ar, acts⟩, hon, ha⟩ := Res.bind_eq_ok.1 h
    have hem := (Cm.event_emitted ht hon ha).2 o ho
    exact ⟨hem.wellFormed, fun hd hp => hem.not_response hp⟩

/-- `buf` makes the manager send two PDUs. -/
def sendsTwo (buf : Bytes) (cm : Cm) : Bool :=
  match cm.handleDatagram buf Demo.plc 0 with
  | .ok (_, out) => out.send.length = 2
  | _ => false

/-- The response to a PrmEnd and the call that goes with it. -/
theorem emitted_wellFormed_prmEnd :
    ∃ cm cm' out, (managerSystem Demo.model Demo.seed).Reach cm ∧
      cm.handleDatagram (Demo.prmEnd 1 1) Demo.plc 0 = .ok (cm', out) ∧ out.send.length = 2 ∧
      ∀ o ∈ out.send, WellFormed o.bytes := by
  have hrun : ((managerSystem Demo.model Demo.seed).run (Cm.new Demo.model Demo.seed)
      [.inl (Demo.recv (Demo.connect 0 1))]).any (sendsTwo (Demo.prmEnd 1 1)) = true := by
    decide +kernel
  obtain ⟨cm, hr, htwo⟩ := System.exists_reach_of_run rfl hrun
  unfold sendsTwo at htwo
  split at htwo
  · rename_i cm' out hd
    refine ⟨cm, cm', out, hr, hd, of_decide_eq_true htwo, fun o ho => ?_⟩
    exact ((emitted_wellFormed Demo.model Demo.seed (by decide) cm hr).1 _ _ _ _ _ hd o ho).1
  · cases htwo

end Pnio
