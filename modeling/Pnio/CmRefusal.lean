import Pnio.CmTotal

/-!
A request that is refused changes nothing, and requests that name another AR are refused.
-/

namespace Pnio

/-- The status of a Response PDU. -/
def answerStatus (b : Bytes) : Option UInt32 :=
  match RpcHeader.parse b with
  | .ok h =>
    if h.ptype = .response then
      match NdrResponse.parse (b.drop 80) h.drep with
      | .ok (n, _) => some n.status
      | _ => none
    else none
  | _ => none

/-- The output answers the request with a status other than OK. -/
def CmOutput.Refuses (out : CmOutput) : Prop :=
  ∃ o ∈ out.send, ∃ s ∈ answerStatus o.bytes, s ≠ 0

/-- Everything but the cache of responses stays as it is. -/
structure Cm.Untouched (cm cm' : Cm) : Prop where
  ar : cm'.ar = cm.ar
  controllerAddr : cm'.controllerAddr = cm.controllerAddr
  callSeq : cm'.callSeq = cm.callSeq
  currentCallSeq : cm'.currentCallSeq = cm.currentCallSeq
  im : cm'.im = cm.im

/-- The request names another AR than the established one; a Connect also comes from another
initiator. -/
inductive Foreign (p : ArParams) (opnum : UInt16) (blocks : Bytes) : Prop
  | connect {req : ConnectReq} (ho : Opnum.fromU16 opnum = some .connect)
      (hp : ConnectReq.parse blocks = .ok req) (hu : req.ar.arUuid ≠ p.arUuid)
      (hi : req.ar.initiatorObjectUuid ≠ p.initiatorObjectUuid)
  | prmEnd {cb : ControlBlock} (ho : Opnum.fromU16 opnum = some .control)
      (hp : ControlBlock.parse blocks = .ok cb) (hcmd : cb.command = ControlCmd.prmEnd)
      (hu : cb.arUuid ≠ p.arUuid)
  | release {cb : ControlBlock} (ho : Opnum.fromU16 opnum = some .release)
      (hp : ControlBlock.parse blocks = .ok cb) (hu : cb.arUuid ≠ p.arUuid)
  | read {req : ReadReq} (ho : Opnum.fromU16 opnum = some .read)
      (hp : ReadReq.parse blocks = .ok req) (hu : req.arUuid ≠ p.arUuid)
  | write {req : WriteReq} (ho : Opnum.fromU16 opnum = some .write)
      (hp : WriteReq.parse blocks = .ok req) (hu : ∃ r ∈ req.records, r.arUuid ≠ p.arUuid)

/-- The datagram is a Connect that replaces the AR: the same AR with another session, or the same
initiator. -/
def Cm.TakesOver (cm : Cm) (buf : Bytes) : Prop :=
  ∃ h n blocks req c, Asked buf h n blocks ∧ Opnum.fromU16 h.opnum = some .connect ∧
    ConnectReq.parse blocks = .ok req ∧ cm.ar.ctx = some c ∧
    (req.ar.arUuid = c.params.arUuid ∧ req.ar.sessionKey ≠ c.params.sessionKey ∨
      req.ar.initiatorObjectUuid = c.params.initiatorObjectUuid)

/-! ### Statuses -/

/-- The status is read back, whatever follows it. -/
lemma NdrResponse.status_of_parse {n m : NdrResponse} {drep : Drep} {rest blocks : Bytes}
    (h : NdrResponse.parse (n.write drep ++ rest) drep = .ok (m, blocks)) :
    m.status = n.status := by
  unfold parse at h
  obtain ⟨_, -, h⟩ := Res.bind_eq_ok.1 h
  simp (disch := simp) only [write, List.append_assoc, slice_append_left, Res.ok_bind,
    Drep.u32_putU32] at h
  obtain ⟨_, -, h⟩ := Res.bind_eq_ok.1 h
  obtain ⟨_, -, h⟩ := Res.bind_eq_ok.1 h
  obtain ⟨_, -, h⟩ := Res.bind_eq_ok.1 h
  obtain ⟨_, -, h⟩ := Res.bind_eq_ok.1 h
  obtain ⟨_, -, h⟩ := Res.bind_eq_ok.1 h
  obtain ⟨_, -, h⟩ := Res.bind_eq_ok.1 h
  obtain ⟨_, -, h⟩ := Res.bind_eq_ok.1 h
  obtain ⟨_, -, h⟩ := Res.bind_eq_ok.1 h
  obtain ⟨_, -, h⟩ := Res.bind_eq_ok.1 h
  cases h
  rfl

lemma answerStatus_refusal (ctx : RespondCtx) {s : PnioStatus} (hs : s.val ≠ 0) (b : Bytes) :
    answerStatus (buildResponsePdu ctx s b) = some s.val := by
  obtain ⟨n, hh⟩ := parse_responsePdu ctx s b
  have hn := parse_refusalPdu ctx hs b
  have hd : (responseHeader ctx n).drep = .big := rfl
  unfold answerStatus
  simp only [hh, hd, hn]
  rfl

/-- An answer with status OK is read as one, if it can be read. -/
lemma answerStatus_ok {ctx : RespondCtx} {b : Bytes} {s : UInt32}
    (h : s ∈ answerStatus (buildResponsePdu ctx .ok b)) : s = 0 := by
  obtain ⟨n, hh⟩ := parse_responsePdu ctx .ok b
  have hdrop : (buildResponsePdu ctx .ok b).drop 80 =
      (NdrResponse.ok ctx.argsMax (UInt32.ofNat b.length)).write .big ++ b := by
    simp [buildResponsePdu, PnioStatus.ok]
  have ht : (responseHeader ctx n).ptype = .response := rfl
  have hd : (responseHeader ctx n).drep = .big := rfl
  unfold answerStatus at h
  simp only [hh, hdrop, ht, hd, if_true] at h
  split at h
  · rename_i m bl hm
    obtain rfl := Option.some.inj h
    exact NdrResponse.status_of_parse hm
  · cases h

lemma answerStatus_callPdu (cm : Cm) (object : Uuid) (seq : UInt32) (b : Bytes) :
    answerStatus (cm.callPdu object seq b) = none := by
  simp [answerStatus, parse_callPdu, callHeader]

namespace Cm

variable {cm cm' : Cm} {opnum : UInt16} {blocks : Bytes} {now : Instant} {ctx : RespondCtx}
  {out : CmOutput} {buf : Bytes} {h : RpcHeader} {n : NdrRequest} {src : SocketAddr} {c : ArContext}

lemma Untouched.refl (cm : Cm) : Untouched cm cm := ⟨rfl, rfl, rfl, rfl, rfl⟩

lemma untouched_keep (cm : Cm) (ctx : RespondCtx) (s : PnioStatus) (b : Bytes) :
    Untouched cm (cm.keep ctx s b) :=
  ⟨rfl, rfl, rfl, rfl, rfl⟩

lemma refuses_reply (ctx : RespondCtx) {s : PnioStatus} (hs : s.val ≠ 0)
    (l : List (ArState × Option AbortReason)) : CmOutput.Refuses ⟨[ctx.reply s []], l⟩ :=
  ⟨_, List.mem_singleton.2 rfl, s.val, answerStatus_refusal ctx hs [], hs⟩

/-- An OK answer, on its own or with a call behind it, refuses nothing. -/
lemma not_refuses_ok (ctx : RespondCtx) (b : Bytes) (l : List (ArState × Option AbortReason)) :
    ¬ CmOutput.Refuses ⟨[ctx.reply .ok b], l⟩ := by
  rintro ⟨o, ho, s, hs, hne⟩
  rw [List.mem_singleton.1 ho] at hs
  exact hne (answerStatus_ok hs)

/-- A request that is executed and refused leaves everything but the cache alone, unless it takes
the AR over. -/
lemma Answered.refuses (hr : Answered cm h.opnum blocks now ctx cm' out)
    (ha : Asked buf h n blocks) (hout : out.Refuses) : Untouched cm cm' ∨ cm.TakesOver buf := by
  cases hr with
  | refused hz => exact .inl (untouched_keep ..)
  | told => exact absurd hout (not_refuses_ok _ _ _)
  | connect => exact absurd hout (not_refuses_ok _ _ _)
  | takeover => exact absurd hout (not_refuses_ok _ _ _)
  | takeoverRefused ho hp hs hc hz ht => exact .inr ⟨h, n, blocks, _, _, ha, ho, hp, hc, ht⟩
  | write => exact absurd hout (not_refuses_ok _ _ _)
  | release => exact absurd hout (not_refuses_ok _ _ _)
  | prmEnd =>
    obtain ⟨o, ho, s, hs, hne⟩ := hout
    rcases List.mem_cons.1 ho with rfl | ho
    · exact absurd (answerStatus_ok hs) hne
    · rw [List.mem_singleton.1 ho, answerStatus_callPdu] at hs
      cases hs

lemma handleDatagram_refuses (hok : cm.handleDatagram buf src now = .ok (cm', out))
    (hout : out.Refuses) : Untouched cm cm' ∨ cm.TakesOver buf := by
  cases handleDatagram_stepped hok with
  | silent => exact .inl (Untouched.refl cm)
  | replay hh ht hl => exact .inl (Untouched.refl cm)
  | request ha hl hr => exact hr.refuses ha hout
  | data hs =>
    obtain ⟨o, ho, -⟩ := hout
    cases ho
  | rejected hs =>
    obtain ⟨o, ho, -⟩ := hout
    cases ho

/-! ### Foreign requests -/

section Foreign

variable {ε : Type}

lemma on_foreign_connect {ar : Ar} {req : ConnectReq} (hs : ar.state ≠ .idle)
    (hc : ar.ctx = some c) (hu : req.ar.arUuid ≠ c.params.arUuid)
    (hi : req.ar.initiatorObjectUuid ≠ c.params.initiatorObjectUuid) :
    (ar.on (.connectReq req) now : Res ε _) = .ok (ar, [refuse .connectArAlreadyExists]) := by
  simp only [Ar.on, Ar.handleConnect]
  simp [hc, hu, hi]

lemma on_foreign_write {ar : Ar} {req : WriteReq} (hs : ar.state ≠ .idle) (hc : ar.ctx = some c)
    (hu : ∃ r ∈ req.records, r.arUuid ≠ c.params.arUuid) :
    (ar.on (.writeReq req) now : Res ε _) = .ok (ar, [refuse .writeWrongAr]) := by
  have hany : req.records.any (·.arUuid != c.params.arUuid) = true := by simpa using hu
  simp only [Ar.on, Ar.handleWrite]
  simp only [hc, Res.unwrap_some, Res.ok_bind, hany, if_true]

lemma on_foreign_prmEnd {ar : Ar} {cb : ControlBlock} (hs : ar.state ≠ .idle)
    (hc : ar.ctx = some c) (hu : cb.arUuid ≠ c.params.arUuid) :
    (ar.on (.prmEndReq cb) now : Res ε _) = .ok (ar, [wrongState]) := by
  simp only [Ar.on, Ar.handlePrmEnd]
  split
  · rename_i hidle
    exact absurd hidle hs
  · simp [hc, hu]
  · simp [hc, hu]

lemma on_foreign_release {ar : Ar} {cb : ControlBlock} (hs : ar.state ≠ .idle)
    (hc : ar.ctx = some c) (hu : cb.arUuid ≠ c.params.arUuid) :
    (ar.on (.releaseReq cb) now : Res ε _) = .ok (ar, [wrongState]) := by
  simp [Ar.on, Ar.handleRelease, hs, hc, hu]

/-- A foreign request is served by a refusal; the manager is not touched. -/
lemma serve_foreign (hs : cm.ar.state ≠ .idle) (hc : cm.ar.ctx = some c)
    (hf : Foreign c.params opnum blocks) (src : SocketAddr) (now : Instant) :
    ∃ s : PnioStatus, s.val ≠ 0 ∧
      (cm.serve opnum blocks src now : Res ε _) = .ok (cm, [refuse s]) := by
  unfold serve
  cases hf with
  | @connect req ho hp hu hi =>
    refine ⟨.connectArAlreadyExists, PnioStatus.new_val_ne_zero (by decide), ?_⟩
    rw [ho]
    simp only [serveConnect, hp, Res.attempt_ok, Res.ok_bind, on_foreign_connect hs hc hu hi]
    rfl
  | @prmEnd cb ho hp hcmd hu =>
    refine ⟨.controlWrongState, PnioStatus.new_val_ne_zero (by decide), ?_⟩
    rw [ho]
    simp only [serveControl, hp, Res.attempt_ok, Res.ok_bind, hcmd, if_true,
      on_foreign_prmEnd hs hc hu]
    rfl
  | @release cb ho hp hu =>
    refine ⟨.controlWrongState, PnioStatus.new_val_ne_zero (by decide), ?_⟩
    rw [ho]
    simp only [serveRelease, hp, Res.attempt_ok, Res.ok_bind, on_foreign_release hs hc hu]
    rfl
  | @read req ho hp hu =>
    refine ⟨.readWrongAr, PnioStatus.new_val_ne_zero (by decide), ?_⟩
    have hno : cm.ar.ctx.any (·.params.arUuid == req.arUuid) = false := by
      simp [hc, Ne.symm hu]
    rw [ho]
    simp only [serveRead, hp, Res.attempt_ok, Res.ok_bind, handleRead, hno]
    rfl
  | @write req ho hp hu =>
    have hz : PnioStatus.writeWrongAr.val ≠ 0 := PnioStatus.new_val_ne_zero (by decide)
    refine ⟨.writeWrongAr, hz, ?_⟩
    have hno : [refuse .writeWrongAr].any isRespondOk = false := by
      simpa [refuse, isRespondOk] using hz
    rw [ho]
    simp only [serveWrite, hp, Res.attempt_ok, Res.ok_bind, on_foreign_write hs hc hu, hno]
    rfl

end Foreign

lemma handleDatagram_foreign (hs : cm.ar.state ≠ .idle) (hc : cm.ar.ctx = some c)
    (ha : Asked buf h n blocks) (hl : cm.cacheLookup h.key = none)
    (hf : Foreign c.params h.opnum blocks) :
    ∃ s : PnioStatus, s.val ≠ 0 ∧ cm.handleDatagram buf src now =
      .ok (cm.keep (h.respondCtx n src) s [], ⟨[(h.respondCtx n src).reply s []], []⟩) := by
  obtain ⟨s, hz, hserve⟩ := serve_foreign (ε := RpcError) hs hc hf src now
  refine ⟨s, hz, ?_⟩
  rw [handleDatagram_asked ha hl, hserve]
  rfl

end Cm

/-- **Refused requests change nothing.** With an AR established, a request that names another one
is refused, and a refusal of any request leaves the AR, the controller's address, the call numbers
and the I&M records as they are, unless it is a Connect that takes the AR over. -/
theorem refused_untouched {model : DeviceModel} {seed : Uuid} {h : CmHist}
    (hr : (histSystem model seed).Reach h) (buf : Bytes) (src : SocketAddr) (now : Instant) :
    (∀ hd n blocks c, Asked buf hd n blocks → h.cm.cacheLookup hd.key = none →
      h.cm.ar.ctx = some c → Foreign c.params hd.opnum blocks →
      ∃ cm' out, h.cm.handleDatagram buf src now = .ok (cm', out) ∧ out.Refuses ∧
        h.cm.Untouched cm') ∧
    ∀ cm' out, h.cm.handleDatagram buf src now = .ok (cm', out) → out.Refuses →
      h.cm.Untouched cm' ∨ h.cm.TakesOver buf := by
  constructor
  · intro hd n blocks c ha hl hc hf
    have hs : h.cm.ar.state ≠ .idle := (joint_reach hr).ctx.2 (by simp [hc])
    obtain ⟨s, hz, hok⟩ := Cm.handleDatagram_foreign hs hc ha hl hf
    exact ⟨_, _, hok, Cm.refuses_reply _ hz [], Cm.untouched_keep ..⟩
  · exact fun cm' out hok hout => Cm.handleDatagram_refuses hok hout

namespace Demo

/-- A PrmEnd for an AR that the device does not have. -/
def foreignBlocks : Bytes :=
  controlBlocks Ty.iodControlReqPrmEnd ControlCmd.prmEnd (uuid 7) 1

def histStart : CmHist := ⟨Cm.new model seed, []⟩

lemma histStart_init : (histSystem model seed).init histStart := ⟨im0Default, ImStore.new, rfl⟩

end Demo

open Demo

/-- The PrmEnd for another AR, after a Connect. -/
theorem foreign_prmEnd_refused :
    ∃ h cm' out, (histSystem Demo.model Demo.seed).Reach h ∧ h.cm.ar.state = .connected ∧
      h.cm.handleDatagram (request 1 .control foreignBlocks) plc 0 = .ok (cm', out) ∧
      out.Refuses ∧ h.cm.Untouched cm' := by
  have hrun : ((histSystem Demo.model Demo.seed).run histStart [recv (connect 0 1)]).any
      (fun h => h.cm.ar.state = .connected && h.cm.cacheLookup (uuid 5, 1) = none &&
        h.cm.ar.ctx.map (·.params.arUuid) = some (uuid 3)) = true := by decide +kernel
  obtain ⟨h, hr, hp⟩ := System.exists_reach_of_run histStart_init hrun
  simp only [Bool.and_eq_true, decide_eq_true_eq] at hp
  obtain ⟨⟨hs, hl⟩, hu⟩ := hp
  obtain ⟨c, hc, hcu⟩ := Option.map_eq_some_iff.1 hu
  have ha : Asked (request 1 .control foreignBlocks)
      { callHeader (uuid 1) (uuid 5) 1 foreignBlocks.length with
        interface := pnioDeviceInterface, opnum := Opnum.control.toU16 }
      (NdrRequest.forBlocks 1340 (UInt32.ofNat foreignBlocks.length)) foreignBlocks :=
    ⟨by decide +kernel, rfl, rfl, by decide +kernel⟩
  have hparse : ControlBlock.parse foreignBlocks =
      .ok ⟨Ty.iodControlReqPrmEnd, uuid 7, 1, ControlCmd.prmEnd, 0⟩ := by decide +kernel
  have hne : uuid 7 ≠ c.params.arUuid := by
    rw [hcu]
    decide
  obtain ⟨cm', out, hok, hout, hun⟩ := (refused_untouched hr _ plc 0).1 _ _ _ c ha hl hc
    (.prmEnd rfl hparse rfl hne)
  exact ⟨h, cm', out, hr, hs, hok, hout, hun⟩

end Pnio
