import Pnio.Cm

/-!
What one call of the context manager can do: `Served` for the request a datagram carries,
`Effect` for the AR, the calls and the notifications of the whole call.
-/

namespace Pnio

/-! ### PDUs read back -/

/-- The blocks that go out: none with an error. -/
def PnioStatus.sends (s : PnioStatus) (b : Bytes) : Bytes := if s.val = 0 then b else []

lemma parse_buildResponsePdu (ctx : RespondCtx) (s : PnioStatus) (b : Bytes) :
    RpcHeader.parse (buildResponsePdu ctx s b) = .ok (responseHeader ctx (s.sends b).length) := by
  unfold buildResponsePdu
  rw [List.append_assoc]
  exact RpcHeader.parse_write _ _ rfl
    (show (flag1Idempotent ||| flag1NoFack) &&& flag1Frag = 0 by decide)

lemma parse_responsePdu (ctx : RespondCtx) (s : PnioStatus) (b : Bytes) :
    ∃ n, RpcHeader.parse (buildResponsePdu ctx s b) = .ok (responseHeader ctx n) :=
  ⟨_, parse_buildResponsePdu ctx s b⟩

/-- The NDR part of a refusal carries exactly the refusal's status. -/
lemma parse_refusalPdu (ctx : RespondCtx) {s : PnioStatus} (hs : s.val ≠ 0) (b : Bytes) :
    NdrResponse.parse ((buildResponsePdu ctx s b).drop 80) .big =
      .ok (NdrResponse.error s.val ctx.argsMax, []) := by
  have hd : (buildResponsePdu ctx s b).drop 80 =
      (NdrResponse.error s.val ctx.argsMax).write .big ++ ([] ++ []) := by
    simp [buildResponsePdu, hs]
  rw [hd]
  exact NdrResponse.parse_write _ _ [] [] rfl rfl rfl

/-- The header of a PDU that calls the controller. -/
def callOf (b : Bytes) : Option RpcHeader :=
  match RpcHeader.parse b with
  | .ok h => if h.ptype = .request then some h else none
  | _ => none

@[simp] lemma callOf_responsePdu (ctx : RespondCtx) (s : PnioStatus) (b : Bytes) :
    callOf (buildResponsePdu ctx s b) = none := by
  obtain ⟨n, h⟩ := parse_responsePdu ctx s b
  simp [callOf, h, responseHeader]

lemma parse_callPdu (cm : Cm) (object : Uuid) (seq : UInt32) (b : Bytes) :
    RpcHeader.parse (cm.callPdu object seq b) =
      .ok (callHeader object cm.activitySeed seq b.length) := by
  unfold Cm.callPdu
  rw [List.append_assoc]
  exact RpcHeader.parse_write _ _ rfl (show flag1Idempotent &&& flag1Frag = 0 by decide)

@[simp] lemma callOf_callPdu (cm : Cm) (object : Uuid) (seq : UInt32) (b : Bytes) :
    callOf (cm.callPdu object seq b) =
      some (callHeader object cm.activitySeed seq b.length) := by
  simp [callOf, parse_callPdu, callHeader]

/-- The calls among the datagrams to send. -/
def CmOutput.calls (out : CmOutput) : List RpcHeader := out.send.filterMap fun o => callOf o.bytes

/-! ### Requests -/

lemma ControlBlock.parse_raises (blocks : Bytes) :
    Res.Raises (∃ b, · = .block b) (ControlBlock.parse blocks) := by
  unfold ControlBlock.parse
  refine Res.raises_bind (Res.raises_mapErr fun e => ⟨e, rfl⟩) fun hb => ?_
  refine Res.raises_bind (Res.raises_reject ⟨_, rfl⟩) fun _ => ?_
  exact Res.raises_bind (Res.raises_reject ⟨_, rfl⟩) fun _ => Res.raises_mapErr fun e => ⟨e, rfl⟩

lemma ReadReq.parse_raises (blocks : Bytes) :
    Res.Raises (∃ b, · = .block b) (ReadReq.parse blocks) := by
  unfold ReadReq.parse
  refine Res.raises_bind (Res.raises_mapErr fun e => ⟨e, rfl⟩) fun hb => ?_
  exact Res.raises_bind (Res.raises_reject ⟨_, rfl⟩) fun _ => Res.raises_mapErr fun e => ⟨e, rfl⟩

lemma WriteReq.parse_raises (blocks : Bytes) :
    Res.Raises (∃ b, · = .block b) (WriteReq.parse blocks) := by
  unfold WriteReq.parse
  refine Res.raises_bind (Res.raises_mapErr fun e => ⟨e, rfl⟩) fun r => ?_
  dsimp only
  split_ifs
  · exact Res.raises_bind (Res.raises_mapErr fun e => ⟨e, rfl⟩) fun _ => Res.raises_ok _
  · exact Res.raises_ok _

namespace Cm

variable {ε : Type} {cm cm' : Cm} {opnum : UInt16} {blocks : Bytes} {src : SocketAddr}
  {now : Instant} {acts : List Action}

/-- **Requests served**: the manager and the actions after the request in `blocks`. -/
inductive Served (ε : Type) (cm : Cm) (opnum : UInt16) (blocks : Bytes) (src : SocketAddr)
    (now : Instant) : Cm → List Action → Prop
  | refused {s : PnioStatus} (hz : s.val ≠ 0) : Served ε cm opnum blocks src now cm [refuse s]
  | read {b : Bytes} (ho : Opnum.fromU16 opnum = some .read ∨
        Opnum.fromU16 opnum = some .readImplicit) :
      Served ε cm opnum blocks src now cm [.respond .ok b]
  | connect {req : ConnectReq} {ar : Ar} {acts : List Action}
      (ho : Opnum.fromU16 opnum = some .connect) (hp : ConnectReq.parse blocks = .ok req)
      (ht : Ar.Trans ε now cm.ar (.connectReq req) ar acts) :
      Served ε cm opnum blocks src now (cm.afterConnect ar acts src) acts
  | write {req : WriteReq} {ar : Ar} {im : ImStore} {acts : List Action}
      (ho : Opnum.fromU16 opnum = some .write) (hp : WriteReq.parse blocks = .ok req)
      (ht : Ar.Trans ε now cm.ar (.writeReq req) ar acts)
      (him : ¬ acts.any isRespondOk → im = cm.im) :
      Served ε cm opnum blocks src now { cm with ar, im } acts
  | prmEnd {cb : ControlBlock} {ar : Ar} {acts : List Action}
      (ho : Opnum.fromU16 opnum = some .control) (hp : ControlBlock.parse blocks = .ok cb)
      (hc : cb.command = ControlCmd.prmEnd) (ht : Ar.Trans ε now cm.ar (.prmEndReq cb) ar acts) :
      Served ε cm opnum blocks src now { cm with ar } acts
  | release {cb : ControlBlock} {ar : Ar} {acts : List Action}
      (ho : Opnum.fromU16 opnum = some .release) (hp : ControlBlock.parse blocks = .ok cb)
      (ht : Ar.Trans ε now cm.ar (.releaseReq cb) ar acts) :
      Served ε cm opnum blocks src now { cm with ar } acts

lemma serveConnect_served (ho : Opnum.fromU16 opnum = some .connect)
    (h : (cm.serveConnect blocks src now : Res ε _) = .ok (cm', acts)) :
    Served ε cm opnum blocks src now cm' acts := by
  simp only [serveConnect, Res.bind_eq_ok, Res.attempt_eq_ok] at h
  obtain ⟨r, ⟨req, hp, rfl⟩ | ⟨e, hp, rfl⟩, h⟩ := h
  · simp only [Res.bind_eq_ok, Res.ok.injEq, Prod.exists, Prod.mk.injEq] at h
    obtain ⟨ar, acts, ht, rfl, rfl⟩ := h
    exact .connect ho hp (Ar.on_trans ht)
  · cases h
    refine .refused ?_
    cases e with
    | reject s => exact ConnectReq.parse_raises blocks _ hp s rfl
    | block b => exact PnioStatus.connectReject_val_ne_zero _ _

lemma serveWrite_served (ho : Opnum.fromU16 opnum = some .write)
    (h : (cm.serveWrite blocks now : Res ε _) = .ok (cm', acts)) :
    Served ε cm opnum blocks src now cm' acts := by
  simp only [serveWrite, Res.bind_eq_ok, Res.attempt_eq_ok] at h
  obtain ⟨r, ⟨req, hp, rfl⟩ | ⟨e, hp, rfl⟩, h⟩ := h
  · simp only [Res.bind_eq_ok, Prod.exists] at h
    obtain ⟨ar, acts, ht, h⟩ := h
    split_ifs at h with hok
    · simp only [Res.bind_eq_ok, Res.ok.injEq, Prod.mk.injEq] at h
      obtain ⟨im, -, rfl, rfl⟩ := h
      exact .write ho hp (Ar.on_trans ht) fun hno => absurd hok hno
    · cases h
      exact .write ho hp (Ar.on_trans ht) fun _ => rfl
  · cases h
    obtain ⟨b, rfl⟩ := WriteReq.parse_raises blocks e hp
    exact .refused (PnioStatus.new_val_ne_zero (by decide))

lemma serveControl_served (ho : Opnum.fromU16 opnum = some .control)
    (h : (cm.serveControl blocks now : Res ε _) = .ok (cm', acts)) :
    Served ε cm opnum blocks src now cm' acts := by
  simp only [serveControl, Res.bind_eq_ok, Res.attempt_eq_ok] at h
  obtain ⟨r, ⟨cb, hp, rfl⟩ | ⟨e, hp, rfl⟩, h⟩ := h
  · simp only at h
    split_ifs at h with hc
    · simp only [Res.bind_eq_ok, Res.ok.injEq, Prod.exists, Prod.mk.injEq] at h
      obtain ⟨ar, acts, ht, rfl, rfl⟩ := h
      exact .prmEnd ho hp hc (Ar.on_trans ht)
    · cases h
      exact .refused (PnioStatus.new_val_ne_zero (by decide))
  · cases h
    obtain ⟨b, rfl⟩ := ControlBlock.parse_raises blocks e hp
    exact .refused (PnioStatus.new_val_ne_zero (by decide))

lemma serveRelease_served (ho : Opnum.fromU16 opnum = some .release)
    (h : (cm.serveRelease blocks now : Res ε _) = .ok (cm', acts)) :
    Served ε cm opnum blocks src now cm' acts := by
  simp only [serveRelease, Res.bind_eq_ok, Res.attempt_eq_ok] at h
  obtain ⟨r, ⟨cb, hp, rfl⟩ | ⟨e, hp, rfl⟩, h⟩ := h
  · simp only [Res.bind_eq_ok, Res.ok.injEq, Prod.exists, Prod.mk.injEq] at h
    obtain ⟨ar, acts, ht, rfl, rfl⟩ := h
    exact .release ho hp (Ar.on_trans ht)
  · cases h
    obtain ⟨b, rfl⟩ := ControlBlock.parse_raises blocks e hp
    exact .refused (PnioStatus.new_val_ne_zero (by decide))

lemma serveRead_served {checkAr : Bool} (ho : Opnum.fromU16 opnum = some .read ∨
      Opnum.fromU16 opnum = some .readImplicit)
    (h : (cm.serveRead blocks checkAr : Res ε _) = .ok (cm', acts)) :
    Served ε cm opnum blocks src now cm' acts := by
  simp only [serveRead, Res.bind_eq_ok, Res.attempt_eq_ok] at h
  obtain ⟨r, ⟨req, hp, rfl⟩ | ⟨e, hp, rfl⟩, h⟩ := h
  · simp only [Res.bind_eq_ok, Res.ok.injEq, Prod.mk.injEq] at h
    obtain ⟨acts, h, rfl, rfl⟩ := h
    simp only [handleRead] at h
    split_ifs at h
    · cases h
      exact .refused (PnioStatus.new_val_ne_zero (by decide))
    · simp only [Res.bind_eq_ok] at h
      obtain ⟨_ | data, -, h⟩ := h
      · cases h
        exact .refused (PnioStatus.new_val_ne_zero (by decide))
      · simp only [Res.bind_eq_ok, Res.ok.injEq] at h
        obtain ⟨b, -, rfl⟩ := h
        exact .read ho
  · cases h
    obtain ⟨b, rfl⟩ := ReadReq.parse_raises blocks e hp
    exact .refused (PnioStatus.new_val_ne_zero (by decide))

theorem serve_served (h : (cm.serve opnum blocks src now : Res ε _) = .ok (cm', acts)) :
    Served ε cm opnum blocks src now cm' acts := by
  unfold serve at h
  split at h
  · rename_i ho; exact serveConnect_served ho h
  · rename_i ho; exact serveWrite_served ho h
  · rename_i ho; exact serveControl_served ho h
  · rename_i ho; exact serveRelease_served ho h
  · rename_i ho; exact serveRead_served (.inl ho) h
  · rename_i ho; exact serveRead_served (.inr ho) h
  · cases h
    exact .refused (PnioStatus.new_val_ne_zero (by decide))

/-! ### The effect of a call -/

/-- The parameters of the established AR. -/
def params (cm : Cm) : Option ArParams := cm.ar.ctx.map (·.params)

/-- Every cached PDU is a response to the request it is filed under. -/
def CacheOk (cm : Cm) : Prop :=
  ∀ e ∈ cm.cache, ∃ ctx s b, e = ((ctx.activity, ctx.seqNum), buildResponsePdu ctx s b)

/-- **Effects**: what a call of the manager does to the AR, which calls to the controller it
places and which changes it reports. -/
inductive Effect (cm cm' : Cm) (out : CmOutput) : Prop
  | quiet (hs : cm'.ar.state = cm.ar.state) (hp : cm'.params = cm.params)
      (hq : cm'.callSeq = cm.callSeq) (hc : cm'.currentCallSeq = cm.currentCallSeq)
      (hn : out.notify = []) (hl : out.calls = [])
  | established {p : ArParams} (hs : cm.ar.state = .idle) (hs' : cm'.ar.state = .connected)
      (hp : cm'.params = some p) (hq : cm'.callSeq = cm.callSeq)
      (hc : cm'.currentCallSeq = none) (hn : out.notify = [(.connected, none)])
      (hl : out.calls = [])
  | takeover {p : ArParams} (hs : cm.ar.state ≠ .idle) (hs' : cm'.ar.state = .connected)
      (hp : cm'.params = some p) (hq : cm'.callSeq = cm.callSeq)
      (hc : cm'.currentCallSeq = none)
      (hn : out.notify = [(.idle, some .controllerReconnect), (.connected, none)])
      (hl : out.calls = [])
  | lost {r : AbortReason} (hs : cm.ar.state ≠ .idle) (hs' : cm'.ar.state = .idle)
      (hp : cm'.params = none) (hq : cm'.callSeq = cm.callSeq)
      (hn : out.notify = [(.idle, some r)]) (hl : out.calls = [])
  | ready {h : RpcHeader} (hs : cm.ar.state = .connected) (hs' : cm'.ar.state = .appReadySent)
      (hp : cm'.params = cm.params) (hv : cm.callSeq.toNat + 1 < 4294967296)
      (hq : cm'.callSeq = cm.callSeq + 1) (hc : cm'.currentCallSeq = some cm.callSeq)
      (hn : out.notify = []) (hl : out.calls = [h]) (ha : h.activity = cm.activitySeed)
      (hk : h.seqNum = cm.callSeq)
  | retry {h : RpcHeader} (hs : cm.ar.state = .appReadySent)
      (hs' : cm'.ar.state = .appReadySent) (hp : cm'.params = cm.params)
      (hq : cm'.callSeq = cm.callSeq) (hc : cm'.currentCallSeq = cm.currentCallSeq)
      (hn : out.notify = []) (hl : out.calls = [h]) (ha : h.activity = cm.activitySeed)
      (hk : cm.currentCallSeq = some h.seqNum)
  | data (hs : cm.ar.state = .appReadySent) (hs' : cm'.ar.state = .data)
      (hp : cm'.params = cm.params) (hq : cm'.callSeq = cm.callSeq)
      (hc : cm'.currentCallSeq = cm.currentCallSeq) (hn : out.notify = [(.data, none)])
      (hl : out.calls = [])

/-- What every call of the manager keeps. -/
structure Frame (cm cm' : Cm) : Prop where
  seed : cm'.activitySeed = cm.activitySeed
  model : cm'.model = cm.model
  cache : cm.CacheOk → cm'.CacheOk

@[simp] lemma cacheInsert_ar (key : CacheKey) (pdu : Bytes) :
    (cm.cacheInsert key pdu).ar = cm.ar := rfl

@[simp] lemma cacheInsert_params (key : CacheKey) (pdu : Bytes) :
    (cm.cacheInsert key pdu).params = cm.params := rfl

@[simp] lemma cacheInsert_callSeq (key : CacheKey) (pdu : Bytes) :
    (cm.cacheInsert key pdu).callSeq = cm.callSeq := rfl

@[simp] lemma cacheInsert_currentCallSeq (key : CacheKey) (pdu : Bytes) :
    (cm.cacheInsert key pdu).currentCallSeq = cm.currentCallSeq := rfl

@[simp] lemma cacheInsert_activitySeed (key : CacheKey) (pdu : Bytes) :
    (cm.cacheInsert key pdu).activitySeed = cm.activitySeed := rfl

@[simp] lemma cacheInsert_model (key : CacheKey) (pdu : Bytes) :
    (cm.cacheInsert key pdu).model = cm.model := rfl

@[simp] lemma afterConnect_ar (ar : Ar) (acts : List Action) (src : SocketAddr) :
    (cm.afterConnect ar acts src).ar = ar := by
  unfold afterConnect; split <;> rfl

lemma cacheOk_insert (h : cm.CacheOk) (ctx : RespondCtx) (s : PnioStatus) (b : Bytes) :
    (cm.cacheInsert (ctx.activity, ctx.seqNum) (buildResponsePdu ctx s b)).CacheOk := by
  intro e he
  simp only [cacheInsert, List.mem_append, List.mem_singleton] at he
  rcases he with he | rfl
  · split at he
    · exact h e (List.mem_of_mem_tail he)
    · exact h e he
  · exact ⟨ctx, s, b, rfl⟩

lemma Frame.refl (cm : Cm) : Frame cm cm := ⟨rfl, rfl, id⟩

lemma Frame.trans {cm1 cm2 : Cm} (h : Frame cm cm1) (h' : Frame cm1 cm2) : Frame cm cm2 :=
  ⟨h'.seed.trans h.seed, h'.model.trans h.model, fun hc => h'.cache (h.cache hc)⟩

lemma buildCallPdu_cases {b pdu : Bytes} {isNew : Bool}
    (h : (cm.buildCallPdu b isNew : Res ε _) = .ok (cm', pdu)) :
    ∃ ctx, cm.ar.ctx = some ctx ∧
      ((isNew = true ∧ cm.callSeq.toNat + 1 < 4294967296 ∧
          { cm with callSeq := cm.callSeq + 1, currentCallSeq := some cm.callSeq } = cm' ∧
          cm.callPdu ctx.params.initiatorObjectUuid cm.callSeq b = pdu) ∨
        (isNew = false ∧ cm = cm' ∧ ∃ k, cm.currentCallSeq = some k ∧
          cm.callPdu ctx.params.initiatorObjectUuid k b = pdu)) := by
  simp only [buildCallPdu, Res.bind_eq_ok, Res.unwrap_eq_ok] at h
  obtain ⟨ctx, hc, h⟩ := h
  refine ⟨ctx, hc, ?_⟩
  split_ifs at h with hn hv
  · cases h
    exact .inl ⟨hn, hv, rfl, rfl⟩
  · simp only [Res.bind_eq_ok, Res.unwrap_eq_ok, Res.ok.injEq, Prod.mk.injEq] at h
    obtain ⟨k, hk, rfl, rfl⟩ := h
    exact .inr ⟨by simpa using hn, rfl, k, hk, rfl⟩

/-- What one action of the AR machine does to the manager and to its output. -/
inductive Applied (rc : Option RespondCtx) (isNew : Bool) (cm : Cm) (out : CmOutput) :
    Action → Cm → CmOutput → Prop
  | dropped {s : PnioStatus} {b : Bytes} (hrc : rc = none) :
      Applied rc isNew cm out (.respond s b) cm out
  | answered {s : PnioStatus} {b : Bytes} {ctx : RespondCtx} (hrc : rc = some ctx) :
      Applied rc isNew cm out (.respond s b)
        (cm.cacheInsert (ctx.activity, ctx.seqNum) (buildResponsePdu ctx s b))
        { out with send := out.send ++ [⟨buildResponsePdu ctx s b, ctx.src⟩] }
  | called {b : Bytes} {dst : SocketAddr} {c : ArContext} (hnew : isNew = true)
      (hdst : cm.controllerAddr = some dst) (hc : cm.ar.ctx = some c)
      (hv : cm.callSeq.toNat + 1 < 4294967296) :
      Applied rc isNew cm out (.callController b)
        { cm with callSeq := cm.callSeq + 1, currentCallSeq := some cm.callSeq }
        { out with send := out.send ++
            [⟨cm.callPdu c.params.initiatorObjectUuid cm.callSeq b, dst⟩] }
  | again {b : Bytes} {dst : SocketAddr} {c : ArContext} {k : UInt32} (hnew : isNew = false)
      (hdst : cm.controllerAddr = some dst) (hc : cm.ar.ctx = some c)
      (hk : cm.currentCallSeq = some k) :
      Applied rc isNew cm out (.callController b) cm
        { out with send := out.send ++ [⟨cm.callPdu c.params.initiatorObjectUuid k b, dst⟩] }
  | notified {state : ArState} {reason : Option AbortReason} :
      Applied rc isNew cm out (.notify state reason) cm
        { out with notify := out.notify ++ [(state, reason)] }

section Applied

variable {rc : Option RespondCtx} {isNew : Bool} {out out' : CmOutput} {a : Action}

lemma applyOne_applied (h : (applyOne rc isNew (cm, out) a : Res ε _) = .ok (cm', out')) :
    Applied rc isNew cm out a cm' out' := by
  cases a with
  | respond s b =>
    cases rc with
    | none =>
      simp only [applyOne, Res.ok.injEq, Prod.mk.injEq] at h
      obtain ⟨rfl, rfl⟩ := h
      exact .dropped rfl
    | some ctx =>
      simp only [applyOne, Res.ok.injEq, Prod.mk.injEq] at h
      obtain ⟨rfl, rfl⟩ := h
      exact .answered rfl
  | callController b =>
    simp only [applyOne, Res.bind_eq_ok, Res.unwrap_eq_ok, Prod.exists, Res.ok.injEq,
      Prod.mk.injEq] at h
    obtain ⟨dst, hdst, cm1, pdu, hpdu, rfl, rfl⟩ := h
    obtain ⟨c, hc, ⟨hnew, hv, rfl, rfl⟩ | ⟨hnew, rfl, k, hk, rfl⟩⟩ := buildCallPdu_cases hpdu
    · exact .called hnew hdst hc hv
    · exact .again hnew hdst hc hk
  | notify state reason =>
    simp only [applyOne, Res.ok.injEq, Prod.mk.injEq] at h
    obtain ⟨rfl, rfl⟩ := h
    exact .notified

/-- An answer and a new call, the actions of an accepted PrmEnd. -/
lemma apply_answer_call {s : PnioStatus} {b b' : Bytes} {ctx : RespondCtx}
    (h : (cm.apply [.respond s b, .callController b'] (some ctx) true : Res ε _) =
      .ok (cm', out)) :
    ∃ dst c, cm.controllerAddr = some dst ∧ cm.ar.ctx = some c ∧
      cm.callSeq.toNat + 1 < 4294967296 ∧
      { cm.cacheInsert (ctx.activity, ctx.seqNum) (buildResponsePdu ctx s b) with
        callSeq := cm.callSeq + 1, currentCallSeq := some cm.callSeq } = cm' ∧
      (⟨[⟨buildResponsePdu ctx s b, ctx.src⟩,
        ⟨cm.callPdu c.params.initiatorObjectUuid cm.callSeq b', dst⟩], []⟩ : CmOutput) = out := by
  obtain ⟨⟨cm1, out1⟩, h1, h⟩ := Res.bind_eq_ok.1 h
  obtain ⟨⟨cm2, out2⟩, h2, h⟩ := Res.bind_eq_ok.1 h
  obtain ⟨rfl, rfl⟩ := Prod.mk.inj (Res.ok.inj h)
  cases applyOne_applied h1 with
  | dropped hrc => cases hrc
  | answered hrc =>
    cases hrc
    cases applyOne_applied h2 with
    | called hnew hdst hc hv => exact ⟨_, _, hdst, hc, hv, rfl, rfl⟩
    | again hnew => cases hnew

/-- A call again, the action of a retry. -/
lemma apply_again {b : Bytes}
    (h : (cm.apply [.callController b] none false : Res ε _) = .ok (cm', out)) :
    ∃ dst c k, cm.controllerAddr = some dst ∧ cm.ar.ctx = some c ∧ cm.currentCallSeq = some k ∧
      cm = cm' ∧
      (⟨[⟨cm.callPdu c.params.initiatorObjectUuid k b, dst⟩], []⟩ : CmOutput) = out := by
  obtain ⟨⟨cm1, out1⟩, h1, h⟩ := Res.bind_eq_ok.1 h
  obtain ⟨rfl, rfl⟩ := Prod.mk.inj (Res.ok.inj h)
  cases applyOne_applied h1 with
  | called hnew => cases hnew
  | again hnew hdst hc hk => exact ⟨_, _, _, hdst, hc, hk, rfl, rfl⟩

lemma applied_frame (h : Applied rc isNew cm out a cm' out') :
    Frame cm cm' ∧ cm'.ar = cm.ar := by
  cases h with
  | answered => exact ⟨⟨rfl, rfl, fun hc => cacheOk_insert hc _ _ _⟩, rfl⟩
  | called => exact ⟨⟨rfl, rfl, id⟩, rfl⟩
  | dropped | again | notified => exact ⟨.refl _, rfl⟩

end Applied

lemma apply_frame {rc : Option RespondCtx} {isNew : Bool} {out : CmOutput}
    (h : (cm.apply acts rc isNew : Res ε _) = .ok (cm', out)) :
    Frame cm cm' ∧ cm'.ar = cm.ar := by
  have := Res.foldlM_inv (I := fun s : Cm × CmOutput => Frame cm s.1 ∧ s.1.ar = cm.ar)
    (fun s a s' hi hs => ?_) ⟨Frame.refl cm, rfl⟩ h
  · exact this
  · obtain ⟨hf, ha⟩ := applied_frame (applyOne_applied hs)
    exact ⟨hi.1.trans hf, ha.trans hi.2⟩

lemma served_frame {cm1 : Cm} (h : Served ε cm opnum blocks src now cm1 acts) : Frame cm cm1 := by
  cases h with
  | connect ho hp ht =>
    unfold afterConnect
    split
    · exact ⟨rfl, rfl, id⟩
    · exact ⟨rfl, rfl, id⟩
  | _ => exact ⟨rfl, rfl, id⟩

section Effects

variable {cm1 : Cm} {ev : Event} {ctx : RespondCtx} {out : CmOutput}

/-- The effect of a request whose event the AR machine took. -/
lemma effect_request (h : (cm1.apply acts (some ctx) true : Res ε _) = .ok (cm', out))
    (ht : Ar.Trans ε now cm.ar ev cm1.ar acts) (hr : ev.isRequest)
    (hq : cm1.callSeq = cm.callSeq) (ha : cm1.activitySeed = cm.activitySeed)
    (hc : cm1.currentCallSeq =
      if acts.any isNotifyConnected then none else cm.currentCallSeq) : Effect cm cm' out := by
  have har := (apply_frame h).2
  have hpar : cm'.params = cm1.params := by simp only [params, har]
  generalize hx : cm1.ar = ar1 at ht
  have hp1 : cm1.params = ar1.ctx.map (·.params) := by rw [← hx]; rfl
  rw [hx] at har
  cases ht with
  | refused hr hz =>
    cases h
    exact .quiet (by simp [hx]) (hpar.trans hp1) (by simpa using hq)
      (by simpa [refuse, isNotifyConnected] using hc) rfl (by simp [CmOutput.calls])
  | ignored hr' => exact absurd hr hr'
  | connect hs hv hb =>
    cases h
    exact .established hs (by simp [hx, Ar.established]) (hpar.trans hp1) (by simpa using hq)
      (by simpa [isNotifyConnected] using hc) rfl (by simp [CmOutput.calls])
  | resend hs hctx hu hk =>
    cases h
    exact .quiet (by simp [hx]) (hpar.trans hp1) (by simpa using hq)
      (by simpa [isNotifyConnected] using hc) rfl (by simp [CmOutput.calls])
  | takeover hs hctx hn ho hv hb =>
    cases h
    exact .takeover hs (by simp [hx, Ar.established]) (hpar.trans hp1) (by simpa using hq)
      (by simpa [isNotifyConnected] using hc) rfl (by simp [CmOutput.calls])
  | takeoverRefused hs hctx hz ho =>
    cases h
    exact .lost hs (by simp [hx, Ar.dropped]) (hpar.trans hp1) (by simpa using hq) rfl
      (by simp [CmOutput.calls])
  | write hs hctx hu hcap hb =>
    cases h
    exact .quiet (by simp [hx, Ar.stored])
      (hpar.trans (hp1.trans (by simp [params, Ar.stored, hctx])))
      (by simpa using hq) (by simpa [isNotifyConnected] using hc) rfl (by simp [CmOutput.calls])
  | prmEnd hs hctx hu hr' hb =>
    obtain ⟨dst, c, -, -, hv, rfl, rfl⟩ := apply_answer_call h
    exact .ready hs (by simp [hx, Ar.readySent]) (hpar.trans hp1)
      (by simpa [hq] using hv) (by simp [hq]) (by simp [hq]) rfl
      (by simp [CmOutput.calls]; rfl) (by simpa [callHeader] using ha)
      (by simpa [callHeader] using hq)
  | prmEndAgain hs hctx hu hr' =>
    cases h
    exact .quiet (by simp [hx]) (hpar.trans hp1) (by simpa using hq)
      (by simpa [isNotifyConnected] using hc) rfl (by simp [CmOutput.calls])
  | releaseIdle hs hr' =>
    cases h
    exact .quiet (by simp [hx]) (hpar.trans hp1) (by simpa using hq)
      (by simpa [isNotifyConnected] using hc) rfl (by simp [CmOutput.calls])
  | release hs hctx hu hr' =>
    cases h
    exact .lost hs (by simp [hx, Ar.dropped]) (hpar.trans hp1) (by simpa using hq) rfl
      (by simp [CmOutput.calls])
  | _ => cases hr

/-- The effect of an event that no request raised. -/
lemma effect_internal (h : (cm1.apply acts none false : Res ε _) = .ok (cm', out))
    (ht : Ar.Trans ε now cm.ar ev cm1.ar acts) (hr : ¬ ev.isRequest)
    (hq : cm1.callSeq = cm.callSeq) (ha : cm1.activitySeed = cm.activitySeed)
    (hc : cm1.currentCallSeq = cm.currentCallSeq) : Effect cm cm' out := by
  have hpar : cm'.params = cm1.params := by simp only [params, (apply_frame h).2]
  generalize hx : cm1.ar = ar1 at ht
  have hp1 : cm1.params = ar1.ctx.map (·.params) := by rw [← hx]; rfl
  cases ht with
  | ignored hr' =>
    cases h
    exact .quiet (by rw [hx]) hp1 hq hc rfl rfl
  | appReady hs hz =>
    cases h
    exact .data hs (by simp [hx, Ar.inData]) hp1 hq hc rfl rfl
  | appReadyRejected hs hz =>
    cases h
    exact .lost (by simp [hs]) (by simp [hx, Ar.dropped]) hp1 hq rfl rfl
  | activityTimeout hs hd =>
    cases h
    exact .lost (by simp [hs]) (by simp [hx, Ar.dropped]) hp1 hq rfl rfl
  | appReadyFailed hs hd hm =>
    cases h
    exact .lost (by simp [hs]) (by simp [hx, Ar.dropped]) hp1 hq rfl rfl
  | abort hs =>
    cases h
    exact .lost hs (by simp [hx, Ar.dropped]) hp1 hq rfl rfl
  | retry hs hd hm hctx hb =>
    obtain ⟨dst, c, k, -, -, hk, rfl, rfl⟩ := apply_again h
    exact .retry hs (by simp [hx, Ar.retried, hs]) hp1 hq hc rfl
      (by simp [CmOutput.calls]; rfl) (by simpa [callHeader] using ha)
      (by simpa [callHeader, hc] using hk)
  | refused hr' hz => exact absurd hr' hr
  | _ => exact absurd rfl hr

end Effects

/-- **Datagrams handled**: the four ways a datagram is taken. -/
inductive Handled (cm : Cm) (buf : Bytes) (src : SocketAddr) (now : Instant) :
    Cm → CmOutput → Prop
  | response {h : RpcHeader} {n : NdrResponse} {bl : Bytes} {ar : Ar} {acts : List Action}
      {cm' : Cm} {out : CmOutput} (hh : RpcHeader.parse buf = .ok h) (ht : h.ptype = .response)
      (hn : NdrResponse.parse (buf.drop 80) h.drep = .ok (n, bl))
      (hon : Ar.Trans RpcError now cm.ar (.appReadyRsp ⟨n.status⟩) ar acts)
      (ha : (apply { cm with ar } acts none false : Res RpcError _) = .ok (cm', out)) :
      Handled cm buf src now cm' out
  | other {h : RpcHeader} (hh : RpcHeader.parse buf = .ok h) (ht : h.ptype ≠ .response)
      (ht' : h.ptype ≠ .request) : Handled cm buf src now cm ⟨[], []⟩
  | cached {h : RpcHeader} {bytes : Bytes} (hh : RpcHeader.parse buf = .ok h)
      (ht : h.ptype = .request) (hl : cm.cacheLookup (h.activity, h.seqNum) = some bytes) :
      Handled cm buf src now cm ⟨[{ bytes, dst := src }], []⟩
  | fresh {h : RpcHeader} {req : NdrRequest} {blocks : Bytes} {cm1 cm' : Cm}
      {acts : List Action} {ctx : RespondCtx} {out : CmOutput} (hh : RpcHeader.parse buf = .ok h)
      (ht : h.ptype = .request) (hl : cm.cacheLookup (h.activity, h.seqNum) = none)
      (hn : NdrRequest.parse (buf.drop 80) h.drep = .ok (req, blocks))
      (hs : Served RpcError cm h.opnum blocks src now cm1 acts)
      (hctx : ctx = { object := h.object, interface := h.interface, activity := h.activity,
                      seqNum := h.seqNum, opnum := h.opnum, argsMax := req.argsMax, src })
      (ha : (cm1.apply acts (some ctx) true : Res RpcError _) = .ok (cm', out)) :
      Handled cm buf src now cm' out

theorem handleDatagram_handled {buf : Bytes} {out : CmOutput}
    (h : cm.handleDatagram buf src now = .ok (cm', out)) : Handled cm buf src now cm' out := by
  simp only [handleDatagram, Res.bind_eq_ok] at h
  obtain ⟨hd, hh, body, hb, h⟩ := h
  obtain rfl : body = buf.drop 80 := by
    obtain ⟨-, rfl⟩ := slice_eq_ok.1 hb
    simp [RpcHeader.hdrLen, List.take_of_length_le]
  split_ifs at h with ht ht'
  · simp only [Res.bind_eq_ok, Prod.exists] at h
    obtain ⟨n, bl, hn, ar, acts, hon, ha⟩ := h
    exact .response hh ht hn (Ar.on_trans hon) ha
  · cases h
    exact .other hh ht ht'
  · have ht' := not_not.1 ht'
    simp only [Res.bind_eq_ok, Res.reject_eq_ok] at h
    obtain ⟨-, -, h⟩ := h
    split at h
    · rename_i bytes hl
      cases h
      exact .cached hh ht' hl
    · rename_i hl
      simp only [handleRequest, Res.bind_eq_ok, Prod.exists] at h
      obtain ⟨req, blocks, hn, cm1, acts, hs, ha⟩ := h
      exact .fresh hh ht' hl hn (serve_served hs) rfl ha

lemma cacheLookup_mem {key : CacheKey} {bytes : Bytes} (h : cm.cacheLookup key = some bytes) :
    (key, bytes) ∈ cm.cache := by
  simp only [cacheLookup, Option.map_eq_some_iff] at h
  obtain ⟨⟨k, b⟩, hf, rfl⟩ := h
  have hk := List.find?_some hf
  simp only [beq_iff_eq] at hk
  exact hk ▸ List.mem_of_find?_eq_some hf

/-- What is found in the cache was built in answer to a request with the same key. -/
lemma cached_response {activity : Uuid} {seqNum : UInt32} {bytes : Bytes} (hi : cm.CacheOk)
    (h : cm.cacheLookup (activity, seqNum) = some bytes) :
    ∃ ctx s b, ctx.activity = activity ∧ ctx.seqNum = seqNum ∧
      buildResponsePdu ctx s b = bytes := by
  obtain ⟨ctx, s, b, he⟩ := hi _ (cacheLookup_mem h)
  obtain ⟨hk, hb⟩ := Prod.mk.inj he.symm
  obtain ⟨ha, hq⟩ := Prod.mk.inj hk
  exact ⟨ctx, s, b, ha, hq, hb⟩

lemma served_effect {cm1 : Cm} {ctx : RespondCtx} {out : CmOutput}
    (hs : Served ε cm opnum blocks src now cm1 acts)
    (h : (cm1.apply acts (some ctx) true : Res ε _) = .ok (cm', out)) : Effect cm cm' out := by
  cases hs with
  | refused hz =>
    cases h
    exact .quiet rfl rfl rfl rfl rfl (by simp [CmOutput.calls])
  | read ho =>
    cases h
    exact .quiet rfl rfl rfl rfl rfl (by simp [CmOutput.calls])
  | connect ho hp ht =>
    refine effect_request h (by simpa using ht) rfl ?_ ?_ ?_
    all_goals
      unfold afterConnect
      split <;> simp_all
  | write ho hp ht =>
    refine effect_request h ht rfl rfl rfl ?_
    cases ht <;> simp_all [isNotifyConnected, refuse, Event.isRequest]
  | prmEnd ho hp hc ht =>
    refine effect_request h ht rfl rfl rfl ?_
    cases ht <;> simp_all [isNotifyConnected, refuse, Event.isRequest]
  | release ho hp ht =>
    refine effect_request h ht rfl rfl rfl ?_
    cases ht <;> simp_all [isNotifyConnected, refuse, Event.isRequest]

/-- **The effect of a datagram.** -/
theorem handleDatagram_effect {buf : Bytes} {out : CmOutput} (hi : cm.CacheOk)
    (h : cm.handleDatagram buf src now = .ok (cm', out)) : Effect cm cm' out ∧ Frame cm cm' := by
  cases handleDatagram_handled h with
  | response hh ht hn hon ha =>
    obtain ⟨hf, -⟩ := apply_frame ha
    exact ⟨effect_internal ha hon nofun rfl rfl rfl, ⟨hf.seed, hf.model, hf.cache⟩⟩
  | other hh ht ht' => exact ⟨.quiet rfl rfl rfl rfl rfl rfl, .refl _⟩
  | cached hh ht hl =>
    obtain ⟨ctx, s, b, -, -, rfl⟩ := cached_response hi hl
    exact ⟨.quiet rfl rfl rfl rfl rfl (by simp [CmOutput.calls]), .refl _⟩
  | fresh hh ht hl hn hs hctx ha =>
    exact ⟨served_effect hs ha, (served_frame hs).trans (apply_frame ha).1⟩

theorem tick_effect {out : CmOutput} (h : (cm.tick now : Res ε _) = .ok (cm', out)) :
    Effect cm cm' out ∧ Frame cm cm' := by
  simp only [tick, Res.bind_eq_ok, Prod.exists] at h
  obtain ⟨ar, acts, hon, ha⟩ := h
  obtain ⟨hf, -⟩ := apply_frame ha
  exact ⟨effect_internal ha (Ar.on_trans hon) nofun rfl rfl rfl, ⟨hf.seed, hf.model, hf.cache⟩⟩

theorem abort_effect {r : AbortReason} {out : CmOutput}
    (h : (cm.abort r now : Res ε _) = .ok (cm', out)) : Effect cm cm' out ∧ Frame cm cm' := by
  simp only [abort, Res.bind_eq_ok, Prod.exists] at h
  obtain ⟨ar, acts, hon, ha⟩ := h
  obtain ⟨hf, -⟩ := apply_frame ha
  exact ⟨effect_internal ha (Ar.on_trans hon) nofun rfl rfl rfl, ⟨hf.seed, hf.model, hf.cache⟩⟩

lemma abort_idle {r : AbortReason} (h : cm.ar.state = .idle) :
    (cm.abort r now : Res ε _) = .ok (cm, ⟨[], []⟩) := by
  simp only [abort, Ar.on, h, if_true, Res.ok_bind]
  rfl

lemma abort_of_ne {r : AbortReason} (h : cm.ar.state ≠ .idle) :
    (cm.abort r now : Res ε _) =
      .ok ({ cm with ar := cm.ar.dropped }, ⟨[], [(.idle, some r)]⟩) := by
  simp only [abort, Ar.on, h, if_false, Res.ok_bind]
  rfl

lemma dropped_effect (h : cm.ar.state ≠ .idle) (r : AbortReason) :
    Effect cm { cm with ar := cm.ar.dropped } ⟨[], [(.idle, some r)]⟩ ∧
      Frame cm { cm with ar := cm.ar.dropped } := by
  have ha : (cm.abort r 0 : Res RpcError _) =
      .ok ({ cm with ar := cm.ar.dropped }, ⟨[], [(.idle, some r)]⟩) := abort_of_ne h
  exact abort_effect ha

/-- An AR that is not idle has its parameters. -/
lemma Effect.params_isSome {out : CmOutput} (he : Effect cm cm' out)
    (h : cm.ar.state ≠ .idle → cm.params.isSome) (h' : cm'.ar.state ≠ .idle) :
    cm'.params.isSome := by
  cases he with
  | quiet hs hp hq hc hn hl => rw [hp]; exact h (hs ▸ h')
  | established hs hs' hp hq hc hn hl => rw [hp]; rfl
  | takeover hs hs' hp hq hc hn hl => rw [hp]; rfl
  | lost hs hs' hp hq hn hl => exact absurd hs' h'
  | ready hs hs' hp hv hq hc hn hl ha hk => rw [hp]; exact h (by simp [hs])
  | retry hs hs' hp hq hc hn hl ha hk => rw [hp]; exact h (by simp [hs])
  | data hs hs' hp hq hc hn hl => rw [hp]; exact h (by simp [hs])

/-! ### Effects by what they report -/

section Reports

variable {out : CmOutput} {r : AbortReason}

lemma Effect.of_quiet (he : Effect cm cm' out) (hn : out.notify = []) :
    cm'.params = cm.params ∧
      (cm'.ar.state = cm.ar.state ∧ cm'.callSeq = cm.callSeq ∨
        cm.ar.state = .connected ∧ cm'.ar.state = .appReadySent ∧
          cm'.callSeq.toNat = cm.callSeq.toNat + 1) := by
  cases he with
  | quiet hs hp hq => exact ⟨hp, .inl ⟨hs, hq⟩⟩
  | retry hs hs' hp hq => exact ⟨hp, .inl ⟨hs'.trans hs.symm, hq⟩⟩
  | ready hs hs' hp hv hq =>
    refine ⟨hp, .inr ⟨hs, hs', ?_⟩⟩
    rw [hq, UInt32.toNat_add]
    exact Nat.mod_eq_of_lt hv
  | established hs hs' hp hq hc hn' | takeover hs hs' hp hq hc hn' | data hs hs' hp hq hc hn' =>
    rw [hn] at hn'
    cases hn'
  | lost hs hs' hp hq hn' =>
    rw [hn] at hn'
    cases hn'

lemma Effect.of_connected (he : Effect cm cm' out) (hn : out.notify = [(.connected, none)]) :
    cm.ar.state = .idle ∧ cm'.ar.state = .connected ∧ cm'.callSeq = cm.callSeq := by
  cases he with
  | established hs hs' hp hq => exact ⟨hs, hs', hq⟩
  | quiet hs hp hq hc hn' => rw [hn] at hn'; cases hn'
  | takeover hs hs' hp hq hc hn' => rw [hn] at hn'; cases hn'
  | lost hs hs' hp hq hn' => rw [hn] at hn'; cases hn'
  | ready hs hs' hp hv hq hc hn' => rw [hn] at hn'; cases hn'
  | retry hs hs' hp hq hc hn' => rw [hn] at hn'; cases hn'
  | data hs hs' hp hq hc hn' => rw [hn] at hn'; cases hn'

lemma Effect.of_lost (he : Effect cm cm' out) (hn : out.notify = [(.idle, some r)]) :
    cm.ar.state ≠ .idle ∧ cm'.ar.state = .idle ∧ cm'.callSeq = cm.callSeq := by
  cases he with
  | lost hs hs' hp hq => exact ⟨hs, hs', hq⟩
  | quiet hs hp hq hc hn' => rw [hn] at hn'; cases hn'
  | established hs hs' hp hq hc hn' => rw [hn] at hn'; cases hn'
  | takeover hs hs' hp hq hc hn' => rw [hn] at hn'; cases hn'
  | ready hs hs' hp hv hq hc hn' => rw [hn] at hn'; cases hn'
  | retry hs hs' hp hq hc hn' => rw [hn] at hn'; cases hn'
  | data hs hs' hp hq hc hn' => rw [hn] at hn'; cases hn'

lemma Effect.of_takeover (he : Effect cm cm' out)
    (hn : out.notify = [(.idle, some r), (.connected, none)]) :
    cm.ar.state ≠ .idle ∧ cm'.ar.state = .connected ∧ cm'.callSeq = cm.callSeq := by
  cases he with
  | takeover hs hs' hp hq => exact ⟨hs, hs', hq⟩
  | quiet hs hp hq hc hn' => rw [hn] at hn'; cases hn'
  | established hs hs' hp hq hc hn' => rw [hn] at hn'; cases hn'
  | lost hs hs' hp hq hn' => rw [hn] at hn'; cases hn'
  | ready hs hs' hp hv hq hc hn' => rw [hn] at hn'; cases hn'
  | retry hs hs' hp hq hc hn' => rw [hn] at hn'; cases hn'
  | data hs hs' hp hq hc hn' => rw [hn] at hn'; cases hn'

lemma Effect.of_data (he : Effect cm cm' out) (hn : out.notify = [(.data, none)]) :
    cm.ar.state = .appReadySent ∧ cm'.ar.state = .data ∧ cm'.callSeq = cm.callSeq ∧
      cm'.params = cm.params := by
  cases he with
  | data hs hs' hp hq => exact ⟨hs, hs', hq, hp⟩
  | quiet hs hp hq hc hn' => rw [hn] at hn'; cases hn'
  | established hs hs' hp hq hc hn' => rw [hn] at hn'; cases hn'
  | takeover hs hs' hp hq hc hn' => rw [hn] at hn'; cases hn'
  | lost hs hs' hp hq hn' => rw [hn] at hn'; cases hn'
  | ready hs hs' hp hv hq hc hn' => rw [hn] at hn'; cases hn'
  | retry hs hs' hp hq hc hn' => rw [hn] at hn'; cases hn'

end Reports

end Cm

end Pnio
