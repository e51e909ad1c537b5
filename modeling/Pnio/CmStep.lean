import Pnio.CmRun
import Pnio.CmSafe

/-!
One step of the context manager, exactly: the state it leaves behind, what it sends and what it
reports, for every input.
-/

namespace Pnio

/-- The datagram `buf` is a Request for the device: a header that can be read, the interface of a
PNIO device and an NDR part that can be read. -/
structure Asked (buf : Bytes) (h : RpcHeader) (n : NdrRequest) (blocks : Bytes) : Prop where
  header : RpcHeader.parse buf = .ok h
  ptype : h.ptype = .request
  interface : h.interface = pnioDeviceInterface
  body : NdrRequest.parse (buf.drop 80) h.drep = .ok (n, blocks)

/-- What the response takes from the request. -/
def RpcHeader.respondCtx (h : RpcHeader) (n : NdrRequest) (src : SocketAddr) : RespondCtx :=
  { object := h.object, interface := h.interface, activity := h.activity, seqNum := h.seqNum,
    opnum := h.opnum, argsMax := n.argsMax, src }

/-- The key under which the response is kept. -/
def RpcHeader.key (h : RpcHeader) : CacheKey := (h.activity, h.seqNum)

/-- The response, on its way to the sender of the request. -/
def RespondCtx.reply (ctx : RespondCtx) (s : PnioStatus) (b : Bytes) : Outgoing :=
  ⟨buildResponsePdu ctx s b, ctx.src⟩

namespace Cm

variable {cm cm' : Cm} {opnum : UInt16} {blocks : Bytes} {now : Instant} {ctx : RespondCtx}
  {out : CmOutput} {src : SocketAddr}

/-- The manager with a response in its cache. -/
def keep (cm : Cm) (ctx : RespondCtx) (s : PnioStatus) (b : Bytes) : Cm :=
  cm.cacheInsert (ctx.activity, ctx.seqNum) (buildResponsePdu ctx s b)

/-- The manager with its AR (re-)established from `src`. -/
def connectedFrom (cm : Cm) (ar : Ar) (src : SocketAddr) : Cm :=
  { cm with ar, controllerAddr := some ⟨src.ip, pnioUdpPort⟩, currentCallSeq := none }

/-- The manager with a call under the next number. -/
def called (cm : Cm) : Cm :=
  { cm with callSeq := cm.callSeq + 1, currentCallSeq := some cm.callSeq }

/-- **A request executed**: what it leaves behind and what is sent and reported. -/
inductive Answered (cm : Cm) (opnum : UInt16) (blocks : Bytes) (now : Instant) (ctx : RespondCtx) :
    Cm → CmOutput → Prop
  | refused {s : PnioStatus} (hz : s.val ≠ 0) :
      Answered cm opnum blocks now ctx (cm.keep ctx s []) ⟨[ctx.reply s []], []⟩
  | told {b : Bytes} :
      Answered cm opnum blocks now ctx (cm.keep ctx .ok b) ⟨[ctx.reply .ok b], []⟩
  | connect {req : ConnectReq} {p : ArParams} {res : Bytes} (hp : ConnectReq.parse blocks = .ok req)
      (hs : cm.ar.state = .idle) (hv : validate req cm.ar.model = .ok p) :
      Answered cm opnum blocks now ctx
        ((cm.connectedFrom (cm.ar.established p res now) ctx.src).keep ctx .ok res)
        ⟨[ctx.reply .ok res], [(.connected, none)]⟩
  | takeover {req : ConnectReq} {c : ArContext} {p : ArParams} {res : Bytes}
      (hp : ConnectReq.parse blocks = .ok req) (hs : cm.ar.state ≠ .idle) (hc : cm.ar.ctx = some c)
      (hv : validate req cm.ar.model = .ok p) :
      Answered cm opnum blocks now ctx
        ((cm.connectedFrom (cm.ar.dropped.established p res now) ctx.src).keep ctx .ok res)
        ⟨[ctx.reply .ok res], [(.idle, some .controllerReconnect), (.connected, none)]⟩
  | takeoverRefused {req : ConnectReq} {c : ArContext} {s : PnioStatus}
      (ho : Opnum.fromU16 opnum = some .connect) (hp : ConnectReq.parse blocks = .ok req)
      (hs : cm.ar.state ≠ .idle) (hc : cm.ar.ctx = some c) (hz : s.val ≠ 0)
      (ht : req.ar.arUuid = c.params.arUuid ∧ req.ar.sessionKey ≠ c.params.sessionKey ∨
        req.ar.initiatorObjectUuid = c.params.initiatorObjectUuid) :
      Answered cm opnum blocks now ctx ({ cm with ar := cm.ar.dropped }.keep ctx s [])
        ⟨[ctx.reply s []], [(.idle, some .controllerReconnect)]⟩
  | write {req : WriteReq} {c : ArContext} {b : Bytes} {im : ImStore} (hs : cm.ar.state ≠ .idle)
      (hc : cm.ar.ctx = some c) :
      Answered cm opnum blocks now ctx
        ({ cm with ar := cm.ar.stored c req.records now, im }.keep ctx .ok b)
        ⟨[ctx.reply .ok b], []⟩
  | prmEnd {cb : ControlBlock} {c : ArContext} {b call : Bytes} {dst : SocketAddr}
      (ho : Opnum.fromU16 opnum = some .control) (hp : ControlBlock.parse blocks = .ok cb)
      (hcmd : cb.command = ControlCmd.prmEnd) (hs : cm.ar.state = .connected)
      (hc : cm.ar.ctx = some c) (hu : cb.arUuid = c.params.arUuid)
      (hb : ((appReadyReq c.params.arUuid c.params.sessionKey).write : Res RpcError _) = .ok call)
      (hd : cm.controllerAddr = some dst) (hv : cm.callSeq.toNat + 1 < 4294967296) :
      Answered cm opnum blocks now ctx
        (called ({ cm with ar := cm.ar.readySent now }.keep ctx .ok b))
        ⟨[ctx.reply .ok b, ⟨cm.callPdu c.params.initiatorObjectUuid cm.callSeq call, dst⟩], []⟩
  | release {b : Bytes} (hs : cm.ar.state ≠ .idle) :
      Answered cm opnum blocks now ctx ({ cm with ar := cm.ar.dropped }.keep ctx .ok b)
        ⟨[ctx.reply .ok b], [(.idle, some .controllerRelease)]⟩

/-- **A step**: what each input does. -/
inductive Stepped (cm : Cm) : CmInput → Cm → CmOutput → Prop
  | silent {i : CmInput} : Stepped cm i cm ⟨[], []⟩
  | replay {buf : Bytes} {src : SocketAddr} {now : Instant} {h : RpcHeader} {bytes : Bytes}
      (hh : RpcHeader.parse buf = .ok h) (ht : h.ptype = .request)
      (hl : cm.cacheLookup h.key = some bytes) :
      Stepped cm (.datagram buf src now) cm ⟨[⟨bytes, src⟩], []⟩
  | request {buf : Bytes} {src : SocketAddr} {now : Instant} {h : RpcHeader} {n : NdrRequest}
      {blocks : Bytes} {cm' : Cm} {out : CmOutput} (ha : Asked buf h n blocks)
      (hl : cm.cacheLookup h.key = none)
      (hr : Answered cm h.opnum blocks now (h.respondCtx n src) cm' out) :
      Stepped cm (.datagram buf src now) cm' out
  | data {buf : Bytes} {src : SocketAddr} {now : Instant} (hs : cm.ar.state = .appReadySent) :
      Stepped cm (.datagram buf src now) { cm with ar := cm.ar.inData } ⟨[], [(.data, none)]⟩
  | rejected {buf : Bytes} {src : SocketAddr} {now : Instant} {s : PnioStatus}
      (hs : cm.ar.state = .appReadySent) :
      Stepped cm (.datagram buf src now) { cm with ar := cm.ar.dropped }
        ⟨[], [(.idle, some (.appReadyRejected s))]⟩
  | activityTimeout {now : Instant} (hs : cm.ar.state = .connected) :
      Stepped cm (.tick now) { cm with ar := cm.ar.dropped } ⟨[], [(.idle, some .activityTimeout)]⟩
  | retry {now : Instant} {c : ArContext} {call : Bytes} {dst : SocketAddr} {k : UInt32}
      (hs : cm.ar.state = .appReadySent) (hdue : Ar.due cm.ar.appReadyDeadline now)
      (ha : cm.ar.appReadyAttempts < appReadyMaxAttempts) (hc : cm.ar.ctx = some c)
      (hb : ((appReadyReq c.params.arUuid c.params.sessionKey).write : Res RpcError _) = .ok call)
      (hd : cm.controllerAddr = some dst) (hk : cm.currentCallSeq = some k) :
      Stepped cm (.tick now) { cm with ar := cm.ar.retried now }
        ⟨[⟨cm.callPdu c.params.initiatorObjectUuid k call, dst⟩], []⟩
  | failed {now : Instant} (hs : cm.ar.state = .appReadySent)
      (hdue : Ar.due cm.ar.appReadyDeadline now)
      (ha : ¬ cm.ar.appReadyAttempts < appReadyMaxAttempts) :
      Stepped cm (.tick now) { cm with ar := cm.ar.dropped } ⟨[], [(.idle, some .appReadyFailed)]⟩
  | aborted {reason : AbortReason} {now : Instant} (hs : cm.ar.state ≠ .idle) :
      Stepped cm (.abort reason now) { cm with ar := cm.ar.dropped } ⟨[], [(.idle, some reason)]⟩

/-! ### Every step is one of these -/

lemma served_answered {cm1 : Cm} {acts : List Action}
    (hsv : Served RpcError cm opnum blocks ctx.src now cm1 acts)
    (h : (cm1.apply acts (some ctx) true : Res RpcError _) = .ok (cm', out)) :
    Answered cm opnum blocks now ctx cm' out := by
  cases hsv with
  | refused hz =>
    cases h
    exact .refused hz
  | read ho =>
    cases h
    exact .told
  | connect ho hp ht =>
    cases ht with
    | refused hr hz =>
      cases h
      exact .refused hz
    | ignored hr => exact absurd rfl hr
    | connect hs hv hb =>
      cases h
      exact .connect hp hs hv
    | resend hs hc hu hk =>
      cases h
      exact .told
    | takeover hs hc hn ho' hv hb =>
      cases h
      exact .takeover hp hs hc hv
    | takeoverRefused hs hc hz hu hn =>
      cases h
      refine .takeoverRefused ho hp hs hc hz ?_
      rcases hu with hu | hi
      · exact .inl ⟨hu, fun hk => hn ⟨hu, hk⟩⟩
      · exact .inr hi
  | @write req ar im acts ho hp ht him =>
    cases ht with
    | refused hr hz =>
      obtain rfl := him (by simpa [refuse, isRespondOk] using hz)
      cases h
      exact .refused hz
    | ignored hr => exact absurd rfl hr
    | write hs hc hu hcap hb =>
      cases h
      exact .write hs hc
  | prmEnd ho hp hcmd ht =>
    cases ht with
    | refused hr hz =>
      cases h
      exact .refused hz
    | ignored hr => exact absurd rfl hr
    | prmEnd hs hc hu hr hb =>
      obtain ⟨dst, c', hd, hc', hv, rfl, rfl⟩ := apply_answer_call h
      cases hc.symm.trans hc'
      exact .prmEnd ho hp hcmd hs hc hu hb hd hv
    | prmEndAgain hs hc hu hr =>
      cases h
      exact .told
  | release ho hp ht =>
    cases ht with
    | refused hr hz =>
      cases h
      exact .refused hz
    | ignored hr => exact absurd rfl hr
    | releaseIdle hs hr =>
      cases h
      exact .told
    | release hs hc hu hr =>
      cases h
      exact .release hs

/-- A request for another interface is refused before anything else. -/
lemma handleDatagram_interface {buf : Bytes} {h : RpcHeader} (hh : RpcHeader.parse buf = .ok h)
    (ht : h.ptype = .request) (hok : cm.handleDatagram buf src now = .ok (cm', out)) :
    h.interface = pnioDeviceInterface := by
  simp only [handleDatagram, hh, Res.ok_bind, ht] at hok
  obtain ⟨body, -, hok⟩ := Res.bind_eq_ok.1 hok
  rw [if_neg (by decide), if_neg (by simp)] at hok
  obtain ⟨_, hi, -⟩ := Res.bind_eq_ok.1 hok
  exact not_not.1 (Res.reject_eq_ok.1 hi)

lemma handleDatagram_stepped {buf : Bytes}
    (h : cm.handleDatagram buf src now = .ok (cm', out)) :
    Stepped cm (.datagram buf src now) cm' out := by
  cases handleDatagram_handled h with
  | response hh ht hn hon ha =>
    cases hon with
    | ignored hr =>
      cases ha
      exact .silent
    | appReady hs hz =>
      cases ha
      exact .data hs
    | appReadyRejected hs hz =>
      cases ha
      exact .rejected hs
    | refused hr hz => cases hr
  | other hh ht ht' => exact .silent
  | cached hh ht hl => exact .replay hh ht hl
  | fresh hh ht hl hn hs hctx ha =>
    subst hctx
    have hi := handleDatagram_interface hh ht h
    exact .request ⟨hh, ht, hi, hn⟩ hl (served_answered hs ha)

lemma tick_stepped (h : (cm.tick now : Res RpcError _) = .ok (cm', out)) :
    Stepped cm (.tick now) cm' out := by
  obtain ⟨⟨ar, acts⟩, hon, ha⟩ := Res.bind_eq_ok.1 h
  cases Ar.on_trans hon with
  | ignored hr =>
    cases ha
    exact .silent
  | activityTimeout hs hd =>
    cases ha
    exact .activityTimeout hs
  | appReadyFailed hs hd hm =>
    cases ha
    exact .failed hs hd hm
  | retry hs hd hm hc hb =>
    obtain ⟨dst, c', k, hdst, hc', hk, rfl, rfl⟩ := apply_again ha
    cases hc.symm.trans hc'
    exact .retry hs hd hm hc hb hdst hk
  | refused hr hz => cases hr

lemma abort_stepped {reason : AbortReason}
    (h : (cm.abort reason now : Res RpcError _) = .ok (cm', out)) :
    Stepped cm (.abort reason now) cm' out := by
  by_cases hs : cm.ar.state = .idle
  · cases (abort_idle hs).symm.trans h
    exact .silent
  · cases (abort_of_ne hs).symm.trans h
    exact .aborted hs

/-- **Inversion**: whatever a step returns is one of the listed cases. -/
theorem step_stepped {i : CmInput} (h : cm.step i = some (cm', out)) : Stepped cm i cm' out := by
  cases i with
  | datagram buf src now =>
    rcases settle_cases h with hok | ⟨-, rfl, rfl⟩
    · exact handleDatagram_stepped hok
    · exact .silent
  | tick now =>
    rcases settle_cases h with hok | ⟨-, rfl, rfl⟩
    · exact tick_stepped hok
    · exact .silent
  | abort reason now =>
    rcases settle_cases h with hok | ⟨-, rfl, rfl⟩
    · exact abort_stepped hok
    · exact .silent

/-! ### The joint invariant of the AR and the manager -/

/-- What the calls to the controller rely on. -/
structure Joint (cm : Cm) : Prop where
  ctx : cm.ar.state ≠ .idle ↔ cm.ar.ctx ≠ none
  addr : cm.ar.state ≠ .idle → ∃ dst, cm.controllerAddr = some dst
  call : cm.ar.state = .appReadySent → ∃ k, cm.currentCallSeq = some k
  model : cm.ar.model = cm.model

lemma joint_new (model : DeviceModel) (seed : Uuid) (im0 : Im0) (im : ImStore) :
    Joint { Cm.new model seed with im0, im } :=
  ⟨by simp [Cm.new, Ar.new], by simp [Cm.new, Ar.new], by simp [Cm.new, Ar.new], rfl⟩

lemma Joint.dropped (h : cm.Joint) : Joint { cm with ar := cm.ar.dropped } :=
  ⟨by simp [Ar.dropped], by simp [Ar.dropped], by simp [Ar.dropped], h.model⟩

lemma Joint.keep (h : cm.Joint) (ctx : RespondCtx) (s : PnioStatus) (b : Bytes) :
    (cm.keep ctx s b).Joint :=
  ⟨h.ctx, h.addr, h.call, h.model⟩

lemma Answered.joint (hr : Answered cm opnum blocks now ctx cm' out) (h : cm.Joint) :
    cm'.Joint := by
  cases hr with
  | refused hz => exact h.keep ..
  | told => exact h.keep ..
  | connect hp hs hv =>
    apply Joint.keep
    refine ⟨?_, fun _ => ⟨_, rfl⟩, ?_, h.model⟩
    · simp [connectedFrom, Ar.established]
    · simp [connectedFrom, Ar.established]
  | takeover hp hs hc hv =>
    apply Joint.keep
    refine ⟨?_, fun _ => ⟨_, rfl⟩, ?_, h.model⟩
    · simp [connectedFrom, Ar.established]
    · simp [connectedFrom, Ar.established]
  | takeoverRefused ho hp hs hc hz ht => exact h.dropped.keep ..
  | write hs hc =>
    apply Joint.keep
    refine ⟨?_, h.addr, h.call, h.model⟩
    simpa [Ar.stored] using hs
  | prmEnd ho hp hcmd hs hc hu hb hd hv =>
    refine ⟨?_, fun _ => ⟨_, hd⟩, fun _ => ⟨_, rfl⟩, h.model⟩
    simp [called, Cm.keep, Ar.readySent, hc]
  | release hs => exact h.dropped.keep ..

lemma Stepped.joint {i : CmInput} (hst : Stepped cm i cm' out) (h : cm.Joint) : cm'.Joint := by
  cases hst with
  | silent => exact h
  | replay hh ht hl => exact h
  | request ha hl hr => exact hr.joint h
  | data hs =>
    refine ⟨?_, fun _ => h.addr (by simp [hs]), by simp [Ar.inData], h.model⟩
    have hc := h.ctx.1 (by simp [hs])
    simpa [Ar.inData] using hc
  | rejected hs => exact h.dropped
  | activityTimeout hs => exact h.dropped
  | retry hs hdue ha hc hb hd hk =>
    refine ⟨?_, fun _ => ⟨_, hd⟩, fun _ => ⟨_, hk⟩, h.model⟩
    simp [Ar.retried, hs, hc]
  | failed hs hdue ha => exact h.dropped
  | aborted hs => exact h.dropped

end Cm

end Pnio
