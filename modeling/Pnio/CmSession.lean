import Pnio.CmRun

/-!
Requests and the AR they are about: what an OK answer to a Connect says about the AR, and
which AR a control request may touch.
-/

namespace Pnio

/-! ### An OK answer to a Connect -/

/-- `buf` is a Connect request with this header and these blocks. -/
structure IsConnect (buf : Bytes) (h : RpcHeader) (req : ConnectReq) : Prop where
  header : RpcHeader.parse buf = .ok h
  ptype : h.ptype = .request
  opnum : Opnum.fromU16 h.opnum = some .connect
  body : ∃ n blocks, NdrRequest.parse (buf.drop 80) h.drep = .ok (n, blocks) ∧
    ConnectReq.parse blocks = .ok req

/-- The output holds a Response to the request with this header, and its status is OK. -/
def AnsweredOk (h : RpcHeader) (out : CmOutput) : Prop :=
  ∃ o ∈ out.send, ∃ h' ∈ okResponse o.bytes, h'.activity = h.activity ∧ h'.seqNum = h.seqNum

/-- An AR is established with exactly the request's AR and session. -/
def Cm.Established (cm : Cm) (req : ConnectReq) : Prop :=
  cm.ar.state ≠ .idle ∧
    ∃ p ∈ cm.params, p.arUuid = req.ar.arUuid ∧ p.sessionKey = req.ar.sessionKey

instance (cm : Cm) (req : ConnectReq) : Decidable (cm.Established req) :=
  inferInstanceAs (Decidable (_ ∧ ∃ p ∈ cm.params, _))

lemma okResponse_refusalPdu (ctx : RespondCtx) {s : PnioStatus} (hs : s.val ≠ 0) (b : Bytes) :
    okResponse (buildResponsePdu ctx s b) = none := by
  obtain ⟨n, hh⟩ := parse_responsePdu ctx s b
  have hn := parse_refusalPdu ctx hs b
  have hd : (responseHeader ctx n).drep = .big := rfl
  unfold okResponse
  simp only [hh, hd, hn]
  rw [if_pos (show (responseHeader ctx n).ptype = .response from rfl)]
  exact if_neg hs

/-- A response echoes the activity and the number of its request. -/
lemma okResponse_responsePdu {ctx : RespondCtx} {s : PnioStatus} {b : Bytes} {h : RpcHeader}
    (ho : okResponse (buildResponsePdu ctx s b) = some h) :
    h.activity = ctx.activity ∧ h.seqNum = ctx.seqNum := by
  obtain ⟨n, hh⟩ := parse_responsePdu ctx s b
  cases hh.symm.trans (okResponse_header ho).1
  exact ⟨rfl, rfl⟩

/-- A Connect that is executed and answered OK leaves its AR established. -/
lemma Cm.served_connect_ok {ε : Type} {cm cm1 cm' : Cm} {opnum : UInt16} {blocks : Bytes}
    {src : SocketAddr} {now : Instant} {acts : List Action} {ctx : RespondCtx} {out : CmOutput}
    {h : RpcHeader} {req : ConnectReq} (ho : Opnum.fromU16 opnum = some .connect)
    (hp : ConnectReq.parse blocks = .ok req) (hs : Served ε cm opnum blocks src now cm1 acts)
    (ha : (cm1.apply acts (some ctx) true : Res ε _) = .ok (cm', out)) (hok : AnsweredOk h out) :
    cm'.Established req := by
  have har := (apply_frame ha).2
  have refused : ∀ {s : PnioStatus} {l : List (ArState × Option AbortReason)}, s.val ≠ 0 →
      out = ⟨[{ bytes := buildResponsePdu ctx s [], dst := ctx.src }], l⟩ → False := by
    rintro s l hz rfl
    obtain ⟨o, hm, h', ho', -⟩ := hok
    rw [List.mem_singleton.1 hm, okResponse_refusalPdu ctx hz] at ho'
    cases ho'
  cases hs with
  | refused hz => cases ha; exact (refused hz rfl).elim
  | read ho' => rcases ho' with ho' | ho' <;> cases ho.symm.trans ho'
  | write ho' => cases ho.symm.trans ho'
  | prmEnd ho' => cases ho.symm.trans ho'
  | release ho' => cases ho.symm.trans ho'
  | @connect req' ar acts ho' hp' ht =>
    cases hp.symm.trans hp'
    replace har : cm'.ar = ar := har.trans (by simp)
    cases ht with
    | refused hr hz => cases ha; exact (refused hz rfl).elim
    | takeoverRefused hst hc hz hu => cases ha; exact (refused hz rfl).elim
    | ignored hr => exact absurd rfl hr
    | connect hst hv hb =>
      obtain ⟨h1, h2, -⟩ := validate_arUuid_sessionKey hv
      exact ⟨by simp [har, Ar.established], _, by rw [params, har]; rfl, h1, h2⟩
    | takeover hst hc hn hu hv hb =>
      obtain ⟨h1, h2, -⟩ := validate_arUuid_sessionKey hv
      exact ⟨by simp [har, Ar.established], _, by rw [params, har]; rfl, h1, h2⟩
    | resend hst hc hu hk =>
      exact ⟨by rw [har]; exact hst, _, by rw [params, har, hc]; rfl, hu.symm, hk.symm⟩

/-- No OK response is cached under the number of the request. -/
def Cm.NoOkCached (cm : Cm) (h : RpcHeader) : Prop :=
  ∀ pdu ∈ cm.cacheLookup (h.activity, h.seqNum), okResponse pdu = none

instance (cm : Cm) (h : RpcHeader) : Decidable (cm.NoOkCached h) :=
  inferInstanceAs (Decidable (∀ pdu ∈ cm.cacheLookup _, _))

/-- **When an OK answer to a Connect is true**: the controller that is told its Connect succeeded
has its AR on the device, exactly when the answer does not come from the cache or the AR was
there before. -/
theorem connect_ok_established_iff {model : DeviceModel} {seed : Uuid} {r : CmRun}
    (hr : (cmSystem model seed).Reach r) {buf : Bytes} {src : SocketAddr} {now : Instant}
    {h : RpcHeader} {req : ConnectReq} {cm' : Cm} {out : CmOutput} (hb : IsConnect buf h req)
    (hh : r.cm.handleDatagram buf src now = .ok (cm', out)) :
    (AnsweredOk h out → cm'.Established req) ↔ r.cm.NoOkCached h ∨ r.cm.Established req := by
  have hi := callInv_reach hr
  obtain ⟨n, blocks, hn, hp⟩ := hb.body
  cases Cm.handleDatagram_handled hh with
  | response hh' ht => cases hb.header.symm.trans hh'; cases hb.ptype.symm.trans ht
  | other hh' ht ht' => cases hb.header.symm.trans hh'; exact absurd hb.ptype ht'
  | @cached h' pdu hh' ht hl =>
    cases hb.header.symm.trans hh'
    have hok : AnsweredOk h ⟨[{ bytes := pdu, dst := src }], []⟩ ↔ okResponse pdu ≠ none := by
      constructor
      · rintro ⟨o, ho, h', ho', -⟩ hnone
        rw [List.mem_singleton.1 ho, hnone] at ho'
        cases ho'
      · intro hne
        obtain ⟨h', ho'⟩ := Option.ne_none_iff_exists'.1 hne
        obtain ⟨ctx, s, b, h1, h2, rfl⟩ := Cm.cached_response hi.cache hl
        obtain ⟨h3, h4⟩ := okResponse_responsePdu ho'
        exact ⟨_, List.mem_singleton.2 rfl, h', ho', h3.trans h1, h4.trans h2⟩
    have hno : r.cm.NoOkCached h ↔ okResponse pdu = none := by simp [Cm.NoOkCached, hl]
    rw [hok, hno]
    by_cases hc : okResponse pdu = none <;> simp [hc]
  | @fresh h' n' blocks' cm1 _ acts ctx _ hh' ht hl hn' hs hctx ha =>
    cases hb.header.symm.trans hh'
    cases hn.symm.trans hn'
    have hno : r.cm.NoOkCached h := by simp [Cm.NoOkCached, hl]
    exact iff_of_true (Cm.served_connect_ok hb.opnum hp hs ha) (.inl hno)

/-- The header and the blocks of a Connect request. -/
def connectOf (buf : Bytes) : Option (RpcHeader × ConnectReq) :=
  match RpcHeader.parse buf with
  | .ok h =>
    match NdrRequest.parse (buf.drop 80) h.drep with
    | .ok (_, blocks) =>
      match ConnectReq.parse blocks with
      | .ok req =>
        if h.ptype = .request ∧ Opnum.fromU16 h.opnum = some .connect then some (h, req) else none
      | _ => none
    | _ => none
  | _ => none

lemma isConnect_of_connectOf {buf : Bytes} {h : RpcHeader} {req : ConnectReq}
    (hc : connectOf buf = some (h, req)) : IsConnect buf h req := by
  unfold connectOf at hc
  split at hc <;> [rename_i h' hh; cases hc]
  split at hc <;> [rename_i n blocks hn; cases hc]
  split at hc <;> [rename_i req' hp; cases hc]
  split_ifs at hc with ht
  cases hc
  exact ⟨hh, ht.1, ht.2, n, blocks, hn, hp⟩

open Demo

/-- The Connect `buf` is taken, is answered OK and its AR is or is not there afterwards. -/
def connectTaken (buf : Bytes) (present : Bool) (r : CmRun) : Bool :=
  match r.cm.handleDatagram buf plc 0, connectOf buf with
  | .ok (cm', out), some (h, req) =>
    out.send.any (fun o => (okResponse o.bytes).any fun h' =>
      h'.activity = h.activity ∧ h'.seqNum = h.seqNum) &&
    decide (cm'.Established req ↔ present = true)
  | _, _ => false

lemma connectTaken_spec {buf : Bytes} {present : Bool} {r : CmRun}
    (hp : connectTaken buf present r = true) :
    ∃ h req cm' out, IsConnect buf h req ∧ r.cm.handleDatagram buf plc 0 = .ok (cm', out) ∧
      AnsweredOk h out ∧ (cm'.Established req ↔ present = true) := by
  unfold connectTaken at hp
  split at hp
  · rename_i cm' out h req hh hc
    simp only [Bool.and_eq_true, List.any_eq_true, Option.any_eq_true, decide_eq_true_eq] at hp
    obtain ⟨⟨o, ho, h', ho', he⟩, hp⟩ := hp
    exact ⟨h, req, cm', out, isConnect_of_connectOf hc, hh, ⟨o, ho, h', ho', he⟩, hp⟩
  · cases hp

/-- A first Connect is answered OK, and its AR is there. -/
theorem first_connect_established :
    ∃ r h req cm' out, (cmSystem Demo.model Demo.seed).Reach r ∧ IsConnect (connect 0 1) h req ∧
      r.cm.handleDatagram (connect 0 1) plc 0 = .ok (cm', out) ∧ AnsweredOk h out ∧
      cm'.Established req ∧
      ((AnsweredOk h out → cm'.Established req) ↔
        r.cm.NoOkCached h ∨ r.cm.Established req) := by
  have hrun : ((cmSystem Demo.model Demo.seed).run start []).any
      (connectTaken (connect 0 1) true) = true := by decide +kernel
  obtain ⟨r, hr, hp⟩ := System.exists_reach_of_run start_init hrun
  obtain ⟨h, req, cm', out, hb, hh, hok, he⟩ := connectTaken_spec hp
  exact ⟨r, h, req, cm', out, hr, hb, hh, hok, he.2 rfl, connect_ok_established_iff hr hb hh⟩

/-- After a Release, a delayed duplicate of the Connect is answered OK from the cache and no AR is
there. -/
theorem cached_connect_without_ar :
    ¬ ∀ (model : DeviceModel) (seed : Uuid) (r : CmRun) (buf : Bytes) (src : SocketAddr)
        (now : Instant) (h : RpcHeader) (req : ConnectReq) (cm' : Cm) (out : CmOutput),
        (cmSystem model seed).Reach r → IsConnect buf h req →
        r.cm.handleDatagram buf src now = .ok (cm', out) → AnsweredOk h out →
        cm'.Established req := by
  intro hall
  have hrun : ((cmSystem Demo.model Demo.seed).run start
      [recv (connect 0 1), recv (release 1 1)]).any
      (connectTaken (connect 0 1) false) = true := by decide +kernel
  obtain ⟨r, hr, hp⟩ := System.exists_reach_of_run start_init hrun
  obtain ⟨h, req, cm', out, hb, hh, hok, he⟩ := connectTaken_spec hp
  exact absurd (he.1 (hall _ _ r _ plc 0 h req cm' out hr hb hh hok)) (by decide)

/-! ### Control requests -/

/-- `buf` is a PrmEnd or a Release request with this control block. -/
structure IsControl (buf : Bytes) (cb : ControlBlock) : Prop where
  request : ∃ h n blocks, RpcHeader.parse buf = .ok h ∧ h.ptype = .request ∧
    NdrRequest.parse (buf.drop 80) h.drep = .ok (n, blocks) ∧
    ControlBlock.parse blocks = .ok cb ∧
    (Opnum.fromU16 h.opnum = some .control ∧ cb.command = ControlCmd.prmEnd ∨
      Opnum.fromU16 h.opnum = some .release)

/-- The datagram changes the AR or places a call. -/
def Touches (cm cm' : Cm) (out : CmOutput) : Prop := cm'.ar ≠ cm.ar ∨ out.calls ≠ []

/-- **Control requests touch only the AR they name.** -/
theorem control_touches_named_ar {model : DeviceModel} {seed : Uuid} {r : CmRun}
    (hr : (cmSystem model seed).Reach r) {buf : Bytes} {src : SocketAddr} {now : Instant}
    {cb : ControlBlock} {cm' : Cm} {out : CmOutput} (hb : IsControl buf cb)
    (hh : r.cm.handleDatagram buf src now = .ok (cm', out)) (ht : Touches r.cm cm' out) :
    r.cm.ar.state ≠ .idle ∧ ∃ p ∈ r.cm.params, p.arUuid = cb.arUuid := by
  have hi := callInv_reach hr
  obtain ⟨h, n, blocks, hh1, hreq, hn, hp, hop⟩ := hb.request
  have still : ∀ {ctx : RespondCtx} {s : PnioStatus} {b : Bytes} {l},
      ¬ Touches r.cm (r.cm.cacheInsert (ctx.activity, ctx.seqNum) (buildResponsePdu ctx s b))
        ⟨[{ bytes := buildResponsePdu ctx s b, dst := ctx.src }], l⟩ := by
    intro ctx s b l hx
    simp [Touches, CmOutput.calls] at hx
  cases Cm.handleDatagram_handled hh with
  | response hh' hty => cases hh1.symm.trans hh'; cases hreq.symm.trans hty
  | other hh' hty hty' => cases hh1.symm.trans hh'; exact absurd hreq hty'
  | @cached h' pdu hh' hty hl =>
    obtain ⟨ctx, s, b, -, -, rfl⟩ := Cm.cached_response hi.cache hl
    simp [Touches, CmOutput.calls] at ht
  | fresh hh' hty hl hn' hs hctx ha =>
    cases hh1.symm.trans hh'
    cases hn.symm.trans hn'
    cases hs with
    | refused hz => cases ha; exact (still ht).elim
    | read ho => cases ha; exact (still ht).elim
    | connect ho => rcases hop with ⟨ho', -⟩ | ho' <;> cases ho.symm.trans ho'
    | write ho => rcases hop with ⟨ho', -⟩ | ho' <;> cases ho.symm.trans ho'
    | prmEnd ho hp' hc htr =>
      cases hp.symm.trans hp'
      cases htr with
      | refused _ hz => cases ha; exact (still ht).elim
      | ignored hr' => exact absurd rfl hr'
      | prmEnd hst hctx hu => exact ⟨by simp [hst], _, by simp [Cm.params, hctx], hu.symm⟩
      | prmEndAgain hst hctx hu => exact ⟨hst, _, by simp [Cm.params, hctx], hu.symm⟩
    | release ho hp' htr =>
      cases hp.symm.trans hp'
      cases htr with
      | refused _ hz => cases ha; exact (still ht).elim
      | ignored hr' => exact absurd rfl hr'
      | releaseIdle hst => cases ha; exact (still ht).elim
      | release hst hctx hu => exact ⟨hst, _, by simp [Cm.params, hctx], hu.symm⟩

/-- The control block of a PrmEnd or Release request. -/
def controlOf (buf : Bytes) : Option ControlBlock :=
  match RpcHeader.parse buf with
  | .ok h =>
    match NdrRequest.parse (buf.drop 80) h.drep with
    | .ok (_, blocks) =>
      match ControlBlock.parse blocks with
      | .ok cb =>
        if h.ptype = .request ∧ (Opnum.fromU16 h.opnum = some .control ∧
            cb.command = ControlCmd.prmEnd ∨ Opnum.fromU16 h.opnum = some .release) then some cb
        else none
      | _ => none
    | _ => none
  | _ => none

lemma isControl_of_controlOf {buf : Bytes} {cb : ControlBlock} (hc : controlOf buf = some cb) :
    IsControl buf cb := by
  unfold controlOf at hc
  split at hc <;> [rename_i h hh; cases hc]
  split at hc <;> [rename_i n blocks hn; cases hc]
  split at hc <;> [rename_i cb' hp; cases hc]
  split_ifs at hc with ht
  cases hc
  exact ⟨h, n, blocks, hh, ht.1, hn, hp, ht.2⟩

/-- The control request `buf` is taken and changes the AR, whose session it does or does not
name. -/
def controlTaken (buf : Bytes) (named : Bool) (r : CmRun) : Bool :=
  match r.cm.handleDatagram buf plc 0, controlOf buf with
  | .ok (cm', _), some cb =>
    cm'.ar ≠ r.cm.ar ∧ (r.cm.params.map (·.sessionKey) = some cb.sessionKey ↔ named = true)
  | _, _ => false

lemma controlTaken_spec {buf : Bytes} {named : Bool} {r : CmRun}
    (hp : controlTaken buf named r = true) :
    ∃ cb cm' out, IsControl buf cb ∧ r.cm.handleDatagram buf plc 0 = .ok (cm', out) ∧
      Touches r.cm cm' out ∧
      (r.cm.params.map (·.sessionKey) = some cb.sessionKey ↔ named = true) := by
  unfold controlTaken at hp
  split at hp
  · rename_i cm' out cb hh hc
    simp only [decide_eq_true_eq] at hp
    exact ⟨cb, cm', out, isControl_of_controlOf hc, hh, .inl hp.1, hp.2⟩
  · cases hp

/-- The PrmEnd of the established session moves its AR on. -/
theorem prmEnd_touches_its_ar :
    ∃ r cb cm' out, (cmSystem Demo.model Demo.seed).Reach r ∧ IsControl (prmEnd 1 1) cb ∧
      r.cm.handleDatagram (prmEnd 1 1) plc 0 = .ok (cm', out) ∧ Touches r.cm cm' out ∧
      r.cm.ar.state ≠ .idle ∧ ∃ p ∈ r.cm.params, p.arUuid = cb.arUuid := by
  have hrun : ((cmSystem Demo.model Demo.seed).run start [recv (connect 0 1)]).any
      (controlTaken (prmEnd 1 1) true) = true := by decide +kernel
  obtain ⟨r, hr, hp⟩ := System.exists_reach_of_run start_init hrun
  obtain ⟨cb, cm', out, hb, hh, ht, -⟩ := controlTaken_spec hp
  exact ⟨r, cb, cm', out, hr, hb, hh, ht, control_touches_named_ar hr hb hh ht⟩

/-- A Release of the first session that arrives after the reconnect with a new session key ends
the second session. -/
theorem old_session_release_ends_new_session :
    ¬ ∀ (model : DeviceModel) (seed : Uuid) (r : CmRun) (buf : Bytes) (src : SocketAddr)
        (now : Instant) (cb : ControlBlock) (cm' : Cm) (out : CmOutput),
        (cmSystem model seed).Reach r → IsControl buf cb →
        r.cm.handleDatagram buf src now = .ok (cm', out) → Touches r.cm cm' out →
        r.cm.ar.state ≠ .idle ∧
          ∃ p ∈ r.cm.params, p.arUuid = cb.arUuid ∧ p.sessionKey = cb.sessionKey := by
  intro hall
  have hrun : ((cmSystem Demo.model Demo.seed).run start [recv (connect 0 1), recv (prmEnd 1 1),
      recv (answer 0), recv (connect 3 2)]).any
      (controlTaken (release 2 1) false) = true := by decide +kernel
  obtain ⟨r, hr, hp⟩ := System.exists_reach_of_run start_init hrun
  obtain ⟨cb, cm', out, hb, hh, ht, hne⟩ := controlTaken_spec hp
  obtain ⟨-, p, hp, -, hk⟩ := hall _ _ r _ plc 0 cb cm' out hr hb hh ht
  have heq : r.cm.params.map (·.sessionKey) = some cb.sessionKey := by
    rw [Option.mem_def.1 hp, ← hk]; rfl
  exact absurd (hne.1 heq) (by decide)

end Pnio
