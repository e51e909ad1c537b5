import Pnio.ArRun
import Pnio.CmWire

/-!
A controller always gets through: from every state the manager can reach, a Connect that is valid
for the device, the PrmEnd and the answer to ApplicationReady lead to `Data`, whatever other traffic
arrives in between.
-/

namespace Pnio

/-! ### The messages of the controller -/

/-- A Connect that is valid for the device, with the AR it asks for. -/
structure Connects (model : DeviceModel) (buf : Bytes) (h : RpcHeader) (req : ConnectReq)
    (p : ArParams) : Prop where
  asked : ∃ n blocks, Asked buf h n blocks ∧ ConnectReq.parse blocks = .ok req
  opnum : Opnum.fromU16 h.opnum = some .connect
  valid : validate req model = .ok p

/-- A PrmEnd for an AR. -/
structure EndsParams (buf : Bytes) (h : RpcHeader) (arUuid : Uuid) : Prop where
  asked : ∃ n blocks cb, Asked buf h n blocks ∧ ControlBlock.parse blocks = .ok cb ∧
    cb.command = ControlCmd.prmEnd ∧ cb.arUuid = arUuid
  opnum : Opnum.fromU16 h.opnum = some .control

/-! ### The traffic in between -/

/-- The datagram is about the AR `p`: a Response, a Connect for it or from its initiator, a PrmEnd
or a Release for it. -/
inductive Concerns (p : ArParams) (buf : Bytes) : Prop
  | answer {h : RpcHeader} (hh : RpcHeader.parse buf = .ok h) (ht : h.ptype = .response)
  | connect {h : RpcHeader} {n : NdrRequest} {blocks : Bytes} {req : ConnectReq}
      (ha : Asked buf h n blocks) (ho : Opnum.fromU16 h.opnum = some .connect)
      (hp : ConnectReq.parse blocks = .ok req)
      (hu : req.ar.arUuid = p.arUuid ∨ req.ar.initiatorObjectUuid = p.initiatorObjectUuid)
  | control {h : RpcHeader} {n : NdrRequest} {blocks : Bytes} {cb : ControlBlock}
      (ha : Asked buf h n blocks)
      (ho : Opnum.fromU16 h.opnum = some .control ∨ Opnum.fromU16 h.opnum = some .release)
      (hp : ControlBlock.parse blocks = .ok cb) (hu : cb.arUuid = p.arUuid)

namespace Cm

variable {cm cm' : Cm} {p : ArParams} {keys : Set CacheKey} {now : Instant} {out : CmOutput}

/-- A tick at this time ends the AR. -/
def Expires (cm : Cm) (now : Instant) : Prop :=
  cm.ar.state = .connected ∧ Ar.due cm.ar.activityDeadline now ∨
    cm.ar.state = .appReadySent ∧ Ar.due cm.ar.appReadyDeadline now ∧
      ¬ cm.ar.appReadyAttempts < appReadyMaxAttempts

/-- A request that was answered before, and is answered from the cache. -/
def Repeats (cm : Cm) (buf : Bytes) : Prop :=
  ∃ h bytes, RpcHeader.parse buf = .ok h ∧ h.ptype = .request ∧ cm.cacheLookup h.key = some bytes

/-- The input repeats an earlier one, or it is not about the AR and leaves `keys` free; and it does
not come too late for the AR. -/
def Spares (p : ArParams) (keys : Set CacheKey) (cm : Cm) : CmInput → Prop
  | .datagram buf _ _ => cm.Repeats buf ∨
      ¬ Concerns p buf ∧ ∀ h, RpcHeader.parse buf = .ok h → h.key ∉ keys
  | .tick now => ¬ cm.Expires now
  | .abort _ _ => False

/-- The manager after such inputs. -/
def Meanwhile (p : ArParams) (keys : Set CacheKey) (cm : Cm) : Cm → Prop :=
  System.ReachWhen
    { init := (· = cm), step := fun (c : Cm) (i : CmInput) => (c.step i).map (·.1) }
    fun c i => c.Spares p keys i

/-- The AR `p` is in the state `st`, its controller at `dst`, and `keys` are not in the cache. -/
structure Awaits (model : DeviceModel) (p : ArParams) (st : ArState) (dst : SocketAddr)
    (keys : Set CacheKey) (seq : UInt32) (cm : Cm) : Prop where
  joint : cm.Joint
  model : cm.model = model
  state : cm.ar.state = st
  params : cm.params = some p
  addr : cm.controllerAddr = some dst
  fresh : ∀ key ∈ keys, cm.cacheLookup key = none
  callSeq : cm.callSeq = seq

lemma cacheLookup_cacheInsert {key key' : CacheKey} (hne : key' ≠ key) (pdu : Bytes)
    (h : cm.cacheLookup key = none) : (cm.cacheInsert key' pdu).cacheLookup key = none := by
  simp only [cacheLookup, Option.map_eq_none_iff, List.find?_eq_none] at h ⊢
  intro e he
  simp only [cacheInsert, List.mem_append, List.mem_singleton] at he
  rcases he with he | rfl
  · refine h e ?_
    split_ifs at he
    · exact List.mem_of_mem_tail he
    · exact he
  · simpa using hne

variable {model : DeviceModel} {st : ArState} {dst : SocketAddr} {seq : UInt32}

lemma Awaits.keep (h : cm.Awaits model p st dst keys seq) {ctx : RespondCtx}
    (hne : (ctx.activity, ctx.seqNum) ∉ keys) (s : PnioStatus) (b : Bytes) :
    (cm.keep ctx s b).Awaits model p st dst keys seq := by
  refine ⟨h.joint.keep .., h.model, h.state, h.params, h.addr, fun key hk => ?_, h.callSeq⟩
  refine cacheLookup_cacheInsert ?_ _ (h.fresh key hk)
  rintro rfl
  exact hne hk

lemma Awaits.ctx (h : cm.Awaits model p st dst keys seq) :
    ∃ c, cm.ar.ctx = some c ∧ c.params = p :=
  Option.map_eq_some_iff.1 h.params

/-- The AR with other records, or after another call. -/
lemma Awaits.withAr (h : cm.Awaits model p st dst keys seq) {ar : Ar} {im : ImStore}
    (hm : ar.model = cm.ar.model) (hs : ar.state = cm.ar.state)
    (hc : ar.ctx.map (·.params) = cm.ar.ctx.map (·.params)) :
    ({ cm with ar, im } : Cm).Awaits model p st dst keys seq := by
  refine ⟨⟨?_, ?_, ?_, ?_⟩, h.model, hs.trans h.state, hc.trans h.params, h.addr, h.fresh,
    h.callSeq⟩
  · obtain ⟨c, hctx, -⟩ := h.ctx
    have hsome : ar.ctx ≠ none := by
      intro hn
      rw [hn, hctx] at hc
      cases hc
    have hold : cm.ar.state ≠ .idle := h.joint.ctx.2 (by rw [hctx]; simp)
    exact ⟨fun _ => hsome, fun _ => by rw [← hs] at hold; exact hold⟩
  · simpa only [hs] using h.joint.addr
  · simpa only [hs] using h.joint.call
  · exact hm.trans h.joint.model

/-- **Other traffic leaves the AR alone.** -/
lemma Awaits.served (hw : cm.Awaits model p st dst keys seq) (hst : st ≠ .idle) {buf blocks : Bytes}
    {h : RpcHeader} {n : NdrRequest} {src : SocketAddr} {cm1 : Cm} {acts : List Action}
    (hno : ¬ Concerns p buf) (ha : Asked buf h n blocks)
    (hs : Served RpcError cm h.opnum blocks src now cm1 acts) :
    cm1.Awaits model p st dst keys seq ∧ cm1.ar.appReadyAttempts = cm.ar.appReadyAttempts ∧
      ∃ s b, acts = [.respond s b] := by
  obtain ⟨c, hc, rfl⟩ := hw.ctx
  have hne : cm.ar.state ≠ .idle := by rw [hw.state]; exact hst
  cases hs with
  | refused hz => exact ⟨hw, rfl, _, _, rfl⟩
  | read ho => exact ⟨hw, rfl, _, _, rfl⟩
  | connect ho hp ht =>
    cases ht with
    | refused hr hz => exact ⟨hw, rfl, _, _, rfl⟩
    | ignored hr => exact absurd rfl hr
    | connect hs => exact absurd hs hne
    | resend hs hc' hu hk =>
      cases hc.symm.trans hc'
      exact absurd (.connect ha ho hp (.inl hu)) hno
    | takeover hs hc' hn ho' =>
      cases hc.symm.trans hc'
      exact absurd (.connect ha ho hp ho') hno
    | takeoverRefused hs hc' hz ho' =>
      cases hc.symm.trans hc'
      exact absurd (.connect ha ho hp ho') hno
  | write ho hp ht him =>
    cases ht with
    | refused hr hz => exact ⟨hw.withAr rfl rfl rfl, rfl, _, _, rfl⟩
    | ignored hr => exact absurd rfl hr
    | write hs hc' hu hcap hb =>
      cases hc.symm.trans hc'
      refine ⟨hw.withAr rfl rfl ?_, rfl, _, _, rfl⟩
      simp [Ar.stored, hc]
  | prmEnd ho hp hcmd ht =>
    cases ht with
    | refused hr hz => exact ⟨hw, rfl, _, _, rfl⟩
    | ignored hr => exact absurd rfl hr
    | prmEnd hs hc' hu =>
      cases hc.symm.trans hc'
      exact absurd (.control ha (.inl ho) hp hu) hno
    | prmEndAgain hs hc' hu =>
      cases hc.symm.trans hc'
      exact absurd (.control ha (.inl ho) hp hu) hno
  | release ho hp ht =>
    cases ht with
    | refused hr hz => exact ⟨hw, rfl, _, _, rfl⟩
    | ignored hr => exact absurd rfl hr
    | releaseIdle hs => exact absurd hs hne
    | release hs hc' hu =>
      cases hc.symm.trans hc'
      exact absurd (.control ha (.inr ho) hp hu) hno

lemma Awaits.datagram (hw : cm.Awaits model p st dst keys seq) (hst : st ≠ .idle) {buf : Bytes}
    {src : SocketAddr} (hno : ¬ Concerns p buf)
    (hkey : ∀ h, RpcHeader.parse buf = .ok h → h.key ∉ keys)
    (h : cm.step (.datagram buf src now) = some (cm', out)) :
    cm'.Awaits model p st dst keys seq ∧ cm'.ar.appReadyAttempts = cm.ar.appReadyAttempts := by
  rcases settle_cases h with hok | ⟨-, rfl, rfl⟩
  · cases handleDatagram_handled hok with
    | response hh ht hn hon ha => exact absurd (.answer hh ht) hno
    | other hh ht ht' => exact ⟨hw, rfl⟩
    | cached hh ht hl => exact ⟨hw, rfl⟩
    | fresh hh ht hl hn hs hctx ha =>
      subst hctx
      have hi := handleDatagram_interface hh ht hok
      obtain ⟨hw1, hat, s, b, rfl⟩ := hw.served hst hno ⟨hh, ht, hi, hn⟩ hs
      cases ha
      exact ⟨hw1.keep (hkey _ hh) s b, hat⟩
  · exact ⟨hw, rfl⟩

/-- What is answered from the cache changes nothing. -/
lemma Repeats.step_eq {buf : Bytes} {src : SocketAddr} (hr : cm.Repeats buf)
    (h : cm.step (.datagram buf src now) = some (cm', out)) : cm' = cm := by
  obtain ⟨hdr, bytes, hh, ht, hl⟩ := hr
  rcases settle_cases h with hok | ⟨-, rfl, -⟩
  · cases handleDatagram_handled hok with
    | response hh' ht' =>
      cases hh.symm.trans hh'
      cases ht.symm.trans ht'
    | other => rfl
    | cached => rfl
    | fresh hh' ht' hl' =>
      cases hh.symm.trans hh'
      cases hl.symm.trans hl'
  · rfl

/-- A tick ends the AR, or nothing happens, or the call is made again. -/
lemma Awaits.tick (hw : cm.Awaits model p st dst keys seq)
    (h : cm.step (.tick now) = some (cm', out)) :
    cm.Expires now ∧ cm'.ar.state = .idle ∨ cm' = cm ∨
      cm'.Awaits model p st dst keys seq ∧ st = .appReadySent ∧
        cm.ar.appReadyAttempts < appReadyMaxAttempts ∧ cm'.ar = cm.ar.retried now := by
  rcases settle_cases h with hok | ⟨-, rfl, rfl⟩
  · obtain ⟨⟨ar, acts⟩, hon, ha⟩ := Res.bind_eq_ok.1 hok
    cases Ar.on_trans hon with
    | ignored hr =>
      cases ha
      exact .inr (.inl rfl)
    | activityTimeout hs hd =>
      cases ha
      exact .inl ⟨.inl ⟨hs, hd⟩, rfl⟩
    | appReadyFailed hs hd hm =>
      cases ha
      exact .inl ⟨.inr ⟨hs, hd, hm⟩, rfl⟩
    | retry hs hd hm hc hb =>
      obtain ⟨dst', c', k, -, -, -, rfl, rfl⟩ := apply_again ha
      exact .inr (.inr ⟨hw.withAr rfl rfl rfl, hw.state.symm.trans hs, hm, rfl⟩)
    | refused hr hz => cases hr
  · exact .inr (.inl rfl)

lemma Awaits.step (hw : cm.Awaits model p st dst keys seq) (hst : st ≠ .idle) {i : CmInput}
    (hsp : cm.Spares p keys i) (h : cm.step i = some (cm', out)) :
    cm'.Awaits model p st dst keys seq := by
  cases i with
  | datagram buf src now =>
    rcases hsp with hrep | ⟨hno, hkey⟩
    · rw [hrep.step_eq h]
      exact hw
    · exact (hw.datagram hst hno hkey h).1
  | tick now =>
    rcases hw.tick h with ⟨hexp, -⟩ | rfl | ⟨hw', -⟩
    · exact absurd hexp hsp
    · exact hw
    · exact hw'
  | abort reason now => exact hsp.elim

lemma Awaits.meanwhile (hw : cm.Awaits model p st dst keys seq) (hst : st ≠ .idle)
    (h : cm.Meanwhile p keys cm') : cm'.Awaits model p st dst keys seq := by
  refine System.ReachWhen.inv (I := fun c => c.Awaits model p st dst keys seq) ?_ ?_ h
  · rintro c rfl
    exact hw
  · intro c i c' hc hsp hs
    obtain ⟨⟨c1, out⟩, hstep, rfl⟩ := Option.map_eq_some_iff.1 hs
    exact hc.step hst hsp hstep

/-! ### The three steps -/

/-- The device is free for the request: it has no AR, or the one that the request replaces. -/
def FreeFor (cm : Cm) (req : ConnectReq) : Prop :=
  cm.ar.state = .idle ∨ ∃ c, cm.ar.ctx = some c ∧
    (req.ar.arUuid = c.params.arUuid ∨
      req.ar.initiatorObjectUuid = c.params.initiatorObjectUuid) ∧
    ¬ (req.ar.arUuid = c.params.arUuid ∧ req.ar.sessionKey = c.params.sessionKey)

variable {buf : Bytes} {h : RpcHeader} {req : ConnectReq} {src : SocketAddr}

lemma on_connect {ar : Ar} {res : Bytes} (hv : validate req ar.model = .ok p)
    (hres : (buildConnectRes p ar.model : Res RpcError _) = .ok res) (hs : ar.state = .idle) :
    (ar.on (.connectReq req) now : Res RpcError _) =
      .ok (ar.established p res now, [.respond .ok res, .notify .connected none]) := by
  simp only [Ar.on, Ar.handleConnect, hs, Ar.connectIdle, hv, Res.attempt_ok, Res.ok_bind, hres]

lemma on_reconnect {ar : Ar} {c : ArContext} {res : Bytes} (hv : validate req ar.model = .ok p)
    (hres : (buildConnectRes p ar.model : Res RpcError _) = .ok res) (hs : ar.state ≠ .idle)
    (hc : ar.ctx = some c)
    (ho : req.ar.arUuid = c.params.arUuid ∨
      req.ar.initiatorObjectUuid = c.params.initiatorObjectUuid)
    (hn : ¬ (req.ar.arUuid = c.params.arUuid ∧ req.ar.sessionKey = c.params.sessionKey)) :
    (ar.on (.connectReq req) now : Res RpcError _) =
      .ok (ar.dropped.established p res now, [.notify .idle (some .controllerReconnect),
        .respond .ok res, .notify .connected none]) := by
  have hv' : validate req ar.dropped.model = .ok p := hv
  have hres' : (buildConnectRes p ar.dropped.model : Res RpcError _) = .ok res := hres
  simp only [Ar.on, Ar.handleConnect, hc, Res.unwrap_some, Res.ok_bind, Bool.and_eq_true,
    Bool.or_eq_true, beq_iff_eq, if_neg hn, if_pos ho, Ar.abort, Ar.connectIdle, hv',
    Res.attempt_ok, hres']

lemma awaits_connectedFrom {ar : Ar} (hj : cm.Joint) (hm : cm.model = model)
    (hk : ∀ key ∈ keys, cm.cacheLookup key = none) (hs : ar.state = .connected)
    (hctx : ar.ctx.map (·.params) = some p) (hmod : ar.model = cm.ar.model) (src : SocketAddr) :
    (cm.connectedFrom ar src).Awaits model p .connected ⟨src.ip, pnioUdpPort⟩ keys cm.callSeq := by
  refine ⟨⟨⟨fun _ hnone => ?_, fun _ => ?_⟩, fun _ => ⟨_, rfl⟩, fun hcall => ?_,
    hmod.trans hj.model⟩, hm, hs, hctx, rfl, hk, rfl⟩
  · have hnone : ar.ctx = none := hnone
    rw [hnone] at hctx
    cases hctx
  · show ar.state ≠ .idle
    rw [hs]
    decide
  · have hcall : ar.state = .appReadySent := hcall
    rw [hs] at hcall
    cases hcall

/-- The Connect is answered, and the AR is established. -/
lemma step_connect (hj : cm.Joint) (hm : cm.model = model) (hn : model.NameFits)
    (hc : Connects model buf h req p) (hl : cm.cacheLookup h.key = none) (hf : cm.FreeFor req)
    (hk : ∀ key ∈ keys, cm.cacheLookup key = none) (hne : h.key ∉ keys) (src : SocketAddr)
    (now : Instant) :
    ∃ cm' out, cm.step (.datagram buf src now) = some (cm', out) ∧
      cm'.Awaits model p .connected ⟨src.ip, pnioUdpPort⟩ keys cm.callSeq := by
  obtain ⟨n, blocks, ha, hp⟩ := hc.asked
  have harm : cm.ar.model = model := hj.model.trans hm
  have hv : validate req cm.ar.model = .ok p := harm ▸ hc.valid
  have hname : cm.ar.model.NameFits := harm ▸ hn
  obtain ⟨res, hres⟩ := buildConnectRes_returns (ε := RpcError) p hname
  have hcon : ∀ ar : Ar, ar.state = .connected → ar.ctx.map (·.params) = some p →
      ar.model = cm.ar.model →
      ((cm.connectedFrom ar src).keep (h.respondCtx n src) .ok res).Awaits model p .connected
        ⟨src.ip, pnioUdpPort⟩ keys cm.callSeq := fun ar hs hctx hmod =>
    (awaits_connectedFrom hj hm hk hs hctx hmod src).keep hne _ _
  rw [step, handleDatagram_asked ha hl, serve, hc.opnum]
  rcases hf with hidle | ⟨c, hctx, ho, hnot⟩
  · simp only [serveConnect, hp, Res.attempt_ok, Res.ok_bind, on_connect hv hres hidle]
    exact ⟨_, _, rfl, hcon _ rfl rfl rfl⟩
  · have hs : cm.ar.state ≠ .idle := hj.ctx.2 (by simp [hctx])
    simp only [serveConnect, hp, Res.attempt_ok, Res.ok_bind, on_reconnect hv hres hs hctx ho hnot]
    exact ⟨_, _, rfl, hcon _ rfl rfl rfl⟩

/-- The PrmEnd is answered, and ApplicationReady is called at the controller. -/
lemma Awaits.step_prmEnd (hw : cm.Awaits model p .connected dst {h.key} seq)
    (hp : EndsParams buf h p.arUuid) (hseq : seq.toNat + 1 < 4294967296) (src : SocketAddr)
    (now : Instant) :
    ∃ cm' out, cm.step (.datagram buf src now) = some (cm', out) ∧
      (∃ o ∈ out.send, o.dst = dst ∧
        ReadsReady o.bytes p.initiatorObjectUuid cm.activitySeed seq p.arUuid p.sessionKey) ∧
      cm'.Awaits model p .appReadySent dst ∅ (seq + 1) := by
  obtain ⟨n, blocks, cb, ha, hparse, hcmd, hu⟩ := hp.asked
  obtain ⟨c, hctx, rfl⟩ := hw.ctx
  obtain rfl := hw.callSeq
  obtain ⟨r, hr⟩ := ControlBlock.write_returns (ε := RpcError) (prmEndDone cb)
  obtain ⟨call, hcall⟩ := ControlBlock.write_returns (ε := RpcError)
    (appReadyReq c.params.arUuid c.params.sessionKey)
  have hon : (cm.ar.on (.prmEndReq cb) now : Res RpcError _) =
      .ok (cm.ar.readySent now, [.respond .ok r, .callController call]) := by
    simp only [Ar.on, Ar.handlePrmEnd, hw.state, hctx, Res.unwrap_some, Res.ok_bind, hu, ne_eq,
      not_true_eq_false, if_false, hr, hcall]
  have hfirst : (applyOne (some (h.respondCtx n src)) true
      ({ cm with ar := cm.ar.readySent now }, ⟨[], []⟩) (.respond .ok r) : Res RpcError _) =
      .ok ({ cm with ar := cm.ar.readySent now }.keep (h.respondCtx n src) .ok r,
        ⟨[(h.respondCtx n src).reply .ok r], []⟩) := rfl
  have hpdu := buildCallPdu_new (ε := RpcError)
    ({ cm with ar := cm.ar.readySent now }.keep (h.respondCtx n src) .ok r) hctx
    hseq call
  rw [Cm.step, handleDatagram_asked ha (hw.fresh _ rfl), serve, hp.opnum]
  simp only [serveControl, hparse, Res.attempt_ok, Res.ok_bind, hcmd, if_true, hon]
  rw [Cm.apply, List.foldlM_cons, hfirst, Res.ok_bind, List.foldlM_cons, applyOne_call hpdu hw.addr]
  refine ⟨_, _, rfl, ⟨_, List.mem_append_right _ (List.mem_singleton.2 rfl), rfl,
    readsReady_callPdu _ _ _ hcall⟩, ?_⟩
  refine ⟨⟨?_, fun _ => ⟨_, hw.addr⟩, fun _ => ⟨_, rfl⟩, hw.joint.model⟩, hw.model, rfl, hw.params,
    hw.addr, fun _ hk => hk.elim, rfl⟩
  simp [called, Cm.keep, Cm.cacheInsert, Ar.readySent, hctx]

/-- The answer leads to `Data`. -/
lemma Awaits.step_answer (hw : cm.Awaits model p .appReadySent dst keys seq)
    (ho : okResponse buf = some h) (src : SocketAddr) (now : Instant) :
    ∃ cm', cm.step (.datagram buf src now) = some (cm', ⟨[], [(.data, none)]⟩) ∧
      cm'.ar.state = .data ∧ cm'.params = some p := by
  obtain ⟨n, bl, hh, ht, hn, hz⟩ : ∃ n bl, RpcHeader.parse buf = .ok h ∧ h.ptype = .response ∧
      NdrResponse.parse (buf.drop 80) h.drep = .ok (n, bl) ∧ n.status = 0 := by
    unfold okResponse at ho
    split at ho
    · rename_i h' hh
      split_ifs at ho with ht
      split at ho
      · rename_i n bl hn
        split_ifs at ho with hz
        cases ho
        exact ⟨n, bl, hh, ht, hn, hz⟩
      · cases ho
    · cases ho
  have hon : cm.ar.handleAppReadyRsp ⟨n.status⟩ = (cm.ar.inData, [.notify .data none]) := by
    simp [Ar.handleAppReadyRsp, hw.state, hz]
  have hd : cm.handleDatagram buf src now =
      .ok ({ cm with ar := cm.ar.inData }, ⟨[], [(.data, none)]⟩) := by
    unfold handleDatagram
    rw [hh, Res.ok_bind, slice_body hh, Res.ok_bind, if_pos ht, hn, Res.ok_bind]
    simp only [Ar.on, hon, Res.ok_bind]
    rfl
  refine ⟨{ cm with ar := cm.ar.inData }, ?_, rfl, hw.params⟩
  rw [Cm.step, hd]
  rfl

end Cm

/-- **A controller always gets through.** In every state the manager can reach in which the device
is free for the request, a valid Connect establishes its AR; the PrmEnd that follows is answered
with a call to the sender of the Connect, an ApplicationReady for this AR, and the answer to it
leads to `Data`. Between the messages any traffic may arrive that is not about this AR, garbage and
the requests of other controllers included, any request that is answered from the cache, such as a
retransmission of the Connect or the PrmEnd, and any ticks that do not come too late. -/
theorem handshake_reaches_data {model : DeviceModel} {seed : Uuid} {r : CmHist}
    (hn : model.NameFits) (hr : (histSystem model seed).Reach r)
    {connect prmEnd answer : Bytes} {h₁ h₂ h₃ : RpcHeader} {req : ConnectReq} {p : ArParams}
    (hc : Connects model connect h₁ req p) (hp : EndsParams prmEnd h₂ req.ar.arUuid)
    (ha : okResponse answer = some h₃) (hf : r.cm.FreeFor req)
    (hl₁ : r.cm.cacheLookup h₁.key = none) (hl₂ : r.cm.cacheLookup h₂.key = none)
    (hne : h₁.key ≠ h₂.key) (hseq : r.prmEnds + 1 < 4294967296)
    (src src₂ src₃ : SocketAddr) (now now₂ now₃ : Instant) :
    ∃ cm₁ out₁, r.cm.step (.datagram connect src now) = some (cm₁, out₁) ∧
      cm₁.ar.state = .connected ∧ cm₁.params = some p ∧
      ∀ cm₁', cm₁.Meanwhile p {h₂.key} cm₁' →
        ∃ cm₂ out₂, cm₁'.step (.datagram prmEnd src₂ now₂) = some (cm₂, out₂) ∧
          (∃ o ∈ out₂.send, o.dst = ⟨src.ip, 34964⟩ ∧
            ReadsReady o.bytes req.ar.initiatorObjectUuid cm₁'.activitySeed cm₁'.callSeq
              req.ar.arUuid req.ar.sessionKey) ∧
          ∀ cm₂', cm₂.Meanwhile p ∅ cm₂' →
            ∃ cm₃, cm₂'.step (.datagram answer src₃ now₃) = some (cm₃, ⟨[], [(.data, none)]⟩) ∧
              cm₃.ar.state = .data ∧ cm₃.params = some p := by
  obtain ⟨hu, hkey, hobject⟩ := validate_arUuid_sessionKey hc.valid
  have hkeys : ∀ key ∈ ({h₂.key} : Set CacheKey), r.cm.cacheLookup key = none := by
    rintro key rfl
    exact hl₂
  obtain ⟨cm₁, out₁, hs₁, hw₁⟩ := Cm.step_connect (joint_reach hr) (model_reach hr) hn hc hl₁ hf
    hkeys hne src now
  refine ⟨cm₁, out₁, hs₁, hw₁.state, hw₁.params, fun cm₁' hm₁ => ?_⟩
  have hw₁' := hw₁.meanwhile (by decide) hm₁
  have hcalls : r.cm.callSeq.toNat + 1 < 4294967296 :=
    lt_of_le_of_lt (Nat.succ_le_succ (callSeq_le_prmEnds hr)) hseq
  obtain ⟨cm₂, out₂, hs₂, ⟨o, ho, hdst, hcall⟩, hw₂⟩ :=
    hw₁'.step_prmEnd (hu ▸ hp) hcalls src₂ now₂
  rw [hu, hkey, hobject, ← hw₁'.callSeq] at hcall
  refine ⟨cm₂, out₂, hs₂, ⟨o, ho, hdst, hcall⟩, fun cm₂' hm₂ => ?_⟩
  exact (hw₂.meanwhile (by decide) hm₂).step_answer ha src₃ now₃

/-! ### A controller that falls silent -/

namespace Ar

variable {ε : Type} {ar ar' : Ar} {now : Instant} {acts : List Action}

lemma Timed.nextDeadline_connected (ht : ar.Timed) (hs : ar.state = .connected) :
    ar.nextDeadline = ar.activityDeadline := by
  have hnone : ar.appReadyDeadline = none := by simpa [hs] using ht.appReady
  rw [Ar.nextDeadline, hnone]
  cases ar.activityDeadline <;> rfl

lemma Timed.nextDeadline_calling (ht : ar.Timed) (hs : ar.state = .appReadySent) :
    ar.nextDeadline = ar.appReadyDeadline := by
  have hnone : ar.activityDeadline = none := by simpa [hs] using ht.activity
  rw [Ar.nextDeadline, hnone]
  cases ar.appReadyDeadline <;> rfl

/-- A tick that is due does something. -/
lemma Timed.on_tick_due (ht : ar.Timed) (hs : ar.state = .connected ∨ ar.state = .appReadySent)
    (hd : due ar.nextDeadline now) (h : (ar.on .tick now : Res ε _) = .ok (ar', acts)) :
    ar' ≠ ar := by
  have hdrop : ar.dropped ≠ ar := by
    intro heq
    have hidle : ar.state = .idle := by rw [← heq]; rfl
    rcases hs with hs | hs <;> rw [hidle] at hs <;> cases hs
  rcases hs with hs | hs
  · rw [ht.nextDeadline_connected hs] at hd
    simp only [on, handleTick, hs, hd, if_true, abort] at h
    cases h
    exact hdrop
  · rw [ht.nextDeadline_calling hs] at hd
    simp only [on, handleTick, hs, hd, if_true, abort] at h
    split_ifs at h with ha
    · obtain ⟨c, -, h⟩ := Res.bind_eq_ok.1 h
      obtain ⟨call, -, h⟩ := Res.bind_eq_ok.1 h
      cases h
      intro heq
      have hat : ar.appReadyAttempts + 1 = ar.appReadyAttempts := congrArg appReadyAttempts heq
      simp at hat
    · cases h
      exact hdrop

end Ar

namespace Cm

variable {cm cm' : Cm} {p : ArParams} {now : Instant} {out : CmOutput}

lemma Stepped.timed {i : CmInput} (h : cm.Stepped i cm' out) (ht : cm.ar.Timed) :
    cm'.ar.Timed := by
  cases h with
  | request ha hl hr =>
    cases hr with
    | connect hp hs hv => exact ht.established hs _ _
    | takeover hp hs hc hv => exact (Ar.timed_dropped _).established rfl _ _
    | write hs hc => exact ht.stored hs _ _
    | prmEnd ho hp hcmd hs hc => exact Ar.Timed.readySent (by rw [hc]; rfl)
    | refused | told => exact ht
    | takeoverRefused | release => exact Ar.timed_dropped _
  | data hs => exact Ar.Timed.inData (ht.ctx.2 (by rw [hs]; decide))
  | retry hs hdue ha => exact ht.retried hs ha
  | silent | replay => exact ht
  | rejected | activityTimeout | failed | aborted => exact Ar.timed_dropped _

/-- How many due ticks the AR survives at most, and one. -/
def patience (cm : Cm) : Nat :=
  match cm.ar.state with
  | .connected => 1
  | .appReadySent => 4 - cm.ar.appReadyAttempts.toNat
  | _ => 0

lemma patience_pos (ht : cm.ar.Timed)
    (hs : cm.ar.state = .connected ∨ cm.ar.state = .appReadySent) :
    0 < cm.patience ∧ cm.patience ≤ 3 := by
  rcases hs with hs | hs
  · simp [patience, hs]
  · obtain ⟨hlo, hhi⟩ := ht.calling hs
    rw [UInt8.le_iff_toNat_le] at hlo hhi
    have h1 : (1 : UInt8).toNat = 1 := rfl
    have h3 : (3 : UInt8).toNat = 3 := rfl
    simp only [patience, hs]
    omega

/-- The deadline of the manager has been reached. -/
def dueTick (cm : Cm) : CmInput → Bool
  | .tick now => Ar.due cm.nextDeadline now
  | _ => false

lemma tick_due_ne (hj : cm.Joint) (hn : cm.model.NameFits) (ht : cm.ar.Timed)
    (hs : cm.ar.state = .connected ∨ cm.ar.state = .appReadySent)
    (hd : cm.dueTick (.tick now) = true) (h : cm.step (.tick now) = some (cm', out)) :
    cm' ≠ cm := by
  obtain ⟨r, hr⟩ := tick_returns hj hn now
  obtain ⟨⟨ar, acts⟩, hon, ha⟩ := Res.bind_eq_ok.1 hr
  have hne : ar ≠ cm.ar := ht.on_tick_due hs hd hon
  rw [step, hr] at h
  cases h
  rintro rfl
  cases Ar.on_trans hon with
  | ignored hr => exact hne rfl
  | activityTimeout | appReadyFailed =>
    have := congrArg (fun r => r.1.ar) (Res.ok.inj ha)
    exact hne this
  | retry hs' hd' hm hc hb =>
    obtain ⟨dst', c', k, -, -, -, heq, -⟩ := apply_again ha
    exact hne (congrArg ar heq)
  | refused hr hz => cases hr

/-- The controller of the AR is not heard of. -/
def Neglects (p : ArParams) (cm : Cm) : CmInput → Prop
  | .datagram buf _ _ => cm.ar.state ≠ .idle ∧ ¬ Concerns p buf
  | .tick _ => cm.ar.state ≠ .idle
  | .abort _ _ => False

end Cm

/-- The manager after such inputs, and how many of them were due ticks; the run ends with the AR. -/
def neglected (p : ArParams) (cm : Cm) : Cm × Nat → Prop :=
  System.ReachWhen
    { init := (· = (cm, 0))
      step := fun (s : Cm × Nat) (i : CmInput) =>
        (s.1.step i).map fun r => (r.1, s.2 + if s.1.dueTick i then 1 else 0) }
    fun s i => s.1.Neglects p i

lemma timed_reach {model : DeviceModel} {seed : Uuid} {h : CmHist}
    (hr : (histSystem model seed).Reach h) : h.cm.ar.Timed := by
  refine hr.inv (I := fun h => h.cm.ar.Timed) ?_ ?_
  · rintro h ⟨im0, im, rfl⟩
    exact Ar.timed_new model
  · intro h i h' hi hs
    obtain ⟨cm', out, hst, rfl⟩ := hist_step hs
    exact hst.timed hi

lemma Cm.patience_of_eq {cm cm' : Cm} (hs : cm'.ar.state = cm.ar.state)
    (ha : cm'.ar.appReadyAttempts = cm.ar.appReadyAttempts) : cm'.patience = cm.patience := by
  simp only [patience, hs, ha]

lemma Cm.patience_retried {cm cm' : Cm} {now : Instant} (hs : cm.ar.state = .appReadySent)
    (ha : cm.ar.appReadyAttempts < appReadyMaxAttempts) (har : cm'.ar = cm.ar.retried now) :
    cm'.patience + 1 = cm.patience := by
  have hlt : cm.ar.appReadyAttempts.toNat < 3 := UInt8.lt_iff_toNat_lt.1 ha
  have hsucc := Ar.toNat_attempts_succ ha
  simp only [patience, har, Ar.retried, hs, hsucc]
  omega

/-- Every due tick takes one from the patience. -/
lemma neglected_inv {model : DeviceModel} {p : ArParams} {st : ArState} {dst : SocketAddr}
    {seq : UInt32} {cm₀ : Cm} {s : Cm × Nat} (hn : model.NameFits)
    (hst : st = .connected ∨ st = .appReadySent) (h : neglected p cm₀ s)
    (hw : cm₀.Awaits model p st dst ∅ seq) (ht : cm₀.ar.Timed) :
    s.2 + s.1.patience ≤ cm₀.patience ∧ s.1.ar.Timed ∧
      (s.1.ar.state ≠ .idle → s.1.Awaits model p st dst ∅ seq) := by
  have hst' : st ≠ .idle := by rcases hst with rfl | rfl <;> decide
  refine System.ReachWhen.inv (I := fun s => s.2 + s.1.patience ≤ cm₀.patience ∧ s.1.ar.Timed ∧
    (s.1.ar.state ≠ .idle → s.1.Awaits model p st dst ∅ seq)) ?_ ?_ h
  · rintro s rfl
    exact ⟨by simp, ht, fun _ => hw⟩
  · rintro ⟨c, n⟩ i s' ⟨hle, htc, hwc⟩ hg hmap
    obtain ⟨⟨c', out⟩, hstep, rfl⟩ := Option.map_eq_some_iff.1 hmap
    have htc' := (Cm.step_stepped hstep).timed htc
    cases i with
    | datagram buf src now =>
      obtain ⟨hw', hat⟩ := (hwc hg.1).datagram hst' hg.2 (fun _ _ hk => hk.elim) hstep
      refine ⟨?_, htc', fun _ => hw'⟩
      have hpat := Cm.patience_of_eq (hw'.state.trans (hwc hg.1).state.symm) hat
      simpa [Cm.dueTick, hpat] using hle
    | tick now =>
      have hwn := hwc hg
      have hcs : c.ar.state = .connected ∨ c.ar.state = .appReadySent := by rwa [hwn.state]
      have hpos : 0 < c.patience := (Cm.patience_pos htc hcs).1
      rcases hwn.tick hstep with ⟨-, hidle⟩ | rfl | ⟨hw', hready, hat, har⟩
      · refine ⟨?_, htc', fun hne => absurd hidle hne⟩
        have hzero : c'.patience = 0 := by simp [Cm.patience, hidle]
        simp only [hzero] at hle ⊢
        split_ifs <;> omega
      · have hnot : c'.dueTick (.tick now) = false := by
          by_contra hd
          rw [Bool.not_eq_false] at hd
          exact Cm.tick_due_ne hwn.joint (hwn.model ▸ hn) htc hcs hd hstep rfl
        refine ⟨?_, htc', fun _ => hwn⟩
        simpa [hnot] using hle
      · refine ⟨?_, htc', fun _ => hw'⟩
        have hless : c'.patience + 1 = c.patience :=
          Cm.patience_retried (hwn.state.trans hready) hat har
        dsimp only at hle ⊢
        split_ifs <;> omega
    | abort reason now => exact hg.elim

/-- **A handshake that is abandoned ends.** In every state the manager can reach in which an AR
waits for its controller, whatever arrives that is not about this AR: there is always a deadline to
wait for, and the AR is dropped at the first due tick before PrmEnd and at the third one after it,
at the latest. -/
theorem abandoned_handshake_ends {model : DeviceModel} {seed : Uuid} {r : CmHist} {p : ArParams}
    (hn : model.NameFits) (hr : (histSystem model seed).Reach r) (hp : r.cm.params = some p)
    (hs : r.cm.ar.state = .connected ∨ r.cm.ar.state = .appReadySent) {cm : Cm} {n : Nat}
    (h : neglected p r.cm (cm, n)) :
    (r.cm.ar.state = .connected → n ≤ 1) ∧ n ≤ 3 ∧
      (cm.ar.state ≠ .idle → n < 3 ∧ (r.cm.ar.state = .connected → n = 0) ∧
        cm.params = some p ∧ ∃ deadline, cm.nextDeadline = some deadline) := by
  obtain ⟨dst, hdst⟩ := (joint_reach hr).addr (by rcases hs with hs | hs <;> simp [hs])
  have hpat := Cm.patience_pos (timed_reach hr) hs
  have hw : r.cm.Awaits model p r.cm.ar.state dst ∅ r.cm.callSeq :=
    ⟨joint_reach hr, model_reach hr, rfl, hp, hdst, fun _ hk => hk.elim, rfl⟩
  obtain ⟨hle, htc, hwc⟩ := neglected_inv hn hs h hw (timed_reach hr)
  have hone : r.cm.ar.state = .connected → r.cm.patience = 1 := fun hc => by
    simp [Cm.patience, hc]
  refine ⟨fun hc => ?_, by omega, fun hne => ?_⟩
  · have := hone hc
    omega
  · have hw := hwc hne
    have hcs : cm.ar.state = .connected ∨ cm.ar.state = .appReadySent := by rwa [hw.state]
    have hpos := (Cm.patience_pos htc hcs).1
    refine ⟨by omega, fun hc => ?_, hw.params, Option.isSome_iff_exists.1 (htc.nextDeadline.2 hcs)⟩
    have := hone hc
    omega

/-! ### The two at work -/

namespace Demo

/-- The header of a request of the controller. -/
def requestHeader (seqNum : UInt32) (op : Opnum) (blocks : Bytes) : RpcHeader :=
  { callHeader (uuid 1) (uuid 5) seqNum blocks.length with
    interface := pnioDeviceInterface, opnum := op.toU16 }

def prmEndBlocks : Bytes := controlBlocks Ty.iodControlReqPrmEnd ControlCmd.prmEnd (uuid 3) 1

lemma asked_request_connect :
    Asked (connect 0 1) (requestHeader 0 .connect (connectBlocks (uuid 3) 1))
      (NdrRequest.forBlocks 1340 (UInt32.ofNat (connectBlocks (uuid 3) 1).length))
      (connectBlocks (uuid 3) 1) :=
  ⟨by decide +kernel, rfl, rfl, by decide +kernel⟩

lemma asked_request_prmEnd :
    Asked (prmEnd 1 1) (requestHeader 1 .control prmEndBlocks)
      (NdrRequest.forBlocks 1340 (UInt32.ofNat prmEndBlocks.length)) prmEndBlocks :=
  ⟨by decide +kernel, rfl, rfl, by decide +kernel⟩

end Demo

open Demo in
/-- The first handshake of a device; the Connect arrives twice. -/
theorem handshake_reaches_data_first :
    ∃ cm₁ out₁ again cm₂ out₂ o cm₃,
      (Cm.new Demo.model Demo.seed).step (recv (connect 0 1)) = some (cm₁, out₁) ∧
      cm₁.step (recv (connect 0 1)) = some (cm₁, again) ∧
      cm₁.step (recv (prmEnd 1 1)) = some (cm₂, out₂) ∧ o ∈ out₂.send ∧
      o.dst = ⟨plc.ip, 34964⟩ ∧
      ReadsReady o.bytes (uuid 4) cm₁.activitySeed cm₁.callSeq (uuid 3) 1 ∧
      cm₂.step (recv (answer 0)) = some (cm₃, ⟨[], [(.data, none)]⟩) ∧ cm₃.ar.state = .data := by
  obtain ⟨p, hv⟩ := validate_connectReq Demo.model
  have hparse : ControlBlock.parse prmEndBlocks =
      .ok ⟨Ty.iodControlReqPrmEnd, uuid 3, 1, ControlCmd.prmEnd, 0⟩ := by decide +kernel
  have hans : (okResponse (answer 0)).isSome = true := by decide +kernel
  obtain ⟨h₃, ha⟩ := Option.isSome_iff_exists.1 hans
  have hreach : (histSystem Demo.model Demo.seed).Reach ⟨Cm.new Demo.model Demo.seed, []⟩ :=
    .init ⟨im0Default, ImStore.new, rfl⟩
  obtain ⟨cm₁, out₁, hs₁, -, -, hnext⟩ := handshake_reaches_data (by decide) hreach
    ⟨⟨_, _, asked_request_connect, parse_connectBlocks⟩, rfl, hv⟩
    ⟨⟨_, _, _, asked_request_prmEnd, hparse, rfl, rfl⟩, rfl⟩ ha (.inl rfl) rfl rfl (by decide)
    (by decide) plc plc plc 0 0 0
  -- the second Connect is answered from the cache
  have htwice : ((Cm.new Demo.model Demo.seed).step (recv (connect 0 1))).any (fun r =>
      (r.1.cacheLookup (uuid 5, 0)).isSome && (r.1.step (recv (connect 0 1))).isSome) = true := by
    decide +kernel
  rw [recv, hs₁, Option.any_some, Bool.and_eq_true] at htwice
  obtain ⟨bytes, hl⟩ := Option.isSome_iff_exists.1 htwice.1
  obtain ⟨⟨cm₁', again⟩, hs₁'⟩ := Option.isSome_iff_exists.1 htwice.2
  have hrep : cm₁.Repeats (connect 0 1) :=
    ⟨_, bytes, asked_request_connect.header, asked_request_connect.ptype, hl⟩
  have hmean : cm₁.Meanwhile p {(requestHeader 1 .control prmEndBlocks).key} cm₁' :=
    .step (i := recv (connect 0 1)) (.init rfl) (.inl hrep) (by simp [recv, hs₁'])
  obtain ⟨cm₂, out₂, hs₂, ⟨o, ho, hdst, hcall⟩, hnext⟩ := hnext cm₁' hmean
  obtain ⟨cm₃, hs₃, hd, -⟩ := hnext cm₂ (.init rfl)
  obtain rfl := hrep.step_eq hs₁'
  exact ⟨cm₁', out₁, again, cm₂, out₂, o, cm₃, hs₁, hs₁', hs₂, ho, hdst, hcall, hs₃, hd⟩

open Demo in
/-- A controller that is not heard of after its Connect. -/
theorem abandoned_handshake_ends_connected :
    ∃ r p cm, (histSystem Demo.model Demo.seed).Reach r ∧ r.cm.ar.state = .connected ∧
      r.cm.params = some p ∧ neglected p r.cm (cm, 1) ∧ cm.ar.state = .idle := by
  have hrun : ((histSystem Demo.model Demo.seed).run ⟨Cm.new Demo.model Demo.seed, []⟩
      [recv (connect 0 1)]).any (fun h => h.cm.ar.state = .connected && h.cm.params.isSome &&
        h.cm.dueTick (.tick 20000000000)) = true := by decide +kernel
  have hinit : (histSystem Demo.model Demo.seed).init ⟨Cm.new Demo.model Demo.seed, []⟩ :=
    ⟨im0Default, ImStore.new, rfl⟩
  obtain ⟨r, hr, ht⟩ := System.exists_reach_of_run hinit hrun
  simp only [Bool.and_eq_true, decide_eq_true_eq] at ht
  obtain ⟨⟨hs, hp⟩, hd⟩ := ht
  obtain ⟨p, hp⟩ := Option.isSome_iff_exists.1 hp
  obtain ⟨⟨cm, out⟩, hstep⟩ := Option.isSome_iff_exists.1 (Cm.step_isSome (joint_reach hr)
    (model_reach hr ▸ (by decide)) (i := .tick 20000000000) (by simp [Cm.acceptsPrmEnd]))
  have hne : neglected p r.cm (cm, 1) := by
    refine .step (i := .tick 20000000000) (.init rfl) ?_ ?_
    · show r.cm.ar.state ≠ .idle
      rw [hs]
      decide
    · simp [hstep, hd]
  refine ⟨r, p, cm, hr, hs, hp, hne, ?_⟩
  by_contra hidle
  have := ((abandoned_handshake_ends (by decide) hr hp (.inl hs) hne).2.2 hidle).2.1 hs
  omega

end Pnio
