import Pnio.CmHist

/-!
Every call of the context manager returns: no datagram, tick or abort makes it panic, in any state
it can reach, as long as the station name fits the response to a Connect.
-/

namespace Pnio

namespace Cm

variable {cm : Cm} {buf blocks : Bytes} {src : SocketAddr} {now : Instant} {h : RpcHeader}
  {n : NdrRequest}

lemma Joint.ready (hj : cm.Joint) (hn : cm.model.NameFits) : cm.ar.Ready :=
  ⟨fun hs => Option.ne_none_iff_exists'.1 (hj.ctx.1 hs), hj.model ▸ hn⟩

lemma length_of_header (hh : RpcHeader.parse buf = .ok h) : 80 ≤ buf.length := by
  unfold RpcHeader.parse at hh
  obtain ⟨_, hlen, -⟩ := Res.bind_eq_ok.1 hh
  exact not_lt.1 (Res.reject_eq_ok.1 hlen)

lemma slice_body (hh : RpcHeader.parse buf = .ok h) :
    (slice buf RpcHeader.hdrLen buf.length : Res RpcError _) = .ok (buf.drop 80) := by
  have hle : RpcHeader.hdrLen ≤ buf.length := length_of_header hh
  rw [slice_of_le ⟨hle, le_rfl⟩]
  simp [RpcHeader.hdrLen, List.take_of_length_le]

/-- A request that is not in the cache is served, and the actions are carried out. -/
lemma handleDatagram_asked (ha : Asked buf h n blocks) (hl : cm.cacheLookup h.key = none) :
    cm.handleDatagram buf src now =
      (cm.serve h.opnum blocks src now >>= fun r => r.1.apply r.2 (some (h.respondCtx n src)) true)
    := by
  have hl' : cm.cacheLookup (h.activity, h.seqNum) = none := hl
  unfold handleDatagram
  rw [ha.header, Res.ok_bind, slice_body ha.header, Res.ok_bind, if_neg (by simp [ha.ptype]),
    if_neg (by simp [ha.ptype]), Res.reject_of_not (by simp [ha.interface]), Res.ok_bind, hl']
  simp only [handleRequest, ha.body, Res.ok_bind]
  rfl

lemma serve_returns {ε : Type} (hr : cm.ar.Ready) (opnum : UInt16) (blocks : Bytes)
    (src : SocketAddr) (now : Instant) :
    ∃ r, (cm.serve opnum blocks src now : Res ε _) = .ok r := by
  have hon : ∀ ev, ∃ ar acts, (cm.ar.on ev now : Res ε _) = .ok (ar, acts) := by
    intro ev
    obtain ⟨⟨ar, acts⟩, hon⟩ := Ar.on_returns (ε := ε) hr ev now
    exact ⟨ar, acts, hon⟩
  have hread : ∀ b, ∃ r, (cm.serveRead blocks b : Res ε _) = .ok r := by
    intro b
    unfold serveRead
    obtain ⟨e, he⟩ := Res.attempt_returns (δ := ε) (ReadReq.parse blocks)
    rw [he, Res.ok_bind]
    cases e with
    | error e => exact ⟨_, rfl⟩
    | ok req =>
      obtain ⟨acts, hacts⟩ := handleRead_returns (ε := ε) cm req b
      dsimp only
      rw [hacts]
      exact ⟨_, rfl⟩
  unfold serve
  split
  · unfold serveConnect
    obtain ⟨e, he⟩ := Res.attempt_returns (δ := ε) (ConnectReq.parse blocks)
    rw [he, Res.ok_bind]
    cases e with
    | error e => exact ⟨_, rfl⟩
    | ok req =>
      obtain ⟨ar, acts, hacts⟩ := hon (.connectReq req)
      dsimp only
      rw [hacts]
      exact ⟨_, rfl⟩
  · unfold serveWrite
    obtain ⟨e, he⟩ := Res.attempt_returns (δ := ε) (WriteReq.parse blocks)
    rw [he, Res.ok_bind]
    cases e with
    | error e => exact ⟨_, rfl⟩
    | ok req =>
      obtain ⟨ar, acts, hacts⟩ := hon (.writeReq req)
      obtain ⟨im, him⟩ := writeImRecords_returns (ε := ε) cm req.records
      dsimp only
      rw [hacts, Res.ok_bind, him]
      dsimp only
      split_ifs <;> exact ⟨_, rfl⟩
  · unfold serveControl
    obtain ⟨e, he⟩ := Res.attempt_returns (δ := ε) (ControlBlock.parse blocks)
    rw [he, Res.ok_bind]
    cases e with
    | error e => exact ⟨_, rfl⟩
    | ok cb =>
      obtain ⟨ar, acts, hacts⟩ := hon (.prmEndReq cb)
      dsimp only
      rw [hacts]
      split_ifs <;> exact ⟨_, rfl⟩
  · unfold serveRelease
    obtain ⟨e, he⟩ := Res.attempt_returns (δ := ε) (ControlBlock.parse blocks)
    rw [he, Res.ok_bind]
    cases e with
    | error e => exact ⟨_, rfl⟩
    | ok cb =>
      obtain ⟨ar, acts, hacts⟩ := hon (.releaseReq cb)
      dsimp only
      rw [hacts]
      exact ⟨_, rfl⟩
  · exact hread true
  · exact hread false
  · exact ⟨_, rfl⟩

/-- A call with the controller's address, the context and a number at hand is built. -/
lemma buildCallPdu_new {ε : Type} (cm : Cm) {c : ArContext} (hc : cm.ar.ctx = some c)
    (hv : cm.callSeq.toNat + 1 < 4294967296) (b : Bytes) :
    (cm.buildCallPdu b true : Res ε _) =
      .ok (cm.called, cm.callPdu c.params.initiatorObjectUuid cm.callSeq b) := by
  simp only [buildCallPdu, hc, Res.unwrap_some, Res.ok_bind, if_true, if_pos hv]
  rfl

lemma buildCallPdu_retry {ε : Type} (cm : Cm) {c : ArContext} {k : UInt32} (hc : cm.ar.ctx = some c)
    (hk : cm.currentCallSeq = some k) (b : Bytes) :
    (cm.buildCallPdu b false : Res ε _) =
      .ok (cm, cm.callPdu c.params.initiatorObjectUuid k b) := by
  simp [buildCallPdu, hc, hk]

lemma applyOne_call {ε : Type} {cm' : Cm} {rc : Option RespondCtx} {isNew : Bool} {b pdu : Bytes}
    {dst : SocketAddr} (h : (cm.buildCallPdu b isNew : Res ε _) = .ok (cm', pdu))
    (hd : cm.controllerAddr = some dst) (out : CmOutput) :
    (applyOne rc isNew (cm, out) (.callController b) : Res ε _) =
      .ok (cm', { out with send := out.send ++ [⟨pdu, dst⟩] }) := by
  simp only [applyOne, hd, Res.unwrap_some, Res.ok_bind, h]

lemma served_applies {cm1 : Cm} {acts : List Action} {opnum : UInt16} {ctx : RespondCtx}
    (hsv : Served RpcError cm opnum blocks src now cm1 acts) (hj : cm.Joint)
    (hv : ∀ cb c, Opnum.fromU16 opnum = some .control → ControlBlock.parse blocks = .ok cb →
      cb.command = ControlCmd.prmEnd → cm.ar.state = .connected → cm.ar.ctx = some c →
      cb.arUuid = c.params.arUuid → cm.callSeq.toNat + 1 < 4294967296) :
    ∃ r, (cm1.apply acts (some ctx) true : Res RpcError _) = .ok r := by
  cases hsv with
  | refused hz => exact ⟨_, rfl⟩
  | read ho => exact ⟨_, rfl⟩
  | connect ho hp ht =>
    cases ht with
    | ignored hr => exact absurd rfl hr
    | _ => exact ⟨_, rfl⟩
  | write ho hp ht =>
    cases ht with
    | ignored hr => exact absurd rfl hr
    | _ => exact ⟨_, rfl⟩
  | release ho hp ht =>
    cases ht with
    | ignored hr => exact absurd rfl hr
    | _ => exact ⟨_, rfl⟩
  | @prmEnd cb _ _ ho hp hcmd ht =>
    cases ht with
    | ignored hr => exact absurd rfl hr
    | refused hr hz => exact ⟨_, rfl⟩
    | prmEndAgain hs hc hu hr => exact ⟨_, rfl⟩
    | @prmEnd _ c r call hs hc hu hr hb =>
      obtain ⟨dst, hd⟩ := hj.addr (by simp [hs])
      have hcall := buildCallPdu_new (ε := RpcError)
        ({ cm with ar := cm.ar.readySent now }.keep ctx .ok r) hc
        (hv cb c ho hp hcmd hs hc hu) call
      have hfirst : (applyOne (some ctx) true ({ cm with ar := cm.ar.readySent now }, ⟨[], []⟩)
          (.respond .ok r) : Res RpcError _) =
          .ok ({ cm with ar := cm.ar.readySent now }.keep ctx .ok r, ⟨[ctx.reply .ok r], []⟩) := rfl
      rw [Cm.apply, List.foldlM_cons, hfirst, Res.ok_bind, List.foldlM_cons,
        applyOne_call hcall hd]
      exact ⟨_, rfl⟩

/-- **A datagram never makes the manager panic**, whatever it holds. -/
theorem handleDatagram_noPanic (hj : cm.Joint) (hn : cm.model.NameFits)
    (hv : cm.acceptsPrmEnd (.datagram buf src now) → cm.callSeq.toNat + 1 < 4294967296) :
    (cm.handleDatagram buf src now).NoPanic := by
  have hready := hj.ready hn
  unfold handleDatagram
  refine Res.noPanic_bind_of inferInstance fun h hh => ?_
  rw [slice_body hh, Res.ok_bind]
  split_ifs with ht ht'
  · refine Res.noPanic_bind_of inferInstance fun r _ => ?_
    obtain ⟨⟨ar, acts⟩, hon⟩ := Ar.on_returns (ε := RpcError) hready (.appReadyRsp ⟨r.1.status⟩) now
    dsimp only
    rw [hon, Res.ok_bind]
    refine Res.noPanic_of_returns ?_
    cases Ar.on_trans hon with
    | ignored hr => exact ⟨_, rfl⟩
    | appReady hs hz => exact ⟨_, rfl⟩
    | appReadyRejected hs hz => exact ⟨_, rfl⟩
    | refused hr hz => cases hr
  · infer_instance
  · refine Res.noPanic_bind_of inferInstance fun _ hi => ?_
    have hi' : h.interface = pnioDeviceInterface := not_not.1 (Res.reject_eq_ok.1 hi)
    cases hl : cm.cacheLookup (h.activity, h.seqNum) with
    | some bytes => exact Res.noPanic_ok _
    | none =>
      refine Res.noPanic_bind_of inferInstance fun r hbody => ?_
      obtain ⟨n, blocks⟩ := r
      have ha : Asked buf h n blocks := ⟨hh, not_not.1 ht', hi', hbody⟩
      obtain ⟨⟨cm1, acts⟩, hs⟩ := serve_returns (ε := RpcError) hready h.opnum blocks src now
      dsimp only
      rw [hs, Res.ok_bind]
      refine Res.noPanic_of_returns (served_applies (serve_served hs) hj ?_)
      exact fun cb c ho hp hcmd hst hc hu => hv (acceptsPrmEnd_of ha hl ho hp hcmd hst hc hu)

lemma tick_returns (hj : cm.Joint) (hn : cm.model.NameFits) (now : Instant) :
    ∃ r, (cm.tick now : Res RpcError _) = .ok r := by
  obtain ⟨⟨ar, acts⟩, hon⟩ := Ar.on_returns (ε := RpcError) (hj.ready hn) .tick now
  unfold tick
  rw [hon, Res.ok_bind]
  cases Ar.on_trans hon with
  | ignored hr => exact ⟨_, rfl⟩
  | activityTimeout hs hd => exact ⟨_, rfl⟩
  | appReadyFailed hs hd hm => exact ⟨_, rfl⟩
  | refused hr hz => cases hr
  | @retry c call hs hd hm hc hb =>
    obtain ⟨dst, hdst⟩ := hj.addr (by simp [hs])
    obtain ⟨k, hk⟩ := hj.call hs
    have hcall := buildCallPdu_retry (ε := RpcError) { cm with ar := cm.ar.retried now } hc hk call
    simp only [Cm.apply, List.foldlM_cons, applyOne_call hcall hdst, Res.ok_bind]
    exact ⟨_, rfl⟩

/-- **Every call of the manager returns.** -/
theorem step_isSome (hj : cm.Joint) (hn : cm.model.NameFits) {i : CmInput}
    (hv : cm.acceptsPrmEnd i → cm.callSeq.toNat + 1 < 4294967296) : (cm.step i).isSome := by
  cases i with
  | datagram buf src now =>
    have hsafe := handleDatagram_noPanic hj hn hv
    rw [step]
    cases hd : cm.handleDatagram buf src now with
    | ok r => rfl
    | err e => rfl
    | panic p => exact absurd hd (hsafe.ne_panic p)
  | tick now =>
    obtain ⟨r, hr⟩ := tick_returns hj hn now
    rw [step, hr]
    rfl
  | abort reason now =>
    by_cases hs : cm.ar.state = .idle
    · rw [step, abort_idle hs]
      rfl
    · rw [step, abort_of_ne hs]
      rfl

/-- A valid Connect in `Idle` overflows if the station name does not fit. -/
lemma handleDatagram_overflow {req : ConnectReq} {p : ArParams} (ha : Asked buf h n blocks)
    (hl : cm.cacheLookup h.key = none) (ho : Opnum.fromU16 h.opnum = some .connect)
    (hp : ConnectReq.parse blocks = .ok req) (hs : cm.ar.state = .idle)
    (hv : validate req cm.ar.model = .ok p) (hn : ¬ cm.ar.model.NameFits) :
    cm.handleDatagram buf src now = .panic .overflow := by
  have hon : (cm.ar.on (.connectReq req) now : Res RpcError _) = .panic .overflow := by
    simp only [Ar.on, Ar.handleConnect, hs, Ar.connectIdle, hv, Res.attempt_ok, Res.ok_bind,
      buildConnectRes_overflow p hn, Res.panic_bind]
  rw [handleDatagram_asked ha hl, serve, ho]
  simp only [serveConnect, hp, Res.attempt_ok, Res.ok_bind, hon, Res.panic_bind]

end Cm

/-! ### Whole runs -/

/-- The input returns unless it is the PrmEnd that uses up the numbers. -/
def CmHist.Returns (h : CmHist) (i : CmInput) : Prop :=
  h.prmEnds + (if h.cm.acceptsPrmEnd i then 1 else 0) < 4294967296 → ∃ r, h.cm.step i = some r

/-- The first input is within the bound. -/
lemma CmHist.first_returns (cm : Cm) (i : CmInput) :
    CmHist.prmEnds ⟨cm, []⟩ + (if cm.acceptsPrmEnd i then 1 else 0) < 4294967296 := by
  simp only [CmHist.prmEnds, List.countP_nil]
  split <;> decide

namespace Demo

/-- The CR of `iocr`, as it is read. -/
def iocrReq (ty frameId : UInt16) : IocrBlockReq :=
  { iocrType := ty, reference := ty, lt := 0x8892, properties := 0, dataLength := 40, frameId,
    sendClockFactor := 32, reductionRatio := 1, phase := 1, sequence := 0, frameSendOffset := 0,
    watchdogFactor := 3, dataHoldFactor := 3, tagHeader := 0,
    multicastMac := MacAddr.of 0 0 0 0 0 0, apis := [{ api := 0, ioData := [], iocs := [] }] }

/-- The request of `connectBlocks`, as it is read. -/
def connectReq : ConnectReq :=
  { ar := { arType := 1, arUuid := uuid 3, sessionKey := 1, initiatorMac := MacAddr.of 2 0 0 0 0 2,
            initiatorObjectUuid := uuid 4, arProperties := 0, activityTimeoutFactor := 100,
            initiatorUdpRtPort := 0x8892, stationName := Str.ofAscii [] }
    iocrs := [iocrReq 1 0x8000, iocrReq 2 0x8001]
    expected := []
    alarmCr := { alarmCrType := 1, lt := 0x8892, properties := 0, rtaTimeoutFactor := 1,
                 rtaRetries := 3, localAlarmReference := 0, maxAlarmDataLength := 200,
                 tagHeaderHigh := 0xc000, tagHeaderLow := 0xa000 } }

lemma parse_connectBlocks : ConnectReq.parse (connectBlocks (uuid 3) 1) = .ok connectReq := by
  decide +kernel

/-- A request without objects is valid for every device. -/
lemma validate_connectReq (model : DeviceModel) : ∃ p, validate connectReq model = .ok p :=
  ⟨_, rfl⟩

lemma asked_connect :
    ∃ h n, Asked (connect 0 1) h n (connectBlocks (uuid 3) 1) ∧
      Opnum.fromU16 h.opnum = some .connect := by
  refine ⟨{ callHeader (uuid 1) (uuid 5) 0 (connectBlocks (uuid 3) 1).length with
    interface := pnioDeviceInterface, opnum := Opnum.connect.toU16 },
    NdrRequest.forBlocks 1340 (UInt32.ofNat (connectBlocks (uuid 3) 1).length),
    ⟨?_, rfl, rfl, ?_⟩, rfl⟩
  · decide +kernel
  · decide +kernel

end Demo

/-- The first Connect of a device whose name does not fit. -/
lemma connect_panics {model : DeviceModel} (seed : Uuid) (hn : ¬ model.NameFits) :
    (Cm.new model seed).step (Demo.recv (Demo.connect 0 1)) = none := by
  obtain ⟨h, n, ha, ho⟩ := Demo.asked_connect
  obtain ⟨p, hv⟩ := Demo.validate_connectReq model
  have hpanic : (Cm.new model seed).handleDatagram (Demo.connect 0 1) Demo.plc 0 = _ :=
    Cm.handleDatagram_overflow ha rfl ho Demo.parse_connectBlocks rfl hv hn
  rw [Demo.recv, Cm.step, hpanic]
  rfl

/-- **When every call returns**: from every state that fewer than 2^32 accepted PrmEnds lead to,
every datagram, tick and abort returns normally, if and only if the station name fits the length
field of its block in the Connect response. -/
theorem returns_iff_nameFits (model : DeviceModel) (seed : Uuid) :
    (∀ h i, (histSystem model seed).Reach h → h.Returns i) ↔ model.NameFits := by
  constructor
  · intro hall
    by_contra hn
    have hinit : (histSystem model seed).Reach ⟨Cm.new model seed, []⟩ :=
      .init ⟨im0Default, ImStore.new, rfl⟩
    obtain ⟨r, hr⟩ := hall _ (Demo.recv (Demo.connect 0 1)) hinit (CmHist.first_returns _ _)
    cases (connect_panics seed hn).symm.trans hr
  · intro hn h i hr hcount
    have hj := joint_reach hr
    have hseq := callSeq_le_prmEnds hr
    refine Option.isSome_iff_exists.1 (Cm.step_isSome hj (model_reach hr ▸ hn) fun hacc => ?_)
    rw [if_pos hacc] at hcount
    omega

/-- A device whose name does not fit: 65532 bytes. -/
lemma exists_not_nameFits : ∃ model : DeviceModel, ¬ model.NameFits := by
  have hlen : ∀ n, (Str.ofAscii (List.replicate n 0x61)).bytes.length = n := by
    intro n
    simp [Str.ofAscii]
  -- only the length is computed, never the name
  have hlong : ∀ s : Str, s.bytes.length = 65532 →
      ¬ DeviceModel.NameFits { Demo.model with stationName := s } := by
    intro s hs
    simp only [DeviceModel.NameFits, serverLen, hs]
    decide
  exact ⟨_, hlong _ (hlen 65532)⟩

/-- The device with the long name panics at its first Connect. -/
theorem long_name_panics :
    ¬ ∀ (model : DeviceModel) (seed : Uuid) (h : CmHist) (i : CmInput),
        (histSystem model seed).Reach h → h.Returns i := by
  intro hall
  obtain ⟨model, hn⟩ := exists_not_nameFits
  have hinit : (histSystem model Demo.seed).Reach ⟨Cm.new model Demo.seed, []⟩ :=
    .init ⟨im0Default, ImStore.new, rfl⟩
  obtain ⟨r, hr⟩ := hall model Demo.seed _ (Demo.recv (Demo.connect 0 1)) hinit
    (CmHist.first_returns _ _)
  cases (connect_panics Demo.seed hn).symm.trans hr

end Pnio
