import Pnio.CmRefusal
import Pnio.CmWire
import Pnio.ImFile

/-!
The I&M records over a whole run.

What a Read returns is what was last written: the law is stated on the history of a manager, with
every Write that was answered OK and the records it carried, and on the file behind the store.
-/

namespace Pnio

/-! ### Writes in a history -/

/-- The Write request that the input makes the manager execute. -/
def Cm.writeRequest (cm : Cm) : CmInput → Option WriteReq
  | .datagram buf _ _ => do
    let h ← (RpcHeader.parse buf).toOption
    let (_, blocks) ← (NdrRequest.parse (buf.drop 80) h.drep).toOption
    let req ← (WriteReq.parse blocks).toOption
    if h.ptype = .request ∧ h.interface = pnioDeviceInterface ∧ cm.cacheLookup h.key = none ∧
        Opnum.fromU16 h.opnum = some .write then some req
    else none
  | _ => none

/-- The records that `handle_datagram` passes on: those of a Write the AR accepts. -/
def Cm.imWrites (cm : Cm) (i : CmInput) : List Record :=
  match cm.writeRequest i, i with
  | some req, .datagram _ _ now =>
    match (cm.ar.on (.writeReq req) now : Res RpcError _) with
    | .ok (_, actions) => if actions.any Cm.isRespondOk then req.records else []
    | _ => []
  | _, _ => []

/-- The output holds a Response with status OK. -/
def CmOutput.Confirms (out : CmOutput) : Bool :=
  out.send.any fun o => answerStatus o.bytes = some 0

/-- The records of the Write that was executed in this call with an OK answer. -/
def CmCall.written (c : CmCall) : List Record :=
  match c.before.writeRequest c.input with
  | some req => if c.out.Confirms then req.records else []
  | none => []

lemma Cm.writeRequest_eq_some {cm : Cm} {buf : Bytes} {src : SocketAddr} {now : Instant}
    {req : WriteReq} :
    cm.writeRequest (.datagram buf src now) = some req ↔
      ∃ h n blocks, Asked buf h n blocks ∧ cm.cacheLookup h.key = none ∧
        Opnum.fromU16 h.opnum = some .write ∧ WriteReq.parse blocks = .ok req := by
  simp only [writeRequest, Option.bind_eq_bind, Option.bind_eq_some_iff, Res.toOption_eq_some,
    Option.ite_none_right_eq_some, Option.some.injEq]
  constructor
  · rintro ⟨h, hh, ⟨n, blocks⟩, hn, req', hp, ⟨ht, hi, hl, ho⟩, rfl⟩
    exact ⟨h, n, blocks, ⟨hh, ht, hi, hn⟩, hl, ho, hp⟩
  · rintro ⟨h, n, blocks, ha, hl, ho, hp⟩
    exact ⟨h, ha.header, (n, blocks), ha.body, req, hp, ⟨ha.ptype, ha.interface, hl, ho⟩, rfl⟩

/-! ### What a call does to the store -/

namespace Cm

variable {ε : Type} {cm cm' : Cm} {acts : List Action} {rc : Option RespondCtx} {isNew : Bool}
  {out : CmOutput} {opnum : UInt16} {blocks buf : Bytes} {src : SocketAddr} {now : Instant}
  {i : CmInput} {req : WriteReq}

/-- Carrying out actions does not touch the store. -/
lemma apply_im (h : (cm.apply acts rc isNew : Res ε _) = .ok (cm', out)) : cm'.im = cm.im := by
  refine Res.foldlM_inv (I := fun s : Cm × CmOutput => s.1.im = cm.im) ?_ rfl h
  rintro ⟨cm1, out1⟩ act ⟨cm2, out2⟩ him hone
  cases applyOne_applied hone with
  | dropped | answered | called | again | notified => exact him

/-- Only a Write touches the store. -/
lemma served_im (ho : Opnum.fromU16 opnum ≠ some .write)
    (h : Served ε cm opnum blocks src now cm' acts) : cm'.im = cm.im := by
  cases h with
  | refused hz => rfl
  | read ho' => rfl
  | connect ho' hp ht =>
    unfold afterConnect
    split_ifs <;> rfl
  | write ho' hp ht him => exact absurd ho' ho
  | prmEnd ho' hp hc ht => rfl
  | release ho' hp ht => rfl

/-- A Write is executed by the AR; if it accepts, the records go to the store. -/
lemma serveWrite_ok (hp : WriteReq.parse blocks = .ok req)
    (h : (cm.serveWrite blocks now : Res ε _) = .ok (cm', acts)) :
    ∃ ar, (cm.ar.on (.writeReq req) now : Res ε _) = .ok (ar, acts) ∧
      (cm.writeImRecords (if acts.any isRespondOk then req.records else []) : Res ε _) =
        .ok cm'.im := by
  unfold serveWrite at h
  rw [hp, Res.attempt_ok, Res.ok_bind] at h
  obtain ⟨⟨ar, acts'⟩, hon, h⟩ := Res.bind_eq_ok.1 h
  dsimp only at h
  split_ifs at h with hok
  · obtain ⟨im, him, h⟩ := Res.bind_eq_ok.1 h
    cases h
    refine ⟨ar, hon, ?_⟩
    rw [if_pos hok]
    exact him
  · cases h
    refine ⟨ar, hon, ?_⟩
    rw [if_neg hok]
    rfl

lemma serveWrite_refused (hp : ∀ req, WriteReq.parse blocks ≠ .ok req)
    (h : (cm.serveWrite blocks now : Res ε _) = .ok (cm', acts)) : cm'.im = cm.im := by
  obtain ⟨r, hr, h⟩ := Res.bind_eq_ok.1 h
  cases r with
  | ok req =>
    rcases Res.attempt_eq_ok.1 hr with ⟨req', hreq, -⟩ | ⟨e, -, he⟩
    · exact absurd hreq (hp req')
    · cases he
  | error e =>
    cases h
    rfl

/-- The status of a response is read back. -/
lemma answerStatus_response (ctx : RespondCtx) (s : PnioStatus) {b : Bytes} (hb : Carried b) :
    answerStatus (buildResponsePdu ctx s b) = some s.val := by
  obtain ⟨n, hs, -, hn⟩ := ndr_response ctx s hb
  have ht : (responseHeader ctx (s.sends b).length).ptype = .response := rfl
  have hd : (responseHeader ctx (s.sends b).length).drep = .big := rfl
  unfold answerStatus
  simp only [parse_buildResponsePdu, ht, hd, hn, hs, if_true]

/-- An accepted Write is answered OK, and any other is not. -/
lemma confirms_eq {ar : Ar} {ctx : RespondCtx} {cm1 : Cm}
    (hon : Ar.Trans ε now cm.ar (.writeReq req) ar acts)
    (h : (cm1.apply acts (some ctx) true : Res ε _) = .ok (cm', out)) :
    out.Confirms = acts.any isRespondOk := by
  have hone : ∀ {s : PnioStatus} {b : Bytes}, Carried b → CmOutput.Confirms
      ⟨[ctx.reply s b], []⟩ = [Action.respond s b].any isRespondOk := by
    intro s b hb
    simp only [CmOutput.Confirms, List.any_cons, List.any_nil, Bool.or_false, RespondCtx.reply,
      answerStatus_response ctx s hb, isRespondOk, Option.some.injEq]
    rfl
  cases hon with
  | refused hr hz =>
    cases h
    exact hone carried_nil
  | ignored hr => exact absurd rfl hr
  | write hs hc hu hcap hb =>
    cases h
    obtain ⟨hcount, -⟩ := not_exceedsRecordCap.1 hcap
    rw [List.length_append] at hcount
    exact hone (carried_writeRes (by omega) hb)

lemma on_writeReq_ne_err (ar : Ar) (req : WriteReq) (now : Instant) (e : ε) :
    (ar.on (.writeReq req) now : Res ε _) ≠ .err e := by
  intro h
  simp only [Ar.on, Ar.handleWrite] at h
  split at h
  · cases h
  · rw [Res.bind_eq_err] at h
    rcases h with h | ⟨ctx, -, h⟩
    · cases hc : ar.ctx <;> rw [hc] at h <;> cases h
    · rw [buildWriteRes_eq, Res.ok_bind] at h
      split_ifs at h

/-- No error comes out of a Write: it is answered. -/
lemma serveWrite_ne_err (cm : Cm) (hp : WriteReq.parse blocks = .ok req) (ctx : RespondCtx)
    (now : Instant) (e : ε) :
    (cm.serveWrite blocks now >>= fun r => r.1.apply r.2 (some ctx) true) ≠ .err e := by
  intro h
  rcases Res.bind_eq_err.1 h with h | ⟨⟨cm1, acts⟩, hs, h⟩
  · unfold serveWrite at h
    rw [hp, Res.attempt_ok, Res.ok_bind] at h
    rcases Res.bind_eq_err.1 h with h | ⟨⟨ar, acts⟩, -, h⟩
    · exact on_writeReq_ne_err cm.ar req now e h
    · obtain ⟨im, him⟩ := writeImRecords_returns (ε := ε) cm req.records
      dsimp only at h
      rw [him, Res.ok_bind] at h
      split_ifs at h
  · obtain ⟨ar, hon, -⟩ := serveWrite_ok hp hs
    cases Ar.on_trans hon with
    | refused hr hz => cases h
    | ignored hr => exact absurd rfl hr
    | write hst hc hu hcap hb => cases h

/-- A datagram that is no Write to be executed leaves the store alone. -/
lemma handleDatagram_im (hw : cm.writeRequest (.datagram buf src now) = none)
    (h : cm.handleDatagram buf src now = .ok (cm', out)) : cm'.im = cm.im := by
  cases handleDatagram_handled h with
  | response hh hp hn hon ha =>
    have him := apply_im ha
    exact him
  | other hh hp hp' => rfl
  | cached hh hp hl => rfl
  | @fresh hdr n blocks cm1 _ acts ctx _ hh hp hl hn hs hctx ha =>
    have hi := handleDatagram_interface hh hp h
    rw [handleDatagram_asked ⟨hh, hp, hi, hn⟩ hl] at h
    obtain ⟨⟨cm2, acts2⟩, hserve, happly⟩ := Res.bind_eq_ok.1 h
    refine (apply_im happly).trans ?_
    by_cases ho : Opnum.fromU16 hdr.opnum = some .write
    · rw [serve, ho] at hserve
      refine serveWrite_refused (fun req hreq => ?_) hserve
      have hsome : cm.writeRequest (.datagram buf src now) = some req :=
        writeRequest_eq_some.2 ⟨hdr, n, blocks, ⟨hh, hp, hi, hn⟩, hl, ho, hreq⟩
      cases hw.symm.trans hsome
    · exact served_im ho (serve_served hserve)

/-- **What an input does to the store**: the records of the Write it carries are written, if it was
answered OK; nothing else touches it. -/
theorem step_written (h : cm.step i = some (cm', out)) :
    (cm.writeImRecords (cm.imWrites i) : Res RpcError _) = .ok cm'.im ∧
      CmCall.written ⟨cm, i, cm', out⟩ = cm.imWrites i := by
  have hquiet : cm'.im = cm.im → (cm.writeImRecords [] : Res RpcError _) = .ok cm'.im :=
    fun him => congrArg Res.ok him.symm
  cases i with
  | tick now | abort reason now =>
    refine ⟨hquiet ?_, rfl⟩
    rcases settle_cases h with hok | ⟨-, rfl, rfl⟩
    · obtain ⟨⟨ar, acts⟩, -, ha⟩ := Res.bind_eq_ok.1 hok
      have him := apply_im ha
      exact him
    · rfl
  | datagram buf src now =>
    cases hw : cm.writeRequest (.datagram buf src now) with
    | none =>
      have hnone : cm.imWrites (.datagram buf src now) = [] := by simp only [imWrites, hw]
      rw [hnone]
      refine ⟨hquiet ?_, by simp only [CmCall.written, hw]⟩
      rcases settle_cases h with hok | ⟨-, rfl, rfl⟩
      · exact handleDatagram_im hw hok
      · rfl
    | some req =>
      obtain ⟨hdr, n, blocks, ha, hl, ho, hp⟩ := writeRequest_eq_some.1 hw
      have hd : cm.handleDatagram buf src now = _ := handleDatagram_asked ha hl
      rw [serve, ho] at hd
      dsimp only at hd
      have hok : cm.handleDatagram buf src now = .ok (cm', out) := by
        rcases settle_cases h with hok | ⟨⟨e, he⟩, -⟩
        · exact hok
        · exact absurd (hd.symm.trans he) (serveWrite_ne_err cm hp _ now e)
      rw [hd] at hok
      obtain ⟨⟨cm1, acts⟩, hserve, happly⟩ := Res.bind_eq_ok.1 hok
      obtain ⟨ar, hon, him⟩ := serveWrite_ok hp hserve
      have hwrites : cm.imWrites (.datagram buf src now) =
          if acts.any isRespondOk then req.records else [] := by
        simp only [imWrites, hw, hon]
      rw [hwrites, apply_im happly]
      refine ⟨him, ?_⟩
      simp only [CmCall.written, hw]
      rw [confirms_eq (Ar.on_trans hon) happly]

end Cm

/-! ### Reads -/

/-- The blocks of a Response with status OK. -/
def okBlocks (pdu : Bytes) : Option Bytes :=
  match RpcHeader.parse pdu with
  | .ok h =>
    if h.ptype = .response then
      match NdrResponse.parse (pdu.drop 80) h.drep with
      | .ok (n, blocks) => if n.status = 0 then some blocks else none
      | _ => none
    else none
  | _ => none

lemma okBlocks_response (ctx : RespondCtx) (s : PnioStatus) {b : Bytes} (hb : Carried b) :
    okBlocks (buildResponsePdu ctx s b) = if s.val = 0 then some b else none := by
  obtain ⟨n, hs, -, hn⟩ := ndr_response ctx s hb
  have ht : (responseHeader ctx (s.sends b).length).ptype = .response := rfl
  have hd : (responseHeader ctx (s.sends b).length).drep = .big := rfl
  unfold okBlocks
  simp only [parse_buildResponsePdu, ht, hd, hn, hs, if_true]
  split_ifs with hz
  · rw [PnioStatus.sends, if_pos hz]
  · rfl

/-- The fields that an answer to the Read repeats, around the length of the record. -/
def ReadReq.echo (req : ReadReq) (len : Nat) : Bytes :=
  be16 req.seq ++ req.arUuid.bytes ++ be32 req.api ++ be16 req.slot ++ be16 req.subslot ++ [0, 0] ++
    be16 req.index ++ be32 (UInt32.ofNat len) ++ List.replicate 24 0

/-- The blocks that answer a Read with a record: a header of type 0x8009 that repeats the request
and gives the length of the record, and after its 64 bytes the record. -/
structure ReadAnswer (req : ReadReq) (record b : Bytes) : Prop where
  header : BlockHeader.parse b = .ok (⟨0x8009, 60, 1, 0⟩, req.echo record.length)
  carries : b.drop 64 = record

lemma readAnswer_buildReadRes {ε : Type} {req : ReadReq} {data b : Bytes}
    (h : (buildReadRes req data : Res ε _) = .ok b) : ReadAnswer req data b := by
  obtain ⟨w, hw, h⟩ := Res.bind_eq_ok.1 h
  have hlen : (req.echo data.length).length = (58 : UInt16).toNat := by simp [ReadReq.echo]
  have hb : b = w ++ req.echo data.length ++ data := by
    have hzero : List.replicate 24 (0 : UInt8) = be16 0 ++ be16 0 ++ List.replicate 20 0 := by
      decide
    have hpad : ([0, 0] : Bytes) = be16 0 := rfl
    cases h
    rw [ReadReq.echo, hzero, hpad, Uuid.write_big]
    simp only [List.append_assoc]
  refine ⟨?_, ?_⟩
  · rw [hb]
    exact BlockHeader.parse_write hw hlen data
  · rw [hb]
    exact List.drop_left' (splits_write hw hlen).2

/-- The datagram is a Read or ReadImplicit that the manager executes. -/
def Cm.ReadsRecord (cm : Cm) (buf : Bytes) (req : ReadReq) : Prop :=
  ∃ h n blocks, Asked buf h n blocks ∧ cm.cacheLookup h.key = none ∧
    (Opnum.fromU16 h.opnum = some .read ∨ Opnum.fromU16 h.opnum = some .readImplicit) ∧
    ReadReq.parse blocks = .ok req

section Read

variable {ε : Type} {cm cm' : Cm} {req : ReadReq} {k : ImKind} {buf blocks b : Bytes}
  {src : SocketAddr} {now : Instant} {out : CmOutput} {acts : List Action}

/-- A record is read as its canonical block. -/
lemma readRecord_kind {model : DeviceModel} {im0 : Im0} {im : ImStore} (hk : req.index = k.index)
    (h : (readRecord req model im0 im : Res ε _) = .ok (some b)) : b = k.block (k.body im) := by
  have hne : req.index ≠ indexIm0 := by
    rw [hk]
    cases k <;> decide
  have hread : (im.read req.index : Res ε _) = .ok (some b) := by
    unfold readRecord at h
    rw [if_neg hne, if_pos (ImKind.exists_index_iff.1 ⟨k, hk⟩)] at h
    split_ifs at h
    · cases h
    · exact h
  have hlen := k.length_body im
  have hblock : (im.read req.index : Res ε _) = ImStore.readBlock k.blockType (k.body im) := by
    rw [hk]
    cases k <;> rfl
  rw [hblock] at hread
  obtain ⟨w, hw, hsome⟩ := Res.bind_eq_ok.1 hread
  cases hsome
  unfold writeBlock BlockHeader.write at hw
  rw [hlen] at hw
  cases k with
  | im1 =>
    cases hw
    rfl
  | im2 =>
    cases hw
    rfl
  | im3 =>
    cases hw
    rfl

lemma handleRead_kind {checkAr : Bool} (hk : req.index = k.index)
    (h : (cm.handleRead req checkAr : Res ε _) = .ok acts) :
    (∃ s : PnioStatus, s.val ≠ 0 ∧ acts = [refuse s]) ∨
      ∃ b, Carried b ∧ ReadAnswer req (k.block (k.body cm.im)) b ∧
        acts = [.respond .ok b] := by
  unfold Cm.handleRead at h
  dsimp only at h
  split_ifs at h
  · cases h
    exact .inl ⟨_, PnioStatus.new_val_ne_zero (by decide), rfl⟩
  · obtain ⟨data, hdata, h⟩ := Res.bind_eq_ok.1 h
    cases data with
    | none =>
      cases h
      exact .inl ⟨_, PnioStatus.new_val_ne_zero (by decide), rfl⟩
    | some data =>
      obtain ⟨b, hb, h⟩ := Res.bind_eq_ok.1 h
      cases h
      obtain ⟨hs, hl⟩ := splits_readRecord hdata
      refine .inr ⟨b, carried_readRes hs hl hb, ?_, rfl⟩
      rw [← readRecord_kind hk hdata]
      exact readAnswer_buildReadRes hb

/-- **A Read returns the record that is stored.** -/
lemma reads_stored (hr : cm.ReadsRecord buf req) (hk : req.index = k.index)
    (h : cm.handleDatagram buf src now = .ok (cm', out)) {o : Outgoing} (ho : o ∈ out.send)
    (hb : okBlocks o.bytes = some b) :
    ReadAnswer req (k.block (k.body cm.im)) b := by
  obtain ⟨hdr, n, blocks, ha, hl, hop, hp⟩ := hr
  rw [Cm.handleDatagram_asked ha hl] at h
  obtain ⟨⟨cm1, acts⟩, hserve, happly⟩ := Res.bind_eq_ok.1 h
  obtain ⟨checkAr, hread⟩ : ∃ checkAr,
      (cm.serveRead blocks checkAr : Res RpcError _) = .ok (cm1, acts) := by
    rcases hop with hop | hop
    · rw [Cm.serve, hop] at hserve
      exact ⟨true, hserve⟩
    · rw [Cm.serve, hop] at hserve
      exact ⟨false, hserve⟩
  unfold Cm.serveRead at hread
  rw [hp, Res.attempt_ok, Res.ok_bind] at hread
  obtain ⟨acts', hacts, hread⟩ := Res.bind_eq_ok.1 hread
  cases hread
  rcases handleRead_kind hk hacts with ⟨s, hz, rfl⟩ | ⟨b', hc, hb', rfl⟩
  · cases happly
    rw [List.mem_singleton.1 ho, okBlocks_response _ s carried_nil, if_neg hz] at hb
    cases hb
  · cases happly
    rw [List.mem_singleton.1 ho, okBlocks_response _ .ok hc, if_pos (by rfl)] at hb
    cases hb
    exact hb'

end Read

/-! ### Whole runs -/

/-- A manager with its history, and the file of its store. -/
structure ImRun where
  hist : CmHist
  file : ImFile

/-- All inputs, each with what the file system does when a record of it is persisted. -/
def imSystem (model : DeviceModel) (seed : Uuid) (pid : Nat) :
    System ImRun (CmInput × (Nat → FsOutcome)) where
  init r := ∃ im0 im path disk,
    r = ⟨⟨{ Cm.new model seed with im0, im }, []⟩, ⟨im, path, disk, []⟩⟩
  step r i := do
    let hist ← (histSystem model seed).step r.hist i.1
    let writes := (r.hist.cm.imWrites i.1).zipIdx.map fun w => (w.1, i.2 w.2)
    let file ← (r.file.writeRecords pid r.hist.cm.model writes : Res Empty _).toOption
    some ⟨hist, file⟩

/-- The records of all Writes that were answered OK, in order. -/
def CmHist.written (h : CmHist) : List Record := h.log.flatMap CmCall.written

/-- What a run from the store `im` with this path leaves. -/
structure ImKept (model : DeviceModel) (im : ImStore) (path : Option FsPath) (r : ImRun) :
    Prop where
  sameModel : r.hist.cm.model = model
  samePath : r.file.path = path
  store : r.file.store = r.hist.cm.im
  synced : r.file.Synced
  calls : ∀ c ∈ r.hist.log, ∀ k : ImKind,
    k.body c.after.im = k.lastBody model c.written (k.body c.before.im)
  last : ∀ k : ImKind, k.body r.hist.cm.im = k.lastBody model r.hist.written (k.body im)

section Kept

variable {model : DeviceModel} {seed : Uuid} {pid : Nat} {im : ImStore} {path : Option FsPath}
  {r r' : ImRun}

lemma imKept_step {i : CmInput × (Nat → FsOutcome)} (hk : ImKept model im path r)
    (h : (imSystem model seed pid).step r i = some r') : ImKept model im path r' := by
  obtain ⟨hist, hh, h⟩ := Option.bind_eq_some_iff.1 h
  obtain ⟨file, hf, h⟩ := Option.bind_eq_some_iff.1 h
  cases h
  obtain ⟨⟨cm', out⟩, hstep, rfl⟩ := Option.map_eq_some_iff.1 hh
  have hmodel : cm'.model = model := (Cm.step_stepped hstep).model.trans hk.sameModel
  obtain ⟨him, hwritten⟩ := Cm.step_written hstep
  obtain ⟨im', him', hbody⟩ := writeImRecords_spec (ε := RpcError) r.hist.cm
    (r.hist.cm.imWrites i.1)
  cases him.symm.trans him'
  rw [hk.sameModel, ← hwritten] at hbody
  obtain ⟨file', hf', hpath, hsync, hfile⟩ := ImFile.writeRecords_spec (ε := Empty) pid
    r.hist.cm.model r.file ((r.hist.cm.imWrites i.1).zipIdx.map fun w => (w.1, i.2 w.2))
  cases (Res.toOption_eq_some.1 hf).symm.trans hf'
  have hfst : ((r.hist.cm.imWrites i.1).zipIdx.map fun w => (w.1, i.2 w.2)).map (·.1) =
      r.hist.cm.imWrites i.1 := by
    rw [List.map_map]
    exact List.zipIdx_map_fst 0 _
  rw [hfst, hk.sameModel, ← hwritten, hk.store] at hfile
  refine ⟨hmodel, hpath.trans hk.samePath, ?_, hsync hk.synced, ?_, ?_⟩
  · exact ImStore.ext_body fun k => (hfile k).trans (hbody k).symm
  · intro c hc k
    rcases List.mem_append.1 hc with hc | hc
    · exact hk.calls c hc k
    · rw [List.mem_singleton.1 hc]
      exact hbody k
  · intro k
    rw [hbody, hk.last, ← ImKind.lastBody_append, CmHist.written, CmHist.written,
      List.flatMap_append, List.flatMap_singleton]

end Kept

/-- **A Read returns what was last written.** In every run from any store, the record that a Read or
ReadImplicit returns with status OK, after a header that repeats the request, is the canonical block
of the last body that an accepted Write put there, or of the initial one; a call without such a
record leaves the body alone; and after the last record was persisted, the file has the whole
store. -/
theorem reads_last_written (model : DeviceModel) (seed : Uuid) (pid : Nat) (im0 : Im0)
    (im : ImStore) (path : Option FsPath) (disk : Disk) (r : ImRun)
    (hr : ((imSystem model seed pid).startAt
      ⟨⟨{ Cm.new model seed with im0, im }, []⟩, ⟨im, path, disk, []⟩⟩).Reach r) :
    (∀ (k : ImKind) buf src now cm' out req, r.hist.cm.ReadsRecord buf req →
      req.index = k.index → r.hist.cm.handleDatagram buf src now = .ok (cm', out) →
      ∀ o ∈ out.send, ∀ b, okBlocks o.bytes = some b →
        ∃ body, body = k.lastBody model r.hist.written (k.body im) ∧ body.length = k.len ∧
          ReadAnswer req (k.block body) b) ∧
    (∀ c ∈ r.hist.log, ∀ k : ImKind, c.written.filterMap (k.writtenBy model) = [] →
      k.body c.after.im = k.body c.before.im) ∧
    (r.file.store = r.hist.cm.im ∧ ∀ p, path = some p → r.file.outcomes.getLast? = some .done →
      ImStore.load r.file.disk (some p) = r.hist.cm.im) := by
  have hk : ImKept model im path r := by
    refine System.Reach.inv (I := ImKept model im path) ?_ ?_ hr
    · rintro _ rfl
      exact ⟨rfl, rfl, rfl, fun p _ hl => (by cases hl), fun c hc => (by cases hc), fun k => rfl⟩
    · intro r i r' hk hs
      exact imKept_step hk hs
  refine ⟨?_, ?_, hk.store, ?_⟩
  · intro k buf src now cm' out req hread hi hd o ho b hb
    refine ⟨_, rfl, ?_, ?_⟩
    · rw [← hk.last]
      exact k.length_body _
    · rw [← hk.last]
      exact reads_stored hread hi hd ho hb
  · intro c hc k hnone
    rw [hk.calls c hc k, ImKind.lastBody, hnone]
    rfl
  · intro p hp hlast
    rw [← hk.store]
    exact hk.synced p (hk.samePath.trans hp) hlast

namespace Demo

/-- A device with one submodule. -/
def imModel : DeviceModel :=
  { model with slots := [⟨0, 1, [⟨1, 1, 0, 0⟩]⟩] }

def im2Body : Bytes := List.replicate 16 0x41

/-- A Write of the second record. -/
def writeIm2 : Bytes :=
  request 1 .write (block Ty.iodWriteReqHeader (be16 1 ++ (uuid 3).bytes ++ be32 0 ++ be16 0 ++
    be16 1 ++ be16 0 ++ be16 indexIm2 ++ be32 22 ++ List.replicate 24 0) ++
    block blockTypeIm2 im2Body)

def readIm2Req : ReadReq :=
  { seq := 2, arUuid := uuid 3, api := 0, slot := 0, subslot := 1, index := indexIm2,
    recordDataLength := 100, targetArUuid := uuid 0 }

def readIm2Blocks : Bytes :=
  block Ty.iodReadReqHeader (be16 2 ++ (uuid 3).bytes ++ be32 0 ++ be16 0 ++ be16 1 ++ be16 0 ++
    be16 indexIm2 ++ be32 100 ++ List.replicate 24 0)

def imStart : ImRun :=
  ⟨⟨Cm.new imModel seed, []⟩, ⟨ImStore.new, some ⟨true, ["im"]⟩, fun _ => none, []⟩⟩

/-- The Read is answered OK, after a Write that was persisted. -/
def readsIm2 (r : ImRun) : Bool :=
  match r.hist.cm.handleDatagram (request 2 .read readIm2Blocks) plc 0 with
  | .ok (_, out) => out.send.any (fun o => (okBlocks o.bytes).isSome) &&
      r.hist.cm.cacheLookup (uuid 5, 2) = none &&
      ImKind.lastBody .im2 imModel r.hist.written (ImKind.body .im2 .new) = im2Body &&
      r.file.outcomes.getLast? = some .done
  | _ => false

end Demo

/-- The second record is written and then read; the file has it too. -/
theorem reads_last_written_im2 :
    ∃ r cm' out, ((imSystem Demo.imModel Demo.seed 7).startAt Demo.imStart).Reach r ∧
      r.hist.cm.handleDatagram (Demo.request 2 .read Demo.readIm2Blocks) Demo.plc 0 =
        .ok (cm', out) ∧ ∃ o ∈ out.send, ∃ b, okBlocks o.bytes = some b ∧
      b.drop 64 = [0x00, 0x22, 0x00, 0x12, 0x01, 0x00] ++ List.replicate 16 0x41 ∧
      ImStore.load r.file.disk (some ⟨true, ["im"]⟩) = r.hist.cm.im := by
  have hrun : (((imSystem Demo.imModel Demo.seed 7).startAt Demo.imStart).run Demo.imStart
      [(Demo.recv (Demo.connect 0 1), fun _ => .done),
        (Demo.recv Demo.writeIm2, fun _ => .done)]).any Demo.readsIm2 = true := by
    decide +kernel
  obtain ⟨r, hr, hp⟩ := System.exists_reach_of_run rfl hrun
  unfold Demo.readsIm2 at hp
  split at hp
  · rename_i cm' out hd
    simp only [Bool.and_eq_true, decide_eq_true_eq, List.any_eq_true] at hp
    obtain ⟨⟨⟨⟨o, ho, hok⟩, hl⟩, hlast⟩, hdone⟩ := hp
    obtain ⟨b, hb⟩ := Option.isSome_iff_exists.1 hok
    obtain ⟨hread, -, -, hload⟩ := reads_last_written Demo.imModel Demo.seed 7 im0Default
      ImStore.new (some ⟨true, ["im"]⟩) (fun _ => none) r hr
    have hask : r.hist.cm.ReadsRecord (Demo.request 2 .read Demo.readIm2Blocks) Demo.readIm2Req :=
      ⟨{ callHeader (Demo.uuid 1) (Demo.uuid 5) 2 Demo.readIm2Blocks.length with
          interface := pnioDeviceInterface, opnum := Opnum.read.toU16 },
        NdrRequest.forBlocks 1340 (UInt32.ofNat Demo.readIm2Blocks.length), Demo.readIm2Blocks,
        ⟨by decide +kernel, rfl, rfl, by decide +kernel⟩, hl, .inl rfl, by decide +kernel⟩
    obtain ⟨body, hbody, -, hres⟩ := hread .im2 _ _ _ cm' out _ hask rfl hd o ho b hb
    rw [hlast] at hbody
    rw [hbody] at hres
    exact ⟨r, cm', out, hr, hd, o, ho, b, hb, hres.carries, hload _ rfl hdone⟩
  · cases hp

end Pnio
