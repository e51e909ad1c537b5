import Pnio.CmTrans
import Pnio.Lib.Runs

/-!
Runs of the context manager: any datagrams from anywhere, ticks and aborts, in any order.

The run keeps the calls placed since the current AR was established, so that what a datagram
answers can be compared with what was asked.
-/

namespace Pnio

inductive CmInput where
  | datagram (buf : Bytes) (src : SocketAddr) (now : Instant)
  | tick (now : Instant)
  | abort (reason : AbortReason) (now : Instant)
deriving DecidableEq

/-- A refused datagram is logged and dropped; a panic ends the run. -/
def Cm.settle (cm : Cm) : Res RpcError (Cm × CmOutput) → Option (Cm × CmOutput)
  | .ok r => some r
  | .err _ => some (cm, ⟨[], []⟩)
  | .panic _ => none

lemma Cm.settle_cases {cm cm' : Cm} {out : CmOutput} {x : Res RpcError (Cm × CmOutput)}
    (h : cm.settle x = some (cm', out)) :
    x = .ok (cm', out) ∨ (∃ e, x = .err e) ∧ cm' = cm ∧ out = ⟨[], []⟩ := by
  cases x with
  | ok r => exact .inl (congrArg Res.ok (Option.some.inj h))
  | err e =>
    cases h
    exact .inr ⟨⟨e, rfl⟩, rfl, rfl⟩
  | panic p => cases h

def Cm.step (cm : Cm) : CmInput → Option (Cm × CmOutput)
  | .datagram buf src now => cm.settle (cm.handleDatagram buf src now)
  | .tick now => cm.settle (cm.tick now)
  | .abort reason now => cm.settle (cm.abort reason now)

/-- A manager with the headers of the calls placed for the current AR, oldest first. -/
structure CmRun where
  cm : Cm
  calls : List RpcHeader

namespace CmRun

/-- Calls of an AR that was replaced are forgotten. -/
def record (r : CmRun) (cm : Cm) (out : CmOutput) : CmRun :=
  { cm, calls := if out.notify.any (·.1 = .connected) then out.calls else r.calls ++ out.calls }

/-- The ApplicationReady call that waits for an answer. -/
def outstanding (r : CmRun) : Option RpcHeader := r.calls.getLast?

end CmRun

def cmSystem (model : DeviceModel) (seed : Uuid) : System CmRun CmInput where
  init r := ∃ im0 im, r = ⟨{ Cm.new model seed with im0, im }, []⟩
  step r i := (r.cm.step i).map fun p => r.record p.1 p.2

/-- Every step of a run is one of the effects. -/
lemma Cm.step_effect {cm cm' : Cm} {i : CmInput} {out : CmOutput} (hc : cm.CacheOk)
    (h : cm.step i = some (cm', out)) : Effect cm cm' out ∧ Frame cm cm' := by
  have quiet : Effect cm cm ⟨[], []⟩ ∧ Frame cm cm := ⟨.quiet rfl rfl rfl rfl rfl rfl, .refl _⟩
  cases i with
  | datagram buf src now =>
    rcases settle_cases h with hok | ⟨-, rfl, rfl⟩
    · exact handleDatagram_effect hc hok
    · exact quiet
  | tick now =>
    rcases settle_cases h with hok | ⟨-, rfl, rfl⟩
    · exact tick_effect hok
    · exact quiet
  | abort reason now =>
    rcases settle_cases h with hok | ⟨-, rfl, rfl⟩
    · exact abort_effect hok
    · exact quiet

/-! ### The calls of the current AR -/

/-- While an AR waits for its answer, all its calls carry one activity and one number. -/
structure CallInv (seed : Uuid) (r : CmRun) : Prop where
  cache : r.cm.CacheOk
  activity : r.cm.activitySeed = seed
  none_yet : r.cm.ar.state = .connected → r.calls = []
  placed : r.cm.ar.state = .appReadySent → r.calls ≠ []
  same : r.cm.ar.state = .appReadySent → ∀ c ∈ r.calls,
    c.activity = seed ∧ r.cm.currentCallSeq = some c.seqNum

lemma callInv_init {model : DeviceModel} {seed : Uuid} {r : CmRun}
    (h : (cmSystem model seed).init r) : CallInv seed r := by
  obtain ⟨im0, im, rfl⟩ := h
  exact ⟨nofun, rfl, nofun, nofun, nofun⟩

lemma callInv_effect {seed : Uuid} {r : CmRun} {cm' : Cm} {out : CmOutput}
    (hi : CallInv seed r) (he : r.cm.Effect cm' out) (hf : r.cm.Frame cm') :
    CallInv seed (r.record cm' out) := by
  have hc := hf.cache hi.cache
  have hseed : cm'.activitySeed = seed := hf.seed.trans hi.activity
  cases he with
  | quiet hs hp hq hcc hn hl =>
    have hcalls : (r.record cm' out).calls = r.calls := by simp [CmRun.record, hn, hl]
    refine ⟨hc, hseed, fun h => ?_, fun h => ?_, fun h c hm => ?_⟩
    · rw [hcalls]; exact hi.none_yet (hs ▸ h)
    · rw [hcalls]; exact hi.placed (hs ▸ h)
    · rw [hcalls] at hm
      exact (hi.same (hs ▸ h) c hm).imp_right (hcc.trans ·)
  | established hs hs' hp hq hcc hn hl =>
    have hcalls : (r.record cm' out).calls = [] := by simp [CmRun.record, hn, hl]
    exact ⟨hc, hseed, fun _ => hcalls, fun h => by simp [CmRun.record, hs'] at h,
      fun h => by simp [CmRun.record, hs'] at h⟩
  | takeover hs hs' hp hq hcc hn hl =>
    have hcalls : (r.record cm' out).calls = [] := by simp [CmRun.record, hn, hl]
    exact ⟨hc, hseed, fun _ => hcalls, fun h => by simp [CmRun.record, hs'] at h,
      fun h => by simp [CmRun.record, hs'] at h⟩
  | lost hs hs' hp hq hn hl =>
    exact ⟨hc, hseed, fun h => by simp [CmRun.record, hs'] at h,
      fun h => by simp [CmRun.record, hs'] at h, fun h => by simp [CmRun.record, hs'] at h⟩
  | @ready hdr hs hs' hp hv hq hcc hn hl ha hk =>
    have hcalls : (r.record cm' out).calls = [hdr] := by
      simp [CmRun.record, hn, hl, hi.none_yet hs]
    refine ⟨hc, hseed, fun h => by simp [CmRun.record, hs'] at h, fun _ => by simp [hcalls],
      fun _ c hm => ?_⟩
    rw [hcalls, List.mem_singleton] at hm
    subst hm
    exact ⟨ha.trans hi.activity, hcc.trans (by rw [hk])⟩
  | @retry hdr hs hs' hp hq hcc hn hl ha hk =>
    have hcalls : (r.record cm' out).calls = r.calls ++ [hdr] := by
      simp [CmRun.record, hn, hl]
    refine ⟨hc, hseed, fun h => by simp [CmRun.record, hs'] at h, fun _ => by simp [hcalls],
      fun _ c hm => ?_⟩
    rw [hcalls, List.mem_append, List.mem_singleton] at hm
    rcases hm with hm | rfl
    · exact (hi.same hs c hm).imp_right (hcc.trans ·)
    · exact ⟨ha.trans hi.activity, hcc.trans hk⟩
  | data hs hs' hp hq hcc hn hl =>
    exact ⟨hc, hseed, fun h => by simp [CmRun.record, hs'] at h,
      fun h => by simp [CmRun.record, hs'] at h, fun h => by simp [CmRun.record, hs'] at h⟩

lemma callInv_step {model : DeviceModel} {seed : Uuid} {r r' : CmRun} {i : CmInput}
    (hi : CallInv seed r) (h : (cmSystem model seed).step r i = some r') : CallInv seed r' := by
  simp only [cmSystem, Option.map_eq_some_iff] at h
  obtain ⟨⟨cm', out⟩, hs, rfl⟩ := h
  obtain ⟨he, hf⟩ := Cm.step_effect hi.cache hs
  exact callInv_effect hi he hf

lemma callInv_reach {model : DeviceModel} {seed : Uuid} {r : CmRun}
    (h : (cmSystem model seed).Reach r) : CallInv seed r :=
  h.inv (fun _ => callInv_init) fun _ _ _ => callInv_step

/-! ### Entering Data -/

/-- The datagram is a Response to the ApplicationReady call outstanding. -/
def AnswersOutstanding (seed : Uuid) (r : CmRun) (buf : Bytes) : Prop :=
  ∃ h c, RpcHeader.parse buf = .ok h ∧ h.ptype = .response ∧ r.outstanding = some c ∧
    h.activity = seed ∧ h.seqNum = c.seqNum

/-- The header of a Response PDU whose status is OK. -/
def okResponse (buf : Bytes) : Option RpcHeader :=
  match RpcHeader.parse buf with
  | .ok h =>
    if h.ptype = .response then
      match NdrResponse.parse (buf.drop 80) h.drep with
      | .ok (n, _) => if n.status = 0 then some h else none
      | _ => none
    else none
  | _ => none

lemma okResponse_of {buf bl : Bytes} {h : RpcHeader} {n : NdrResponse}
    (hh : RpcHeader.parse buf = .ok h) (ht : h.ptype = .response)
    (hn : NdrResponse.parse (buf.drop 80) h.drep = .ok (n, bl)) (hz : n.status = 0) :
    okResponse buf = some h := by
  simp [okResponse, hh, ht, hn, hz]

lemma okResponse_header {buf : Bytes} {h : RpcHeader} (ho : okResponse buf = some h) :
    RpcHeader.parse buf = .ok h ∧ h.ptype = .response := by
  unfold okResponse at ho
  split at ho
  · rename_i h' hp
    split_ifs at ho with ht
    split at ho
    · split_ifs at ho
      cases ho
      exact ⟨hp, ht⟩
    · cases ho
  · cases ho

/-- While the AR waits for its answer, an OK Response that arrives echoes the activity and the
number of some call placed for this AR: nothing late, duplicated or foreign. -/
def NoStrayAnswer (r : CmRun) : CmInput → Prop
  | .datagram buf _ _ => r.cm.ar.state = .appReadySent → ∀ h ∈ okResponse buf,
      ∃ c ∈ r.calls, h.activity = c.activity ∧ h.seqNum = c.seqNum
  | _ => True

instance (r : CmRun) (i : CmInput) : Decidable (NoStrayAnswer r i) := by
  cases i <;> unfold NoStrayAnswer <;> infer_instance

lemma Cm.served_data {ε : Type} {cm cm1 : Cm} {opnum : UInt16} {blocks : Bytes}
    {src : SocketAddr} {now : Instant} {acts : List Action}
    (h : Served ε cm opnum blocks src now cm1 acts) (hd : cm1.ar.state = .data) :
    cm.ar.state = .data := by
  cases h with
  | refused hz => exact hd
  | read ho => exact hd
  | connect ho hp ht =>
    refine ht.request_data rfl ?_
    simpa using hd
  | write ho hp ht => exact ht.request_data rfl hd
  | prmEnd ho hp hc ht => exact ht.request_data rfl hd
  | release ho hp ht => exact ht.request_data rfl hd

/-- Only a Response with status OK, while the AR waits for it, leads into Data. -/
lemma Cm.enters_data {cm cm' : Cm} {buf : Bytes} {src : SocketAddr} {now : Instant}
    {out : CmOutput} (h : cm.handleDatagram buf src now = .ok (cm', out))
    (hs : cm.ar.state ≠ .data) (hs' : cm'.ar.state = .data) :
    cm.ar.state = .appReadySent ∧ ∃ hd, okResponse buf = some hd := by
  cases handleDatagram_handled h with
  | response hh ht hn hon ha =>
    rw [(apply_frame ha).2] at hs'
    cases hon with
    | appReady hw hz => exact ⟨hw, _, okResponse_of hh ht hn hz⟩
    | ignored hr => exact absurd hs' hs
    | appReadyRejected hw hz => simp [Ar.dropped] at hs'
    | refused hr hz => cases hr
  | other hh ht ht' => exact absurd hs' hs
  | cached hh ht hl => exact absurd hs' hs
  | fresh hh ht hl hn hsv hctx ha =>
    rw [(apply_frame ha).2] at hs'
    exact absurd (served_data hsv hs') hs

/-- **Data is entered by the answer to the outstanding call**, in every run in which no stray
answer arrives. -/
theorem enters_data_by_outstanding_answer {model : DeviceModel} {seed : Uuid} {r : CmRun}
    (hr : (cmSystem model seed).ReachWhen NoStrayAnswer r) {buf : Bytes} {src : SocketAddr}
    {now : Instant} {cm' : Cm} {out : CmOutput} (hg : NoStrayAnswer r (.datagram buf src now))
    (h : r.cm.handleDatagram buf src now = .ok (cm', out)) (hs : r.cm.ar.state ≠ .data)
    (hs' : cm'.ar.state = .data) : AnswersOutstanding seed r buf := by
  have hi := callInv_reach hr.reach
  obtain ⟨hw, hd, ho⟩ := Cm.enters_data h hs hs'
  obtain ⟨hh, ht⟩ := okResponse_header ho
  obtain ⟨c, hc, ha, hk⟩ := hg hw hd ho
  obtain ⟨last, hl⟩ : ∃ last, r.outstanding = some last :=
    ⟨_, List.getLast?_eq_some_getLast (hi.placed hw)⟩
  -- all calls of this AR carry the same number, so the last one does
  have hsame : c.seqNum = last.seqNum := by
    have h1 := (hi.same hw c hc).2
    have h2 := (hi.same hw last (List.mem_of_getLast? hl)).2
    exact Option.some.inj (h1.symm.trans h2)
  exact ⟨hd, last, hh, ht, hl, ha.trans (hi.same hw c hc).1, hk.trans hsame⟩

/-! ### A controller and its datagrams -/

namespace Demo

def uuid (b : UInt8) : Uuid := .fill 16 b

/-- A device without slots. -/
def model : DeviceModel :=
  { vendorId := 1, deviceId := 2, inst := 1, stationName := ⟨[0x61], rfl⟩,
    mac := MacAddr.of 2 0 0 0 0 1, maxAlarmDataLength := 200, slots := [] }

def plc : SocketAddr := ⟨.v4 ⟨[10, 0, 0, 1], rfl⟩, 34964⟩

def block (ty : UInt16) (body : Bytes) : Bytes :=
  be16 ty ++ be16 (UInt16.ofNat (body.length + 2)) ++ [1, 0] ++ body

/-- An IOCRBlockReq with one API and no objects. -/
def iocr (ty frameId : UInt16) : Bytes :=
  block Ty.iocrBlockReq (be16 ty ++ be16 ty ++ be16 0x8892 ++ be32 0 ++ be16 40 ++ be16 frameId ++
    be16 32 ++ be16 1 ++ be16 1 ++ be16 0 ++ be32 0 ++ be16 3 ++ be16 3 ++ be16 0 ++
    List.replicate 6 0 ++ be16 1 ++ be32 0 ++ be16 0 ++ be16 0)

def connectBlocks (arUuid : Uuid) (sessionKey : UInt16) : Bytes :=
  block Ty.arBlockReq (be16 1 ++ arUuid.bytes ++ be16 sessionKey ++ [2, 0, 0, 0, 0, 2] ++
    (uuid 4).bytes ++ be32 0 ++ be16 100 ++ be16 0x8892 ++ be16 0) ++
  iocr 1 0x8000 ++ iocr 2 0x8001 ++
  block Ty.alarmCrBlockReq (be16 1 ++ be16 0x8892 ++ be32 0 ++ be16 1 ++ be16 3 ++ be16 0 ++
    be16 200 ++ be16 0xc000 ++ be16 0xa000)

def controlBlocks (ty cmd : UInt16) (arUuid : Uuid) (sessionKey : UInt16) : Bytes :=
  block ty (be16 0 ++ arUuid.bytes ++ be16 sessionKey ++ be16 0 ++ be16 cmd ++ be16 0)

/-- A request of the controller under its own activity. -/
def request (seqNum : UInt32) (op : Opnum) (blocks : Bytes) : Bytes :=
  let h := { callHeader (uuid 1) (uuid 5) seqNum blocks.length with
    interface := pnioDeviceInterface, opnum := op.toU16 }
  h.write ++ (NdrRequest.forBlocks 1340 (UInt32.ofNat blocks.length)).write .big ++ blocks

def connect (seqNum : UInt32) (sessionKey : UInt16) : Bytes :=
  request seqNum .connect (connectBlocks (uuid 3) sessionKey)

def prmEnd (seqNum : UInt32) (sessionKey : UInt16) : Bytes :=
  request seqNum .control
    (controlBlocks Ty.iodControlReqPrmEnd ControlCmd.prmEnd (uuid 3) sessionKey)

def release (seqNum : UInt32) (sessionKey : UInt16) : Bytes :=
  request seqNum .release
    (controlBlocks Ty.releaseBlockReq ControlCmd.release (uuid 3) sessionKey)

/-- The activity under which the device calls. -/
def seed : Uuid := uuid 9

/-- An OK Response under the device's activity. -/
def answer (seqNum : UInt32) : Bytes :=
  let h := { callHeader (uuid 4) seed seqNum 0 with ptype := .response }
  h.write ++ (NdrResponse.ok 1340 0).write .big

def start : CmRun := ⟨Cm.new model seed, []⟩

lemma start_init : (cmSystem model seed).init start := ⟨im0Default, ImStore.new, rfl⟩

def recv (buf : Bytes) : CmInput := .datagram buf plc 0

end Demo

open Demo

/-- `buf` moves the AR into Data, and its number is or is not that of the call outstanding. -/
def intoData (buf : Bytes) (answered : Bool) (r : CmRun) : Bool :=
  match r.cm.handleDatagram buf plc 0, RpcHeader.parse buf with
  | .ok (cm', _), .ok h =>
    r.cm.ar.state ≠ .data ∧ cm'.ar.state = .data ∧
      (r.outstanding.map (·.seqNum) = some h.seqNum ↔ answered = true)
  | _, _ => false

lemma intoData_spec {buf : Bytes} {answered : Bool} {r : CmRun}
    (h : intoData buf answered r = true) :
    ∃ cm' out hd, r.cm.handleDatagram buf plc 0 = .ok (cm', out) ∧ RpcHeader.parse buf = .ok hd ∧
      r.cm.ar.state ≠ .data ∧ cm'.ar.state = .data ∧
      (r.outstanding.map (·.seqNum) = some hd.seqNum ↔ answered = true) := by
  unfold intoData at h
  split at h
  · rename_i cm' out hd hh hp
    exact ⟨cm', out, hd, hh, hp, of_decide_eq_true h⟩
  · cases h

/-- The plain case: Connect, PrmEnd and the answer to the call. -/
theorem answer_enters_data :
    ∃ r cm' out, (cmSystem Demo.model Demo.seed).ReachWhen NoStrayAnswer r ∧
      r.cm.handleDatagram (answer 0) plc 0 = .ok (cm', out) ∧ r.cm.ar.state ≠ .data ∧
      cm'.ar.state = .data ∧ AnswersOutstanding Demo.seed r (answer 0) := by
  have hrun : ((cmSystem Demo.model Demo.seed).runWhen NoStrayAnswer start
      [recv (connect 0 1), recv (prmEnd 1 1)]).any
      (fun r => intoData (answer 0) true r &&
        decide (NoStrayAnswer r (recv (answer 0)))) = true := by
    decide +kernel
  obtain ⟨r, hr, hp⟩ := System.exists_reachWhen_of_run start_init hrun
  simp only [Bool.and_eq_true, decide_eq_true_eq] at hp
  obtain ⟨cm', out, hd, hh, -, hs, hs', -⟩ := intoData_spec hp.1
  exact ⟨r, cm', out, hr, hh, hs, hs',
    enters_data_by_outstanding_answer hr hp.2 hh hs hs'⟩

/-- The first AR is answered and replaced by a new session; a duplicate of the answer to its
call then moves the second AR into Data, whose own call is still unanswered. -/
theorem duplicate_answer_enters_data :
    ¬ ∀ (model : DeviceModel) (seed : Uuid) (r : CmRun) (buf : Bytes) (src : SocketAddr)
        (now : Instant) (cm' : Cm) (out : CmOutput), (cmSystem model seed).Reach r →
        r.cm.handleDatagram buf src now = .ok (cm', out) → r.cm.ar.state ≠ .data →
        cm'.ar.state = .data → AnswersOutstanding seed r buf := by
  intro hall
  have hrun : ((cmSystem Demo.model Demo.seed).run start [recv (connect 0 1), recv (prmEnd 1 1),
      recv (answer 0), recv (connect 2 2), recv (prmEnd 3 2)]).any
      (intoData (answer 0) false) = true := by decide +kernel
  obtain ⟨r, hr, hp⟩ := System.exists_reach_of_run start_init hrun
  obtain ⟨cm', out, hd, hh, hp, hs, hs', hne⟩ := intoData_spec hp
  obtain ⟨h', c, hp', -, hc, -, hk⟩ := hall _ _ r (answer 0) plc 0 cm' out hr hh hs hs'
  cases hp.symm.trans hp'
  have heq : r.outstanding.map (·.seqNum) = some hd.seqNum := by rw [hc, hk]; rfl
  exact absurd (hne.1 heq) (by decide)

end Pnio
