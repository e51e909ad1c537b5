import Pnio.DeviceOps

/-!
The ERR-RTA an AR is aborted with: the abort that ends the period of an AR in `Data` sends one
ahead of the callback, and no other operation sends any.
-/

namespace Pnio

/-! ### Runs, operation by operation -/

/-- One operation of a run. -/
structure DeviceTurn where
  before : Device × List Batch
  op : DeviceOp
  after : Device × List Batch

/-- What was done in this operation. -/
def DeviceTurn.obs (u : DeviceTurn) : List Obs := u.after.1.log.drop u.before.1.log.length

structure DeviceTrace where
  state : Device × List Batch
  turns : List DeviceTurn

def deviceOps : System DeviceTrace DeviceOp where
  init t := ∃ setup, t = ⟨(.new setup, []), []⟩
  step t op := (Device.operate t.state op).map fun s => ⟨s, t.turns ++ [⟨t.state, op, s⟩]⟩

/-- The turns of one period in `Data`, from the one that enters it to the one that leaves it. -/
structure Period (turns : List DeviceTurn) (enter : DeviceTurn) (mid : List DeviceTurn)
    (leave : DeviceTurn) : Prop where
  among : ∃ a b, turns = a ++ enter :: (mid ++ leave :: b)
  entered : enter.before.1.cm.ar.state ≠ .data
  stays : ∀ u ∈ mid, u.before.1.cm.ar.state = .data ∧ u.after.1.cm.ar.state = .data
  last : leave.before.1.cm.ar.state = .data
  left : leave.after.1.cm.ar.state ≠ .data

namespace Device

lemma errRtaCode2_of_not_controller {r : AbortReason} (h : ∀ status, r ≠ .controllerErrRta status) :
    ∃ code2, errRtaCode2 r = some code2 := by
  cases r with
  | controllerErrRta status => exact absurd rfl (h status)
  | _ => exact ⟨_, rfl⟩

/-- What the turns of a run say. -/
structure Traced (t : DeviceTrace) : Prop where
  inv : OpInv t.state
  log : t.state.1.log = t.turns.flatMap (·.obs)
  tells : ∀ u ∈ t.turns, Tells u.before u.op u.after.1 u.obs

section Traced

variable {t t' : DeviceTrace} {u : DeviceTurn}

lemma Traced.step {op : DeviceOp} (h : Traced t) (hs : deviceOps.step t op = some t') :
    Traced t' := by
  obtain ⟨⟨d', ps'⟩, hop, rfl⟩ := Option.map_eq_some_iff.1 hs
  obtain ⟨hinv, obs, htells⟩ := operate_spec h.inv hop
  have hobs : DeviceTurn.obs ⟨t.state, op, (d', ps')⟩ = obs := by
    rw [DeviceTurn.obs, htells.log, List.drop_left]
  refine ⟨hinv, ?_, fun u hu => ?_⟩
  · rw [htells.log, List.flatMap_append, ← h.log, List.flatMap_singleton, hobs]
  · rcases List.mem_append.1 hu with hu | hu
    · exact h.tells u hu
    · obtain rfl := List.mem_singleton.1 hu
      rw [hobs]
      exact htells

lemma reach_traced (h : deviceOps.Reach t) : Traced t := by
  refine System.Reach.inv (I := Traced) ?_ (fun _ _ _ ht hs => ht.step hs) h
  rintro _ ⟨setup, rfl⟩
  exact ⟨new_opInv setup, rfl, fun u hu => nomatch hu⟩

/-- The operations of a call, one turn each. -/
lemma reach_operate {ops : List DeviceOp} {s' : Device × List Batch} (h : deviceOps.Reach t)
    (hops : ops.foldlM operate t.state = some s') :
    ∃ us : List DeviceTurn, us.map (·.op) = ops ∧ deviceOps.Reach ⟨s', t.turns ++ us⟩ := by
  induction ops generalizing t with
  | nil =>
    cases hops
    exact ⟨[], rfl, by rwa [List.append_nil]⟩
  | cons op ops ih =>
    rw [List.foldlM_cons] at hops
    obtain ⟨s1, h1, hops⟩ := Option.bind_eq_some_iff.1 hops
    have hstep : deviceOps.step t op = some ⟨s1, t.turns ++ [⟨t.state, op, s1⟩]⟩ := by
      simp only [deviceOps, h1, Option.map_some]
    obtain ⟨us, rfl, hus⟩ := ih (.step h trivial hstep) hops
    refine ⟨⟨t.state, op, s1⟩ :: us, rfl, ?_⟩
    rwa [List.append_assoc] at hus

/-- Within a period nothing is said. -/
lemma Tells.stays {obs : List Obs} (h : Tells u.before u.op u.after.1 obs)
    (hb : u.before.1.cm.ar.state = .data) (ha : u.after.1.cm.ar.state = .data) :
    errRtasOf obs = [] := by
  refine h.quiet (.inr ?_)
  cases hpath : abortPath u.before u.op with
  | none => rfl
  | some r =>
    have hidle := (h.announced r hb hpath).idle
    rw [ha] at hidle
    cases hidle

/-- The frame announces an abort on the channel: it has the references and the counters of the
channel, and the status is an RTA error with the given code. -/
def AnnouncesAbort (ch : AlarmChannel) (code2 : UInt8) (frame : Bytes) : Prop :=
  ∃ status : PnioStatus, be32 status.val = [0xCF, 0x81, 0xFD, code2] ∧
    (ch.errRta status : Res Empty _) = .ok frame ∧
    errRtaOf frame = some
      { priority := .low
        header :=
          { dstRef := ch.cfg.remoteRef, srcRef := ch.cfg.localRef, pduType := .err, tack := false,
            sendSeq := ch.lastSentSeq, ackSeq := ch.lastRxSeq }
        body := .err status }

/-- The ERR-RTA of an abort is the only one, and nothing but the callback follows. -/
lemma Announced.once {d d' : Device} {r : AbortReason} {obs : List Obs} {code2 : UInt8}
    (h : Announced d r d' obs) (hcode : errRtaCode2 r = some code2) :
    ∃ ch frame pre, d.alarm = some ch ∧ AnnouncesAbort ch code2 frame ∧
      obs = pre ++ [.ethSent frame, .callback .idle (some r), .closed] ∧
      errRtasOf obs = [frame] := by
  obtain ⟨ch, pre, said, hch, hwords, hpre, rfl⟩ := h.said
  rw [Says, hcode] at hwords
  obtain ⟨frame, hframe, rfl, herr⟩ := hwords
  have hstatus : be32 (PnioStatus.rtaAbort code2).val = [0xCF, 0x81, 0xFD, code2] :=
    be32_ofBe (by simp)
  refine ⟨ch, frame, pre, hch, ⟨_, hstatus, hframe, herr⟩, by rw [List.append_assoc]; rfl, ?_⟩
  rw [errRtasOf_append, errRtasOf_append, hpre]
  simp [errRtasOf, Obs.sentFrame, herr]

/-- The controller's own ERR-RTA is not answered. -/
lemma Announced.silent {d d' : Device} {r : AbortReason} {obs : List Obs}
    (h : Announced d r d' obs) (hcode : errRtaCode2 r = none) : errRtasOf obs = [] := by
  obtain ⟨ch, pre, said, -, hwords, hpre, rfl⟩ := h.said
  rw [Says, hcode] at hwords
  rw [hwords, List.append_nil, errRtasOf_append, hpre]
  rfl

end Traced

/-- **One ERR-RTA for an AR the device aborts.** A run of the device is a run of its operations,
and what it does is what they do. No operation sends an ERR-RTA outside `Data`. In a period in
`Data` none is sent until its last turn. If that turn is on the abort path for a reason other than
the controller's ERR-RTA, the open channel sends exactly one, with the code of the reason and its
own counters, right ahead of the callback; otherwise none is sent. -/
theorem errRta_once_per_abort :
    (∀ d, deviceSystem.Reach d → ∃ t, deviceOps.Reach t ∧ t.state = (d, [])) ∧
    (∀ t d i d', deviceOps.Reach t → t.state = (d, []) → d.next i = some d' →
      ∃ us : List DeviceTurn, OpsOf i (us.map (·.op)) ∧
        deviceOps.Reach ⟨(d', []), t.turns ++ us⟩) ∧
    ∀ t, deviceOps.Reach t →
      t.state.1.log = t.turns.flatMap (·.obs) ∧
      (∀ u ∈ t.turns, u.before.1.cm.ar.state ≠ .data → errRtasOf u.obs = []) ∧
      ∀ enter mid leave, Period t.turns enter mid leave →
        (∀ u ∈ enter :: mid, errRtasOf u.obs = []) ∧
        (∀ reason, abortPath leave.before leave.op = some reason →
          (∀ status, reason ≠ .controllerErrRta status) →
          ∃ code2 ch frame pre, errRtaCode2 reason = some code2 ∧
            leave.before.1.alarm = some ch ∧ AnnouncesAbort ch code2 frame ∧
            leave.obs = pre ++ [.ethSent frame, .callback .idle (some reason), .closed] ∧
            errRtasOf leave.obs = [frame]) ∧
        (∀ status, abortPath leave.before leave.op = some (.controllerErrRta status) →
          errRtasOf leave.obs = []) ∧
        (abortPath leave.before leave.op = none → errRtasOf leave.obs = []) := by
  have hextend : ∀ t d i d', deviceOps.Reach t → t.state = (d, []) → d.next i = some d' →
      ∃ us : List DeviceTurn, OpsOf i (us.map (·.op)) ∧
        deviceOps.Reach ⟨(d', []), t.turns ++ us⟩ := by
    intro t d i d' ht hst hnext
    obtain ⟨ops, hops, hrun⟩ := next_operate hnext
    obtain ⟨us, rfl, hus⟩ := reach_operate ht (hst ▸ hrun)
    exact ⟨us, hops, hus⟩
  refine ⟨fun d hd => ?_, hextend, fun t ht => ?_⟩
  · refine System.Reach.inv (I := fun d => ∃ t, deviceOps.Reach t ∧ t.state = (d, [])) ?_ ?_ hd
    · rintro _ ⟨setup, rfl⟩
      exact ⟨⟨(.new setup, []), []⟩, .init ⟨setup, rfl⟩, rfl⟩
    · rintro d i d' ⟨t, ht, hst⟩ hnext
      obtain ⟨us, -, hus⟩ := hextend t d i d' ht hst hnext
      exact ⟨_, hus, rfl⟩
  have htraced := reach_traced ht
  refine ⟨htraced.log, fun u hu hst => (htraced.tells u hu).quiet (.inl hst), ?_⟩
  intro enter mid leave hp
  obtain ⟨a, b, hturns⟩ := hp.among
  have htells : ∀ u, u = enter ∨ u ∈ mid ∨ u = leave → Tells u.before u.op u.after.1 u.obs := by
    intro u hu
    refine htraced.tells u ?_
    rw [hturns]
    rcases hu with rfl | hu | rfl <;> simp [*]
  have hleave := htells leave (.inr (.inr rfl))
  refine ⟨fun u hu => ?_, fun reason hr hne => ?_, fun status hr => ?_, fun hr => ?_⟩
  · rcases List.mem_cons.1 hu with rfl | hu
    · exact (htells u (.inl rfl)).quiet (.inl hp.entered)
    · obtain ⟨hb, ha⟩ := hp.stays u hu
      exact (htells u (.inr (.inl hu))).stays hb ha
  · obtain ⟨code2, hcode⟩ := errRtaCode2_of_not_controller hne
    obtain ⟨ch, frame, pre, hch⟩ := (hleave.announced reason hp.last hr).once hcode
    exact ⟨code2, ch, frame, pre, hcode, hch⟩
  · exact (hleave.announced _ hp.last hr).silent rfl
  · exact hleave.quiet (.inr hr)

end Device

namespace DeviceDemo

/-- The controller brings its AR up, and the device shuts down. -/
def shutDown : List DeviceOp :=
  [.datagram 0 ⟨Demo.connect 0 1, Demo.plc, true⟩, .datagram 0 ⟨Demo.prmEnd 1 1, Demo.plc, true⟩,
    .datagram 0 ⟨Demo.answer 0, Demo.plc, true⟩, .abort .shutdown 1 true]

/-- The last turn leaves `Data`. -/
def endsData (t : DeviceTrace) : Bool :=
  match t.turns with
  | [_, _, u, v] =>
    decide (u.before.1.cm.ar.state ≠ .data) && decide (v.before.1.cm.ar.state = .data) &&
      decide (v.after.1.cm.ar.state ≠ .data) && decide (v.op = .abort .shutdown 1 true) &&
      decide (v.before.1.alarm.map (fun ch => (ch.lastSentSeq, ch.lastRxSeq)) =
        some (0xFFFE, 0xFFFE))
  | _ => false

end DeviceDemo

open Device DeviceDemo in
/-- A shutdown in `Data`: one ERR-RTA, whose code is 17, before any alarm was sent or received. -/
theorem errRta_once_per_abort_shutdown :
    ∃ t enter leave frame status, deviceOps.Reach t ∧ Period t.turns enter [] leave ∧
      errRtasOf leave.obs = [frame] ∧ be32 status.val = [0xCF, 0x81, 0xFD, 17] ∧
      (errRtaOf frame).map (fun p => (p.header.sendSeq, p.header.ackSeq, p.body)) =
        some (0xFFFE, 0xFFFE, .err status) := by
  have hrun : (deviceOps.run ⟨(.new setup, []), []⟩ shutDown).any endsData = true := by
    decide +kernel
  obtain ⟨t, ht, hp⟩ := System.exists_reach_of_run (S := deviceOps) ⟨setup, rfl⟩ hrun
  unfold endsData at hp
  split at hp
  · next u₁ u₂ enter leave hturns =>
    simp only [Bool.and_eq_true, decide_eq_true_eq] at hp
    obtain ⟨⟨⟨⟨henter, hdata⟩, hleft⟩, hop⟩, hch⟩ := hp
    have hperiod : Period t.turns enter [] leave :=
      ⟨⟨[u₁, u₂], [], hturns⟩, henter, List.forall_mem_nil _, hdata, hleft⟩
    obtain ⟨-, -, hrest⟩ := errRta_once_per_abort
    obtain ⟨-, hsends, -, -⟩ := (hrest t ht).2.2 enter [] leave hperiod
    have hpath : abortPath leave.before leave.op = some .shutdown := by rw [hop]; rfl
    obtain ⟨code2, ch, frame, pre, hcode, halarm, ⟨status, hstatus, -, hframe⟩, -, hone⟩ :=
      hsends .shutdown hpath nofun
    cases hcode
    rw [halarm, Option.map_some, Option.some.injEq, Prod.mk.injEq] at hch
    refine ⟨t, enter, leave, frame, status, ht, hperiod, hone, hstatus, ?_⟩
    rw [hframe, Option.map_some, hch.1, hch.2]
  · cases hp

end Pnio
