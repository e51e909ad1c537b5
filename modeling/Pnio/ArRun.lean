import Pnio.CmTotal

/-!
Runs of the AR machine alone: any events at any times, with all that it answered.

In which state there is a context, which timer is armed and how many ApplicationReady calls were
made; and the records an AR has collected, against the Writes it has answered.
-/

namespace Pnio

/-- One event, when it came and in which state, with the actions it led to. -/
structure ArTurn where
  event : Event
  now : Instant
  before : ArState
  acts : List Action

/-- A machine with all its turns, oldest first. -/
structure ArRun where
  ar : Ar
  log : List ArTurn

def arSystem (model : DeviceModel) : System ArRun (Event × Instant) where
  init r := r = ⟨.new model, []⟩
  step r i :=
    match (r.ar.on i.1 i.2 : Res Empty _) with
    | .ok (ar, acts) => some ⟨ar, r.log ++ [⟨i.1, i.2, r.ar.state, acts⟩]⟩
    | _ => none

lemma ar_step {model : DeviceModel} {r r' : ArRun} {i : Event × Instant}
    (h : (arSystem model).step r i = some r') :
    ∃ ar acts, Ar.Trans Empty i.2 r.ar i.1 ar acts ∧
      r' = ⟨ar, r.log ++ [⟨i.1, i.2, r.ar.state, acts⟩]⟩ := by
  simp only [arSystem] at h
  split at h
  · rename_i ar acts hon
    cases h
    exact ⟨ar, acts, Ar.on_trans hon, rfl⟩
  · cases h

/-! ### The state, its context and its timers -/

namespace Ar

/-- What goes with each state. -/
structure Timed (ar : Ar) : Prop where
  ctx : ar.ctx.isSome ↔ ar.state ≠ .idle
  activity : ar.activityDeadline.isSome ↔ ar.state = .connected
  appReady : ar.appReadyDeadline.isSome ↔ ar.state = .appReadySent
  calling : ar.state = .appReadySent → 1 ≤ ar.appReadyAttempts ∧ ar.appReadyAttempts ≤ 3
  quiet : ar.state ≠ .appReadySent → ar.appReadyAttempts = 0

variable {ar ar' : Ar} {now : Instant}

lemma timed_new (model : DeviceModel) : (new model).Timed := by
  constructor <;> simp [new]

lemma timed_dropped (ar : Ar) : ar.dropped.Timed := by
  constructor <;> simp [dropped]

/-- An AR is set up where there was none. -/
lemma Timed.established (h : ar.Timed) (hs : ar.state = .idle) (p : ArParams) (res : Bytes) :
    (ar.established p res now).Timed := by
  have hready : ar.appReadyDeadline.isSome = false := by
    rw [Bool.eq_false_iff, ne_eq, h.appReady, hs]
    decide
  have hquiet := h.quiet (by rw [hs]; decide)
  constructor <;> simp [Ar.established, activityFrom, hready, hquiet]

lemma Timed.stored (h : ar.Timed) (hs : ar.state ≠ .idle) (c : ArContext) (rs : List Record) :
    (ar.stored c rs now).Timed := by
  refine ⟨by simpa [Ar.stored] using hs, ?_, h.appReady, h.calling, h.quiet⟩
  have hact := h.activity
  by_cases hcon : ar.state = .connected
  · simp [Ar.stored, activityFrom, hcon]
  · simpa [Ar.stored, hcon] using hact

lemma Timed.readySent (hc : ar.ctx.isSome) : (ar.readySent now).Timed := by
  constructor <;> simp [Ar.readySent, hc]

lemma Timed.inData (hc : ar.ctx.isSome) : ar.inData.Timed := by
  constructor <;> simp [Ar.inData, hc]

/-- A retry only comes while there are attempts left. -/
lemma Timed.retried (h : ar.Timed) (hs : ar.state = .appReadySent)
    (ha : ar.appReadyAttempts < appReadyMaxAttempts) : (ar.retried now).Timed := by
  obtain ⟨hlo, -⟩ := h.calling hs
  have hlt : ar.appReadyAttempts.toNat < 3 := UInt8.lt_iff_toNat_lt.1 ha
  have hpos : 1 ≤ ar.appReadyAttempts.toNat := UInt8.le_iff_toNat_le.1 hlo
  have hsucc := toNat_attempts_succ ha
  refine ⟨h.ctx, h.activity, by simp [Ar.retried, hs], fun _ => ⟨?_, ?_⟩, fun hn => absurd hs hn⟩
  · rw [UInt8.le_iff_toNat_le]
    change 1 ≤ (ar.appReadyAttempts + 1).toNat
    omega
  · rw [UInt8.le_iff_toNat_le]
    change (ar.appReadyAttempts + 1).toNat ≤ 3
    omega

lemma Trans.timed {ε : Type} {ev : Event} {acts : List Action} (h : ar.Timed)
    (ht : Trans ε now ar ev ar' acts) : ar'.Timed := by
  cases ht with
  | connect hs hv hb => exact h.established hs _ _
  | takeover hs hc hn ho hv hb => exact (timed_dropped ar).established rfl _ _
  | write hs hc hu hcap hb => exact h.stored hs _ _
  | prmEnd hs hc hu hr hb => exact Timed.readySent (by rw [hc]; rfl)
  | appReady hs hz => exact Timed.inData (h.ctx.2 (by rw [hs]; decide))
  | retry hs hd ha hc hb => exact h.retried hs ha
  | refused | ignored | resend | prmEndAgain | releaseIdle => exact h
  | takeoverRefused | release | appReadyRejected | activityTimeout | appReadyFailed | abort =>
    exact timed_dropped ar

lemma Trans.model {ε : Type} {ev : Event} {acts : List Action} (ht : Trans ε now ar ev ar' acts) :
    ar'.model = ar.model := by
  cases ht <;> rfl

/-- A deadline is pending in the two states that wait for the controller. -/
lemma Timed.nextDeadline (h : ar.Timed) :
    ar.nextDeadline.isSome ↔ ar.state = .connected ∨ ar.state = .appReadySent := by
  rw [← h.activity, ← h.appReady, Ar.nextDeadline]
  cases ar.activityDeadline <;> cases ar.appReadyDeadline <;> simp

end Ar

/-! ### The records of an AR -/

namespace ArTurn

/-- The AR was (re-)established. -/
def establishes (t : ArTurn) : Bool := t.acts.any Cm.isNotifyConnected

/-- The records of a Write that was answered OK. -/
def written (t : ArTurn) : List Record :=
  match t.event with
  | .writeReq req => if t.acts.any Cm.isRespondOk then req.records else []
  | _ => []

end ArTurn

/-- The records of the Writes that were answered OK since the last AR was established. -/
def recordsSince (log : List ArTurn) : List Record :=
  log.foldl (fun rs t => if t.establishes then [] else rs ++ t.written) []

lemma recordsSince_snoc (log : List ArTurn) (t : ArTurn) :
    recordsSince (log ++ [t]) =
      if t.establishes then [] else recordsSince log ++ t.written := by
  rw [recordsSince, List.foldl_append]
  rfl

/-- A new AR has no records yet. -/
lemma recordsSince_new {log : List ArTurn} {t : ArTurn} (he : t.establishes = true) :
    recordsSince (log ++ [t]) = [] := by
  rw [recordsSince_snoc, if_pos he]

lemma recordsSince_write {log : List ArTurn} {t : ArTurn} (he : t.establishes = false) :
    recordsSince (log ++ [t]) = recordsSince log ++ t.written := by
  rw [recordsSince_snoc, he, if_neg (by decide)]

/-- A turn that neither establishes an AR nor writes. -/
lemma recordsSince_quiet {log : List ArTurn} {t : ArTurn} (he : t.establishes = false)
    (hw : t.written = []) : recordsSince (log ++ [t]) = recordsSince log := by
  rw [recordsSince_write he, hw, List.append_nil]

/-- The records of an AR are those of its Writes, within the limits and all its own. -/
structure ArContext.Collects (c : ArContext) (rs : List Record) : Prop where
  records : c.records = rs
  count : c.records.length ≤ 64
  bytes : (c.records.map (·.data.length)).sum ≤ 65536
  own : ∀ rec ∈ c.records, rec.arUuid = c.params.arUuid

namespace ArContext

variable {c : ArContext} {rs : List Record}

lemma collects_nil (p : ArParams) (res : Bytes) (now : Instant) :
    Collects ⟨p, [], now, res⟩ [] :=
  ⟨rfl, Nat.zero_le _, Nat.zero_le _, fun _ h => by cases h⟩

lemma Collects.append (h : c.Collects rs) {new : List Record}
    (hu : ∀ rec ∈ new, rec.arUuid = c.params.arUuid) (hcap : ¬ exceedsRecordCap c new) :
    Collects { c with records := c.records ++ new } (rs ++ new) := by
  obtain ⟨hcount, hbytes⟩ := not_exceedsRecordCap.1 hcap
  refine ⟨by rw [h.records], hcount, hbytes, fun rec hm => ?_⟩
  rcases List.mem_append.1 hm with hm | hm
  · exact h.own rec hm
  · exact hu rec hm

end ArContext

/-- What holds between a machine and its turns. -/
structure ArRun.Inv (r : ArRun) : Prop where
  timed : r.ar.Timed
  collects : ∀ c, r.ar.ctx = some c → c.Collects (recordsSince r.log)

/-- A refused request writes nothing. -/
lemma written_refused {ev : Event} {now : Instant} {before : ArState} {s : PnioStatus}
    (hz : s.val ≠ 0) : ArTurn.written ⟨ev, now, before, [refuse s]⟩ = [] := by
  cases ev <;> simp [ArTurn.written, refuse, Cm.isRespondOk, hz]

lemma written_silent (ev : Event) (now : Instant) (before : ArState) :
    ArTurn.written ⟨ev, now, before, []⟩ = [] := by
  cases ev <;> simp [ArTurn.written]

/-- The records follow the turns. -/
lemma Ar.Trans.collects {ε : Type} {ar ar' : Ar} {ev : Event} {now : Instant} {acts : List Action}
    {log : List ArTurn} (h : ∀ c, ar.ctx = some c → c.Collects (recordsSince log))
    (ht : Trans ε now ar ev ar' acts) : ∀ c, ar'.ctx = some c →
      c.Collects (recordsSince (log ++ [⟨ev, now, ar.state, acts⟩])) := by
  intro c hc
  cases ht with
  | refused hr hz =>
    rw [recordsSince_quiet rfl (written_refused hz)]
    exact h c hc
  | ignored hr =>
    rw [recordsSince_quiet rfl (written_silent ev now ar.state)]
    exact h c hc
  | resend | prmEndAgain | releaseIdle | appReady | retry =>
    rw [recordsSince_quiet rfl rfl]
    exact h c hc
  | connect | takeover =>
    rw [recordsSince_new rfl]
    cases hc
    exact ArContext.collects_nil _ _ _
  | @write req ctx blocks hs hctx hu hcap hb =>
    rw [recordsSince_write rfl]
    cases hc
    exact (h ctx hctx).append hu hcap
  | prmEnd hs hctx hu hr hb =>
    rw [recordsSince_quiet rfl rfl]
    exact h c hc
  | takeoverRefused | release | appReadyRejected | activityTimeout | appReadyFailed | abort =>
    cases hc

lemma arInv_reach {model : DeviceModel} {r : ArRun} (h : (arSystem model).Reach r) :
    r.Inv ∧ r.ar.model = model := by
  refine h.inv (I := fun r => r.Inv ∧ r.ar.model = model) ?_ ?_
  · rintro r rfl
    exact ⟨⟨Ar.timed_new model, fun _ h => by cases h⟩, rfl⟩
  · intro r i r' hi hs
    obtain ⟨ar, acts, ht, rfl⟩ := ar_step hs
    refine ⟨⟨ht.timed hi.1.timed, ht.collects hi.1.collects⟩, ?_⟩
    exact ht.model.trans hi.2

/-- **The AR machine is consistent in every run.** From `Ar::new`, after any events at any times:

* the next event is taken, if the station name fits its block;
* there is a context exactly outside `Idle`, the activity timer is armed exactly in `Connected`,
  the ApplicationReady timer exactly in `AppReadySent`, with one to three calls made there and
  none counted elsewhere;
* the records are those of the Writes answered OK since the AR was established, in their order,
  within both limits, and all of this AR. -/
theorem ar_consistent {model : DeviceModel} {r : ArRun} (hr : (arSystem model).Reach r) :
    (model.NameFits → ∀ i, ∃ r', (arSystem model).step r i = some r') ∧
    (r.ar.ctx.isSome ↔ r.ar.state ≠ .idle) ∧
    (r.ar.activityDeadline.isSome ↔ r.ar.state = .connected) ∧
    (r.ar.appReadyDeadline.isSome ↔ r.ar.state = .appReadySent) ∧
    (r.ar.state = .appReadySent → 1 ≤ r.ar.appReadyAttempts ∧ r.ar.appReadyAttempts ≤ 3) ∧
    (r.ar.state ≠ .appReadySent → r.ar.appReadyAttempts = 0) ∧
    (r.ar.nextDeadline.isSome ↔ r.ar.state = .connected ∨ r.ar.state = .appReadySent) ∧
    ∀ c, r.ar.ctx = some c → c.records = recordsSince r.log ∧ c.records.length ≤ 64 ∧
      (c.records.map (·.data.length)).sum ≤ 65536 ∧
      ∀ rec ∈ c.records, rec.arUuid = c.params.arUuid := by
  obtain ⟨⟨htimed, hcol⟩, hmodel⟩ := arInv_reach hr
  refine ⟨fun hname i => ?_, htimed.ctx, htimed.activity, htimed.appReady, htimed.calling,
    htimed.quiet, htimed.nextDeadline, fun c hc => ?_⟩
  · have hready : r.ar.Ready :=
      ⟨fun hs => Option.isSome_iff_exists.1 (htimed.ctx.2 hs), hmodel ▸ hname⟩
    obtain ⟨⟨ar, acts⟩, hon⟩ := Ar.on_returns (ε := Empty) hready i.1 i.2
    simp only [arSystem, hon]
    exact ⟨_, rfl⟩
  · have h := hcol c hc
    exact ⟨h.records, h.count, h.bytes, h.own⟩

namespace Demo

/-- A record of the AR of `connectReq`. -/
def record (index : UInt16) : Record :=
  { seq := 1, arUuid := uuid 3, api := 0, slot := 1, subslot := 1, index, data := [1, 2] }

/-- Set up, parametrised with two Writes and waiting for the answer to ApplicationReady. -/
def parametrised : List (Event × Instant) :=
  [(.connectReq connectReq, 0), (.writeReq ⟨[record 1, record 2]⟩, 10),
    (.writeReq ⟨[record 3]⟩, 20), (.prmEndReq (prmEndDone (appReadyReq (uuid 3) 1)), 30)]

/-- The machine waits, with a deadline and the records of both Writes. -/
def waits (r : ArRun) : Bool :=
  r.ar.state = .appReadySent && recordsSince r.log = [record 1, record 2, record 3]

end Demo

/-- Two Writes before PrmEnd: the records of both, one call made, a deadline pending. -/
theorem ar_consistent_parametrised :
    ∃ r, (arSystem Demo.model).Reach r ∧ r.ar.nextDeadline.isSome ∧ 1 ≤ r.ar.appReadyAttempts ∧
      ∃ c, r.ar.ctx = some c ∧ c.records = [Demo.record 1, Demo.record 2, Demo.record 3] := by
  have hrun : ((arSystem Demo.model).run ⟨.new Demo.model, []⟩ Demo.parametrised).any
      Demo.waits = true := by
    decide +kernel
  obtain ⟨r, hr, hw⟩ := System.exists_reach_of_run (S := arSystem Demo.model) rfl hrun
  simp only [Demo.waits, Bool.and_eq_true, decide_eq_true_eq] at hw
  obtain ⟨-, hctx, -, -, hcalling, -, hnext, hrec⟩ := ar_consistent hr
  obtain ⟨c, hc⟩ := Option.isSome_iff_exists.1 (hctx.2 (by rw [hw.1]; decide))
  obtain ⟨hcr, -⟩ := hrec c hc
  exact ⟨r, hr, hnext.2 (.inr hw.1), (hcalling hw.1).1, c, hc, hcr.trans hw.2⟩

end Pnio
