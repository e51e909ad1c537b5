import Pnio.Records

/-!
The AR state machine: `on` takes an event and the time and returns the actions to perform.

`Trans` lists what an event can do, one constructor a case; everything later proofs need
about the machine is read off it through `on_trans`.
-/

namespace Pnio

/-- Nanoseconds; instants are counted from an arbitrary origin. -/
abbrev Instant := Nat

def appReadyTimeout : Nat := 1000000000
def appReadyMaxAttempts : UInt8 := 3
def activityTimeoutUnit : Nat := 100000000
def maxRecords : Nat := 64
def maxRecordBytes : Nat := 64 * 1024

inductive ArState where
  | idle
  | connected
  | appReadySent
  | data
deriving DecidableEq, Repr

inductive AbortReason where
  | controllerRelease
  | appReadyFailed
  | appReadyRejected (s : PnioStatus)
  | activityTimeout
  | controllerReconnect
  | rtWatchdog
  | ext (why : String)
  | controllerErrRta (s : PnioStatus)
  | alarmSendFailed
  | rtSocket
  | shutdown
deriving DecidableEq, Repr

inductive Event where
  | connectReq (req : ConnectReq)
  | writeReq (req : WriteReq)
  | prmEndReq (req : ControlBlock)
  | releaseReq (req : ControlBlock)
  | appReadyRsp (status : PnioStatus)
  | tick
  | abort (reason : AbortReason)

/-- The events that a request of the controller raises and that must be answered. -/
def Event.isRequest : Event → Bool
  | connectReq _ | writeReq _ | prmEndReq _ | releaseReq _ => true
  | _ => false

inductive Action where
  | respond (status : PnioStatus) (blocks : Bytes)
  | callController (blocks : Bytes)
  | notify (state : ArState) (reason : Option AbortReason)
deriving DecidableEq, Repr

structure ArContext where
  params : ArParams
  records : List Record
  connectedAt : Instant
  connectRes : Bytes
deriving DecidableEq, Repr

structure Ar where
  model : DeviceModel
  state : ArState
  ctx : Option ArContext
  appReadyAttempts : UInt8
  appReadyDeadline : Option Instant
  activityDeadline : Option Instant
deriving DecidableEq

def PnioStatus.ok : PnioStatus := ⟨0⟩

/-- A refused request: a status, no blocks. -/
def refuse (status : PnioStatus) : Action := .respond status []

def wrongState : Action := refuse .controlWrongState

def exceedsRecordCap (ctx : ArContext) (incoming : List Record) : Bool :=
  let all := ctx.records ++ incoming
  maxRecords < all.length || maxRecordBytes < (all.map (·.data.length)).sum

lemma not_exceedsRecordCap {ctx : ArContext} {incoming : List Record} :
    ¬ exceedsRecordCap ctx incoming ↔ (ctx.records ++ incoming).length ≤ maxRecords ∧
      ((ctx.records ++ incoming).map (·.data.length)).sum ≤ maxRecordBytes := by
  simp [exceedsRecordCap]

namespace Ar

variable {ε : Type}

def new (model : DeviceModel) : Ar :=
  { model, state := .idle, ctx := none, appReadyAttempts := 0, appReadyDeadline := none,
    activityDeadline := none }

def nextDeadline (ar : Ar) : Option Instant :=
  match ar.activityDeadline, ar.appReadyDeadline with
  | some a, some b => some (min a b)
  | some a, none => some a
  | none, some b => some b
  | none, none => none

/-- What `abort` leaves behind: no context, no timers, `Idle`. -/
def dropped (ar : Ar) : Ar :=
  { ar with ctx := none, appReadyDeadline := none, activityDeadline := none,
            appReadyAttempts := 0, state := .idle }

def abort (ar : Ar) (reason : AbortReason) : Ar × Action :=
  (ar.dropped, .notify .idle (some reason))

/-- The activity deadline armed at `now`. -/
def activityFrom (params : ArParams) (now : Instant) : Option Instant :=
  some (now + activityTimeoutUnit * params.activityTimeoutFactor.toNat)

/-- The AR a validated Connect sets up. -/
def established (ar : Ar) (params : ArParams) (connectRes : Bytes) (now : Instant) : Ar :=
  { ar with
    ctx := some { params, records := [], connectedAt := now, connectRes }
    state := .connected
    activityDeadline := activityFrom params now }

/-- `handle_connect` in `Idle`. -/
def connectIdle (ar : Ar) (req : ConnectReq) (now : Instant) : Res ε (Ar × List Action) := do
  match ← Res.attempt (validate req ar.model) with
  | .ok params => do
    let connectRes ← buildConnectRes params ar.model
    .ok (ar.established params connectRes now,
      [.respond .ok connectRes, .notify .connected none])
  | .error status => .ok (ar, [refuse status])

def handleConnect (ar : Ar) (req : ConnectReq) (now : Instant) : Res ε (Ar × List Action) :=
  match ar.state with
  | .idle => ar.connectIdle req now
  | _ => do
    let ctx ← Res.unwrap ar.ctx
    let sameAr := req.ar.arUuid == ctx.params.arUuid
    let sameSession := req.ar.sessionKey == ctx.params.sessionKey
    let sameInitiator := req.ar.initiatorObjectUuid == ctx.params.initiatorObjectUuid
    if sameAr && sameSession then .ok (ar, [.respond .ok ctx.connectRes])
    else if sameAr || sameInitiator then do
      let (ar, n) := ar.abort .controllerReconnect
      let (ar, actions) ← ar.connectIdle req now
      .ok (ar, n :: actions)
    else .ok (ar, [refuse .connectArAlreadyExists])

/-- The AR with more records; the activity timer is re-armed only until PrmEnd. -/
def stored (ar : Ar) (ctx : ArContext) (records : List Record) (now : Instant) : Ar :=
  { ar with
    ctx := some { ctx with records := ctx.records ++ records }
    activityDeadline :=
      if ar.state = .connected then activityFrom ctx.params now else ar.activityDeadline }

def handleWrite (ar : Ar) (req : WriteReq) (now : Instant) : Res ε (Ar × List Action) :=
  match ar.state with
  | .idle => .ok (ar, [wrongState])
  | _ => do
    let ctx ← Res.unwrap ar.ctx
    if req.records.any (·.arUuid != ctx.params.arUuid) then .ok (ar, [refuse .writeWrongAr])
    else if exceedsRecordCap ctx req.records then .ok (ar, [refuse .writeResourceUnavailable])
    else do
      let blocks ← buildWriteRes req
      .ok (ar.stored ctx req.records now, [.respond .ok blocks])

/-- The AR once its first ApplicationReady call is out. -/
def readySent (ar : Ar) (now : Instant) : Ar :=
  { ar with state := .appReadySent, appReadyAttempts := 1,
            appReadyDeadline := some (now + appReadyTimeout), activityDeadline := none }

def handlePrmEnd (ar : Ar) (req : ControlBlock) (now : Instant) : Res ε (Ar × List Action) :=
  match ar.state with
  | .idle => .ok (ar, [wrongState])
  | .connected => do
    let ctx ← Res.unwrap ar.ctx
    if req.arUuid ≠ ctx.params.arUuid then .ok (ar, [wrongState])
    else do
      let respond ← (prmEndDone req).write
      let call ← (appReadyReq ctx.params.arUuid ctx.params.sessionKey).write
      .ok (ar.readySent now, [.respond .ok respond, .callController call])
  | _ => do
    let ctx ← Res.unwrap ar.ctx
    if req.arUuid ≠ ctx.params.arUuid then .ok (ar, [wrongState])
    else do
      let respond ← (prmEndDone req).write
      .ok (ar, [.respond .ok respond])

def handleRelease (ar : Ar) (req : ControlBlock) : Res ε (Ar × List Action) :=
  if ar.state = .idle then do
    let respond ← (releaseDone req).write
    .ok (ar, [.respond .ok respond])
  else do
    let ctx ← Res.unwrap ar.ctx
    if req.arUuid ≠ ctx.params.arUuid then .ok (ar, [wrongState])
    else do
      let respond ← (releaseDone req).write
      let (ar, n) := ar.abort .controllerRelease
      .ok (ar, [.respond .ok respond, n])

/-- The AR once ApplicationReady is acknowledged. -/
def inData (ar : Ar) : Ar :=
  { ar with state := .data, appReadyDeadline := none, activityDeadline := none,
            appReadyAttempts := 0 }

def handleAppReadyRsp (ar : Ar) (status : PnioStatus) : Ar × List Action :=
  if ar.state ≠ .appReadySent then (ar, [])
  else if status.val = 0 then
    (ar.inData, [.notify .data none])
  else
    let (ar, n) := ar.abort (.appReadyRejected status)
    (ar, [n])

/-- A deadline that has been reached. -/
def due (deadline : Option Instant) (now : Instant) : Bool := deadline.any (· ≤ now)

/-- The AR after one more ApplicationReady call. -/
def retried (ar : Ar) (now : Instant) : Ar :=
  { ar with appReadyAttempts := ar.appReadyAttempts + 1,
            appReadyDeadline := some (now + appReadyTimeout) }

def handleTick (ar : Ar) (now : Instant) : Res ε (Ar × List Action) :=
  match ar.state with
  | .connected =>
    if due ar.activityDeadline now then
      let (ar, n) := ar.abort .activityTimeout
      .ok (ar, [n])
    else .ok (ar, [])
  | .appReadySent =>
    if due ar.appReadyDeadline now then
      if ar.appReadyAttempts < appReadyMaxAttempts then do
        let ctx ← Res.unwrap ar.ctx
        let call ← (appReadyReq ctx.params.arUuid ctx.params.sessionKey).write
        .ok (ar.retried now, [.callController call])
      else
        let (ar, n) := ar.abort .appReadyFailed
        .ok (ar, [n])
    else .ok (ar, [])
  | .idle | .data => .ok (ar, [])

def on (ar : Ar) (ev : Event) (now : Instant) : Res ε (Ar × List Action) :=
  match ev with
  | .connectReq req => ar.handleConnect req now
  | .writeReq req => ar.handleWrite req now
  | .prmEndReq req => ar.handlePrmEnd req now
  | .releaseReq req => ar.handleRelease req
  | .appReadyRsp status => .ok (ar.handleAppReadyRsp status)
  | .tick => ar.handleTick now
  | .abort reason =>
    if ar.state = .idle then .ok (ar, [])
    else
      let (ar, n) := ar.abort reason
      .ok (ar, [n])

/-! ### What an event can do -/

/-- The count of attempts does not wrap. -/
lemma toNat_attempts_succ {n : UInt8} (h : n < appReadyMaxAttempts) :
    (n + 1).toNat = n.toNat + 1 := by
  have hlt : n.toNat < 3 := UInt8.lt_iff_toNat_lt.1 h
  rw [UInt8.toNat_add]
  exact Nat.mod_eq_of_lt (show n.toNat + 1 < 256 by omega)

/-- **The transitions of the AR**: for each event the state it leads to and the actions it
asks for. -/
inductive Trans (ε : Type) (now : Instant) (ar : Ar) : Event → Ar → List Action → Prop
  | refused {ev : Event} {s : PnioStatus} (hr : ev.isRequest) (hz : s.val ≠ 0) :
      Trans ε now ar ev ar [refuse s]
  | ignored {ev : Event} (hr : ¬ ev.isRequest) : Trans ε now ar ev ar []
  | connect {req : ConnectReq} {p : ArParams} {res : Bytes} (hs : ar.state = .idle)
      (hv : validate req ar.model = .ok p) (hb : (buildConnectRes p ar.model : Res ε _) = .ok res) :
      Trans ε now ar (.connectReq req) (ar.established p res now)
        [.respond .ok res, .notify .connected none]
  | resend {req : ConnectReq} {ctx : ArContext} (hs : ar.state ≠ .idle) (hc : ar.ctx = some ctx)
      (hu : req.ar.arUuid = ctx.params.arUuid) (hk : req.ar.sessionKey = ctx.params.sessionKey) :
      Trans ε now ar (.connectReq req) ar [.respond .ok ctx.connectRes]
  | takeover {req : ConnectReq} {ctx : ArContext} {p : ArParams} {res : Bytes}
      (hs : ar.state ≠ .idle) (hc : ar.ctx = some ctx)
      (hn : ¬ (req.ar.arUuid = ctx.params.arUuid ∧ req.ar.sessionKey = ctx.params.sessionKey))
      (ho : req.ar.arUuid = ctx.params.arUuid ∨
        req.ar.initiatorObjectUuid = ctx.params.initiatorObjectUuid)
      (hv : validate req ar.model = .ok p) (hb : (buildConnectRes p ar.model : Res ε _) = .ok res) :
      Trans ε now ar (.connectReq req) (ar.dropped.established p res now)
        [.notify .idle (some .controllerReconnect), .respond .ok res, .notify .connected none]
  | takeoverRefused {req : ConnectReq} {ctx : ArContext} {s : PnioStatus}
      (hs : ar.state ≠ .idle) (hc : ar.ctx = some ctx) (hz : s.val ≠ 0)
      (ho : req.ar.arUuid = ctx.params.arUuid ∨
        req.ar.initiatorObjectUuid = ctx.params.initiatorObjectUuid)
      (hn : ¬ (req.ar.arUuid = ctx.params.arUuid ∧ req.ar.sessionKey = ctx.params.sessionKey)) :
      Trans ε now ar (.connectReq req) ar.dropped
        [.notify .idle (some .controllerReconnect), refuse s]
  | write {req : WriteReq} {ctx : ArContext} {blocks : Bytes} (hs : ar.state ≠ .idle)
      (hc : ar.ctx = some ctx) (hu : ∀ r ∈ req.records, r.arUuid = ctx.params.arUuid)
      (hcap : ¬ exceedsRecordCap ctx req.records)
      (hb : (buildWriteRes req : Res ε _) = .ok blocks) :
      Trans ε now ar (.writeReq req) (ar.stored ctx req.records now) [.respond .ok blocks]
  | prmEnd {req : ControlBlock} {ctx : ArContext} {r call : Bytes} (hs : ar.state = .connected)
      (hc : ar.ctx = some ctx) (hu : req.arUuid = ctx.params.arUuid)
      (hr : ((prmEndDone req).write : Res ε _) = .ok r)
      (hb : ((appReadyReq ctx.params.arUuid ctx.params.sessionKey).write : Res ε _) = .ok call) :
      Trans ε now ar (.prmEndReq req) (ar.readySent now) [.respond .ok r, .callController call]
  | prmEndAgain {req : ControlBlock} {ctx : ArContext} {r : Bytes} (hs : ar.state ≠ .idle)
      (hc : ar.ctx = some ctx) (hu : req.arUuid = ctx.params.arUuid)
      (hr : ((prmEndDone req).write : Res ε _) = .ok r) :
      Trans ε now ar (.prmEndReq req) ar [.respond .ok r]
  | releaseIdle {req : ControlBlock} {r : Bytes} (hs : ar.state = .idle)
      (hr : ((releaseDone req).write : Res ε _) = .ok r) :
      Trans ε now ar (.releaseReq req) ar [.respond .ok r]
  | release {req : ControlBlock} {ctx : ArContext} {r : Bytes} (hs : ar.state ≠ .idle)
      (hc : ar.ctx = some ctx) (hu : req.arUuid = ctx.params.arUuid)
      (hr : ((releaseDone req).write : Res ε _) = .ok r) :
      Trans ε now ar (.releaseReq req) ar.dropped
        [.respond .ok r, .notify .idle (some .controllerRelease)]
  | appReady {s : PnioStatus} (hs : ar.state = .appReadySent) (hz : s.val = 0) :
      Trans ε now ar (.appReadyRsp s) ar.inData [.notify .data none]
  | appReadyRejected {s : PnioStatus} (hs : ar.state = .appReadySent) (hz : s.val ≠ 0) :
      Trans ε now ar (.appReadyRsp s) ar.dropped [.notify .idle (some (.appReadyRejected s))]
  | activityTimeout (hs : ar.state = .connected) (hd : due ar.activityDeadline now) :
      Trans ε now ar .tick ar.dropped [.notify .idle (some .activityTimeout)]
  | retry {ctx : ArContext} {call : Bytes} (hs : ar.state = .appReadySent)
      (hd : due ar.appReadyDeadline now) (ha : ar.appReadyAttempts < appReadyMaxAttempts)
      (hc : ar.ctx = some ctx)
      (hb : ((appReadyReq ctx.params.arUuid ctx.params.sessionKey).write : Res ε _) = .ok call) :
      Trans ε now ar .tick (ar.retried now) [.callController call]
  | appReadyFailed (hs : ar.state = .appReadySent) (hd : due ar.appReadyDeadline now)
      (ha : ¬ ar.appReadyAttempts < appReadyMaxAttempts) :
      Trans ε now ar .tick ar.dropped [.notify .idle (some .appReadyFailed)]
  | abort {reason : AbortReason} (hs : ar.state ≠ .idle) :
      Trans ε now ar (.abort reason) ar.dropped [.notify .idle (some reason)]

variable {ar ar' : Ar} {now : Instant} {acts : List Action}

lemma connectIdle_cases {req : ConnectReq}
    (h : (ar.connectIdle req now : Res ε _) = .ok (ar', acts)) :
    (∃ p res, validate req ar.model = .ok p ∧ (buildConnectRes p ar.model : Res ε _) = .ok res ∧
      ar' = ar.established p res now ∧
      acts = [.respond .ok res, .notify .connected none]) ∨
    ∃ s, s.val ≠ 0 ∧ ar' = ar ∧ acts = [refuse s] := by
  simp only [connectIdle, Res.bind_eq_ok, Res.attempt_eq_ok] at h
  obtain ⟨r, ⟨p, hv, rfl⟩ | ⟨s, hv, rfl⟩, h⟩ := h
  · simp only [Res.bind_eq_ok, Res.ok.injEq, Prod.mk.injEq] at h
    obtain ⟨res, hb, rfl, rfl⟩ := h
    exact .inl ⟨p, res, hv, hb, rfl, rfl⟩
  · simp only [Res.ok.injEq, Prod.mk.injEq] at h
    obtain ⟨rfl, rfl⟩ := h
    exact .inr ⟨s, validate_raises _ _ s hv, rfl, rfl⟩

lemma handleConnect_trans {req : ConnectReq}
    (h : (ar.handleConnect req now : Res ε _) = .ok (ar', acts)) :
    Trans ε now ar (.connectReq req) ar' acts := by
  unfold handleConnect at h
  split at h
  · rename_i hs
    rcases connectIdle_cases h with ⟨p, res, hv, hb, rfl, rfl⟩ | ⟨s, hz, rfl, rfl⟩
    · exact .connect hs hv hb
    · exact .refused rfl hz
  · rename_i hs
    simp only [Res.bind_eq_ok, Res.unwrap_eq_ok] at h
    obtain ⟨ctx, hc, h⟩ := h
    split_ifs at h with h1 h2
    · simp only [Bool.and_eq_true, beq_iff_eq] at h1
      cases h
      exact .resend hs hc h1.1 h1.2
    · simp only [Bool.and_eq_true, Bool.or_eq_true, beq_iff_eq] at h1 h2
      simp only [Ar.abort, Res.bind_eq_ok, Prod.exists, Res.ok.injEq, Prod.mk.injEq] at h
      obtain ⟨ar1, acts1, h, rfl, rfl⟩ := h
      rcases connectIdle_cases h with ⟨p, res, hv, hb, rfl, rfl⟩ | ⟨s, hz, rfl, rfl⟩
      · exact .takeover hs hc h1 h2 hv hb
      · exact .takeoverRefused hs hc hz h2 h1
    · cases h
      exact .refused rfl (PnioStatus.new_val_ne_zero (by decide))

lemma handleWrite_trans {req : WriteReq}
    (h : (ar.handleWrite req now : Res ε _) = .ok (ar', acts)) :
    Trans ε now ar (.writeReq req) ar' acts := by
  unfold handleWrite at h
  split at h
  · cases h
    exact .refused rfl (PnioStatus.new_val_ne_zero (by decide))
  · rename_i hs
    simp only [Res.bind_eq_ok, Res.unwrap_eq_ok] at h
    obtain ⟨ctx, hc, h⟩ := h
    split_ifs at h with h1 h2
    · cases h
      exact .refused rfl (PnioStatus.new_val_ne_zero (by decide))
    · cases h
      exact .refused rfl (PnioStatus.new_val_ne_zero (by decide))
    · simp only [Res.bind_eq_ok, Res.ok.injEq, Prod.mk.injEq] at h
      obtain ⟨blocks, hb, rfl, rfl⟩ := h
      exact .write hs hc (by simpa using h1) h2 hb

lemma handlePrmEnd_trans {req : ControlBlock}
    (h : (ar.handlePrmEnd req now : Res ε _) = .ok (ar', acts)) :
    Trans ε now ar (.prmEndReq req) ar' acts := by
  unfold handlePrmEnd at h
  split at h
  · cases h
    exact .refused rfl (PnioStatus.new_val_ne_zero (by decide))
  · rename_i hs
    simp only [Res.bind_eq_ok, Res.unwrap_eq_ok] at h
    obtain ⟨ctx, hc, h⟩ := h
    split_ifs at h with hu
    · cases h
      exact .refused rfl (PnioStatus.new_val_ne_zero (by decide))
    · simp only [Res.bind_eq_ok, Res.ok.injEq, Prod.mk.injEq] at h
      obtain ⟨r, hr, call, hb, rfl, rfl⟩ := h
      exact .prmEnd hs hc (not_not.1 hu) hr hb
  · rename_i hs _
    simp only [Res.bind_eq_ok, Res.unwrap_eq_ok] at h
    obtain ⟨ctx, hc, h⟩ := h
    split_ifs at h with hu
    · cases h
      exact .refused rfl (PnioStatus.new_val_ne_zero (by decide))
    · simp only [Res.bind_eq_ok, Res.ok.injEq, Prod.mk.injEq] at h
      obtain ⟨r, hr, rfl, rfl⟩ := h
      exact .prmEndAgain hs hc (not_not.1 hu) hr

lemma handleRelease_trans {req : ControlBlock}
    (h : (ar.handleRelease req : Res ε _) = .ok (ar', acts)) :
    Trans ε now ar (.releaseReq req) ar' acts := by
  unfold handleRelease at h
  split_ifs at h with hs
  · simp only [Res.bind_eq_ok, Res.ok.injEq, Prod.mk.injEq] at h
    obtain ⟨r, hr, rfl, rfl⟩ := h
    exact .releaseIdle hs hr
  · simp only [Res.bind_eq_ok, Res.unwrap_eq_ok] at h
    obtain ⟨ctx, hc, h⟩ := h
    split_ifs at h with hu
    · cases h
      exact .refused rfl (PnioStatus.new_val_ne_zero (by decide))
    · simp only [Ar.abort, Res.bind_eq_ok, Res.ok.injEq, Prod.mk.injEq] at h
      obtain ⟨r, hr, rfl, rfl⟩ := h
      exact .release hs hc (not_not.1 hu) hr

lemma handleTick_trans (h : (ar.handleTick now : Res ε _) = .ok (ar', acts)) :
    Trans ε now ar .tick ar' acts := by
  unfold handleTick at h
  split at h
  · rename_i hs
    split_ifs at h with hd
    · cases h
      exact .activityTimeout hs hd
    · cases h
      exact .ignored nofun
  · rename_i hs
    split_ifs at h with hd ha
    · simp only [Res.bind_eq_ok, Res.unwrap_eq_ok, Res.ok.injEq, Prod.mk.injEq] at h
      obtain ⟨ctx, hc, call, hb, rfl, rfl⟩ := h
      exact .retry hs hd ha hc hb
    · cases h
      exact .appReadyFailed hs hd ha
    · cases h
      exact .ignored nofun
  all_goals
    cases h
    exact .ignored nofun

/-- **Inversion**: whatever `on` returns is one of the listed transitions. -/
theorem on_trans {ev : Event} (h : (ar.on ev now : Res ε _) = .ok (ar', acts)) :
    Trans ε now ar ev ar' acts := by
  cases ev with
  | connectReq req => exact handleConnect_trans h
  | writeReq req => exact handleWrite_trans h
  | prmEndReq req => exact handlePrmEnd_trans h
  | releaseReq req => exact handleRelease_trans h
  | tick => exact handleTick_trans h
  | appReadyRsp s =>
    simp only [on, handleAppReadyRsp] at h
    split_ifs at h with hs hz
    · cases h
      exact .ignored nofun
    · cases h
      exact .appReady (not_not.1 hs) hz
    · cases h
      exact .appReadyRejected (not_not.1 hs) hz
  | abort reason =>
    simp only [on] at h
    split_ifs at h with hs
    · cases h
      exact .ignored nofun
    · cases h
      exact .abort hs

/-- No request moves the AR into Data. -/
lemma Trans.request_data {ev : Event} (h : Trans ε now ar ev ar' acts) (hr : ev.isRequest)
    (hd : ar'.state = .data) : ar.state = .data := by
  cases h with
  | refused hr' hz => exact hd
  | resend hs hc hu hk => exact hd
  | write hs hc hu hcap hb => exact hd
  | prmEndAgain hs hc hu hr' => exact hd
  | releaseIdle hs hr' => exact hd
  | ignored hr' => exact hd
  | appReady hs hz => cases hr
  | retry hs hd' ha hc hb => cases hr
  | _ => cases hd

end Ar

end Pnio
