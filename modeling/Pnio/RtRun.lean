import Pnio.RtLoop

/-!
Runs of the RT loop: ticks and frames at non-decreasing instants, every lock of the image free
or not as it happens.

The engine knows the output data and the watchdog state; the image shows them to the
application. What is shown lags behind by at most the publish that is pending.
-/

namespace Pnio

/-- A loop and the latest instant it was given. -/
structure RtRun where
  loop : RtLoop
  clock : Instant
deriving DecidableEq

inductive RtInput where
  | tick (now : Instant) (expirations : Nat) (locks : TickLocks) (problem : Bool)
  | frame (bytes : Bytes) (now : Instant) (free : Bool)

namespace RtRun

/-- The loop after an operation that did not panic. -/
def settled {α : Type} (now : Instant) : Res Empty (RtLoop × α) → Option RtRun
  | .ok (loop, _) => some ⟨loop, now⟩
  | _ => none

def step (r : RtRun) : RtInput → Option RtRun
  | .tick now expirations locks problem =>
    if r.clock ≤ now then settled now (r.loop.tick now expirations locks problem) else none
  | .frame bytes now free =>
    if r.clock ≤ now then settled now (r.loop.receive bytes now free) else none

end RtRun

/-- The loop starts with a new engine and an image rebuilt from the engine's layout. -/
def rtSystem : System RtRun RtInput where
  init r := ∃ layout ourMac cpuMac stats image, r.loop = .start layout ourMac cpuMac stats image
  step := RtRun.step

/-! ### The invariant -/

/-- How the image stands to the engine, by what is pending. -/
def InStep (l : RtLoop) : Prop :=
  match l.pending with
  | none =>
    l.image.outputs.csdu = l.engine.rxCsdu ∧
      (l.image.outputs.validity.watchdog = .expired ↔ l.engine.watchdogState = .expired)
  | some (.data v) => v.watchdog = .ok ∧ l.engine.watchdogState ≠ .expired
  | some (.validity v) =>
    v.watchdog = .expired ∧ l.engine.watchdogState = .expired ∧
      l.image.outputs.csdu = l.engine.rxCsdu

structure RtInv (r : RtRun) : Prop where
  lengths : r.loop.image.outputs.csdu.length = r.loop.engine.rxCsdu.length
  clock : ∀ t, r.loop.engine.lastRx = some t → t ≤ r.clock
  /-- An expiry lasts: the last frame stays too long ago. -/
  expired : r.loop.engine.watchdogState = .expired →
    ∃ t, r.loop.engine.lastRx = some t ∧ r.loop.engine.layout.outputCr.watchdog < r.clock - t
  inStep : InStep r.loop

lemma rtInv_init {r : RtRun} (h : rtSystem.init r) : RtInv r := by
  obtain ⟨layout, ourMac, cpuMac, stats, image, hl⟩ := h
  obtain ⟨loop, clock⟩ := r
  simp only at hl
  subst hl
  exact
    { lengths := rfl
      clock := fun t h => by cases h
      expired := fun h => by cases h
      inStep := ⟨rfl, by simp [RtLoop.start, RtEngine.new, IoImage.rebuild, Validity.default]⟩ }

namespace RtLoop

/-- The invariant reads the engine's receive side, the outputs, what is pending and the clock. -/
lemma inv_congr {l l' : RtLoop} {c : Instant} (hi : RtInv ⟨l, c⟩) (he : l.engine.SameRx l'.engine)
    (ho : l'.image.outputs = l.image.outputs) (hp : l'.pending = l.pending) : RtInv ⟨l', c⟩ := by
  refine ⟨?_, ?_, ?_, ?_⟩
  · have := hi.lengths
    simp only [ho, he.rxCsdu] at this ⊢
    exact this
  · intro t ht
    exact hi.clock t (he.lastRx ▸ ht)
  · intro hw
    have := hi.expired (he.watchdogState ▸ hw)
    simp only [he.lastRx, he.layout] at this ⊢
    exact this
  · have := hi.inStep
    simp only [InStep, hp, ho, he.rxCsdu, he.watchdogState] at this ⊢
    exact this

/-- A failed attempt puts back what was pending. -/
lemma inv_defer {l : RtLoop} {p : Pending} {c : Instant} (hi : RtInv ⟨l, c⟩)
    (hp : l.pending = some p) : RtInv ⟨({ l with pending := none }).defer p, c⟩ :=
  inv_congr hi ⟨rfl, rfl, rfl, rfl⟩ rfl hp.symm

lemma retry_inv {l : RtLoop} {c : Instant} (free : Bool) (hi : RtInv ⟨l, c⟩) :
    RtInv ⟨l.retry free, c⟩ := by
  unfold retry
  split
  · rename_i p hp
    have hs := hi.inStep
    simp only [InStep, hp] at hs
    cases free with
    | false => cases p <;> exact (inv_defer (l := l) hi hp :)
    | true =>
      cases p with
      | data v =>
        obtain ⟨hv, hw⟩ := hs
        have hc := IoImage.copyFront_of_length hi.lengths
        refine ⟨?_, hi.clock, hi.expired, ?_⟩
        · exact congrArg List.length hc
        · exact ⟨hc, fun h => absurd (hv.symm.trans h) (by decide), fun h => absurd h hw⟩
      | validity v =>
        obtain ⟨hv, hw, hc⟩ := hs
        exact ⟨hi.lengths, hi.clock, hi.expired, hc, fun _ => hw, fun _ => hv⟩
  · exact hi

/-- Only a retry that found the image busy leaves data pending. -/
lemma retry_pending_data {l : RtLoop} {free : Bool} {v : Validity}
    (h : (l.retry free).pending = some (.data v)) :
    l.pending = some (.data v) ∧ free = false := by
  unfold retry at h
  split at h
  · rename_i p hp
    cases free <;> cases p <;> cases h
    exact ⟨hp, rfl⟩
  · rename_i hp
    rw [hp] at h
    cases h

lemma retry_engine (l : RtLoop) (free : Bool) : l.engine.SameRx (l.retry free).engine := by
  unfold retry
  split
  · rename_i p hp
    cases free <;> cases p <;> exact ⟨rfl, rfl, rfl, rfl⟩
  · exact ⟨rfl, rfl, rfl, rfl⟩

/-- The watchdog check keeps the invariant unless it expires over data that is pending. -/
lemma watch_inv {l : RtLoop} {c now : Instant} (free : Bool) (hi : RtInv ⟨l, c⟩) (hc : c ≤ now)
    (hg : ∀ v, l.pending = some (.data v) → (l.engine.checkWatchdog now).2 ≠ .expired) :
    RtInv ⟨(l.watch now free).1, now⟩ := by
  have hspec := l.engine.checkWatchdog_spec now
  have hclock : ∀ t, l.engine.lastRx = some t → t ≤ now := fun t ht => (hi.clock t ht).trans hc
  unfold watch
  generalize l.engine.checkWatchdog now = r at hspec hg
  obtain ⟨e, verdict⟩ := r
  cases hspec with
  | notArmed ht =>
    refine ⟨hi.lengths, hclock, fun hw => ?_, hi.inStep⟩
    obtain ⟨t, ht', -⟩ := hi.expired hw
    cases ht.symm.trans ht'
  | ok ht hw =>
    -- an expired engine cannot come back without a frame
    have hne : l.engine.watchdogState ≠ .expired := by
      intro he
      obtain ⟨t', ht', hlt⟩ := hi.expired he
      cases ht.symm.trans ht'
      exact absurd (hlt.trans_le ((Nat.sub_le_sub_right hc _).trans hw)) (lt_irrefl _)
    refine ⟨hi.lengths, hclock, fun h => (by cases h), ?_⟩
    have hs := hi.inStep
    unfold InStep at hs ⊢
    simp only at hs ⊢
    split at hs
    · exact ⟨hs.1, fun h => absurd (hs.2.1 h) hne, fun h => (by cases h)⟩
    · exact ⟨hs.1, fun h => by cases h⟩
    · exact absurd hs.2.1 hne
  | stopped ht hw hs =>
    exact ⟨hi.lengths, hclock, fun _ => ⟨_, ht, hw⟩, hi.inStep⟩
  | expired ht hw hs hl hcsdu hr he =>
    have hp : l.pending = none := by
      have h := hi.inStep
      unfold InStep at h
      split at h
      · assumption
      · rename_i v hp
        exact absurd rfl (hg v hp)
      · exact absurd h.2.1 hs
    have hin := hi.inStep
    simp only [InStep, hp] at hin
    have hlen : l.image.outputs.csdu.length = e.rxCsdu.length := by rw [hcsdu]; exact hi.lengths
    have hck : ∀ t, e.lastRx = some t → t ≤ now := fun t h => hclock t (hr ▸ h)
    have hexp : ∃ t, e.lastRx = some t ∧ e.layout.outputCr.watchdog < now - t :=
      ⟨_, hr.trans ht, hl ▸ hw⟩
    cases free with
    | true =>
      refine ⟨hlen, hck, fun _ => hexp, ?_⟩
      simp only [InStep, settle, IoImage.rtSetValidity, IoImage.setValidity, if_true, hp]
      exact ⟨hin.1.trans hcsdu.symm, fun _ => he, fun _ => rfl⟩
    | false =>
      refine ⟨hlen, hck, fun _ => hexp, ?_⟩
      exact ⟨rfl, he, hin.1.trans hcsdu.symm⟩

lemma produce_inv {ε : Type} {l l' : RtLoop} {problem free : Bool} {n : UInt32} {frame : Bytes}
    {c : Instant} (hi : RtInv ⟨l, c⟩) (h : (l.produce problem free n : Res ε _) = .ok (l', frame)) :
    RtInv ⟨l', c⟩ := by
  unfold produce at h
  obtain ⟨⟨e, fr⟩, he, h⟩ := Res.bind_eq_ok.1 h
  cases h
  have hs := RtEngine.onTick_sameRx he
  exact inv_congr hi ⟨hs.layout, hs.rxCsdu, hs.lastRx, hs.watchdogState⟩ rfl rfl

/-- A tick keeps the invariant unless data stays pending while the watchdog expires. -/
lemma tick_inv {ε : Type} {l l' : RtLoop} {c now : Instant} {n : Nat} {locks : TickLocks}
    {problem : Bool} {out : TickOut} (hi : RtInv ⟨l, c⟩) (hc : c ≤ now)
    (hg : ∀ v, l.pending = some (.data v) → locks.retry = false →
      (l.engine.checkWatchdog now).2 ≠ .expired)
    (h : (l.tick now n locks problem : Res ε _) = .ok (l', out)) : RtInv ⟨l', now⟩ := by
  unfold tick at h
  obtain ⟨⟨l2, fr⟩, hp, h⟩ := Res.bind_eq_ok.1 h
  cases h
  have h0 : RtInv ⟨l.onRead now n, c⟩ := inv_congr hi ⟨rfl, rfl, rfl, rfl⟩ rfl rfl
  refine produce_inv (watch_inv locks.watchdog (retry_inv locks.retry h0) hc fun v hv => ?_) hp
  obtain ⟨hd, hf⟩ := retry_pending_data hv
  rw [((l.onRead now n).retry_engine locks.retry).verdict_eq now]
  exact hg v hd hf

/-- A received frame keeps the invariant. -/
lemma receive_inv {ε : Type} {l l' : RtLoop} {c now : Instant} {bytes : Bytes} {free : Bool}
    {verdict : RxVerdict} (hi : RtInv ⟨l, c⟩) (hc : c ≤ now)
    (h : (l.receive bytes now free : Res ε _) = .ok (l', verdict)) : RtInv ⟨l', now⟩ := by
  have hmono : ∀ t, l.engine.lastRx = some t → t ≤ now := fun t ht => (hi.clock t ht).trans hc
  unfold receive at h
  obtain ⟨⟨e, v⟩, he, h⟩ := Res.bind_eq_ok.1 h
  cases RtEngine.onFrame_spec he with
  | unused hs hv =>
    have h0 : RtInv ⟨l, now⟩ := by
      refine ⟨hi.lengths, hmono, fun hw => ?_, hi.inStep⟩
      obtain ⟨t, ht, hlt⟩ := hi.expired hw
      exact ⟨t, ht, hlt.trans_le (Nat.sub_le_sub_right hc t)⟩
    have hl : l' = { l with engine := e } := by
      dsimp only at h
      split at h
      · exact absurd rfl (hv _ _ _)
      · cases h; rfl
    subst hl
    exact inv_congr h0 hs rfl rfl
  | accepted hl hlen ht hw =>
    cases h
    have hlen' : l.image.outputs.csdu.length = e.rxCsdu.length := by rw [hlen]; exact hi.lengths
    have hck : ∀ t, e.lastRx = some t → t ≤ now := by
      intro t h
      cases ht.symm.trans h
      exact le_refl _
    have hne : e.watchdogState ≠ .expired := by rw [hw]; exact fun h => by cases h
    have hexp : e.watchdogState = .expired → ∃ t, e.lastRx = some t ∧
        e.layout.outputCr.watchdog < now - t := fun h => absurd h hne
    cases free with
    | true =>
      have hcopy := IoImage.copyFront_of_length hlen'
      exact ⟨congrArg List.length hcopy, hck, hexp, hcopy, fun h => (by cases h),
        fun h => absurd h hne⟩
    | false => exact ⟨hlen', hck, hexp, rfl, hne⟩

end RtLoop

/-! ### Every run -/

/-- A tick whose retry of data finds the image busy does not also expire the watchdog. -/
def NoLostRetry (r : RtRun) : RtInput → Prop
  | .tick now _ locks _ => (∃ v, r.loop.pending = some (.data v)) → locks.retry = false →
      (r.loop.engine.checkWatchdog now).2 ≠ .expired
  | .frame _ _ _ => True

instance (r : RtRun) : Decidable (∃ v, r.loop.pending = some (.data v)) :=
  match h : r.loop.pending with
  | some (.data v) => .isTrue ⟨v, rfl⟩
  | some (.validity _) => .isFalse fun ⟨_, h'⟩ => by cases h'
  | none => .isFalse fun ⟨_, h'⟩ => by cases h'

instance (r : RtRun) (i : RtInput) : Decidable (NoLostRetry r i) := by
  cases i <;> unfold NoLostRetry <;> infer_instance

lemma RtRun.settled_eq_some {α : Type} {now : Instant} {x : Res Empty (RtLoop × α)} {r : RtRun}
    (h : settled now x = some r) : ∃ a, x = .ok (r.loop, a) ∧ r.clock = now := by
  rcases x with ⟨loop, a⟩ | e | p
  · cases h
    exact ⟨a, rfl, rfl⟩
  · cases h
  · cases h

/-- A step of a run, with the guard on the clock resolved. -/
lemma RtRun.step_eq_some {r r' : RtRun} {i : RtInput} (h : r.step i = some r') :
    (∃ now n locks problem out, i = .tick now n locks problem ∧ r.clock ≤ now ∧
      r'.clock = now ∧ (r.loop.tick now n locks problem : Res Empty _) = .ok (r'.loop, out)) ∨
    ∃ bytes now free verdict, i = .frame bytes now free ∧ r.clock ≤ now ∧ r'.clock = now ∧
      (r.loop.receive bytes now free : Res Empty _) = .ok (r'.loop, verdict) := by
  cases i with
  | tick now n locks problem =>
    simp only [step] at h
    split_ifs at h with hc
    obtain ⟨out, hx, hr⟩ := settled_eq_some h
    exact .inl ⟨now, n, locks, problem, out, rfl, hc, hr, hx⟩
  | frame bytes now free =>
    simp only [step] at h
    split_ifs at h with hc
    obtain ⟨verdict, hx, hr⟩ := settled_eq_some h
    exact .inr ⟨bytes, now, free, verdict, rfl, hc, hr, hx⟩

lemma rtInv_step {r r' : RtRun} {i : RtInput} (hi : RtInv r) (hg : NoLostRetry r i)
    (h : r.step i = some r') : RtInv r' := by
  obtain ⟨l', now'⟩ := r'
  rcases RtRun.step_eq_some h with ⟨now, n, locks, problem, out, rfl, hc, rfl, ht⟩ |
    ⟨bytes, now, free, verdict, rfl, hc, rfl, ht⟩
  · exact RtLoop.tick_inv hi hc (fun v hv => hg ⟨v, hv⟩) ht
  · exact RtLoop.receive_inv hi hc ht

lemma rtInv_reach {r : RtRun} (h : rtSystem.ReachWhen NoLostRetry r) : RtInv r :=
  h.inv (fun _ => rtInv_init) fun _ _ _ hi hg hs => rtInv_step hi hg hs

/-! ### An expiry that was shown stays shown -/

/-- The input is a frame the engine accepts. -/
def Accepts (r : RtRun) : RtInput → Prop
  | .frame bytes now _ => ∃ e p q d,
      (r.loop.engine.onFrame bytes now : Res Empty _) = .ok (e, .accepted p q d)
  | .tick _ _ _ _ => False

/-- The image shows the expiry, and nothing pending will undo it. -/
structure ShowsExpiry (l : RtLoop) : Prop where
  shown : l.image.outputs.validity.watchdog = .expired
  pending : ∀ p, l.pending = some p → ∃ v, p = .validity v ∧ v.watchdog = .expired

namespace RtLoop

lemma ShowsExpiry.settle {l : RtLoop} {v : Validity} {free : Bool} (h : ShowsExpiry l)
    (hv : v.watchdog = .expired) :
    ShowsExpiry (l.settle (.validity v) (l.image.rtSetValidity free v)) := by
  cases free with
  | true => exact ⟨hv, h.pending⟩
  | false => exact ⟨h.shown, fun p hp => by cases hp; exact ⟨v, rfl, hv⟩⟩

lemma ShowsExpiry.retry {l : RtLoop} (free : Bool) (h : ShowsExpiry l) :
    ShowsExpiry (l.retry free) := by
  unfold RtLoop.retry
  split
  · rename_i p hp
    obtain ⟨v, rfl, hv⟩ := h.pending p hp
    have h0 : ShowsExpiry { l with pending := none } := ⟨h.shown, fun p hp => by cases hp⟩
    exact ShowsExpiry.settle h0 hv
  · exact h

lemma ShowsExpiry.watch {l : RtLoop} (now : Instant) (free : Bool) (h : ShowsExpiry l) :
    ShowsExpiry (l.watch now free).1 := by
  unfold RtLoop.watch
  split
  · rename_i e he
    have h0 : ShowsExpiry { l with engine := e.markOutputsStale } := ⟨h.shown, h.pending⟩
    exact ShowsExpiry.settle h0 rfl
  · exact ⟨h.shown, h.pending⟩

lemma ShowsExpiry.tick {ε : Type} {l l' : RtLoop} {now : Instant} {n : Nat} {locks : TickLocks}
    {problem : Bool} {out : TickOut} (h : ShowsExpiry l)
    (ht : (l.tick now n locks problem : Res ε _) = .ok (l', out)) : ShowsExpiry l' := by
  unfold RtLoop.tick RtLoop.produce at ht
  obtain ⟨⟨l2, fr⟩, hp, ht⟩ := Res.bind_eq_ok.1 ht
  obtain ⟨⟨e, fr'⟩, -, hp⟩ := Res.bind_eq_ok.1 hp
  cases hp
  cases ht
  have h0 : ShowsExpiry (l.onRead now n) := ⟨h.shown, h.pending⟩
  have h1 := ShowsExpiry.watch now locks.watchdog (ShowsExpiry.retry locks.retry h0)
  exact ⟨h1.shown, h1.pending⟩

end RtLoop

lemma showsExpiry_step {r r' : RtRun} {i : RtInput} (hs : ShowsExpiry r.loop)
    (ha : ¬ Accepts r i) (h : r.step i = some r') : ShowsExpiry r'.loop := by
  rcases RtRun.step_eq_some h with ⟨now, n, locks, problem, out, rfl, hc, -, ht⟩ |
    ⟨bytes, now, free, verdict, rfl, hc, -, ht⟩
  · exact RtLoop.ShowsExpiry.tick hs ht
  · unfold RtLoop.receive at ht
    obtain ⟨⟨e, v⟩, he, ht⟩ := Res.bind_eq_ok.1 ht
    dsimp only at ht
    split at ht
    · exact absurd ⟨e, _, _, _, he⟩ ha
    · obtain ⟨hl, -⟩ := Prod.mk.inj (Res.ok.inj ht)
      rw [← hl]
      exact ⟨hs.shown, hs.pending⟩

/-- **The image follows the engine**: in every run in which no expiry meets data that is still
pending after its retry, whenever nothing is pending the image shows the engine's output data
and its watchdog state; and an expiry it shows stays until a frame is accepted. -/
theorem image_follows_engine {r : RtRun} (hr : rtSystem.ReachWhen NoLostRetry r)
    (hp : r.loop.pending = none) :
    (r.loop.image.outputs.csdu = r.loop.engine.rxCsdu ∧
      (r.loop.image.outputs.validity.watchdog = .expired ↔
        r.loop.engine.watchdogState = .expired)) ∧
    (r.loop.image.outputs.validity.watchdog = .expired →
      ∀ r', (rtSystem.startAt r).ReachWhen (fun s i => ¬ Accepts s i) r' →
        r'.loop.image.outputs.validity.watchdog = .expired) := by
  have hi := (rtInv_reach hr).inStep
  simp only [InStep, hp] at hi
  refine ⟨hi, fun hw r' hr' => ?_⟩
  have hshow : ShowsExpiry r'.loop := by
    refine System.ReachWhen.inv (I := fun s => ShowsExpiry s.loop) (fun s hs => ?_)
      (fun s i s' hs ha hst => showsExpiry_step hs ha hst) hr'
    rw [show s = r from hs]
    exact ⟨hw, fun p hp' => by rw [hp] at hp'; cases hp'⟩
  exact hshow.shown

/-! ### A retry that meets an expiry -/

namespace RtDemo

def ourMac : MacAddr := MacAddr.of 2 0 0 0 0 1
def cpuMac : MacAddr := MacAddr.of 2 0 0 0 0 2

/-- Two bytes of outputs, no inputs, a watchdog of ten nanoseconds. -/
def layout : Layout :=
  { inputCr := ⟨0x8000, 0, 32, 10, [], []⟩, outputCr := ⟨0x8001, 2, 32, 10, [], []⟩, cells := [] }

def start : RtRun := ⟨.start layout ourMac cpuMac {} .empty, 0⟩

lemma start_init : rtSystem.init start := ⟨layout, ourMac, cpuMac, {}, .empty, rfl⟩

/-- A frame of the controller. -/
def outputs : Bytes :=
  RtFrame.bytes ⟨0x8001, [7, 8], 1, .runPrimaryValidOk, 0⟩ ourMac cpuMac

def tickAt (now : Instant) (retry watchdog : Bool) : RtInput :=
  .tick now 1 ⟨retry, watchdog, true⟩ false

/-- Nothing is pending, and the image and the engine say what they say. -/
def observed (image : WatchdogState) (engine : EngineWatchdog) (r : RtRun) : Bool :=
  r.loop.pending = none ∧ r.loop.image.outputs.validity.watchdog = image ∧
    r.loop.engine.watchdogState = engine

end RtDemo

open RtDemo

/-- The plain case: outputs arrive and are shown, then the controller falls silent. -/
theorem image_follows_engine_silence :
    ∃ r, rtSystem.ReachWhen NoLostRetry r ∧ r.loop.pending = none ∧
      r.loop.image.outputs.csdu = r.loop.engine.rxCsdu ∧
      r.loop.image.outputs.validity.watchdog = .expired := by
  have hrun : (rtSystem.runWhen NoLostRetry RtDemo.start
      [.frame outputs 1 true, tickAt 100 true true]).any (observed .expired .expired) = true := by
    decide +kernel
  obtain ⟨r, hr, hs⟩ := System.exists_reachWhen_of_run RtDemo.start_init hrun
  obtain ⟨hp, hw, -⟩ := of_decide_eq_true hs
  exact ⟨r, hr, hp, (image_follows_engine hr hp).1.1, hw⟩

/-- The image is busy when the outputs arrive and again at the next tick, where the watchdog
expires and the expiry is shown; the retry of the following tick then shows the outputs as
valid although no frame has arrived since. -/
theorem retried_data_hides_expiry :
    ¬ ∀ r, rtSystem.Reach r → r.loop.pending = none →
      (r.loop.image.outputs.csdu = r.loop.engine.rxCsdu ∧
        (r.loop.image.outputs.validity.watchdog = .expired ↔
          r.loop.engine.watchdogState = .expired)) := by
  intro hall
  have hrun : (rtSystem.run RtDemo.start
      [.frame outputs 1 false, tickAt 100 false true, tickAt 101 true true]).any
      (observed .ok .expired) = true := by
    decide +kernel
  obtain ⟨r, hr, hs⟩ := System.exists_reach_of_run RtDemo.start_init hrun
  obtain ⟨hp, hw, he⟩ := of_decide_eq_true hs
  have h := (hall r hr hp).2.2 he
  rw [hw] at h
  cases h

end Pnio
