import Pnio.EngineRun
import Pnio.FrameSafe
import Pnio.RtThread

/-!
One pass of the RT thread: with a layout that was built for an AR it never panics, and it counts
everything it does exactly once.
-/

namespace Pnio

/-- What the thread counts. `heard` counts the accepted frames by the intervals between them. -/
inductive RtCounter where
  | expirations
  | tx
  | lateness
  | work
  | valid
  | invalid
  | ignored
  | dropped
  | heard
deriving DecidableEq, Repr

/-! ### What the engine and the loop count -/

namespace RtEngine

def tally (e : RtEngine) : RtCounter → Nat
  | .expirations => e.stats.watchdogExpirations
  | .tx => e.stats.tx
  | .valid => e.stats.rxAccepted
  | .invalid => e.stats.rxInvalid
  | .ignored => e.stats.rxIgnored
  | .dropped => e.stats.rxDropped
  | .lateness | .work | .heard => 0

end RtEngine

namespace RxVerdict

/-- The counter of a verdict. -/
def counter : RxVerdict → RtCounter
  | .accepted _ _ true => .valid
  | .accepted _ _ false => .invalid
  | .ignored => .ignored
  | .dropped _ => .dropped

def isAccepted : RxVerdict → Bool
  | .accepted _ _ _ => true
  | _ => false

end RxVerdict

lemma tally_add_single {f g : RtCounter → Nat} (c : RtCounter) (hc : g c = f c + 1)
    (h : ∀ c' ≠ c, g c' = f c') : g = f + Pi.single c 1 := by
  funext c'
  by_cases hcc : c' = c
  · subst hcc
    simp [hc]
  · simp [h c' hcc, hcc]

namespace RtEngine

variable {ε : Type} {e e' : RtEngine}

lemma onTick_tally {problem : Bool} {n : UInt32} {inputs frame : Bytes}
    (h : (e.onTick problem n inputs : Res ε _) = .ok (e', frame)) :
    e'.tally = e.tally + Pi.single .tx 1 ∧ e'.lastRx = e.lastRx := by
  obtain ⟨csdu, tx, rfl⟩ := onTick_cases h
  refine ⟨tally_add_single .tx rfl fun c hc => ?_, rfl⟩
  cases c <;> first | rfl | exact absurd rfl hc

/-- Every frame counts once, with its verdict. -/
lemma onFrame_tally {frame : Bytes} {now : Instant} {v : RxVerdict}
    (h : (e.onFrame frame now : Res ε _) = .ok (e', v)) :
    e'.tally = e.tally + Pi.single v.counter 1 ∧
      e'.lastRx = if v.isAccepted then some now else e.lastRx := by
  obtain ⟨r, -, h⟩ := Res.bind_eq_ok.1 h
  have hdrop : ∀ why, (e.drop why).1.tally =
      e.tally + Pi.single (RxVerdict.dropped why).counter 1 := fun why =>
    tally_add_single .dropped rfl fun c hc => by
      cases c <;> first | rfl | exact absurd rfl hc
  split at h
  · cases h
    exact ⟨hdrop _, rfl⟩
  · dsimp only at h
    split_ifs at h with h1 h2 h3 hvalid
    · cases h
      refine ⟨tally_add_single .ignored rfl fun c hc => ?_, rfl⟩
      cases c <;> first | rfl | exact absurd rfl hc
    · cases h
      exact ⟨hdrop _, rfl⟩
    · cases h
      exact ⟨hdrop _, rfl⟩
    · obtain ⟨e1, ht, h⟩ := Res.bind_eq_ok.1 h
      cases h
      simp only [takeCsdu, Res.bind_eq_ok] at ht
      obtain ⟨s, -, rx, -, iops, -, iocs, -, ht⟩ := ht
      cases ht
      rw [hvalid]
      refine ⟨tally_add_single .valid rfl fun c hc => ?_, rfl⟩
      cases c <;> first | rfl | exact absurd rfl hc
    · cases h
      rw [Bool.not_eq_true] at hvalid
      rw [hvalid]
      refine ⟨tally_add_single .invalid rfl fun c hc => ?_, rfl⟩
      cases c <;> first | rfl | exact absurd rfl hc

end RtEngine

/-- A watchdog that expired is one expiration. -/
def expiredTally (expired : Bool) : RtCounter → Nat :=
  if expired then Pi.single .expirations 1 else 0

lemma RtEngine.checkWatchdog_tally (e : RtEngine) (now : Instant) :
    (e.checkWatchdog now).1.tally =
        e.tally + expiredTally ((e.checkWatchdog now).2 = .expired) ∧
      (e.checkWatchdog now).1.lastRx = e.lastRx := by
  unfold checkWatchdog
  split
  · exact ⟨rfl, rfl⟩
  · rename_i t ht
    split_ifs
    · exact ⟨rfl, rfl⟩
    · split
      · exact ⟨rfl, rfl⟩
      · refine ⟨tally_add_single .expirations rfl fun c hc => ?_, rfl⟩
        cases c <;> first | rfl | exact absurd rfl hc

namespace RtLoop

variable {ε : Type} {l l' : RtLoop}

lemma settle_tally (l : RtLoop) (p : Pending) (r : IoImage × Bool) :
    (l.settle p r).engine.tally = l.engine.tally ∧
      (l.settle p r).engine.lastRx = l.engine.lastRx := by
  unfold settle
  split_ifs <;> exact ⟨rfl, rfl⟩

lemma retry_tally (l : RtLoop) (free : Bool) :
    (l.retry free).engine.tally = l.engine.tally ∧
      (l.retry free).engine.lastRx = l.engine.lastRx := by
  unfold retry
  split
  · rename_i p _
    cases p with
    | data v => exact settle_tally { l with pending := none } (.data v) _
    | validity v => exact settle_tally { l with pending := none } (.validity v) _
  · exact ⟨rfl, rfl⟩

lemma watch_tally (l : RtLoop) (now : Instant) (free : Bool) :
    (l.watch now free).1.engine.tally = l.engine.tally + expiredTally (l.watch now free).2 ∧
      (l.watch now free).1.engine.lastRx = l.engine.lastRx := by
  obtain ⟨htally, hlast⟩ := l.engine.checkWatchdog_tally now
  unfold watch
  generalize l.engine.checkWatchdog now = r at htally hlast
  obtain ⟨e, verdict⟩ := r
  cases verdict with
  | expired =>
    obtain ⟨hs, hr⟩ := settle_tally { l with engine := e.markOutputsStale } (.validity _)
      (l.image.rtSetValidity free _)
    exact ⟨hs.trans htally, hr.trans hlast⟩
  | notArmed => exact ⟨htally, hlast⟩
  | ok => exact ⟨htally, hlast⟩
  | stopped => exact ⟨htally, hlast⟩

lemma tick_tally {now : Instant} {n : Nat} {locks : TickLocks} {problem : Bool} {out : TickOut}
    (h : (l.tick now n locks problem : Res ε _) = .ok (l', out)) :
    l'.engine.tally =
        l.engine.tally + expiredTally out.watchdogExpired + Pi.single .tx 1 ∧
      l'.engine.lastRx = l.engine.lastRx := by
  obtain ⟨⟨l2, frame⟩, hp, h⟩ := Res.bind_eq_ok.1 h
  cases h
  obtain ⟨⟨e, fr⟩, he, hp⟩ := Res.bind_eq_ok.1 hp
  cases hp
  obtain ⟨htick, hlast⟩ := RtEngine.onTick_tally he
  obtain ⟨hr, hrl⟩ := (l.onRead now n).retry_tally locks.retry
  obtain ⟨hw, hwl⟩ := ((l.onRead now n).retry locks.retry).watch_tally now locks.watchdog
  refine ⟨htick.trans ?_, hlast.trans (hwl.trans hrl)⟩
  exact congrArg (· + Pi.single RtCounter.tx 1) (hw.trans (congrArg (· + _) hr))

lemma receive_tally {bytes : Bytes} {now : Instant} {free : Bool} {v : RxVerdict}
    (h : (l.receive bytes now free : Res ε _) = .ok (l', v)) :
    l'.engine.tally = l.engine.tally + Pi.single v.counter 1 ∧
      l'.engine.lastRx = if v.isAccepted then some now else l.engine.lastRx := by
  obtain ⟨⟨e, v'⟩, he, h⟩ := Res.bind_eq_ok.1 h
  have hf := RtEngine.onFrame_tally he
  dsimp only at h
  split at h
  · cases h
    obtain ⟨hs, hr⟩ := settle_tally { l with engine := e, pending := none } (.data _) _
    exact ⟨hs.trans hf.1, hr.trans hf.2⟩
  · cases h
    exact hf

/-! ### No panic -/

/-- The loop over a layout that was built for an AR. -/
structure Safe (lay : Layout) (l : RtLoop) : Prop where
  input : lay.inputCr.Sound
  output : lay.outputCr.Sound
  built : l.engine.Built lay
  snapshot : l.snapshot.length = lay.inputCr.dataLength

variable {lay : Layout}

lemma Safe.of_engine (h : Safe lay l) (hb : l'.engine.Built lay) (hs : l'.snapshot = l.snapshot) :
    Safe lay l' :=
  ⟨h.input, h.output, hb, hs ▸ h.snapshot⟩

lemma Safe.settle (h : Safe lay l) (p : Pending) (r : IoImage × Bool) :
    Safe lay (l.settle p r) := by
  have hb := h.built
  unfold RtLoop.settle
  split_ifs
  · exact h.of_engine hb rfl
  · exact h.of_engine ⟨hb.layout, hb.tx, hb.txCsdu, hb.rxCsdu⟩ rfl

lemma Safe.retry (h : Safe lay l) (free : Bool) : Safe lay (l.retry free) := by
  unfold RtLoop.retry
  split
  · rename_i p _
    have h' : Safe lay { l with pending := none } := h.of_engine h.built rfl
    cases p with
    | data v => exact h'.settle (.data v) _
    | validity v => exact h'.settle (.validity v) _
  · exact h

lemma Safe.watch (h : Safe lay l) (now : Instant) (free : Bool) :
    Safe lay (l.watch now free).1 := by
  have hb := RtEngine.checkWatchdog_built h.built now
  unfold RtLoop.watch
  generalize l.engine.checkWatchdog now = r at hb
  obtain ⟨e, verdict⟩ := r
  cases verdict with
  | expired =>
    refine Safe.settle (l := { l with engine := e.markOutputsStale }) (h.of_engine ?_ rfl) _ _
    exact ⟨hb.layout, hb.tx, hb.txCsdu, hb.rxCsdu⟩
  | notArmed => exact h.of_engine hb rfl
  | ok => exact h.of_engine hb rfl
  | stopped => exact h.of_engine hb rfl

lemma length_rtSnapshotInputs (im : IoImage) (free : Bool) (dst : Bytes) :
    (im.rtSnapshotInputs free dst).1.length = dst.length := by
  unfold IoImage.rtSnapshotInputs
  split_ifs
  · simp only [IoImage.copyFront, List.length_append, List.length_take, List.length_drop]
    omega
  · rfl

/-- A timer read is always worked off. -/
lemma Safe.tick (h : Safe lay l) (now : Instant) (n : Nat) (locks : TickLocks) (problem : Bool) :
    ∃ l' out, (l.tick now n locks problem : Res ε _) = .ok (l', out) ∧ Safe lay l' := by
  have hread : Safe lay (l.onRead now n) := h.of_engine h.built rfl
  have h' := (hread.retry locks.retry).watch now locks.watchdog
  unfold RtLoop.tick
  generalize ((l.onRead now n).retry locks.retry).watch now locks.watchdog = r at h'
  obtain ⟨m, expired⟩ := r
  have hlen : lay.inputCr.dataLength ≤
      (m.image.rtSnapshotInputs locks.inputs m.snapshot).1.length :=
    ((length_rtSnapshotInputs ..).trans h'.snapshot).ge
  dsimp only at h' ⊢
  unfold RtLoop.produce
  generalize hsnap : m.image.rtSnapshotInputs locks.inputs m.snapshot = snap at hlen
  obtain ⟨snapshot, taken⟩ := snap
  have hb : RtEngine.Built lay { m.engine with stats := { m.engine.stats with
      inputSnapshotReused := m.engine.stats.inputSnapshotReused + if taken then 0 else 1 } } :=
    ⟨h'.built.layout, h'.built.tx, h'.built.txCsdu, h'.built.rxCsdu⟩
  obtain ⟨e', rt, htick, hb', -⟩ := RtEngine.onTick_spec (ε := ε) hb h.input problem
    (if (l.grid.ticks == 0) = true then 1 else UInt32.ofNat (min n (2 ^ 32 - 1))) hlen
  dsimp only at htick ⊢
  rw [htick]
  refine ⟨_, _, rfl, h.input, h.output, hb', ?_⟩
  have := length_rtSnapshotInputs m.image locks.inputs m.snapshot
  rw [hsnap] at this
  exact this.trans h'.snapshot

/-- So is every frame. -/
lemma Safe.receive (h : Safe lay l) (bytes : Bytes) (now : Instant) (free : Bool) :
    ∃ l' v, (l.receive bytes now free : Res ε _) = .ok (l', v) ∧ Safe lay l' := by
  obtain ⟨⟨e, v⟩, he⟩ := RtEngine.onFrame_returns (ε := ε) h.built h.output bytes now
  have hs : Safe lay { l with engine := e } :=
    h.of_engine (RtEngine.onFrame_built h.built he) rfl
  unfold RtLoop.receive
  rw [he, Res.ok_bind]
  cases v with
  | accepted p q d =>
    refine ⟨_, _, rfl, ?_⟩
    exact Safe.settle (l := { l with engine := e, pending := none }) (hs.of_engine hs.built rfl) _ _
  | ignored => exact ⟨_, _, rfl, hs⟩
  | dropped why => exact ⟨_, _, rfl, hs⟩

end RtLoop

/-! ### What a pass counts -/

def RtThreadEvent.isSocketError : RtThreadEvent → Bool
  | .socketError _ => true
  | _ => false

/-- What one frame adds; none stands for an oversized one. -/
def frameTally : Option RxVerdict → RtCounter → Nat
  | some v => Pi.single v.counter 1 + if v.isAccepted then Pi.single .heard 1 else 0
  | none => Pi.single .invalid 1

def framesTally (seen : List (Option RxVerdict)) : RtCounter → Nat := (seen.map frameTally).sum

lemma framesTally_append (l l' : List (Option RxVerdict)) :
    framesTally (l ++ l') = framesTally l + framesTally l' := by
  simp [framesTally]

/-- The counters that only the timer moves. -/
def RtCounter.ofTimer : RtCounter → Bool
  | .expirations | .tx | .lateness | .work => true
  | _ => false

lemma framesTally_ofTimer {c : RtCounter} (hc : c.ofTimer = true)
    (seen : List (Option RxVerdict)) : framesTally seen c = 0 := by
  have hv : ∀ v, frameTally v c = 0 := by
    rintro (_ | ⟨p, q, _ | _⟩ | _ | why) <;> cases c <;> first | rfl | cases hc
  induction seen with
  | nil => rfl
  | cons v seen ih =>
    rw [framesTally, List.map_cons, List.sum_cons, Pi.add_apply, hv, Nat.zero_add]
    exact ih

namespace RtThread

variable {ε : Type} {th th' : RtThread} {lay : Layout}

/-- What the thread counts besides the engine. -/
def ownTally (th : RtThread) : RtCounter → Nat
  | .lateness => th.tickLateness.count
  | .work => th.cycleWork.count
  | .heard => th.rxInterval.count + th.loop.engine.lastRx.isSome.toNat
  | _ => 0

def tally (th : RtThread) : RtCounter → Nat := th.loop.engine.tally + th.ownTally

/-- What a step of the thread leaves alone; as long as it has heard nothing it records no
interval. -/
structure Same (th th' : RtThread) : Prop where
  hasFd : th'.hasFd = th.hasFd
  noProgress : th'.noProgress = th.noProgress
  intervals : th.rxInterval.count ≤ th'.rxInterval.count
  unheard : th'.loop.engine.lastRx = none →
    th.loop.engine.lastRx = none ∧ th'.rxInterval = th.rxInterval

lemma Same.refl (th : RtThread) : Same th th := ⟨rfl, rfl, le_refl _, fun h => ⟨h, rfl⟩⟩

lemma Same.trans {th'' : RtThread} (h : Same th th') (h' : Same th' th'') : Same th th'' := by
  refine ⟨h'.hasFd.trans h.hasFd, h'.noProgress.trans h.noProgress,
    h.intervals.trans h'.intervals, fun hn => ?_⟩
  obtain ⟨hn', hr'⟩ := h'.unheard hn
  obtain ⟨hn, hr⟩ := h.unheard hn'
  exact ⟨hn, hr'.trans hr⟩

lemma noteInterval_same {loop : RtLoop} {now : Instant} {v : RxVerdict}
    (hlast : loop.engine.lastRx = if v.isAccepted then some now else th.loop.engine.lastRx) :
    Same th (({ th with loop }).noteInterval th.loop.engine.lastRx now v) ∧
      (({ th with loop }).noteInterval th.loop.engine.lastRx now v).loop = loop := by
  cases v with
  | accepted p q d =>
    have hsome : loop.engine.lastRx ≠ none := by simp [hlast, RxVerdict.isAccepted]
    cases th.loop.engine.lastRx with
    | none => exact ⟨⟨rfl, rfl, le_refl _, fun h => absurd h hsome⟩, rfl⟩
    | some prev => exact ⟨⟨rfl, rfl, Nat.le_succ _, fun h => absurd h hsome⟩, rfl⟩
  | ignored => exact ⟨⟨rfl, rfl, le_refl _, fun h => ⟨hlast.symm.trans h, rfl⟩⟩, rfl⟩
  | dropped why => exact ⟨⟨rfl, rfl, le_refl _, fun h => ⟨hlast.symm.trans h, rfl⟩⟩, rfl⟩

/-- The first accepted frame is counted by having been heard, every other by its interval. -/
lemma noteInterval_tally {loop : RtLoop} {now : Instant} {v : RxVerdict}
    (hlast : loop.engine.lastRx = if v.isAccepted then some now else th.loop.engine.lastRx) :
    (({ th with loop }).noteInterval th.loop.engine.lastRx now v).ownTally =
      th.ownTally + if v.isAccepted then Pi.single .heard 1 else 0 := by
  cases v with
  | accepted p q d =>
    have hlast : loop.engine.lastRx = some now := hlast
    refine tally_add_single .heard ?_ fun c hc => ?_
    · cases hprev : th.loop.engine.lastRx with
      | none => simp [noteInterval, ownTally, hlast, hprev]
      | some t => simp [noteInterval, ownTally, hlast, hprev, Histogram.record]
    · cases hprev : th.loop.engine.lastRx <;> cases c <;> first | rfl | exact absurd rfl hc
  | ignored =>
    funext c
    have hlast : loop.engine.lastRx = th.loop.engine.lastRx := hlast
    cases c <;> simp [noteInterval, ownTally, RxVerdict.isAccepted, hlast]
  | dropped why =>
    funext c
    have hlast : loop.engine.lastRx = th.loop.engine.lastRx := hlast
    cases c <;> simp [noteInterval, ownTally, RxVerdict.isAccepted, hlast]

/-- A frame is worked off, and counted with its verdict. -/
lemma onFrame_spec (h : th.loop.Safe lay) (bytes : Bytes) (now : Instant) (free : Bool) :
    ∃ th' v, (th.onFrame bytes now free : Res ε _) = .ok (th', v) ∧ th'.loop.Safe lay ∧
      Same th th' ∧ th'.tally = th.tally + frameTally (some v) := by
  obtain ⟨loop, v, hr, hs⟩ := h.receive (ε := ε) bytes now free
  obtain ⟨htally, hlast⟩ := RtLoop.receive_tally hr
  obtain ⟨hsame, hloop⟩ := noteInterval_same hlast
  unfold onFrame
  rw [hr, Res.ok_bind]
  refine ⟨_, v, rfl, hloop.symm ▸ hs, hsame, ?_⟩
  rw [tally, hloop, noteInterval_tally hlast, htally, tally, frameTally]
  abel

lemma countInvalid_spec (h : th.loop.Safe lay) :
    th.countInvalid.loop.Safe lay ∧ Same th th.countInvalid ∧
      th.countInvalid.tally = th.tally + frameTally none := by
  have hb := h.built
  refine ⟨h.of_engine ⟨hb.layout, hb.tx, hb.txCsdu, hb.rxCsdu⟩ rfl,
    ⟨rfl, rfl, le_refl _, fun h => ⟨h, rfl⟩⟩, ?_⟩
  refine tally_add_single .invalid ?_ fun c hc => ?_
  · simp [tally, RtEngine.tally, ownTally, countInvalid]
  · cases c <;> first | rfl | exact absurd rfl hc

/-- What a drain of at most `n` turns leaves behind. -/
structure DrainSpec (lay : Layout) (th : RtThread) (n : Nat) (th' : RtThread) (d : Drained) :
    Prop where
  safe : th'.loop.Safe lay
  same : Same th th'
  tally : th'.tally = th.tally + framesTally d.seen
  seen : d.seen.length ≤ n
  failed : ∀ e ∈ d.failed, e.isSocketError = true

lemma DrainSpec.stop (h : th.loop.Safe lay) (n : Nat) {failed : Option RtThreadEvent}
    (hf : ∀ e ∈ failed, e.isSocketError = true) : DrainSpec lay th n th ⟨[], failed⟩ :=
  ⟨h, .refl th, by simp [framesTally], Nat.zero_le n, hf⟩

/-- A turn that received `v`, and the rest of the drain. -/
lemma DrainSpec.push {th₁ : RtThread} {n : Nat} {d : Drained} {v : Option RxVerdict}
    (h : DrainSpec lay th₁ n th' d) (hs : Same th th₁)
    (ht : th₁.tally = th.tally + frameTally v) : DrainSpec lay th (n + 1) th' (d.push v) := by
  refine ⟨h.safe, hs.trans h.same, ?_, Nat.succ_le_succ h.seen, h.failed⟩
  rw [h.tally, ht, Drained.push, framesTally, framesTally, List.map_cons, List.sum_cons]
  abel

lemma DrainSpec.mono {n m : Nat} {d : Drained} (h : DrainSpec lay th n th' d) (hnm : n ≤ m) :
    DrainSpec lay th m th' d :=
  ⟨h.safe, h.same, h.tally, h.seen.trans hnm, h.failed⟩

lemma drainShouldContinue_got (hasFd : Bool) : drainShouldContinue hasFd true true = true := by
  cases hasFd <;> rfl

/-- A drain comes to its end, and counts the frames it has seen. -/
lemma drainRx_spec (h : th.loop.Safe lay) (turns : List RxTurn) :
    ∃ th' d, (th.drainRx turns : Res ε _) = .ok (th', d) ∧
      DrainSpec lay th turns.length th' d := by
  have hsock : ∀ s, ∀ e ∈ some (RtThreadEvent.socketError s), e.isSocketError = true := by
    rintro s e he
    cases he
    rfl
  have hnone : ∀ e ∈ (none : Option RtThreadEvent), e.isSocketError = true := by simp
  induction turns generalizing th with
  | nil => exact ⟨_, _, rfl, .stop h 0 hnone⟩
  | cons turn turns ih =>
    rw [drainRx]
    split
    · exact ⟨_, _, rfl, .stop h _ (hsock _)⟩
    · exact ⟨_, _, rfl, .stop h _ hnone⟩
    · split
      · split_ifs
        · obtain ⟨th', d, hd, hspec⟩ := ih h
          exact ⟨th', d, hd, hspec.mono (Nat.le_succ _)⟩
        · exact ⟨_, _, rfl, .stop h _ hnone⟩
      · rename_i bytes now free _
        obtain ⟨th₁, v, hv, hsafe, hsame, htally⟩ := onFrame_spec (ε := ε) h bytes now free
        obtain ⟨th', d, hd, hspec⟩ := ih hsafe
        rw [hv, Res.ok_bind]
        dsimp only
        rw [if_pos (drainShouldContinue_got _), hd, Res.ok_bind]
        exact ⟨_, _, rfl, hspec.push hsame htally⟩
      · obtain ⟨hsafe, hsame, htally⟩ := countInvalid_spec h
        obtain ⟨th', d, hd, hspec⟩ := ih hsafe
        rw [if_pos (drainShouldContinue_got _), hd, Res.ok_bind]
        exact ⟨_, _, rfl, hspec.push hsame htally⟩
      · exact ⟨_, _, rfl, .stop h _ (hsock _)⟩

/-- What the timer adds: an expiration, a frame sent and a wake-up recorded, and the work if the
frame was taken. -/
def tickTally (expired ticked sent : Bool) : RtCounter → Nat :=
  expiredTally expired + (if ticked then Pi.single .tx 1 + Pi.single .lateness 1 else 0) +
    if sent then Pi.single .work 1 else 0

/-- The events of a pass: at most one expiry, and then the failure that ends the loop. -/
structure PassEvents (expired goOn : Bool) (events : List RtThreadEvent) : Prop where
  shape : ∃ err : List RtThreadEvent, events = (if expired then [.watchdogExpired] else []) ++ err ∧
    err.length ≤ 1 ∧ (∀ e ∈ err, e.isSocketError = true) ∧ (goOn = true ↔ err = [])

lemma PassEvents.quiet : PassEvents false true [] := ⟨[], rfl, Nat.zero_le 1, by simp, by simp⟩

lemma PassEvents.ticked (expired : Bool) :
    PassEvents expired true (if expired then [.watchdogExpired] else []) :=
  ⟨[], (List.append_nil _).symm, Nat.zero_le 1, by simp, by simp⟩

/-- The failure that ends the loop. -/
lemma PassEvents.fail {expired : Bool} {events : List RtThreadEvent} {e : RtThreadEvent}
    (h : PassEvents expired true events) (he : e.isSocketError = true) :
    PassEvents expired false (events ++ [e]) := by
  obtain ⟨err, rfl, -, -, hgo⟩ := h.shape
  obtain rfl := hgo.1 rfl
  exact ⟨[e], by rw [List.append_nil], le_refl 1, by simpa using he, by simp⟩

lemma tally_work (th : RtThread) (ns : Nat) :
    RtThread.tally { th with cycleWork := th.cycleWork.record ns } =
      th.tally + Pi.single .work 1 := by
  refine tally_add_single .work ?_ fun c hc => ?_
  · simp [tally, RtEngine.tally, ownTally, Histogram.record]
  · cases c <;> first | rfl | exact absurd rfl hc

/-- The timer: a tick is counted with the frame that was sent for it. -/
lemma onTimer_spec (h : th.loop.Safe lay) (ready : Bool) (p : RtPass) :
    ∃ th' t expired sent, (th.onTimer ready p : Res ε _) = .ok (th', t) ∧ th'.loop.Safe lay ∧
      Same th th' ∧ PassEvents expired t.goOn t.events ∧
      th'.tally = th.tally + tickTally expired t.ticked sent ∧
      (sent = true → t.ticked = true) ∧ (t.goOn = true → sent = t.ticked) := by
  have hzero : th.tally = th.tally + tickTally false false false := by
    simp [tickTally, expiredTally]
  unfold onTimer
  split_ifs
  · exact ⟨_, _, false, false, rfl, h, .refl th, .quiet, hzero, by simp, by simp⟩
  · split
    · refine ⟨_, _, false, false, rfl, h, .refl th, ?_, hzero, by simp, by simp⟩
      exact PassEvents.quiet.fail rfl
    · exact ⟨_, _, false, false, rfl, h, .refl th, .quiet, hzero, by simp, by simp⟩
    · rename_i n _ _
      obtain ⟨loop, out, ht, hs⟩ := h.tick (ε := ε) p.tick.now n p.tick.locks p.tick.problem
      obtain ⟨htally, hlast⟩ := RtLoop.tick_tally ht
      rw [ht, Res.ok_bind]
      dsimp only
      -- what is counted up to the send
      have hown : RtThread.tally
          { th with loop, tickLateness := th.tickLateness.record out.lateness } =
          th.tally + tickTally out.watchdogExpired true false := by
        have h1 : RtThread.ownTally
            { th with loop, tickLateness := th.tickLateness.record out.lateness } =
            th.ownTally + Pi.single .lateness 1 := by
          refine tally_add_single .lateness rfl fun c hc => ?_
          cases c <;> first | rfl | exact absurd rfl hc | simp [ownTally, hlast]
        rw [tally, h1, htally, tally, tickTally]
        simp only [if_true, Bool.false_eq_true, if_false]
        abel
      split
      · refine ⟨_, _, out.watchdogExpired, false, rfl, hs,
          ⟨rfl, rfl, le_refl _, fun h => ⟨hlast ▸ h, rfl⟩⟩, ?_, hown, by simp, by simp⟩
        exact (PassEvents.ticked _).fail rfl
      · refine ⟨_, _, out.watchdogExpired, true, rfl, hs,
          ⟨rfl, rfl, le_refl _, fun h => ⟨hlast ▸ h, rfl⟩⟩, .ticked _, ?_, by simp, by simp⟩
        refine (tally_work { th with loop, tickLateness := th.tickLateness.record out.lateness }
          p.tick.elapsed).trans ?_
        rw [hown]
        simp only [tickTally, if_true, Bool.false_eq_true, if_false]
        abel

/-- What one pass leaves behind. -/
structure PassSpec (lay : Layout) (th th' : RtThread) (r : Passed) : Prop where
  safe : th'.loop.Safe lay
  hasFd : th'.hasFd = th.hasFd
  intervals : th.rxInterval.count ≤ th'.rxInterval.count
  unheard : th'.loop.engine.lastRx = none →
    th.loop.engine.lastRx = none ∧ th'.rxInterval = th.rxInterval
  seen : r.seen.length ≤ maxRxPerPass
  counted : ∃ expired sent, PassEvents expired r.goOn r.events ∧
    th'.tally = th.tally + (tickTally expired r.ticked sent + framesTally r.seen) ∧
    (sent = true → r.ticked = true) ∧ (r.goOn = true → sent = r.ticked)

lemma account_spec (th : RtThread) (t : Ticked) (d : Drained) {expired : Bool}
    (hev : PassEvents expired true t.events) :
    (th.account t d).1.loop = th.loop ∧ (th.account t d).1.hasFd = th.hasFd ∧
      (th.account t d).1.rxInterval = th.rxInterval ∧
      (th.account t d).1.tally = th.tally ∧ (th.account t d).2.seen = d.seen ∧
      (th.account t d).2.ticked = t.ticked ∧
      PassEvents expired (th.account t d).2.goOn (th.account t d).2.events := by
  unfold account
  dsimp only
  split_ifs
  · exact ⟨rfl, rfl, rfl, rfl, rfl, rfl, hev⟩
  · exact ⟨rfl, rfl, rfl, rfl, rfl, rfl, hev.fail rfl⟩
  · exact ⟨rfl, rfl, rfl, rfl, rfl, rfl, hev⟩

lemma drainIf_spec (h : th.loop.Safe lay) (drain : Bool) (turns : List RxTurn) :
    ∃ th' d, (th.drainIf drain turns : Res ε _) = .ok (th', d) ∧
      DrainSpec lay th maxRxPerPass th' d := by
  cases drain with
  | false => exact ⟨_, _, rfl, .stop h _ fun e he => by cases he⟩
  | true =>
    obtain ⟨th', d, hd, hspec⟩ := drainRx_spec (ε := ε) h (turns.take maxRxPerPass)
    exact ⟨th', d, hd, hspec.mono (List.length_take_le _ _)⟩

/-- **A pass never panics**, counts all it does, and ends the loop with a failure or not at all. -/
lemma pass_spec (h : th.loop.Safe lay) (ready : RtReady) (p : RtPass) :
    ∃ th' r, (th.pass ready p : Res ε _) = .ok (th', r) ∧ PassSpec lay th th' r := by
  obtain ⟨th₁, t, expired, sent, ht, hsafe, hsame, hev, htally, hsent, hgo⟩ :=
    onTimer_spec (ε := ε) h ready.timer p
  unfold pass
  rw [ht, Res.ok_bind]
  dsimp only
  cases hon : t.goOn with
  | false =>
    rw [hon] at hev
    refine ⟨_, _, rfl, hsafe, hsame.hasFd, hsame.intervals, hsame.unheard, Nat.zero_le _, expired,
      sent, hev, ?_, hsent, ?_⟩
    · simpa [framesTally] using htally
    · exact fun hf => by cases hf
  | true =>
    rw [hon] at hev
    obtain ⟨th₂, d, hd, hspec⟩ :=
      drainIf_spec (ε := ε) hsafe (if th₁.hasFd then ready.socket else t.ticked) p.rx
    have hsum : th₂.tally = th.tally + (tickTally expired t.ticked sent + framesTally d.seen) := by
      rw [hspec.tally, htally, add_assoc]
    have hboth := hsame.trans hspec.same
    rw [if_neg (by simp), hd, Res.ok_bind]
    dsimp only
    cases hf : d.failed with
    | some e =>
      refine ⟨_, _, rfl, hspec.safe, hboth.hasFd, hboth.intervals, hboth.unheard, hspec.seen,
        expired, sent, ?_, hsum, hsent, ?_⟩
      · exact hev.fail (hspec.failed e hf)
      · exact fun h => by cases h
    | none =>
      obtain ⟨hloop, hhas, hint, htal, hseen, htick, hpe⟩ := account_spec th₂ t d hev
      refine ⟨(th₂.account t d).1, (th₂.account t d).2, rfl, hloop.symm ▸ hspec.safe,
        hhas.trans hboth.hasFd, hint ▸ hboth.intervals, ?_, ?_, expired, sent, hpe, ?_, ?_, ?_⟩
      · rw [hloop, hint]
        exact hboth.unheard
      · rw [hseen]
        exact hspec.seen
      · rw [htal, hseen, htick, hsum]
      · rw [htick]
        exact hsent
      · rw [htick]
        exact fun _ => hgo hon

end RtThread

end Pnio
