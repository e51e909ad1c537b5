import Pnio.EngineTick
import Pnio.RtRun

/-!
The three counts of the RT thread: the ticks of the grid, the cycle counter of the engine and the
frames and missed ticks of the statistics. Each is kept by itself, and each takes the first timer
read as one tick, however late it came.
-/

namespace Pnio

/-! ### What a tick does to the counters -/

namespace RtEngine

variable {ε : Type} {e e' e'' : RtEngine}

lemma SameTx.trans (h : SameTx e e') (h' : SameTx e' e'') : SameTx e e'' :=
  ⟨h'.layout.trans h.layout, h'.ourMac.trans h.ourMac, h'.cpuMac.trans h.cpuMac,
    h'.txCsdu.trans h.txCsdu, h'.cycleCounter.trans h.cycleCounter, h'.sent.trans h.sent,
    h'.missed.trans h.missed⟩

/-- The counters of an engine after a tick of `n` expirations. -/
structure Counts (e : RtEngine) (n : UInt32) (e' : RtEngine) : Prop where
  layout : e'.layout = e.layout
  cycleCounter : e'.cycleCounter = e.cycleCounter + e.layout.inputCr.cycleStep * n.toUInt16
  sent : e'.stats.tx = e.stats.tx + 1
  missed : e'.stats.missedTicks = e.stats.missedTicks + (n.toNat - 1)

lemma onTick_counts {problem : Bool} {n : UInt32} {inputs frame : Bytes}
    (h : (e.onTick problem n inputs : Res ε _) = .ok (e', frame)) : Counts e n e' := by
  obtain ⟨csdu, tx, rfl⟩ := onTick_cases h
  exact ⟨rfl, rfl, rfl, rfl⟩

end RtEngine

namespace RtLoop

variable {ε : Type} {l l' : RtLoop}

lemma settle_kept (l : RtLoop) (p : Pending) (r : IoImage × Bool) :
    l.engine.SameTx (l.settle p r).engine ∧ (l.settle p r).grid = l.grid := by
  unfold settle
  split_ifs <;> exact ⟨⟨rfl, rfl, rfl, rfl, rfl, rfl, rfl⟩, rfl⟩

lemma retry_kept (l : RtLoop) (free : Bool) :
    l.engine.SameTx (l.retry free).engine ∧ (l.retry free).grid = l.grid := by
  unfold retry
  split
  · rename_i p _
    cases p with
    | data v => exact settle_kept { l with pending := none } (.data v) _
    | validity v => exact settle_kept { l with pending := none } (.validity v) _
  · exact ⟨⟨rfl, rfl, rfl, rfl, rfl, rfl, rfl⟩, rfl⟩

lemma watch_kept (l : RtLoop) (now : Instant) (free : Bool) :
    l.engine.SameTx (l.watch now free).1.engine ∧ (l.watch now free).1.grid = l.grid := by
  have hc := l.engine.checkWatchdog_sameTx now
  unfold watch
  split
  · rename_i e he
    rw [he] at hc
    have hstale : e.SameTx e.markOutputsStale := ⟨rfl, rfl, rfl, rfl, rfl, rfl, rfl⟩
    obtain ⟨hs, hg⟩ := settle_kept { l with engine := e.markOutputsStale }
      (.validity _) (l.image.rtSetValidity free _)
    exact ⟨(hc.trans hstale).trans hs, hg⟩
  · rename_i e _ _ he
    rw [he] at hc
    exact ⟨hc, rfl⟩

lemma receive_kept {bytes : Bytes} {now : Instant} {free : Bool} {verdict : RxVerdict}
    (h : (l.receive bytes now free : Res ε _) = .ok (l', verdict)) :
    l.engine.SameTx l'.engine ∧ l'.grid = l.grid := by
  obtain ⟨⟨e, v⟩, he, h⟩ := Res.bind_eq_ok.1 h
  have hf := RtEngine.onFrame_sameTx he
  dsimp only at h
  split at h
  · cases h
    obtain ⟨hs, hg⟩ := settle_kept { l with engine := e, pending := none } _ _
    exact ⟨hf.trans hs, hg⟩
  · cases h
    exact ⟨hf, rfl⟩

/-- The expirations of a read as the engine is told them. -/
def engineExpirations (l : RtLoop) (expirations : Nat) : UInt32 :=
  if l.grid.ticks = 0 then 1 else UInt32.ofNat (min expirations (2 ^ 32 - 1))

lemma tick_counts {now : Instant} {n : Nat} {locks : TickLocks} {problem : Bool} {out : TickOut}
    (h : (l.tick now n locks problem : Res ε _) = .ok (l', out)) :
    l.engine.Counts (l.engineExpirations n) l'.engine ∧
      l'.grid = (l.grid.onRead now n).1 ∧ out.lateness = (l.grid.onRead now n).2 := by
  obtain ⟨⟨l2, frame⟩, hp, h⟩ := Res.bind_eq_ok.1 h
  cases h
  obtain ⟨⟨e, fr⟩, he, hp⟩ := Res.bind_eq_ok.1 hp
  cases hp
  have ht := RtEngine.onTick_counts he
  obtain ⟨hr, hrg⟩ := (l.onRead now n).retry_kept locks.retry
  obtain ⟨hw, hwg⟩ := ((l.onRead now n).retry locks.retry).watch_kept now locks.watchdog
  have hk := hr.trans hw
  refine ⟨⟨ht.layout.trans hk.layout, ?_, ?_, ?_⟩, hwg.trans hrg, rfl⟩
  · rw [ht.cycleCounter]
    simp only [hk.layout, hk.cycleCounter, engineExpirations, beq_iff_eq]
    rfl
  · rw [ht.sent]
    exact congrArg (· + 1) hk.sent
  · rw [ht.missed]
    simp only [hk.missed, engineExpirations, beq_iff_eq]
    rfl

end RtLoop

/-! ### Runs with their timer reads -/

/-- A timer read and the lateness recorded for it. -/
structure TimerRead where
  now : Instant
  expirations : Nat
  lateness : Nat
deriving DecidableEq, Repr

/-- A run of the loop and the reads of its timer so far. -/
structure TimedRun where
  run : RtRun
  reads : List TimerRead
deriving DecidableEq

/-- The read an input of the loop brings. -/
def RtInput.read (l : RtLoop) : RtInput → List TimerRead
  | .tick now expirations locks problem =>
    match (l.tick now expirations locks problem : Res Empty _) with
    | .ok (_, out) => [⟨now, expirations, out.lateness⟩]
    | _ => []
  | .frame _ _ _ => []

/-- The runs of one loop, with its reads. -/
def timedSystem (layout : Layout) (ourMac cpuMac : MacAddr) (stats : RtStats) (image : IoImage) :
    System TimedRun RtInput where
  init r := r.run.loop = .start layout ourMac cpuMac stats image ∧ r.reads = []
  step r i := (r.run.step i).map fun run => ⟨run, r.reads ++ i.read r.run.loop⟩

/-- A read reports at least one expiration, and fewer than `2 ^ 32`. -/
def RtInput.Counted : RtInput → Prop
  | .tick _ expirations _ _ => 1 ≤ expirations ∧ expirations < 2 ^ 32
  | .frame _ _ _ => True

instance : DecidablePred RtInput.Counted
  | .tick _ expirations _ _ => inferInstanceAs (Decidable (1 ≤ expirations ∧ expirations < 2 ^ 32))
  | .frame _ _ _ => inferInstanceAs (Decidable True)

/-- The ticks of these reads: the first is one, however many expirations it reports. -/
def ticksOf : List TimerRead → Nat
  | [] => 0
  | _ :: rest => 1 + (rest.map TimerRead.expirations).sum

lemma ticksOf_snoc {reads : List TimerRead} (h : reads ≠ []) (x : TimerRead) :
    ticksOf (reads ++ [x]) = ticksOf reads + x.expirations := by
  cases reads with
  | nil => exact absurd rfl h
  | cons first rest =>
    simp [ticksOf]
    omega

lemma ticksOf_eq_zero {reads : List TimerRead} : ticksOf reads = 0 ↔ reads = [] := by
  cases reads <;> simp [ticksOf]

/-- The lateness of the last read, where the instants fit in 64 bits. -/
def LastLateness (period : Nat) (reads : List TimerRead) : Prop :=
  ∀ first ∈ reads.head?, ∀ last ∈ reads.getLast?, last.now < 2 ^ 64 → ticksOf reads < 2 ^ 64 →
    first.now + period * (ticksOf reads - 1) < 2 ^ 64 →
    last.lateness = last.now - (first.now + period * (ticksOf reads - 1))

/-- How the counters of a run stand to its reads. -/
structure InCount (l : Layout) (stats : RtStats) (r : TimedRun) : Prop where
  layout : r.run.loop.engine.layout = l
  period : r.run.loop.grid.period = l.inputCr.period
  start : r.run.loop.grid.start = r.reads.head?.map TimerRead.now
  ticks : r.run.loop.grid.ticks = min (ticksOf r.reads) TickGrid.maxU64
  counter : r.run.loop.engine.cycleCounter.toNat =
    l.inputCr.cycleStep.toNat * ticksOf r.reads % 2 ^ 16
  frames : r.run.loop.engine.stats.tx + r.run.loop.engine.stats.missedTicks =
    stats.tx + stats.missedTicks + ticksOf r.reads
  lateness : LastLateness l.inputCr.period r.reads

namespace InCount

variable {l : Layout} {stats : RtStats} {r : TimedRun}

lemma start_loop (l : Layout) (ourMac cpuMac : MacAddr) (stats : RtStats) (image : IoImage)
    (now : Instant) : InCount l stats ⟨⟨.start l ourMac cpuMac stats image, now⟩, []⟩ :=
  ⟨rfl, rfl, rfl, rfl, (Nat.zero_mod _).symm, rfl, by rintro _ ⟨⟩⟩

/-- A frame received counts nothing. -/
lemma frame (h : InCount l stats r) {loop : RtLoop} {now : Instant}
    (he : r.run.loop.engine.SameTx loop.engine) (hg : loop.grid = r.run.loop.grid) :
    InCount l stats ⟨⟨loop, now⟩, r.reads⟩ where
  layout := he.layout.trans h.layout
  period := by rw [hg]; exact h.period
  start := by rw [hg]; exact h.start
  ticks := by rw [hg]; exact h.ticks
  counter := by rw [he.cycleCounter]; exact h.counter
  frames := by rw [he.sent, he.missed]; exact h.frames
  lateness := h.lateness

lemma ticks_eq_zero (h : InCount l stats r) : r.run.loop.grid.ticks = 0 ↔ r.reads = [] := by
  rw [h.ticks, ← ticksOf_eq_zero]
  unfold TickGrid.maxU64
  omega

/-- The engine is told the ticks by which the grid moves on. -/
lemma ticksOf_read (h : InCount l stats r) {x : TimerRead} (hx : x.expirations < 2 ^ 32) :
    ticksOf (r.reads ++ [x]) =
      ticksOf r.reads + (r.run.loop.engineExpirations x.expirations).toNat := by
  unfold RtLoop.engineExpirations
  by_cases h0 : r.reads = []
  · rw [if_pos (h.ticks_eq_zero.2 h0), h0]
    rfl
  · have hmin : min x.expirations (2 ^ 32 - 1) = x.expirations := by omega
    rw [if_neg (h.ticks_eq_zero.not.2 h0), ticksOf_snoc h0, hmin, UInt32.toNat_ofNat_of_lt' hx]

/-- The grid after a read. -/
lemma grid_read (h : InCount l stats r) (x : TimerRead) :
    (r.run.loop.grid.onRead x.now x.expirations).1 =
      { period := l.inputCr.period
        start := (r.reads ++ [x]).head?.map TimerRead.now
        ticks := min (ticksOf (r.reads ++ [x])) TickGrid.maxU64 } := by
  have hstart := h.start
  cases hr : r.reads with
  | nil =>
    rw [hr] at hstart
    simp only [TickGrid.onRead, hstart, List.head?_nil, Option.map_none, h.period]
    rfl
  | cons first rest =>
    rw [hr] at hstart
    simp only [TickGrid.onRead, hstart, List.head?_cons, Option.map_some, h.period]
    have ht : min (r.run.loop.grid.ticks + x.expirations) TickGrid.maxU64 =
        min (ticksOf (first :: rest ++ [x])) TickGrid.maxU64 := by
      rw [h.ticks, hr, ticksOf_snoc (List.cons_ne_nil _ _)]
      omega
    rw [ht]
    rfl

/-- The lateness a read records. -/
lemma lateness_read (h : InCount l stats r) {x : TimerRead}
    (hx : x.lateness = (r.run.loop.grid.onRead x.now x.expirations).2) :
    LastLateness l.inputCr.period (r.reads ++ [x]) := by
  intro first hfirst last hlast hnow hticks hideal
  obtain rfl : x = last := by simpa using hlast
  have hperiod : l.inputCr.period < 2 ^ 64 := by
    have := l.inputCr.cycleStep.toNat_lt
    unfold CrLayout.period cycleUnit
    omega
  have hstart := h.start
  cases hr : r.reads with
  | nil =>
    rw [hr] at hstart hfirst
    obtain rfl : x = first := by simpa using hfirst
    rw [hx, TickGrid.onRead, hstart]
    simp
  | cons f rest =>
    rw [hr] at hstart hfirst hticks hideal
    obtain rfl : f = first := by simpa using hfirst
    have hsnoc := ticksOf_snoc (List.cons_ne_nil f rest) x
    have ht : min (r.run.loop.grid.ticks + x.expirations) TickGrid.maxU64 =
        ticksOf (f :: rest ++ [x]) := by
      rw [h.ticks, hr]
      unfold TickGrid.maxU64
      omega
    have hoff : min (l.inputCr.period % 2 ^ 64 * (ticksOf (f :: rest ++ [x]) - 1))
        TickGrid.maxU64 = l.inputCr.period * (ticksOf (f :: rest ++ [x]) - 1) := by
      rw [Nat.mod_eq_of_lt hperiod]
      exact min_eq_left (Nat.le_pred_of_lt ((Nat.le_add_left _ _).trans_lt hideal))
    have hadd : Instant.checkedAdd f.now (l.inputCr.period * (ticksOf (f :: rest ++ [x]) - 1)) =
        some (f.now + l.inputCr.period * (ticksOf (f :: rest ++ [x]) - 1)) :=
      if_pos (hideal.trans (by decide))
    rw [hx, TickGrid.onRead, hstart]
    simp only [List.head?_cons, Option.map_some, h.period, ht, hoff, hadd]
    exact Nat.mod_eq_of_lt ((Nat.sub_le _ _).trans_lt hnow)

/-- A timer read. -/
lemma tick (h : InCount l stats r) {x : TimerRead} {loop : RtLoop} (hpos : 1 ≤ x.expirations)
    (hlt : x.expirations < 2 ^ 32)
    (hc : r.run.loop.engine.Counts (r.run.loop.engineExpirations x.expirations) loop.engine)
    (hg : loop.grid = (r.run.loop.grid.onRead x.now x.expirations).1)
    (hx : x.lateness = (r.run.loop.grid.onRead x.now x.expirations).2) :
    InCount l stats ⟨⟨loop, x.now⟩, r.reads ++ [x]⟩ := by
  have hgrid := hg.trans (h.grid_read x)
  have hticks := h.ticksOf_read hlt
  refine ⟨hc.layout.trans h.layout, ?_, ?_, ?_, ?_, ?_, h.lateness_read hx⟩
  · rw [hgrid]
  · rw [hgrid]
  · rw [hgrid]
  · rw [hc.cycleCounter, h.layout, hticks]
    exact counter_step h.counter
  · have hframes := h.frames
    have hone : 1 ≤ (r.run.loop.engineExpirations x.expirations).toNat := by
      unfold RtLoop.engineExpirations
      split_ifs
      · exact le_refl 1
      · have hmin : min x.expirations (2 ^ 32 - 1) = x.expirations := by omega
        rwa [hmin, UInt32.toNat_ofNat_of_lt' hlt]
    rw [hc.sent, hc.missed, hticks]
    omega

lemma step {ourMac cpuMac : MacAddr} {image : IoImage} {i : RtInput} {r' : TimedRun}
    (h : InCount l stats r) (hi : i.Counted)
    (hs : (timedSystem l ourMac cpuMac stats image).step r i = some r') : InCount l stats r' := by
  obtain ⟨run, hrun, rfl⟩ := Option.map_eq_some_iff.1 hs
  obtain ⟨loop, clock⟩ := run
  rcases RtRun.step_eq_some hrun with ⟨now, n, locks, problem, out, rfl, -, rfl, ht⟩ |
    ⟨bytes, now, free, verdict, rfl, -, rfl, hf⟩
  · obtain ⟨hc, hg, hl⟩ := RtLoop.tick_counts ht
    simp only [RtInput.read, ht]
    exact h.tick (x := ⟨clock, n, out.lateness⟩) hi.1 hi.2 hc hg hl
  · obtain ⟨he, hg⟩ := RtLoop.receive_kept hf
    rw [RtInput.read, List.append_nil]
    exact h.frame he hg

end InCount

section Reach

variable {l : Layout} {ourMac cpuMac : MacAddr} {stats : RtStats} {image : IoImage} {r : TimedRun}

lemma inCount_reach
    (hr : (timedSystem l ourMac cpuMac stats image).ReachWhen (fun _ i => i.Counted) r) :
    InCount l stats r := by
  refine hr.inv ?_ fun _ _ _ h hi hs => h.step hi hs
  rintro ⟨⟨loop, now⟩, reads⟩ ⟨h, h'⟩
  cases h
  cases h'
  exact InCount.start_loop l ourMac cpuMac stats image now

/-- **The counts agree**: while the ticks fit in 64 bits, the cycle counter and the statistics
follow the grid from the start of the loop on; and the last read was as late as it came after its
place on the grid. -/
theorem counts_agree
    (hr : (timedSystem l ourMac cpuMac stats image).ReachWhen (fun _ i => i.Counted) r)
    (hticks : ticksOf r.reads < 2 ^ 64) :
    r.run.loop.engine.cycleCounter.toNat =
        l.inputCr.cycleStep.toNat * r.run.loop.grid.ticks % 2 ^ 16 ∧
      r.run.loop.engine.stats.tx + r.run.loop.engine.stats.missedTicks =
        stats.tx + stats.missedTicks + r.run.loop.grid.ticks ∧
      ∀ first ∈ r.reads.head?, ∀ last ∈ r.reads.getLast?, last.now < 2 ^ 64 →
        first.now + l.inputCr.period * (r.run.loop.grid.ticks - 1) < 2 ^ 64 →
        last.lateness =
          last.now - (first.now + l.inputCr.period * (r.run.loop.grid.ticks - 1)) := by
  have h := inCount_reach hr
  have hgrid : r.run.loop.grid.ticks = ticksOf r.reads := by
    rw [h.ticks]
    exact min_eq_left (Nat.le_pred_of_lt hticks)
  rw [hgrid]
  exact ⟨h.counter, h.frames, fun first hf last hl hnow hideal =>
    h.lateness first hf last hl hnow hticks hideal⟩

end Reach

/-- The first read reports the time of the setup, the second is on time, and the third comes half
a cycle late and stands for three cycles, with outputs received in between. -/
def RtDemo.lateReads : List RtInput :=
  [.tick 1000 5 ⟨true, true, true⟩ false, .tick 1001000 1 ⟨true, true, true⟩ false,
    .frame RtDemo.outputs 1001005 true, .tick 4501000 3 ⟨true, true, true⟩ false]

open RtDemo in
theorem counts_agree_late :
    ∃ r, (timedSystem RtDemo.layout ourMac cpuMac {} .empty).ReachWhen (fun _ i => i.Counted) r ∧
      r.run.loop.grid.ticks = 5 ∧ r.run.loop.engine.cycleCounter.toNat = 32 * 5 ∧
      r.run.loop.engine.stats.tx + r.run.loop.engine.stats.missedTicks = 5 ∧
      (r.reads.map TimerRead.lateness).getLast? = some 500000 := by
  let start : TimedRun := ⟨RtDemo.start, []⟩
  have hrun : ((timedSystem RtDemo.layout ourMac cpuMac {} .empty).runWhen
      (fun _ i => i.Counted) start lateReads).any (fun r =>
        decide (r.run.loop.grid.ticks = 5 ∧ ticksOf r.reads = 5 ∧
          r.reads.map TimerRead.now = [1000, 1001000, 4501000])) = true := by
    decide +kernel
  have hstart : (timedSystem RtDemo.layout ourMac cpuMac {} .empty).init start := ⟨rfl, rfl⟩
  obtain ⟨r, hr, hs⟩ := System.exists_reachWhen_of_run hstart hrun
  obtain ⟨hgrid, hticks, hnow⟩ := of_decide_eq_true hs
  obtain ⟨hcounter, hframes, hlate⟩ := counts_agree hr (by rw [hticks]; decide)
  rw [hgrid] at hcounter hframes hlate
  refine ⟨r, hr, hgrid, hcounter, hframes, ?_⟩
  obtain ⟨first, second, last, hreads⟩ := List.length_eq_three.1
    ((List.length_map TimerRead.now).symm.trans (congrArg List.length hnow))
  rw [hreads] at hnow hlate ⊢
  simp only [List.map_cons, List.map_nil, List.cons.injEq, and_true] at hnow
  obtain ⟨hfirst, -, hlast⟩ := hnow
  have h := hlate first rfl last rfl
  rw [hfirst, hlast] at h
  exact congrArg some (h (by decide) (by decide))

end Pnio
