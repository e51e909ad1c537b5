import Pnio.Lib.Runs
import Pnio.RtData

/-!
Runs of an engine: any calls in any order, each with what it returned. The consumer watchdog is
read off such a run: the last frame that was accepted and the checks made since then decide what
the next check says.
-/

namespace Pnio

inductive EngineCall where
  | tick (problem : Bool) (expirations : UInt32) (inputs : Bytes)
  | frame (bytes : Bytes) (now : Instant)
  | check (now : Instant)
  | stale
deriving DecidableEq

inductive EngineReply where
  | produced (frame : Bytes)
  | received (verdict : RxVerdict)
  | checked (verdict : WatchdogVerdict)
  | done
deriving DecidableEq

namespace RtEngine

def call {ε : Type} (e : RtEngine) : EngineCall → Res ε (RtEngine × EngineReply)
  | .tick problem expirations inputs => do
    let (e, frame) ← e.onTick problem expirations inputs
    .ok (e, .produced frame)
  | .frame bytes now => do
    let (e, verdict) ← e.onFrame bytes now
    .ok (e, .received verdict)
  | .check now => .ok ((e.checkWatchdog now).1, .checked (e.checkWatchdog now).2)
  | .stale => .ok (e.markOutputsStale, .done)

end RtEngine

structure EngineTurn where
  call : EngineCall
  reply : EngineReply
deriving DecidableEq

/-- An engine and its turns so far. -/
structure EngineRun where
  engine : RtEngine
  log : List EngineTurn
deriving DecidableEq

/-- All calls on a new engine; a call that panics has no successor. -/
def engineSystem (l : Layout) (ourMac cpuMac : MacAddr) (stats : RtStats) :
    System EngineRun EngineCall where
  init r := r = ⟨.new l ourMac cpuMac stats, []⟩
  step r c :=
    match (r.engine.call c : Res Empty _) with
    | .ok (e, reply) => some ⟨e, r.log ++ [⟨c, reply⟩]⟩
    | _ => none

lemma engine_step {l : Layout} {ourMac cpuMac : MacAddr} {stats : RtStats} {r r' : EngineRun}
    {c : EngineCall} (h : (engineSystem l ourMac cpuMac stats).step r c = some r') :
    ∃ e reply, (r.engine.call c : Res Empty _) = .ok (e, reply) ∧
      r' = ⟨e, r.log ++ [⟨c, reply⟩]⟩ := by
  unfold engineSystem at h
  dsimp only at h
  split at h
  · rename_i e reply hc
    cases h
    exact ⟨e, reply, hc, rfl⟩
  · cases h

/-! ### The watchdog in the log -/

namespace EngineTurn

/-- When the turn accepted a frame. -/
def accepted : EngineTurn → Option Instant
  | ⟨.frame _ now, .received (.accepted _ _ _)⟩ => some now
  | _ => none

/-- The turn is a check that came later than `watchdog` after `t`. -/
def overdue (watchdog : Nat) (t : Instant) (turn : EngineTurn) : Bool :=
  match turn.call with
  | .check now => watchdog < now - t
  | _ => false

def isExpired (turn : EngineTurn) : Bool := turn.reply = .checked .expired

end EngineTurn

def EngineCall.time : EngineCall → Option Instant
  | .frame _ now | .check now => some now
  | _ => none

/-- When the last frame was accepted. -/
def lastAccepted (log : List EngineTurn) : Option Instant :=
  log.foldl (fun acc turn => turn.accepted.or acc) none

/-- The turns since then. -/
def sinceAccepted (log : List EngineTurn) : List EngineTurn :=
  log.foldl (fun acc turn => if turn.accepted.isSome then [] else acc ++ [turn]) []

lemma lastAccepted_snoc (log : List EngineTurn) (turn : EngineTurn) :
    lastAccepted (log ++ [turn]) = turn.accepted.or (lastAccepted log) := by
  simp [lastAccepted, List.foldl_append]

lemma sinceAccepted_snoc (log : List EngineTurn) (turn : EngineTurn) :
    sinceAccepted (log ++ [turn]) =
      if turn.accepted.isSome then [] else sinceAccepted log ++ [turn] := by
  simp [sinceAccepted, List.foldl_append]

/-- What a check at `now` says after these turns. -/
def verdictAfter (watchdog : Nat) (log : List EngineTurn) (now : Instant) : WatchdogVerdict :=
  match lastAccepted log with
  | none => .notArmed
  | some t =>
    if now - t ≤ watchdog then .ok
    else if (sinceAccepted log).any (EngineTurn.overdue watchdog t) then .stopped
    else .expired

/-- A check says what the turns before it say, and nothing else is a check. -/
def EngineTurn.Fits (watchdog : Nat) (log : List EngineTurn) (turn : EngineTurn) : Prop :=
  match turn.call with
  | .check now => turn.reply = .checked (verdictAfter watchdog log now)
  | _ => ∀ v, turn.reply ≠ .checked v

/-- The calls come at non-decreasing instants. -/
def InOrder (r : EngineRun) (c : EngineCall) : Prop :=
  ∀ now ∈ c.time, ∀ turn ∈ r.log, ∀ t ∈ turn.call.time, t ≤ now

instance (r : EngineRun) (c : EngineCall) : Decidable (InOrder r c) :=
  inferInstanceAs (Decidable (∀ now ∈ c.time, ∀ turn ∈ r.log, ∀ t ∈ turn.call.time, t ≤ now))

lemma mem_of_sinceAccepted {log : List EngineTurn} {turn : EngineTurn}
    (h : turn ∈ sinceAccepted log) : turn ∈ log := by
  induction log using List.reverseRecOn with
  | nil => cases h
  | append_singleton log last ih =>
    rw [sinceAccepted_snoc] at h
    split_ifs at h
    · cases h
    · rcases List.mem_append.1 h with h | h
      · exact List.mem_append_left _ (ih h)
      · exact List.mem_append_right _ h

/-! ### One call -/

namespace RtEngine

variable {ε : Type} {e e' : RtEngine}

/-- What a call can do to the watchdog. -/
inductive Turned (e : RtEngine) : EngineCall → RtEngine → EngineReply → Prop
  | quiet {c : EngineCall} {e' : RtEngine} {reply : EngineReply} (hrx : SameRx e e')
      (hn : e'.stats.watchdogExpirations = e.stats.watchdogExpirations)
      (ha : EngineTurn.accepted ⟨c, reply⟩ = none) (hc : ∀ now, c ≠ .check now)
      (hr : ∀ v, reply ≠ .checked v) : Turned e c e' reply
  | accepted {bytes : Bytes} {now : Instant} {e' : RtEngine} {p q d : Bool}
      (hl : e'.layout = e.layout) (ht : e'.lastRx = some now) (hw : e'.watchdogState = .ok)
      (hn : e'.stats.watchdogExpirations = e.stats.watchdogExpirations) :
      Turned e (.frame bytes now) e' (.received (.accepted p q d))
  | checked (now : Instant) :
      Turned e (.check now) (e.checkWatchdog now).1 (.checked (e.checkWatchdog now).2)

lemma onTick_expirations {problem : Bool} {n : UInt32} {inputs frame : Bytes}
    (h : (e.onTick problem n inputs : Res ε _) = .ok (e', frame)) :
    e'.stats.watchdogExpirations = e.stats.watchdogExpirations := by
  obtain ⟨csdu, tx, rfl⟩ := onTick_cases h
  rfl

lemma onFrame_expirations {frame : Bytes} {now : Instant} {verdict : RxVerdict}
    (h : (e.onFrame frame now : Res ε _) = .ok (e', verdict)) :
    e'.stats.watchdogExpirations = e.stats.watchdogExpirations := by
  cases onFrame_step h with
  | dropped => rfl
  | ignored => rfl
  | valid => rfl
  | invalid => rfl

/-- Only an expiry is counted. -/
lemma checkWatchdog_expirations (e : RtEngine) (now : Instant) :
    (e.checkWatchdog now).1.stats.watchdogExpirations =
      e.stats.watchdogExpirations + if (e.checkWatchdog now).2 = .expired then 1 else 0 := by
  cases ht : e.lastRx with
  | none => simp [checkWatchdog, ht]
  | some t =>
    by_cases hw : now - t ≤ e.layout.outputCr.watchdog
    · simp [checkWatchdog, ht, hw]
    · cases hs : e.watchdogState <;> simp [checkWatchdog, ht, hw, hs]

lemma call_turned {c : EngineCall} {reply : EngineReply}
    (h : (e.call c : Res ε _) = .ok (e', reply)) : Turned e c e' reply := by
  cases c with
  | tick problem n inputs =>
    obtain ⟨⟨e1, frame⟩, ht, h⟩ := Res.bind_eq_ok.1 h
    cases h
    exact .quiet (onTick_sameRx ht) (onTick_expirations ht) rfl nofun nofun
  | frame bytes now =>
    obtain ⟨⟨e1, verdict⟩, hf, h⟩ := Res.bind_eq_ok.1 h
    cases h
    have hn := onFrame_expirations hf
    cases onFrame_spec hf with
    | unused hrx hv =>
      refine .quiet hrx hn ?_ nofun nofun
      cases verdict with
      | accepted p q d => exact absurd rfl (hv p q d)
      | ignored => rfl
      | dropped why => rfl
    | accepted hl _ ht hw => exact .accepted hl ht hw hn
  | check now =>
    cases h
    exact .checked now
  | stale =>
    cases h
    exact .quiet ⟨rfl, rfl, rfl, rfl⟩ rfl rfl nofun nofun

end RtEngine

/-! ### Whole runs -/

/-- How the engine of a run stands to its log. -/
structure Watched (watchdog expirations : Nat) (r : EngineRun) : Prop where
  limit : r.engine.layout.outputCr.watchdog = watchdog
  lastRx : r.engine.lastRx = lastAccepted r.log
  /-- The latch is set exactly if a check since the last frame came too late. -/
  latch : r.engine.watchdogState = .expired ↔
    ∃ t, lastAccepted r.log = some t ∧ (sinceAccepted r.log).any (EngineTurn.overdue watchdog t)
  checks : Along (EngineTurn.Fits watchdog) r.log
  count : r.engine.stats.watchdogExpirations = expirations + r.log.countP EngineTurn.isExpired

namespace Watched

variable {watchdog expirations : Nat} {r : EngineRun}

/-- The next check says what the log says. -/
lemma verdict (h : Watched watchdog expirations r) (now : Instant) :
    (r.engine.checkWatchdog now).2 = verdictAfter watchdog r.log now := by
  unfold RtEngine.checkWatchdog verdictAfter
  rw [h.limit, h.lastRx]
  cases ht : lastAccepted r.log with
  | none => rfl
  | some t =>
    dsimp only
    by_cases hok : now - t ≤ watchdog
    · rw [if_pos hok, if_pos hok]
    · rw [if_neg hok, if_neg hok]
      have hlatch := h.latch
      rw [ht] at hlatch
      by_cases hany : (sinceAccepted r.log).any (EngineTurn.overdue watchdog t) = true
      · rw [if_pos hany, hlatch.2 ⟨t, rfl, hany⟩]
      · rw [if_neg hany]
        have hne : r.engine.watchdogState ≠ .expired := by
          intro hs
          obtain ⟨t', ht', hany'⟩ := hlatch.1 hs
          cases ht'
          exact hany hany'
        split
        · rename_i hs
          exact absurd hs hne
        · rfl

/-- A turn that neither accepts a frame nor checks. -/
lemma quiet (h : Watched watchdog expirations r) {e : RtEngine} {turn : EngineTurn}
    (hrx : r.engine.SameRx e)
    (hn : e.stats.watchdogExpirations = r.engine.stats.watchdogExpirations)
    (ha : turn.accepted = none) (hc : ∀ now, turn.call ≠ .check now)
    (hr : ∀ v, turn.reply ≠ .checked v) : Watched watchdog expirations ⟨e, r.log ++ [turn]⟩ := by
  have hover : ∀ t, turn.overdue watchdog t = false := by
    intro t
    unfold EngineTurn.overdue
    split
    · rename_i now hcall
      exact absurd hcall (hc now)
    · rfl
  refine ⟨?_, ?_, ?_, ?_, ?_⟩
  · rw [hrx.layout, h.limit]
  · rw [hrx.lastRx, h.lastRx, lastAccepted_snoc, ha, Option.none_or]
  · rw [hrx.watchdogState, h.latch, lastAccepted_snoc, ha, Option.none_or, sinceAccepted_snoc, ha]
    simp [hover]
  · refine h.checks.snoc ?_
    unfold EngineTurn.Fits
    split
    · rename_i now hcall
      exact absurd hcall (hc now)
    · exact hr
  · have hexp : turn.isExpired = false := by simp [EngineTurn.isExpired, hr]
    rw [hn, h.count, List.countP_append, List.countP_singleton, hexp]
    simp

/-- A frame is accepted: the latch is released. -/
lemma accepted (h : Watched watchdog expirations r) {e : RtEngine} {bytes : Bytes} {now : Instant}
    {p q d : Bool} (hl : e.layout = r.engine.layout) (ht : e.lastRx = some now)
    (hw : e.watchdogState = .ok)
    (hn : e.stats.watchdogExpirations = r.engine.stats.watchdogExpirations) :
    Watched watchdog expirations
      ⟨e, r.log ++ [⟨.frame bytes now, .received (.accepted p q d)⟩]⟩ := by
  refine ⟨?_, ?_, ?_, ?_, ?_⟩
  · rw [hl, h.limit]
  · rw [ht, lastAccepted_snoc]
    rfl
  · rw [hw, sinceAccepted_snoc]
    simp [EngineTurn.accepted]
  · refine h.checks.snoc ?_
    intro v hv
    cases hv
  · rw [hn, h.count, List.countP_append, List.countP_singleton]
    rfl

/-- A check: in time it finds the latch open, for all earlier checks were in time too. -/
lemma checked (h : Watched watchdog expirations r) {now : Instant}
    (hord : InOrder r (.check now)) :
    Watched watchdog expirations ⟨(r.engine.checkWatchdog now).1,
      r.log ++ [⟨.check now, .checked (r.engine.checkWatchdog now).2⟩]⟩ := by
  have hv := h.verdict now
  have hfits : EngineTurn.Fits watchdog r.log
      ⟨.check now, .checked (r.engine.checkWatchdog now).2⟩ := congrArg EngineReply.checked hv
  have hchecks := h.checks.snoc hfits
  have hlast : ∀ v, lastAccepted (r.log ++ [⟨.check now, .checked v⟩]) = lastAccepted r.log := by
    intro v
    rw [lastAccepted_snoc]
    rfl
  have hsince : ∀ v, sinceAccepted (r.log ++ [⟨.check now, .checked v⟩]) =
      sinceAccepted r.log ++ [⟨.check now, .checked v⟩] := by
    intro v
    rw [sinceAccepted_snoc]
    rfl
  have hcount := r.engine.checkWatchdog_expirations now
  have hspec := r.engine.checkWatchdog_spec now
  generalize (r.engine.checkWatchdog now).1 = e' at hspec hcount ⊢
  generalize (r.engine.checkWatchdog now).2 = v at hspec hchecks hcount ⊢
  have hcount : e'.stats.watchdogExpirations =
      expirations + List.countP EngineTurn.isExpired (r.log ++ [⟨.check now, .checked v⟩]) := by
    rw [hcount, h.count, List.countP_append, List.countP_singleton]
    simp [EngineTurn.isExpired, Nat.add_assoc]
  cases hspec with
  | notArmed ht =>
    refine ⟨h.limit, by rw [hlast, h.lastRx], ?_, hchecks, hcount⟩
    have hnone : lastAccepted r.log = none := h.lastRx ▸ ht
    rw [hlast, h.latch, hnone]
    simp
  | @ok t ht hw =>
    refine ⟨h.limit, by rw [hlast]; exact h.lastRx, ?_, hchecks, hcount⟩
    have hsome : lastAccepted r.log = some t := h.lastRx ▸ ht
    rw [hlast, hsince, hsome]
    refine iff_of_false nofun ?_
    rintro ⟨t', ht', hany⟩
    cases ht'
    rw [h.limit] at hw
    -- a check that came too late was made before now
    obtain ⟨turn, hturn, hover⟩ := List.any_eq_true.1 hany
    unfold EngineTurn.overdue at hover
    split at hover
    · rename_i now' hcall
      rw [decide_eq_true_eq] at hover
      rcases List.mem_append.1 hturn with hturn | hturn
      · have hle := hord now rfl turn (mem_of_sinceAccepted hturn) now' (by rw [hcall]; rfl)
        exact absurd (hover.trans_le (Nat.sub_le_sub_right hle t)) (not_lt.2 hw)
      · rw [List.mem_singleton.1 hturn] at hcall
        cases hcall
        exact absurd hover (not_lt.2 hw)
    · cases hover
  | @stopped t ht hw hs =>
    refine ⟨h.limit, by rw [hlast]; exact h.lastRx, ?_, hchecks, hcount⟩
    obtain ⟨t', ht', hany⟩ := h.latch.1 hs
    rw [hlast, hsince]
    refine iff_of_true hs ⟨t', ht', ?_⟩
    rw [List.any_append, hany, Bool.true_or]
  | @expired t _ ht hw hs hl _ hr he =>
    refine ⟨by rw [hl, h.limit], by rw [hlast, hr, h.lastRx], ?_, hchecks, hcount⟩
    have hsome : lastAccepted r.log = some t := h.lastRx ▸ ht
    rw [hlast, hsince]
    refine iff_of_true he ⟨t, hsome, ?_⟩
    rw [h.limit] at hw
    simp [EngineTurn.overdue, hw]

/-- One step of a run. -/
lemma step (h : Watched watchdog expirations r) {c : EngineCall} {e : RtEngine}
    {reply : EngineReply} (hord : InOrder r c) (ht : r.engine.Turned c e reply) :
    Watched watchdog expirations ⟨e, r.log ++ [⟨c, reply⟩]⟩ := by
  cases ht with
  | quiet hrx hn ha hc hr => exact h.quiet hrx hn ha hc hr
  | accepted hl ht hw hn => exact h.accepted hl ht hw hn
  | checked now => exact h.checked hord

end Watched

section Reach

variable {l : Layout} {ourMac cpuMac : MacAddr} {stats : RtStats} {r : EngineRun}

lemma watched_reach (h : (engineSystem l ourMac cpuMac stats).ReachWhen InOrder r) :
    Watched l.outputCr.watchdog stats.watchdogExpirations r := by
  refine h.inv ?_ ?_
  · rintro r rfl
    exact ⟨rfl, rfl, iff_of_false nofun (by simp [lastAccepted]), along_nil, rfl⟩
  · intro r c r' hw hord hs
    obtain ⟨e, reply, hc, rfl⟩ := engine_step hs
    exact hw.step hord (RtEngine.call_turned hc)

end Reach

/-- Without a frame in between, the turns since the last one only grow. -/
lemma sinceAccepted_append {a b : List EngineTurn} (h : ∀ turn ∈ b, turn.accepted = none) :
    lastAccepted (a ++ b) = lastAccepted a ∧ sinceAccepted (a ++ b) = sinceAccepted a ++ b := by
  induction b using List.reverseRecOn with
  | nil => simp
  | append_singleton b turn ih =>
    have hturn := h turn (by simp)
    obtain ⟨h1, h2⟩ := ih fun x hx => h x (by simp [hx])
    rw [← List.append_assoc, lastAccepted_snoc, sinceAccepted_snoc, h1, h2, hturn]
    simp

/-- An expiry is a check that came too late after a frame, as the first since then. -/
lemma EngineTurn.Fits.of_isExpired {watchdog : Nat} {log : List EngineTurn} {turn : EngineTurn}
    (h : turn.Fits watchdog log) (he : turn.isExpired) :
    ∃ t, lastAccepted log = some t ∧ turn.overdue watchdog t ∧ turn.accepted = none ∧
      ¬ (sinceAccepted log).any (EngineTurn.overdue watchdog t) := by
  obtain ⟨c, reply⟩ := turn
  obtain rfl : reply = .checked .expired := by simpa [EngineTurn.isExpired] using he
  cases c with
  | tick | frame | stale => exact absurd rfl (h .expired)
  | check now =>
    have hv : verdictAfter watchdog log now = .expired := (EngineReply.checked.inj h).symm
    unfold verdictAfter at hv
    split at hv
    · cases hv
    · rename_i t ht
      split_ifs at hv with hok hany
      exact ⟨t, ht, decide_eq_true (not_le.1 hok), rfl, hany⟩

/-- **The watchdog follows the frames.** After any calls at non-decreasing instants:

* a check says what the log says: not armed if no frame was accepted, in time if the last one is
  not longer ago than the watchdog, and else expired the first time since that frame and stopped
  later;
* every check of the run did;
* between two expiries a frame was accepted;
* the counter grew by one with every expiry. -/
theorem watchdog_follows_frames {l : Layout} {ourMac cpuMac : MacAddr} {stats : RtStats}
    {r : EngineRun} (hr : (engineSystem l ourMac cpuMac stats).ReachWhen InOrder r) :
    (∀ now, (r.engine.checkWatchdog now).2 = verdictAfter l.outputCr.watchdog r.log now) ∧
    Along (EngineTurn.Fits l.outputCr.watchdog) r.log ∧
    (∀ a x b y c, r.log = a ++ x :: (b ++ y :: c) → x.isExpired → y.isExpired →
      ∃ turn ∈ b, turn.accepted.isSome) ∧
    r.engine.stats.watchdogExpirations =
      stats.watchdogExpirations + r.log.countP EngineTurn.isExpired := by
  have h := watched_reach hr
  refine ⟨h.verdict, h.checks, fun a x b y c hlog hx hy => ?_, h.count⟩
  by_contra hnone
  have hb : ∀ turn ∈ b, turn.accepted = none := by
    intro turn hturn
    by_contra hne
    exact hnone ⟨turn, hturn, Option.isSome_iff_ne_none.2 hne⟩
  obtain ⟨t, ht, hover, hxa, -⟩ := (h.checks a x _ hlog).of_isExpired hx
  have hxb : ∀ turn ∈ x :: b, turn.accepted = none := by
    rw [List.forall_mem_cons]
    exact ⟨hxa, hb⟩
  -- the first expiry is among the turns the second one looks back at
  have hy' := h.checks (a ++ x :: b) y c (by rw [hlog, List.append_assoc, List.cons_append])
  obtain ⟨t', ht', -, -, hfirst⟩ := hy'.of_isExpired hy
  obtain ⟨hl, hs⟩ := sinceAccepted_append (a := a) hxb
  rw [hl, ht] at ht'
  cases ht'
  rw [hs, List.any_append, List.any_cons, hover] at hfirst
  simp at hfirst

namespace EngineDemo

def ourMac : MacAddr := MacAddr.of 2 0 0 0 0 1
def cpuMac : MacAddr := MacAddr.of 2 0 0 0 0 2

/-- Two bytes of outputs and a watchdog of ten nanoseconds. -/
def layout : Layout :=
  { inputCr := ⟨0x8000, 0, 32, 10, [], []⟩, outputCr := ⟨0x8001, 2, 32, 10, [], []⟩, cells := [] }

/-- A frame of the controller. -/
def outputs : Bytes :=
  RtFrame.bytes ⟨0x8001, [7, 8], 1, .runPrimaryValidOk, 0⟩ ourMac cpuMac

/-- A frame, a check in time, two that come too late, and the next frame. -/
def calls : List EngineCall :=
  [.frame outputs 1, .check 11, .check 12, .check 13, .frame outputs 20, .check 100]

/-- The replies to all checks. -/
def verdicts (r : EngineRun) : List EngineReply :=
  (r.log.filter fun turn => turn.accepted.isNone).map (·.reply)

def ended (r : EngineRun) : Bool :=
  verdicts r = [.checked .ok, .checked .expired, .checked .stopped, .checked .expired]

end EngineDemo

open EngineDemo in
/-- Two gaps, two expiries. -/
theorem watchdog_follows_frames_two_gaps :
    ∃ r, (engineSystem EngineDemo.layout ourMac cpuMac {}).ReachWhen InOrder r ∧
      verdicts r = [.checked .ok, .checked .expired, .checked .stopped, .checked .expired] ∧
      (r.engine.checkWatchdog 101).2 = verdictAfter 10 r.log 101 := by
  have hrun : ((engineSystem EngineDemo.layout ourMac cpuMac {}).runWhen InOrder
      ⟨.new EngineDemo.layout ourMac cpuMac {}, []⟩ calls).any ended = true := by
    decide +kernel
  obtain ⟨r, hr, hw⟩ := System.exists_reachWhen_of_run
    (S := engineSystem EngineDemo.layout ourMac cpuMac {}) rfl hrun
  exact ⟨r, hr, of_decide_eq_true hw, (watchdog_follows_frames hr).1 101⟩

end Pnio
