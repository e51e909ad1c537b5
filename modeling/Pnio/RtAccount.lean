import Pnio.RtEvents

/-!
The counters of the RT thread over its whole life: what they show is what the thread has done.
-/

namespace Pnio

/-- The counter a frame is counted under; none stands for an oversized one. -/
def frameCounter : Option RxVerdict → RtCounter
  | some v => v.counter
  | none => .invalid

def frameAccepted : Option RxVerdict → Bool
  | some v => v.isAccepted
  | none => false

lemma frameTally_eq (v : Option RxVerdict) (c : RtCounter) :
    frameTally v c = (if frameCounter v = c then 1 else 0) +
      if c = .heard ∧ frameAccepted v then 1 else 0 := by
  cases v with
  | none => cases c <;> rfl
  | some v =>
    cases v with
    | accepted p q d => cases d <;> cases c <;> rfl
    | ignored => cases c <;> rfl
    | dropped why => cases c <;> rfl

lemma framesTally_eq (seen : List (Option RxVerdict)) (c : RtCounter) :
    framesTally seen c = seen.countP (fun v => frameCounter v = c) +
      if c = .heard then seen.countP frameAccepted else 0 := by
  induction seen with
  | nil => simp [framesTally]
  | cons v seen ih =>
    have hcons : framesTally (v :: seen) c = frameTally v c + framesTally seen c := by
      simp [framesTally]
    rw [hcons, ih, frameTally_eq, List.countP_cons, List.countP_cons]
    by_cases hc : c = .heard
    · cases frameAccepted v <;> simp [hc] <;> omega
    · simp [hc]
      omega

namespace RtWorld

variable {lay : Layout} {th : RtThread} {w w' : RtWorld} {act : RtAct} {expired sent : Nat}

/-- What the counters of the thread have to show, with what they began with left out. -/
def total (w : RtWorld) (expired sent : Nat) : RtCounter → Nat
  | .expirations => expired
  | .tx | .lateness => w.ticks
  | .work => sent
  | c => framesTally w.seen c

structure Accounts (th : RtThread) (w : RtWorld) (expired sent : Nat) : Prop where
  tally : w.thread.tally = th.tally + w.total expired sent
  sent_le : sent ≤ w.ticks
  le_sent : w.ticks ≤ sent + 1
  looping : w.phase.ends = false → sent = w.ticks
  seen_le : w.seen.length ≤ maxRxPerPass * w.passes
  intervals : th.rxInterval.count ≤ w.thread.rxInterval.count
  unheard : w.thread.loop.engine.lastRx = none → w.thread.rxInterval = th.rxInterval

/-- Only a pass works anything off. -/
lemma Did.idle (h : Did w act w') :
    ((∃ im, w'.thread = w.thread.onImage im) ∧ w'.ticks = w.ticks ∧ w'.seen = w.seen ∧
      w'.passes = w.passes ∧ (w'.phase.ends = false → w.phase.ends = false)) ∨
    ∃ r p, w.phase = .working r ∧ w' = w.worked (w.thread.pass r p) := by
  cases h with
  | @pass r p _ hp => exact .inr ⟨r, p, hp, rfl⟩
  | setup _ hp _ | top _ hp _ | poll _ hp | drain _ hp =>
    exact .inl ⟨⟨w.thread.loop.image, rfl⟩, rfl, rfl, rfl, fun _ => by rw [hp]; rfl⟩
  | armFailed | stop | pollFailed | exit | leave =>
    exact .inl ⟨⟨w.thread.loop.image, rfl⟩, rfl, rfl, rfl, fun h => by cases h⟩
  | image im => exact .inl ⟨⟨im, rfl⟩, rfl, rfl, rfl, id⟩
  | push | takeNone | take | storeStop | signalWake =>
    exact .inl ⟨⟨w.thread.loop.image, rfl⟩, rfl, rfl, rfl, id⟩

/-- A pass adds what it counted. -/
lemma Accounts.worked {r : RtReady} (ha : w.Accounts th expired sent)
    (hs : w.thread.loop.Safe lay) (hp : w.phase = .working r) (p : RtPass) :
    ∃ expired' sent', (w.worked (w.thread.pass r p)).Accounts th expired' sent' := by
  obtain ⟨th', res, hpass, hspec⟩ := RtThread.pass_spec (ε := Empty) hs r p
  obtain ⟨exp, snt, -, htally, hsent, hgo⟩ := hspec.counted
  have hall : sent = w.ticks := ha.looping (by rw [hp]; rfl)
  rw [hpass, worked_ok]
  refine ⟨expired + exp.toNat, sent + snt.toNat, ?_, ?_, ?_, ?_, ?_,
    ha.intervals.trans hspec.intervals, ?_⟩
  · show th'.tally = _
    rw [htally, ha.tally, add_assoc]
    congr 1
    funext c
    simp only [Pi.add_apply, total, RtThread.tickTally, expiredTally]
    cases c with
    | expirations | tx | lateness | work =>
      rw [framesTally_ofTimer rfl]
      cases exp <;> cases res.ticked <;> cases snt <;> rfl
    | valid | invalid | ignored | dropped | heard =>
      rw [framesTally_append]
      cases exp <;> cases res.ticked <;> cases snt <;> simp
  · show sent + snt.toNat ≤ w.ticks + _
    cases hsn : snt with
    | true =>
      rw [hsent hsn]
      simp [ha.sent_le]
    | false => exact ha.sent_le.trans (Nat.le_add_right _ _)
  · show w.ticks + _ ≤ sent + snt.toNat + 1
    split_ifs <;> omega
  · intro hend
    have hon : res.goOn = true := by
      by_contra h
      simp [h, RtPhase.ends] at hend
    show sent + snt.toNat = w.ticks + _
    rw [hgo hon, hall]
    cases res.ticked <;> rfl
  · show (w.seen ++ res.seen).length ≤ maxRxPerPass * (w.passes + 1)
    rw [List.length_append, Nat.mul_succ]
    exact Nat.add_le_add ha.seen_le hspec.seen
  · intro hn
    obtain ⟨hn, hr⟩ := hspec.unheard hn
    exact hr.trans (ha.unheard hn)

lemma Did.accounts (h : Did w act w') (hs : w.thread.loop.Safe lay)
    (ha : w.Accounts th expired sent) : ∃ expired' sent', w'.Accounts th expired' sent' := by
  rcases h.idle with ⟨⟨im, hth⟩, htk, hsn, hps, hends⟩ | ⟨r, p, hp, rfl⟩
  · have htally : w'.thread.tally = w.thread.tally := by rw [hth]; rfl
    refine ⟨expired, sent, ?_, ?_, ?_, fun h => ?_, ?_, hth ▸ ha.intervals, hth ▸ ha.unheard⟩
    · rw [htally, ha.tally]
      congr 1
      funext c
      cases c <;> simp [total, htk, hsn]
    · rw [htk]
      exact ha.sent_le
    · rw [htk]
      exact ha.le_sent
    · rw [htk]
      exact ha.looping (hends h)
    · rw [hsn, hps]
      exact ha.seen_le
  · exact ha.worked hs hp p

end RtWorld

lemma rt_accounts {lay : Layout} {th : RtThread} {w : RtWorld} (hf : th.Fresh lay)
    (h : (rtThreadSystem th).Reach w) : ∃ expired sent, w.Accounts th expired sent := by
  have hi : w.thread.loop.Safe lay ∧ ∃ expired sent, w.Accounts th expired sent := by
    refine h.inv (I := fun w => w.thread.loop.Safe lay ∧ ∃ expired sent, w.Accounts th expired sent)
      ?_ ?_
    · rintro w rfl
      refine ⟨hf.safe, 0, 0, ?_, le_refl 0, Nat.zero_le 1, fun _ => rfl, le_refl 0, le_refl _,
        fun _ => rfl⟩
      funext c
      cases c <;> rfl
    · rintro w act w' ⟨hs, expired, sent, ha⟩ hst
      have hd := RtWorld.step_did hst
      exact ⟨hd.safe hs, hd.accounts hs ha⟩
  exact hi.2

lemma RtThread.Fresh.lastRx {lay : Layout} {th : RtThread} (hf : th.Fresh lay) :
    th.loop.engine.lastRx = none := by
  obtain ⟨ourMac, cpuMac, stats, lateness, work, interval, image, hasFd, rfl⟩ := hf.started
  rfl

lemma frameCounter_cases (v : Option RxVerdict) :
    frameCounter v = .valid ∨ frameCounter v = .invalid ∨ frameCounter v = .ignored ∨
      frameCounter v = .dropped := by
  rcases v with _ | ⟨p, q, _ | _⟩ | _ | why <;> simp [frameCounter, RxVerdict.counter]

lemma countP_frameCounter (seen : List (Option RxVerdict)) :
    seen.countP (frameCounter · = .valid) + seen.countP (frameCounter · = .invalid) +
      seen.countP (frameCounter · = .ignored) + seen.countP (frameCounter · = .dropped) =
      seen.length := by
  induction seen with
  | nil => rfl
  | cons v seen ih =>
    simp only [List.countP_cons, List.length_cons]
    rcases frameCounter_cases v with hv | hv | hv | hv <;> simp [hv] <;> omega

/-- **The counters tell what the thread did**, in every state of its life: one frame sent and one
wake-up recorded for each tick, the work of all of them but a last one whose frame could not be
sent; each frame received is counted under its verdict and nowhere else, at most 64 for each pass
of the loop; and there is an interval for each accepted frame but the first. -/
theorem rt_stats_account {lay : Layout} {th : RtThread} {w : RtWorld} (hf : th.Fresh lay)
    (h : (rtThreadSystem th).Reach w) :
    let s₀ := th.loop.engine.stats
    let s := w.thread.loop.engine.stats
    (s.tx = s₀.tx + w.ticks ∧
      w.thread.tickLateness.count = th.tickLateness.count + w.ticks ∧
      (w.thread.cycleWork.count = th.cycleWork.count + w.ticks ∨
        w.phase.ends = true ∧ w.thread.cycleWork.count + 1 = th.cycleWork.count + w.ticks)) ∧
    (s.rxAccepted = s₀.rxAccepted + w.seen.countP (frameCounter · = .valid) ∧
      s.rxInvalid = s₀.rxInvalid + w.seen.countP (frameCounter · = .invalid) ∧
      s.rxIgnored = s₀.rxIgnored + w.seen.countP (frameCounter · = .ignored) ∧
      s.rxDropped = s₀.rxDropped + w.seen.countP (frameCounter · = .dropped) ∧
      s.rxAccepted + s.rxInvalid + s.rxIgnored + s.rxDropped =
        s₀.rxAccepted + s₀.rxInvalid + s₀.rxIgnored + s₀.rxDropped + w.seen.length ∧
      w.seen.length ≤ maxRxPerPass * w.passes) ∧
    w.thread.rxInterval.count = th.rxInterval.count + (w.seen.countP frameAccepted - 1) := by
  obtain ⟨expired, sent, ha⟩ := rt_accounts hf h
  have hc : ∀ c, w.thread.loop.engine.tally c + w.thread.ownTally c =
      th.loop.engine.tally c + th.ownTally c + w.total expired sent c := fun c => by
    have := congrFun ha.tally c
    simpa [RtThread.tally] using this
  have hframes : ∀ c, c ≠ .heard →
      framesTally w.seen c = w.seen.countP (fun v => frameCounter v = c) := fun c hne => by
    rw [framesTally_eq, if_neg hne, Nat.add_zero]
  have hvalid := (hc .valid).trans (congrArg (_ + ·) (hframes .valid (by decide)))
  have hinvalid := (hc .invalid).trans (congrArg (_ + ·) (hframes .invalid (by decide)))
  have hignored := (hc .ignored).trans (congrArg (_ + ·) (hframes .ignored (by decide)))
  have hdropped := (hc .dropped).trans (congrArg (_ + ·) (hframes .dropped (by decide)))
  have hlate : w.thread.tickLateness.count = th.tickLateness.count + w.ticks := by
    simpa [RtEngine.tally, RtThread.ownTally, RtWorld.total] using hc .lateness
  have hwork : w.thread.cycleWork.count = th.cycleWork.count + sent := by
    simpa [RtEngine.tally, RtThread.ownTally, RtWorld.total] using hc .work
  have hint : w.thread.rxInterval.count + w.thread.loop.engine.lastRx.isSome.toNat =
      th.rxInterval.count + w.seen.countP frameAccepted := by
    have hnone : w.seen.countP (fun v => frameCounter v = .heard) = 0 := by
      refine List.countP_eq_zero.2 fun v _ => ?_
      rcases frameCounter_cases v with hv | hv | hv | hv <;> simp [hv]
    simpa [RtEngine.tally, RtThread.ownTally, RtWorld.total, framesTally_eq, hnone, hf.lastRx]
      using hc .heard
  refine ⟨⟨hc .tx, hlate, ?_⟩, ⟨hvalid, hinvalid, hignored, hdropped, ?_, ha.seen_le⟩, ?_⟩
  · have := ha.sent_le
    have := ha.le_sent
    rw [hwork]
    cases hp : w.phase.ends with
    | false => exact .inl (congrArg _ (ha.looping hp))
    | true =>
      rcases (by omega : sent = w.ticks ∨ sent + 1 = w.ticks) with hs | hs
      · exact .inl (congrArg _ hs)
      · exact .inr ⟨rfl, (Nat.add_assoc _ _ _).trans (congrArg _ hs)⟩
  · have hsum := countP_frameCounter w.seen
    simp only [RtEngine.tally, RtThread.ownTally, Nat.add_zero] at hvalid hinvalid hignored hdropped
    omega
  · cases hl : w.thread.loop.engine.lastRx with
    | none =>
      have hsame := congrArg Histogram.count (ha.unheard hl)
      rw [hl] at hint
      dsimp only [Option.isSome_none, Bool.toNat_false] at hint
      omega
    | some t =>
      have hle := ha.intervals
      rw [hl] at hint
      dsimp only [Option.isSome_some, Bool.toNat_true] at hint
      omega

namespace ThreadDemo

/-- A frame of the controller. -/
def outputs : Bytes :=
  RtFrame.bytes ⟨0x8001, List.replicate 40 0, 1, .runPrimaryValidOk, 0⟩ AppDemo.mac
    AppDemo.params.initiatorMac

/-- Two frames have arrived, one of them of the controller. -/
def heard : List RtAct :=
  [.poll (.ok ⟨false, true⟩), .go, .pass ⟨.ok 0, ⟨0, ⟨true, true, true⟩, false, none, 0⟩,
    [⟨.ok true, .frame outputs 1 true⟩, ⟨.ok true, .frame [1] 2 true⟩]⟩]

end ThreadDemo

open ThreadDemo in
/-- Two frames are received, and then a tick whose frame cannot be sent. -/
theorem rt_stats_account_unsent : ∃ w, (rtThreadSystem thread).Reach w ∧
    w.ticks = 1 ∧ w.seen.map frameCounter = [.valid, .dropped] ∧
    w.thread.loop.engine.stats.tx = 1 ∧ w.thread.loop.engine.stats.rxAccepted = 1 ∧
    w.thread.loop.engine.stats.rxDropped = 1 ∧ w.thread.tickLateness.count = 1 ∧
    (w.thread.cycleWork.count = 1 ∨ w.phase.ends = true ∧ w.thread.cycleWork.count + 1 = 1) ∧
    w.thread.rxInterval.count = 0 := by
  have hrun : ((rtThreadSystem thread).run (.spawned thread)
      ([setup, .go, .go] ++ heard ++ [.go, ticked, .go, badTick])).any (fun w =>
        w.ticks == 1 && w.seen.map frameCounter == [.valid, .dropped] &&
          w.seen.countP frameAccepted == 1) = true := by
    decide +kernel
  obtain ⟨w, hw, hp⟩ := System.exists_reach_of_run rfl hrun
  simp only [Bool.and_eq_true, beq_iff_eq] at hp
  obtain ⟨⟨hone, hseen⟩, haccepted⟩ := hp
  have hcount : ∀ c, w.seen.countP (frameCounter · = c) =
      (w.seen.map frameCounter).countP (· = c) := fun c => by rw [List.countP_map]; rfl
  obtain ⟨⟨htx, hlate, hwork⟩, ⟨hacc, -, -, hdropped, -⟩, hint⟩ := rt_stats_account fresh hw
  rw [hone] at htx hlate hwork
  rw [hcount, hseen] at hacc hdropped
  rw [haccepted] at hint
  exact ⟨w, hw, hone, hseen, htx, hacc, hdropped, hlate, hwork, hint⟩

end Pnio
