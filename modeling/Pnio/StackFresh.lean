import Pnio.StackLife

/-!
When the application may read outputs as fresh: only while the thread of the AR it was told of is
there, and only after that thread has accepted a frame.
-/

namespace Pnio

/-- What is to be published stems from a frame, or does not call the outputs valid. -/
def Pending.Earned (e : RtEngine) : Pending → Prop
  | .data _ => e.lastRx ≠ none
  | .validity v => v.watchdog ≠ .ok

namespace RtLoop

variable {ε : Type} {l l' : RtLoop}

/-- What the image calls valid, or is about to, stems from a frame. -/
structure Earned (l : RtLoop) : Prop where
  shown : l.image.outputs.validity.watchdog = .ok → l.engine.lastRx ≠ none
  pending : ∀ p, l.pending = some p → p.Earned l.engine

lemma Pending.Earned.congr {e e' : RtEngine} {p : Pending} (h : p.Earned e)
    (hl : e'.lastRx = e.lastRx) : p.Earned e' := by
  cases p with
  | data v =>
    show e'.lastRx ≠ none
    rw [hl]
    exact h
  | validity v => exact h

lemma Earned.congr (h : l.Earned) (hi : l'.image.outputs.validity = l.image.outputs.validity)
    (hp : l'.pending = l.pending) (hl : l'.engine.lastRx = l.engine.lastRx) : l'.Earned := by
  refine ⟨?_, fun p hp' => Pending.Earned.congr (h.pending p (hp ▸ hp')) hl⟩
  rw [hi, hl]
  exact h.shown

/-- An attempt to publish shows what was earned, or keeps it for later. -/
lemma Earned.retryPending (h : l.Earned) {p : Pending} (hp : p.Earned l.engine) (free : Bool) :
    (l.retryPending p free).Earned := by
  cases free with
  | true =>
    cases p with
    | data v => exact ⟨fun _ => hp, h.pending⟩
    | validity v => exact ⟨fun hv => absurd hv hp, h.pending⟩
  | false =>
    have hlater : ∀ q, some p = some q → q.Earned l.engine := by
      rintro q hq
      cases hq
      exact hp
    cases p with
    | data v => exact ⟨h.shown, hlater⟩
    | validity v => exact ⟨h.shown, hlater⟩

lemma Earned.taken (h : l.Earned) : Earned { l with pending := none } :=
  ⟨h.shown, fun p hp => by cases hp⟩

lemma Earned.retry (h : l.Earned) (free : Bool) : (l.retry free).Earned := by
  unfold RtLoop.retry
  split
  · rename_i p hp
    exact h.taken.retryPending (h.pending p hp) free
  · exact h

lemma Earned.watch (h : l.Earned) (now : Instant) (free : Bool) : (l.watch now free).1.Earned := by
  have hl := (l.engine.checkWatchdog_tally now).2
  unfold RtLoop.watch
  generalize l.engine.checkWatchdog now = r at hl
  obtain ⟨e, verdict⟩ := r
  cases verdict with
  | expired =>
    have h' : Earned { l with engine := e.markOutputsStale } := h.congr rfl rfl hl
    exact h'.retryPending
      (p := .validity (expiredValidity { l with engine := e.markOutputsStale } now)) (by
        simp [Pending.Earned, expiredValidity]) free
  | notArmed => exact h.congr rfl rfl hl
  | ok => exact h.congr rfl rfl hl
  | stopped => exact h.congr rfl rfl hl

lemma Earned.tick (h : l.Earned) {now : Instant} {n : Nat} {locks : TickLocks} {problem : Bool}
    {out : TickOut} (ht : (l.tick now n locks problem : Res ε _) = .ok (l', out)) :
    l'.Earned := by
  obtain ⟨⟨l2, frame⟩, hp, ht⟩ := Res.bind_eq_ok.1 ht
  cases ht
  obtain ⟨⟨e, fr⟩, he, hp⟩ := Res.bind_eq_ok.1 hp
  cases hp
  have hread : (l.onRead now n).Earned := h.congr rfl rfl rfl
  have hwatch := (hread.retry locks.retry).watch now locks.watchdog
  exact hwatch.congr rfl rfl (RtEngine.onTick_tally he).2

lemma Earned.receive (h : l.Earned) {bytes : Bytes} {now : Instant} {free : Bool} {v : RxVerdict}
    (hr : (l.receive bytes now free : Res ε _) = .ok (l', v)) : l'.Earned := by
  obtain ⟨⟨e, v'⟩, he, hr⟩ := Res.bind_eq_ok.1 hr
  have hl := (RtEngine.onFrame_tally he).2
  cases v' with
  | accepted p q d =>
    cases hr
    have hheard : e.lastRx ≠ none := by rw [hl]; simp [RxVerdict.isAccepted]
    have h' : Earned { l with engine := e, pending := none } :=
      ⟨fun _ => hheard, fun p hp => by cases hp⟩
    exact h'.retryPending (p := .data (freshValidity { l with engine := e })) hheard free
  | ignored =>
    cases hr
    exact h.congr rfl rfl hl
  | dropped why =>
    cases hr
    exact h.congr rfl rfl hl

end RtLoop

namespace RtThread

variable {ε : Type} {th th' : RtThread}

lemma onTimer_earned (h : th.loop.Earned) {ready : Bool} {p : RtPass} {t : Ticked}
    (hr : (th.onTimer ready p : Res ε _) = .ok (th', t)) : th'.loop.Earned := by
  unfold onTimer at hr
  split_ifs at hr
  · cases hr
    exact h
  · split at hr
    · cases hr
      exact h
    · cases hr
      exact h
    · obtain ⟨⟨loop, out⟩, ht, hr⟩ := Res.bind_eq_ok.1 hr
      have hloop := h.tick ht
      dsimp only at hr
      split at hr <;> cases hr <;> exact hloop

lemma onFrame_earned (h : th.loop.Earned) {bytes : Bytes} {now : Instant} {free : Bool}
    {v : RxVerdict} (hr : (th.onFrame bytes now free : Res ε _) = .ok (th', v)) :
    th'.loop.Earned := by
  obtain ⟨⟨loop, v'⟩, hrec, hr⟩ := Res.bind_eq_ok.1 hr
  cases hr
  have hsame := (noteInterval_same (RtLoop.receive_tally hrec).2).2
  exact hsame.symm ▸ h.receive hrec

lemma drainRx_earned (h : th.loop.Earned) {turns : List RxTurn} {d : Drained}
    (hr : (th.drainRx turns : Res ε _) = .ok (th', d)) : th'.loop.Earned := by
  induction turns generalizing th d with
  | nil =>
    cases hr
    exact h
  | cons turn turns ih =>
    rw [drainRx] at hr
    split at hr
    · cases hr
      exact h
    · cases hr
      exact h
    · split at hr
      · split_ifs at hr
        · exact ih h hr
        · cases hr
          exact h
      · obtain ⟨⟨th₁, v⟩, hf, hr⟩ := Res.bind_eq_ok.1 hr
        dsimp only at hr
        rw [if_pos (drainShouldContinue_got _)] at hr
        obtain ⟨⟨th₂, d'⟩, hd, hr⟩ := Res.bind_eq_ok.1 hr
        cases hr
        exact ih (onFrame_earned h hf) hd
      · dsimp only at hr
        rw [if_pos (drainShouldContinue_got _)] at hr
        obtain ⟨⟨th₂, d'⟩, hd, hr⟩ := Res.bind_eq_ok.1 hr
        cases hr
        have h' : th.countInvalid.loop.Earned := h.congr rfl rfl rfl
        exact ih h' hd
      · cases hr
        exact h

lemma drainIf_earned (h : th.loop.Earned) {drain : Bool} {turns : List RxTurn} {d : Drained}
    (hr : (th.drainIf drain turns : Res ε _) = .ok (th', d)) : th'.loop.Earned := by
  unfold drainIf at hr
  split_ifs at hr
  · exact drainRx_earned h hr
  · cases hr
    exact h

/-- A pass only shows what a frame has earned. -/
lemma pass_earned (h : th.loop.Earned) {ready : RtReady} {p : RtPass} {r : Passed}
    (hr : (th.pass ready p : Res ε _) = .ok (th', r)) : th'.loop.Earned := by
  obtain ⟨⟨th₁, t⟩, ht, hr⟩ := Res.bind_eq_ok.1 hr
  have h₁ := onTimer_earned h ht
  dsimp only at hr
  cases hgo : t.goOn with
  | false =>
    rw [hgo, if_pos (by rfl)] at hr
    cases hr
    exact h₁
  | true =>
    rw [hgo, if_neg (by simp)] at hr
    obtain ⟨⟨th₂, d⟩, hd, hr⟩ := Res.bind_eq_ok.1 hr
    have h₂ := drainIf_earned h₁ hd
    dsimp only at hr
    split at hr
    · cases hr
      exact h₂
    · have haccount : th' = (th₂.account t d).1 := congrArg Prod.fst (Res.ok.inj hr).symm
      rw [haccount]
      unfold account
      dsimp only
      split_ifs <;> exact h₂

end RtThread

namespace RtWorld

variable {w w' : RtWorld} {act : RtAct}

lemma Did.earned (h : Did w act w') (hi : ∀ im, act ≠ .image im) (he : w.thread.loop.Earned) :
    w'.thread.loop.Earned := by
  cases h with
  | @pass r p ht hp =>
    cases hpass : (w.thread.pass r p : Res Empty _) with
    | ok x => exact RtThread.pass_earned he hpass
    | err e => exact e.elim
    | panic s => exact he
  | image im => exact absurd rfl (hi im)
  | push | setup | armFailed | stop | top | pollFailed | poll | drain | exit | leave | takeNone
  | take | storeStop | signalWake => exact he

/-- A thread that is gone touches the image no more. -/
lemma Did.of_gone (h : Did w act w') (hi : ∀ im, act ≠ .image im) (hg : w.phase = .gone) :
    w'.phase = .gone ∧ w'.thread = w.thread := by
  cases h with
  | push | takeNone | take | storeStop | signalWake => exact ⟨hg, rfl⟩
  | setup _ hp _ | armFailed _ hp _ | stop _ hp _ | top _ hp _ | pollFailed _ hp | poll _ hp
  | drain _ hp | pass _ hp | exit _ hp | leave _ hp => cases hp.symm.trans hg
  | image im => exact absurd rfl (hi im)

end RtWorld

/-- The outputs are not called valid. -/
def IoImage.Dull (im : IoImage) : Prop := im.outputs.validity.watchdog ≠ .ok

/-- The thread that is let go, until it has finished. -/
def Pc.awaits : Pc → Option Nat
  | .flag k | .wake k | .join k => some k
  | .loop | .start | .spawn | .stop | .read _ | .expire _ _ | .clear _ | .dropFlag _
  | .dropWake _ => none

/-- The thread that is let go, until its outputs are called expired. -/
def Pc.expires : Pc → Option Nat
  | .flag k | .wake k | .join k | .read k | .expire k _ => some k
  | .loop | .start | .spawn | .stop | .clear _ | .dropFlag _ | .dropWake _ => none

/-- In `stop_runner`, before the outputs are called expired. -/
def Pc.Stopping (pc : Pc) : Prop := pc = .stop ∨ pc.expires.isSome

lemma Pc.Asks.alike {pc pc' : Pc} {k : Nat} {ract : RtAct} (h : pc.Asks k ract pc') :
    pc'.expires = pc.expires ∧ pc'.awaits = pc.awaits ∧ ∀ j v, pc' ≠ .expire j v := by
  cases h <;> simp [expires, awaits]

lemma Pc.Asks.owner {pc pc' : Pc} {k : Nat} {ract : RtAct} (h : pc.Asks k ract pc') :
    ract.ofThread = false ∧ ∀ im, ract ≠ .image im := by
  cases h <;> simp [RtAct.ofThread]

namespace Stack

variable {s s' t : Stack} {act : StackAct}

/-- The acyclic thread does not give up waiting for a thread to finish. -/
def Joined (_ : Stack) : StackAct → Prop
  | .timeout => False
  | _ => True

instance (s : Stack) : DecidablePred (Joined s)
  | .timeout => inferInstanceAs (Decidable False)
  | .call _ | .go _ | .drop _ | .thread .. | .write .. => inferInstanceAs (Decidable True)

/-- The one thread that may be at work. -/
def working (s : Stack) : Option Nat := s.pc.awaits.or s.handle

/-- The one thread whose outputs may be called valid. -/
def current (s : Stack) : Option Nat := s.pc.expires.or s.handle

lemma Tied.current {k : Nat} (h : s.Tied) (hw : s.working = some k) : s.current = some k := by
  unfold Tied at h
  unfold working at hw
  unfold Stack.current
  cases hpc : s.pc with
  | read | expire =>
    rw [hpc] at h hw
    simp [Pc.awaits, h.2.1] at hw
  | loop | start | spawn | stop | flag | wake | join | clear | dropFlag | dropWake =>
    rw [hpc] at hw
    exact hw

lemma current_asked {k : Nat} {ract : RtAct} {pc : Pc} (ha : s.pc.Asks k ract pc) (w : RtWorld) :
    ((s.withThread k w).moveTo pc).current = s.current := by
  rw [current, show ((s.withThread k w).moveTo pc).pc = pc from rfl, ha.alike.1]
  rfl

/-- The outputs are called valid only as those of the newest thread, when it has heard a frame. -/
structure Honest (s : Stack) : Prop where
  newest : ∀ k, s.current = some k → k + 1 = s.threads.length
  earned : ∀ k w, s.current = some k → s.threads[k]? = some w →
    (w.onImage s.device.image).thread.loop.Earned
  dull : s.current = none → s.device.image.Dull
  gone : ∀ k w, s.threads[k]? = some w → s.working = some k ∨ w.phase = .gone
  expired : ∀ k v, s.pc = .expire k v → v.watchdog = .expired

/-- Neither a thread nor the validity of the outputs has changed. -/
lemma Honest.same (h : s.Honest) (ht : t.threads = s.threads)
    (hv : t.device.image.outputs.validity = s.device.image.outputs.validity)
    (hc : t.current = s.current) (hw : t.working = s.working)
    (he : ∀ k v, t.pc = .expire k v → v.watchdog = .expired) : t.Honest := by
  refine ⟨?_, fun k w hk hw' => ?_, fun hk => ?_, ?_, he⟩
  · rw [hc, ht]
    exact h.newest
  · rw [hc] at hk
    rw [ht] at hw'
    exact (h.earned k w hk hw').congr hv rfl rfl
  · rw [IoImage.Dull, hv]
    exact h.dull (hc.symm.trans hk)
  · rw [ht, hw]
    exact h.gone

/-- A thread or its owner has made a step. -/
lemma Honest.set {k : Nat} {ract : RtAct} {w w' : RtWorld} (h : s.Honest) (htied : s.Tied)
    (hm : s.Moved k ract w w') (hi : ∀ im, ract ≠ .image im)
    (ht : t.threads = s.threads.set k w') (him : t.device.image = w'.thread.loop.image)
    (hc : t.current = s.current) (hw : t.working = s.working)
    (he : ∀ k v, t.pc = .expire k v → v.watchdog = .expired) : t.Honest := by
  have hd := RtWorld.step_did hm.step
  have hself : t.threads[k]? = some w' := by
    rw [ht, threads_set hm.was]
  have hother : ∀ j, j ≠ k → t.threads[j]? = s.threads[j]? := fun j hj => by
    rw [ht, List.getElem?_set_ne (Ne.symm hj)]
  -- only the thread that may be at work can have changed the image
  have hsame : s.current = some k ∨ t.device.image = s.device.image :=
    (h.gone k w hm.was).imp htied.current fun hg => by
      rw [him, (hd.of_gone hi hg).2]
      rfl
  refine ⟨?_, fun j w₁ hj hw₁ => ?_, fun hnone => ?_, fun j w₁ hw₁ => ?_, he⟩
  · rw [hc, ht, List.length_set]
    exact h.newest
  · rw [hc] at hj
    by_cases hjk : j = k
    · subst hjk
      cases hself.symm.trans hw₁
      rw [him]
      exact hd.earned hi (h.earned j w hj hm.was)
    · rcases hsame with hk | hsame
      · cases hj.symm.trans hk
        exact absurd rfl hjk
      · rw [hsame]
        exact h.earned j w₁ hj (hother j hjk ▸ hw₁)
  · rw [hc] at hnone
    rcases hsame with hk | hsame
    · cases hnone.symm.trans hk
    · rw [hsame]
      exact h.dull hnone
  · rw [hw]
    by_cases hjk : j = k
    · subst hjk
      cases hself.symm.trans hw₁
      exact (h.gone j w hm.was).imp_right fun hg => (hd.of_gone hi hg).1
    · exact h.gone j w₁ (hother j hjk ▸ hw₁)

/-- The acyclic thread has gone on, and the threads are where they were. -/
lemma Honest.move (h : s.Honest) (ht : t.threads = s.threads)
    (hv : t.device.image.outputs.validity = s.device.image.outputs.validity)
    (hh : t.handle = s.handle)
    (hp : t.pc.expires = s.pc.expires ∧ t.pc.awaits = s.pc.awaits ∧ ∀ k v, t.pc ≠ .expire k v) :
    t.Honest := by
  refine h.same ht hv ?_ ?_ fun k v hk => absurd hk (hp.2.2 k v)
  · rw [Stack.current, hp.1, hh]
    rfl
  · rw [working, hp.2.1, hh]
    rfl

lemma Honest.idle (h : s.Honest) (hw : s.working = none) :
    ∀ (k : Nat) w, s.threads[k]? = some w → w.phase = .gone := by
  refine fun k w hk => (h.gone k w hk).resolve_left ?_
  simp [hw]

/-- No thread is at work, and the outputs are not called valid. -/
lemma Honest.alone (hc : s.current = none) (hd : s.device.image.Dull)
    (hg : ∀ (k : Nat) w, s.threads[k]? = some w → w.phase = .gone)
    (he : ∀ k v, s.pc ≠ .expire k v) : s.Honest := by
  refine ⟨?_, ?_, fun _ => hd, fun k w hw => .inr (hg k w hw), fun k v hk => absurd hk (he k v)⟩
  · simp [hc]
  · simp [hc]

/-- The outputs of a thread that has just started are not called valid. -/
lemma Honest.spawn {th : RtThread} {boot : RtBoot} (h : s.Honest) (hpc : s.pc = .spawn)
    (hh : s.handle = none) (hth : s.device.newThread boot = some th) :
    Honest { s with
      handle := some s.threads.length
      threads := s.threads ++ [.spawned th]
      pc := .loop } := by
  have hdull := h.dull (by simp [Stack.current, hpc, hh, Pc.expires])
  have hgone := h.idle (by simp [working, hpc, hh, Pc.awaits])
  have hpending : th.loop.pending = none := by
    obtain ⟨ctx, -, hth⟩ := Option.bind_eq_some_iff.1 hth
    obtain ⟨layout, -, hth⟩ := Option.bind_eq_some_iff.1 hth
    cases hth
    rfl
  refine ⟨fun k hk => ?_, fun k w hk hw => ?_, fun hnone => ?_, fun k w hw => ?_, by simp⟩
  · obtain rfl : s.threads.length = k := Option.some.inj hk
    simp
  · obtain rfl : s.threads.length = k := Option.some.inj hk
    cases List.getElem?_concat_length.symm.trans hw
    refine ⟨fun hv => absurd hv hdull, fun p hp => ?_⟩
    cases hpending.symm.trans hp
  · cases hnone
  · rcases threads_spawn hw with ⟨hw, -⟩ | ⟨rfl, -⟩
    · exact .inr (hgone k w hw)
    · exact .inl rfl

/-- **Every step keeps the outputs honest.** -/
lemma Stepped.honest (h : Stepped s act s') (hu : s.Upright) (hh : s.Honest) (hj : Joined s act) :
    s'.Honest := by
  have htied := hu.tied
  cases h with
  | call | operated | drainedAlone | performed => exact hh.same rfl rfl rfl rfl hh.expired
  | @tell boot n notify hpc hn =>
    refine hh.move rfl rfl rfl ?_
    rw [hpc]
    show (Pc.after n).expires = none ∧ (Pc.after n).awaits = none ∧ ∀ k v, Pc.after n ≠ .expire k v
    unfold Pc.after
    split <;> simp [Pc.expires, Pc.awaits]
  | event hpc hn ht hk hw he ho => exact hh.set htied hw (by simp) rfl rfl rfl rfl hh.expired
  | drained hpc hn ht hk hw hq => exact hh.set htied hw (by simp) rfl rfl rfl rfl hh.expired
  | startNone hpc hl => exact hh.move rfl rfl rfl (by simp [hpc, moveTo, Pc.expires, Pc.awaits])
  | start hpc hl =>
    have hnone := htied.handle_none (by simp [hpc]) (by simp [hpc])
    have hgone := hh.idle (by simp [working, hpc, hnone, Pc.awaits])
    refine .alone ?_ (by simp [IoImage.Dull, moveTo, onImage, IoImage.rebuild, Validity.default])
      hgone ?_
    · cases s.device.runner <;> simp [Stack.current, moveTo, onImage, Pc.expires, hnone]
    · cases s.device.runner <;> simp [moveTo]
  | spawn hpc hth =>
    exact hh.spawn hpc (htied.handle_none (by simp [hpc]) (by simp [hpc])) hth
  | stopNone hpc hk => exact hh.move rfl rfl rfl (by simp [hpc, moveTo, Pc.expires, Pc.awaits])
  | stop hpc hk =>
    exact hh.same rfl rfl (by simp [Stack.current, hpc, hk, Pc.expires])
      (by simp [working, hpc, hk, Pc.awaits]) (by simp)
  | @asked boot k ract pc w w' ha hw =>
    have hp := ha.alike
    refine hh.set htied hw ha.owner.2 rfl rfl (current_asked ha w') ?_ fun k v hk =>
      absurd hk (hp.2.2 k v)
    · rw [working, show ((s.withThread k w').moveTo pc).pc = pc from rfl, hp.2.1]
      rfl
  | @join boot k w hpc hw hg =>
    have hc : (s.moveTo (.read k)).current = s.current := by
      simp [Stack.current, moveTo, hpc, Pc.expires]
    refine ⟨fun j hj => hh.newest j (hc ▸ hj), fun j w₁ hj => hh.earned j w₁ (hc ▸ hj),
      fun hnone => hh.dull (hc ▸ hnone), fun j w₁ hw₁ => .inr ?_, by simp [moveTo]⟩
    -- the one that was waited for has finished, as all others had before
    rcases hh.gone j w₁ hw₁ with hk | hgone
    · obtain rfl : k = j := by simpa [working, hpc, Pc.awaits] using hk
      cases hw.symm.trans hw₁
      exact hg
    · exact hgone
  | timeout hpc => exact hj.elim
  | read hpc hv =>
    refine hh.same rfl rfl (by simp [Stack.current, moveTo, hpc, Pc.expires])
      (by simp [working, moveTo, hpc, Pc.awaits]) fun k v hk => ?_
    cases hk
    exact hv
  | @expire boot k v hpc =>
    have hnone := htied.handle_none (by simp [hpc]) (by simp [hpc])
    refine .alone ?_ ?_ (hh.idle (by simp [working, hpc, hnone, Pc.awaits])) (by simp [moveTo])
    · simp [Stack.current, moveTo, onImage, Pc.expires, hnone]
    · show v.watchdog ≠ .ok
      simp [hh.expired k v hpc]
  | clear hpc =>
    exact hh.move rfl rfl rfl (by simp [hpc, moveTo, onImage, Pc.expires, Pc.awaits])
  | drop hf => exact hh.move rfl rfl rfl (by simp [hf.1, Pc.expires, Pc.awaits])
  | thread ha hw =>
    exact hh.set htied hw (by rintro im rfl; cases ha) rfl rfl rfl rfl hh.expired
  | write image ho => exact hh.same rfl (congrArg _ ho) rfl rfl hh.expired

/-- With a thread whose outputs may be called valid, the application was told that the AR is in
`Data`; or it has just been told of its loss, and the thread is being let go. -/
def Shown (s : Stack) : Prop :=
  s.current.isSome → s.told.getLast? = some (.data, none) ∨
    (∃ r, s.told.getLast? = some (.idle, some r)) ∧ s.pc.Stopping

lemma Shown.alone (hc : s.current = none) : s.Shown := by simp [Shown, hc]

lemma Shown.same (h : s.Shown) (ht : t.told = s.told) (hc : t.current = s.current)
    (hp : s.pc.Stopping → t.pc.Stopping) : t.Shown := by
  intro hk
  rw [ht]
  exact (h (hc ▸ hk)).imp_right (And.imp_right hp)

lemma Shown.tell {n : ArState × Option AbortReason}
    {notify : List (ArState × Option AbortReason)} (htied : s.Tied) (hpc : s.pc = .loop)
    (hn : s.notify = n :: notify) :
    Shown { s with told := s.told ++ [n], notify, pc := .after n } := by
  rw [Tied, hpc, hn] at htied
  rcases htied with ⟨hq | ⟨hq, hh⟩, -, -⟩ | ⟨-, -, r, cbs, hc, -⟩ | ⟨-, hh, hc⟩
  · cases hq
  · cases hq
    exact .alone hh
  · cases hc
    exact fun _ => .inr ⟨⟨r, by simp⟩, .inl rfl⟩
  · cases hc
    exact .alone hh

lemma Stepped.shown (h : Stepped s act s') (hu : s.Upright) (hs : s.Shown) : s'.Shown := by
  have htied := hu.tied
  cases h with
  | call | operated | drainedAlone | performed => exact hs.same rfl rfl id
  | event | drained | thread | write => exact hs.same rfl rfl id
  | tell hpc hn => exact .tell htied hpc hn
  | startNone hpc | clear hpc =>
    exact .alone (htied.handle_none (by simp [hpc]) (by simp [hpc]))
  | start hpc hl =>
    refine .alone ?_
    cases s.device.runner <;> exact htied.handle_none (by simp [hpc]) (by simp [hpc])
  | spawn hpc hth =>
    rw [Tied, hpc] at htied
    exact fun _ => .inl htied.2.2.2.1
  | stopNone hpc hh => exact .alone hh
  | stop hpc hh =>
    exact hs.same rfl (by simp [Stack.current, hpc, hh, Pc.expires]) fun _ => .inr rfl
  | asked ha hw =>
    refine hs.same rfl (current_asked ha _) fun hstop => ?_
    rcases hstop with hstop | hstop
    · rw [hstop] at ha
      cases ha
    · exact .inr (ha.alike.1 ▸ hstop)
  | join hpc | timeout hpc | read hpc =>
    exact hs.same rfl (by simp [Stack.current, moveTo, hpc, Pc.expires]) fun _ => .inr rfl
  | @expire boot k v hpc => exact .alone (htied.handle_none (by simp [hpc]) (by simp [hpc]))
  | drop hf => exact hs.same rfl (by simp [Stack.current, hf.1, Pc.expires]) fun _ => .inl rfl

lemma reach_honest (h : stackSystem.ReachWhen Joined s) : s.Upright ∧ s.Honest ∧ s.Shown := by
  refine System.ReachWhen.inv (I := fun s => s.Upright ∧ s.Honest ∧ s.Shown) ?_ ?_ h
  · rintro s ⟨setup, rfl⟩
    refine ⟨new_upright setup, .alone rfl ?_ (by simp [new]) (by simp [new]), .alone rfl⟩
    simp [IoImage.Dull, new, Device.new, IoImage.empty, Validity.default]
  · rintro s act s' ⟨hu, hh, hs⟩ hj hst
    have hstep := step_stepped hst
    exact ⟨hstep.upright hu, hstep.honest hu hh hj, hstep.shown hu hs⟩

end Stack

lemma Validity.ok_of_fresh {v : Validity} (h : v.freshness = .fresh) : v.watchdog = .ok := by
  unfold freshness at h
  split_ifs at h with hnot hexp
  cases hw : v.watchdog with
  | notArmed => exact absurd hw hnot
  | ok => rfl
  | expired => exact absurd hw hexp

namespace StackDemo

/-- A frame of the controller. -/
def outputs : Bytes :=
  RtFrame.bytes ⟨0x8001, List.replicate 40 7, 1, .runPrimaryValidOk, 0⟩
    DeviceDemo.model.mac (MacAddr.of 2 0 0 0 0 2)

/-- It arrives while the thread waits. -/
def heard : List StackAct :=
  bringUp ++ [.thread 0 (.poll (.ok ⟨false, true⟩)), .thread 0 .go,
    .thread 0 (.pass ⟨.ok 0, ⟨0, ⟨true, true, true⟩, false, none, 0⟩,
      [⟨.ok true, .frame outputs 1 true⟩]⟩)]

/-- Then the controller releases its AR, and the acyclic thread waits for the thread. -/
def lettingGo : List StackAct := heard ++ recv [Demo.release 2 1] 7

lemma exists_fresh (acts : List StackAct) (pc : Pc)
    (hrun : (stackSystem.runWhen Stack.Joined (.new DeviceDemo.setup) acts).any (fun s =>
      s.device.image.outputs.validity.freshness == .fresh && s.pc == pc) = true) :
    ∃ s, stackSystem.ReachWhen Stack.Joined s ∧
      s.device.image.outputs.validity.freshness = .fresh ∧ s.pc = pc := by
  obtain ⟨s, hs, hp⟩ := System.exists_reachWhen_of_run (S := stackSystem) ⟨_, rfl⟩ hrun
  simp only [Bool.and_eq_true, beq_iff_eq] at hp
  exact ⟨s, hs, hp⟩

end StackDemo

end Pnio
