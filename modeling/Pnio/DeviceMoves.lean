import Pnio.DeviceTrans

/-!
Every part of a step of the device is a sequence of moves, and so is the whole step
(`step_parts`).
-/

namespace Pnio

lemma DiagStore.Changed.isChannel {s s' : DiagStore} {n : AlarmNotification}
    (h : s.Changed s' (some n)) : Device.IsChannel n := by
  cases h <;> rfl

lemma DiagStore.replay_isChannel {s : DiagStore} {n : AlarmNotification} (h : n ∈ s.replay) :
    Device.IsChannel n := by
  simp only [DiagStore.replay, List.mem_filterMap, Option.bind_eq_bind,
    Option.bind_eq_some_iff] at h
  obtain ⟨d, -, i, -, hn⟩ := h
  cases hn
  rfl

namespace Device

variable {ε : Type} {spawn spawns : Bool} {d d' : Device} {ps ps' : List Batch} {now : Instant}

/-! ### Dispatching -/

lemma all_isSend_map (os : List Outgoing) : ∀ o ∈ os.map Obs.rpcSent, o.isSend := by
  intro o ho
  obtain ⟨a, -, rfl⟩ := List.mem_map.1 ho
  rfl

/-- What the device does about a call of the context manager is one move. -/
lemma dispatch_micro {abort : AbortReason → Device → Res ε Device} {cm : Cm} {out : CmOutput}
    (hs : Sound (d, ps)) (he : Cm.Effect d.cm cm out) (hf : Cm.Frame d.cm cm)
    (hsp : spawn → spawns) (h : dispatch abort now spawns out { d with cm } = .ok d') :
    Micro false spawn (d, ps) (d', ps) := by
  have ht := Talks.sendAll { d with cm } out.send
  have ho := all_isSend_map out.send
  have hparams := he.params_isSome hs.ctx
  unfold dispatch at h
  generalize out.send.foldl sendRpc { d with cm } = d1 at h ht
  have quiet (hn : out.notify = []) : Micro false spawn (d, ps) (d', ps) := by
    rw [hn] at h
    cases h
    exact .quiet he hf hn ht ho
  cases he with
  | quiet hst hp hq hc hn hl => exact quiet hn
  | ready hst hst' hp hv hq hc hn hl ha hk => exact quiet hn
  | retry hst hst' hp hq hc hn hl ha hk => exact quiet hn
  | established hst hst' hp hq hc hn hl =>
    rw [hn] at h
    cases h
    exact .connected (.established hst hst' hp hq hc hn hl) hf hn ht ho
  | takeover hst hst' hp hq hc hn hl =>
    rw [hn] at h
    cases h
    exact .takeover (.takeover hst hst' hp hq hc hn hl) hf hn ht ho
  | lost hst hst' hp hq hn hl =>
    rw [hn] at h
    cases h
    exact .lost (.lost hst hst' hp hq hn hl) hf hn ht ho
  | data hst hst' hp hq hc hn hl =>
    obtain ⟨params, hpar⟩ := Option.isSome_iff_exists.1 (hparams (by simp [hst']))
    obtain ⟨ctx, hctx, -⟩ := Option.map_eq_some_iff.1 hpar
    have hctx1 : (d1.note (.callback .data none)).cm.ar.ctx = some ctx := by
      rw [← hctx]
      exact congrArg (·.ar.ctx) ht.cm
    rw [hn, List.foldlM_cons] at h
    obtain ⟨d4, hnotified, h⟩ := Res.bind_eq_ok.1 h
    cases h
    obtain ⟨d2, hr, h⟩ := Res.bind_eq_ok.1 hnotified
    obtain ⟨d3, hre, h⟩ := Res.bind_eq_ok.1 h
    cases h
    have hspawned := startRunner_spawned hctx1 hr
    obtain ⟨obs', ht', hrep, hv⟩ := replay_talks (fun n hn => DiagStore.replay_isChannel hn) hre
    have hdiag : d2.openAlarmChannel.diag = d.diag := by
      have : d2.openAlarmChannel.diag = d2.diag := by
        unfold openAlarmChannel; split <;> rfl
      rw [this, hspawned.frame.diag]
      exact ht.diag
    rw [hdiag] at hv
    exact .data (.data hst hst' hp hq hc hn hl) hf hn hctx ht ho hsp hspawned ht' hrep hv

/-- An abort: the announcement, then the loss of the AR unless there is none. -/
lemma abortWithErrRta_moves {depth : Nat} {r : AbortReason}
    (h : (abortWithErrRta (depth + 1) now spawns r d : Res ε _) = .ok d') :
    Moves false spawn (d, ps) (d', ps) := by
  rw [abortWithErrRta_eq] at h
  obtain ⟨d1, ha, h⟩ := Res.bind_eq_ok.1 h
  obtain ⟨obs, ht, ho⟩ := announceAbort_talks ha
  have hsent : Moves false spawn (d, ps) (d1, ps) := .single (.talk ht ho)
  split_ifs at h with hst
  · cases h
    exact hsent
  · cases h
    obtain ⟨he, hf⟩ := Cm.dropped_effect hst r
    exact hsent.tail (.lost he hf rfl (.refl _) (by simp))

lemma shutdown_moves (h : (d.shutdown now spawns : Res ε _) = .ok d') :
    Moves false spawn (d, ps) (d', ps) := by
  unfold shutdown at h
  split_ifs at h
  · cases h
    exact .refl
  · exact abortWithErrRta_moves h

/-! ### The sockets and the commands -/

lemma receiveFrame_moves {frame : Bytes}
    (h : (receiveFrame now frame d ps : Res ε _) = .ok (d', ps')) :
    Moves false spawn (d, ps) (d', ps') := by
  obtain ⟨isAlarm, -, h⟩ := Res.bind_eq_ok.1 h
  split_ifs at h with hal hmac
  · cases h
    exact .refl
  · split at h
    · rename_i ch hch
      obtain ⟨⟨ch', acts⟩, hf, h⟩ := Res.bind_eq_ok.1 h
      cases h
      have hstep := AlarmChannel.onFrame_step hf
      exact .single (.produced (by rw [hch]; rfl) (.channel hch hstep.frame.1)
        fun r hr => hstep.abort_alone hr)
    · cases h
      have ht : Talks d { d with diagShared :=
          { d.diagShared with rxNoChannel := d.diagShared.rxNoChannel + 1 } } [] := by
        constructor <;> simp
      exact .single (.talk ht (by simp))
  · obtain ⟨r, -, h⟩ := Res.bind_eq_ok.1 h
    split at h
    · cases h
      exact .single (.talk (.note d _) (by simp [Obs.isSend]))
    · cases h
      exact .refl
    · cases h
      exact .refl

lemma onEthFrame_moves {frame : Bytes}
    (h : (onEthFrame now (d, ps) frame : Res ε _) = .ok (d', ps')) :
    Moves false spawn (d, ps) (d', ps') := by
  have ht : Talks d d.countFrame [] := by
    constructor <;> simp [countFrame]
  exact .head (.talk ht (by simp)) (receiveFrame_moves h)

lemma onDiagCommand_moves {c : DiagCommand} (hs : Sound (d, ps))
    (h : (onDiagCommand now (d, ps) c : Res ε _) = .ok (d', ps')) :
    Moves true spawn (d, ps) (d', ps') := by
  have hchanged := DiagStore.command_changed hs.diag c
  unfold onDiagCommand at h
  dsimp only at h
  split at h
  · rename_i hn
    cases h
    rw [hn] at hchanged
    exact .single (.command rfl hchanged)
  · rename_i n hn
    rw [hn] at hchanged
    obtain ⟨⟨d1, acts⟩, hq, h⟩ := Res.bind_eq_ok.1 h
    cases h
    have hqueued := queueNotification_queued hq
    have hdefer : d1.defer ps acts = d.defer ps acts := by
      cases hqueued with
      | dropped ht hno => exact ht.defer ps _
      | queued ho ht ha => exact ht.defer ps _
    rw [hdefer]
    exact .single (.announced rfl hchanged hqueued)

lemma Moves.sound {cmds : Bool} {s s' : Device × List Batch} (h : Moves cmds spawn s s')
    (hs : Sound s) : Sound s' := by
  induction h with
  | refl => exact hs
  | tail _ hm ih => exact hm.sound ih

/-- A loop whose rounds are moves. -/
lemma foldlM_moves {α : Type} {cmds : Bool}
    {f : Device × List Batch → α → Res ε (Device × List Batch)} {l : List α}
    {s s' : Device × List Batch} (hs : Sound s)
    (hf : ∀ s a s', Sound s → f s a = .ok s' → Moves cmds spawn s s')
    (h : l.foldlM f s = .ok s') : Moves cmds spawn s s' := by
  refine (Res.foldlM_inv (I := fun s1 => Moves cmds spawn s s1 ∧ Sound s1) ?_ ⟨.refl, hs⟩ h).1
  rintro s1 a s2 ⟨hm, hs1⟩ h1
  have hm1 := hf s1 a s2 hs1 h1
  exact ⟨hm.trans hm1, hm1.sound hs1⟩

/-! ### Datagrams, events and timers -/

lemma receiveDatagram_moves {g : Datagram} (hs : Sound (d, ps)) (hsp : spawn → g.spawns)
    (h : (receiveDatagram now g d : Res ε _) = .ok d') : Moves false spawn (d, ps) (d', ps) := by
  obtain ⟨r, hr, h⟩ := Res.bind_eq_ok.1 h
  rcases Res.attempt_eq_ok.1 hr with ⟨⟨cm, out⟩, hcm, rfl⟩ | ⟨e, -, rfl⟩
  · obtain ⟨he, hf⟩ := Cm.handleDatagram_effect hs.cache hcm
    exact .single (dispatch_micro hs he hf hsp h)
  · cases h
    exact .refl

lemma onDatagram_moves {g : Datagram} (hs : Sound (d, ps)) (hsp : spawn → g.spawns)
    (h : (onDatagram now d g : Res ε _) = .ok d') : Moves false spawn (d, ps) (d', ps) := by
  have ht : Talks d d.countDatagram [] := by
    constructor <;> simp [countDatagram]
  have hcount : Micro false spawn (d, ps) (d.countDatagram, ps) := .talk ht (by simp)
  exact .head hcount (receiveDatagram_moves (hcount.sound hs) hsp h)

lemma datagrams_moves {gs : List Datagram} (hs : Sound (d, ps)) (hsp : spawn → ∀ g ∈ gs, g.spawns)
    (h : gs.foldlM (onDatagram now) d = (.ok d' : Res ε _)) :
    Moves false spawn (d, ps) (d', ps) := by
  induction gs generalizing d with
  | nil =>
    cases h
    exact .refl
  | cons g gs ih =>
    rw [List.foldlM_cons] at h
    obtain ⟨d1, h1, h⟩ := Res.bind_eq_ok.1 h
    have hm := onDatagram_moves hs (fun hsp' => hsp hsp' g (by simp)) h1
    exact hm.trans (ih (hm.sound hs) (fun hsp' g' hg' => hsp hsp' g' (by simp [hg'])) h)

lemma onRtEvent_moves {ev : RtEvent} (h : (onRtEvent now spawns d ev : Res ε _) = .ok d') :
    Moves false spawn (d, ps) (d', ps) := by
  cases ev with
  | watchdogExpired => exact abortWithErrRta_moves h
  | socketError => exact abortWithErrRta_moves h
  | schedWarning => cases h; exact .refl
  | exited => cases h; exact .refl

lemma drainRtEvents_moves {evs : List RtEvent}
    (h : (drainRtEvents now spawns evs d : Res ε _) = .ok d') :
    Moves false spawn (d, ps) (d', ps) := by
  induction evs generalizing d with
  | nil =>
    cases h
    exact .refl
  | cons ev evs ih =>
    rw [drainRtEvents] at h
    split_ifs at h
    · obtain ⟨d1, h1, h⟩ := Res.bind_eq_ok.1 h
      exact (onRtEvent_moves h1).trans (ih h)
    · cases h
      exact .refl

lemma cmTimers_moves (hs : Sound (d, ps)) (hsp : spawn → spawns)
    (h : (cmTimers now spawns d : Res ε _) = .ok d') : Moves false spawn (d, ps) (d', ps) := by
  obtain ⟨⟨cm, out⟩, hcm, h⟩ := Res.bind_eq_ok.1 h
  obtain ⟨he, hf⟩ := Cm.tick_effect hcm
  exact .single (dispatch_micro hs he hf hsp h)

lemma rtaTimers_moves (h : (rtaTimers now (d, ps) : Res ε _) = .ok (d', ps')) :
    Moves false spawn (d, ps) (d', ps') := by
  unfold rtaTimers at h
  split at h
  · rename_i ch hch
    obtain ⟨⟨ch', acts⟩, hf, h⟩ := Res.bind_eq_ok.1 h
    cases h
    have hstep := AlarmChannel.onTick_step hf
    exact .single (.produced (by rw [show d.alarm = _ from hch]; rfl)
      (.channel hch hstep.frame.1) fun r hr => hstep.abort_alone hr)
  · cases h
    exact .refl

/-! ### The deferred actions -/

/-- Actions that are no aborts leave the channel as it is. -/
lemma perform_moves {abort : AbortReason → Device → Res ε Device} {b : Batch}
    {acts : List AlarmAction} (hb : b ∈ ps) (hopen : d.alarm.isSome)
    (hepoch : d.alarmEpoch = b.epoch) (ha : ∀ r, .abort r ∉ acts)
    (h : acts.foldlM (perform abort b.producer) d = .ok d') :
    Moves false spawn (d, ps) (d', ps) := by
  induction acts generalizing d with
  | nil =>
    cases h
    exact .refl
  | cons a acts ih =>
    have hna : ∀ r, a ≠ .abort r := fun r hr => ha r (by simp [hr])
    have hperform : perform abort b.producer d a = .ok (d.note (.performed b.producer a)) := by
      unfold perform
      split
      · exact absurd rfl (hna _)
      all_goals rfl
    rw [List.foldlM_cons, hperform] at h
    exact .head (.performed hb hopen hepoch hna)
      (ih hopen hepoch (fun r hr => ha r (by simp [hr])) h)

lemma performAbort_micro {depth : Nat} {b : Batch} {r : AbortReason} (hb : b ∈ ps)
    (hopen : d.alarm.isSome) (hepoch : d.alarmEpoch = b.epoch)
    (h : perform (abortWithErrRta (depth + 1) now spawns) b.producer d (.abort r) =
      (.ok d' : Res ε _)) : Micro false spawn (d, ps) (d', ps) := by
  have h : (abortWithErrRta (depth + 1) now spawns r
      (d.note (.performed b.producer (.abort r))) : Res ε _) = .ok d' := h
  rw [abortWithErrRta_eq] at h
  obtain ⟨d1, ha, h⟩ := Res.bind_eq_ok.1 h
  obtain ⟨obs, ht, ho⟩ := announceAbort_talks ha
  have hstate : d1.cm.ar.state = d.cm.ar.state := congrArg (·.ar.state) ht.cm
  split_ifs at h with hst
  · cases h
    exact .abortedIdle hb hopen hepoch ht ho (hstate.symm.trans hst)
  · cases h
    exact .aborted hb hopen hepoch ht ho (hstate ▸ hst)

lemma applyAlarmActions_moves {depth : Nat} {b : Batch} (hs : Sound (d, ps)) (hb : b ∈ ps)
    (h : applyAlarmActions (abortWithErrRta (depth + 1) now spawns) b d = (.ok d' : Res ε _)) :
    Moves false spawn (d, ps) (d', ps) := by
  unfold applyAlarmActions at h
  split_ifs at h with hguard
  · cases h
    exact .refl
  · obtain ⟨d1, hp, h⟩ := Res.bind_eq_ok.1 h
    cases h
    push Not at hguard
    obtain ⟨hsome, hepoch⟩ := hguard
    have hopen : d.alarm.isSome := Option.isSome_iff_ne_none.2 (by simpa using hsome)
    refine Relation.ReflTransGen.tail ?_ (.talk (.publishAlarmStats d1) (by simp))
    by_cases ha : ∃ r, .abort r ∈ b.actions
    · obtain ⟨r, hr⟩ := ha
      rw [hs.alone b hb r hr, List.foldlM_cons] at hp
      obtain ⟨d2, h2, hp⟩ := Res.bind_eq_ok.1 hp
      cases hp
      exact .single (performAbort_micro hb hopen hepoch h2)
    · exact perform_moves hb hopen hepoch (not_exists.1 ha) hp

/-- The batches are taken off one after the other. -/
lemma pending_moves {depth : Nat} (hs : Sound (d, ps))
    (h : ps.foldlM (fun d b => applyAlarmActions (abortWithErrRta (depth + 1) now spawns) b d) d =
      (.ok d' : Res ε _)) : Moves false spawn (d, ps) (d', []) := by
  induction ps generalizing d with
  | nil =>
    cases h
    exact .refl
  | cons b ps ih =>
    rw [List.foldlM_cons] at h
    obtain ⟨d1, h1, h⟩ := Res.bind_eq_ok.1 h
    have hpop : Moves false spawn (d, b :: ps) (d1, ps) :=
      (applyAlarmActions_moves hs (by simp) h1).tail .popped
    exact hpop.trans (ih (hpop.sound hs) h)

/-! ### The whole step -/

/-- The drained commands: nothing, or moves that may be commands and one publication. -/
def Drained (spawn : Bool) (s s' : Device × List Batch) : Prop :=
  s' = s ∨ ∃ s1, Moves true spawn s s1 ∧ s' = (s1.1.publishDiagState, s1.2)

lemma drainDiagQueue_drained {cs : List DiagCommand} (hs : Sound (d, ps))
    (h : (drainDiagQueue now cs (d, ps) : Res ε _) = .ok (d', ps')) :
    Drained spawn (d, ps) (d', ps') := by
  unfold drainDiagQueue at h
  split_ifs at h
  · cases h
    exact .inl rfl
  · obtain ⟨⟨d1, ps1⟩, h1, h⟩ := Res.bind_eq_ok.1 h
    cases h
    exact .inr ⟨_, foldlM_moves hs (fun _ _ _ hs => onDiagCommand_moves hs) h1, rfl⟩

lemma Drained.moves {s s' : Device × List Batch} (h : Drained spawn s s') :
    Moves true spawn s s' := by
  obtain rfl | ⟨s1, hm, rfl⟩ := h
  · exact .refl
  · exact hm.tail .publish

/-- Every spawn a step can ask for succeeds. -/
def StepInput.Spawns (i : StepInput) : Prop := i.spawns ∧ ∀ g ∈ i.datagrams, g.spawns

/-- **A step is a sequence of moves**, with the commands drained in one place. -/
theorem step_parts {i : StepInput} (hs : Sound (d, [])) (hsp : spawn → i.Spawns)
    (h : (d.step i : Res ε _) = .ok d') :
    ∃ s1 s2, Moves false spawn (d, []) s1 ∧ Drained spawn s1 s2 ∧
      Moves false spawn s2 (d', []) := by
  obtain ⟨⟨d1, ps1⟩, h1, h⟩ := Res.bind_eq_ok.1 h
  obtain ⟨⟨d2, ps2⟩, h2, h⟩ := Res.bind_eq_ok.1 h
  obtain ⟨d3, h3, h⟩ := Res.bind_eq_ok.1 h
  obtain ⟨d4, h4, h⟩ := Res.bind_eq_ok.1 h
  obtain ⟨d5, h5, h⟩ := Res.bind_eq_ok.1 h
  obtain ⟨⟨d6, ps6⟩, h6, h⟩ := Res.bind_eq_ok.1 h
  have ht : Talks d { d with report := {} } [] := by
    constructor <;> simp
  -- the frames
  have hreset : Micro false spawn (d, []) ({ d with report := {} }, []) := .talk ht (by simp)
  have hframes : Moves false spawn ({ d with report := {} }, []) (d1, ps1) :=
    foldlM_moves (hreset.sound hs) (fun _ _ _ _ => onEthFrame_moves) h1
  have m1 : Moves false spawn (d, []) (d1.publishAlarmStats, ps1) :=
    .head hreset (hframes.tail (.talk (.publishAlarmStats d1) (by simp)))
  have hs1 := m1.sound hs
  -- the commands
  have m2 : Drained spawn (d1.publishAlarmStats, ps1) (d2, ps2) := drainDiagQueue_drained hs1 h2
  have hs2 := m2.moves.sound hs1
  -- the datagrams, the events, the timers and what was deferred
  have m3 : Moves false spawn (d2, ps2) (d3, ps2) :=
    datagrams_moves hs2 (fun hsp' => (hsp hsp').2) h3
  have m4 : Moves false spawn (d3, ps2) (d4, ps2) := drainRtEvents_moves h4
  have hs4 := m4.sound (m3.sound hs2)
  have m5 : Moves false spawn (d4, ps2) (d5, ps2) :=
    cmTimers_moves hs4 (fun hsp' => (hsp hsp').1) h5
  have m6 : Moves false spawn (d5, ps2) (d6.publishAlarmStats, ps6) :=
    (rtaTimers_moves h6).tail (.talk (.publishAlarmStats d6) (by simp))
  have m7 : Moves false spawn (d6.publishAlarmStats, ps6) (d', []) :=
    pending_moves (m6.sound (m5.sound hs4)) h
  exact ⟨_, _, m1, m2, m3.trans (m4.trans (m5.trans (m6.trans m7)))⟩

lemma Moves.weaken {cmds : Bool} {s s' : Device × List Batch} (h : Moves false spawn s s') :
    Moves cmds spawn s s' :=
  Relation.ReflTransGen.mono (fun _ _ => Micro.weaken) _ _ h

end Device

end Pnio
