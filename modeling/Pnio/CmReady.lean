import Pnio.CmCache
import Pnio.CmRefusal
import Pnio.CmWire

/-!
The ApplicationReady calls of an AR: at most three, all the same, apart by the timeout, to the
controller that established the AR and under numbers that grow from one AR to the next.
-/

namespace Pnio

/-- The time of an input. -/
def CmInput.time : CmInput → Instant
  | .datagram _ _ now | .tick now | .abort _ now => now

/-- The calls among the datagrams to send. -/
def CmOutput.callPdus (out : CmOutput) : List Outgoing :=
  out.send.filter fun o => (callOf o.bytes).isSome

/-- The calls a step placed, with their time. -/
def CmCall.calls (s : CmCall) : List (Instant × Outgoing) :=
  s.out.callPdus.map fun o => (s.input.time, o)

/-- The step (re-)established the AR. -/
def CmCall.establishes (s : CmCall) : Bool := s.out.notify.any (·.1 = .connected)

/-- One AR: the step that established it, and the calls placed until the next one was. -/
structure Life where
  origin : CmCall
  calls : List (Instant × Outgoing)

def addCall (ls : List Life) (s : CmCall) : List Life :=
  if s.establishes then ls ++ [⟨s, s.calls⟩]
  else
    match ls.getLast? with
    | some l => ls.dropLast ++ [{ l with calls := l.calls ++ s.calls }]
    | none => ls

/-- The ARs of a history, oldest first. -/
def lives (log : List CmCall) : List Life := log.foldl addCall []

lemma lives_snoc (log : List CmCall) (s : CmCall) :
    lives (log ++ [s]) = addCall (lives log) s := by
  simp [lives]

lemma addCall_quiet {ls : List Life} {s : CmCall} (he : s.establishes = false)
    (hc : s.calls = []) : addCall ls s = ls := by
  unfold addCall
  rw [he, hc]
  simp only [Bool.false_eq_true, if_false, List.append_nil]
  split
  · rename_i l hl
    exact List.dropLast_append_getLast? l hl
  · rfl

lemma addCall_new {ls : List Life} {s : CmCall} (he : s.establishes = true) :
    addCall ls s = ls ++ [⟨s, s.calls⟩] := by
  rw [addCall, if_pos he]

lemma addCall_call {ls : List Life} {l : Life} {s : CmCall} (he : s.establishes = false) :
    addCall (ls ++ [l]) s = ls ++ [{ l with calls := l.calls ++ s.calls }] := by
  simp [addCall, he]

/-! ### The call an AR places -/

/-- The call of the AR under the number `k`: it names the AR, its session and its initiator, and
goes to the address its Connect came from. -/
def Life.Places (l : Life) (k : UInt32) (o : Outgoing) : Prop :=
  ∃ buf src now p call, l.origin.input = .datagram buf src now ∧
    l.origin.after.params = some p ∧
    ((appReadyReq p.arUuid p.sessionKey).write : Res RpcError _) = .ok call ∧
    o = ⟨l.origin.after.callPdu p.initiatorObjectUuid k call, ⟨src.ip, pnioUdpPort⟩⟩

/-- What the controller reads of it: an ApplicationReady call to its port 34964 that names the
initiator, the AR and the session of the Connect. -/
def Life.Calls (l : Life) (k : UInt32) (o : Outgoing) : Prop :=
  ∃ buf src now p, l.origin.input = .datagram buf src now ∧ l.origin.after.params = some p ∧
    o.dst = ⟨src.ip, 34964⟩ ∧ ReadsReady o.bytes p.initiatorObjectUuid l.origin.after.activitySeed k
      p.arUuid p.sessionKey

/-- At most three calls, all of them `o`, at least the timeout apart. -/
structure Life.Bounded (l : Life) (o : Outgoing) : Prop where
  same : ∀ c ∈ l.calls, c.2 = o
  count : l.calls.length ≤ 3
  spaced : (l.calls.map (·.1)).IsChain fun t t' => t + appReadyTimeout ≤ t'

/-- The number of a call. -/
def callNumber (o : Outgoing) : Option Nat := (callOf o.bytes).map (·.seqNum.toNat)

/-- The AR of the manager is the one of this life. -/
structure Cm.Lives (cm : Cm) (l : Life) : Prop where
  params : cm.params = l.origin.after.params
  seed : cm.activitySeed = l.origin.after.activitySeed
  addr : ∃ buf src now, l.origin.input = .datagram buf src now ∧
    cm.controllerAddr = some ⟨src.ip, pnioUdpPort⟩
  none_yet : cm.ar.state = .connected → l.calls = []
  sent : cm.ar.state = .appReadySent → ∃ k o t, cm.currentCallSeq = some k ∧ l.Places k o ∧
    (∀ c ∈ l.calls, c.2 = o) ∧ l.calls.length = cm.ar.appReadyAttempts.toNat ∧
    cm.ar.appReadyAttempts ≤ 3 ∧ (l.calls.map (·.1)).getLast? = some t ∧
    cm.ar.appReadyDeadline = some (t + appReadyTimeout)

/-- The calls of a history, AR by AR. -/
structure ReadyInv (h : CmHist) : Prop where
  bounded : ∀ l ∈ lives h.log, ∃ k o, l.Places k o ∧ l.Bounded o
  numbers : ∀ l ∈ lives h.log, ∀ c ∈ l.calls, ∀ k ∈ callNumber c.2, k < h.cm.callSeq.toNat
  growing : (lives h.log).Pairwise fun l l' => ∀ c ∈ l.calls, ∀ c' ∈ l'.calls,
    ∀ k ∈ callNumber c.2, ∀ k' ∈ callNumber c'.2, k < k'
  all : (lives h.log).flatMap Life.calls = h.log.flatMap CmCall.calls
  current : h.cm.ar.state ≠ .idle → ∃ ls l, lives h.log = ls ++ [l] ∧ h.cm.Lives l

section Steps

variable {h : CmHist} {cm' : Cm} {s : CmCall}

/-- A step that places no call and establishes no AR. -/
lemma ReadyInv.quiet (hi : ReadyInv h) (he : s.establishes = false) (hc : s.calls = [])
    (hq : cm'.callSeq = h.cm.callSeq)
    (hcur : cm'.ar.state ≠ .idle → h.cm.ar.state ≠ .idle ∧ ∀ l, h.cm.Lives l → cm'.Lives l) :
    ReadyInv ⟨cm', h.log ++ [s]⟩ := by
  have hl : lives (h.log ++ [s]) = lives h.log := by
    rw [lives_snoc, addCall_quiet he hc]
  refine ⟨?_, ?_, ?_, ?_, fun hs => ?_⟩
  · rw [hl]
    exact hi.bounded
  · rw [hl, hq]
    exact hi.numbers
  · rw [hl]
    exact hi.growing
  · rw [hl, List.flatMap_append, List.flatMap_singleton, hc, List.append_nil]
    exact hi.all
  · obtain ⟨hs', hlives⟩ := hcur hs
    obtain ⟨ls, l, hls, hcm⟩ := hi.current hs'
    exact ⟨ls, l, hl.trans hls, hlives l hcm⟩

/-- A step that begins a new life. -/
lemma ReadyInv.begin (hi : ReadyInv h) (he : s.establishes = true) (hc : s.calls = [])
    (hq : cm'.callSeq = h.cm.callSeq) (hp : ∃ k o, Life.Places ⟨s, []⟩ k o)
    (hcur : cm'.Lives ⟨s, []⟩) : ReadyInv ⟨cm', h.log ++ [s]⟩ := by
  have hl : lives (h.log ++ [s]) = lives h.log ++ [⟨s, []⟩] := by
    rw [lives_snoc, addCall_new he, hc]
  refine ⟨?_, ?_, ?_, ?_, fun _ => ⟨lives h.log, ⟨s, []⟩, hl, hcur⟩⟩
  · intro l hm
    rw [hl, List.mem_append, List.mem_singleton] at hm
    rcases hm with hm | rfl
    · exact hi.bounded l hm
    · obtain ⟨k, o, hko⟩ := hp
      exact ⟨k, o, hko, List.forall_mem_nil _, Nat.zero_le _, .nil⟩
  · intro l hm c hcm
    rw [hl, List.mem_append, List.mem_singleton] at hm
    rcases hm with hm | rfl
    · rw [hq]
      exact hi.numbers l hm c hcm
    · cases hcm
  · rw [hl]
    refine List.pairwise_append.2 ⟨hi.growing, List.pairwise_singleton _ _, ?_⟩
    intro l _ l' hl' c _ c' hc'
    rw [List.mem_singleton.1 hl'] at hc'
    cases hc'
  · rw [hl, List.flatMap_append, List.flatMap_append, List.flatMap_singleton,
      List.flatMap_singleton, hc, hi.all]

/-- A step that places a call for the present life. -/
lemma ReadyInv.call (hi : ReadyInv h) {ls : List Life} {l : Life} {t : Instant} {o : Outgoing}
    {k : UInt32} (hls : lives h.log = ls ++ [l]) (he : s.establishes = false)
    (hc : s.calls = [(t, o)]) (hp : l.Places k o)
    (hb : Life.Bounded { l with calls := l.calls ++ [(t, o)] } o)
    (hq : h.cm.callSeq.toNat ≤ cm'.callSeq.toNat)
    (hnum : ∀ n ∈ callNumber o, n < cm'.callSeq.toNat)
    (hgrow : ∀ l0 ∈ ls, ∀ c ∈ l0.calls, ∀ n ∈ callNumber c.2, ∀ n' ∈ callNumber o, n < n')
    (hcur : cm'.Lives { l with calls := l.calls ++ [(t, o)] }) : ReadyInv ⟨cm', h.log ++ [s]⟩ := by
  have hl : lives (h.log ++ [s]) = ls ++ [{ l with calls := l.calls ++ [(t, o)] }] := by
    rw [lives_snoc, hls, addCall_call he, hc]
  have hall := hi.all
  rw [hls, List.flatMap_append, List.flatMap_singleton] at hall
  have hgrowing := hi.growing
  rw [hls] at hgrowing
  obtain ⟨hg1, -, hg2⟩ := List.pairwise_append.1 hgrowing
  refine ⟨?_, ?_, ?_, ?_, fun _ => ⟨ls, _, hl, hcur⟩⟩
  · intro l' hm
    rw [hl, List.mem_append, List.mem_singleton] at hm
    rcases hm with hm | rfl
    · exact hi.bounded l' (hls ▸ List.mem_append_left _ hm)
    · exact ⟨k, o, hp, hb⟩
  · intro l' hm c hcm n hn
    rw [hl, List.mem_append, List.mem_singleton] at hm
    rcases hm with hm | rfl
    · exact lt_of_lt_of_le (hi.numbers l' (hls ▸ List.mem_append_left _ hm) c hcm n hn) hq
    · rcases List.mem_append.1 hcm with hcm | hcm
      · exact lt_of_lt_of_le (hi.numbers l (hls ▸ List.mem_append_right _ (.head _)) c hcm n hn) hq
      · rw [List.mem_singleton.1 hcm] at hn
        exact hnum n hn
  · rw [hl]
    refine List.pairwise_append.2 ⟨hg1, List.pairwise_singleton _ _, ?_⟩
    intro l0 hl0 l' hl' c hcm c' hcm' n hn n' hn'
    rw [List.mem_singleton.1 hl'] at hcm'
    rcases List.mem_append.1 hcm' with hcm' | hcm'
    · exact hg2 l0 hl0 l (.head _) c hcm c' hcm' n hn n' hn'
    · rw [List.mem_singleton.1 hcm'] at hn'
      exact hgrow l0 hl0 c hcm n hn n' hn'
  · rw [hl, List.flatMap_append, List.flatMap_append, List.flatMap_singleton,
      List.flatMap_singleton, hc, ← hall]
    simp

end Steps

/-! ### What a step sends -/

@[simp] lemma callPdus_nil (n : List (ArState × Option AbortReason)) :
    CmOutput.callPdus ⟨[], n⟩ = [] := rfl

@[simp] lemma callPdus_reply (ctx : RespondCtx) (s : PnioStatus) (b : Bytes)
    (os : List Outgoing) (n : List (ArState × Option AbortReason)) :
    CmOutput.callPdus ⟨ctx.reply s b :: os, n⟩ = CmOutput.callPdus ⟨os, n⟩ := by
  simp [CmOutput.callPdus, RespondCtx.reply]

@[simp] lemma callPdus_call (cm : Cm) (object : Uuid) (k : UInt32) (b : Bytes) (dst : SocketAddr)
    (n : List (ArState × Option AbortReason)) :
    CmOutput.callPdus ⟨[⟨cm.callPdu object k b, dst⟩], n⟩ = [⟨cm.callPdu object k b, dst⟩] := by
  simp [CmOutput.callPdus]

lemma callPdus_response {b : Bytes} (hb : isResponse b) (dst : SocketAddr)
    (n : List (ArState × Option AbortReason)) : CmOutput.callPdus ⟨[⟨b, dst⟩], n⟩ = [] := by
  have hcall : callOf b = none := by
    unfold isResponse at hb
    split at hb
    · rename_i h hh
      simp [callOf, hh, of_decide_eq_true hb]
    · cases hb
  simp [CmOutput.callPdus, hcall]

lemma Life.Places.number {l : Life} {k : UInt32} {o : Outgoing} (h : l.Places k o) :
    callNumber o = some k.toNat := by
  obtain ⟨_, _, _, p, call, -, -, -, rfl⟩ := h
  simp [callNumber, callHeader]

lemma Life.Places.calls {l : Life} {k : UInt32} {o : Outgoing} (h : l.Places k o) :
    l.Calls k o := by
  obtain ⟨buf, src, now, p, call, hin, hp, hcall, rfl⟩ := h
  exact ⟨buf, src, now, p, hin, hp, rfl, readsReady_callPdu _ _ k hcall⟩

/-- A life has one call under each number. -/
lemma Life.Places.unique {l : Life} {k : UInt32} {o o' : Outgoing} (h : l.Places k o)
    (h' : l.Places k o') : o = o' := by
  obtain ⟨_, src, _, p, call, hin, hp, hcall, rfl⟩ := h
  obtain ⟨_, src', _, p', call', hin', hp', hcall', rfl⟩ := h'
  cases hin.symm.trans hin'
  cases hp.symm.trans hp'
  cases hcall.symm.trans hcall'
  rfl

/-- What the manager calls is the call of the present life. -/
lemma Cm.Lives.places {cm : Cm} {l : Life} {c : ArContext} {call : Bytes} {dst : SocketAddr}
    (hl : cm.Lives l) (hc : cm.ar.ctx = some c)
    (hb : ((appReadyReq c.params.arUuid c.params.sessionKey).write : Res RpcError _) = .ok call)
    (hd : cm.controllerAddr = some dst) (k : UInt32) :
    l.Places k ⟨cm.callPdu c.params.initiatorObjectUuid k call, dst⟩ := by
  obtain ⟨buf, src, now, hin, haddr⟩ := hl.addr
  cases hd.symm.trans haddr
  have hp : l.origin.after.params = some c.params := by
    rw [← hl.params, Cm.params, hc]
    rfl
  refine ⟨buf, src, now, c.params, call, hin, hp, hb, ?_⟩
  rw [callPdu, callPdu, hl.seed]

/-! ### The step -/

/-- An AR just established has placed no call yet, and it will be able to. -/
lemma ReadyInv.connected {h : CmHist} (hi : ReadyInv h) {buf : Bytes} {src : SocketAddr}
    {now : Instant} {cm' : Cm} {out : CmOutput} {p : ArParams}
    (hn : out.notify.any (·.1 = .connected)) (hc : out.callPdus = [])
    (hq : cm'.callSeq = h.cm.callSeq) (hp : cm'.params = some p)
    (hd : cm'.controllerAddr = some ⟨src.ip, pnioUdpPort⟩) (hs : cm'.ar.state = .connected) :
    ReadyInv ⟨cm', h.log ++ [⟨h.cm, .datagram buf src now, cm', out⟩]⟩ := by
  obtain ⟨call, hcall⟩ := ControlBlock.write_returns (ε := RpcError)
    (appReadyReq p.arUuid p.sessionKey)
  refine hi.begin hn (by rw [CmCall.calls, hc]; rfl) hq ?_ ?_
  · exact ⟨0, _, buf, src, now, p, call, rfl, hp, hcall, rfl⟩
  · exact ⟨rfl, rfl, ⟨buf, src, now, rfl, hd⟩, fun _ => rfl, fun hs' => by simp [hs] at hs'⟩

/-- A step that leaves what the calls depend on alone. -/
lemma Cm.Lives.same {cm cm' : Cm} {l : Life} (hl : cm.Lives l) (hp : cm'.params = cm.params)
    (hseed : cm'.activitySeed = cm.activitySeed) (hd : cm'.controllerAddr = cm.controllerAddr)
    (hq : cm'.currentCallSeq = cm.currentCallSeq) (hs : cm'.ar.state = cm.ar.state)
    (ha : cm'.ar.appReadyAttempts = cm.ar.appReadyAttempts)
    (ht : cm'.ar.appReadyDeadline = cm.ar.appReadyDeadline) : cm'.Lives l := by
  refine ⟨hp.trans hl.params, hseed.trans hl.seed, hd ▸ hl.addr, hs ▸ hl.none_yet, ?_⟩
  rw [hs, hq, ha, ht]
  exact hl.sent

/-- The first call of an AR. -/
lemma ReadyInv.prmEnd {h : CmHist} (hi : ReadyInv h) {c : ArContext} {call : Bytes}
    {dst : SocketAddr} {ctx : RespondCtx} {st : PnioStatus} {b : Bytes} {buf : Bytes}
    {src : SocketAddr} {now : Instant} (hs : h.cm.ar.state = .connected)
    (hc : h.cm.ar.ctx = some c)
    (hb : ((appReadyReq c.params.arUuid c.params.sessionKey).write : Res RpcError _) = .ok call)
    (hd : h.cm.controllerAddr = some dst) (hv : h.cm.callSeq.toNat + 1 < 4294967296) :
    ReadyInv ⟨Cm.called ({ h.cm with ar := h.cm.ar.readySent now }.keep ctx st b),
      h.log ++ [⟨h.cm, .datagram buf src now,
        Cm.called ({ h.cm with ar := h.cm.ar.readySent now }.keep ctx st b),
        ⟨[ctx.reply st b,
          ⟨h.cm.callPdu c.params.initiatorObjectUuid h.cm.callSeq call, dst⟩], []⟩⟩]⟩ := by
  obtain ⟨ls, l, hls, hl⟩ := hi.current (by simp [hs])
  have hnone := hl.none_yet hs
  have hp := hl.places hc hb hd h.cm.callSeq
  have hsucc : (h.cm.callSeq + 1).toNat = h.cm.callSeq.toNat + 1 := by
    rw [UInt32.toNat_add]
    exact Nat.mod_eq_of_lt hv
  have hnumber : ∀ n ∈ callNumber ⟨h.cm.callPdu c.params.initiatorObjectUuid h.cm.callSeq call,
      dst⟩, n = h.cm.callSeq.toNat := by
    intro n hn
    exact (Option.some.inj (hp.number.symm.trans hn)).symm
  refine hi.call (t := now) hls rfl (by simp [CmCall.calls, CmInput.time]) hp ⟨?_, ?_, ?_⟩ ?_ ?_ ?_
    ?_
  · simp [hnone]
  · simp [hnone]
  · simp [hnone]
  · change h.cm.callSeq.toNat ≤ (h.cm.callSeq + 1).toNat
    omega
  · intro n hn
    change n < (h.cm.callSeq + 1).toNat
    rw [hnumber n hn]
    omega
  · intro l0 hl0 c' hc' n hn n' hn'
    rw [hnumber n' hn']
    exact hi.numbers l0 (hls ▸ List.mem_append_left _ hl0) c' hc' n hn
  · refine ⟨hl.params, hl.seed, hl.addr, fun hs' => (by cases hs'), fun _ => ?_⟩
    refine ⟨h.cm.callSeq, _, now, rfl, hp, ?_, ?_, ?_, ?_, rfl⟩
    · simp [hnone]
    · simp [hnone, Cm.called, Cm.keep, Cm.cacheInsert, Ar.readySent]
    · simp [Cm.called, Cm.keep, Cm.cacheInsert, Ar.readySent]
    · simp [hnone]

lemma Ar.due_some {deadline now : Instant} : Ar.due (some deadline) now ↔ deadline ≤ now := by
  simp [Ar.due]

/-- A further call of an AR: the same one again, the timeout after the last. -/
lemma ReadyInv.retry {h : CmHist} (hi : ReadyInv h) {c : ArContext} {call : Bytes}
    {dst : SocketAddr} {now : Instant} {k : UInt32} (hs : h.cm.ar.state = .appReadySent)
    (hdue : Ar.due h.cm.ar.appReadyDeadline now)
    (ha : h.cm.ar.appReadyAttempts < appReadyMaxAttempts) (hc : h.cm.ar.ctx = some c)
    (hb : ((appReadyReq c.params.arUuid c.params.sessionKey).write : Res RpcError _) = .ok call)
    (hd : h.cm.controllerAddr = some dst) (hk : h.cm.currentCallSeq = some k) :
    ReadyInv ⟨{ h.cm with ar := h.cm.ar.retried now },
      h.log ++ [⟨h.cm, .tick now, { h.cm with ar := h.cm.ar.retried now },
        ⟨[⟨h.cm.callPdu c.params.initiatorObjectUuid k call, dst⟩], []⟩⟩]⟩ := by
  obtain ⟨ls, l, hls, hl⟩ := hi.current (by simp [hs])
  obtain ⟨k', o, t, hk', hpo, hsame, hlen, hmax, hlast, hdl⟩ := hl.sent hs
  cases hk.symm.trans hk'
  have hp := hl.places hc hb hd k
  rw [hp.unique hpo]
  have hmem : l ∈ lives h.log := hls ▸ List.mem_append_right _ (.head _)
  have hwait : t + appReadyTimeout ≤ now := by
    rw [hdl] at hdue
    exact Ar.due_some.1 hdue
  have hsucc := Ar.toNat_attempts_succ ha
  have hlt : h.cm.ar.appReadyAttempts.toNat < 3 := UInt8.lt_iff_toNat_lt.1 ha
  -- an earlier call of the same life: there is one, and it is the same
  obtain ⟨c0, hc0, hc0t⟩ : ∃ c0 ∈ l.calls, c0.1 = t :=
    List.mem_map.1 (List.mem_of_getLast? hlast)
  have hall : ∀ c ∈ l.calls ++ [(now, o)], c.2 = o := by
    intro c' hc'
    rcases List.mem_append.1 hc' with hc' | hc'
    · exact hsame c' hc'
    · rw [List.mem_singleton.1 hc']
  refine hi.call (t := now) hls rfl ?_ hpo ⟨hall, ?_, ?_⟩ le_rfl ?_ ?_ ?_
  · have hcall : (callOf o.bytes).isSome := by
      rw [← hp.unique hpo]
      simp
    simp [CmCall.calls, CmOutput.callPdus, CmInput.time, hcall]
  · rw [List.length_append, hlen, List.length_singleton]
    omega
  · obtain ⟨_, o', -, hbound⟩ := hi.bounded l hmem
    rw [List.map_append, List.isChain_append]
    refine ⟨hbound.spaced, .singleton _, ?_⟩
    intro x hx y hy
    cases hlast.symm.trans hx
    cases hy
    exact hwait
  · intro n hn
    rw [← hsame c0 hc0] at hn
    exact hi.numbers l hmem c0 hc0 n hn
  · intro l0 hl0 c' hc' n hn n' hn'
    have hgrow := hi.growing
    rw [hls] at hgrow
    rw [← hsame c0 hc0] at hn'
    exact (List.pairwise_append.1 hgrow).2.2 l0 hl0 l (.head _) c' hc' c0 hc0 n hn n' hn'
  · refine ⟨hl.params, hl.seed, hl.addr, fun hs' => ?_, fun _ => ?_⟩
    · cases hs.symm.trans hs'
    · refine ⟨k, o, now, hk, hpo, hall, ?_, ?_, ?_, rfl⟩
      · rw [List.length_append, hlen, List.length_singleton]
        exact hsucc.symm
      · change h.cm.ar.appReadyAttempts + 1 ≤ 3
        rw [UInt8.le_iff_toNat_le, hsucc]
        exact hlt
      · simp

/-- **Step**: whatever the manager does, the calls of every AR stay as they should be. -/
lemma ReadyInv.step {h : CmHist} (hi : ReadyInv h) (hcache : CacheInv h) {i : CmInput} {cm' : Cm}
    {out : CmOutput} (hst : h.cm.Stepped i cm' out) :
    ReadyInv ⟨cm', h.log ++ [⟨h.cm, i, cm', out⟩]⟩ := by
  cases hst with
  | silent => exact hi.quiet rfl rfl rfl fun hs => ⟨hs, fun l hl => hl⟩
  | @replay buf src now hd bytes hh ht hl =>
    have hm := Cm.cacheLookup_mem hl
    rw [hcache.last, List.rtake] at hm
    have hresp : isResponse bytes = true := hcache.responses _ (List.mem_of_mem_drop hm)
    refine hi.quiet rfl ?_ rfl fun hs => ⟨hs, fun l hl => hl⟩
    rw [CmCall.calls, callPdus_response hresp]
    rfl
  | request ha hl hr =>
    cases hr with
    | refused hz =>
      exact hi.quiet rfl (by simp [CmCall.calls]) rfl fun hs =>
        ⟨hs, fun l hl => hl.same rfl rfl rfl rfl rfl rfl rfl⟩
    | told =>
      exact hi.quiet rfl (by simp [CmCall.calls]) rfl fun hs =>
        ⟨hs, fun l hl => hl.same rfl rfl rfl rfl rfl rfl rfl⟩
    | connect hp hs hv => exact hi.connected rfl (by simp) rfl rfl rfl rfl
    | takeover hp hs hc hv => exact hi.connected rfl (by simp) rfl rfl rfl rfl
    | takeoverRefused ho hp hs hc hz ht =>
      exact hi.quiet rfl (by simp [CmCall.calls]) rfl fun hs => absurd rfl hs
    | write hs hc =>
      refine hi.quiet rfl (by simp [CmCall.calls]) rfl fun _ =>
        ⟨hs, fun l hl => hl.same ?_ rfl rfl rfl rfl rfl rfl⟩
      simp [Cm.params, Cm.keep, Cm.cacheInsert, Ar.stored, hc]
    | prmEnd ho hp hcmd hs hc hu hb hd hv => exact hi.prmEnd hs hc hb hd hv
    | release hs => exact hi.quiet rfl (by simp [CmCall.calls]) rfl fun hs => absurd rfl hs
  | data hs =>
    refine hi.quiet rfl rfl rfl fun _ => ⟨by simp [hs], fun l hl => ?_⟩
    exact ⟨hl.params, hl.seed, hl.addr, fun hs' => (by cases hs'), fun hs' => (by cases hs')⟩
  | rejected hs => exact hi.quiet rfl rfl rfl fun hs => absurd rfl hs
  | activityTimeout hs => exact hi.quiet rfl rfl rfl fun hs => absurd rfl hs
  | retry hs hdue ha hc hb hd hk => exact hi.retry hs hdue ha hc hb hd hk
  | failed hs hdue ha => exact hi.quiet rfl rfl rfl fun hs => absurd rfl hs
  | aborted hs => exact hi.quiet rfl rfl rfl fun hs => absurd rfl hs

lemma readyInv_reach {model : DeviceModel} {seed : Uuid} {h : CmHist}
    (hr : (histSystem model seed).Reach h) : ReadyInv h := by
  induction hr with
  | init hinit =>
    obtain ⟨im0, im, rfl⟩ := hinit
    exact ⟨List.forall_mem_nil _, List.forall_mem_nil _, .nil, rfl, fun hs => absurd rfl hs⟩
  | step hr _ hs ih =>
    obtain ⟨cm', out, hst, rfl⟩ := hist_step hs
    exact ih.step (cacheInv_reach hr) hst

/-! ### Giving up -/

/-- The call gives up on the controller: a tick, the timeout after the third call of the AR. -/
def CmCall.GivesUp (s : CmCall) (log : List CmCall) : Prop :=
  ∃ now ls l t, s.input = .tick now ∧ lives log = ls ++ [l] ∧ l.calls.length = 3 ∧
    (l.calls.map (·.1)).getLast? = some t ∧ t + appReadyTimeout ≤ now

/-- What ends an AR: a call from outside with the reason it was handed, and nothing else with
`AppReadyFailed` before it is time to give up. -/
structure FailsLate (log : List CmCall) (s : CmCall) : Prop where
  handed : ∀ reason now, s.input = .abort reason now →
    ∀ r, (.idle, some r) ∈ s.out.notify → r = reason
  own : (∀ now, s.input ≠ .abort .appReadyFailed now) →
    (.idle, some .appReadyFailed) ∈ s.out.notify → s.GivesUp log

lemma ReadyInv.failsLate {h : CmHist} (hi : ReadyInv h) {i : CmInput} {cm' : Cm} {out : CmOutput}
    (hst : h.cm.Stepped i cm' out) : FailsLate h.log ⟨h.cm, i, cm', out⟩ := by
  constructor
  · rintro reason now rfl r hm
    cases hst with
    | silent => cases hm
    | aborted hs =>
      cases List.mem_singleton.1 hm
      rfl
  · intro hin hm
    cases hst with
    | failed hs hdue ha =>
      obtain ⟨ls, l, hls, hl⟩ := hi.current (by simp [hs])
      obtain ⟨k, o, t, -, -, -, hlen, hmax, hlast, hdl⟩ := hl.sent hs
      have hthree : l.calls.length = 3 := by
        rw [hlen]
        have hge := UInt8.le_iff_toNat_le.1 (UInt8.not_lt.1 ha)
        exact le_antisymm (UInt8.le_iff_toNat_le.1 hmax) hge
      rw [hdl] at hdue
      exact ⟨_, ls, l, t, rfl, hls, hthree, hlast, Ar.due_some.1 hdue⟩
    | @aborted reason now hs =>
      cases List.mem_singleton.1 hm
      exact absurd rfl (hin now)
    | request ha hl hr => cases hr <;> simp at hm
    | _ => simp at hm

lemma failsLate_reach {model : DeviceModel} {seed : Uuid} {h : CmHist}
    (hr : (histSystem model seed).Reach h) : Along FailsLate h.log := by
  induction hr with
  | init hinit =>
    obtain ⟨im0, im, rfl⟩ := hinit
    exact along_nil
  | step hr _ hs ih =>
    obtain ⟨cm', out, hst, rfl⟩ := hist_step hs
    exact ih.snoc ((readyInv_reach hr).failsLate hst)

/-- **The ApplicationReady calls.** In every run each AR places at most three calls, all of them
the call that names it, its session and its initiator, to the address its Connect came from, with
the timeout between one and the next; the calls of a later AR have greater numbers; and the AR is
given up for want of an answer only at a tick that is the timeout after the third call. -/
theorem ready_calls {model : DeviceModel} {seed : Uuid} {h : CmHist}
    (hr : (histSystem model seed).Reach h) :
    (lives h.log).flatMap Life.calls = h.log.flatMap CmCall.calls ∧
      (∀ l ∈ lives h.log, ∃ k o, l.Calls k o ∧ l.Bounded o) ∧
      ((lives h.log).Pairwise fun l l' => ∀ c ∈ l.calls, ∀ c' ∈ l'.calls,
        ∀ k ∈ callNumber c.2, ∀ k' ∈ callNumber c'.2, k < k') ∧
      Along FailsLate h.log := by
  have hi := readyInv_reach hr
  refine ⟨hi.all, fun l hl => ?_, hi.growing, failsLate_reach hr⟩
  obtain ⟨k, o, hp, hb⟩ := hi.bounded l hl
  exact ⟨k, o, hp.calls, hb⟩

namespace Demo

/-- One AR, established by the Connect, that has placed three calls. -/
def unanswered (h : CmHist) : Bool :=
  match lives h.log with
  | [l] =>
    decide (h.log.length = 5) && decide (l.origin.input = recv (connect 0 1)) &&
      decide (l.origin.after.activitySeed = seed) &&
      decide (l.origin.after.params.map (fun p => (p.initiatorObjectUuid, p.arUuid, p.sessionKey)) =
        some (uuid 4, uuid 3, 1)) &&
      decide (l.calls.map (·.1) = [0, appReadyTimeout, 2 * appReadyTimeout])
  | _ => false

end Demo

open Demo

/-- A controller that never answers: three calls, and then the AR is given up. -/
theorem ready_calls_unanswered :
    ∃ h l, (histSystem Demo.model Demo.seed).Reach h ∧ h.log.length = 5 ∧ lives h.log = [l] ∧
      l.calls.map (·.1) = [0, appReadyTimeout, 2 * appReadyTimeout] ∧
      (∀ c ∈ l.calls, c.2.dst = ⟨plc.ip, 34964⟩ ∧
        ∃ k, ReadsReady c.2.bytes (uuid 4) Demo.seed k (uuid 3) 1) ∧
      Along FailsLate h.log := by
  have hrun : ((histSystem Demo.model Demo.seed).run histStart [recv (connect 0 1),
      recv (prmEnd 1 1), .tick appReadyTimeout, .tick (2 * appReadyTimeout),
      .tick (3 * appReadyTimeout)]).any unanswered = true := by decide +kernel
  obtain ⟨h, hr, hp⟩ := System.exists_reach_of_run histStart_init hrun
  unfold unanswered at hp
  split at hp
  · next l hl =>
    simp only [Bool.and_eq_true, decide_eq_true_eq] at hp
    obtain ⟨⟨⟨⟨hlen, hin⟩, hseed⟩, hparams⟩, htimes⟩ := hp
    obtain ⟨-, hcalls, -, hf⟩ := ready_calls hr
    obtain ⟨k, o, ⟨buf, src, now, p, hin', hp, hdst, hread⟩, hb⟩ := hcalls l (by simp [hl])
    cases hin.symm.trans hin'
    rw [hp, Option.map_some, Option.some.injEq, Prod.mk.injEq, Prod.mk.injEq] at hparams
    obtain ⟨hobject, har, hkey⟩ := hparams
    rw [hobject, har, hkey, hseed] at hread
    refine ⟨h, l, hr, hlen, hl, htimes, fun c hc => ?_, hf⟩
    rw [hb.same c hc]
    exact ⟨hdst, k, hread⟩
  · cases hp

end Pnio
