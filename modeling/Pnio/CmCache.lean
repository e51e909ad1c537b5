import Pnio.CmTotal
import Mathlib.Data.List.DropRight

/-!
Requests are executed at most once: a retransmitted request is answered from the cache, which
holds the responses of the last requests that were executed.
-/

namespace Pnio

/-- The datagram is a Response PDU. -/
def isResponse (b : Bytes) : Bool :=
  match RpcHeader.parse b with
  | .ok h => h.ptype = .response
  | _ => false

/-- The Response PDUs among the datagrams to send. -/
def CmOutput.responses (out : CmOutput) : List Outgoing := out.send.filter (isResponse ·.bytes)

/-- The request a call executed, with the response it was given: one that is not in the cache. -/
def CmCall.executed (s : CmCall) : Option (CacheKey × Bytes) :=
  match s.input with
  | .datagram buf _ _ =>
    match RpcHeader.parse buf with
    | .ok h =>
      match NdrRequest.parse (buf.drop 80) h.drep with
      | .ok _ =>
        if h.ptype = .request ∧ h.interface = pnioDeviceInterface ∧
            s.before.cacheLookup h.key = none then
          s.out.responses.head?.map fun o => (h.key, o.bytes)
        else none
      | _ => none
    | _ => none
  | _ => none

/-- The requests executed so far, oldest first. -/
def CmHist.executed (h : CmHist) : List (CacheKey × Bytes) := h.log.filterMap CmCall.executed

/-! ### One response to each request -/

@[simp] lemma isResponse_responsePdu (ctx : RespondCtx) (s : PnioStatus) (b : Bytes) :
    isResponse (buildResponsePdu ctx s b) = true := by
  obtain ⟨n, h⟩ := parse_responsePdu ctx s b
  simp [isResponse, h, responseHeader]

@[simp] lemma isResponse_callPdu (cm : Cm) (object : Uuid) (seq : UInt32) (b : Bytes) :
    isResponse (cm.callPdu object seq b) = false := by
  simp [isResponse, parse_callPdu, callHeader]

namespace Cm

variable {cm cm' : Cm} {opnum : UInt16} {blocks : Bytes} {now : Instant} {ctx : RespondCtx}
  {out : CmOutput} {buf : Bytes} {h : RpcHeader} {n : NdrRequest} {src : SocketAddr}

/-- A request that is executed gets exactly one response, and that is what is cached. -/
lemma Answered.response (hr : Answered cm opnum blocks now ctx cm' out) :
    ∃ s b, cm'.cache = (cm.keep ctx s b).cache ∧ out.responses = [ctx.reply s b] := by
  cases hr with
  | refused hz => exact ⟨_, _, rfl, by simp [CmOutput.responses, RespondCtx.reply]⟩
  | told => exact ⟨_, _, rfl, by simp [CmOutput.responses, RespondCtx.reply]⟩
  | connect => exact ⟨_, _, rfl, by simp [CmOutput.responses, RespondCtx.reply]⟩
  | takeover => exact ⟨_, _, rfl, by simp [CmOutput.responses, RespondCtx.reply]⟩
  | takeoverRefused => exact ⟨_, _, rfl, by simp [CmOutput.responses, RespondCtx.reply]⟩
  | write => exact ⟨_, _, rfl, by simp [CmOutput.responses, RespondCtx.reply]⟩
  | prmEnd => exact ⟨_, _, rfl, by simp [CmOutput.responses, RespondCtx.reply]⟩
  | release => exact ⟨_, _, rfl, by simp [CmOutput.responses, RespondCtx.reply]⟩

/-- A request in the cache is answered from it; nothing else happens. -/
lemma handleDatagram_cached {bytes : Bytes} (hh : RpcHeader.parse buf = .ok h)
    (ht : h.ptype = .request) (hi : h.interface = pnioDeviceInterface)
    (hl : cm.cacheLookup h.key = some bytes) :
    cm.handleDatagram buf src now = .ok (cm, ⟨[⟨bytes, src⟩], []⟩) := by
  have hl' : cm.cacheLookup (h.activity, h.seqNum) = some bytes := hl
  unfold handleDatagram
  rw [hh, Res.ok_bind, slice_body hh, Res.ok_bind, if_neg (by simp [ht]), if_neg (by simp [ht]),
    Res.reject_of_not (by simp [hi]), Res.ok_bind, hl']

/-- A request that is not in the cache is executed. -/
lemma asked_answered (ha : Asked buf h n blocks) (hl : cm.cacheLookup h.key = none)
    (hj : cm.Joint) (hn : cm.model.NameFits)
    (hv : cm.acceptsPrmEnd (.datagram buf src now) → cm.callSeq.toNat + 1 < 4294967296) :
    ∃ cm' out, cm.handleDatagram buf src now = .ok (cm', out) ∧
      Answered cm h.opnum blocks now (h.respondCtx n src) cm' out := by
  obtain ⟨⟨cm1, acts⟩, hs⟩ := serve_returns (ε := RpcError) (hj.ready hn) h.opnum blocks src now
  have hsv := serve_served hs
  obtain ⟨⟨cm', out⟩, happly⟩ :
      ∃ r, (cm1.apply acts (some (h.respondCtx n src)) true : Res RpcError _) = .ok r :=
    served_applies hsv hj
      fun cb c ho hp hcmd hst hc hu => hv (acceptsPrmEnd_of ha hl ho hp hcmd hst hc hu)
  refine ⟨cm', out, ?_, served_answered hsv happly⟩
  rw [handleDatagram_asked ha hl, hs]
  exact happly

end Cm

/-! ### The cache holds the last requests -/

/-- What a queue of four keeps when one more is pushed. -/
lemma rtake_push {α : Type} (l : List α) (a : α) :
    (if cacheCapacity ≤ (l.rtake cacheCapacity).length then (l.rtake cacheCapacity).tail
      else l.rtake cacheCapacity) ++ [a] = (l ++ [a]).rtake cacheCapacity := by
  have hc : cacheCapacity = 3 + 1 := rfl
  rw [hc, List.rtake_concat_succ, List.append_left_inj]
  simp only [List.rtake, List.length_drop, List.tail_drop]
  split_ifs with h
  · congr 1
    omega
  · congr 1
    omega

/-- The cache against the history. -/
structure CacheInv (h : CmHist) : Prop where
  last : h.cm.cache = h.executed.rtake cacheCapacity
  distinct : (h.cm.cache.map (·.1)).Nodup
  responses : ∀ e ∈ h.executed, isResponse e.2

lemma Cm.cacheLookup_eq_none {cm : Cm} {key : CacheKey} (h : cm.cacheLookup key = none) :
    key ∉ cm.cache.map (·.1) := by
  intro hm
  obtain ⟨e, he, rfl⟩ := List.mem_map.1 hm
  simp only [cacheLookup, Option.map_eq_none_iff, List.find?_eq_none] at h
  exact h e he (beq_self_eq_true e.1)

/-- A call that executes no request leaves the cache alone. -/
lemma CacheInv.same {h : CmHist} (hi : CacheInv h) {s : CmCall} {cm' : Cm}
    (hs : s.executed = none) (hc : cm'.cache = h.cm.cache) :
    CacheInv ⟨cm', h.log ++ [s]⟩ := by
  have hex : CmHist.executed ⟨cm', h.log ++ [s]⟩ = h.executed := by
    simp [CmHist.executed, hs]
  refine ⟨?_, ?_, ?_⟩
  · rw [hex]
    exact hc.trans hi.last
  · rw [hc]
    exact hi.distinct
  · rw [hex]
    exact hi.responses

/-- A request that was executed is the last one in the cache. -/
lemma CacheInv.push {h : CmHist} (hi : CacheInv h) {s : CmCall} {cm' : Cm} {key : CacheKey}
    {pdu : Bytes} (hs : s.executed = some (key, pdu)) (hl : h.cm.cacheLookup key = none)
    (hc : cm'.cache = (h.cm.cacheInsert key pdu).cache) (hr : isResponse pdu) :
    CacheInv ⟨cm', h.log ++ [s]⟩ := by
  have hex : CmHist.executed ⟨cm', h.log ++ [s]⟩ = h.executed ++ [(key, pdu)] := by
    simp [CmHist.executed, hs]
  have hkept : cm'.cache =
      (if cacheCapacity ≤ h.cm.cache.length then h.cm.cache.tail else h.cm.cache) ++
        [(key, pdu)] := hc
  refine ⟨?_, ?_, ?_⟩
  · rw [hex, ← rtake_push, ← hi.last]
    exact hkept
  · rw [hkept, List.map_append, List.nodup_append]
    have hsub : (if cacheCapacity ≤ h.cm.cache.length then h.cm.cache.tail else
        h.cm.cache).Sublist h.cm.cache := by
      split_ifs
      · exact List.tail_sublist _
      · exact List.Sublist.refl _
    refine ⟨hi.distinct.sublist (hsub.map _), List.nodup_singleton _, ?_⟩
    rintro a ha b hb rfl
    rw [List.map_singleton, List.mem_singleton] at hb
    have hm := (hsub.map _).subset ha
    rw [hb] at hm
    exact Cm.cacheLookup_eq_none hl hm
  · intro e he
    rw [hex, List.mem_append, List.mem_singleton] at he
    rcases he with he | rfl
    · exact hi.responses e he
    · exact hr

lemma CmCall.executed_of_quiet {cm cm' : Cm} {i : CmInput} {out : CmOutput}
    (h : out.responses = []) : CmCall.executed ⟨cm, i, cm', out⟩ = none := by
  unfold executed
  simp only [h, List.head?_nil, Option.map_none, ite_self]
  split
  · split
    · split <;> rfl
    · rfl
  · rfl

lemma CacheInv.step {h : CmHist} (hi : CacheInv h) {i : CmInput} {cm' : Cm} {out : CmOutput}
    (hst : h.cm.Stepped i cm' out) : CacheInv ⟨cm', h.log ++ [⟨h.cm, i, cm', out⟩]⟩ := by
  cases hst with
  | silent => exact hi.same (CmCall.executed_of_quiet rfl) rfl
  | @replay buf src now hd bytes hh ht hl =>
    refine hi.same ?_ rfl
    simp only [CmCall.executed, hh, hl]
    split <;> simp
  | @request buf src now hd n blocks _ _ ha hl hr =>
    obtain ⟨s, b, hcache, hresp⟩ := hr.response
    refine hi.push ?_ hl hcache (isResponse_responsePdu _ s b)
    simp only [CmCall.executed, ha.header, ha.body, ha.ptype, ha.interface, hl, hresp]
    rfl
  | data hs => exact hi.same (CmCall.executed_of_quiet rfl) rfl
  | rejected hs => exact hi.same (CmCall.executed_of_quiet rfl) rfl
  | activityTimeout hs => exact hi.same (CmCall.executed_of_quiet rfl) rfl
  | retry hs hdue ha hc hb hd hk =>
    exact hi.same (CmCall.executed_of_quiet (by simp [CmOutput.responses])) rfl
  | failed hs hdue ha => exact hi.same (CmCall.executed_of_quiet rfl) rfl
  | aborted hs => exact hi.same (CmCall.executed_of_quiet rfl) rfl

lemma cacheInv_reach {model : DeviceModel} {seed : Uuid} {h : CmHist}
    (hr : (histSystem model seed).Reach h) : CacheInv h := by
  refine hr.inv (I := CacheInv) ?_ ?_
  · rintro h ⟨im0, im, rfl⟩
    exact ⟨rfl, List.nodup_nil, List.forall_mem_nil _⟩
  · intro h i h' hi hs
    obtain ⟨cm', out, hst, rfl⟩ := hist_step hs
    exact hi.step hst

/-! ### At most once -/

lemma Cm.cacheLookup_of_mem {cm : Cm} {key : CacheKey} {b : Bytes}
    (hd : (cm.cache.map (·.1)).Nodup) (hm : (key, b) ∈ cm.cache) :
    cm.cacheLookup key = some b := by
  cases hl : cm.cacheLookup key with
  | none => exact absurd (List.mem_map.2 ⟨_, hm, rfl⟩) (cacheLookup_eq_none hl)
  | some b' =>
    have hsame := List.inj_on_of_nodup_map hd (cacheLookup_mem hl) hm rfl
    exact congrArg some (Prod.mk.inj hsame).2

/-- The requests executed after the given one are fewer than the cache can hold. -/
lemma CacheInv.lookup {h : CmHist} (hi : CacheInv h) {key : CacheKey} {b : Bytes}
    {pre post : List (CacheKey × Bytes)} (hex : h.executed = pre ++ (key, b) :: post)
    (hpost : post.length < cacheCapacity) : h.cm.cacheLookup key = some b := by
  refine Cm.cacheLookup_of_mem hi.distinct ?_
  rw [hi.last, hex, List.rtake]
  have hle : (pre ++ (key, b) :: post).length - cacheCapacity ≤ pre.length := by
    rw [List.length_append, List.length_cons]
    omega
  rw [List.drop_append_of_le_length hle]
  exact List.mem_append_right _ List.mem_cons_self

/-- Requests are executed at most once and answered exactly once, as far as the cache reaches. -/
structure AtMostOnce (h : CmHist) : Prop where
  /-- The cache holds the last four requests executed, under different keys. -/
  cache : h.cm.cache = h.executed.rtake 4 ∧ h.cm.cache.length ≤ 4 ∧
    (h.cm.cache.map (·.1)).Nodup
  /-- Every request is answered by one Response, sent to where it came from. -/
  answered : ∀ buf hd n blocks src now, Asked buf hd n blocks →
    h.prmEnds + (if h.cm.acceptsPrmEnd (.datagram buf src now) then 1 else 0) < 4294967296 →
    ∃ cm' out o, h.cm.handleDatagram buf src now = .ok (cm', out) ∧ out.responses = [o] ∧
      o.dst = src
  /-- A request executed before, with fewer than four others since, is answered with the same
  bytes; nothing is called or reported and the manager stays as it is. -/
  replayed : ∀ buf hd src now b pre post, RpcHeader.parse buf = .ok hd → hd.ptype = .request →
    hd.interface = pnioDeviceInterface → h.executed = pre ++ (hd.key, b) :: post →
    post.length < 4 → h.cm.handleDatagram buf src now = .ok (h.cm, ⟨[⟨b, src⟩], []⟩)

lemma atMostOnce_of_nameFits {model : DeviceModel} {seed : Uuid} (hn : model.NameFits) {h : CmHist}
    (hr : (histSystem model seed).Reach h) : AtMostOnce h := by
  have hi := cacheInv_reach hr
  refine ⟨⟨hi.last, ?_, hi.distinct⟩, ?_, ?_⟩
  · rw [hi.last, List.rtake, List.length_drop, cacheCapacity]
    omega
  · intro buf hd n blocks src now ha hcount
    have hseq := callSeq_le_prmEnds hr
    cases hl : h.cm.cacheLookup hd.key with
    | some bytes =>
      refine ⟨_, _, ⟨bytes, src⟩, Cm.handleDatagram_cached ha.header ha.ptype ha.interface hl, ?_,
        rfl⟩
      have hm := Cm.cacheLookup_mem hl
      rw [hi.last, List.rtake] at hm
      have hresp : isResponse bytes = true := hi.responses _ (List.mem_of_mem_drop hm)
      simp [CmOutput.responses, hresp]
    | none =>
      obtain ⟨cm', out, hok, hans⟩ := Cm.asked_answered ha hl (joint_reach hr)
        (model_reach hr ▸ hn) fun hacc => (by rw [if_pos hacc] at hcount; omega)
      obtain ⟨s, b, -, hresp⟩ := hans.response
      exact ⟨cm', out, _, hok, hresp, rfl⟩
  · intro buf hd src now b pre post hh ht hif hex hpost
    exact Cm.handleDatagram_cached hh ht hif (hi.lookup hex hpost)

/-- The Connect of a device whose name does not fit has no answer. -/
lemma not_atMostOnce {model : DeviceModel} (seed : Uuid) (hn : ¬ model.NameFits) :
    ¬ AtMostOnce ⟨Cm.new model seed, []⟩ := by
  intro hall
  obtain ⟨hd, n, ha, -⟩ := Demo.asked_connect
  obtain ⟨cm', out, o, hok, -⟩ := hall.answered _ hd n _ Demo.plc 0 ha (CmHist.first_returns _ _)
  have hpanic := connect_panics seed hn
  rw [Demo.recv, Cm.step, hok] at hpanic
  cases hpanic

/-- **At most once**: in every state of every run each request is answered by exactly one response
to its sender, the cache holds the last four requests executed, and a request among them is
answered from it without any further effect, if and only if the station name fits the response to
a Connect. -/
theorem atMostOnce_iff_nameFits (model : DeviceModel) (seed : Uuid) :
    (∀ h, (histSystem model seed).Reach h → AtMostOnce h) ↔ model.NameFits := by
  constructor
  · intro hall
    by_contra hn
    exact not_atMostOnce seed hn (hall _ (.init ⟨im0Default, ImStore.new, rfl⟩))
  · exact fun hn h hr => atMostOnce_of_nameFits hn hr

/-- The device with the long name does not answer its first Connect. -/
theorem long_name_unanswered :
    ¬ ∀ (model : DeviceModel) (seed : Uuid) (h : CmHist), (histSystem model seed).Reach h →
        AtMostOnce h := by
  intro hall
  obtain ⟨model, hn⟩ := exists_not_nameFits
  exact not_atMostOnce Demo.seed hn (hall model Demo.seed _ (.init ⟨im0Default, ImStore.new, rfl⟩))

end Pnio
