import Pnio.LayoutSpec
import Pnio.Lib.Bits
import Pnio.RtEngine

/-!
What the engine's frames carry: the provider frame has the data of every object where the layout
puts it, and what is received is the C-SDU of the last frame with valid data.
-/

namespace Pnio

/-! ### The table of a CR -/

/-- The data of an object and the status byte behind it. -/
def IoObject.span (o : IoObject) : Span := ⟨o.dataOff, o.dataLen + 1⟩

/-- The data of an object. -/
def IoObject.data (o : IoObject) : Span := ⟨o.dataOff, o.dataLen⟩

/-- The status byte of an object. -/
def IoObject.iops (o : IoObject) : Span := ⟨o.iopsOff, 1⟩

def CsObject.span (o : CsObject) : Span := ⟨o.iocsOff, 1⟩

/-- All that a CR carries lies within its C-SDU, and apart. -/
structure CrLayout.Sound (cr : CrLayout) : Prop where
  iops : ∀ o ∈ cr.objects, o.iopsOff = o.dataOff + o.dataLen
  within : ∀ s ∈ cr.objects.map IoObject.span ++ cr.iocs.map CsObject.span,
    s.off + s.len ≤ cr.dataLength
  apart : (cr.objects.map IoObject.span ++ cr.iocs.map CsObject.span).Pairwise Span.Apart

/-- A layout that could be built is sound. -/
lemma buildCr_sound {cr : IocrParams} {model : DeviceModel} {dir : Dir} {l : CrLayout}
    (h : buildCr cr model dir = .ok l) : l.Sound := by
  obtain ⟨-, hfits, hapart, rfl⟩ := buildCr_eq_ok.1 h
  have hspans : (cr.table model dir).objects.map IoObject.span ++
      (cr.table model dir).iocs.map CsObject.span = cr.spans model dir := by
    rw [IocrParams.table, IocrParams.spans, List.map_map, List.map_map]
    rfl
  refine ⟨fun o ho => ?_, ?_, ?_⟩
  · obtain ⟨obj, -, rfl⟩ := List.mem_map.1 ho
    rfl
  · rw [hspans]
    exact hfits.within
  · rw [hspans]
    exact hapart

lemma Span.Apart.data {o : IoObject} {s : Span} (h : s.Apart o.span) : s.Apart o.data := by
  unfold Apart IoObject.span IoObject.data at *
  dsimp only at *
  omega

lemma Span.Apart.iops {o : IoObject} {s : Span} (h : s.Apart o.span)
    (hi : o.iopsOff = o.dataOff + o.dataLen) : s.Apart o.iops := by
  unfold Apart IoObject.span IoObject.iops at *
  dsimp only at *
  omega

namespace CrLayout.Sound

variable {cr : CrLayout} {o : IoObject}

lemma object_within (h : cr.Sound) (ho : o ∈ cr.objects) :
    o.dataOff + o.dataLen + 1 ≤ cr.dataLength :=
  h.within o.span (List.mem_append_left _ (List.mem_map_of_mem ho))

lemma iocs_within (h : cr.Sound) {cs : CsObject} (hc : cs ∈ cr.iocs) :
    cs.iocsOff + 1 ≤ cr.dataLength :=
  h.within cs.span (List.mem_append_right _ (List.mem_map_of_mem hc))

/-- Different objects have their data apart. -/
lemma data_apart (h : cr.Sound) {o' : IoObject} (ho : o ∈ cr.objects) (ho' : o' ∈ cr.objects)
    (hne : o ≠ o') : o.data.Apart o'.data := by
  have hpw := List.pairwise_map.1 (List.pairwise_append.1 h.apart).1
  have : Std.Symm fun a b : IoObject => a.span.Apart b.span := ⟨fun _ _ hab => hab.symm⟩
  exact (hpw.forall ho ho' hne).data.symm.data.symm

end CrLayout.Sound

/-! ### The frame -/

namespace RtFrame

/-- The frame as it is read back: its C-SDU has at least the minimal length. -/
def padded (f : RtFrame) : RtFrame :=
  { f with csdu := f.csdu ++ List.replicate (csduMin - f.csdu.length) 0 }

lemma length_padded (f : RtFrame) : csduMin ≤ f.padded.csdu.length := by
  rw [padded, List.length_append, List.length_replicate]
  omega

lemma bytes_eq (f : RtFrame) (dst src : MacAddr) :
    f.bytes dst src = EthHeader.write ⟨dst, src, some tciRt, ethertypeProfinet⟩ ++
      (be16 f.frameId ++ (f.padded.csdu ++
        (be16 f.cycleCounter ++ [f.dataStatus.val, f.transferStatus]))) := by
  simp [bytes, padded, EthHeader.write, EthHeader.tag]

/-- What is written is read back. -/
lemma parse_bytes (f : RtFrame) (dst src : MacAddr) :
    parse (f.bytes dst src) =
      .ok (⟨dst, src, some tciRt, ethertypeProfinet⟩, f.padded) := by
  have hmin := f.length_padded
  rw [bytes_eq]
  have heth := EthHeader.length_write_tagged dst src tciRt ethertypeProfinet
  have hparse := EthHeader.parse_write_tagged dst src tciRt ethertypeProfinet
    (be16 f.frameId ++ (f.padded.csdu ++
      (be16 f.cycleCounter ++ [f.dataStatus.val, f.transferStatus])))
  generalize EthHeader.write ⟨dst, src, some tciRt, ethertypeProfinet⟩ = w at heth hparse ⊢
  have hlen : (w ++ (be16 f.frameId ++ (f.padded.csdu ++
      (be16 f.cycleCounter ++ [f.dataStatus.val, f.transferStatus])))).length =
      24 + f.padded.csdu.length := by
    simp only [List.length_append, heth, length_be16, List.length_cons, List.length_nil]
    omega
  have hid : (u16At (w ++ (be16 f.frameId ++ (f.padded.csdu ++
      (be16 f.cycleCounter ++ [f.dataStatus.val, f.transferStatus])))) 18 :
      Res FrameError _) = .ok f.frameId := by
    rw [u16At_append_right (by omega), heth, Nat.sub_self, u16At_be16]
  have hcsdu : (slice (w ++ (be16 f.frameId ++ (f.padded.csdu ++
      (be16 f.cycleCounter ++ [f.dataStatus.val, f.transferStatus]))))
      (18 + 2) (20 + f.padded.csdu.length) : Res FrameError _) = .ok f.padded.csdu := by
    rw [← List.append_assoc]
    exact slice_append_mid (by rw [List.length_append, heth, length_be16]) rfl
  have hapdu : (slice (w ++ (be16 f.frameId ++ (f.padded.csdu ++
      (be16 f.cycleCounter ++ [f.dataStatus.val, f.transferStatus]))))
      (20 + f.padded.csdu.length) (24 + f.padded.csdu.length) : Res FrameError _) =
      .ok (be16 f.cycleCounter ++ [f.dataStatus.val, f.transferStatus]) := by
    rw [← hlen, ← List.append_assoc, ← List.append_assoc]
    refine slice_append_rest ?_
    rw [List.length_append, List.length_append, heth, length_be16]
  unfold parse
  rw [hparse, Res.mapErr_ok, Res.ok_bind]
  dsimp only
  rw [Res.reject_of_not (by simp), Res.ok_bind, hlen,
    Res.reject_of_not (by simp only [csduMin, apduLen] at hmin ⊢; omega), Res.ok_bind, hid,
    Res.ok_bind, apduLen, show 24 + f.padded.csdu.length - 4 = 20 + f.padded.csdu.length by omega,
    hcsdu, Res.ok_bind, hapdu, Res.ok_bind, u16At_be16, Res.ok_bind,
    idx_append_right (by simp), idx_append_right (by simp)]
  rfl

end RtFrame

/-! ### Producing -/

namespace RtEngine

variable {ε : Type}

/-- What stays of the engine that was built from a layout. -/
structure Built (l : Layout) (e : RtEngine) : Prop where
  layout : e.layout = l
  tx : e.tx.length = frameLen l.inputCr.dataLength
  txCsdu : e.txCsdu.length = l.inputCr.dataLength
  rxCsdu : e.rxCsdu.length = l.outputCr.dataLength

lemma built_new (l : Layout) (ourMac cpuMac : MacAddr) (stats : RtStats) :
    Built l (RtEngine.new l ourMac cpuMac stats) :=
  ⟨rfl, List.length_replicate, List.length_replicate, List.length_replicate⟩

section Produce

variable (inputs csdu : Bytes) {o : IoObject}

/-- One object: its data and its status are in place, and nothing outside its range changes. -/
lemma putObject_spec (hi : o.iopsOff = o.dataOff + o.dataLen)
    (hc : o.dataOff + o.dataLen + 1 ≤ csdu.length) (hin : o.dataOff + o.dataLen ≤ inputs.length) :
    ∃ csdu', (putObject inputs csdu o : Res ε _) = .ok csdu' ∧ csdu'.length = csdu.length ∧
      cut csdu' o.data = cut inputs o.data ∧ cut csdu' o.iops = [ioxsGood] ∧
      ∀ s, s.Apart o.span → cut csdu' s = cut csdu s := by
  have hdata : (slice inputs o.dataOff (o.dataOff + o.dataLen) : Res ε _) =
      .ok (cut inputs o.data) := by
    rw [slice_of_le ⟨Nat.le_add_right _ _, hin⟩, Nat.add_sub_cancel_left]
    rfl
  have hlen : (cut inputs o.data).length = o.dataLen := length_cut hin
  obtain ⟨c1, h1⟩ : ∃ c1, (patch csdu o.dataOff (cut inputs o.data) : Res ε _) = .ok c1 :=
    ⟨_, patch_eq_ok.2 ⟨by rw [hlen]; omega, rfl⟩⟩
  have hlen1 := length_of_patch h1
  obtain ⟨c2, h2⟩ : ∃ c2, (patch c1 o.iopsOff [ioxsGood] : Res ε _) = .ok c2 :=
    ⟨_, patch_eq_ok.2 ⟨by rw [List.length_singleton]; omega, rfl⟩⟩
  refine ⟨c2, ?_, (length_of_patch h2).trans hlen1, ?_, cut_patch_self h2, fun s hs => ?_⟩
  · rw [putObject, hdata, Res.ok_bind, h1, Res.ok_bind, h2]
  · -- the status byte is behind the data
    have hapart : o.data.Apart ⟨o.iopsOff, [ioxsGood].length⟩ := .inl (le_of_eq hi.symm)
    have hself := cut_patch_self h1
    rw [hlen] at hself
    exact (cut_patch_apart h2 hapart).trans hself
  · have h4 : s.Apart ⟨o.dataOff, (cut inputs o.data).length⟩ := by
      rw [hlen]
      exact hs.data
    exact (cut_patch_apart h2 (hs.iops hi)).trans (cut_patch_apart h1 h4)

/-- The loop over the objects. -/
lemma putObjects_spec {os : List IoObject} (hi : ∀ o ∈ os, o.iopsOff = o.dataOff + o.dataLen)
    (hc : ∀ o ∈ os, o.dataOff + o.dataLen + 1 ≤ csdu.length)
    (hin : ∀ o ∈ os, o.dataOff + o.dataLen ≤ inputs.length)
    (hapart : (os.map IoObject.span).Pairwise Span.Apart) :
    ∃ csdu', (os.foldlM (putObject inputs) csdu : Res ε _) = .ok csdu' ∧
      csdu'.length = csdu.length ∧
      (∀ o ∈ os, cut csdu' o.data = cut inputs o.data ∧ cut csdu' o.iops = [ioxsGood]) ∧
      ∀ s, (∀ o ∈ os, s.Apart o.span) → cut csdu' s = cut csdu s := by
  induction os generalizing csdu with
  | nil => exact ⟨csdu, rfl, rfl, List.forall_mem_nil _, fun _ _ => rfl⟩
  | cons o os ih =>
    simp only [List.forall_mem_cons] at hi hc hin
    obtain ⟨hfirst, hapart⟩ := List.pairwise_cons.1 hapart
    obtain ⟨c1, h1, hlen1, hdata1, hiops1, hkeep1⟩ :=
      putObject_spec (ε := ε) inputs csdu hi.1 hc.1 hin.1
    obtain ⟨c2, h2, hlen2, hdata2, hkeep2⟩ := ih c1 hi.2 (hlen1.symm ▸ hc.2) hin.2 hapart
    -- what the first object wrote is not touched by the others
    have hother : ∀ o' ∈ os, o'.span.Apart o.span := fun o' ho' =>
      (hfirst _ (List.mem_map_of_mem ho')).symm
    refine ⟨c2, ?_, hlen2.trans hlen1, ?_, fun s hs => ?_⟩
    · rw [List.foldlM_cons, h1, Res.ok_bind, h2]
    · rw [List.forall_mem_cons]
      refine ⟨⟨?_, ?_⟩, hdata2⟩
      · rw [hkeep2 o.data fun o' ho' => (hother o' ho').data.symm, hdata1]
      · rw [hkeep2 o.iops fun o' ho' => ((hother o' ho').iops hi.1).symm, hiops1]
    · rw [List.forall_mem_cons] at hs
      rw [hkeep2 s hs.2, hkeep1 s hs.1]

/-- The loop over the status bytes of the other direction. -/
lemma putIocs_spec {cs : List CsObject} (hc : ∀ c ∈ cs, c.iocsOff + 1 ≤ csdu.length)
    (hapart : (cs.map CsObject.span).Pairwise Span.Apart) :
    ∃ csdu', (cs.foldlM putIocs csdu : Res ε _) = .ok csdu' ∧ csdu'.length = csdu.length ∧
      (∀ c ∈ cs, cut csdu' c.span = [ioxsGood]) ∧
      ∀ s, (∀ c ∈ cs, s.Apart c.span) → cut csdu' s = cut csdu s := by
  induction cs generalizing csdu with
  | nil => exact ⟨csdu, rfl, rfl, List.forall_mem_nil _, fun _ _ => rfl⟩
  | cons c cs ih =>
    rw [List.forall_mem_cons] at hc
    obtain ⟨hfirst, hapart⟩ := List.pairwise_cons.1 hapart
    obtain ⟨c1, h1⟩ : ∃ c1, (patch csdu c.iocsOff [ioxsGood] : Res ε _) = .ok c1 :=
      ⟨_, patch_eq_ok.2 ⟨hc.1, rfl⟩⟩
    have hlen1 := length_of_patch h1
    obtain ⟨c2, h2, hlen2, hgood, hkeep⟩ := ih c1 (hlen1.symm ▸ hc.2) hapart
    refine ⟨c2, ?_, hlen2.trans hlen1, ?_, fun s hs => ?_⟩
    · rw [List.foldlM_cons, putIocs, h1, Res.ok_bind, h2]
    · rw [List.forall_mem_cons]
      refine ⟨?_, hgood⟩
      rw [hkeep c.span fun c' hc' => hfirst _ (List.mem_map_of_mem hc')]
      exact cut_patch_self h1
    · rw [List.forall_mem_cons] at hs
      rw [hkeep s hs.2]
      exact cut_patch_apart h1 hs.1

end Produce

/-- The C-SDU of a cycle: the inputs of every object, every status good, and the bytes of nobody
as they were. -/
structure Filled (cr : CrLayout) (inputs old csdu : Bytes) : Prop where
  length : csdu.length = cr.dataLength
  data : ∀ o ∈ cr.objects, cut csdu o.data = cut inputs o.data
  iops : ∀ o ∈ cr.objects, cut csdu o.iops = [ioxsGood]
  iocs : ∀ c ∈ cr.iocs, cut csdu c.span = [ioxsGood]
  rest : ∀ s, (∀ o ∈ cr.objects, s.Apart o.span) → (∀ c ∈ cr.iocs, s.Apart c.span) →
    cut csdu s = cut old s

/-- The frame of a cycle. -/
def provided (e : RtEngine) (problem : Bool) (expirations : UInt32) (csdu : Bytes) : RtFrame :=
  { frameId := e.layout.inputCr.frameId
    csdu
    cycleCounter := e.cycleCounter + e.layout.inputCr.cycleStep * expirations.toUInt16
    dataStatus :=
      if problem then DataStatus.runPrimaryValidProblem else DataStatus.runPrimaryValidOk
    transferStatus := 0 }

/-- The engine after it. -/
def ticked (e : RtEngine) (expirations : UInt32) (rt : RtFrame) : RtEngine :=
  { e with
    txCsdu := rt.csdu
    cycleCounter := rt.cycleCounter
    tx := rt.bytes e.cpuMac e.ourMac
    stats := { e.stats with
      tx := e.stats.tx + 1
      missedTicks := e.stats.missedTicks + (expirations.toNat - 1) } }

/-- **The provider frame** is produced, from a C-SDU that is filled. -/
lemma onTick_filled {l : Layout} {e : RtEngine} (hb : Built l e) (hs : l.inputCr.Sound)
    (problem : Bool) (expirations : UInt32) {inputs : Bytes}
    (hin : l.inputCr.dataLength ≤ inputs.length) :
    ∃ csdu, Filled l.inputCr inputs e.txCsdu csdu ∧
      (e.onTick problem expirations inputs : Res ε _) =
        .ok (e.ticked expirations (e.provided problem expirations csdu),
          (e.provided problem expirations csdu).bytes e.cpuMac e.ourMac) := by
  obtain rfl := hb.layout
  obtain ⟨hapart, hapart', hcross⟩ := List.pairwise_append.1 hs.apart
  have hcross : ∀ o ∈ e.layout.inputCr.objects, ∀ c ∈ e.layout.inputCr.iocs,
      c.span.Apart o.span := fun o ho c hc =>
    (hcross _ (List.mem_map_of_mem ho) _ (List.mem_map_of_mem hc)).symm
  obtain ⟨c1, h1, hlen1, hdata, hkeep1⟩ := putObjects_spec (ε := ε) inputs e.txCsdu hs.iops
    (fun o ho => hb.txCsdu.symm ▸ hs.object_within ho)
    (fun o ho => le_trans (Nat.le_of_succ_le (hs.object_within ho)) hin) hapart
  obtain ⟨c2, h2, hlen2, hgood, hkeep2⟩ := putIocs_spec (ε := ε) c1
    (fun c hc => (hlen1.trans hb.txCsdu).symm ▸ hs.iocs_within hc) hapart'
  have hlen : c2.length = e.layout.inputCr.dataLength := (hlen2.trans hlen1).trans hb.txCsdu
  refine ⟨c2, ⟨hlen, fun o ho => ?_, fun o ho => ?_, hgood, fun s ho hc => ?_⟩, ?_⟩
  · rw [hkeep2 o.data fun c hc => (hcross o ho c hc).data.symm, (hdata o ho).1]
  · rw [hkeep2 o.iops fun c hc => ((hcross o ho c hc).iops (hs.iops o ho)).symm, (hdata o ho).2]
  · rw [hkeep2 s hc, hkeep1 s ho]
  · have htx : ((e.provided problem expirations c2).bytes e.cpuMac e.ourMac).length =
        e.tx.length := by
      rw [RtFrame.length_bytes, hb.tx]
      exact congrArg frameLen hlen
    have hwrite : (e.provided problem expirations c2).write e.tx e.cpuMac e.ourMac =
        .ok ((e.provided problem expirations c2).bytes e.cpuMac e.ourMac,
          ((e.provided problem expirations c2).bytes e.cpuMac e.ourMac).length) := by
      rw [RtFrame.write, ← RtFrame.length_bytes _ e.cpuMac e.ourMac, htx,
        Res.reject_of_not (lt_irrefl _), Res.ok_bind, patch_full htx, Res.ok_bind]
    unfold provided at hwrite
    unfold onTick
    dsimp only
    rw [h1, Res.ok_bind, h2, Res.ok_bind, hwrite, Res.attempt_ok, Res.ok_bind]
    dsimp only
    rw [List.take_length]
    rfl

lemma built_ticked {l : Layout} {e : RtEngine} (hb : Built l e) (expirations : UInt32)
    {rt : RtFrame} (hlen : rt.csdu.length = l.inputCr.dataLength) :
    Built l (e.ticked expirations rt) := by
  refine ⟨hb.layout, ?_, hlen, hb.rxCsdu⟩
  rw [ticked, RtFrame.length_bytes, hlen]

/-- The inputs of every object are in the frame where the layout has them. -/
theorem onTick_spec {l : Layout} {e : RtEngine} (hb : Built l e) (hs : l.inputCr.Sound)
    (problem : Bool) (expirations : UInt32) {inputs : Bytes}
    (hin : l.inputCr.dataLength ≤ inputs.length) :
    ∃ e' : RtEngine, ∃ rt : RtFrame, (e.onTick problem expirations inputs : Res ε _) =
        .ok (e', rt.bytes e.cpuMac e.ourMac) ∧
      Built l e' ∧ rt.csdu.length = l.inputCr.dataLength ∧
      ∀ o ∈ l.inputCr.objects, cut rt.csdu o.data = cut inputs o.data := by
  obtain ⟨csdu, hf, htick⟩ := onTick_filled (ε := ε) hb hs problem expirations hin
  exact ⟨_, _, htick, built_ticked hb expirations hf.length, hf.length, hf.data⟩

/-! ### Consuming -/

/-- A frame the engine accepts. -/
structure Takes (e : RtEngine) (frame : Bytes) (eth : EthHeader) (rt : RtFrame) : Prop where
  parse : RtFrame.parse frame = .ok (eth, rt)
  src : eth.src = e.cpuMac
  frameId : rt.frameId = e.layout.outputCr.frameId
  transferStatus : rt.transferStatus = 0
  csdu : e.layout.outputCr.dataLength ≤ rt.csdu.length

/-- A frame the engine has no use for: malformed, from another sender or of another CR, not
transferred well, or too short for the CR. -/
inductive Unusable (e : RtEngine) (frame : Bytes) : Prop
  | malformed {err : FrameError} (h : RtFrame.parse frame = .err err)
  | foreign {eth : EthHeader} {rt : RtFrame} (h : RtFrame.parse frame = .ok (eth, rt))
      (hf : eth.src ≠ e.cpuMac ∨ rt.frameId ≠ e.layout.outputCr.frameId)
  | transferStatus {eth : EthHeader} {rt : RtFrame} (h : RtFrame.parse frame = .ok (eth, rt))
      (ht : rt.transferStatus ≠ 0)
  | short {eth : EthHeader} {rt : RtFrame} (h : RtFrame.parse frame = .ok (eth, rt))
      (hl : rt.csdu.length < e.layout.outputCr.dataLength)

end RtEngine

instance RtFrame.noPanic_parse (frame : Bytes) : (RtFrame.parse frame).NoPanic := by
  refine Res.noPanic_bind_of inferInstance fun r _ => ?_
  obtain ⟨eth, off⟩ := r
  refine Res.noPanic_bind_of inferInstance fun _ _ => ?_
  refine Res.noPanic_bind_of inferInstance fun _ hlen => ?_
  rw [Res.reject_eq_ok, not_lt] at hlen
  simp only [csduMin, apduLen] at hlen ⊢
  refine Res.noPanic_bind_of (Res.noPanic_of_returns (u16At_of_le (by omega))) fun _ _ => ?_
  refine Res.noPanic_bind_of (noPanic_slice ⟨by omega, by omega⟩) fun _ _ => ?_
  refine Res.noPanic_bind_of (noPanic_slice ⟨by omega, by omega⟩) fun apdu hs => ?_
  have hapdu := length_of_slice hs
  refine Res.noPanic_bind_of (Res.noPanic_of_returns (u16At_of_le (by omega))) fun _ _ => ?_
  refine Res.noPanic_bind_of (noPanic_idx (by omega)) fun _ _ => ?_
  refine Res.noPanic_bind_of (noPanic_idx (by omega)) fun _ _ => ?_
  exact Res.noPanic_ok _

namespace RtEngine

variable {ε : Type} {l : Layout} {e : RtEngine} {frame : Bytes} {eth : EthHeader} {rt : RtFrame}

/-- Every frame is one or the other. -/
lemma unusable_or_takes (e : RtEngine) (frame : Bytes) :
    e.Unusable frame ∨ ∃ eth rt, e.Takes frame eth rt := by
  cases hp : RtFrame.parse frame with
  | panic p => exact absurd hp ((RtFrame.noPanic_parse frame).ne_panic p)
  | err err => exact .inl (.malformed hp)
  | ok r =>
    obtain ⟨eth, rt⟩ := r
    by_cases hf : eth.src ≠ e.cpuMac ∨ rt.frameId ≠ e.layout.outputCr.frameId
    · exact .inl (.foreign hp hf)
    by_cases ht : rt.transferStatus = 0
    · rcases Nat.lt_or_ge rt.csdu.length e.layout.outputCr.dataLength with hl | hl
      · exact .inl (.short hp hl)
      · rw [not_or, not_not, not_not] at hf
        exact .inr ⟨eth, rt, hp, hf.1, hf.2, ht, hl⟩
    · exact .inl (.transferStatus hp ht)

/-- **A frame without use changes nothing but the counters.** -/
lemma onFrame_unusable (h : e.Unusable frame) (now : Instant) :
    ∃ stats verdict, (e.onFrame frame now : Res ε _) = .ok ({ e with stats }, verdict) ∧
      ∀ p q d, verdict ≠ .accepted p q d := by
  unfold onFrame
  cases h with
  | malformed h =>
    rw [h]
    exact ⟨_, _, rfl, fun _ _ _ h => by cases h⟩
  | foreign h hf =>
    rw [h, Res.attempt_ok, Res.ok_bind]
    dsimp only
    rw [if_pos hf]
    exact ⟨_, _, rfl, fun _ _ _ h => by cases h⟩
  | transferStatus h ht =>
    rw [h, Res.attempt_ok, Res.ok_bind]
    dsimp only
    split_ifs <;> exact ⟨_, _, rfl, fun _ _ _ h => by cases h⟩
  | short h hl =>
    rw [h, Res.attempt_ok, Res.ok_bind]
    dsimp only
    split_ifs <;> exact ⟨_, _, rfl, fun _ _ _ h => by cases h⟩

lemma takeCsdu_spec (hb : Built l e) (hs : l.outputCr.Sound) {csdu : Bytes}
    (hlen : l.outputCr.dataLength ≤ csdu.length) :
    ∃ e', (e.takeCsdu csdu : Res ε _) = .ok e' ∧ Built l e' ∧ e'.cpuMac = e.cpuMac ∧
      e'.rxCsdu = csdu.take l.outputCr.dataLength := by
  obtain rfl := hb.layout
  have hslice : (slice csdu 0 e.layout.outputCr.dataLength : Res ε _) =
      .ok (csdu.take e.layout.outputCr.dataLength) := by
    rw [slice_of_le ⟨Nat.zero_le _, hlen⟩, List.drop_zero, Nat.sub_zero]
  have hrx : (csdu.take e.layout.outputCr.dataLength).length = e.rxCsdu.length := by
    rw [List.length_take, hb.rxCsdu]
    omega
  obtain ⟨iops, hiops⟩ : ∃ iops, (e.layout.outputCr.objects.mapM fun obj =>
      idx (csdu.take e.layout.outputCr.dataLength) obj.iopsOff : Res ε _) = .ok iops := by
    refine Res.mapM_returns fun o ho => ⟨_, idx_of_lt ?_⟩
    have hw := hs.object_within ho
    have hi := hs.iops o ho
    rw [hrx, hb.rxCsdu]
    omega
  obtain ⟨iocs, hiocs⟩ : ∃ iocs, (e.layout.outputCr.iocs.mapM fun cs =>
      idx (csdu.take e.layout.outputCr.dataLength) cs.iocsOff : Res ε _) = .ok iocs := by
    refine Res.mapM_returns fun cs hcs => ⟨_, idx_of_lt ?_⟩
    have hw := hs.iocs_within hcs
    rw [hrx, hb.rxCsdu]
    omega
  unfold takeCsdu
  dsimp only
  rw [hslice, Res.ok_bind, patch_full hrx, Res.ok_bind, hiops, Res.ok_bind, hiocs, Res.ok_bind]
  exact ⟨_, rfl, ⟨rfl, hb.tx, hb.txCsdu, hrx.trans hb.rxCsdu⟩, rfl, rfl⟩

/-- **An accepted frame**: its C-SDU is kept if its data is valid. -/
lemma onFrame_takes (hb : Built l e) (hs : l.outputCr.Sound) (h : e.Takes frame eth rt)
    (now : Instant) :
    ∃ e', (e.onFrame frame now : Res ε _) =
        .ok (e', .accepted rt.dataStatus.providerRun rt.dataStatus.primary
          rt.dataStatus.dataValid) ∧ Built l e' ∧ e'.cpuMac = e.cpuMac ∧
      e'.rxCsdu =
        if rt.dataStatus.dataValid then rt.csdu.take l.outputCr.dataLength else e.rxCsdu := by
  have hforeign : ¬ (eth.src ≠ e.cpuMac ∨ rt.frameId ≠ e.layout.outputCr.frameId) := by
    rw [not_or, not_not, not_not]
    exact ⟨h.src, h.frameId⟩
  have hheard : Built l (e.heard rt now) := ⟨hb.layout, hb.tx, hb.txCsdu, hb.rxCsdu⟩
  unfold onFrame
  rw [h.parse, Res.attempt_ok, Res.ok_bind]
  dsimp only
  rw [if_neg hforeign, if_neg (not_not.2 h.transferStatus), if_neg (not_lt.2 h.csdu)]
  by_cases hv : rt.dataStatus.dataValid
  · obtain ⟨e', he', hb', hmac, hrx⟩ :=
      takeCsdu_spec (ε := ε) hheard hs (hb.layout ▸ h.csdu)
    rw [if_pos hv, if_pos hv, he']
    exact ⟨e', rfl, hb', hmac, hrx⟩
  · rw [if_neg hv, if_neg hv]
    exact ⟨_, rfl, ⟨hb.layout, hb.tx, hb.txCsdu, hb.rxCsdu⟩, rfl, rfl⟩

/-! ### Any use of an engine -/

/-- The engine built from a layout, after any use. -/
inductive Used (l : Layout) : RtEngine → Prop
  | new (ourMac cpuMac : MacAddr) (stats : RtStats) : Used l (RtEngine.new l ourMac cpuMac stats)
  | tick {ε : Type} {e e' : RtEngine} {problem : Bool} {n : UInt32} {inputs frame : Bytes}
      (h : Used l e) (ht : (e.onTick problem n inputs : Res ε _) = .ok (e', frame)) : Used l e'
  | frame {ε : Type} {e e' : RtEngine} {frame : Bytes} {now : Instant} {verdict : RxVerdict}
      (h : Used l e) (hf : (e.onFrame frame now : Res ε _) = .ok (e', verdict)) : Used l e'
  | watchdog {e : RtEngine} (h : Used l e) (now : Instant) : Used l (e.checkWatchdog now).1
  | stale {e : RtEngine} (h : Used l e) : Used l e.markOutputsStale

lemma onTick_built {e' : RtEngine} {problem : Bool} {n : UInt32} {inputs frame : Bytes}
    (hb : Built l e) (h : (e.onTick problem n inputs : Res ε _) = .ok (e', frame)) :
    Built l e' := by
  have hrx := onTick_sameRx h
  unfold onTick at h
  obtain ⟨c1, h1, h⟩ := Res.bind_eq_ok.1 h
  obtain ⟨c2, h2, h⟩ := Res.bind_eq_ok.1 h
  obtain ⟨r, hw, h⟩ := Res.bind_eq_ok.1 h
  have hlen1 : c1.length = e.txCsdu.length := by
    refine Res.foldlM_inv (I := fun c : Bytes => c.length = e.txCsdu.length) ?_ rfl h1
    intro c o c' hc hput
    obtain ⟨data, -, hput⟩ := Res.bind_eq_ok.1 hput
    obtain ⟨c3, h3, h4⟩ := Res.bind_eq_ok.1 hput
    exact ((length_of_patch h4).trans (length_of_patch h3)).trans hc
  have hlen2 : c2.length = e.txCsdu.length := by
    refine Res.foldlM_inv (I := fun c : Bytes => c.length = e.txCsdu.length) ?_ hlen1 h2
    exact fun c o c' hc hput => (length_of_patch hput).trans hc
  rcases Res.attempt_eq_ok.1 hw with ⟨⟨tx, k⟩, hwrite, rfl⟩ | ⟨_, -, rfl⟩
  · cases h
    obtain ⟨_, -, hwrite⟩ := Res.bind_eq_ok.1 hwrite
    obtain ⟨tx', hp, hwrite⟩ := Res.bind_eq_ok.1 hwrite
    cases hwrite
    exact ⟨hrx.layout.trans hb.layout, (length_of_patch hp).trans hb.tx, hlen2.trans hb.txCsdu,
      hb.rxCsdu⟩
  · cases h

lemma onFrame_built {e' : RtEngine} {now : Instant} {verdict : RxVerdict} (hb : Built l e)
    (h : (e.onFrame frame now : Res ε _) = .ok (e', verdict)) : Built l e' := by
  cases onFrame_step h with
  | dropped => exact ⟨hb.layout, hb.tx, hb.txCsdu, hb.rxCsdu⟩
  | ignored => exact ⟨hb.layout, hb.tx, hb.txCsdu, hb.rxCsdu⟩
  | valid hc => exact ⟨hb.layout, hb.tx, hb.txCsdu, hc.trans hb.rxCsdu⟩
  | invalid => exact ⟨hb.layout, hb.tx, hb.txCsdu, hb.rxCsdu⟩

lemma checkWatchdog_built (hb : Built l e) (now : Instant) : Built l (e.checkWatchdog now).1 := by
  unfold checkWatchdog
  split
  · exact hb
  · split_ifs
    · exact ⟨hb.layout, hb.tx, hb.txCsdu, hb.rxCsdu⟩
    · split
      · exact hb
      · exact ⟨hb.layout, hb.tx, hb.txCsdu, hb.rxCsdu⟩

lemma Used.built (h : Used l e) : Built l e := by
  induction h with
  | new ourMac cpuMac stats => exact built_new l ourMac cpuMac stats
  | tick _ ht ih => exact onTick_built ih ht
  | frame _ hf ih => exact onFrame_built ih hf
  | watchdog _ now ih => exact checkWatchdog_built ih now
  | stale _ ih => exact ⟨ih.layout, ih.tx, ih.txCsdu, ih.rxCsdu⟩

end RtEngine

end Pnio
