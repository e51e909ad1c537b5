import Pnio.Api
import Pnio.EngineRun

/-!
What goes out on the wire, cycle after cycle. The engine fills one C-SDU over and over; what a
tick leaves in it is either overwritten by the next one or was zero from the start.
-/

namespace Pnio

namespace EngineCall

/-- The timer expirations a call reports. -/
def expirations : EngineCall → Nat
  | .tick _ n _ => n.toNat
  | _ => 0

/-- A tick comes with an image of the whole C-SDU. -/
def HasFullImage (l : Layout) : EngineCall → Prop
  | .tick _ _ inputs => inputs.length = l.inputCr.dataLength
  | _ => True

instance (l : Layout) (c : EngineCall) : Decidable (c.HasFullImage l) := by
  cases c <;> unfold HasFullImage <;> infer_instance

end EngineCall

/-- The expirations of a run, all together. -/
def expirationsOf (log : List EngineTurn) : Nat := (log.map fun turn => turn.call.expirations).sum

lemma expirationsOf_snoc (log : List EngineTurn) (turn : EngineTurn) :
    expirationsOf (log ++ [turn]) = expirationsOf log + turn.call.expirations := by
  simp [expirationsOf]

/-! ### The other calls leave the provider alone -/

namespace RtEngine

variable {ε : Type} {e e' : RtEngine}

/-- The parts of an engine that its frames are made of, and the counters of the frames. -/
structure SameTx (e e' : RtEngine) : Prop where
  layout : e'.layout = e.layout
  ourMac : e'.ourMac = e.ourMac
  cpuMac : e'.cpuMac = e.cpuMac
  txCsdu : e'.txCsdu = e.txCsdu
  cycleCounter : e'.cycleCounter = e.cycleCounter
  sent : e'.stats.tx = e.stats.tx
  missed : e'.stats.missedTicks = e.stats.missedTicks

lemma onFrame_sameTx {frame : Bytes} {now : Instant} {verdict : RxVerdict}
    (h : (e.onFrame frame now : Res ε _) = .ok (e', verdict)) : SameTx e e' := by
  cases onFrame_step h <;> exact ⟨rfl, rfl, rfl, rfl, rfl, rfl, rfl⟩

lemma checkWatchdog_sameTx (e : RtEngine) (now : Instant) : SameTx e (e.checkWatchdog now).1 := by
  unfold checkWatchdog
  split
  · exact ⟨rfl, rfl, rfl, rfl, rfl, rfl, rfl⟩
  · split_ifs
    · exact ⟨rfl, rfl, rfl, rfl, rfl, rfl, rfl⟩
    · split <;> exact ⟨rfl, rfl, rfl, rfl, rfl, rfl, rfl⟩

end RtEngine

/-! ### Along a run -/

/-- A byte of the C-SDU that no object and no status has. -/
def CrLayout.Spare (cr : CrLayout) (i : Nat) : Prop :=
  (∀ o ∈ cr.objects, ¬ o.span.Has i) ∧ ∀ c ∈ cr.iocs, ¬ c.span.Has i

/-- How the engine of a run stands to the ticks so far. -/
structure Provides (l : Layout) (ourMac cpuMac : MacAddr) (r : EngineRun) : Prop where
  built : RtEngine.Built l r.engine
  ourMac : r.engine.ourMac = ourMac
  cpuMac : r.engine.cpuMac = cpuMac
  counter : r.engine.cycleCounter.toNat =
    l.inputCr.cycleStep.toNat * expirationsOf r.log % 2 ^ 16
  spare : ∀ i < l.inputCr.dataLength, l.inputCr.Spare i → r.engine.txCsdu[i]? = some 0

/-- The counter wraps in each factor as it does in the product. -/
lemma counter_step {c step : UInt16} {n : UInt32} {sum : Nat}
    (h : c.toNat = step.toNat * sum % 2 ^ 16) :
    (c + step * n.toUInt16).toNat = step.toNat * (sum + n.toNat) % 2 ^ 16 := by
  rw [UInt16.toNat_add, UInt16.toNat_mul, UInt32.toNat_toUInt16, h, Nat.mul_add, ← Nat.add_mod,
    Nat.add_mod (step.toNat * sum), Nat.mul_mod_mod, ← Nat.add_mod]

namespace Provides

variable {l : Layout} {ourMac cpuMac : MacAddr} {r : EngineRun}

/-- A spare byte stays what it was. -/
lemma spare_filled (h : Provides l ourMac cpuMac r) {inputs csdu : Bytes}
    (hf : RtEngine.Filled l.inputCr inputs r.engine.txCsdu csdu) {i : Nat}
    (hi : i < l.inputCr.dataLength) (hs : l.inputCr.Spare i) : csdu[i]? = some 0 := by
  have hspan : ∀ s : Span, ¬ s.Has i → 0 < s.len → (⟨i, 1⟩ : Span).Apart s := by
    intro s hn hpos
    unfold Span.Has at hn
    unfold Span.Apart
    dsimp only
    omega
  have hcut : ∀ b : Bytes, b[i]? = (cut b ⟨i, 1⟩)[0]? := by
    intro b
    rw [cut, List.getElem?_take_of_lt Nat.one_pos, List.getElem?_drop, Nat.add_zero]
  rw [hcut, hf.rest ⟨i, 1⟩ (fun o ho => hspan _ (hs.1 o ho) (Nat.succ_pos _))
    (fun c hc => hspan _ (hs.2 c hc) Nat.one_pos), ← hcut, h.spare i hi hs]

/-- A call that leaves the provider alone. -/
lemma other (h : Provides l ourMac cpuMac r) {e : RtEngine} {turn : EngineTurn}
    (hb : RtEngine.Built l e) (htx : r.engine.SameTx e) (hn : turn.call.expirations = 0) :
    Provides l ourMac cpuMac ⟨e, r.log ++ [turn]⟩ := by
  refine ⟨hb, htx.ourMac.trans h.ourMac, htx.cpuMac.trans h.cpuMac, ?_, ?_⟩
  · rw [htx.cycleCounter, h.counter, expirationsOf_snoc, hn, Nat.add_zero]
  · rw [htx.txCsdu]
    exact h.spare

/-- A tick. -/
lemma tick (h : Provides l ourMac cpuMac r) {problem : Bool} {n : UInt32} {inputs csdu : Bytes}
    {reply : EngineReply} (hf : RtEngine.Filled l.inputCr inputs r.engine.txCsdu csdu) :
    Provides l ourMac cpuMac ⟨r.engine.ticked n (r.engine.provided problem n csdu),
      r.log ++ [⟨.tick problem n inputs, reply⟩]⟩ := by
  refine ⟨RtEngine.built_ticked h.built n hf.length, h.ourMac, h.cpuMac, ?_, ?_⟩
  · rw [expirationsOf_snoc]
    have := h.built.layout
    subst this
    exact counter_step h.counter
  · intro i hi hs
    exact h.spare_filled hf hi hs

end Provides

section Reach

variable {l : Layout} {ourMac cpuMac : MacAddr} {stats : RtStats} {r : EngineRun}

lemma provides_reach (hl : l.inputCr.Sound)
    (h : (engineSystem l ourMac cpuMac stats).ReachWhen (fun _ c => c.HasFullImage l) r) :
    Provides l ourMac cpuMac r := by
  refine h.inv ?_ ?_
  · rintro r rfl
    refine ⟨RtEngine.built_new _ _ _ _, rfl, rfl, rfl, fun i hi _ => ?_⟩
    exact List.getElem?_replicate_of_lt hi
  · intro r c r' hp hfull hs
    obtain ⟨e, reply, hc, rfl⟩ := engine_step hs
    cases c with
    | tick problem n inputs =>
      obtain ⟨csdu, hf, htick⟩ := RtEngine.onTick_filled (ε := Empty) hp.built hl problem n
        (le_of_eq (Eq.symm hfull))
      simp only [RtEngine.call, htick, Res.ok_bind] at hc
      cases hc
      exact hp.tick hf
    | frame bytes now =>
      obtain ⟨⟨e1, verdict⟩, hframe, hc⟩ := Res.bind_eq_ok.1 hc
      cases hc
      exact hp.other (RtEngine.onFrame_built hp.built hframe) (RtEngine.onFrame_sameTx hframe) rfl
    | check now =>
      cases hc
      exact hp.other (RtEngine.checkWatchdog_built hp.built now)
        (r.engine.checkWatchdog_sameTx now) rfl
    | stale =>
      cases hc
      exact hp.other ⟨hp.built.layout, hp.built.tx, hp.built.txCsdu, hp.built.rxCsdu⟩
        ⟨rfl, rfl, rfl, rfl, rfl, rfl, rfl⟩ rfl

end Reach

/-- What a frame of the input CR shows: whose it is, the status and the count of its cycle, and in
the C-SDU the data of this image, good status bytes and otherwise zeros. -/
structure Shows (l : Layout) (problem : Bool) (cycles : Nat) (inputs : Bytes) (rt : RtFrame) :
    Prop where
  frameId : rt.frameId = l.inputCr.frameId
  transferStatus : rt.transferStatus = 0
  dataStatus : rt.dataStatus.val = if problem then 0x15 else 0x35
  cycleCounter : rt.cycleCounter.toNat = l.inputCr.cycleStep.toNat * cycles % 2 ^ 16
  length : rt.csdu.length = max l.inputCr.dataLength csduMin
  data : ∀ o ∈ l.inputCr.objects, ∀ i, o.data.Has i → rt.csdu[i]? = inputs[i]?
  iops : ∀ o ∈ l.inputCr.objects, rt.csdu[o.iopsOff]? = some 0x80
  iocs : ∀ c ∈ l.inputCr.iocs, rt.csdu[c.iocsOff]? = some 0x80
  rest : ∀ i < rt.csdu.length, l.inputCr.Spare i → rt.csdu[i]? = some 0

lemma getElem?_of_cut_eq {b b' : Bytes} {s : Span} (h : cut b s = cut b' s) {i : Nat}
    (hi : s.Has i) : b[i]? = b'[i]? := by
  have hget : ∀ x : Bytes, x[i]? = (cut x s)[i - s.off]? := by
    intro c
    obtain ⟨hlo, hhi⟩ := hi
    rw [cut, List.getElem?_take_of_lt (by omega), List.getElem?_drop, Nat.add_sub_cancel' hlo]
  rw [hget b, hget b', h]

lemma getElem?_of_cut_singleton {b : Bytes} {off : Nat} {x : UInt8} (h : cut b ⟨off, 1⟩ = [x]) :
    b[off]? = some x := by
  have hget : b[off]? = (cut b ⟨off, 1⟩)[0]? := by
    rw [cut, List.getElem?_take_of_lt Nat.one_pos, List.getElem?_drop, Nat.add_zero]
  rw [hget, h]
  rfl

/-- **Every cycle shows the present image and nothing else.** In every run of an engine whose
layout was built for an AR, with any calls and whole images at the ticks, the next tick produces a
frame, and it is read back with the addresses of both ends, the counter of all expirations so far
and a C-SDU that has only the image of this tick. -/
theorem tick_shows_image {params : ArParams} {model : DeviceModel} {l : Layout}
    (hl : Layout.fromAr params model = .ok l) {ourMac cpuMac : MacAddr} {stats : RtStats}
    {r : EngineRun}
    (hr : (engineSystem l ourMac cpuMac stats).ReachWhen (fun _ c => c.HasFullImage l) r)
    (problem : Bool) (n : UInt32) (inputs : Bytes)
    (hin : inputs.length = l.inputCr.dataLength) :
    ∃ e' frame rt, (r.engine.onTick problem n inputs : Res Empty _) = .ok (e', frame) ∧
      RtFrame.parse frame = .ok (⟨cpuMac, ourMac, some tciRt, ethertypeProfinet⟩, rt) ∧
      Shows l problem (expirationsOf r.log + n.toNat) inputs rt := by
  have hsound := buildCr_sound (Layout.fromAr_eq_ok.1 hl).1
  have hp := provides_reach hsound hr
  obtain ⟨csdu, hf, htick⟩ := RtEngine.onTick_filled (ε := Empty) hp.built hsound problem n
    (le_of_eq hin.symm)
  refine ⟨_, _, (r.engine.provided problem n csdu).padded, htick, ?_, ?_⟩
  · rw [RtFrame.parse_bytes, hp.ourMac, hp.cpuMac]
  · -- the padding lies behind all that the layout places
    have hpad : ∀ i < l.inputCr.dataLength,
        (csdu ++ List.replicate (csduMin - csdu.length) 0)[i]? = csdu[i]? := fun i hi =>
      List.getElem?_append_left (hf.length.symm ▸ hi)
    have hlayout := hp.built.layout
    refine ⟨?_, rfl, ?_, ?_, ?_, ?_, ?_, ?_, ?_⟩
    · rw [← hlayout]
      rfl
    · cases problem <;> rfl
    · have := counter_step (n := n) hp.counter
      rw [← hlayout] at this ⊢
      exact this
    · simp only [RtFrame.padded, RtEngine.provided, List.length_append, List.length_replicate,
        hf.length]
      omega
    · intro o ho i hi
      have hw := hsound.object_within ho
      have hlt : i < l.inputCr.dataLength := by
        have := hi.2
        unfold IoObject.data at this
        dsimp only at this
        omega
      exact (hpad i hlt).trans (getElem?_of_cut_eq (hf.data o ho) hi)
    · intro o ho
      have hw := hsound.object_within ho
      have hi := hsound.iops o ho
      exact (hpad _ (by omega)).trans (getElem?_of_cut_singleton (hf.iops o ho))
    · intro c hc
      have hw := hsound.iocs_within hc
      exact (hpad _ (by omega)).trans (getElem?_of_cut_singleton (hf.iocs c hc))
    · intro i hi hs
      rcases Nat.lt_or_ge i l.inputCr.dataLength with hlt | hge
      · exact (hpad i hlt).trans (hp.spare_filled hf hlt hs)
      · have hlen : csdu.length ≤ i := hf.length.symm ▸ hge
        simp only [RtFrame.padded, RtEngine.provided, List.length_append,
          List.length_replicate] at hi ⊢
        rw [List.getElem?_append_right hlen, List.getElem?_replicate, if_pos (by omega)]

namespace AppDemo

/-- The engine after a tick with an image of ones and three expirations. -/
def lateTick : EngineCall := .tick true 3 (List.replicate 40 0xFF)

def ticked (r : EngineRun) : Bool := expirationsOf r.log = 3

end AppDemo

open AppDemo in
/-- After an image of ones, an image of zeros: nothing of the first is left, and four cycles are
counted. -/
theorem tick_shows_image_of_zeros :
    ∃ r e' frame rt, (engineSystem AppDemo.layout mac params.initiatorMac {}).ReachWhen
        (fun _ c => c.HasFullImage AppDemo.layout) r ∧
      (r.engine.onTick false 1 (List.replicate 40 0) : Res Empty _) = .ok (e', frame) ∧
      RtFrame.parse frame =
        .ok (⟨params.initiatorMac, mac, some tciRt, ethertypeProfinet⟩, rt) ∧
      rt.csdu[0]? = some 0 ∧ rt.csdu[3]? = some 0x80 ∧ rt.cycleCounter.toNat = 128 := by
  have hrun : ((engineSystem AppDemo.layout mac params.initiatorMac {}).runWhen
      (fun _ c => c.HasFullImage AppDemo.layout)
      ⟨.new AppDemo.layout mac params.initiatorMac {}, []⟩
      [lateTick]).any AppDemo.ticked = true := by
    decide +kernel
  obtain ⟨r, hr, hn⟩ := System.exists_reachWhen_of_run
    (S := engineSystem AppDemo.layout mac params.initiatorMac {}) rfl hrun
  obtain ⟨e', frame, rt, htick, hparse, hs⟩ := tick_shows_image fromAr_params hr false 1
    (List.replicate 40 0) rfl
  have hobj : (⟨1, 1, 0, 3, 3⟩ : IoObject) ∈ AppDemo.layout.inputCr.objects := by
    simp [AppDemo.layout, layoutCr]
  refine ⟨r, e', frame, rt, hr, htick, hparse, ?_, hs.iops _ hobj, ?_⟩
  · exact hs.data _ hobj 0 ⟨le_refl _, by decide⟩
  · rw [hs.cycleCounter, of_decide_eq_true hn]
    rfl

end Pnio
