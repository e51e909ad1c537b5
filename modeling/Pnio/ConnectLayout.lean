import Pnio.ConnectSpec
import Pnio.RtFrame

/-!
Which accepted ARs can start their cyclic exchange. The checks of Connect and of the layout
agree on the objects and their ends; the layout also wants them apart, and neither looks at the
clock or at what a frame can hold.
-/

namespace Pnio

/-- The layout can be built, both CRs have a period, the consumer has a watchdog, and the
provider frame is one the network carries. -/
def CanStart (p : ArParams) (model : DeviceModel) : Prop :=
  ∃ layout, Layout.fromAr p model = .ok layout ∧ layout.inputCr.period ≠ 0 ∧
    layout.outputCr.period ≠ 0 ∧ layout.outputCr.watchdog ≠ 0 ∧
    frameLen layout.inputCr.dataLength ≤ maxFrameLen

/-- A CR with a clock that ticks and objects that lie apart. -/
structure IocrBlockReq.Startable (cr : IocrBlockReq) (model : DeviceModel) (dir : Dir) : Prop where
  ticks : 0 < cr.sendClockFactor.toNat * cr.reductionRatio.toNat
  step : cr.sendClockFactor.toNat * cr.reductionRatio.toNat ≤ 65535
  apart : ((IocrParams.fromReq cr).spans model dir).Pairwise Span.Apart

/-- What neither check asks for. -/
structure ConnectReq.Startable (req : ConnectReq) (model : DeviceModel) : Prop where
  input : ∀ cr ∈ req.iocrs, cr.iocrType = 1 →
    cr.Startable model .input ∧ cr.dataLength.toNat ≤ 1498
  output : ∀ cr ∈ req.iocrs, cr.iocrType = 2 →
    cr.Startable model .output ∧ 0 < cr.dataHoldFactor.toNat

section Start

variable {p : ArParams} {model : DeviceModel} {layout : Layout}

lemma exists_fromAr {inputCr outputCr : CrLayout}
    (hi : buildCr p.inputCr model .input = .ok inputCr)
    (ho : buildCr p.outputCr model .output = .ok outputCr) :
    ∃ layout, Layout.fromAr p model = .ok layout ∧ layout.inputCr = inputCr ∧
      layout.outputCr = outputCr :=
  ⟨_, Res.bind_eq_ok.2 ⟨inputCr, hi, Res.bind_eq_ok.2 ⟨outputCr, ho, rfl⟩⟩, rfl, rfl⟩

/-- The period of a CR whose step does not overflow. -/
lemma period_table {cr : IocrParams} {dir : Dir}
    (h : cr.sendClockFactor.toNat * cr.reductionRatio.toNat ≤ 65535) :
    (cr.table model dir).cycleStep.toNat = cr.sendClockFactor.toNat * cr.reductionRatio.toNat := by
  rw [IocrParams.table, UInt16.toNat_mul]
  exact Nat.mod_eq_of_lt (by omega)

lemma period_ne_zero_iff {cr : IocrParams} {dir : Dir}
    (h : cr.sendClockFactor.toNat * cr.reductionRatio.toNat ≤ 65535) :
    (cr.table model dir).period ≠ 0 ↔ 0 < cr.sendClockFactor.toNat * cr.reductionRatio.toNat := by
  have hp : (cr.table model dir).period =
      cycleUnit * (cr.sendClockFactor.toNat * cr.reductionRatio.toNat) := by
    rw [CrLayout.period, period_table h]
  have hunit : cycleUnit ≠ 0 := by decide
  rw [hp, mul_ne_zero_iff, and_iff_right hunit, Nat.pos_iff_ne_zero]

lemma watchdog_ne_zero_iff {cr : IocrParams} {dir : Dir}
    (h : cr.sendClockFactor.toNat * cr.reductionRatio.toNat ≤ 65535) :
    (cr.table model dir).watchdog ≠ 0 ↔
      0 < cr.dataHoldFactor.toNat ∧ 0 < cr.sendClockFactor.toNat * cr.reductionRatio.toNat := by
  have hw : (cr.table model dir).watchdog = cr.dataHoldFactor.toNat *
      (cr.sendClockFactor.toNat * cr.reductionRatio.toNat) * cycleUnit := by
    have hstep : (cr.table model dir).cycleStep.toNat = _ := period_table h
    rw [← hstep]
    rfl
  have hunit : cycleUnit ≠ 0 := by decide
  rw [hw, mul_ne_zero_iff, and_iff_left hunit, mul_ne_zero_iff, Nat.pos_iff_ne_zero,
    Nat.pos_iff_ne_zero]

lemma frameLen_le_iff (n : Nat) : frameLen n ≤ maxFrameLen ↔ n ≤ 1498 := by
  unfold frameLen maxFrameLen csduMin apduLen
  omega

/-- The parameters of a CR, whichever FrameID it got. -/
def IocrParams.Of (q : IocrParams) (cr : IocrBlockReq) : Prop :=
  ∃ id, q = { IocrParams.fromReq cr with frameId := id }

lemma Accepted.input_of {req : ConnectReq} {input output : IocrBlockReq}
    (h : Accepted req model p input output) : p.inputCr.Of input :=
  ⟨_, h.inputCr⟩

lemma Accepted.output_of {req : ConnectReq} {input output : IocrBlockReq}
    (h : Accepted req model p input output) : p.outputCr.Of output := by
  unfold IocrParams.Of
  rw [h.outputCr]
  split_ifs
  · exact ⟨_, rfl⟩
  · exact ⟨_, rfl⟩

/-- A CR that was checked gets its table, with a period, exactly if it is startable. -/
lemma built_iff_startable {q : IocrParams} {cr : IocrBlockReq} {dir : Dir} (hq : q.Of cr)
    (hfits : (IocrParams.fromReq cr).Fits model dir) :
    (buildCr q model dir = .ok (q.table model dir) ∧ (q.table model dir).period ≠ 0) ↔
      cr.Startable model dir := by
  obtain ⟨id, rfl⟩ := hq
  constructor
  · rintro ⟨hb, hp⟩
    obtain ⟨hstep, -, hd, -⟩ := buildCr_eq_ok.1 hb
    exact ⟨(period_ne_zero_iff hstep).1 hp, hstep, hd⟩
  · intro hs
    refine ⟨buildCr_eq_ok.2 ⟨hs.step, ⟨hfits.known, hfits.within⟩, hs.apart, rfl⟩, ?_⟩
    exact (period_ne_zero_iff hs.step).2 hs.ticks

end Start

/-- **An accepted AR can start its cyclic exchange exactly if its request is startable.** -/
theorem canStart_iff_startable {req : ConnectReq} {model : DeviceModel} {p : ArParams}
    (h : validate req model = .ok p) : CanStart p model ↔ req.Startable model := by
  obtain ⟨input, output, ha⟩ := validate_accepted h
  obtain ⟨hin, htin⟩ := ha.mem_input
  obtain ⟨hout, htout⟩ := ha.mem_output
  have hI := built_iff_startable ha.input_of ha.fits_input.2
  have hO := built_iff_startable ha.output_of ha.fits_output.2
  have hlen : p.inputCr.dataLength = input.dataLength := by
    obtain ⟨id, hq⟩ := ha.input_of
    rw [hq]
    rfl
  have hhold : p.outputCr.dataHoldFactor = output.dataHoldFactor := by
    obtain ⟨id, hq⟩ := ha.output_of
    rw [hq]
    rfl
  constructor
  · rintro ⟨layout, hl, hpi, hpo, hw, hf⟩
    obtain ⟨hbi, hbo, -⟩ := Layout.fromAr_eq_ok.1 hl
    obtain ⟨-, -, -, heqi⟩ := buildCr_eq_ok.1 hbi
    obtain ⟨hstep, -, -, heqo⟩ := buildCr_eq_ok.1 hbo
    rw [← heqi] at hbi hpi hf
    rw [← heqo] at hbo hpo hw
    refine ⟨fun cr hcr ht => ?_, fun cr hcr ht => ?_⟩
    · rcases ha.eq_of_mem hcr with rfl | rfl
      · exact ⟨hI.1 ⟨hbi, hpi⟩, hlen ▸ (frameLen_le_iff _).1 hf⟩
      · exact absurd (ht.symm.trans htout) (by decide)
    · rcases ha.eq_of_mem hcr with rfl | rfl
      · exact absurd (ht.symm.trans htin) (by decide)
      · exact ⟨hO.1 ⟨hbo, hpo⟩, hhold ▸ ((watchdog_ne_zero_iff hstep).1 hw).1⟩
  · intro hs
    obtain ⟨hsi, hle⟩ := hs.input input hin htin
    obtain ⟨hso, hpos⟩ := hs.output output hout htout
    obtain ⟨hbi, hpi⟩ := hI.2 hsi
    obtain ⟨hbo, hpo⟩ := hO.2 hso
    obtain ⟨hstep, -⟩ := buildCr_eq_ok.1 hbo
    obtain ⟨layout, hl, hli, hlo⟩ := exists_fromAr hbi hbo
    refine ⟨layout, hl, ?_, ?_, ?_, ?_⟩
    · rw [hli]
      exact hpi
    · rw [hlo]
      exact hpo
    · rw [hlo]
      exact (watchdog_ne_zero_iff hstep).2 ⟨hhold ▸ hpos, (period_ne_zero_iff hstep).1 hpo⟩
    · have hle' : p.inputCr.dataLength.toNat ≤ 1498 := by
        rw [hlen]
        exact hle
      rw [hli]
      exact (frameLen_le_iff _).2 hle'

theorem canStart_good :
    ∃ p, validate ConnectDemo.good ConnectDemo.model = .ok p ∧ CanStart p ConnectDemo.model := by
  have hp : (ConnectDemo.params ConnectDemo.good).isSome = true := by decide +kernel
  obtain ⟨p, hp⟩ := Option.isSome_iff_exists.1 hp
  have hv := ConnectDemo.validate_of_params hp
  have hsi : (ConnectDemo.iocr 1 0x8000 [⟨1, 1, 0⟩] []).Startable ConnectDemo.model .input :=
    ⟨by decide, by decide, by decide⟩
  have hso : (ConnectDemo.iocr 2 0x8001 [] [⟨1, 1, 0⟩]).Startable ConnectDemo.model .output :=
    ⟨by decide, by decide, by decide⟩
  refine ⟨p, hv, (canStart_iff_startable hv).2 ⟨fun cr hcr ht => ?_, fun cr hcr ht => ?_⟩⟩
  · rcases List.mem_pair.1 hcr with rfl | rfl
    · exact ⟨hsi, by decide⟩
    · exact absurd ht (by decide)
  · rcases List.mem_pair.1 hcr with rfl | rfl
    · exact absurd ht (by decide)
    · exact ⟨hso, by decide⟩

/-- Two status bytes in one place: the Connect is accepted and the layout cannot be built. -/
theorem overlap_accepted :
    ∃ req p, validate req ConnectDemo.model = .ok p ∧
      Layout.fromAr p ConnectDemo.model = .err (.overlap 1 1) ∧ ¬ CanStart p ConnectDemo.model := by
  have hp : (ConnectDemo.params (ConnectDemo.request [ConnectDemo.expected]
      (ConnectDemo.iocr 1 0x8000 [⟨1, 1, 0⟩] [⟨1, 1, 1⟩]) (ConnectDemo.iocr 2 0x8001 [] []))).any
      (fun p => Layout.fromAr p ConnectDemo.model == .err (.overlap 1 1)) = true := by
    decide +kernel
  obtain ⟨p, hp, hl⟩ := (Option.any_eq_true _ _).1 hp
  have hl := beq_iff_eq.1 hl
  refine ⟨_, p, ConnectDemo.validate_of_params hp, hl, ?_⟩
  rintro ⟨layout, hok, -⟩
  rw [hl] at hok
  cases hok

end Pnio
