import Pnio.Api
import Pnio.Lib.Runs
import Pnio.RtData

/-!
From the wire to the application: what is read of an output field is what the last frame with
valid data had for it.
-/

namespace Pnio

/-! ### Reading -/

section Read

variable {cfg : DeviceConfig} {im : IoImage} {slot : UInt16} {cell : Cell} {off : Nat}

lemma IoImage.readOutputs_eq {subslot : UInt16}
    (hcell : im.cells.find? (fun c => c.slot == slot && c.subslot == subslot) = some cell)
    (hoff : cell.outputOff = some off) (hlen : off + cell.outputLen ≤ im.outputs.csdu.length) :
    im.readOutputs slot subslot =
      .ok (cut im.outputs.csdu ⟨off, cell.outputLen⟩, im.outputs.validity) := by
  rw [readOutputs, find, hcell, Res.okOr_some, Res.ok_bind, hoff, Res.okOr_some, Res.ok_bind]
  dsimp only
  rw [Res.reject_of_not (not_lt.2 hlen), Res.ok_bind, slice_of_le ⟨Nat.le_add_right _ _, hlen⟩,
    Res.ok_bind, Nat.add_sub_cancel_left]
  rfl

/-- A declared output field is found. -/
lemma IoDevice.field_eq (h : cfg.Sound) {fields : List FieldRef} {i : Nat} {r : FieldRef}
    (hfields : cfg.fields slot .output = some fields) (hr : fields[i]? = some r)
    (inputs : List Bytes) : (IoDevice.mk cfg im inputs).field slot .output i none = .ok r := by
  obtain ⟨k, hk, -⟩ := Option.bind_eq_some_iff.1 hfields
  obtain ⟨sm, d, hsm, -, -, -⟩ := h.lookup hk
  have hsub : cfg.submodule slot = some sm := Option.bind_eq_some_iff.2 ⟨k, hk, hsm⟩
  rw [field]
  dsimp only
  rw [hsub, Res.okOr_some, Res.ok_bind, hfields, Res.okOr_some, Res.ok_bind, hr, Res.okOr_some,
    Res.ok_bind]

/-- The value of a declared output field. -/
lemma IoDevice.read_eq (h : cfg.Sound) {fields : List FieldRef} {i : Nat} {r : FieldRef}
    (hfields : cfg.fields slot .output = some fields) (hr : fields[i]? = some r)
    (hcell : im.cells.find? (fun c => c.slot == slot && c.subslot == 1) = some cell)
    (hoff : cell.outputOff = some off) (hlen : off + cell.outputLen ≤ im.outputs.csdu.length)
    (hfits : r.Fits cell.outputLen) (inputs : List Bytes) :
    (IoDevice.mk cfg im inputs).read slot i =
      Res.mapErr .codec (r.get (cut im.outputs.csdu ⟨off, cell.outputLen⟩)) := by
  have hdata : (cut im.outputs.csdu ⟨off, cell.outputLen⟩).length = cell.outputLen :=
    length_cut hlen
  rw [read, field_eq h hfields hr, Res.ok_bind, decodeOutput]
  dsimp only
  rw [IoImage.readOutputs_eq hcell hoff hlen, Res.mapErr_ok, Res.ok_bind]
  dsimp only
  rw [slice_of_le ⟨hdata.symm ▸ hfits.byte_le, le_refl _⟩, Res.ok_bind,
    List.take_of_length_le (by rw [List.length_drop])]
  rfl

end Read

/-! ### Runs -/

/-- An engine and the image it publishes to, with the C-SDU of the last frame that was accepted
with valid data. -/
structure OutRun where
  engine : RtEngine
  image : IoImage
  last : Option Bytes

/-- A frame that is received, and the validity that is published with it. -/
structure OutInput where
  frame : Bytes
  now : Instant
  validity : Validity

/-- The C-SDU of a frame. -/
def csduOf (frame : Bytes) : Option Bytes :=
  match RtFrame.parse frame with
  | .ok (_, rt) => some rt.csdu
  | _ => none

/-- Every frame is given to the engine; what it accepts is published. -/
def outSystem (l : Layout) : System OutRun OutInput where
  init s := ∃ ourMac cpuMac stats image,
    s = ⟨.new l ourMac cpuMac stats, IoImage.rebuild image l, none⟩
  step s i :=
    match (s.engine.onFrame i.frame i.now : Res Empty _) with
    | .ok (engine, .accepted _ _ valid) => some
        { engine
          image := (s.image.rtPublish true engine.rxCsdu i.validity).1
          last := if valid then csduOf i.frame else s.last }
    | .ok (engine, _) => some { s with engine }
    | _ => none

section Inv

variable {l : Layout} {s s' : OutRun} {i : OutInput}

/-- What was received last: zeros before the first frame. -/
def Received (l : Layout) (rxCsdu : Bytes) : Option Bytes → Prop
  | none => rxCsdu = List.replicate l.outputCr.dataLength 0
  | some csdu => l.outputCr.dataLength ≤ csdu.length ∧ rxCsdu = csdu.take l.outputCr.dataLength

/-- The image shows what the engine received last. -/
structure OutInv (l : Layout) (s : OutRun) : Prop where
  built : RtEngine.Built l s.engine
  cells : s.image.cells = l.cells
  csdu : s.image.outputs.csdu = s.engine.rxCsdu
  received : Received l s.engine.rxCsdu s.last

/-- One frame: it is taken whatever it is, and the invariant is kept. -/
lemma OutInv.step (hs : l.outputCr.Sound) (hi : OutInv l s) (i : OutInput) :
    ∃ s', (outSystem l).step s i = some s' ∧ OutInv l s' := by
  unfold outSystem
  dsimp only
  rcases s.engine.unusable_or_takes i.frame with hu | ⟨eth, rt, ht⟩
  · obtain ⟨stats, verdict, hf, hno⟩ := RtEngine.onFrame_unusable (ε := Empty) hu i.now
    rw [hf]
    have hinv : OutInv l { s with engine := { s.engine with stats } } :=
      ⟨⟨hi.built.layout, hi.built.tx, hi.built.txCsdu, hi.built.rxCsdu⟩, hi.cells, hi.csdu,
        hi.received⟩
    cases verdict with
    | accepted p q d => exact absurd rfl (hno p q d)
    | _ => exact ⟨_, rfl, hinv⟩
  · obtain ⟨e', hf, hb', -, hrx⟩ := RtEngine.onFrame_takes (ε := Empty) hi.built hs ht i.now
    rw [hf]
    have hcopy : IoImage.copyFront s.image.outputs.csdu e'.rxCsdu = e'.rxCsdu := by
      refine IoImage.copyFront_of_length ?_
      rw [hi.csdu, hi.built.rxCsdu, hb'.rxCsdu]
    refine ⟨_, rfl, hb', hi.cells, hcopy, ?_⟩
    dsimp only
    by_cases hv : rt.dataStatus.dataValid
    · have hcsdu : csduOf i.frame = some rt.csdu := by
        rw [csduOf, ht.parse]
      have hlen := ht.csdu
      rw [hi.built.layout] at hlen
      rw [if_pos hv] at hrx ⊢
      rw [hcsdu]
      exact ⟨hlen, hrx⟩
    · rw [if_neg hv] at hrx ⊢
      rw [hrx]
      exact hi.received

lemma outInv_reach (hs : l.outputCr.Sound) (h : (outSystem l).Reach s) : OutInv l s := by
  refine System.Reach.inv (fun s hinit => ?_) (fun s i s' hi hst => ?_) h
  · obtain ⟨ourMac, cpuMac, stats, image, rfl⟩ := hinit
    exact ⟨RtEngine.built_new l ourMac cpuMac stats, rfl, rfl, rfl⟩
  · obtain ⟨s1, hst', hi'⟩ := hi.step hs i
    cases hst.symm.trans hst'
    exact hi'

/-- The data of an object, in what was received last. -/
lemma OutInv.get (hi : OutInv l s) (hs : l.outputCr.Sound) {o : IoObject}
    (ho : o ∈ l.outputCr.objects) {r : FieldRef} (hr : r.Fits o.dataLen) :
    ∃ v, r.get (cut s.image.outputs.csdu o.data) = .ok v ∧
      match s.last with
      | none => v = .zero r.ty
      | some csdu =>
        Value.decode r.ty (csdu.drop (o.dataOff + r.byte.toNat)) r.bit.toNat = .ok v := by
  have hw := hs.object_within ho
  have hrec := hi.received
  have hlen := hi.built.rxCsdu
  rw [hi.csdu]
  cases hl : s.last with
  | none =>
    rw [hl] at hrec
    dsimp only [Received] at hrec
    have hzero : cut s.engine.rxCsdu o.data = List.replicate o.dataLen 0 := by
      rw [hrec, cut, List.drop_replicate, List.take_replicate]
      congr 1
      dsimp only [IoObject.data]
      omega
    rw [hzero]
    exact ⟨_, hr.get_zero, rfl⟩
  | some csdu =>
    rw [hl] at hrec
    obtain ⟨hle, hrx⟩ := hrec
    have hcut : cut s.engine.rxCsdu o.data = cut csdu o.data := by
      rw [hrx, cut_take (show o.data.off + o.data.len ≤ _ by dsimp only [IoObject.data]; omega)]
    have hin : o.dataOff + o.dataLen ≤ csdu.length := by omega
    have hdata : (cut csdu o.data).length = o.dataLen := length_cut hin
    obtain ⟨v, hv⟩ := hr.get_ok (le_of_eq hdata.symm)
    rw [hcut]
    exact ⟨v, hv, (hr.get_cut hin).trans hv⟩

end Inv

/-! ### From the wire to the application -/

/-- **An output field has the value of the last valid frame.** For any byte strings received on
an AR:

* each of them is taken, and the next one can come;
* a declared output field whose submodule is in the output CR reads as the C-SDU of the last
  frame that was accepted with valid data has it, and as zero before there was one;
* a frame that is malformed, from another sender or of another CR, not transferred well or too
  short changes nothing in the engine but its counters. -/
theorem outputs_read_last_valid {b : DeviceConfigBuilder} {cfg : DeviceConfig}
    (hb : b.build = .ok cfg) {mac : MacAddr} {params : ArParams} {l : Layout}
    (hl : Layout.fromAr params (cfg.model mac) = .ok l) {s : OutRun} (hs : (outSystem l).Reach s) :
    (∀ i, ∃ s', (outSystem l).step s i = some s') ∧
    (∀ slot cell off fields, l.cells.find? (fun c => c.slot == slot && c.subslot == 1) = some cell →
      cell.outputOff = some off → cfg.fields slot .output = some fields →
      ∀ (i : Nat) (r : FieldRef) (inputs : List Bytes), fields[i]? = some r →
        ∃ v, (IoDevice.mk cfg s.image inputs).read slot i = .ok v ∧
          match s.last with
          | none => v = .zero r.ty
          | some csdu =>
            Value.decode r.ty (csdu.drop (off + r.byte.toNat)) r.bit.toNat = .ok v) ∧
    ∀ (frame : Bytes) (now : Instant), s.engine.Unusable frame →
      ∃ stats verdict, (s.engine.onFrame frame now : Res Empty _) =
          .ok ({ s.engine with stats }, verdict) ∧ ∀ p q d, verdict ≠ .accepted p q d := by
  have hcfg := DeviceConfigBuilder.build_sound hb
  obtain ⟨-, hout, -⟩ := Layout.fromAr_eq_ok.1 hl
  have hsound := buildCr_sound hout
  have hi := outInv_reach hsound hs
  refine ⟨fun i => ?_, fun slot cell off fields hcell hoff hfields i r inputs hr => ?_,
    fun frame now hu => RtEngine.onFrame_unusable hu now⟩
  · obtain ⟨s', hst, -⟩ := hi.step hsound i
    exact ⟨s', hst⟩
  · obtain ⟨o, ho, -, rfl, hol⟩ := Layout.output_object hl (hcfg.model_distinct mac)
      (List.mem_of_find?_eq_some hcell) hoff
    obtain ⟨k, hk, -⟩ := Option.bind_eq_some_iff.1 hfields
    obtain ⟨sm, d, hsm, hd, rfl, ht⟩ := hcfg.lookup hk
    have hfits : r.Fits cell.outputLen := by
      rcases DeviceConfig.Sound.fields_eq hk hd hfields with ⟨hdir, -⟩ | ⟨-, rfl⟩
      · cases hdir
      · cases hcell.symm.trans (hcfg.find_cell hsm hd hl)
        exact checkedLayout_fits ht.outputs r (List.mem_of_getElem? hr)
    have hlen : o.dataOff + cell.outputLen ≤ s.image.outputs.csdu.length := by
      have hw := hsound.object_within ho
      rw [hi.csdu, hi.built.rxCsdu]
      omega
    obtain ⟨v, hv, hval⟩ := hi.get hsound ho (hol.symm ▸ hfits)
    refine ⟨v, ?_, hval⟩
    rw [IoDevice.read_eq hcfg hfields hr (hi.cells ▸ hcell) hoff hlen hfits, ← hol]
    exact congrArg (Res.mapErr ApiError.codec) hv

namespace AppDemo

/-- The AR before its first frame. -/
def silent : OutRun := ⟨.new layout mac params.initiatorMac {}, IoImage.rebuild .empty layout, none⟩

/-- The word 7 at the start of the C-SDU. -/
def csdu : Bytes := 0 :: 7 :: List.replicate 38 0

def frame : Bytes := RtFrame.bytes ⟨0x8001, csdu, 0, .runPrimaryValidOk, 0⟩ mac params.initiatorMac

lemma reach_received : ∃ s, (outSystem layout).Reach s ∧ (s.last == some csdu) = true := by
  have hrun : ((outSystem layout).run silent [⟨frame, 0, .default⟩]).any
      (·.last == some csdu) = true := by
    decide +kernel
  exact System.exists_reach_of_run ⟨_, _, _, _, rfl⟩ hrun

lemma fields_output : cfg.fields 1 .output = some [⟨0, 0, .word⟩] := by decide +kernel

end AppDemo

/-- Before the first frame the word is zero; then it is what the frame has. -/
theorem outputs_read_last_valid_word :
    (IoDevice.mk AppDemo.cfg AppDemo.silent.image []).read 1 0 = .ok (.word 0) ∧
      ∃ s, (outSystem AppDemo.layout).Reach s ∧ s.last = some AppDemo.csdu ∧
        (IoDevice.mk AppDemo.cfg s.image []).read 1 0 = .ok (.word 7) := by
  constructor
  · obtain ⟨v, hv, hz⟩ := (outputs_read_last_valid AppDemo.build_builder AppDemo.fromAr_params
      (.init ⟨_, _, _, _, rfl⟩ : (outSystem _).Reach AppDemo.silent)).2.1 1 _ 0 _
      AppDemo.cell_one rfl AppDemo.fields_output 0 _ [] rfl
    cases hz
    exact hv
  · obtain ⟨s, hs, hlast⟩ := AppDemo.reach_received
    rw [beq_iff_eq] at hlast
    obtain ⟨v, hv, hval⟩ := (outputs_read_last_valid AppDemo.build_builder AppDemo.fromAr_params
      hs).2.1 1 _ 0 _ AppDemo.cell_one rfl AppDemo.fields_output 0 _ [] rfl
    rw [hlast] at hval
    have hseven : Value.decode .word AppDemo.csdu 0 = .ok (.word 7) := by decide +kernel
    cases hseven.symm.trans hval
    exact ⟨s, hs, hlast, hv⟩

end Pnio
