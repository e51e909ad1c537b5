import Pnio.CmStep

/-!
Runs of the context manager with their whole history.
-/

namespace Pnio

/-- One completed call of the manager. -/
structure CmCall where
  before : Cm
  input : CmInput
  after : Cm
  out : CmOutput

/-- A manager with all calls made to it, oldest first. -/
structure CmHist where
  cm : Cm
  log : List CmCall

def histSystem (model : DeviceModel) (seed : Uuid) : System CmHist CmInput where
  init h := ∃ im0 im, h = ⟨{ Cm.new model seed with im0, im }, []⟩
  step h i := (h.cm.step i).map fun p => ⟨p.1, h.log ++ [⟨h.cm, i, p.1, p.2⟩]⟩

lemma hist_step {model : DeviceModel} {seed : Uuid} {h h' : CmHist} {i : CmInput}
    (hs : (histSystem model seed).step h i = some h') :
    ∃ cm' out, h.cm.Stepped i cm' out ∧ h' = ⟨cm', h.log ++ [⟨h.cm, i, cm', out⟩]⟩ := by
  simp only [histSystem, Option.map_eq_some_iff] at hs
  obtain ⟨⟨cm', out⟩, hs, rfl⟩ := hs
  exact ⟨cm', out, Cm.step_stepped hs, rfl⟩

lemma joint_reach {model : DeviceModel} {seed : Uuid} {h : CmHist}
    (hr : (histSystem model seed).Reach h) : h.cm.Joint := by
  refine hr.inv (I := fun h => h.cm.Joint) ?_ ?_
  · rintro h ⟨im0, im, rfl⟩
    exact Cm.joint_new model seed im0 im
  · intro h i h' hi hs
    obtain ⟨cm', out, hst, rfl⟩ := hist_step hs
    exact hst.joint hi

lemma Cm.Stepped.model {cm cm' : Cm} {i : CmInput} {out : CmOutput} (h : cm.Stepped i cm' out) :
    cm'.model = cm.model := by
  cases h with
  | request ha hl hr => cases hr <;> rfl
  | _ => rfl

lemma model_reach {model : DeviceModel} {seed : Uuid} {h : CmHist}
    (hr : (histSystem model seed).Reach h) : h.cm.model = model := by
  refine hr.inv (I := fun h => h.cm.model = model) ?_ ?_
  · rintro h ⟨im0, im, rfl⟩
    rfl
  · intro h i h' hi hs
    obtain ⟨cm', out, hst, rfl⟩ := hist_step hs
    exact hst.model.trans hi

/-! ### Accepted PrmEnds -/

/-- The datagram is a PrmEnd that will be executed and starts the ApplicationReady phase. -/
def Cm.acceptsPrmEnd (cm : Cm) : CmInput → Bool
  | .datagram buf _ _ =>
    match RpcHeader.parse buf with
    | .ok h =>
      match NdrRequest.parse (buf.drop 80) h.drep with
      | .ok (_, blocks) =>
        match ControlBlock.parse blocks with
        | .ok cb =>
          h.ptype = .request && h.interface = pnioDeviceInterface &&
            (cm.cacheLookup h.key).isNone && Opnum.fromU16 h.opnum = some .control &&
            cb.command = ControlCmd.prmEnd && cm.ar.state = .connected &&
            cm.ar.ctx.any (·.params.arUuid = cb.arUuid)
        | _ => false
      | _ => false
    | _ => false
  | _ => false

/-- The number of PrmEnds accepted so far. -/
def CmHist.prmEnds (h : CmHist) : Nat := h.log.countP fun s => s.before.acceptsPrmEnd s.input

lemma Cm.acceptsPrmEnd_of {cm : Cm} {buf : Bytes} {src : SocketAddr} {now : Instant}
    {h : RpcHeader} {n : NdrRequest} {blocks : Bytes} {cb : ControlBlock} {c : ArContext}
    (ha : Asked buf h n blocks) (hl : cm.cacheLookup h.key = none)
    (ho : Opnum.fromU16 h.opnum = some .control) (hp : ControlBlock.parse blocks = .ok cb)
    (hcmd : cb.command = ControlCmd.prmEnd) (hs : cm.ar.state = .connected)
    (hc : cm.ar.ctx = some c) (hu : cb.arUuid = c.params.arUuid) :
    cm.acceptsPrmEnd (.datagram buf src now) = true := by
  simp [acceptsPrmEnd, ha.header, ha.body, hp, ha.ptype, ha.interface, hl, ho, hcmd, hs, hc, hu]

/-- A call takes a new number only for an accepted PrmEnd. -/
lemma Cm.Stepped.callSeq {cm cm' : Cm} {i : CmInput} {out : CmOutput} (h : cm.Stepped i cm' out) :
    cm'.callSeq = cm.callSeq ∨
      cm.acceptsPrmEnd i ∧ cm'.callSeq.toNat = cm.callSeq.toNat + 1 := by
  cases h with
  | request ha hl hr =>
    cases hr with
    | prmEnd ho hp hcmd hs hc hu hb hd hv =>
      refine .inr ⟨acceptsPrmEnd_of ha hl ho hp hcmd hs hc hu, ?_⟩
      change (cm.callSeq + 1).toNat = _
      rw [UInt32.toNat_add]
      exact Nat.mod_eq_of_lt hv
    | _ => exact .inl rfl
  | _ => exact .inl rfl

/-- Every number that was used for a call was used for an accepted PrmEnd. -/
lemma callSeq_le_prmEnds {model : DeviceModel} {seed : Uuid} {h : CmHist}
    (hr : (histSystem model seed).Reach h) : h.cm.callSeq.toNat ≤ h.prmEnds := by
  refine hr.inv (I := fun h => h.cm.callSeq.toNat ≤ h.prmEnds) ?_ ?_
  · rintro h ⟨im0, im, rfl⟩
    exact Nat.zero_le _
  · intro h i h' hi hs
    obtain ⟨cm', out, hst, rfl⟩ := hist_step hs
    have hcount : CmHist.prmEnds ⟨cm', h.log ++ [⟨h.cm, i, cm', out⟩]⟩ =
        h.prmEnds + if h.cm.acceptsPrmEnd i then 1 else 0 := by
      rw [CmHist.prmEnds, CmHist.prmEnds, List.countP_append, List.countP_singleton]
    rw [hcount]
    rcases hst.callSeq with heq | ⟨hacc, heq⟩
    · rw [heq]
      exact le_trans hi (Nat.le_add_right _ _)
    · rw [heq, if_pos hacc]
      exact Nat.add_le_add_right hi 1

end Pnio
