import Pnio.CmRun
import Pnio.DeviceMoves

/-!
Runs of the device: steps, shutdowns and aborts in any order, with the application and the RT
thread at work on the image in between.

An invariant of the runs is proved move by move; `reach_inv` is the rule. The first
one ties the alarm channel, the RT thread and the callbacks to the state of the AR.
-/

namespace Pnio

/-- What others do to the image between two calls. A refused write changes nothing. -/
inductive ImageOp where
  | writeInputs (slot subslot : UInt16) (bytes : Bytes)
  | rtPublish (free : Bool) (csdu : Bytes) (validity : Validity)
  | rtSetValidity (free : Bool) (validity : Validity)
deriving DecidableEq, Repr

def ImageOp.apply (im : IoImage) : ImageOp → IoImage
  | .writeInputs slot subslot bytes =>
    match im.writeInputs slot subslot bytes with
    | .ok im' => im'
    | .err _ | .panic _ => im
  | .rtPublish free csdu validity => (im.rtPublish free csdu validity).1
  | .rtSetValidity free validity => (im.rtSetValidity free validity).1

lemma IoImage.writeInputs_cells {im im' : IoImage} {slot subslot : UInt16} {bytes : Bytes}
    (h : im.writeInputs slot subslot bytes = .ok im') : im'.cells = im.cells := by
  obtain ⟨cell, -, h⟩ := Res.bind_eq_ok.1 h
  obtain ⟨off, -, h⟩ := Res.bind_eq_ok.1 h
  obtain ⟨-, -, h⟩ := Res.bind_eq_ok.1 h
  obtain ⟨-, -, h⟩ := Res.bind_eq_ok.1 h
  obtain ⟨inputs, -, h⟩ := Res.bind_eq_ok.1 h
  cases h
  rfl

/-- Only the device itself changes the layout of the image. -/
lemma ImageOp.apply_cells (im : IoImage) (op : ImageOp) : (op.apply im).cells = im.cells := by
  cases op with
  | writeInputs slot subslot bytes =>
    unfold apply
    dsimp only
    split
    · rename_i im' h
      exact IoImage.writeInputs_cells h
    · rfl
    · rfl
  | rtPublish free csdu validity => cases free <;> rfl
  | rtSetValidity free validity => cases free <;> rfl

inductive DeviceInput where
  | step (i : Device.StepInput)
  | shutdown (now : Instant) (spawns : Bool)
  | abortWithErrRta (reason : AbortReason) (now : Instant) (spawns : Bool)
  | image (op : ImageOp)
deriving DecidableEq, Repr

/-- Every spawn asked for while the input is handled succeeds; an abort asks for none. -/
def DeviceInput.Spawns : DeviceInput → Prop
  | .step i => i.Spawns
  | .shutdown .. | .abortWithErrRta .. | .image _ => True

instance : DecidablePred DeviceInput.Spawns
  | .step i => inferInstanceAs (Decidable (i.spawns ∧ ∀ g ∈ i.datagrams, g.spawns))
  | .shutdown .. | .abortWithErrRta .. | .image _ => inferInstanceAs (Decidable True)

namespace Device

/-- The transports do not fail, so a call returns or panics; a panic ends the run. -/
def settle : Res Empty Device → Option Device
  | .ok d => some d
  | .err e => nomatch e
  | .panic _ => none

def next (d : Device) : DeviceInput → Option Device
  | .step i => settle (d.step i)
  | .shutdown now spawns => settle (d.shutdown now spawns)
  | .abortWithErrRta reason now spawns => settle (abortWithErrRta abortDepth now spawns reason d)
  | .image op => some { d with image := op.apply d.image }

lemma settle_eq_some {r : Res Empty Device} {d : Device} (h : settle r = some d) : r = .ok d := by
  cases r with
  | ok d' => exact congrArg Res.ok (Option.some.inj h)
  | err e => nomatch e
  | panic p => cases h

/-- A call is a sequence of moves with the commands drained in one place, or someone else's work
on the image. -/
lemma next_parts {spawn : Bool} {d d' : Device} {i : DeviceInput} (hs : Sound (d, []))
    (hsp : spawn → i.Spawns) (h : d.next i = some d') :
    (∃ s1 s2, Moves false spawn (d, []) s1 ∧ Drained spawn s1 s2 ∧
        Moves false spawn s2 (d', [])) ∨
      ∃ im : IoImage, im.cells = d.image.cells ∧ d' = { d with image := im } := by
  cases i with
  | step i => exact .inl (step_parts hs hsp (settle_eq_some h))
  | shutdown now spawns =>
    exact .inl ⟨_, _, .refl, .inl rfl, shutdown_moves (settle_eq_some h)⟩
  | abortWithErrRta reason now spawns =>
    exact .inl ⟨_, _, .refl, .inl rfl, abortWithErrRta_moves (settle_eq_some h)⟩
  | image op =>
    cases h
    exact .inr ⟨_, op.apply_cells _, rfl⟩

lemma next_moves {spawn : Bool} {d d' : Device} {i : DeviceInput} (hs : Sound (d, []))
    (hsp : spawn → i.Spawns) (h : d.next i = some d') :
    Moves true spawn (d, []) (d', []) ∨
      ∃ im : IoImage, im.cells = d.image.cells ∧ d' = { d with image := im } := by
  rcases next_parts hs hsp h with ⟨s1, s2, m1, m2, m3⟩ | him
  · exact .inl (m1.weaken.trans (m2.moves.trans m3.weaken))
  · exact .inr him

end Device

def deviceSystem : System Device DeviceInput where
  init d := ∃ setup, d = .new setup
  step := Device.next

namespace Device

/-! ### The rule for invariants -/

section Rule

/-- Kept by the moves and by what others do to the image. -/
structure Kept (spawn : Bool) (I : Device × List Batch → Prop) : Prop where
  new : ∀ setup, I (.new setup, [])
  move : ∀ s s', Sound s → I s → Micro true spawn s s' → I s'
  image : ∀ d im, im.cells = d.image.cells → I (d, []) → I ({ d with image := im }, [])

variable {spawn : Bool} {I : Device × List Batch → Prop} {d : Device}

lemma new_sound (setup : DeviceSetup) : Sound (new setup, []) where
  cache := by intro e he; cases he
  ctx := fun h => absurd rfl h
  diag := DiagStore.new_ok _
  alone := by simp

lemma Kept.moves {s s' : Device × List Batch} (hI : Kept spawn I) (hs : Sound s) (h : I s)
    (hm : Moves true spawn s s') : I s' := by
  induction hm with
  | refl => exact h
  | tail hm h1 ih => exact hI.move _ _ (Moves.sound hm hs) ih h1

/-- **What is kept holds between any two calls of a run**, under a guard that grants the spawns
if the moves need them. -/
theorem reachWhen_inv {G : Device → DeviceInput → Prop} (hI : Kept spawn I)
    (hG : ∀ d i, G d i → spawn → i.Spawns) (h : deviceSystem.ReachWhen G d) :
    Sound (d, []) ∧ I (d, []) := by
  refine System.ReachWhen.inv (I := fun d => Sound (d, []) ∧ I (d, [])) ?_ ?_ h
  · rintro _ ⟨setup, rfl⟩
    exact ⟨new_sound setup, hI.new setup⟩
  · rintro d i d' ⟨hs, hd⟩ hg hnext
    rcases next_moves hs (hG d i hg) hnext with hm | ⟨im, hcells, rfl⟩
    · exact ⟨Moves.sound hm hs, hI.moves hs hd hm⟩
    · exact ⟨hs.of_same rfl rfl, hI.image d im hcells hd⟩

theorem reach_inv (hI : Kept false I) (h : deviceSystem.Reach d) : I (d, []) :=
  (reachWhen_inv hI (fun _ _ _ => nofun) h).2

end Rule

end Device

/-! ### A device and its controller -/

namespace DeviceDemo

/-- Two bytes of inputs in slot 1. -/
def model : DeviceModel :=
  { Demo.model with
    slots := [{ slot := 1, moduleIdent := 1, submodules := [⟨1, 1, 2, 0⟩] }] }

def noAddress : Octets 4 := ⟨List.replicate 4 0, List.length_replicate⟩

def setup : DeviceSetup :=
  { dcp :=
      { mac := model.mac
        properties :=
          { nameOfStation := model.stationName
            typeOfStation := model.stationName
            vendorId := model.vendorId
            deviceId := model.deviceId
            deviceRole := 1
            deviceInstance := model.inst
            deviceOptions := []
            ip := noAddress
            subnet := noAddress
            gateway := noAddress
            ipBlockInfo := 0 } }
    model
    activitySeed := Demo.seed
    rt := true
    im0 := im0Default
    im := .new }

lemma new_init : deviceSystem.init (.new setup) := ⟨setup, rfl⟩

/-- A step that finds these datagrams of the controller and these commands. -/
def recv (spawns : Bool) (bufs : List Bytes) (commands : List DiagCommand) : DeviceInput :=
  .step
    { now := 0
      frames := []
      commands
      datagrams := bufs.map fun buf => ⟨buf, Demo.plc, spawns⟩
      events := []
      spawns }

/-- The controller brings its first AR up. -/
def bringUp (spawns : Bool) : List DeviceInput :=
  [recv spawns [Demo.connect 0 1] [], recv spawns [Demo.prmEnd 1 1] [],
    recv spawns [Demo.answer 0] []]

/-- It releases the first AR and brings a second one up. -/
def twoSessions : List DeviceInput :=
  bringUp true ++ [recv true [Demo.release 2 1] [], recv true [Demo.connect 3 2] [],
    recv true [Demo.prmEnd 4 2] [], recv true [Demo.answer 1] []]

/-- A broken wire at the inputs of slot 1. -/
def fault : Diagnosis :=
  { slot := 1, channel := 0, error := .lineBreak, severity := .fault, direction := .input }

end DeviceDemo

end Pnio
