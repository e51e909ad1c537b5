import Pnio.Api
import Pnio.Lib.Locks

/-!
The image under its three locks and the working copies under one lock each.

Every accessor is written out as it takes its locks: the cell index before the inputs before the
outputs, a working copy before all of them. The application's side waits for a lock, the RT
thread's side only tries it. However the threads interleave, they leave the image as if each
accessor had run by itself, and they never wait for each other in a circle.
-/

namespace Pnio

/-- What is behind a lock of its own; `copy i` is the working copy of the `i`-th submodule. -/
inductive ImageLock where
  | copy (i : Nat)
  | cells
  | inputs
  | outputs
deriving DecidableEq, Repr

namespace ImageLock

def Val : ImageLock → Type
  | copy _ => Bytes
  | cells => List Cell
  | inputs => Bytes
  | outputs => Outputs

/-- The order in which locks are taken; no accessor takes two working copies. -/
def rank : ImageLock → Fin 4
  | copy _ => 0
  | cells => 1
  | inputs => 2
  | outputs => 3

end ImageLock

inductive ImageCall (τ : Type) where
  | rebuild (layout : Layout)
  | clear
  | cells
  | writeInputs (slot subslot : UInt16) (bytes : Bytes)
  | readOutputs (slot subslot : UInt16)
  | snapshotOutputs (dst : Bytes)
  | validity
  | setValidity (v : Validity)
  | withInputs (slot : UInt16) (f : Closure τ)
  | rtSnapshotInputs (dst : Bytes)
  | rtPublish (csdu : Bytes) (v : Validity)
  | rtSetValidity (v : Validity)

/-- What an accessor returns. -/
inductive ImageReply (τ : Type) where
  | done
  | cells (cells : List Cell)
  | wrote (r : Res ImageError Unit)
  | read (r : Res ImageError (Bytes × Validity))
  | snapshot (r : Bytes × Validity)
  | validity (v : Validity)
  | published (r : Res ApiError τ)
  | inputs (r : Bytes × Bool)
  | taken (b : Bool)

namespace ImageCall

variable {τ α : Type}

/-! ### Lock by lock -/

/-- Where the bytes for a submodule go, looked up under the lock of the cells. -/
def inputPlace (cells : List Cell) (slot subslot : UInt16) (bytes : Bytes) :
    Res ImageError (Nat × Nat) := do
  let cell ← Res.okOr (cells.find? fun c => c.slot == slot && c.subslot == subslot)
    (.unknownSubmodule slot subslot)
  let off ← Res.okOr cell.inputOff (.noInput slot subslot)
  Res.reject (bytes.length ≠ cell.inputLen) (.lengthMismatch cell.inputLen bytes.length)
  .ok (off, cell.inputLen)

/-- The inputs with the bytes in their place. -/
def placeInput (inputs : Bytes) (off len : Nat) (bytes : Bytes) : Res ImageError Bytes := do
  Res.reject (inputs.length < off + len) (.lengthMismatch len (inputs.length - off))
  patch inputs off bytes

/-- `write_inputs`; the caller makes `reply` of its result. -/
def writeInputsProg (slot subslot : UInt16) (bytes : Bytes) (reply : Res ImageError Unit → α) :
    LockProg ImageLock.Val α :=
  .lock .cells fun (cells : List Cell) =>
    match inputPlace cells slot subslot bytes with
    | .err e => .ret (reply (.err e))
    | .panic p => .ret (reply (.panic p))
    | .ok (off, len) =>
      .lock .inputs fun (inputs : Bytes) =>
        match placeInput inputs off len bytes with
        | .err e => .ret (reply (.err e))
        | .panic p => .ret (reply (.panic p))
        | .ok inputs => .put .inputs inputs (.ret (reply (.ok ())))

def outputPlace (cells : List Cell) (slot subslot : UInt16) : Res ImageError (Nat × Nat) := do
  let cell ← Res.okOr (cells.find? fun c => c.slot == slot && c.subslot == subslot)
    (.unknownSubmodule slot subslot)
  let off ← Res.okOr cell.outputOff (.noOutput slot subslot)
  .ok (off, cell.outputLen)

def copyOutput (outputs : Outputs) (off len : Nat) : Res ImageError (Bytes × Validity) := do
  let csdu := outputs.csdu
  Res.reject (csdu.length < off + len) (.lengthMismatch len (csdu.length - off))
  let bytes ← slice csdu off (off + len)
  .ok (bytes, outputs.validity)

def readOutputsProg (slot subslot : UInt16) : LockProg ImageLock.Val (ImageReply τ) :=
  .lock .cells fun (cells : List Cell) =>
    match outputPlace cells slot subslot with
    | .err e => .ret (.read (.err e))
    | .panic p => .ret (.read (.panic p))
    | .ok (off, len) =>
      .lock .outputs fun (outputs : Outputs) => .ret (.read (copyOutput outputs off len))

/-- All three locks, then the three parts one after the other. -/
def replaceProg (parts : Outputs → List Cell × Bytes × Outputs) :
    LockProg ImageLock.Val (ImageReply τ) :=
  .lock .cells fun _ => .lock .inputs fun _ => .lock .outputs fun (outputs : Outputs) =>
    .put .cells (parts outputs).1 <| .put .inputs (parts outputs).2.1 <|
      .put .outputs (parts outputs).2.2 (.ret .done)

/-- What `with_inputs` returns after the working copy is published. -/
def publishedReply (out : τ) : Res ImageError Unit → ImageReply τ
  | .ok () => .published (.ok out)
  | .err e => .published (.err (.ofImage e))
  | .panic p => .published (.panic p)

/-- The closure runs under the lock of the working copy, which is kept until the copy is in the
image. It makes no accessor call of its own: two closures that each call `with_inputs` for the
other's slot would wait for each other. -/
def withInputsProg (cfg : DeviceConfig) (slot : UInt16) (f : Closure τ) :
    LockProg ImageLock.Val (ImageReply τ) :=
  match cfg.indexOf slot with
  | none => .ret (.published (.err (.unknownSlot slot)))
  | some i =>
    match cfg.submodules[i]? with
    | none => .ret (.published (.panic .unwrap))
    | some sm =>
      match cfg.fields slot .input with
      | none => .ret (.published (.err (.wrongDirection slot sm.direction)))
      | some fields =>
        .lock (.copy i) fun (bytes : Bytes) =>
          match f.run { slot, fields, bytes } with
          | .err e => .ret (.published (.err e))
          | .panic p => .ret (.published (.panic p))
          | .ok (out, w) =>
            .put (.copy i) w.bytes (writeInputsProg slot 1 w.bytes (publishedReply out))

def prog (cfg : DeviceConfig) : ImageCall τ → LockProg ImageLock.Val (ImageReply τ)
  | rebuild layout =>
    replaceProg fun _ =>
      (layout.cells, List.replicate layout.inputCr.dataLength 0,
        ⟨List.replicate layout.outputCr.dataLength 0, .default⟩)
  | clear => replaceProg fun outputs => ([], [], { outputs with csdu := [] })
  | cells => .lock .cells fun cells => .ret (.cells cells)
  | writeInputs slot subslot bytes => writeInputsProg slot subslot bytes .wrote
  | readOutputs slot subslot => readOutputsProg slot subslot
  | snapshotOutputs dst =>
    .lock .outputs fun (outputs : Outputs) =>
      .ret (.snapshot (IoImage.copyFront dst outputs.csdu, outputs.validity))
  | validity => .lock .outputs fun (outputs : Outputs) => .ret (.validity outputs.validity)
  | setValidity v =>
    .lock .outputs fun (outputs : Outputs) =>
      .put .outputs { outputs with validity := v } (.ret .done)
  | withInputs slot f => withInputsProg cfg slot f
  | rtSnapshotInputs dst =>
    .tryLock .inputs fun
      | some (inputs : Bytes) => .ret (.inputs (IoImage.copyFront dst inputs, true))
      | none => .ret (.inputs (dst, false))
  | rtPublish csdu v =>
    .tryLock .outputs fun
      | some (outputs : Outputs) =>
        .put .outputs ⟨IoImage.copyFront outputs.csdu csdu, v⟩ (.ret (.taken true))
      | none => .ret (.taken false)
  | rtSetValidity v =>
    .tryLock .outputs fun
      | some (outputs : Outputs) =>
        .put .outputs { outputs with validity := v } (.ret (.taken true))
      | none => .ret (.taken false)

/-! ### In one go -/

/-- An accessor by itself; `free` is whether the lock was free that it tries. -/
def apply (free : Bool) (d : IoDevice) : ImageCall τ → IoDevice × ImageReply τ
  | rebuild layout => ({ d with image := d.image.rebuild layout }, .done)
  | clear => ({ d with image := d.image.clear }, .done)
  | cells => (d, .cells d.image.cells)
  | writeInputs slot subslot bytes =>
    match d.image.writeInputs slot subslot bytes with
    | .ok image => ({ d with image }, .wrote (.ok ()))
    | .err e => (d, .wrote (.err e))
    | .panic p => (d, .wrote (.panic p))
  | readOutputs slot subslot => (d, .read (d.image.readOutputs slot subslot))
  | snapshotOutputs dst => (d, .snapshot (d.image.snapshotOutputs dst))
  | validity => (d, .validity d.image.outputs.validity)
  | setValidity v => ({ d with image := d.image.setValidity v }, .done)
  | withInputs slot f =>
    let r := d.withInputs slot f
    (r.1, .published r.2)
  | rtSnapshotInputs dst => (d, .inputs (d.image.rtSnapshotInputs free dst))
  | rtPublish csdu v =>
    let r := d.image.rtPublish free csdu v
    ({ d with image := r.1 }, .taken r.2)
  | rtSetValidity v =>
    let r := d.image.rtSetValidity free v
    ({ d with image := r.1 }, .taken r.2)

/-! ### The order of the locks -/

/-- The image's locks from `cells` on, under the lock of a working copy or none. -/
lemma ordered_writeInputsProg {held : List ImageLock} (hheld : ∀ h ∈ held, ∃ i, h = .copy i)
    (slot subslot : UInt16) (bytes : Bytes) (reply : Res ImageError Unit → α) :
    (writeInputsProg slot subslot bytes reply).Ordered ImageLock.rank held := by
  have hcells : ∀ h ∈ held, h ≠ .cells ∧ h ≠ .inputs ∧ ImageLock.rank h = 0 := by
    intro h hh
    obtain ⟨i, rfl⟩ := hheld h hh
    exact ⟨nofun, nofun, rfl⟩
  refine ⟨⟨fun h => (hcells _ h).1 rfl, fun h hh => ?_⟩, fun cells => ?_⟩
  · rw [(hcells h hh).2.2]
    decide
  · dsimp only
    split
    · trivial
    · trivial
    · refine ⟨⟨?_, ?_⟩, fun inputs => ?_⟩
      · rintro (_ | ⟨_, h⟩)
        exact (hcells _ h).2.1 rfl
      · rintro h (_ | ⟨_, hh⟩)
        · decide
        · rw [(hcells h hh).2.2]
          decide
      · dsimp only
        split
        · trivial
        · trivial
        · exact ⟨List.mem_cons_self, trivial⟩

lemma ordered_replaceProg (parts : Outputs → List Cell × Bytes × Outputs) :
    (replaceProg parts : LockProg _ (ImageReply τ)).Ordered ImageLock.rank [] := by
  refine ⟨⟨by simp, by simp⟩, fun _ => ⟨⟨by simp, ?_⟩, fun _ => ⟨⟨by simp, ?_⟩, fun _ => ?_⟩⟩⟩
  · simp [ImageLock.rank]
  · simp [ImageLock.rank]
  · exact ⟨by simp, by simp, by simp, trivial⟩

lemma ordered_withInputsProg (cfg : DeviceConfig) (slot : UInt16) (f : Closure τ) :
    (withInputsProg cfg slot f).Ordered ImageLock.rank [] := by
  unfold withInputsProg
  split
  · trivial
  · split
    · trivial
    · split
      · trivial
      · refine ⟨⟨by simp, by simp⟩, fun bytes => ?_⟩
        dsimp only
        split
        · trivial
        · trivial
        · refine ⟨List.mem_cons_self, ordered_writeInputsProg (fun h hh => ?_) _ _ _ _⟩
          exact ⟨_, List.mem_singleton.1 hh⟩

lemma ordered_prog (cfg : DeviceConfig) (op : ImageCall τ) :
    (op.prog cfg).Ordered ImageLock.rank [] := by
  cases op with
  | rebuild layout => exact ordered_replaceProg _
  | clear => exact ordered_replaceProg _
  | writeInputs slot subslot bytes =>
    exact ordered_writeInputsProg (fun h hh => by cases hh) slot subslot bytes _
  | withInputs slot f => exact ordered_withInputsProg cfg slot f
  | readOutputs slot subslot =>
    refine ⟨⟨by simp, by simp⟩, fun cells => ?_⟩
    dsimp only
    split
    · trivial
    · trivial
    · exact ⟨⟨by simp, by simp [ImageLock.rank]⟩, fun _ => trivial⟩
  | cells => exact ⟨⟨by simp, by simp⟩, fun _ => trivial⟩
  | snapshotOutputs dst => exact ⟨⟨by simp, by simp⟩, fun _ => trivial⟩
  | validity => exact ⟨⟨by simp, by simp⟩, fun _ => trivial⟩
  | setValidity v => exact ⟨⟨by simp, by simp⟩, fun _ => ⟨by simp, trivial⟩⟩
  | rtSnapshotInputs dst => exact ⟨by simp, trivial, fun _ => trivial⟩
  | rtPublish csdu v => exact ⟨by simp, trivial, fun _ => ⟨by simp, trivial⟩⟩
  | rtSetValidity v => exact ⟨by simp, trivial, fun _ => ⟨by simp, trivial⟩⟩

/-- The accessors of the RT thread's side only try their lock. -/
def OfRt : ImageCall τ → Prop
  | rtSnapshotInputs _ => True
  | rtPublish _ _ => True
  | rtSetValidity _ => True
  | _ => False

lemma nonblocking_prog (cfg : DeviceConfig) {op : ImageCall τ} (h : op.OfRt) :
    (op.prog cfg).Nonblocking := by
  cases op with
  | rtSnapshotInputs dst => rintro (_ | inputs) <;> trivial
  | rtPublish csdu v => rintro (_ | outputs) <;> trivial
  | rtSetValidity v => rintro (_ | outputs) <;> trivial
  | _ => exact h.elim

/-! ### What an accessor does by itself -/

section Alone

variable {cfg : DeviceConfig} {v v' : ∀ r, ImageLock.Val r}

def imageOf (v : ∀ r, ImageLock.Val r) : IoImage := ⟨v .cells, v .inputs, v .outputs⟩

def copyOf (v : ∀ r, ImageLock.Val r) (i : Nat) : Bytes := v (.copy i)

/-- The device whose parts are behind the locks. -/
def deviceOf (cfg : DeviceConfig) (v : ∀ r, ImageLock.Val r) : IoDevice :=
  { cfg
    image := imageOf v
    inputs := (List.range cfg.submodules.length).map (copyOf v) }

lemma writeInputs_eq (im : IoImage) (slot subslot : UInt16) (bytes : Bytes) :
    im.writeInputs slot subslot bytes = (do
      let (off, len) ← inputPlace im.cells slot subslot bytes
      let inputs ← placeInput im.inputs off len bytes
      .ok { im with inputs }) := by
  simp [IoImage.writeInputs, IoImage.find, inputPlace, placeInput]

lemma readOutputs_eq (im : IoImage) (slot subslot : UInt16) :
    im.readOutputs slot subslot = (do
      let (off, len) ← outputPlace im.cells slot subslot
      copyOutput im.outputs off len) := by
  simp [IoImage.readOutputs, IoImage.find, outputPlace, copyOutput]

/-- The two locks of `write_inputs`, taken by itself, make one `writeInputs`. -/
lemma runs_writeInputsProg {slot subslot : UInt16} {bytes : Bytes} {out : α}
    {reply : Res ImageError Unit → α}
    (h : (writeInputsProg slot subslot bytes reply).Runs v v' out) :
    match (imageOf v).writeInputs slot subslot bytes with
    | .ok im => v' = Function.update v .inputs im.inputs ∧ imageOf v' = im ∧ out = reply (.ok ())
    | .err e => v' = v ∧ out = reply (.err e)
    | .panic p => v' = v ∧ out = reply (.panic p) := by
  rw [writeInputs_eq]
  cases h with
  | lock h =>
    dsimp only [imageOf] at h ⊢
    cases hplace : inputPlace (v .cells) slot subslot bytes with
    | err e =>
      rw [hplace] at h
      cases h
      exact ⟨rfl, rfl⟩
    | panic p =>
      rw [hplace] at h
      cases h
      exact ⟨rfl, rfl⟩
    | ok place =>
      obtain ⟨off, len⟩ := place
      rw [hplace] at h
      cases h with
      | lock h =>
        dsimp only at h
        simp only [Res.ok_bind]
        cases hin : placeInput (v .inputs) off len bytes with
        | err e =>
          rw [hin] at h
          cases h
          exact ⟨rfl, rfl⟩
        | panic p =>
          rw [hin] at h
          cases h
          exact ⟨rfl, rfl⟩
        | ok inputs =>
          rw [hin] at h
          cases h with
          | put h =>
            cases h
            exact ⟨rfl, rfl, rfl⟩

lemma runs_readOutputsProg {slot subslot : UInt16} {out : ImageReply τ}
    (h : (readOutputsProg slot subslot).Runs v v' out) :
    v' = v ∧ out = .read ((imageOf v).readOutputs slot subslot) := by
  rw [readOutputs_eq]
  cases h with
  | lock h =>
    dsimp only [imageOf] at h ⊢
    cases hplace : outputPlace (v .cells) slot subslot with
    | err e =>
      rw [hplace] at h
      cases h
      exact ⟨rfl, rfl⟩
    | panic p =>
      rw [hplace] at h
      cases h
      exact ⟨rfl, rfl⟩
    | ok place =>
      rw [hplace] at h
      cases h with
      | lock h =>
        cases h
        exact ⟨rfl, rfl⟩

lemma runs_replaceProg {parts : Outputs → List Cell × Bytes × Outputs} {out : ImageReply τ}
    (h : (replaceProg parts).Runs v v' out) :
    imageOf v' = ⟨(parts (v .outputs)).1, (parts (v .outputs)).2.1, (parts (v .outputs)).2.2⟩ ∧
      copyOf v' = copyOf v ∧ out = .done := by
  cases h with
  | lock h => cases h with
    | lock h => cases h with
      | lock h => cases h with
        | put h => cases h with
          | put h => cases h with
            | put h =>
              cases h
              exact ⟨rfl, rfl, rfl⟩

lemma deviceOf_congr (hc : copyOf v' = copyOf v) :
    deviceOf cfg v' = { deviceOf cfg v with image := imageOf v' } := by
  simp only [deviceOf, hc]

lemma copyOf_update (i : Nat) (bytes : Bytes) :
    copyOf (Function.update v (.copy i) bytes) = Function.update (copyOf v) i bytes := by
  funext j
  by_cases hj : j = i
  · subst hj
    rw [Function.update_self]
    exact Function.update_self (ImageLock.copy j) bytes v
  · have hne : ImageLock.copy j ≠ .copy i := fun h => hj (ImageLock.copy.inj h)
    rw [Function.update_of_ne hj]
    exact Function.update_of_ne hne bytes v

/-- A new working copy of the `i`-th submodule. -/
lemma deviceOf_update_copy (cfg : DeviceConfig) (v : ∀ r, ImageLock.Val r) (i : Nat)
    (bytes : Bytes) :
    deviceOf cfg (Function.update v (.copy i) bytes) =
      { deviceOf cfg v with inputs := (deviceOf cfg v).inputs.set i bytes } := by
  have hset : (List.range cfg.submodules.length).map (Function.update (copyOf v) i bytes) =
      ((List.range cfg.submodules.length).map (copyOf v)).set i bytes := by
    refine List.ext_getElem (by simp) fun n h1 h2 => ?_
    by_cases hn : n = i
    · subst hn
      simp
    · simp [hn, Ne.symm hn]
  simp only [deviceOf, copyOf_update, hset]
  rfl

/-- The writer a closure is given, from the working copy under its lock. -/
lemma writer_deviceOf {slot : UInt16} {i : Nat} {sm : SubmoduleSpec} {fields : List FieldRef}
    (hi : cfg.indexOf slot = some i) (hsm : cfg.submodules[i]? = some sm)
    (hf : cfg.fields slot .input = some fields) :
    (deviceOf cfg v).writer slot = .ok (i, { slot, fields, bytes := copyOf v i }) := by
  have hlt : i < cfg.submodules.length := (List.getElem?_eq_some_iff.1 hsm).1
  simp [IoDevice.writer, deviceOf, hi, hsm, hf, List.getElem?_range hlt]

/-- A closure that returned, up to what becomes of the working copy. -/
lemma withInputs_of_run {d : IoDevice} {slot : UInt16} {f : Closure τ} {i : Nat}
    {w w' : SlotWriter} {res : τ} (hw : d.writer slot = .ok (i, w))
    (hr : f.run w = .ok (res, w')) :
    d.withInputs slot f =
      match d.image.writeInputs slot 1 w'.bytes with
      | .ok image => ({ d with inputs := d.inputs.set i w'.bytes, image }, .ok res)
      | .err e => ({ d with inputs := d.inputs.set i w'.bytes }, .err (.ofImage e))
      | .panic p => ({ d with inputs := d.inputs.set i w'.bytes }, .panic p) := by
  cases hi : d.image.writeInputs slot 1 w'.bytes <;> simp only [IoDevice.withInputs, hw, hr, hi]

lemma runs_withInputsProg {slot : UInt16} {f : Closure τ} {out : ImageReply τ}
    (h : (withInputsProg cfg slot f).Runs v v' out) :
    deviceOf cfg v' = ((deviceOf cfg v).withInputs slot f).1 ∧
      out = .published ((deviceOf cfg v).withInputs slot f).2 := by
  unfold withInputsProg at h
  cases hi : cfg.indexOf slot with
  | none =>
    rw [hi] at h
    cases h
    have hw : (deviceOf cfg v).writer slot = .err (.unknownSlot slot) := by
      simp [IoDevice.writer, deviceOf, hi]
    simp [IoDevice.withInputs, hw]
  | some i =>
    rw [hi] at h
    dsimp only at h
    cases hsm : cfg.submodules[i]? with
    | none =>
      rw [hsm] at h
      cases h
      have hw : (deviceOf cfg v).writer slot = .panic .unwrap := by
        simp [IoDevice.writer, deviceOf, hi, hsm]
      simp [IoDevice.withInputs, hw]
    | some sm =>
      rw [hsm] at h
      dsimp only at h
      cases hf : cfg.fields slot .input with
      | none =>
        rw [hf] at h
        cases h
        have hw : (deviceOf cfg v).writer slot = .err (.wrongDirection slot sm.direction) := by
          simp [IoDevice.writer, deviceOf, hi, hsm, hf]
        simp [IoDevice.withInputs, hw]
      | some fields =>
        rw [hf] at h
        have hw := writer_deviceOf (v := v) hi hsm hf
        cases h with
        | lock h =>
          have hbytes : v (.copy i) = copyOf v i := rfl
          dsimp only at h
          rw [hbytes] at h
          cases hrun : f.run { slot, fields, bytes := copyOf v i } with
          | err e =>
            rw [hrun] at h
            cases h
            simp [IoDevice.withInputs, hw, hrun]
          | panic p =>
            rw [hrun] at h
            cases h
            simp [IoDevice.withInputs, hw, hrun]
          | ok r =>
            obtain ⟨res, w⟩ := r
            rw [hrun] at h
            cases h with
            | put h =>
              have hin := runs_writeInputsProg h
              have himg : imageOf (Function.update v (.copy i) w.bytes) =
                (deviceOf cfg v).image := rfl
              have hdev := deviceOf_update_copy cfg v i w.bytes
              rw [himg] at hin
              rw [withInputs_of_run hw hrun]
              cases hwr : (deviceOf cfg v).image.writeInputs slot 1 w.bytes with
              | ok im =>
                rw [hwr] at hin
                obtain ⟨hv', him, rfl⟩ := hin
                have hcopy : copyOf v' = copyOf (Function.update v (.copy i) w.bytes) := by
                  rw [hv']
                  rfl
                refine ⟨?_, rfl⟩
                rw [deviceOf_congr hcopy, hdev, him]
              | err e =>
                rw [hwr] at hin
                obtain ⟨rfl, rfl⟩ := hin
                exact ⟨hdev, rfl⟩
              | panic p =>
                rw [hwr] at hin
                obtain ⟨rfl, rfl⟩ := hin
                exact ⟨hdev, rfl⟩

/-- An accessor that takes its locks with no other thread in between does what the accessor does
in one go. -/
lemma runs_prog {op : ImageCall τ} {out : ImageReply τ} (h : (op.prog cfg).Runs v v' out) :
    ∃ free, op.apply free (deviceOf cfg v) = (deviceOf cfg v', out) := by
  cases op with
  | rebuild layout =>
    obtain ⟨him, hc, rfl⟩ := runs_replaceProg h
    exact ⟨true, by rw [deviceOf_congr hc, him]; rfl⟩
  | clear =>
    obtain ⟨him, hc, rfl⟩ := runs_replaceProg h
    exact ⟨true, by rw [deviceOf_congr hc, him]; rfl⟩
  | writeInputs slot subslot bytes =>
    have hin := runs_writeInputsProg h
    refine ⟨true, ?_⟩
    simp only [apply]
    cases hwr : (deviceOf cfg v).image.writeInputs slot subslot bytes with
    | ok im =>
      rw [show (imageOf v).writeInputs slot subslot bytes = .ok im from hwr] at hin
      obtain ⟨hv', him, rfl⟩ := hin
      have hcopy : copyOf v' = copyOf v := by
        rw [hv']
        rfl
      rw [deviceOf_congr hcopy, him]
    | err e =>
      rw [show (imageOf v).writeInputs slot subslot bytes = .err e from hwr] at hin
      obtain ⟨rfl, rfl⟩ := hin
      rfl
    | panic p =>
      rw [show (imageOf v).writeInputs slot subslot bytes = .panic p from hwr] at hin
      obtain ⟨rfl, rfl⟩ := hin
      rfl
  | readOutputs slot subslot =>
    obtain ⟨rfl, rfl⟩ := runs_readOutputsProg h
    exact ⟨true, rfl⟩
  | withInputs slot f =>
    obtain ⟨hd, rfl⟩ := runs_withInputsProg h
    exact ⟨true, by rw [hd]; rfl⟩
  | cells =>
    cases h with
    | lock h =>
      cases h
      exact ⟨true, rfl⟩
  | snapshotOutputs dst =>
    cases h with
    | lock h =>
      cases h
      exact ⟨true, rfl⟩
  | validity =>
    cases h with
    | lock h =>
      cases h
      exact ⟨true, rfl⟩
  | setValidity w =>
    cases h with
    | lock h => cases h with
      | put h =>
        cases h
        exact ⟨true, rfl⟩
  | rtSnapshotInputs dst =>
    cases h with
    | free h =>
      cases h
      exact ⟨true, rfl⟩
    | taken h =>
      cases h
      exact ⟨false, rfl⟩
  | rtPublish csdu w =>
    cases h with
    | free h => cases h with
      | put h =>
        cases h
        exact ⟨true, rfl⟩
    | taken h =>
      cases h
      exact ⟨false, rfl⟩
  | rtSetValidity w =>
    cases h with
    | free h => cases h with
      | put h =>
        cases h
        exact ⟨true, rfl⟩
    | taken h =>
      cases h
      exact ⟨false, rfl⟩

end Alone

end ImageCall

/-! ### Any number of threads -/

section Threads

abbrev ImageState (T τ : Type) := LockState ImageLock.Val T (ImageCall τ) (ImageReply τ)

/-- The threads `T` over the parts `v`, their closures with results in `τ`. -/
def imageSystem (T τ : Type) [DecidableEq T] (cfg : DeviceConfig) (v : ∀ r, ImageLock.Val r) :
    System (ImageState T τ) (LockMove T (ImageCall τ)) :=
  lockSystem T (ImageCall.prog cfg) v

variable {T τ : Type} [DecidableEq T] {cfg : DeviceConfig} {v : ∀ r, ImageLock.Val r}
  {s : ImageState T τ}

/-- The accessors of a log in one go, one after the other, with the replies they gave. -/
inductive AppliedInOrder : IoDevice → List (T × ImageCall τ × ImageReply τ) → IoDevice → Prop
  | nil (d : IoDevice) : AppliedInOrder d [] d
  | snoc {d d' d'' : IoDevice} {log : List (T × ImageCall τ × ImageReply τ)} {t : T}
      {op : ImageCall τ} {out : ImageReply τ} {free : Bool} (h : AppliedInOrder d log d')
      (ho : op.apply free d' = (d'', out)) : AppliedInOrder d (log ++ [(t, op, out)]) d''

omit [DecidableEq T] in
lemma AppliedInOrder.of_serial {log : List (T × ImageCall τ × ImageReply τ)}
    {v' : ∀ r, ImageLock.Val r} (h : Serial (ImageCall.prog cfg) v log v') :
    AppliedInOrder (ImageCall.deviceOf cfg v) log (ImageCall.deviceOf cfg v') := by
  induction h with
  | nil => exact .nil _
  | snoc _ hr ih =>
    obtain ⟨free, ho⟩ := ImageCall.runs_prog hr
    exact .snoc ih ho

/-- However the threads of the application, of the device and of the RT loop interleave at the
locks, the accessors did what they do one after the other; once no lock is taken, the image and
the working copies are what that leaves behind. -/
theorem image_accessors_serial (h : (imageSystem T τ cfg v).Reach s) :
    ∃ d, AppliedInOrder (ImageCall.deviceOf cfg v) s.log d ∧
      ((∀ r, s.owner r = none) → d = ImageCall.deviceOf cfg s.mem) := by
  obtain ⟨a, hserial, hfree⟩ := exists_serial (ImageCall.ordered_prog cfg) h
  refine ⟨_, .of_serial hserial, fun hall => ?_⟩
  have ha : a = s.mem := funext fun r => hfree r (hall r)
  rw [ha]

namespace ImageDemo

/-- The parts of an image that was just made. -/
def parts : ∀ r, ImageLock.Val r
  | .copy _ => ([] : Bytes)
  | .cells => ([] : List Cell)
  | .inputs => ([] : Bytes)
  | .outputs => (⟨[], .default⟩ : Outputs)

/-- Thread `true` has the outputs locked while thread `false` tries them. -/
def moves : List (LockMove Bool (ImageCall Unit)) :=
  [.call true (.setValidity .default), .step true, .call false (.rtPublish [] .default),
    .step false, .step false, .step true, .step true]

/-- The try came to its end first, and failed. -/
lemma exists_reach : ∃ s, (imageSystem Bool Unit AppDemo.cfg parts).Reach s ∧
    (s.log.map (·.1) == [false, true] && (s.task true).isSome) = true := by
  have hrun : ((imageSystem Bool Unit AppDemo.cfg parts).run
      ⟨parts, fun _ => none, fun _ => none, []⟩ moves).any
      (fun s => s.log.map (·.1) == [false, true] && (s.task true).isSome) = true := rfl
  exact System.exists_reach_of_run rfl hrun

end ImageDemo

theorem image_accessors_serial_demo :
    ∃ s, (imageSystem Bool Unit AppDemo.cfg ImageDemo.parts).Reach s ∧
      (s.log.map (·.1) == [false, true] && (s.task true).isSome) = true ∧
      ∃ d, AppliedInOrder (ImageCall.deviceOf AppDemo.cfg ImageDemo.parts) s.log d := by
  obtain ⟨s, hs, hlog⟩ := ImageDemo.exists_reach
  obtain ⟨d, hd, -⟩ := image_accessors_serial hs
  exact ⟨s, hs, hlog, d, hd⟩

/-- No deadlock, as long as closures make no accessor calls: while a thread is in an accessor, some
thread in an accessor can go on; and a thread in an accessor of the RT side never waits. -/
theorem image_locks_progress (h : (imageSystem T τ cfg v).Reach s) :
    ((∃ t, s.task t ≠ none) →
      ∃ t s', s.task t ≠ none ∧ (imageSystem T τ cfg v).step s (.step t) = some s') ∧
    ∀ t op rest held, s.task t = some (.running op rest held) → op.OfRt →
      ∃ s', (imageSystem T τ cfg v).step s (.step t) = some s' := by
  refine ⟨fun ⟨t, ht⟩ => exists_advance (ImageCall.ordered_prog cfg) h ht, ?_⟩
  intro t op rest held ht hrt
  refine advance_of_nonblocking h ht fun op' rest' held' he => ?_
  cases he
  exact ImageCall.nonblocking_prog cfg hrt

theorem image_locks_progress_demo :
    ∃ s, (imageSystem Bool Unit AppDemo.cfg ImageDemo.parts).Reach s ∧
      ∃ t s', s.task t ≠ none ∧
        (imageSystem Bool Unit AppDemo.cfg ImageDemo.parts).step s (.step t) = some s' := by
  obtain ⟨s, hs, hlog⟩ := ImageDemo.exists_reach
  have htask : s.task true ≠ none := by
    intro hnone
    simp [hnone] at hlog
  exact ⟨s, hs, (image_locks_progress hs).1 ⟨true, htask⟩⟩

end Threads

end Pnio
