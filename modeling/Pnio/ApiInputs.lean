import Pnio.Api
import Pnio.Lib.Runs
import Pnio.RtData

/-!
From the application to the wire: the values last set for the fields of a slot are those the
provider frame carries, whatever ARs came and went in between.
-/

namespace Pnio

/-! ### Closures -/

/-- The value a field was last set to. -/
def lastSet (sets : List (Nat × Value)) (i : Nat) : Option Value :=
  (sets.reverse.find? (·.1 == i)).map (·.2)

lemma lastSet_snoc (sets : List (Nat × Value)) (i j : Nat) (v : Value) :
    lastSet (sets ++ [(i, v)]) j = if i = j then some v else lastSet sets j := by
  unfold lastSet
  rw [List.reverse_append, List.reverse_singleton, List.singleton_append]
  by_cases h : i = j
  · rw [List.find?_cons_of_pos (by simpa using h), if_pos h]
    rfl
  · rw [List.find?_cons_of_neg (by simpa using h), if_neg h]

namespace SlotWriter

variable {w w' : SlotWriter} {n : Nat} {sets : List (Nat × Value)}

/-- The fields lie apart, in the `n` bytes of the data. -/
structure Ok (w : SlotWriter) (n : Nat) : Prop where
  length : w.bytes.length = n
  fits : ∀ f ∈ w.fields, f.Fits n
  apart : (w.fields.map FieldRef.span).Pairwise Span.Apart

/-- The data has the values that were set, and zero everywhere else. -/
def Shows (w : SlotWriter) (sets : List (Nat × Value)) : Prop :=
  ∀ i (f : FieldRef), w.fields[i]? = some f →
    f.get w.bytes = .ok ((lastSet sets i).getD (.zero f.ty))

lemma Ok.apart_of_ne (h : w.Ok n) {i j : Nat} {f g : FieldRef} (hf : w.fields[i]? = some f)
    (hg : w.fields[j]? = some g) (hne : i ≠ j) : f.span.Apart g.span := by
  obtain ⟨hi, rfl⟩ := List.getElem?_eq_some_iff.1 hf
  obtain ⟨hj, rfl⟩ := List.getElem?_eq_some_iff.1 hg
  have hpw := List.pairwise_iff_getElem.1 (List.pairwise_map.1 h.apart)
  rcases Nat.lt_or_gt_of_ne hne with hlt | hlt
  · exact hpw i j hi hj hlt
  · exact (hpw j i hj hi hlt).symm

/-- Setting a field. -/
lemma set_spec {i : Nat} {v : Value} (hw : w.Ok n) (hs : w.Shows sets)
    (h : w.set i v = .ok w') :
    w'.fields = w.fields ∧ w'.Ok n ∧ w'.Shows (sets ++ [(i, v)]) := by
  obtain ⟨f, hf, h⟩ := Res.bind_eq_ok.1 h
  obtain ⟨_, ht, h⟩ := Res.bind_eq_ok.1 h
  obtain ⟨b, hput, h⟩ := Res.bind_eq_ok.1 h
  cases h
  rw [Res.okOr_eq_ok] at hf
  rw [Res.reject_eq_ok, not_not] at ht
  have hfits := hw.fits f (List.mem_of_getElem? hf)
  obtain ⟨b', hput', honly, hget⟩ := hfits.put_eq (le_of_eq hw.length.symm) ht.symm
  rw [hput', Res.mapErr_ok] at hput
  cases hput
  refine ⟨rfl, ⟨honly.length.trans hw.length, hw.fits, hw.apart⟩, fun j g hg => ?_⟩
  dsimp only at hg ⊢
  rw [lastSet_snoc]
  by_cases hij : i = j
  · subst hij
    cases hf.symm.trans hg
    rw [if_pos rfl]
    exact hget
  · -- another field: its bits were not touched
    rw [if_neg hij, ← hs j g hg]
    exact (hw.fits g (List.mem_of_getElem? hg)).get_congr
      (le_of_eq (honly.length.trans hw.length).symm) (le_of_eq hw.length.symm)
      (honly.sameBits (hw.apart_of_ne hf hg hij))

end SlotWriter

/-- What a closure that returned has left in its scratch copy. -/
lemma Closure.run_spec {τ : Type} {f : Closure τ} {w w' : SlotWriter} {n : Nat}
    {sets : List (Nat × Value)} {out : τ} (hw : w.Ok n) (hs : w.Shows sets)
    (h : f.run w = .ok (out, w')) :
    w'.fields = w.fields ∧ w'.Ok n ∧ w'.Shows (sets ++ f.sets w) := by
  induction f generalizing w sets with
  | ret out =>
    cases h
    rw [Closure.sets, List.append_nil]
    exact ⟨rfl, hw, hs⟩
  | fail e => cases h
  | panic p => cases h
  | set i v next ih =>
    unfold run at h
    unfold Closure.sets
    cases hset : w.set i v with
    | ok w1 =>
      rw [hset] at h
      obtain ⟨hfields, hw1, hs1⟩ := SlotWriter.set_spec hw hs hset
      obtain ⟨hfields', hw', hs'⟩ := ih (.ok ()) hw1 hs1 h
      rw [List.append_assoc] at hs'
      exact ⟨hfields'.trans hfields, hw', hs'⟩
    | err e =>
      rw [hset] at h
      exact ih (.error e) hw hs h
    | panic p =>
      rw [hset] at h
      cases h

/-! ### One call -/

namespace IoDevice

variable {τ : Type} {d : IoDevice} {slot : UInt16} {f : Closure τ}

/-- The fields set by a closure that returned Ok. -/
def setBy (d : IoDevice) (slot : UInt16) (f : Closure τ) : List (Nat × Value) :=
  match d.writer slot with
  | .ok (_, w) =>
    match f.run w with
    | .ok _ => f.sets w
    | _ => []
  | _ => []

/-- What a call can do: nothing, or keep what the closure set, and publish it. -/
inductive Wrote (d : IoDevice) (slot : UInt16) (f : Closure τ) :
    IoDevice → Res ApiError τ → List (Nat × Value) → Prop
  | refused {r : Res ApiError τ} (hr : ∀ out, r ≠ .ok out) : Wrote d slot f d r []
  | kept {i : Nat} {w w' : SlotWriter} {out : τ} {r : Res ApiError τ}
      (hw : d.writer slot = .ok (i, w)) (hf : f.run w = .ok (out, w')) (hr : ∀ out, r ≠ .ok out) :
      Wrote d slot f { d with inputs := d.inputs.set i w'.bytes } r (f.sets w)
  | published {i : Nat} {w w' : SlotWriter} {out : τ} {image : IoImage}
      (hw : d.writer slot = .ok (i, w)) (hf : f.run w = .ok (out, w'))
      (hp : d.image.writeInputs slot 1 w'.bytes = .ok image) :
      Wrote d slot f { d with inputs := d.inputs.set i w'.bytes, image } (.ok out) (f.sets w)

lemma withInputs_wrote (d : IoDevice) (slot : UInt16) (f : Closure τ) :
    Wrote d slot f (d.withInputs slot f).1 (d.withInputs slot f).2 (d.setBy slot f) := by
  unfold withInputs setBy
  cases hw : d.writer slot with
  | err e => exact .refused fun _ h => by cases h
  | panic p => exact .refused fun _ h => by cases h
  | ok r =>
    obtain ⟨i, w⟩ := r
    dsimp only
    cases hf : f.run w with
    | err e => exact .refused fun _ h => by cases h
    | panic p => exact .refused fun _ h => by cases h
    | ok r =>
      obtain ⟨out, w'⟩ := r
      dsimp only
      cases hp : d.image.writeInputs slot 1 w'.bytes with
      | err e => exact .kept hw hf fun _ h => by cases h
      | panic p => exact .kept hw hf fun _ h => by cases h
      | ok image => exact .published hw hf hp

/-- A call whose closure fails, or that has no such slot, does nothing. -/
lemma withInputs_of_failed (h : ∀ i w r, d.writer slot = .ok (i, w) → f.run w ≠ .ok r) :
    (d.withInputs slot f).1 = d := by
  have hwrote := withInputs_wrote d slot f
  generalize (d.withInputs slot f).1 = d', (d.withInputs slot f).2 = r, d.setBy slot f = sets
    at hwrote
  cases hwrote with
  | refused hr => rfl
  | kept hw hf hr => exact absurd hf (h _ _ _ hw)
  | published hw hf hp => exact absurd hf (h _ _ _ hw)

lemma writer_eq {i : Nat} {w : SlotWriter} (h : d.writer slot = .ok (i, w)) :
    d.cfg.indexOf slot = some i ∧ d.cfg.fields slot .input = some w.fields ∧
      d.inputs[i]? = some w.bytes := by
  obtain ⟨i', hi, h⟩ := Res.bind_eq_ok.1 h
  obtain ⟨sm, -, h⟩ := Res.bind_eq_ok.1 h
  obtain ⟨fields, hf, h⟩ := Res.bind_eq_ok.1 h
  obtain ⟨bytes, hb, h⟩ := Res.bind_eq_ok.1 h
  cases h
  exact ⟨Res.okOr_eq_ok.1 hi, Res.okOr_eq_ok.1 hf, Res.unwrap_eq_ok.1 hb⟩

end IoDevice

/-- Publishing a slot's data. -/
lemma IoImage.writeInputs_eq {im im' : IoImage} {slot subslot : UInt16} {bytes : Bytes}
    (h : im.writeInputs slot subslot bytes = .ok im') :
    ∃ cell off inputs,
      im.cells.find? (fun c => c.slot == slot && c.subslot == subslot) = some cell ∧
      cell.inputOff = some off ∧ bytes.length = cell.inputLen ∧
      (patch im.inputs off bytes : Res ImageError _) = .ok inputs ∧ im' = { im with inputs } := by
  obtain ⟨cell, hc, h⟩ := Res.bind_eq_ok.1 h
  obtain ⟨off, ho, h⟩ := Res.bind_eq_ok.1 h
  obtain ⟨_, hl, h⟩ := Res.bind_eq_ok.1 h
  obtain ⟨_, -, h⟩ := Res.bind_eq_ok.1 h
  obtain ⟨inputs, hp, h⟩ := Res.bind_eq_ok.1 h
  cases h
  rw [Res.reject_eq_ok, not_not] at hl
  exact ⟨cell, off, inputs, Res.okOr_eq_ok.1 hc, Res.okOr_eq_ok.1 ho, hl, hp, rfl⟩

/-! ### Runs -/

/-- A device in use, with the layout of its last AR and all that was set since the start. -/
structure AppRun where
  dev : IoDevice
  layout : Option Layout
  sets : List (UInt16 × Nat × Value)

inductive AppInput (τ : Type) where
  | withInputs (slot : UInt16) (f : Closure τ)
  | rebuild (params : ArParams)
  | clear

/-- What was set in one slot. -/
def setsIn (sets : List (UInt16 × Nat × Value)) (slot : UInt16) : List (Nat × Value) :=
  (sets.filter (·.1 == slot)).map (·.2)

lemma setsIn_append_self (sets : List (UInt16 × Nat × Value)) (slot : UInt16)
    (new : List (Nat × Value)) :
    setsIn (sets ++ new.map fun p => (slot, p)) slot = setsIn sets slot ++ new := by
  simp [setsIn, List.filter_map, Function.comp_def]

lemma setsIn_append_of_ne (sets : List (UInt16 × Nat × Value)) {slot slot' : UInt16}
    (h : slot ≠ slot') (new : List (Nat × Value)) :
    setsIn (sets ++ new.map fun p => (slot, p)) slot' = setsIn sets slot' := by
  simp [setsIn, List.filter_map, Function.comp_def, h]

/-- A new AR rebuilds the image if its parameters have a layout; the end of an AR clears it. -/
def appSystem (cfg : DeviceConfig) (mac : MacAddr) (τ : Type) : System AppRun (AppInput τ) where
  init s := s = ⟨.start cfg, none, []⟩
  step s
    | .withInputs slot f => some
        { s with
          dev := (s.dev.withInputs slot f).1
          sets := s.sets ++ (s.dev.setBy slot f).map fun p => (slot, p) }
    | .rebuild params =>
      match Layout.fromAr params (cfg.model mac) with
      | .ok l => some
          { s with dev := { s.dev with image := s.dev.image.rebuild l }, layout := some l }
      | _ => none
    | .clear => some { s with dev := { s.dev with image := s.dev.image.clear } }

section Inv

variable {cfg : DeviceConfig} {mac : MacAddr} {τ : Type} {s : AppRun} {slot : UInt16}
  {f : Closure τ}

/-- The image is empty, or it is laid out for the last AR. -/
def ImageOf (cfg : DeviceConfig) (mac : MacAddr) (layout : Option Layout) (im : IoImage) : Prop :=
  im.cells = [] ∨ ∃ l params, layout = some l ∧
    Layout.fromAr params (cfg.model mac) = .ok l ∧ im.cells = l.cells ∧
    im.inputs.length = l.inputCr.dataLength

/-- The writer of a working copy. -/
def Derived.writer (d : Derived) (slot : UInt16) (bytes : Bytes) : SlotWriter :=
  ⟨slot, d.inputs, bytes⟩

/-- The working copy of a submodule has the values that were set in its slot. -/
def Copied (sets : List (UInt16 × Nat × Value)) (sm : SubmoduleSpec) (d : Derived) (b : Bytes) :
    Prop :=
  (d.writer sm.slot b).Ok d.inputLen.toNat ∧ (d.writer sm.slot b).Shows (setsIn sets sm.slot)

structure AppInv (cfg : DeviceConfig) (mac : MacAddr) (s : AppRun) : Prop where
  config : s.dev.cfg = cfg
  copies : ∀ (i : Nat) sm d, cfg.submodules[i]? = some sm → cfg.derived[i]? = some d →
    ∃ b, s.dev.inputs[i]? = some b ∧ Copied s.sets sm d b
  image : ImageOf cfg mac s.layout s.dev.image

lemma appInv_start (h : cfg.Sound) : AppInv cfg mac ⟨.start cfg, none, []⟩ := by
  refine ⟨rfl, fun i sm d hsm hd => ?_, .inl rfl⟩
  have hlen : cfg.inputLen sm.slot = some d.inputLen := by
    rw [DeviceConfig.inputLen, h.indexOf hsm]
    simp [hd]
  have ht := h.hasTables hsm hd
  have hfits := checkedLayout_fits ht.inputs
  refine ⟨List.replicate d.inputLen.toNat 0, ?_, ⟨List.length_replicate, hfits, ?_⟩,
    fun j f hf => ?_⟩
  · simp [IoDevice.start, hsm, hlen]
  · exact (checkedLayout_laidOut ht.inputs).apart
  · exact (hfits f (List.mem_of_getElem? hf)).get_zero

/-- The submodule whose writer a call is given, and what its closure leaves there. -/
lemma AppInv.wrote (h : cfg.Sound) (hi : AppInv cfg mac s) {i : Nat} {w w' : SlotWriter} {out : τ}
    (hw : s.dev.writer slot = .ok (i, w)) (hf : f.run w = .ok (out, w')) :
    ∃ sm d, cfg.submodules[i]? = some sm ∧ cfg.derived[i]? = some d ∧ sm.slot = slot ∧
      cfg.fields slot .input = some d.inputs ∧ i < s.dev.inputs.length ∧
      Copied (s.sets ++ (f.sets w).map fun p => (slot, p)) sm d w'.bytes := by
  obtain ⟨hindex, hfields, hb⟩ := IoDevice.writer_eq hw
  rw [hi.config] at hindex hfields
  obtain ⟨sm, d, hsm, hd, rfl, -⟩ := h.lookup hindex
  obtain ⟨b, hb', hok, hshows⟩ := hi.copies i sm d hsm hd
  cases hb.symm.trans hb'
  rcases DeviceConfig.Sound.fields_eq hindex hd hfields with ⟨-, hinputs⟩ | ⟨hdir, -⟩
  · obtain ⟨slot, fields, bytes⟩ := w
    dsimp only at hinputs
    subst hinputs
    obtain ⟨hsame, hok', hshows'⟩ := Closure.run_spec (w := ⟨slot, d.inputs, bytes⟩)
      ⟨hok.length, hok.fits, hok.apart⟩ hshows hf
    rw [← setsIn_append_self] at hshows'
    refine ⟨sm, d, hsm, hd, rfl, hfields, (List.getElem?_eq_some_iff.1 hb).1,
      ⟨hok'.length, hok.fits, hok.apart⟩, fun j g hg => hshows' j g ?_⟩
    rw [hsame]
    exact hg
  · cases hdir

/-- The copies after a call that kept what its closure set. -/
lemma AppInv.copies_set (h : cfg.Sound) (hi : AppInv cfg mac s) {i : Nat} {w w' : SlotWriter}
    {out : τ} (hw : s.dev.writer slot = .ok (i, w)) (hf : f.run w = .ok (out, w')) :
    ∀ (j : Nat) sm d, cfg.submodules[j]? = some sm → cfg.derived[j]? = some d →
      ∃ b, (s.dev.inputs.set i w'.bytes)[j]? = some b ∧
        Copied (s.sets ++ (f.sets w).map fun p => (slot, p)) sm d b := by
  intro j sm d hsm hd
  obtain ⟨sm', d', hsm', hd', rfl, -, hlt, hcopied⟩ := hi.wrote h hw hf
  by_cases hij : i = j
  · subst hij
    cases hsm.symm.trans hsm'
    cases hd.symm.trans hd'
    exact ⟨_, List.getElem?_set_self hlt, hcopied⟩
  · have hslot : sm'.slot ≠ sm.slot := by
      intro heq
      have hidx := h.indexOf hsm
      rw [← heq, h.indexOf hsm'] at hidx
      exact hij (Option.some.inj hidx)
    obtain ⟨b, hb, hok, hshows⟩ := hi.copies j sm d hsm hd
    refine ⟨b, by rw [List.getElem?_set_ne hij, hb], hok, ?_⟩
    rw [setsIn_append_of_ne _ hslot]
    exact hshows

lemma AppInv.withInputs (h : cfg.Sound) (hi : AppInv cfg mac s) (slot : UInt16) (f : Closure τ) :
    AppInv cfg mac
      { s with
        dev := (s.dev.withInputs slot f).1
        sets := s.sets ++ (s.dev.setBy slot f).map fun p => (slot, p) } := by
  have hwrote := IoDevice.withInputs_wrote s.dev slot f
  generalize (s.dev.withInputs slot f).1 = d', (s.dev.withInputs slot f).2 = r,
    s.dev.setBy slot f = sets at hwrote ⊢
  cases hwrote with
  | refused hr =>
    rw [List.map_nil, List.append_nil]
    exact hi
  | kept hw hf hr => exact ⟨hi.config, hi.copies_set h hw hf, hi.image⟩
  | published hw hf hp =>
    refine ⟨hi.config, hi.copies_set h hw hf, ?_⟩
    obtain ⟨cell, off, inputs, -, -, -, hpatch, rfl⟩ := IoImage.writeInputs_eq hp
    rcases hi.image with hempty | ⟨l, params, hl, hfrom, hcells, hlen⟩
    · exact .inl hempty
    · exact .inr ⟨l, params, hl, hfrom, hcells, (length_of_patch hpatch).trans hlen⟩

lemma appInv_reach (h : cfg.Sound) (hs : (appSystem cfg mac τ).Reach s) : AppInv cfg mac s := by
  refine System.Reach.inv (fun s hinit => ?_) (fun s i s' hi hst => ?_) hs
  · cases hinit
    exact appInv_start h
  · cases i with
    | withInputs slot f =>
      cases hst
      exact hi.withInputs h slot f
    | rebuild params =>
      simp only [appSystem] at hst
      split at hst
      · next l hl =>
        cases hst
        exact ⟨hi.config, hi.copies, .inr ⟨l, params, rfl, hl, rfl, List.length_replicate⟩⟩
      · cases hst
    | clear =>
      cases hst
      exact ⟨hi.config, hi.copies, .inl rfl⟩

/-! ### Published data -/

/-- The frame has the value `v` for a field of the data at the offset `off`. -/
def FrameShows (frame : Bytes) (off : Nat) (f : FieldRef) (v : Value) : Prop :=
  ∃ eth rt, RtFrame.parse frame = .ok (eth, rt) ∧
    Value.decode f.ty (rt.csdu.drop (off + f.byte.toNat)) f.bit.toNat = .ok v

/-- The frame of a tick shows the fields of an object as the image has them. -/
lemma RtEngine.Used.tick_shows {ε : Type} {l : Layout} {e : RtEngine} (hu : Used l e)
    (hl : l.inputCr.Sound) {im : IoImage} (him : im.inputs.length = l.inputCr.dataLength)
    {free : Bool} {dst buf : Bytes} (hsnap : im.rtSnapshotInputs free dst = (buf, true))
    (hdst : l.inputCr.dataLength ≤ dst.length) (problem : Bool) (n : UInt32) :
    ∃ e' frame, (e.onTick problem n buf : Res ε _) = .ok (e', frame) ∧
      ∀ o ∈ l.inputCr.objects, ∀ f : FieldRef, f.Fits o.dataLen →
        ∀ v, f.get (cut im.inputs o.data) = .ok v → FrameShows frame o.dataOff f v := by
  have hbuf : buf = im.inputs ++ dst.drop im.inputs.length := by
    cases free with
    | false => cases hsnap
    | true =>
      obtain ⟨hb, -⟩ := Prod.mk.inj hsnap
      rw [← hb, IoImage.copyFront, him, min_eq_right hdst, List.take_of_length_le (le_of_eq him)]
  have hlen : l.inputCr.dataLength ≤ buf.length := by
    rw [hbuf, List.length_append]
    omega
  obtain ⟨e', rt, htick, -, hcsdu, hdata⟩ := onTick_spec (ε := ε) hu.built hl problem n hlen
  refine ⟨e', _, htick, fun o ho f hf v hv => ⟨_, _, RtFrame.parse_bytes rt _ _, ?_⟩⟩
  have hw := hl.object_within ho
  have hin : o.dataOff + o.dataLen ≤ rt.csdu.length := by omega
  have hpad : o.dataOff + o.dataLen ≤ rt.padded.csdu.length := by
    rw [RtFrame.padded, List.length_append]
    omega
  calc Value.decode f.ty (rt.padded.csdu.drop (o.dataOff + f.byte.toNat)) f.bit.toNat
      = f.get (cut rt.padded.csdu o.data) := hf.get_cut hpad
    _ = f.get (cut rt.csdu o.data) := by
        rw [RtFrame.padded, cut_append_left hin]
    _ = f.get (cut buf o.data) := by rw [hdata o ho]
    _ = f.get (cut im.inputs o.data) := by
        rw [hbuf, cut_append_left (show o.data.off + o.data.len ≤ _ by
          dsimp only [IoObject.data]; omega)]
    _ = .ok v := hv

/-- What a call that published has put into the image. -/
lemma AppInv.published (hi : AppInv cfg mac s) {bytes : Bytes} {im : IoImage}
    (hp : s.dev.image.writeInputs slot 1 bytes = .ok im) :
    ∃ l params cell off, s.layout = some l ∧ Layout.fromAr params (cfg.model mac) = .ok l ∧
      l.cells.find? (fun c => c.slot == slot && c.subslot == 1) = some cell ∧
      cell.inputOff = some off ∧ bytes.length = cell.inputLen ∧
      im.inputs.length = l.inputCr.dataLength ∧ im.cells = s.dev.image.cells ∧
      im.cells = l.cells ∧ im.outputs = s.dev.image.outputs ∧
      (patch s.dev.image.inputs off bytes : Res ImageError _) = .ok im.inputs := by
  obtain ⟨cell, off, inputs, hfind, hoff, hlen, hpatch, rfl⟩ := IoImage.writeInputs_eq hp
  rcases hi.image with hempty | ⟨l, params, hl, hfrom, hcells, hinputs⟩
  · rw [hempty] at hfind
    cases hfind
  · rw [hcells] at hfind
    exact ⟨l, params, cell, off, hl, hfrom, hfind, hoff, hlen,
      (length_of_patch hpatch).trans hinputs, rfl, hcells, rfl, hpatch⟩

/-- Nothing but the inputs of one slot differs. -/
structure IoImage.SameBut (slot : UInt16) (im im' : IoImage) : Prop where
  cells : im'.cells = im.cells
  outputs : im'.outputs = im.outputs
  inputs : ∀ c ∈ im.cells, c.slot ≠ slot → ∀ off, c.inputOff = some off →
    cut im'.inputs ⟨off, c.inputLen⟩ = cut im.inputs ⟨off, c.inputLen⟩

lemma AppInv.sameBut (h : cfg.Sound) (hi : AppInv cfg mac s) (slot : UInt16) (f : Closure τ) :
    s.dev.image.SameBut slot (s.dev.withInputs slot f).1.image := by
  have hwrote := IoDevice.withInputs_wrote s.dev slot f
  generalize (s.dev.withInputs slot f).1 = d', (s.dev.withInputs slot f).2 = r,
    s.dev.setBy slot f = sets at hwrote ⊢
  cases hwrote with
  | refused hr => exact ⟨rfl, rfl, fun _ _ _ _ _ => rfl⟩
  | kept hw hf hr => exact ⟨rfl, rfl, fun _ _ _ _ _ => rfl⟩
  | published hw hf hp =>
    obtain ⟨l, params, cell, off, -, hfrom, hfind, hoff, hlen, -, hsame, hcells, hout, hpatch⟩ :=
      hi.published hp
    refine ⟨hsame, hout, fun c hc hslot off' hoff' => ?_⟩
    rw [← hsame, hcells] at hc
    obtain ⟨hin, -, -⟩ := Layout.fromAr_eq_ok.1 hfrom
    have hm := h.model_distinct mac
    obtain ⟨o, ho, hos, rfl, hol⟩ := Layout.input_object hfrom hm hc hoff'
    obtain ⟨o', ho', hos', rfl, hol'⟩ :=
      Layout.input_object hfrom hm (List.mem_of_find?_eq_some hfind) hoff
    have hkey := List.find?_some hfind
    rw [Bool.and_eq_true, beq_iff_eq] at hkey
    have hne : o ≠ o' := by
      rintro rfl
      exact hslot (hos.symm.trans (hos'.trans hkey.1))
    have hapart := (buildCr_sound hin).data_apart ho ho' hne
    refine cut_patch_apart hpatch ?_
    rw [hlen, ← hol, ← hol']
    exact hapart

end Inv

/-! ### From the application to the wire -/

/-- **The provider frame has what was last set.** After any calls, new ARs and ends of ARs:

* right after a call that returned Ok, every engine of the last layout sends a frame that shows,
  for every input field of the slot, the value that was last set for it by a closure that
  returned, or zero;
* a call whose closure fails changes nothing;
* no call changes what the image has for another slot. -/
theorem inputs_reach_the_wire {b : DeviceConfigBuilder} {cfg : DeviceConfig}
    (hb : b.build = .ok cfg) {mac : MacAddr} {τ τ' : Type} {s : AppRun}
    (hs : (appSystem cfg mac τ).Reach s) (slot : UInt16) (f : Closure τ') :
    (∀ out, (s.dev.withInputs slot f).2 = .ok out →
      ∃ l cell off fields, s.layout = some l ∧
        l.cells.find? (fun c => c.slot == slot && c.subslot == 1) = some cell ∧
        cell.inputOff = some off ∧ cfg.fields slot .input = some fields ∧
        ∀ (ε : Type) (e : RtEngine) (problem : Bool) (n : UInt32) (free : Bool) (dst buf : Bytes),
          RtEngine.Used l e → l.inputCr.dataLength ≤ dst.length →
          (s.dev.withInputs slot f).1.image.rtSnapshotInputs free dst = (buf, true) →
          ∃ e' frame, (e.onTick problem n buf : Res ε _) = .ok (e', frame) ∧
            ∀ (i : Nat) (r : FieldRef), fields[i]? = some r → FrameShows frame off r
              ((lastSet (setsIn s.sets slot ++ s.dev.setBy slot f) i).getD (.zero r.ty))) ∧
    ((∀ i w r, s.dev.writer slot = .ok (i, w) → f.run w ≠ .ok r) →
      (s.dev.withInputs slot f).1 = s.dev) ∧
    s.dev.image.SameBut slot (s.dev.withInputs slot f).1.image := by
  have hcfg := DeviceConfigBuilder.build_sound hb
  have hi := appInv_reach hcfg hs
  refine ⟨fun out hout => ?_, IoDevice.withInputs_of_failed, hi.sameBut hcfg slot f⟩
  have hwrote := IoDevice.withInputs_wrote s.dev slot f
  generalize (s.dev.withInputs slot f).1 = d', (s.dev.withInputs slot f).2 = r,
    s.dev.setBy slot f = sets at hwrote hout ⊢
  cases hwrote with
  | refused hr => exact absurd hout (hr out)
  | kept hw hf hr => exact absurd hout (hr out)
  | @published _ _ w' _ _ hw hf hp =>
    obtain ⟨l, params, cell, off, hl, hfrom, hfind, hoff, hlen, hinputs, -, -, -, hpatch⟩ :=
      hi.published hp
    obtain ⟨sm, d, -, -, rfl, hfields, -, hok, hshows⟩ := hi.wrote hcfg hw hf
    rw [setsIn_append_self] at hshows
    obtain ⟨hin, -, -⟩ := Layout.fromAr_eq_ok.1 hfrom
    obtain ⟨o, ho, -, rfl, hol⟩ := Layout.input_object hfrom (hcfg.model_distinct mac)
      (List.mem_of_find?_eq_some hfind) hoff
    refine ⟨l, cell, _, d.inputs, hl, hfind, hoff, hfields,
      fun ε e problem n free dst buf hu hdst hsnap => ?_⟩
    obtain ⟨e', frame, htick, hframe⟩ :=
      hu.tick_shows (ε := ε) (buildCr_sound hin) hinputs hsnap hdst problem n
    refine ⟨e', frame, htick, fun i r hr => hframe o ho r ?_ _ ?_⟩
    · -- the object is as long as the working copy
      have hcopy : w'.bytes.length = d.inputLen.toNat := hok.length
      rw [hol, ← hlen, hcopy]
      exact hok.fits r (List.mem_of_getElem? hr)
    · have hself := cut_patch_self hpatch
      rw [IoObject.data, hol, ← hlen, hself]
      exact hshows i r hr

namespace AppDemo

/-- Sets one field and returns. -/
def setOne (i : Nat) (v : Value) : Closure Unit := .set i v fun _ => .ret ()

/-- The word was set before there was an AR. -/
def early : AppRun := ⟨⟨cfg, .empty, [[0, 0, 7]]⟩, none, [(1, 1, .word 7)]⟩

def state : AppRun :=
  ⟨⟨cfg, IoImage.empty.rebuild layout, [[0, 0, 7]]⟩, some layout, [(1, 1, .word 7)]⟩

lemma reach_early : (appSystem cfg mac Unit).Reach early := by
  refine .step (i := .withInputs 1 (setOne 1 (.word 7))) (.init rfl) trivial ?_
  have hdev : ((IoDevice.start cfg).withInputs 1 (setOne 1 (.word 7))).1 = early.dev := by
    decide +kernel
  have hsets : (IoDevice.start cfg).setBy 1 (setOne 1 (.word 7)) = [(1, .word 7)] := by
    decide +kernel
  simp only [appSystem, hdev, hsets]
  rfl

lemma reach_state : (appSystem cfg mac Unit).Reach state := by
  refine .step (i := .rebuild params) reach_early trivial ?_
  simp only [appSystem, fromAr_params]
  rfl

/-- The engine of the AR. -/
def engine : RtEngine := .new layout mac params.initiatorMac {}

/-- The device after a call that set the bit. -/
def after : IoDevice := (state.dev.withInputs 1 (setOne 0 (.bool true))).1

lemma after_ok : (state.dev.withInputs 1 (setOne 0 (.bool true))).2 = .ok () := by decide +kernel

lemma fields_one : cfg.fields 1 .input = some [⟨0, 0, .bool⟩, ⟨1, 0, .word⟩] := by
  decide +kernel

end AppDemo

/-- The bit is set after the AR came up, the word before: the first frame has both. -/
theorem inputs_reach_the_wire_new_ar :
    AppDemo.builder.build = .ok AppDemo.cfg ∧
      (appSystem AppDemo.cfg AppDemo.mac Unit).Reach AppDemo.state ∧
      ∃ e' frame, (AppDemo.engine.onTick false 1
          (AppDemo.after.image.rtSnapshotInputs true (List.replicate 40 0)).1 : Res Empty _) =
            .ok (e', frame) ∧
        FrameShows frame 0 ⟨0, 0, .bool⟩ (.bool true) ∧
        FrameShows frame 0 ⟨1, 0, .word⟩ (.word 7) := by
  refine ⟨AppDemo.build_builder, AppDemo.reach_state, ?_⟩
  obtain ⟨l, cell, off, fields, hl, hcell, hoff, hfields, hframe⟩ :=
    (inputs_reach_the_wire AppDemo.build_builder AppDemo.reach_state 1 _).1 () AppDemo.after_ok
  cases hl
  cases hcell.symm.trans AppDemo.cell_one
  cases hoff
  cases hfields.symm.trans AppDemo.fields_one
  obtain ⟨e', frame, htick, hshows⟩ := hframe Empty AppDemo.engine false 1 true
    (List.replicate 40 0) _ (.new _ _ _) (le_of_eq rfl) rfl
  have hbit := hshows 0 _ rfl
  have hword := hshows 1 _ rfl
  exact ⟨e', frame, htick, hbit, hword⟩

end Pnio
