import Mathlib.Data.List.Sort
import Pnio.Data
import Pnio.LayoutSpec

/-!
What the builder accepts: one table for each submodule, slots in ascending order, and where the
submodules are found again in the device model and in the cells of a layout.
-/

namespace Pnio

/-- The tables of a submodule that was accepted. -/
structure SubmoduleSpec.HasTables (sm : SubmoduleSpec) (d : Derived) : Prop where
  slot : sm.slot ≠ 0
  data : ¬ (sm.inputs = [] ∧ sm.outputs = [])
  inputs : checkedLayout sm.slot sm.inputs = .ok (d.inputs, d.inputLen)
  outputs : checkedLayout sm.slot sm.outputs = .ok (d.outputs, d.outputLen)

/-- Only a submodule without fields has no bytes. -/
lemma checkedLayout_pos {slot n : UInt16} {fields : List FieldType} {refs : List FieldRef}
    (h : checkedLayout slot fields = .ok (refs, n)) : fields ≠ [] ↔ 0 < n := by
  constructor
  · intro hne
    have hlaid := checkedLayout_laidOut h
    obtain ⟨f, hf⟩ : ∃ f, f ∈ refs := by
      refine List.exists_mem_of_ne_nil _ ?_
      rintro rfl
      exact hne hlaid.types.symm
    have hw := hlaid.within f hf
    have hlen : 0 < f.span.len := by
      dsimp only [FieldRef.span]
      cases f.ty <;> decide
    rw [UInt16.lt_iff_toNat_lt, UInt16.toNat_zero]
    omega
  · rintro hpos rfl
    obtain ⟨-, -, rfl⟩ := checkedLayout_eq_ok.1 h
    exact absurd hpos (by decide)

/-- A configuration as `build` makes them. -/
structure DeviceConfig.Sound (cfg : DeviceConfig) : Prop where
  tables : List.Forall₂ SubmoduleSpec.HasTables cfg.submodules cfg.derived
  slots : cfg.submodules.Pairwise (·.slot < ·.slot)
  inputTotal : (crLengths cfg.submodules cfg.derived).1 ≤ maxSubmoduleBytes
  outputTotal : (crLengths cfg.submodules cfg.derived).2 ≤ maxSubmoduleBytes

/-! ### The builder -/

namespace DeviceConfigBuilder

lemma derive_hasTables {prev : Option UInt16} {sm : SubmoduleSpec} {d : Derived}
    (h : derive prev sm = .ok d) : prev ≠ some sm.slot ∧ sm.HasTables d := by
  unfold derive at h
  obtain ⟨_, hz, h⟩ := Res.bind_eq_ok.1 h
  obtain ⟨_, hp, h⟩ := Res.bind_eq_ok.1 h
  obtain ⟨_, he, h⟩ := Res.bind_eq_ok.1 h
  obtain ⟨⟨inputs, inputLen⟩, hin, h⟩ := Res.bind_eq_ok.1 h
  obtain ⟨⟨outputs, outputLen⟩, hout, h⟩ := Res.bind_eq_ok.1 h
  cases h
  exact ⟨Res.reject_eq_ok.1 hp, Res.reject_eq_ok.1 hz, Res.reject_eq_ok.1 he, hin, hout⟩

/-- Submodules in slot order: each slot is past the one before it. -/
lemma deriveAll_sound {sms : List SubmoduleSpec} {prev : Option UInt16} {ds : List Derived}
    (hsorted : sms.Pairwise (·.slot ≤ ·.slot)) (hprev : ∀ p ∈ prev, ∀ sm ∈ sms, p ≤ sm.slot)
    (h : deriveAll prev sms = .ok ds) :
    List.Forall₂ SubmoduleSpec.HasTables sms ds ∧ sms.Pairwise (·.slot < ·.slot) ∧
      ∀ p ∈ prev, ∀ sm ∈ sms, p < sm.slot := by
  induction sms generalizing prev ds with
  | nil =>
    cases h
    exact ⟨.nil, .nil, fun _ _ => List.forall_mem_nil _⟩
  | cons sm rest ih =>
    unfold deriveAll at h
    obtain ⟨d, hd, h⟩ := Res.bind_eq_ok.1 h
    obtain ⟨ds', hds, h⟩ := Res.bind_eq_ok.1 h
    cases h
    obtain ⟨hne, htables⟩ := derive_hasTables hd
    obtain ⟨hle, hsorted⟩ := List.pairwise_cons.1 hsorted
    have hnext : ∀ p ∈ some sm.slot, ∀ sm' ∈ rest, p ≤ sm'.slot := by
      intro p hp sm' hm
      cases hp
      exact hle sm' hm
    obtain ⟨hall, hpw, hlt⟩ := ih hsorted hnext hds
    have hrest : ∀ sm' ∈ rest, sm.slot < sm'.slot := hlt sm.slot rfl
    refine ⟨.cons htables hall, List.pairwise_cons.2 ⟨hrest, hpw⟩, fun p hp => ?_⟩
    have hfirst : p < sm.slot := by
      refine UInt16.lt_of_le_of_ne (hprev p hp sm List.mem_cons_self) ?_
      rintro rfl
      exact hne hp
    intro sm' hm
    rcases List.mem_cons.1 hm with rfl | hm
    · exact hfirst
    · exact UInt16.lt_trans hfirst (hrest sm' hm)

/-- **A configuration that `build` returns is sound.** -/
theorem build_sound {b : DeviceConfigBuilder} {cfg : DeviceConfig} (h : b.build = .ok cfg) :
    cfg.Sound := by
  unfold build at h
  obtain ⟨name, -, h⟩ := Res.bind_eq_ok.1 h
  obtain ⟨_, -, h⟩ := Res.bind_eq_ok.1 h
  obtain ⟨_, -, h⟩ := Res.bind_eq_ok.1 h
  obtain ⟨_, -, h⟩ := Res.bind_eq_ok.1 h
  obtain ⟨_, -, h⟩ := Res.bind_eq_ok.1 h
  obtain ⟨derived, hd, h⟩ := Res.bind_eq_ok.1 h
  obtain ⟨_, hc, h⟩ := Res.bind_eq_ok.1 h
  cases h
  have hsorted : (b.submodules.insertionSort (·.slot ≤ ·.slot)).Pairwise (·.slot ≤ ·.slot) :=
    List.pairwise_insertionSort (fun x y : SubmoduleSpec => x.slot ≤ y.slot) _
  obtain ⟨htables, hslots, -⟩ := deriveAll_sound hsorted (fun _ hp => by cases hp) hd
  unfold checkTotalCsdu at hc
  obtain ⟨_, hin, hout⟩ := Res.bind_eq_ok.1 hc
  rw [Res.reject_eq_ok, not_lt] at hin hout
  exact ⟨htables, hslots, hin, hout⟩

end DeviceConfigBuilder

/-! ### Models and cells without ambiguity -/

/-- A search finds the only element that meets its condition. -/
lemma find?_of_unique {α : Type} {p : α → Bool} {l : List α} {a : α} (ha : a ∈ l) (hp : p a)
    (hu : ∀ b ∈ l, p b → b = a) : l.find? p = some a := by
  cases hf : l.find? p with
  | none => exact absurd hp (List.find?_eq_none.1 hf a ha)
  | some b => rw [hu b (List.mem_of_find?_eq_some hf) (List.find?_some hf)]

/-- No slot and no subslot of a slot is there twice. -/
structure DeviceModel.Distinct (model : DeviceModel) : Prop where
  slots : (model.slots.map (·.slot)).Nodup
  subslots : ∀ s ∈ model.slots, (s.submodules.map (·.subslot)).Nodup

namespace DeviceModel.Distinct

variable {model : DeviceModel} {s : SlotModel} {sm : SubmoduleModel}

lemma find_slot (h : model.Distinct) (hs : s ∈ model.slots) :
    model.slots.find? (·.slot == s.slot) = some s := by
  refine find?_of_unique hs (beq_self_eq_true _) fun s' hs' heq => ?_
  exact List.inj_on_of_nodup_map h.slots hs' hs (beq_iff_eq.1 heq)

lemma find (h : model.Distinct) (hs : s ∈ model.slots) (hsm : sm ∈ s.submodules) :
    model.find s.slot sm.subslot = some sm := by
  refine Option.bind_eq_some_iff.2 ⟨s, h.find_slot hs, ?_⟩
  refine find?_of_unique hsm (beq_self_eq_true _) fun sm' hsm' heq => ?_
  exact List.inj_on_of_nodup_map (h.subslots s hs) hsm' hsm (beq_iff_eq.1 heq)

end DeviceModel.Distinct

/-- The cell a submodule has in a layout. -/
lemma Layout.find_cell {params : ArParams} {model : DeviceModel} {l : Layout} {s : SlotModel}
    {sm : SubmoduleModel} (hl : Layout.fromAr params model = .ok l) (hm : model.Distinct)
    (hs : s ∈ model.slots) (hsm : sm ∈ s.submodules) :
    l.cells.find? (fun c => c.slot == s.slot && c.subslot == sm.subslot) =
      some (l.cellOf s.slot sm) := by
  obtain ⟨-, -, hcells⟩ := Layout.fromAr_eq_ok.1 hl
  have hmem : l.cellOf s.slot sm ∈ l.cells := by
    rw [hcells]
    exact List.mem_flatMap.2 ⟨s, hs, List.mem_map_of_mem hsm⟩
  refine find?_of_unique hmem (by simp [cellOf]) fun c hc heq => ?_
  rw [hcells] at hc
  obtain ⟨s', hs', hc⟩ := List.mem_flatMap.1 hc
  obtain ⟨sm', hsm', rfl⟩ := List.mem_map.1 hc
  simp only [cellOf, Bool.and_eq_true, beq_iff_eq] at heq
  obtain rfl := List.inj_on_of_nodup_map hm.slots hs' hs heq.1
  obtain rfl := List.inj_on_of_nodup_map (hm.subslots _ hs) hsm' hsm heq.2
  rfl

section Objects

variable {params : ArParams} {model : DeviceModel} {l : Layout} {c : Cell} {off : Nat}

/-- A cell belongs to a submodule of the model. -/
lemma Layout.exists_of_mem_cells (hl : Layout.fromAr params model = .ok l) (hc : c ∈ l.cells) :
    ∃ s ∈ model.slots, ∃ sm ∈ s.submodules, l.cellOf s.slot sm = c := by
  obtain ⟨-, -, hcells⟩ := Layout.fromAr_eq_ok.1 hl
  rw [hcells] at hc
  obtain ⟨s, hs, hc⟩ := List.mem_flatMap.1 hc
  obtain ⟨sm, hsm, rfl⟩ := List.mem_map.1 hc
  exact ⟨s, hs, sm, hsm, rfl⟩

/-- The object that a submodule of the model has in a CR. -/
lemma DeviceModel.Distinct.object {cr : IocrParams} {dir : Dir} {t : CrLayout} {s : SlotModel}
    {sm : SubmoduleModel} (hm : model.Distinct) (hs : s ∈ model.slots) (hsm : sm ∈ s.submodules)
    (hb : buildCr cr model dir = .ok t) (ho : t.findOff s.slot sm.subslot = some off) :
    ∃ o ∈ t.objects, o.slot = s.slot ∧ o.dataOff = off ∧ o.dataLen = dir.len sm := by
  obtain ⟨o, hmem, hslot, -, hoff, hlen⟩ := buildCr_findOff hb ho
  rw [hm.find hs hsm] at hlen
  exact ⟨o, hmem, hslot, hoff, hlen⟩

/-- The object that a cell's inputs are sent in. -/
lemma Layout.input_object (hl : Layout.fromAr params model = .ok l) (hm : model.Distinct)
    (hc : c ∈ l.cells) (ho : c.inputOff = some off) :
    ∃ o ∈ l.inputCr.objects, o.slot = c.slot ∧ o.dataOff = off ∧ o.dataLen = c.inputLen := by
  obtain ⟨s, hs, sm, hsm, rfl⟩ := Layout.exists_of_mem_cells hl hc
  exact hm.object hs hsm (Layout.fromAr_eq_ok.1 hl).1 ho

/-- The object that a cell's outputs are taken from. -/
lemma Layout.output_object (hl : Layout.fromAr params model = .ok l) (hm : model.Distinct)
    (hc : c ∈ l.cells) (ho : c.outputOff = some off) :
    ∃ o ∈ l.outputCr.objects, o.slot = c.slot ∧ o.dataOff = off ∧ o.dataLen = c.outputLen := by
  obtain ⟨s, hs, sm, hsm, rfl⟩ := Layout.exists_of_mem_cells hl hc
  exact hm.object hs hsm (Layout.fromAr_eq_ok.1 hl).2.1 ho

end Objects

/-! ### Looking submodules up -/

/-- The model of a declared submodule. -/
def Derived.slotModel (d : Derived) (slot : UInt16) : SlotModel :=
  { slot
    moduleIdent := 0x100 + slot.toUInt32
    submodules := [⟨1, 1, d.inputLen, d.outputLen⟩] }

namespace DeviceConfig.Sound

variable {cfg : DeviceConfig} {i : Nat} {slot : UInt16} {sm : SubmoduleSpec} {d : Derived}

lemma length_derived (h : cfg.Sound) : cfg.submodules.length = cfg.derived.length :=
  h.tables.length_eq

lemma hasTables (h : cfg.Sound) (hi : cfg.submodules[i]? = some sm)
    (hd : cfg.derived[i]? = some d) : sm.HasTables d := by
  obtain ⟨hlt, rfl⟩ := List.getElem?_eq_some_iff.1 hi
  obtain ⟨hlt', rfl⟩ := List.getElem?_eq_some_iff.1 hd
  exact (List.forall₂_iff_get.1 h.tables).2 i hlt hlt'

/-- The entry a slot has in the tables. -/
lemma lookup (h : cfg.Sound) (hi : cfg.indexOf slot = some i) :
    ∃ sm d, cfg.submodules[i]? = some sm ∧ cfg.derived[i]? = some d ∧ sm.slot = slot ∧
      sm.HasTables d := by
  obtain ⟨hlt, hslot, -⟩ := List.findIdx?_eq_some_iff_getElem.1 hi
  have hlt' : i < cfg.derived.length := h.length_derived ▸ hlt
  have hsm := List.getElem?_eq_getElem hlt
  have hd := List.getElem?_eq_getElem hlt'
  exact ⟨_, _, hsm, hd, beq_iff_eq.1 hslot, h.hasTables hsm hd⟩

/-- The fields of one direction are those of the slot's table. -/
lemma fields_eq {fields : List FieldRef} {dir : Direction} (hi : cfg.indexOf slot = some i)
    (hd : cfg.derived[i]? = some d) (h : cfg.fields slot dir = some fields) :
    (dir = .input ∧ fields = d.inputs) ∨ (dir = .output ∧ fields = d.outputs) := by
  unfold DeviceConfig.fields at h
  rw [hi, Option.bind_eq_bind, Option.bind_some, hd, Option.bind_eq_bind, Option.bind_some] at h
  cases dir with
  | inputOutput => cases h
  | input =>
    obtain ⟨-, hf⟩ := Option.ite_none_left_eq_some.1 h
    exact .inl ⟨rfl, (Option.some.inj hf).symm⟩
  | output =>
    obtain ⟨-, hf⟩ := Option.ite_none_left_eq_some.1 h
    exact .inr ⟨rfl, (Option.some.inj hf).symm⟩

lemma indexOf (h : cfg.Sound) (hi : cfg.submodules[i]? = some sm) :
    cfg.indexOf sm.slot = some i := by
  obtain ⟨hlt, rfl⟩ := List.getElem?_eq_some_iff.1 hi
  refine List.findIdx?_eq_some_iff_getElem.2 ⟨hlt, beq_self_eq_true _, fun j hj => ?_⟩
  have hlt := List.pairwise_iff_getElem.1 h.slots j i (by omega) hlt hj
  rw [beq_iff_eq]
  exact UInt16.ne_of_lt hlt

lemma mem_model (hi : cfg.submodules[i]? = some sm) (hd : cfg.derived[i]? = some d)
    (mac : MacAddr) : d.slotModel sm.slot ∈ (cfg.model mac).slots := by
  refine List.mem_cons_of_mem _ (List.mem_map.2 ⟨(sm, d), ?_, rfl⟩)
  refine List.mem_iff_getElem?.2 ⟨i, ?_⟩
  rw [List.getElem?_zip_eq_some]
  exact ⟨hi, hd⟩

lemma model_distinct (h : cfg.Sound) (mac : MacAddr) : (cfg.model mac).Distinct := by
  have hfst : (cfg.submodules.zip cfg.derived).map Prod.fst = cfg.submodules :=
    List.map_fst_zip (le_of_eq h.length_derived)
  have hmap := congrArg (List.map SubmoduleSpec.slot) hfst
  rw [List.map_map] at hmap
  constructor
  · rw [model, List.map_cons, List.map_map, List.nodup_cons]
    change 0 ∉ List.map (SubmoduleSpec.slot ∘ Prod.fst) _ ∧
      (List.map (SubmoduleSpec.slot ∘ Prod.fst) _).Nodup
    rw [hmap]
    constructor
    · intro hz
      obtain ⟨sm, hsm, hz⟩ := List.mem_map.1 hz
      obtain ⟨i, hi⟩ := List.mem_iff_getElem?.1 hsm
      obtain ⟨_, d, hsm', -, -, ht⟩ := h.lookup (h.indexOf hi)
      cases hi.symm.trans hsm'
      exact ht.slot hz
    · rw [List.nodup_iff_pairwise_ne, List.pairwise_map]
      exact h.slots.imp fun hlt => UInt16.ne_of_lt hlt
  · intro s hs
    rcases List.mem_cons.1 hs with rfl | hs
    · decide
    · obtain ⟨p, -, rfl⟩ := List.mem_map.1 hs
      exact List.nodup_singleton _

/-- A declared submodule in the cells of a layout. -/
lemma find_cell (h : cfg.Sound) (hi : cfg.submodules[i]? = some sm)
    (hd : cfg.derived[i]? = some d) {mac : MacAddr} {params : ArParams} {l : Layout}
    (hl : Layout.fromAr params (cfg.model mac) = .ok l) :
    l.cells.find? (fun c => c.slot == sm.slot && c.subslot == 1) =
      some (l.cellOf sm.slot ⟨1, 1, d.inputLen, d.outputLen⟩) :=
  Layout.find_cell hl (h.model_distinct mac) (mem_model hi hd mac) (List.mem_singleton.2 rfl)

end DeviceConfig.Sound

/-! ### A device with one submodule -/

namespace AppDemo

def mac : MacAddr := .of 2 0 0 0 0 1

/-- The station `a`: a bit and a word of inputs and a word of outputs in slot 1. -/
def builder : DeviceConfigBuilder :=
  (DeviceConfig.builder (.ofAscii [0x61])).submodule 1 (.ofAscii [0x61]) [.bool, .word] [.word]

def cfg : DeviceConfig :=
  { stationName := .ofAscii [0x61]
    stationType := im0Default.orderId
    vendorId := 0xFFFF
    deviceId := 1
    minDeviceInterval := 32
    submodules := [⟨1, .ofAscii [0x61], [.bool, .word], [.word]⟩]
    derived := [⟨[⟨0, 0, .bool⟩, ⟨1, 0, .word⟩], 3, [⟨0, 0, .word⟩], 2⟩]
    im0 := im0Default }

lemma build_builder : builder.build = .ok cfg := by decide +kernel

end AppDemo

end Pnio
