import Pnio.Layout
import Pnio.Lib.Spans

/-!
When the layout of a CR can be built: every object is known and fits, the objects lie apart
from each other, and the clock factors do not overflow.
-/

namespace Pnio

def Dir.len (dir : Dir) (sm : SubmoduleModel) : Nat :=
  match dir with
  | .input => sm.inputLen.toNat
  | .output => sm.outputLen.toNat

/-- The length of an object's data; an unknown submodule has none. -/
def objLen (model : DeviceModel) (dir : Dir) (obj : IocrObject) : Nat :=
  ((model.find obj.slot obj.subslot).map dir.len).getD 0

/-- The data of an object and the status byte behind it. -/
def ioSpan (model : DeviceModel) (dir : Dir) (obj : IocrObject) : Span :=
  ⟨obj.frameOffset.toNat, objLen model dir obj + 1⟩

def csSpan (obj : IocrObject) : Span := ⟨obj.frameOffset.toNat, 1⟩

/-- The bytes the objects of a CR take, in the order they are placed. -/
def IocrParams.spans (cr : IocrParams) (model : DeviceModel) (dir : Dir) : List Span :=
  cr.ioData.map (ioSpan model dir) ++ cr.iocs.map csSpan

/-- The table entry of an IO data object. -/
def placed (model : DeviceModel) (dir : Dir) (obj : IocrObject) : IoObject :=
  { slot := obj.slot
    subslot := obj.subslot
    dataOff := obj.frameOffset.toNat
    dataLen := objLen model dir obj
    iopsOff := obj.frameOffset.toNat + objLen model dir obj }

def placedCs (obj : IocrObject) : CsObject :=
  { slot := obj.slot, subslot := obj.subslot, iocsOff := obj.frameOffset.toNat }

/-- Every object of a CR is known and ends within the C-SDU. -/
structure IocrParams.Fits (cr : IocrParams) (model : DeviceModel) (dir : Dir) : Prop where
  known : ∀ obj ∈ cr.ioData, (model.find obj.slot obj.subslot).isSome
  within : ∀ s ∈ cr.spans model dir, s.off + s.len ≤ cr.dataLength.toNat

/-- The table of a CR. -/
def IocrParams.table (cr : IocrParams) (model : DeviceModel) (dir : Dir) : CrLayout :=
  { frameId := cr.frameId
    dataLength := cr.dataLength.toNat
    cycleStep := cr.sendClockFactor * cr.reductionRatio
    watchdog := cr.dataHoldFactor.toNat * (cr.sendClockFactor * cr.reductionRatio).toNat * cycleUnit
    objects := cr.ioData.map (placed model dir)
    iocs := cr.iocs.map placedCs }

/-! ### One mark -/

lemma mark_eq_ok {occ occ' : Occupied} {off len : Nat} {slot subslot : UInt16} :
    mark occ off len slot subslot = .ok occ' ↔
      off + len ≤ occ.length ∧ FreeOf occ ⟨off, len⟩ ∧ paint occ ⟨off, len⟩ = occ' := by
  have hany : ((occ.drop off).take len).any id = true ↔ ¬ FreeOf occ ⟨off, len⟩ :=
    any_slice_iff (s := ⟨off, len⟩)
  unfold mark
  by_cases hb : off + len ≤ occ.length
  · rw [if_pos hb]
    by_cases ht : ((occ.drop off).take len).any id = true
    · rw [if_pos ht]
      constructor
      · intro h
        cases h
      · rintro ⟨-, hf, -⟩
        exact absurd hf (hany.1 ht)
    · rw [if_neg ht, Res.ok.injEq]
      have hf : FreeOf occ ⟨off, len⟩ := by
        by_contra hf
        exact ht (hany.2 hf)
      exact ⟨fun h => ⟨hb, hf, h⟩, fun h => h.2.2⟩
  · rw [if_neg hb]
    constructor
    · intro h
      cases h
    · intro h
      exact absurd h.1 hb

/-- The data and the status byte marked one after the other take one range. -/
lemma mark_mark {occ : Occupied} {l : List Span} {off len : Nat} (slot subslot : UInt16)
    (hp : PaintedBy occ l) (hb : off + len + 1 ≤ occ.length) :
    (∀ occ', (mark occ off len slot subslot >>= fun o => mark o (off + len) 1 slot subslot) =
        .ok occ' →
      FreeOf occ ⟨off, len + 1⟩ ∧ occ'.length = occ.length ∧
        PaintedBy occ' (l ++ [⟨off, len + 1⟩])) ∧
    (FreeOf occ ⟨off, len + 1⟩ →
      ∃ occ', (mark occ off len slot subslot >>= fun o => mark o (off + len) 1 slot subslot) =
        .ok occ') := by
  have h1 : (⟨off, len⟩ : Span).off + (⟨off, len⟩ : Span).len ≤ occ.length := by
    dsimp only
    omega
  have hlen := length_paint h1
  have h2 : (⟨off + len, 1⟩ : Span).off + (⟨off + len, 1⟩ : Span).len ≤
      (paint occ ⟨off, len⟩).length := by
    rw [hlen]
    exact hb
  -- the status byte is not part of the data
  have hfree : FreeOf (paint occ ⟨off, len⟩) ⟨off + len, 1⟩ ↔ FreeOf occ ⟨off + len, 1⟩ := by
    unfold FreeOf
    refine forall_congr' fun i => imp_congr_right fun hi => not_congr ?_
    rw [getElem?_paint h1]
    refine or_iff_right fun hi' => ?_
    unfold Span.Has at hi hi'
    dsimp only at hi hi'
    omega
  have hsplit : FreeOf occ ⟨off, len + 1⟩ ↔ FreeOf occ ⟨off, len⟩ ∧ FreeOf occ ⟨off + len, 1⟩ := by
    unfold FreeOf
    simp only [Span.has_split, or_imp, forall_and]
  constructor
  · intro occ' h
    obtain ⟨occ1, hm1, hm2⟩ := Res.bind_eq_ok.1 h
    obtain ⟨-, hf1, rfl⟩ := mark_eq_ok.1 hm1
    obtain ⟨-, hf2, rfl⟩ := mark_eq_ok.1 hm2
    refine ⟨hsplit.2 ⟨hf1, hfree.1 hf2⟩, (length_paint h2).trans hlen, fun i => ?_⟩
    rw [getElem?_paint h2, getElem?_paint h1, hp i]
    simp only [List.mem_append, List.mem_singleton]
    constructor
    · rintro (hi | hi | ⟨t, ht, hi⟩)
      · exact ⟨_, .inr rfl, Span.has_split.2 (.inr hi)⟩
      · exact ⟨_, .inr rfl, Span.has_split.2 (.inl hi)⟩
      · exact ⟨t, .inl ht, hi⟩
    · rintro ⟨t, ht | rfl, hi⟩
      · exact .inr (.inr ⟨t, ht, hi⟩)
      · rcases Span.has_split.1 hi with hi | hi
        · exact .inr (.inl hi)
        · exact .inl hi
  · intro hf
    obtain ⟨hf1, hf2⟩ := hsplit.1 hf
    have hm1 : mark occ off len slot subslot = .ok (paint occ ⟨off, len⟩) :=
      mark_eq_ok.2 ⟨h1, hf1, rfl⟩
    exact ⟨_, Res.bind_eq_ok.2 ⟨_, hm1, mark_eq_ok.2 ⟨h2, hfree.2 hf2, rfl⟩⟩⟩

/-! ### The loops -/

/-- A round of a loop that places things: it works out if the thing is good and lies apart from
what is there, and then it takes its range and adds its entry. -/
structure Places {α β : Type} (dataLength : Nat) (good : α → Prop) (span : α → Span) (entry : α → β)
    (f : Occupied × List β → α → Res LayoutError (Occupied × List β)) : Prop where
  pos : ∀ a, 0 < (span a).len
  ok : ∀ {acc acc' l a}, acc.1.length = dataLength → PaintedBy acc.1 l → (∀ t ∈ l, 0 < t.len) →
    f acc a = .ok acc' → good a ∧ (∀ t ∈ l, t.Apart (span a)) ∧ acc'.1.length = dataLength ∧
      PaintedBy acc'.1 (l ++ [span a]) ∧ acc'.2 = acc.2 ++ [entry a]
  works : ∀ {acc l a}, acc.1.length = dataLength → PaintedBy acc.1 l → (∀ t ∈ l, 0 < t.len) →
    good a → (∀ t ∈ l, t.Apart (span a)) → ∃ acc', f acc a = .ok acc'

section Loop

variable {α β : Type} {dataLength : Nat} {good : α → Prop} {span : α → Span} {entry : α → β}
  {f : Occupied × List β → α → Res LayoutError (Occupied × List β)}
  {acc acc' : Occupied × List β} {l : List Span} {as : List α}

lemma Places.pos_snoc (h : Places dataLength good span entry f) (hl : ∀ t ∈ l, 0 < t.len) (a : α) :
    ∀ t ∈ l ++ [span a], 0 < t.len := by
  intro t ht
  rcases List.mem_append.1 ht with ht | ht
  · exact hl t ht
  · rw [List.mem_singleton.1 ht]
    exact h.pos a

/-- What a loop that ran through has found and done. -/
lemma Places.loop_ok (h : Places dataLength good span entry f) (hlen : acc.1.length = dataLength)
    (hp : PaintedBy acc.1 l) (hl : ∀ t ∈ l, 0 < t.len) (hd : l.Pairwise Span.Apart)
    (hf : as.foldlM f acc = .ok acc') :
    (∀ a ∈ as, good a) ∧ (l ++ as.map span).Pairwise Span.Apart ∧ acc'.1.length = dataLength ∧
      PaintedBy acc'.1 (l ++ as.map span) ∧ acc'.2 = acc.2 ++ as.map entry := by
  induction as generalizing acc l with
  | nil =>
    cases hf
    simpa using ⟨hd, hlen, hp⟩
  | cons a as ih =>
    rw [List.foldlM_cons] at hf
    obtain ⟨acc1, h1, hf⟩ := Res.bind_eq_ok.1 hf
    obtain ⟨hg, hapart, hlen1, hp1, he1⟩ := h.ok hlen hp hl h1
    have hd1 : (l ++ [span a]).Pairwise Span.Apart := by
      refine List.pairwise_append.2 ⟨hd, List.pairwise_singleton _ _, fun t ht s hs => ?_⟩
      rw [List.mem_singleton.1 hs]
      exact hapart t ht
    obtain ⟨hgs, hds, hlen2, hp2, he2⟩ := ih hlen1 hp1 (h.pos_snoc hl a) hd1 hf
    rw [List.append_assoc, List.singleton_append] at hds hp2
    refine ⟨fun b hb => ?_, hds, hlen2, hp2, ?_⟩
    · rcases List.mem_cons.1 hb with rfl | hb
      · exact hg
      · exact hgs b hb
    · rw [he2, he1, List.append_assoc]
      rfl

/-- Good things that lie apart are all placed. -/
lemma Places.loop_works (h : Places dataLength good span entry f) (acc : Occupied × List β)
    (hlen : acc.1.length = dataLength) (hp : PaintedBy acc.1 l) (hl : ∀ t ∈ l, 0 < t.len)
    (hg : ∀ a ∈ as, good a) (hd : (l ++ as.map span).Pairwise Span.Apart) :
    ∃ acc', as.foldlM f acc = .ok acc' := by
  induction as generalizing acc l with
  | nil => exact ⟨acc, rfl⟩
  | cons a as ih =>
    have hapart : ∀ t ∈ l, t.Apart (span a) := fun t ht =>
      (List.pairwise_append.1 hd).2.2 t ht (span a) (by simp)
    obtain ⟨acc1, h1⟩ := h.works hlen hp hl (hg a (by simp)) hapart
    obtain ⟨-, -, hlen1, hp1, -⟩ := h.ok hlen hp hl h1
    have hd1 : ((l ++ [span a]) ++ as.map span).Pairwise Span.Apart := by
      rw [List.append_assoc]
      exact hd
    obtain ⟨acc', h2⟩ := ih acc1 hlen1 hp1 (h.pos_snoc hl a) (fun b hb => hg b (by simp [hb])) hd1
    exact ⟨acc', by rw [List.foldlM_cons]; exact Res.bind_eq_ok.2 ⟨acc1, h1, h2⟩⟩

end Loop

section Rounds

lemma placeObject_eq {model : DeviceModel} {dir : Dir} {dataLength : Nat}
    {acc : Occupied × List IoObject} {obj : IocrObject} {sm : SubmoduleModel}
    (h : model.find obj.slot obj.subslot = some sm) :
    placeObject model dir dataLength acc obj =
      Res.reject (dataLength < obj.frameOffset.toNat + objLen model dir obj + 1)
          (.outOfBounds obj.slot obj.subslot
            (obj.frameOffset.toNat + objLen model dir obj + 1) dataLength) >>= fun _ =>
        (mark acc.1 obj.frameOffset.toNat (objLen model dir obj) obj.slot obj.subslot >>= fun occ =>
          mark occ (obj.frameOffset.toNat + objLen model dir obj) 1 obj.slot obj.subslot) >>=
          fun occ => .ok (occ, acc.2 ++ [placed model dir obj]) := by
  have hobj : objLen model dir obj = dir.len sm := by
    rw [objLen, h]
    rfl
  simp only [placeObject, placed, h, hobj, Res.okOr_some, Res.ok_bind, bind_assoc]
  rfl

lemma placeObject_places (model : DeviceModel) (dir : Dir) (dataLength : Nat) :
    Places dataLength
      (fun obj => (model.find obj.slot obj.subslot).isSome ∧
        (ioSpan model dir obj).off + (ioSpan model dir obj).len ≤ dataLength)
      (ioSpan model dir) (placed model dir) (placeObject model dir dataLength) where
  pos obj := Nat.succ_pos _
  ok := by
    intro acc acc' l obj hlen hp hl h
    have hknown : (model.find obj.slot obj.subslot).isSome := by
      obtain ⟨sm, hsm, -⟩ := Res.bind_eq_ok.1 h
      rw [Res.okOr_eq_ok.1 hsm]
      rfl
    obtain ⟨sm, hsm⟩ := Option.isSome_iff_exists.1 hknown
    rw [placeObject_eq hsm] at h
    obtain ⟨_, hb, h⟩ := Res.bind_eq_ok.1 h
    rw [Res.reject_eq_ok, not_lt] at hb
    obtain ⟨occ, hm, h⟩ := Res.bind_eq_ok.1 h
    cases h
    obtain ⟨hfree, hlen', hp'⟩ := (mark_mark obj.slot obj.subslot hp (hlen ▸ hb)).1 occ hm
    have hapart := (hp.freeOf_iff (s := ioSpan model dir obj) hl (Nat.succ_pos _)).1 hfree
    exact ⟨⟨hknown, hb⟩, hapart, hlen'.trans hlen, hp', rfl⟩
  works := by
    rintro acc l obj hlen hp hl ⟨hknown, hb⟩ hapart
    obtain ⟨sm, hsm⟩ := Option.isSome_iff_exists.1 hknown
    have hfree := (hp.freeOf_iff (s := ioSpan model dir obj) hl (Nat.succ_pos _)).2 hapart
    obtain ⟨occ, hm⟩ := (mark_mark obj.slot obj.subslot hp (hlen ▸ hb)).2 hfree
    have hreject : ¬ dataLength < obj.frameOffset.toNat + objLen model dir obj + 1 := not_lt.2 hb
    refine ⟨(occ, acc.2 ++ [placed model dir obj]), ?_⟩
    rw [placeObject_eq hsm, Res.reject_of_not hreject, Res.ok_bind]
    exact Res.bind_eq_ok.2 ⟨occ, hm, rfl⟩

lemma placeIocs_places (dataLength : Nat) :
    Places dataLength (fun obj => (csSpan obj).off + (csSpan obj).len ≤ dataLength) csSpan placedCs
      (placeIocs dataLength) where
  pos obj := Nat.one_pos
  ok := by
    intro acc acc' l obj hlen hp hl h
    obtain ⟨_, hb, h⟩ := Res.bind_eq_ok.1 h
    rw [Res.reject_eq_ok, not_lt] at hb
    obtain ⟨occ, hm, h⟩ := Res.bind_eq_ok.1 h
    cases h
    obtain ⟨hbound, hfree, rfl⟩ := mark_eq_ok.1 hm
    have hapart := (hp.freeOf_iff (s := csSpan obj) hl Nat.one_pos).1 hfree
    exact ⟨hb, hapart, (length_paint hbound).trans hlen, hp.paint hbound, rfl⟩
  works := by
    intro acc l obj hlen hp hl hb hapart
    have hfree := (hp.freeOf_iff (s := csSpan obj) hl Nat.one_pos).2 hapart
    have hm : mark acc.1 obj.frameOffset.toNat 1 obj.slot obj.subslot =
        .ok (paint acc.1 (csSpan obj)) := mark_eq_ok.2 ⟨hlen ▸ hb, hfree, rfl⟩
    have hreject : ¬ dataLength < obj.frameOffset.toNat + 1 := not_lt.2 hb
    refine ⟨(paint acc.1 (csSpan obj), acc.2 ++ [placedCs obj]), ?_⟩
    rw [placeIocs, Res.reject_of_not hreject, Res.ok_bind]
    exact Res.bind_eq_ok.2 ⟨_, hm, rfl⟩

end Rounds

/-! ### A whole CR -/

section Build

variable {cr : IocrParams} {model : DeviceModel} {dir : Dir} {l : CrLayout}

/-- **When a CR gets its table**, and which. -/
theorem buildCr_eq_ok : buildCr cr model dir = .ok l ↔
    cr.sendClockFactor.toNat * cr.reductionRatio.toNat ≤ 65535 ∧ cr.Fits model dir ∧
      (cr.spans model dir).Pairwise Span.Apart ∧ cr.table model dir = l := by
  have hstart := paintedBy_replicate cr.dataLength.toNat
  have hlen : (List.replicate cr.dataLength.toNat false).length = cr.dataLength.toNat :=
    List.length_replicate
  have hobjects := placeObject_places model dir cr.dataLength.toNat
  have hiocs := placeIocs_places cr.dataLength.toNat
  have hpos : ∀ t ∈ [] ++ cr.ioData.map (ioSpan model dir), 0 < t.len := by
    intro t ht
    obtain ⟨obj, -, rfl⟩ := List.mem_map.1 ht
    exact Nat.succ_pos _
  constructor
  · intro h
    obtain ⟨_, hstep, h⟩ := Res.bind_eq_ok.1 h
    rw [Res.reject_eq_ok, not_lt] at hstep
    obtain ⟨⟨occ, objects⟩, h1, h⟩ := Res.bind_eq_ok.1 h
    obtain ⟨⟨occ', iocs⟩, h2, h⟩ := Res.bind_eq_ok.1 h
    cases h
    obtain ⟨hg1, hd1, hlen1, hp1, he1⟩ :=
      hobjects.loop_ok (l := []) hlen hstart (by simp) List.Pairwise.nil h1
    obtain ⟨hg2, hd2, -, -, he2⟩ := hiocs.loop_ok hlen1 hp1 hpos hd1 h2
    refine ⟨hstep, ⟨fun obj ho => (hg1 obj ho).1, fun s hs => ?_⟩, hd2, ?_⟩
    · rcases List.mem_append.1 hs with hs | hs
      · obtain ⟨obj, ho, rfl⟩ := List.mem_map.1 hs
        exact (hg1 obj ho).2
      · obtain ⟨obj, ho, rfl⟩ := List.mem_map.1 hs
        exact hg2 obj ho
    · dsimp only at he1 he2
      rw [he1, he2]
      rfl
  · rintro ⟨hstep, hfits, hd, rfl⟩
    have hgood : ∀ obj ∈ cr.ioData, (model.find obj.slot obj.subslot).isSome ∧
        (ioSpan model dir obj).off + (ioSpan model dir obj).len ≤ cr.dataLength.toNat :=
      fun obj ho => ⟨hfits.known obj ho, hfits.within _
        (List.mem_append_left _ (List.mem_map_of_mem ho))⟩
    have hgood' : ∀ obj ∈ cr.iocs, (csSpan obj).off + (csSpan obj).len ≤ cr.dataLength.toNat :=
      fun obj ho => hfits.within _ (List.mem_append_right _ (List.mem_map_of_mem ho))
    have hd0 : ([] ++ cr.ioData.map (ioSpan model dir)).Pairwise Span.Apart :=
      (List.pairwise_append.1 hd).1
    obtain ⟨⟨occ, objects⟩, h1⟩ :=
      hobjects.loop_works (l := []) (_, []) hlen hstart (by simp) hgood hd0
    obtain ⟨-, -, hlen1, hp1, he1⟩ :=
      hobjects.loop_ok (l := []) hlen hstart (by simp) List.Pairwise.nil h1
    obtain ⟨⟨occ', iocs⟩, h2⟩ := hiocs.loop_works (occ, []) hlen1 hp1 hpos hgood' hd
    obtain ⟨-, -, -, -, he2⟩ := hiocs.loop_ok hlen1 hp1 hpos hd0 h2
    dsimp only at he1 he2
    refine Res.bind_eq_ok.2 ⟨(), Res.reject_of_not (not_lt.2 hstep), ?_⟩
    refine Res.bind_eq_ok.2 ⟨_, h1, Res.bind_eq_ok.2 ⟨_, h2, ?_⟩⟩
    rw [he1, he2]
    rfl

end Build

/-- The object a submodule's data is looked up in. -/
lemma buildCr_findOff {cr : IocrParams} {model : DeviceModel} {dir : Dir} {l : CrLayout}
    (h : buildCr cr model dir = .ok l) {slot subslot : UInt16} {off : Nat}
    (hf : l.findOff slot subslot = some off) :
    ∃ o ∈ l.objects, o.slot = slot ∧ o.subslot = subslot ∧ o.dataOff = off ∧
      o.dataLen = ((model.find slot subslot).map dir.len).getD 0 := by
  obtain ⟨-, -, -, rfl⟩ := buildCr_eq_ok.1 h
  obtain ⟨o, ho, rfl⟩ := Option.map_eq_some_iff.1 hf
  have hmem := List.mem_of_find?_eq_some ho
  have hkey := List.find?_some ho
  rw [Bool.and_eq_true, beq_iff_eq, beq_iff_eq] at hkey
  obtain ⟨obj, -, rfl⟩ := List.mem_map.1 hmem
  obtain ⟨rfl, rfl⟩ := hkey
  exact ⟨_, hmem, rfl, rfl, rfl, rfl⟩

/-! ### The layout of an AR -/

/-- The cell of a submodule. -/
def Layout.cellOf (l : Layout) (slot : UInt16) (sm : SubmoduleModel) : Cell :=
  { slot
    subslot := sm.subslot
    inputLen := sm.inputLen.toNat
    outputLen := sm.outputLen.toNat
    inputOff := l.inputCr.findOff slot sm.subslot
    outputOff := l.outputCr.findOff slot sm.subslot }

lemma Layout.fromAr_eq_ok {params : ArParams} {model : DeviceModel} {l : Layout} :
    Layout.fromAr params model = .ok l ↔
      buildCr params.inputCr model .input = .ok l.inputCr ∧
      buildCr params.outputCr model .output = .ok l.outputCr ∧
      l.cells = model.slots.flatMap fun s => s.submodules.map (l.cellOf s.slot) := by
  unfold fromAr
  constructor
  · intro h
    obtain ⟨inputCr, hin, h⟩ := Res.bind_eq_ok.1 h
    obtain ⟨outputCr, hout, h⟩ := Res.bind_eq_ok.1 h
    cases h
    exact ⟨hin, hout, rfl⟩
  · rintro ⟨hin, hout, hcells⟩
    rw [hin, Res.ok_bind, hout, Res.ok_bind]
    obtain ⟨inputCr, outputCr, cells⟩ := l
    dsimp only at hcells
    rw [hcells]
    rfl

/-- A CR whose objects can be placed: the cycle step fits its field, every IO data object names a
submodule, and the ranges lie in the C-SDU and share no byte. -/
structure IocrParams.Placeable (cr : IocrParams) (model : DeviceModel) (dir : Dir) : Prop where
  step : cr.sendClockFactor.toNat * cr.reductionRatio.toNat < 2 ^ 16
  known : ∀ obj ∈ cr.ioData, (model.find obj.slot obj.subslot).isSome
  within : ∀ s ∈ cr.spans model dir, ∀ i, s.Has i → i < cr.dataLength.toNat
  disjoint : (cr.spans model dir).Pairwise fun s t => ∀ i, s.Has i → ¬ t.Has i

lemma IocrParams.pos_of_mem_spans {cr : IocrParams} {model : DeviceModel} {dir : Dir} {s : Span}
    (h : s ∈ cr.spans model dir) : 0 < s.len := by
  rcases List.mem_append.1 h with h | h
  · obtain ⟨obj, -, rfl⟩ := List.mem_map.1 h
    exact Nat.succ_pos _
  · obtain ⟨obj, -, rfl⟩ := List.mem_map.1 h
    exact Nat.one_pos

lemma buildCr_eq_ok_iff_placeable {cr : IocrParams} {model : DeviceModel} {dir : Dir}
    {l : CrLayout} :
    buildCr cr model dir = .ok l ↔ cr.Placeable model dir ∧ l = cr.table model dir := by
  rw [buildCr_eq_ok]
  constructor
  · rintro ⟨hstep, hfits, hd, rfl⟩
    refine ⟨⟨by omega, hfits.known, fun s hs i hi => ?_, hd.imp ?_⟩, rfl⟩
    · exact lt_of_lt_of_le hi.2 (hfits.within s hs)
    · intro s t hst i hi
      exact hst.not_has hi
  · rintro ⟨h, rfl⟩
    have hstep := h.step
    refine ⟨by omega, ⟨h.known, fun s hs => ?_⟩, ?_, rfl⟩
    · -- a range has a last byte
      have hpos := IocrParams.pos_of_mem_spans hs
      have hlast := h.within s hs (s.off + s.len - 1) ⟨by omega, by omega⟩
      omega
    · refine h.disjoint.imp_of_mem fun {s t} hs ht hst => ?_
      by_contra hna
      obtain ⟨i, hi, hi'⟩ := Span.exists_has_of_not_apart (IocrParams.pos_of_mem_spans hs)
        (IocrParams.pos_of_mem_spans ht) hna
      exact hst i hi hi'

/-- The frame offset of the first IO data object of a submodule. -/
def IocrParams.firstOffset (cr : IocrParams) (slot subslot : UInt16) : Option Nat :=
  (cr.ioData.find? fun o => o.slot == slot && o.subslot == subslot).map (·.frameOffset.toNat)

lemma findOff_table (cr : IocrParams) (model : DeviceModel) (dir : Dir) (slot subslot : UInt16) :
    (cr.table model dir).findOff slot subslot = cr.firstOffset slot subslot := by
  rw [CrLayout.findOff, IocrParams.table, List.find?_map, Option.map_map]
  rfl

/-- The cell of a submodule, from the request. -/
def ArParams.cell (params : ArParams) (slot : UInt16) (sm : SubmoduleModel) : Cell :=
  { slot
    subslot := sm.subslot
    inputLen := sm.inputLen.toNat
    outputLen := sm.outputLen.toNat
    inputOff := params.inputCr.firstOffset slot sm.subslot
    outputOff := params.outputCr.firstOffset slot sm.subslot }

/-- The layout of the request: the objects and IOCS entries in their order at their offsets, and
one cell for each submodule of the model. -/
def ArParams.plan (params : ArParams) (model : DeviceModel) : Layout :=
  { inputCr := params.inputCr.table model .input
    outputCr := params.outputCr.table model .output
    cells := model.slots.flatMap fun s => s.submodules.map (params.cell s.slot) }

/-- **The layout of an AR.** For all parameters and every model, there is a layout exactly if the
objects of both CRs can be placed, and it is the one of the request. -/
theorem fromAr_eq_ok_iff_placeable (params : ArParams) (model : DeviceModel) (l : Layout) :
    Layout.fromAr params model = .ok l ↔
      params.inputCr.Placeable model .input ∧ params.outputCr.Placeable model .output ∧
        l = params.plan model := by
  rw [Layout.fromAr_eq_ok, buildCr_eq_ok_iff_placeable, buildCr_eq_ok_iff_placeable]
  have hcell : ∀ l : Layout, l.inputCr = params.inputCr.table model .input →
      l.outputCr = params.outputCr.table model .output →
      ∀ slot, l.cellOf slot = params.cell slot := by
    intro l hin hout slot
    funext sm
    rw [Layout.cellOf, hin, hout, findOff_table, findOff_table, ArParams.cell]
  constructor
  · rintro ⟨⟨hin, hi⟩, ⟨hout, ho⟩, hc⟩
    simp only [hcell l hi ho] at hc
    obtain ⟨inputCr, outputCr, cells⟩ := l
    cases hi
    cases ho
    cases hc
    exact ⟨hin, hout, rfl⟩
  · rintro ⟨hin, hout, rfl⟩
    refine ⟨⟨hin, rfl⟩, ⟨hout, rfl⟩, ?_⟩
    simp only [hcell (params.plan model) rfl rfl]
    rfl

end Pnio
