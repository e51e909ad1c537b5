import Pnio.ConnectBlocks
import Pnio.ConnectSpec

/-!
The order of the blocks of a Connect does not matter: they are collected by type, and everything
that is read from a type with several blocks is read by its own number.
-/

namespace Pnio

/-! ### Collecting by type -/

namespace ConnectReq

/-- The value of a block of type `ty`. -/
def blockOf {α : Type} (ty : UInt16) (parse : Bytes → Res BlockError α) (b : BlockHeader × Bytes) :
    Option α :=
  if b.1.blockType = ty then (parse b.2).toOption else none

def arOf := blockOf Ty.arBlockReq ArBlockReq.parse
def iocrOf := blockOf Ty.iocrBlockReq IocrBlockReq.parse
def expectedOf := blockOf Ty.expectedSubmoduleBlockReq ExpectedSubmoduleBlockReq.parse
def alarmOf := blockOf Ty.alarmCrBlockReq AlarmCrBlockReq.parse

section

variable {α β : Type} {ty ty' : UInt16} {parse : Bytes → Res BlockError α}
  {parse' : Bytes → Res BlockError β} {b : BlockHeader × Bytes} {v : α}

lemma blockOf_eq_some :
    blockOf ty parse b = some v ↔ b.1.blockType = ty ∧ parse b.2 = .ok v := by
  unfold blockOf
  by_cases hty : b.1.blockType = ty
  · rw [if_pos hty, Res.toOption_eq_some]
    exact (and_iff_right hty).symm
  · rw [if_neg hty]
    exact iff_of_false nofun fun h => hty h.1

/-- A block is of one type only. -/
lemma blockOf_other (h : blockOf ty parse b = some v) (hne : ty ≠ ty') :
    blockOf ty' parse' b = none := by
  have hty := (blockOf_eq_some.1 h).1
  rw [blockOf, if_neg fun h' => hne (hty.symm.trans h')]

end

/-- What the loop of `parse` does with a block. -/
inductive Adds (a : Acc) (b : BlockHeader × Bytes) : Acc → Prop
  | ar {v : ArBlockReq} (h : arOf b = some v) (hnew : a.ar = none) :
      Adds a b { a with ar := some v }
  | iocr {v : IocrBlockReq} (h : iocrOf b = some v) :
      Adds a b { a with iocrs := a.iocrs ++ [v] }
  | expected {v : ExpectedSubmoduleBlockReq} (h : expectedOf b = some v) :
      Adds a b { a with expected := a.expected ++ [v] }
  | alarm {v : AlarmCrBlockReq} (h : alarmOf b = some v) (hnew : a.alarmCr = none) :
      Adds a b { a with alarmCr := some v }

variable {a acc : Acc} {b : BlockHeader × Bytes} {bs bs' : List (BlockHeader × Bytes)}

lemma push_eq_ok : a.push b = .ok acc ↔ Adds a b acc := by
  constructor
  · intro h
    unfold Acc.push at h
    split_ifs at h with h1 h2 h3 h4
    · obtain ⟨_, hnew, h⟩ := Res.bind_eq_ok.1 h
      obtain ⟨v, hv, h⟩ := Res.bind_eq_ok.1 h
      cases h
      refine .ar (blockOf_eq_some.2 ⟨h1, Res.mapErr_eq_ok.1 hv⟩) ?_
      rw [Res.reject_eq_ok] at hnew
      simpa using hnew
    · obtain ⟨v, hv, h⟩ := Res.bind_eq_ok.1 h
      cases h
      exact .iocr (blockOf_eq_some.2 ⟨h2, Res.mapErr_eq_ok.1 hv⟩)
    · obtain ⟨v, hv, h⟩ := Res.bind_eq_ok.1 h
      cases h
      exact .expected (blockOf_eq_some.2 ⟨h3, Res.mapErr_eq_ok.1 hv⟩)
    · obtain ⟨_, hnew, h⟩ := Res.bind_eq_ok.1 h
      obtain ⟨v, hv, h⟩ := Res.bind_eq_ok.1 h
      cases h
      refine .alarm (blockOf_eq_some.2 ⟨h4, Res.mapErr_eq_ok.1 hv⟩) ?_
      rw [Res.reject_eq_ok] at hnew
      simpa using hnew
  · intro h
    unfold Acc.push
    cases h with
    | ar h hnew =>
      obtain ⟨hty, hv⟩ := blockOf_eq_some.1 h
      rw [if_pos hty, hnew, Res.reject_of_not (by decide), Res.ok_bind, hv, Res.mapErr_ok,
        Res.ok_bind]
    | iocr h =>
      obtain ⟨hty, hv⟩ := blockOf_eq_some.1 h
      rw [hty, if_neg (by decide), if_pos rfl, hv, Res.mapErr_ok, Res.ok_bind]
    | expected h =>
      obtain ⟨hty, hv⟩ := blockOf_eq_some.1 h
      rw [hty, if_neg (by decide), if_neg (by decide), if_pos rfl, hv, Res.mapErr_ok, Res.ok_bind]
    | alarm h hnew =>
      obtain ⟨hty, hv⟩ := blockOf_eq_some.1 h
      rw [hty, if_neg (by decide), if_neg (by decide), if_neg (by decide), if_pos rfl, hnew,
        Res.reject_of_not (by decide), Res.ok_bind, hv, Res.mapErr_ok, Res.ok_bind]

/-- `acc` is `a` with the blocks `bs` added, each to the blocks of its type. -/
structure Collects (a : Acc) (bs : List (BlockHeader × Bytes)) (acc : Acc) : Prop where
  known : ∀ b ∈ bs, ∃ a acc, Adds a b acc
  ar : acc.ar.toList = a.ar.toList ++ bs.filterMap arOf
  iocrs : acc.iocrs = a.iocrs ++ bs.filterMap iocrOf
  expected : acc.expected = a.expected ++ bs.filterMap expectedOf
  alarmCr : acc.alarmCr.toList = a.alarmCr.toList ++ bs.filterMap alarmOf

/-- What one block adds to each of the types. -/
lemma Adds.toLists {a' : Acc} (h : Adds a b a') :
    a'.ar.toList = a.ar.toList ++ (arOf b).toList ∧ a'.iocrs = a.iocrs ++ (iocrOf b).toList ∧
      a'.expected = a.expected ++ (expectedOf b).toList ∧
      a'.alarmCr.toList = a.alarmCr.toList ++ (alarmOf b).toList := by
  cases h with
  | ar h hnew =>
    rw [h, hnew, iocrOf, blockOf_other h (by decide), expectedOf, blockOf_other h (by decide),
      alarmOf, blockOf_other h (by decide)]
    simp
  | iocr h =>
    rw [h, arOf, blockOf_other h (by decide), expectedOf, blockOf_other h (by decide),
      alarmOf, blockOf_other h (by decide)]
    simp
  | expected h =>
    rw [h, arOf, blockOf_other h (by decide), iocrOf, blockOf_other h (by decide),
      alarmOf, blockOf_other h (by decide)]
    simp
  | alarm h hnew =>
    rw [h, hnew, arOf, blockOf_other h (by decide), iocrOf, blockOf_other h (by decide),
      expectedOf, blockOf_other h (by decide)]
    simp

lemma filterMap_cons_toList {α β : Type} (f : α → Option β) (x : α) (l : List α) :
    (x :: l).filterMap f = (f x).toList ++ l.filterMap f := by
  cases h : f x <;> simp [h]

lemma Adds.collects_cons {a' : Acc} (h : Adds a b a') :
    Collects a (b :: bs) acc ↔ Collects a' bs acc := by
  obtain ⟨har, hiocr, hexp, halarm⟩ := h.toLists
  constructor
  · rintro ⟨hknown, h1, h2, h3, h4⟩
    rw [filterMap_cons_toList, ← List.append_assoc] at h1 h2 h3 h4
    rw [← har] at h1
    rw [← hiocr] at h2
    rw [← hexp] at h3
    rw [← halarm] at h4
    exact ⟨(List.forall_mem_cons.1 hknown).2, h1, h2, h3, h4⟩
  · rintro ⟨hknown, h1, h2, h3, h4⟩
    refine ⟨List.forall_mem_cons.2 ⟨⟨a, a', h⟩, hknown⟩, ?_, ?_, ?_, ?_⟩
    · rw [h1, har, filterMap_cons_toList, List.append_assoc]
    · rw [h2, hiocr, filterMap_cons_toList, List.append_assoc]
    · rw [h3, hexp, filterMap_cons_toList, List.append_assoc]
    · rw [h4, halarm, filterMap_cons_toList, List.append_assoc]

/-- There is at most one value to collect. -/
lemma eq_none_of_toList {α : Type} {o o' : Option α} {v : α} {l : List α}
    (h : o'.toList = o.toList ++ v :: l) : o = none := by
  cases o with
  | none => rfl
  | some x =>
    have hlen := congrArg List.length h
    have hle : o'.toList.length ≤ 1 := Option.length_toList_le
    simp at hlen
    omega

lemma eq_of_toList {α : Type} {o o' : Option α} (h : o'.toList = o.toList) : o' = o := by
  cases o <;> cases o' <;> simp_all

/-- A block that is collected can be added. -/
lemma Collects.adds (h : Collects a (b :: bs) acc) : ∃ a', Adds a b a' := by
  obtain ⟨a₀, acc₀, hadds⟩ := h.known b List.mem_cons_self
  cases hadds with
  | ar hb =>
    have har := h.ar
    rw [filterMap_cons_toList, hb] at har
    exact ⟨_, .ar hb (eq_none_of_toList har)⟩
  | iocr hb => exact ⟨_, .iocr hb⟩
  | expected hb => exact ⟨_, .expected hb⟩
  | alarm hb =>
    have halarm := h.alarmCr
    rw [filterMap_cons_toList, hb] at halarm
    exact ⟨_, .alarm hb (eq_none_of_toList halarm)⟩

/-- **The loop of `parse` collects the blocks by type.** -/
lemma foldlM_push_eq_ok : bs.foldlM Acc.push a = .ok acc ↔ Collects a bs acc := by
  induction bs generalizing a with
  | nil =>
    constructor
    · intro h
      cases h
      exact ⟨List.forall_mem_nil _, (List.append_nil _).symm, (List.append_nil _).symm,
        (List.append_nil _).symm, (List.append_nil _).symm⟩
    · rintro ⟨-, h1, h2, h3, h4⟩
      rw [List.filterMap_nil, List.append_nil] at h1 h2 h3 h4
      obtain ⟨ar, iocrs, expected, alarm⟩ := a
      obtain ⟨ar', iocrs', expected', alarm'⟩ := acc
      cases eq_of_toList h1
      cases h2
      cases h3
      cases eq_of_toList h4
      rfl
  | cons b bs ih =>
    rw [List.foldlM_cons, Res.bind_eq_ok]
    constructor
    · rintro ⟨a', hpush, h⟩
      exact (push_eq_ok.1 hpush).collects_cons.2 (ih.1 h)
    · intro h
      obtain ⟨a', hadds⟩ := h.adds
      exact ⟨a', push_eq_ok.2 hadds, ih.2 (hadds.collects_cons.1 h)⟩

/-! ### Any order -/

/-- Two requests with the same blocks. -/
structure SameBlocks (req req' : ConnectReq) : Prop where
  ar : req'.ar = req.ar
  iocrs : req'.iocrs.Perm req.iocrs
  expected : req'.expected.Perm req.expected
  alarmCr : req'.alarmCr = req.alarmCr

/-- What was read once, in the place of an option, is read in any order. -/
lemma filterMap_perm_some {α β : Type} {f : α → Option β} {l l' : List α} {v : β}
    (hp : l'.Perm l) (h : l.filterMap f = [v]) : l'.filterMap f = [v] :=
  List.perm_singleton.1 (h ▸ hp.filterMap f)

lemma Collects.perm {ar : ArBlockReq} {iocrs : List IocrBlockReq}
    {expected : List ExpectedSubmoduleBlockReq} {alarmCr : AlarmCrBlockReq} (hp : bs'.Perm bs)
    (h : Collects ⟨none, [], [], none⟩ bs ⟨some ar, iocrs, expected, some alarmCr⟩) :
    Collects ⟨none, [], [], none⟩ bs'
      ⟨some ar, bs'.filterMap iocrOf, bs'.filterMap expectedOf, some alarmCr⟩ where
  known b hb := h.known b (hp.mem_iff.1 hb)
  ar := (filterMap_perm_some hp h.ar.symm).symm
  iocrs := rfl
  expected := rfl
  alarmCr := (filterMap_perm_some hp h.alarmCr.symm).symm

lemma parse_perm {buf : Bytes} {req : ConnectReq} (hread : BlockHeader.readAll buf = .ok bs)
    (h : ConnectReq.parse buf = .ok req) (hp : bs'.Perm bs) :
    ∃ req', ConnectReq.parse (BlockHeader.wire bs') = .ok req' ∧ SameBlocks req req' := by
  obtain ⟨all, hall, h⟩ := Res.bind_eq_ok.1 h
  rw [hread, Res.mapErr_ok] at hall
  cases hall
  obtain ⟨acc, hacc, h⟩ := Res.bind_eq_ok.1 h
  obtain ⟨ar, har, h⟩ := Res.bind_eq_ok.1 h
  obtain ⟨alarmCr, halarm, h⟩ := Res.bind_eq_ok.1 h
  cases h
  rw [Res.okOr_eq_ok] at har halarm
  obtain ⟨_, iocrs, expected, _⟩ := acc
  cases har
  cases halarm
  have hcoll := foldlM_push_eq_ok.1 hacc
  have hwhole := (BlockHeader.readAll_eq_ok.1 hread).1
  have hread' : BlockHeader.readAll (BlockHeader.wire bs') = .ok bs' :=
    BlockHeader.readAll_eq_ok.2 ⟨fun b hb => hwhole b (hp.mem_iff.1 hb), rfl⟩
  refine ⟨⟨ar, bs'.filterMap iocrOf, bs'.filterMap expectedOf, alarmCr⟩, ?_, rfl, ?_, ?_, rfl⟩
  · rw [ConnectReq.parse, hread', Res.mapErr_ok, Res.ok_bind,
      foldlM_push_eq_ok.2 (hcoll.perm hp), Res.ok_bind]
    rfl
  · rw [hcoll.iocrs]
    exact hp.filterMap iocrOf
  · rw [hcoll.expected]
    exact hp.filterMap expectedOf

end ConnectReq

/-! ### The CRs -/

section Validate

variable {req req' : ConnectReq} {model : DeviceModel} {p : ArParams} {input output : IocrBlockReq}

/-- A search finds the same, in any order, where there is only one thing to find. -/
lemma find?_perm {α : Type} {f : α → Bool} {l l' : List α} {v : α} (hp : l'.Perm l)
    (h : l.filter f = [v]) : l'.find? f = some v := by
  have hfilter : l'.filter f = [v] := List.perm_singleton.1 (h ▸ hp.filter f)
  rw [← List.head?_filter, hfilter, List.head?_cons]

/-- Each of the two CRs is the only one of its type. -/
lemma Accepted.filter_iocrs (h : Accepted req model p input output) :
    req.iocrs.filter (·.iocrType == 1) = [input] ∧
      req.iocrs.filter (·.iocrType == 2) = [output] := by
  have hin := h.mem_input.2
  have hout := h.mem_output.2
  rcases h.iocrs_eq with heq | heq <;> rw [heq] <;> simp [hin, hout]

lemma validate_sameBlocks (hs : req.SameBlocks req') (h : validate req model = .ok p) :
    validate req' model = .ok p := by
  obtain ⟨input, output, hacc⟩ := validate_accepted h
  have hfin := find?_perm hs.iocrs hacc.filter_iocrs.1
  have hfout := find?_perm hs.iocrs hacc.filter_iocrs.2
  have hchecks : ∀ {l : List ExpectedSubmoduleBlockReq}, (∀ block ∈ l, block ∈ req.expected) →
      (l.forM fun block => block.apis.forM (checkExpectedApi model)) = .ok ⟨⟩ := fun hl =>
    Res.forM_eq_ok.2 fun block hb => Res.forM_eq_ok.2 (hacc.expected block (hl block hb))
  unfold validate at h ⊢
  rw [hs.ar, hs.alarmCr, hs.iocrs.length_eq, hfin, hfout,
    hchecks fun block hb => hs.expected.mem_iff.1 hb]
  rwa [hacc.findInput, hacc.findOutput, hchecks fun _ hb => hb] at h

/-- What becomes of the blocks of a Connect: the parameters of the AR, and the blocks of the
answer. -/
def connectAnswer (buf : Bytes) (model : DeviceModel) : Res CmError (ArParams × Bytes) := do
  let req ← ConnectReq.parse buf
  let params ← Res.mapErr .reject (validate req model)
  let blocks ← buildConnectRes params model
  .ok (params, blocks)

/-- **The order of the blocks does not matter**: where a Connect is accepted, so is every
permutation of its blocks, with the same parameters and the same answer. -/
theorem connect_any_order {buf : Bytes} (hreq : ConnectReq.parse buf = .ok req)
    (hval : validate req model = .ok p) :
    ∃ bs, BlockHeader.readAll buf = .ok bs ∧ ∀ bs' : List (BlockHeader × Bytes), bs'.Perm bs →
      BlockHeader.readAll (BlockHeader.wire bs') = .ok bs' ∧
      (∃ req', ConnectReq.parse (BlockHeader.wire bs') = .ok req' ∧
        validate req' model = .ok p) ∧
      connectAnswer (BlockHeader.wire bs') model = connectAnswer buf model := by
  obtain ⟨bs, hread, -⟩ := Res.bind_eq_ok.1 hreq
  rw [Res.mapErr_eq_ok] at hread
  refine ⟨bs, hread, fun bs' hp => ?_⟩
  have hwhole := (BlockHeader.readAll_eq_ok.1 hread).1
  obtain ⟨req', hreq', hsame⟩ := ConnectReq.parse_perm hread hreq hp
  have hval' := validate_sameBlocks hsame hval
  refine ⟨BlockHeader.readAll_eq_ok.2 ⟨fun b hb => hwhole b (hp.mem_iff.1 hb), rfl⟩,
    ⟨req', hreq', hval'⟩, ?_⟩
  rw [connectAnswer, connectAnswer, hreq', hreq, Res.ok_bind, Res.ok_bind, hval', hval]

end Validate

namespace ConnectDemo

def ar : ArBlockReq :=
  { arType := 1, arUuid := uuid 3, sessionKey := 1, initiatorMac := MacAddr.of 2 0 0 0 0 2,
    initiatorObjectUuid := uuid 4, arProperties := 0, activityTimeoutFactor := 600,
    initiatorUdpRtPort := 0x8892, stationName := .ofAscii [0x62] }

/-- A request with two bytes of inputs and none of outputs. -/
def blocks : List (UInt16 × Bytes) :=
  [(Ty.arBlockReq, arBody ar),
    (Ty.iocrBlockReq, iocrBody 1 1 0x8000 4 [⟨1, 1, 0⟩] []),
    (Ty.iocrBlockReq, iocrBody 2 2 0x8001 4 [] [⟨1, 1, 0⟩]),
    (Ty.expectedSubmoduleBlockReq, expectedBody ⟨1, 0x101, [⟨1, 1, 2, 0⟩]⟩),
    (Ty.alarmCrBlockReq, alarmBody)]

def bytes : Bytes := blocks.flatMap blockBytes

lemma accepted : ∃ req p, ConnectReq.parse bytes = .ok req ∧ validate req model = .ok p := by
  have h : (connectAnswer bytes model).toOption.isSome = true := by decide +kernel
  obtain ⟨r, hr⟩ := Option.isSome_iff_exists.1 h
  obtain ⟨req, hreq, hr⟩ := Res.bind_eq_ok.1 (Res.toOption_eq_some.1 hr)
  obtain ⟨p, hp, -⟩ := Res.bind_eq_ok.1 hr
  exact ⟨req, p, hreq, Res.mapErr_eq_ok.1 hp⟩

end ConnectDemo

/-- Five blocks, from the last to the first. -/
theorem connect_any_order_reversed :
    ∃ bs req p, BlockHeader.readAll ConnectDemo.bytes = .ok bs ∧ bs.length = 5 ∧
      ConnectReq.parse (BlockHeader.wire bs.reverse) = .ok req ∧
      validate req ConnectDemo.model = .ok p := by
  obtain ⟨req, p, hreq, hval⟩ := ConnectDemo.accepted
  obtain ⟨bs, hread, hperm⟩ := connect_any_order hreq hval
  obtain ⟨-, ⟨req', hreq', hval'⟩, -⟩ := hperm bs.reverse (List.reverse_perm bs)
  have hlen : ((BlockHeader.readAll ConnectDemo.bytes).toOption.map List.length) = some 5 := by
    decide +kernel
  rw [hread] at hlen
  exact ⟨bs, req', p, hread, Option.some.inj hlen, hreq', hval'⟩

end Pnio
