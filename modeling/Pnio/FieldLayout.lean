import Pnio.Config
import Pnio.Lib.Spans

/-!
Where the fields of a submodule lie: one after the other, at ascending bit positions, within the
bytes that are counted for them.
-/

namespace Pnio

/-- The number of bits of a field. -/
def FieldType.bitLen (ty : FieldType) : Nat :=
  match ty.byteLen with
  | none => 1
  | some n => 8 * n

/-- The bits of the submodule's data a field takes; bit `i` of byte `b` is number `8 * b + i`. -/
def FieldRef.span (f : FieldRef) : Span := ⟨8 * f.byte.toNat + f.bit.toNat, f.ty.bitLen⟩

lemma FieldType.bitLen_of_some {ty : FieldType} {n : Nat} (h : ty.byteLen = some n) :
    ty.bitLen = 8 * n := by
  rw [bitLen, h]

lemma FieldType.byteLen_eq_none {ty : FieldType} : ty.byteLen = none ↔ ty = .bool := by
  cases ty <;> simp [byteLen]

namespace Packing

/-- The first bit no field has reached. -/
def fill (s : Packing) : Nat :=
  match s.bitByte with
  | some (b, k) => 8 * b + k
  | none => 8 * s.nextByte

/-- The open byte is the last one, with one to eight bits taken. -/
def BitsOk (s : Packing) : Prop :=
  ∀ b k, s.bitByte = some (b, k) → 1 ≤ k ∧ k ≤ 8 ∧ b + 1 = s.nextByte

/-- What the loop of `layout` keeps, while the offsets stay within their type. -/
structure Ok (s : Packing) : Prop where
  bits : s.BitsOk
  within : ∀ f ∈ s.refs, f.span.off + f.span.len ≤ s.fill
  apart : (s.refs.map FieldRef.span).Pairwise Span.Apart

variable {s : Packing} {ty : FieldType}

lemma Ok.fill_le (h : s.Ok) : s.fill ≤ 8 * s.nextByte := by
  unfold fill
  split
  · rename_i b k hb
    obtain ⟨h1, h2, h3⟩ := h.bits b k hb
    omega
  · exact le_refl _

/-- The three ways a field is placed: in the open byte, in a new byte for bits, or as bytes. -/
inductive Pushed (s : Packing) (ty : FieldType) : Packing → Prop
  | bit {b k : Nat} (ht : ty = .bool) (hb : s.bitByte = some (b, k)) (hk : k < 8) :
      Pushed s ty
        { refs := s.refs ++ [⟨UInt16.ofNat b, UInt8.ofNat k, ty⟩]
          nextByte := s.nextByte
          bitByte := some (b, k + 1) }
  | newBit (ht : ty = .bool) (hb : ∀ b k, s.bitByte = some (b, k) → 8 ≤ k) :
      Pushed s ty
        { refs := s.refs ++ [⟨UInt16.ofNat s.nextByte, 0, ty⟩]
          nextByte := s.nextByte + 1
          bitByte := some (s.nextByte, 1) }
  | bytes {n : Nat} (ht : ty.byteLen = some n) :
      Pushed s ty
        { refs := s.refs ++ [⟨UInt16.ofNat s.nextByte, 0, ty⟩]
          nextByte := s.nextByte + n
          bitByte := none }

lemma push_pushed (s : Packing) (ty : FieldType) : Pushed s ty (s.push ty) := by
  unfold push
  cases ht : ty.byteLen with
  | some n => exact .bytes ht
  | none =>
    have hbool := FieldType.byteLen_eq_none.1 ht
    unfold bitPlace
    cases hb : s.bitByte with
    | none => exact .newBit hbool fun b k h => by rw [hb] at h; cases h
    | some p =>
      obtain ⟨b, k⟩ := p
      by_cases hk : k < 8
      · simp only [hk, if_true]
        exact .bit hbool hb hk
      · simp only [hk, if_false]
        refine .newBit hbool fun b' k' h => ?_
        rw [hb] at h
        cases h
        exact not_lt.1 hk

lemma Pushed.nextByte_le {s' : Packing} (h : Pushed s ty s') : s.nextByte ≤ s'.nextByte := by
  cases h with
  | bit => exact le_refl _
  | newBit => exact Nat.le_succ _
  | bytes => exact Nat.le_add_right _ _

lemma toNat_ofNat_byte {b : Nat} (h : b < 65536) : (UInt16.ofNat b).toNat = b := by
  rw [UInt16.toNat_ofNat']
  exact Nat.mod_eq_of_lt h

lemma toNat_ofNat_bit {k : Nat} (h : k < 8) : (UInt8.ofNat k).toNat = k := by
  rw [UInt8.toNat_ofNat']
  exact Nat.mod_eq_of_lt (by omega)

/-- The field that was added begins where the others end at the earliest, and it is filled up
to its end. -/
lemma Pushed.span {s' : Packing} (h : Pushed s ty s') (hs : s.Ok) (hn : s'.nextByte ≤ 65535) :
    ∃ f, s'.refs = s.refs ++ [f] ∧ f.ty = ty ∧ s.fill ≤ f.span.off ∧
      f.span.off + f.span.len = s'.fill := by
  have hfill := hs.fill_le
  cases h with
  | @bit b k ht hb hk =>
    obtain ⟨h1, h2, h3⟩ := hs.bits b k hb
    have hspan : FieldRef.span ⟨UInt16.ofNat b, UInt8.ofNat k, ty⟩ = ⟨8 * b + k, 1⟩ := by
      dsimp only at hn
      simp only [FieldRef.span, toNat_ofNat_byte (show b < 65536 by omega), toNat_ofNat_bit hk, ht]
      rfl
    refine ⟨_, rfl, rfl, ?_, ?_⟩
    · rw [hspan, fill, hb]
    · rw [hspan]
      rfl
  | newBit ht hb =>
    have hspan : FieldRef.span ⟨UInt16.ofNat s.nextByte, 0, ty⟩ = ⟨8 * s.nextByte, 1⟩ := by
      dsimp only at hn
      simp only [FieldRef.span, toNat_ofNat_byte (show s.nextByte < 65536 by omega), ht]
      rfl
    refine ⟨_, rfl, rfl, ?_, ?_⟩
    · rw [hspan]
      exact hfill
    · rw [hspan]
      rfl
  | @bytes n ht =>
    have hpos : 0 < n := by
      cases ty <;> cases ht <;> decide
    have hspan : FieldRef.span ⟨UInt16.ofNat s.nextByte, 0, ty⟩ = ⟨8 * s.nextByte, 8 * n⟩ := by
      dsimp only at hn
      simp only [FieldRef.span, toNat_ofNat_byte (show s.nextByte < 65536 by omega),
        FieldType.bitLen_of_some ht]
      rfl
    refine ⟨_, rfl, rfl, ?_, ?_⟩
    · rw [hspan]
      exact hfill
    · rw [hspan]
      simp only [fill]
      omega

lemma Pushed.bitsOk {s' : Packing} (h : Pushed s ty s') (hs : s.BitsOk) : s'.BitsOk := by
  intro b k hb
  cases h with
  | bit ht hb' hk =>
    cases hb
    obtain ⟨h1, h2, h3⟩ := hs _ _ hb'
    exact ⟨by omega, by omega, h3⟩
  | newBit ht hb' =>
    cases hb
    exact ⟨le_refl _, by omega, rfl⟩
  | bytes ht => cases hb

lemma Pushed.ok {s' : Packing} (h : Pushed s ty s') (hs : s.Ok) (hn : s'.nextByte ≤ 65535) :
    s'.Ok := by
  obtain ⟨f, hrefs, -, hoff, hend⟩ := h.span hs hn
  refine ⟨h.bitsOk hs.bits, fun g hg => ?_, ?_⟩
  · rw [hrefs] at hg
    rcases List.mem_append.1 hg with hg | hg
    · have := hs.within g hg
      omega
    · rw [List.mem_singleton.1 hg, hend]
  · rw [hrefs, List.map_append]
    refine List.pairwise_append.2 ⟨hs.apart, List.pairwise_singleton _ _, fun t ht u hu => ?_⟩
    obtain ⟨g, hg, rfl⟩ := List.mem_map.1 ht
    rw [List.map_singleton, List.mem_singleton] at hu
    subst hu
    exact .inl (le_trans (hs.within g hg) hoff)

end Packing

/-! ### The whole loop -/

section Layout

variable {fields : List FieldType}

/-- The packing of a list of fields. -/
def packed (fields : List FieldType) : Packing := fields.foldl Packing.push {}

lemma packed_snoc (fields : List FieldType) (ty : FieldType) :
    packed (fields ++ [ty]) = (packed fields).push ty := by
  simp [packed]

lemma packed_types (fields : List FieldType) : (packed fields).refs.map (·.ty) = fields := by
  induction fields using List.reverseRecOn with
  | nil => rfl
  | append_singleton fields ty ih =>
    rw [packed_snoc]
    have hp := Packing.push_pushed (packed fields) ty
    generalize (packed fields).push ty = s' at hp ⊢
    cases hp with
    | bit ht hb hk => simp [ih]
    | newBit ht hb => simp [ih]
    | bytes ht => simp [ih]

lemma packed_bitsOk (fields : List FieldType) : (packed fields).BitsOk := by
  induction fields using List.reverseRecOn with
  | nil =>
    intro b k hb
    cases hb
  | append_singleton fields ty ih =>
    rw [packed_snoc]
    exact (Packing.push_pushed _ ty).bitsOk ih

lemma packed_ok (h : (packed fields).nextByte ≤ 65535) : (packed fields).Ok := by
  induction fields using List.reverseRecOn with
  | nil => exact ⟨packed_bitsOk [], List.forall_mem_nil _, List.Pairwise.nil⟩
  | append_singleton fields ty ih =>
    rw [packed_snoc] at h ⊢
    have hp := Packing.push_pushed (packed fields) ty
    exact hp.ok (ih (le_trans hp.nextByte_le h)) h

/-- The count of the check is the length of the packing, and its open bits are those of the
packing. -/
lemma countField_packed (fields : List FieldType) :
    fields.foldl countField (0, 0) =
      ((packed fields).nextByte, ((packed fields).bitByte.map (·.2 % 8)).getD 0) := by
  induction fields using List.reverseRecOn with
  | nil => rfl
  | append_singleton fields ty ih =>
    have hbits := packed_bitsOk fields
    have hp := Packing.push_pushed (packed fields) ty
    rw [List.foldl_append, List.foldl_cons, List.foldl_nil, ih, packed_snoc]
    generalize (packed fields).push ty = s' at hp ⊢
    generalize packed fields = s at hbits hp
    cases hp with
    | @bit b k ht hb hk =>
      obtain ⟨h1, -, -⟩ := hbits b k hb
      have hopen : ((s.bitByte.map (·.2 % 8)).getD 0) = k := by
        rw [hb]
        exact Nat.mod_eq_of_lt hk
      rw [ht, hopen]
      simp only [countField, FieldType.byteLen, if_neg (show k ≠ 0 by omega)]
      rfl
    | newBit ht hb =>
      have hopen : ((s.bitByte.map (·.2 % 8)).getD 0) = 0 := by
        cases hs : s.bitByte with
        | none => rfl
        | some p =>
          obtain ⟨-, h2, -⟩ := hbits p.1 p.2 hs
          have h3 := hb p.1 p.2 hs
          have h8 : p.2 = 8 := by omega
          simp [h8]
      rw [ht, hopen]
      rfl
    | @bytes n ht =>
      simp only [countField, ht]
      rfl

/-- What a checked layout has: the declared fields, within the counted bytes, apart. -/
structure LaidOut (fields : List FieldType) (refs : List FieldRef) (n : Nat) : Prop where
  types : refs.map (·.ty) = fields
  within : ∀ f ∈ refs, f.span.off + f.span.len ≤ 8 * n
  apart : (refs.map FieldRef.span).Pairwise Span.Apart
  len : n ≤ maxSubmoduleBytes

lemma checkedLayout_eq_ok {slot : UInt16} {refs : List FieldRef} {n : UInt16} :
    checkedLayout slot fields = .ok (refs, n) ↔
      (packed fields).nextByte ≤ maxSubmoduleBytes ∧ (packed fields).refs = refs ∧
        UInt16.ofNat (packed fields).nextByte = n := by
  unfold checkedLayout
  rw [countField_packed]
  dsimp only
  rw [Res.bind_eq_ok]
  constructor
  · rintro ⟨_, hle, h⟩
    rw [Res.reject_eq_ok, not_lt] at hle
    cases h
    exact ⟨hle, rfl, rfl⟩
  · rintro ⟨hle, rfl, rfl⟩
    exact ⟨(), Res.reject_of_not (not_lt.2 hle), rfl⟩

/-- **A checked layout lays its fields out apart, within the bytes it counts.** -/
theorem checkedLayout_laidOut {slot : UInt16} {refs : List FieldRef} {n : UInt16}
    (h : checkedLayout slot fields = .ok (refs, n)) : LaidOut fields refs n.toNat := by
  obtain ⟨hle, rfl, rfl⟩ := checkedLayout_eq_ok.1 h
  have hbound : (packed fields).nextByte ≤ 65535 := le_trans hle (by decide)
  have hn : (UInt16.ofNat (packed fields).nextByte).toNat = (packed fields).nextByte :=
    Packing.toNat_ofNat_byte (by omega)
  have hok := packed_ok hbound
  rw [hn]
  exact ⟨packed_types fields, fun f hf => le_trans (hok.within f hf) hok.fill_le, hok.apart, hle⟩

end Layout

end Pnio
