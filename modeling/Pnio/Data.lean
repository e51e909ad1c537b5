import Pnio.FieldLayout
import Pnio.Lib.Bits

/-!
The codecs of the process data types, and the fields of a submodule's data: a field that is set
reads back as it was set, and no other field changes.

A `REAL` is carried as its 32-bit pattern.
-/

namespace Pnio

inductive Value where
  | bool (b : Bool)
  | int (v : Int16)
  | word (v : UInt16)
  | dint (v : Int32)
  | real (bits : UInt32)
deriving DecidableEq, Repr

def Value.fieldType : Value → FieldType
  | bool _ => .bool
  | int _ => .int
  | word _ => .word
  | dint _ => .dint
  | real _ => .real

inductive CodecError where
  | tooShort (need have_ : Nat)
  | bitOutOfRange (bit bytes : Nat)
deriving DecidableEq, Repr

def encodeI16 (v : Int16) : Bytes := be16 v.toUInt16
def encodeU16 (v : UInt16) : Bytes := be16 v
def encodeI32 (v : Int32) : Bytes := be32 v.toUInt32
def encodeF32 (bits : UInt32) : Bytes := be32 bits

/-- The first `n` bytes. -/
def takeN (n : Nat) (b : Bytes) : Res CodecError Bytes := do
  Res.reject (b.length < n) (.tooShort n b.length)
  slice b 0 n

def decodeU16 (b : Bytes) : Res CodecError UInt16 := do
  let a ← takeN 2 b
  .ok (UInt16.ofNat (ofBe a))

def decodeI16 (b : Bytes) : Res CodecError Int16 := do
  let a ← takeN 2 b
  .ok (UInt16.ofNat (ofBe a)).toInt16

def decodeI32 (b : Bytes) : Res CodecError Int32 := do
  let a ← takeN 4 b
  .ok (UInt32.ofNat (ofBe a)).toInt32

def decodeF32 (b : Bytes) : Res CodecError UInt32 := do
  let a ← takeN 4 b
  .ok (UInt32.ofNat (ofBe a))

def getBit (buf : Bytes) (bit : Nat) : Res CodecError Bool := do
  let byte := bit / 8
  Res.reject (buf.length ≤ byte) (.bitOutOfRange bit buf.length)
  let x ← idx buf byte
  .ok (bitOf x (bit % 8))

def setBit (buf : Bytes) (bit : Nat) (value : Bool) : Res CodecError Bytes := do
  let byte := bit / 8
  Res.reject (buf.length ≤ byte) (.bitOutOfRange bit buf.length)
  let x ← idx buf byte
  .ok (buf.set byte (withBit x (bit % 8) value))

namespace Value

def put (dst bytes : Bytes) : Res CodecError Bytes := do
  Res.reject (dst.length < bytes.length) (.tooShort bytes.length dst.length)
  patch dst 0 bytes

/-- `dst` with the value at its start, or at the bit `bit` for a `bool`. -/
def encode (v : Value) (dst : Bytes) (bit : Nat) : Res CodecError Bytes :=
  match v with
  | bool b => setBit dst bit b
  | int v => put dst (encodeI16 v)
  | word v => put dst (encodeU16 v)
  | dint v => put dst (encodeI32 v)
  | real v => put dst (encodeF32 v)

def decode (ty : FieldType) (src : Bytes) (bit : Nat) : Res CodecError Value :=
  match ty with
  | .bool => do
    let b ← getBit src bit
    .ok (.bool b)
  | .int => do
    let v ← decodeI16 src
    .ok (.int v)
  | .word => do
    let v ← decodeU16 src
    .ok (.word v)
  | .dint => do
    let v ← decodeI32 src
    .ok (.dint v)
  | .real => do
    let v ← decodeF32 src
    .ok (.real v)

/-- The value of a field whose bits are all zero. -/
def zero : FieldType → Value
  | .bool => bool false
  | .int => int 0
  | .word => word 0
  | .dint => dint 0
  | .real => real 0

end Value

/-! ### Values of whole bytes -/

lemma takeN_of_le {n : Nat} {b : Bytes} (h : n ≤ b.length) : takeN n b = .ok (b.take n) := by
  rw [takeN, Res.reject_of_not (not_lt.2 h), Res.ok_bind, slice_of_le ⟨Nat.zero_le n, h⟩,
    List.drop_zero, Nat.sub_zero]

namespace Value

/-- The bytes of a value that takes whole ones. -/
def scalar : Value → Bytes
  | bool _ => []
  | int v => encodeI16 v
  | word v => encodeU16 v
  | dint v => encodeI32 v
  | real v => encodeF32 v

/-- The value of a type that takes whole bytes. -/
def ofScalar (ty : FieldType) (b : Bytes) : Value :=
  match ty with
  | .bool => bool false
  | .int => int (UInt16.ofNat (ofBe b)).toInt16
  | .word => word (UInt16.ofNat (ofBe b))
  | .dint => dint (UInt32.ofNat (ofBe b)).toInt32
  | .real => real (UInt32.ofNat (ofBe b))

variable {v : Value} {ty : FieldType} {n : Nat} {dst src : Bytes}

lemma length_scalar (h : v.fieldType.byteLen = some n) : v.scalar.length = n := by
  cases v <;> simp_all [fieldType, FieldType.byteLen, scalar, encodeI16, encodeU16, encodeI32,
    encodeF32]

lemma ofScalar_scalar (h : v.fieldType.byteLen = some n) : ofScalar v.fieldType v.scalar = v := by
  cases v with
  | bool b => cases h
  | int v => simp [ofScalar, fieldType, scalar, encodeI16]
  | word v => simp [ofScalar, fieldType, scalar, encodeU16]
  | dint v => simp [ofScalar, fieldType, scalar, encodeI32]
  | real v => simp [ofScalar, fieldType, scalar, encodeF32]

lemma decode_scalar (hty : ty.byteLen = some n) (h : n ≤ src.length) (bit : Nat) :
    decode ty src bit = .ok (ofScalar ty (src.take n)) := by
  cases ty <;> cases hty <;>
    simp only [decode, decodeI16, decodeU16, decodeI32, decodeF32, takeN_of_le h] <;> rfl

lemma put_of_le {bytes : Bytes} (h : bytes.length ≤ dst.length) :
    put dst bytes = .ok (bytes ++ dst.drop bytes.length) := by
  have hp : 0 + bytes.length ≤ dst.length := by omega
  rw [put, Res.reject_of_not (not_lt.2 h), Res.ok_bind, patch, if_pos hp, List.take_zero,
    List.nil_append, Nat.zero_add]

lemma encode_scalar (hty : v.fieldType.byteLen = some n) (h : n ≤ dst.length) (bit : Nat) :
    v.encode dst bit = .ok (v.scalar ++ dst.drop n) := by
  have hlen := length_scalar hty
  have hput := put_of_le (hlen.symm ▸ h : v.scalar.length ≤ dst.length)
  rw [hlen] at hput
  cases v with
  | bool b => cases hty
  | _ => exact hput

/-! ### Bits -/

lemma decode_bool {bit : Nat} (hbit : bit < 8) (h : 0 < src.length) :
    decode .bool src bit = .ok (bool (bitAt src bit)) := by
  have hdiv : bit / 8 = 0 := by omega
  have hle : ¬ src.length ≤ 0 := by omega
  rw [decode, getBit, hdiv, Res.reject_of_not hle, Res.ok_bind, idx_of_lt h, Res.ok_bind,
    Res.ok_bind, bitAt, hdiv, List.getD_eq_getElem _ _ h]

lemma encode_bool {bit : Nat} (b : Bool) (hbit : bit < 8) (h : 0 < dst.length) :
    (bool b).encode dst bit = .ok (dst.set 0 (withBit (dst.getD 0 0) bit b)) := by
  have hdiv : bit / 8 = 0 := by omega
  have hmod : bit % 8 = bit := by omega
  have hle : ¬ dst.length ≤ 0 := by omega
  rw [encode, setBit, hdiv, hmod, Res.reject_of_not hle, Res.ok_bind, idx_of_lt h, Res.ok_bind,
    List.getD_eq_getElem _ _ h]

end Value

/-! ### Fields -/

/-- The field lies within `n` bytes; only bits have a bit number other than zero. -/
structure FieldRef.Fits (f : FieldRef) (n : Nat) : Prop where
  bit : f.bit.toNat < 8
  aligned : f.ty ≠ .bool → f.bit = 0
  within : f.span.off + f.span.len ≤ 8 * n

/-- The value of a field of the submodule's data. -/
def FieldRef.get (f : FieldRef) (b : Bytes) : Res CodecError Value :=
  Value.decode f.ty (b.drop f.byte.toNat) f.bit.toNat

/-- The submodule's data with a field set. -/
def FieldRef.put (f : FieldRef) (v : Value) (b : Bytes) : Res CodecError Bytes := do
  let dst ← slice b f.byte.toNat b.length
  let dst ← v.encode dst f.bit.toNat
  .ok (b.take f.byte.toNat ++ dst)

namespace FieldRef

variable {f : FieldRef} {n : Nat} {a b : Bytes}

lemma Fits.span_scalar {k : Nat} (h : f.Fits n) (hty : f.ty.byteLen = some k) :
    f.span = ⟨8 * f.byte.toNat, 8 * k⟩ := by
  have hne : f.ty ≠ .bool := by
    intro hb
    rw [hb] at hty
    cases hty
  rw [span, h.aligned hne, FieldType.bitLen_of_some hty]
  rfl

lemma span_bool (hty : f.ty = .bool) : f.span = ⟨8 * f.byte.toNat + f.bit.toNat, 1⟩ := by
  rw [span, hty]
  rfl

lemma Fits.byte_le (h : f.Fits n) : f.byte.toNat ≤ n := by
  have hw := h.within
  rw [span] at hw
  dsimp only at hw
  omega

lemma Fits.bool_lt (h : f.Fits n) (hty : f.ty = .bool) : f.byte.toNat < n := by
  have hw := h.within
  rw [span_bool hty] at hw
  dsimp only at hw
  omega

lemma Fits.scalar_le {k : Nat} (h : f.Fits n) (hty : f.ty.byteLen = some k) :
    f.byte.toNat + k ≤ n := by
  have hw := h.within
  rw [h.span_scalar hty] at hw
  dsimp only at hw
  omega

/-- The value of a field depends on its own bits only. -/
lemma Fits.get_congr (h : f.Fits n) (ha : n ≤ a.length) (hb : n ≤ b.length)
    (hs : SameBits f.span a b) : f.get a = f.get b := by
  cases hty : f.ty.byteLen with
  | none =>
    have hbool := FieldType.byteLen_eq_none.1 hty
    have hlt := h.bool_lt hbool
    rw [span_bool hbool] at hs
    have hbit := h.bit
    rw [get, get, hbool, Value.decode_bool hbit (by rw [List.length_drop]; omega),
      Value.decode_bool hbit (by rw [List.length_drop]; omega), bitAt_drop, bitAt_drop,
      hs _ ⟨le_refl _, Nat.lt_succ_self _⟩]
  | some k =>
    have hle := h.scalar_le hty
    rw [h.span_scalar hty] at hs
    rw [get, get, Value.decode_scalar hty (by rw [List.length_drop]; omega),
      Value.decode_scalar hty (by rw [List.length_drop]; omega),
      hs.take_drop (by omega) (by omega)]

/-- A field reads the same in the bytes that are behind the data. -/
lemma Fits.get_take (h : f.Fits n) (hn : n ≤ b.length) : f.get (b.take n) = f.get b := by
  have hlen : (b.take n).length = n := by
    rw [List.length_take]
    omega
  refine h.get_congr (le_of_eq hlen.symm) hn fun i hi => bitAt_take ?_
  have hw := h.within
  obtain ⟨-, hlt⟩ := hi
  omega

/-- A field of data that lies somewhere in a longer string. -/
lemma Fits.get_cut (h : f.Fits n) {off : Nat} (hn : off + n ≤ b.length) :
    Value.decode f.ty (b.drop (off + f.byte.toNat)) f.bit.toNat = f.get (cut b ⟨off, n⟩) := by
  have hlen : n ≤ (b.drop off).length := by
    rw [List.length_drop]
    omega
  rw [cut, h.get_take hlen, get, List.drop_drop]

/-- A field within the data can be read. -/
lemma Fits.get_ok (h : f.Fits n) (hn : n ≤ b.length) : ∃ v, f.get b = .ok v := by
  cases hty : f.ty.byteLen with
  | none =>
    have hbool := FieldType.byteLen_eq_none.1 hty
    have hlt := h.bool_lt hbool
    rw [get, hbool]
    exact ⟨_, Value.decode_bool h.bit (by rw [List.length_drop]; omega)⟩
  | some k =>
    have hle := h.scalar_le hty
    exact ⟨_, Value.decode_scalar hty (by rw [List.length_drop]; omega) _⟩

/-- **Setting a field**: it reads back, and nothing else changes. -/
lemma Fits.put_eq {v : Value} (h : f.Fits n) (hb : n ≤ b.length) (hv : v.fieldType = f.ty) :
    ∃ b', f.put v b = .ok b' ∧ OnlyIn f.span b b' ∧ f.get b' = .ok v := by
  have hbyte : f.byte.toNat ≤ b.length := le_trans h.byte_le hb
  have htake : (b.take f.byte.toNat).length = f.byte.toNat := by
    rw [List.length_take]
    omega
  have hput : ∀ {dst'}, v.encode (b.drop f.byte.toNat) f.bit.toNat = .ok dst' →
      f.put v b = .ok (b.take f.byte.toNat ++ dst') := by
    intro dst' hdst
    have hs : (slice b f.byte.toNat b.length : Res CodecError _) =
        .ok (b.drop f.byte.toNat) := by
      rw [slice_of_le ⟨hbyte, le_refl _⟩, List.take_of_length_le (by rw [List.length_drop])]
    rw [put, hs, Res.ok_bind, hdst, Res.ok_bind]
  have hget : ∀ dst', f.get (b.take f.byte.toNat ++ dst') =
      Value.decode f.ty dst' f.bit.toNat := by
    intro dst'
    rw [get, List.drop_append_of_le_length (by omega), List.drop_of_length_le (by omega),
      List.nil_append]
  cases hty : f.ty.byteLen with
  | none =>
    have hbool := FieldType.byteLen_eq_none.1 hty
    rw [span_bool hbool]
    have hlt := h.bool_lt hbool
    have hbit := h.bit
    have hpos : 0 < (b.drop f.byte.toNat).length := by
      rw [List.length_drop]
      omega
    obtain ⟨x, rfl⟩ : ∃ x, v = .bool x := by
      rw [hbool] at hv
      cases v <;> simp_all [Value.fieldType]
    have hset := onlyIn_set x hpos hbit
    refine ⟨_, hput (Value.encode_bool x hbit hpos), ?_, ?_⟩
    · have htail := OnlyIn.tail hbyte hset
      rwa [Nat.mul_zero, Nat.zero_add] at htail
    · rw [hget, hbool, Value.decode_bool hbit (by rw [hset.length]; exact hpos)]
      congr 2
      have hat := bitAt_mul_add (b := (b.drop f.byte.toNat).set 0
        (withBit ((b.drop f.byte.toNat).getD 0 0) f.bit.toNat x)) (n := 0) hbit
      rw [Nat.mul_zero, Nat.zero_add] at hat
      rw [hat, List.getD_eq_getElem?_getD, List.getElem?_set_self hpos, Option.getD_some,
        bitOf_withBit _ _ hbit hbit, if_pos rfl]
  | some k =>
    have hty' : v.fieldType.byteLen = some k := by rw [hv, hty]
    have hwithin := h.scalar_le hty
    rw [h.span_scalar hty]
    have hle : k ≤ (b.drop f.byte.toNat).length := by
      rw [List.length_drop]
      omega
    have hlen := Value.length_scalar hty'
    refine ⟨_, hput (Value.encode_scalar hty' hle _), ?_, ?_⟩
    · have hfront := onlyIn_front (hlen.symm ▸ hle :
        v.scalar.length ≤ (b.drop f.byte.toNat).length)
      have htail := OnlyIn.tail hbyte hfront
      rwa [hlen, Nat.add_zero] at htail
    · have htk : (v.scalar ++ (b.drop f.byte.toNat).drop k).take k = v.scalar := by
        rw [← hlen, List.take_left]
      rw [hget, Value.decode_scalar hty (by rw [List.length_append]; omega), htk, ← hv,
        Value.ofScalar_scalar hty']

lemma bitAt_replicate_zero (n i : Nat) : bitAt (List.replicate n 0) i = false := by
  have hz : (List.replicate n (0 : UInt8)).getD (i / 8) 0 = 0 := by
    rw [List.getD_eq_getElem?_getD, List.getElem?_replicate]
    split_ifs <;> rfl
  rw [bitAt, hz]
  simp [bitOf]

/-- A field of data that is all zero. -/
lemma Fits.get_zero (h : f.Fits n) : f.get (List.replicate n 0) = .ok (.zero f.ty) := by
  cases hty : f.ty.byteLen with
  | none =>
    have hbool := FieldType.byteLen_eq_none.1 hty
    have hlt := h.bool_lt hbool
    rw [get, hbool, Value.decode_bool h.bit (by simp; omega), bitAt_drop, bitAt_replicate_zero]
    rfl
  | some k =>
    have hk : k ≤ n - f.byte.toNat := Nat.le_sub_of_add_le' (h.scalar_le hty)
    rw [get, List.drop_replicate, Value.decode_scalar hty (by simpa using hk), List.take_replicate,
      min_eq_left hk]
    cases hf : f.ty <;> rw [hf] at hty <;> cases hty <;> rfl

end FieldRef

/-! ### The fields of a layout -/

/-- Bits are numbered up to seven, everything else begins at bit zero. -/
lemma packed_aligned (fields : List FieldType) :
    ∀ f ∈ (packed fields).refs, f.bit.toNat < 8 ∧ (f.ty ≠ .bool → f.bit = 0) := by
  induction fields using List.reverseRecOn with
  | nil => exact List.forall_mem_nil _
  | append_singleton fields ty ih =>
    rw [packed_snoc]
    have hp := Packing.push_pushed (packed fields) ty
    generalize (packed fields).push ty = s' at hp ⊢
    intro f hf
    cases hp with
    | @bit b k ht hb hk =>
      rcases List.mem_append.1 hf with hf | hf
      · exact ih f hf
      · rw [List.mem_singleton.1 hf]
        exact ⟨by rw [Packing.toNat_ofNat_bit hk]; exact hk, fun hne => absurd ht hne⟩
    | newBit ht hb =>
      rcases List.mem_append.1 hf with hf | hf
      · exact ih f hf
      · rw [List.mem_singleton.1 hf]
        exact ⟨Nat.succ_pos 7, fun _ => rfl⟩
    | bytes ht =>
      rcases List.mem_append.1 hf with hf | hf
      · exact ih f hf
      · rw [List.mem_singleton.1 hf]
        exact ⟨Nat.succ_pos 7, fun _ => rfl⟩

lemma checkedLayout_fits {slot n : UInt16} {fields : List FieldType} {refs : List FieldRef}
    (h : checkedLayout slot fields = .ok (refs, n)) : ∀ f ∈ refs, f.Fits n.toNat := by
  have hlaid := checkedLayout_laidOut h
  obtain ⟨-, rfl, -⟩ := checkedLayout_eq_ok.1 h
  intro f hf
  obtain ⟨hbit, haligned⟩ := packed_aligned fields f hf
  exact ⟨hbit, haligned, hlaid.within f hf⟩

end Pnio
