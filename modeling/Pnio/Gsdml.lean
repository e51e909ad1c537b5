import Pnio.FieldLayout

/-!
The data items of the GSDML file: a controller that lays them out one after the other finds every
field where the device keeps it.
-/

namespace Pnio

/-- One `DataItem` of a byte-sized type, or one group of bits of the same byte. -/
inductive Item where
  | scalar (ty : FieldType) (i : Nat)
  | bits (group : List (Nat × FieldRef))
deriving DecidableEq

/-- The body of the loop of `items`, for the field with index `f.2`. -/
def pushItem (out : List Item) (f : FieldRef × Nat) : List Item :=
  match f.1.ty with
  | .bool =>
    match out.getLast? with
    | some (.bits g) =>
      if g.getLast?.map (·.2.byte) = some f.1.byte then
        out.dropLast ++ [.bits (g ++ [(f.2, f.1)])]
      else out ++ [.bits [(f.2, f.1)]]
    | _ => out ++ [.bits [(f.2, f.1)]]
  | ty => out ++ [.scalar ty f.2]

def items (fields : List FieldRef) : List Item := fields.zipIdx.foldl pushItem []

inductive DataType where
  | unsigned8
  | integer16
  | unsigned16
  | integer32
  | float32
deriving DecidableEq, Repr

def dataType : FieldType → DataType
  | .bool => .unsigned8
  | .int => .integer16
  | .word => .unsigned16
  | .dint => .integer32
  | .real => .float32

/-! ### The elements of the file -/

structure BitDataItem where
  bitOffset : UInt8
  textId : String
deriving DecidableEq

/-- A `DataItem` element; one with `UseAsBits` has its bits as children. -/
inductive DataItem where
  | plain (dataType : DataType) (textId : String)
  | useAsBits (dataType : DataType) (textId : String) (bits : List BitDataItem)
deriving DecidableEq

def scalarId (n : UInt16) (tag : String) (i : Nat) : String := s!"M{n}_{tag}{i}"

def bitsId (n : UInt16) (tag : String) (first : Nat) : String := s!"M{n}_{tag}{first}_bits"

def bitId (n : UInt16) (tag : String) (i : Nat) : String := s!"M{n}_{tag}{i}_b"

/-- The element `render` writes for an item of slot `n`; `tag` is `In` or `Out`. -/
def Item.render (n : UInt16) (tag : String) : Item → DataItem
  | .scalar ty i => .plain (dataType ty) (scalarId n tag i)
  | .bits group =>
    .useAsBits .unsigned8 (bitsId n tag ((group.head?.map (·.1)).getD 0))
      (group.map fun p => ⟨p.2.bit, bitId n tag p.1⟩)

/-! ### The reader of the file -/

def DataType.byteLen : DataType → Nat
  | unsigned8 => 1
  | integer16 | unsigned16 => 2
  | integer32 | float32 => 4

/-- Where a reader finds the variable with the given text. -/
structure Place where
  textId : String
  byte : Nat
  bit : Nat
deriving DecidableEq

/-- The places and the first byte after them, with one more element laid out. -/
def readItem (s : List Place × Nat) : DataItem → List Place × Nat
  | .plain ty id => (s.1 ++ [⟨id, s.2, 0⟩], s.2 + ty.byteLen)
  | .useAsBits ty _ bits =>
    (s.1 ++ bits.map fun b => ⟨b.textId, s.2, b.bitOffset.toNat⟩, s.2 + ty.byteLen)

/-- The elements laid out one after the other, as a reader of the file does. -/
def readItems (elements : List DataItem) : List Place × Nat := elements.foldl readItem ([], 0)

/-- The place the device has for the field with index `f.2`. -/
def devicePlace (n : UInt16) (tag : String) (f : FieldRef × Nat) : Place :=
  ⟨if f.1.ty = .bool then bitId n tag f.2 else scalarId n tag f.2, f.1.byte.toNat, f.1.bit.toNat⟩

/-! ### The two groupings agree -/

def Item.indices : Item → List Nat
  | .scalar _ i => [i]
  | .bits group => group.map (·.1)

/-- One to eight bits, none of them twice. -/
def Item.GoodGroup : Item → Prop
  | .scalar _ _ => True
  | .bits group => 1 ≤ group.length ∧ group.length ≤ 8 ∧ (group.map (·.2.bit)).Nodup

lemma items_snoc (refs : List FieldRef) (f : FieldRef) :
    items (refs ++ [f]) = pushItem (items refs) (f, refs.length) := by
  simp [items, List.zipIdx_append]

lemma readItems_snoc (elements : List DataItem) (d : DataItem) :
    readItems (elements ++ [d]) = readItem (readItems elements) d := by
  simp [readItems]

/-- A group whose members are the first `k` bits of byte `b`. -/
structure Group (b k : Nat) (g : List (Nat × FieldRef)) : Prop where
  bits : g.map (·.2.bit) = (List.range k).map UInt8.ofNat
  byte : ∀ p ∈ g, p.2.byte = UInt16.ofNat b

/-- The open byte of the packing is the last item. -/
def Open (bitByte : Option (Nat × Nat)) (out : List Item) : Prop :=
  match bitByte with
  | some (b, k) => ∃ out' g, out = out' ++ [.bits g] ∧ Group b k g
  | none => ∀ g, out.getLast? ≠ some (.bits g)

/-- The items, against the state of the packing that placed their fields. -/
structure Agrees (n : UInt16) (tag : String) (s : Packing) (out : List Item) : Prop where
  places : readItems (out.map (Item.render n tag)) =
    (s.refs.zipIdx.map (devicePlace n tag), s.nextByte)
  indices : out.flatMap Item.indices = List.range s.refs.length
  groups : ∀ i ∈ out, i.GoodGroup
  opened : Open s.bitByte out

namespace Group

variable {b k : Nat} {g : List (Nat × FieldRef)}

lemma length (h : Group b k g) : g.length = k := by
  have := congrArg List.length h.bits
  simpa using this

lemma getLast (h : Group b k g) (hk : 1 ≤ k) :
    g.getLast?.map (·.2.byte) = some (UInt16.ofNat b) := by
  have hlen := h.length
  cases hg : g.getLast? with
  | none =>
    rw [List.getLast?_eq_none_iff.1 hg] at hlen
    simp at hlen
    omega
  | some p => exact congrArg some (h.byte p (List.mem_of_getLast? hg))

lemma single (i : Nat) (ty : FieldType) (b : Nat) :
    Group b 1 [(i, ⟨UInt16.ofNat b, 0, ty⟩)] := by
  refine ⟨rfl, fun p hp => ?_⟩
  rw [List.mem_singleton.1 hp]

lemma snoc (h : Group b k g) (i : Nat) (ty : FieldType) :
    Group b (k + 1) (g ++ [(i, ⟨UInt16.ofNat b, UInt8.ofNat k, ty⟩)]) := by
  constructor
  · simp [h.bits, List.range_succ]
  · intro p hp
    rcases List.mem_append.1 hp with hp | hp
    · exact h.byte p hp
    · rw [List.mem_singleton.1 hp]

lemma good (h : Group b k g) (hk : 1 ≤ k) (hk8 : k ≤ 8) : (Item.bits g).GoodGroup := by
  refine ⟨h.length ▸ hk, h.length ▸ hk8, ?_⟩
  rw [h.bits]
  refine List.Nodup.map_on (fun i hi j hj hij => ?_) List.nodup_range
  rw [List.mem_range] at hi hj
  have := congrArg UInt8.toNat hij
  rwa [Packing.toNat_ofNat_bit (by omega), Packing.toNat_ofNat_bit (by omega)] at this

end Group

lemma pushItem_bit {out : List Item} {g : List (Nat × FieldRef)} {f : FieldRef} {i : Nat}
    (hty : f.ty = .bool) (hbyte : g.getLast?.map (·.2.byte) = some f.byte) :
    pushItem (out ++ [.bits g]) (f, i) = out ++ [.bits (g ++ [(i, f)])] := by
  simp [pushItem, hty, hbyte]

lemma pushItem_newBit {out : List Item} {f : FieldRef} {i : Nat} (hty : f.ty = .bool)
    (hlast : ∀ g, out.getLast? = some (.bits g) → g.getLast?.map (·.2.byte) ≠ some f.byte) :
    pushItem out (f, i) = out ++ [.bits [(i, f)]] := by
  unfold pushItem
  simp only [hty]
  split
  · rename_i g hg
    rw [if_neg (hlast g hg)]
  · rfl

lemma pushItem_scalar {out : List Item} {f : FieldRef} {i : Nat} (hty : f.ty ≠ .bool) :
    pushItem out (f, i) = out ++ [.scalar f.ty i] := by
  unfold pushItem
  cases h : f.ty <;> simp_all

lemma byteLen_dataType {ty : FieldType} {n : Nat} (h : ty.byteLen = some n) :
    (dataType ty).byteLen = n := by
  cases ty <;> cases h <;> rfl

section Step

variable {n : UInt16} {tag : String} {s s' : Packing} {out : List Item} {ty : FieldType}

lemma devicePlaces_snoc (refs : List FieldRef) (f : FieldRef) :
    (refs ++ [f]).zipIdx.map (devicePlace n tag) =
      refs.zipIdx.map (devicePlace n tag) ++ [devicePlace n tag (f, refs.length)] := by
  simp [List.zipIdx_append]

/-- A field that begins an item of its own. -/
lemma Agrees.snoc (h : Agrees n tag s out) {f : FieldRef} {i : Item} {m : Nat}
    {bitByte : Option (Nat × Nat)}
    (hread : ∀ places, readItem (places, s.nextByte) (i.render n tag) =
      (places ++ [devicePlace n tag (f, s.refs.length)], m))
    (hi : i.indices = [s.refs.length]) (hgood : i.GoodGroup) (hopen : Open bitByte (out ++ [i])) :
    Agrees n tag ⟨s.refs ++ [f], m, bitByte⟩ (out ++ [i]) := by
  refine ⟨?_, ?_, fun j hj => ?_, hopen⟩
  · rw [List.map_append, List.map_singleton, readItems_snoc, h.places, hread, devicePlaces_snoc]
  · rw [List.flatMap_append, h.indices, List.flatMap_singleton, hi, List.length_append,
      List.length_singleton, List.range_succ]
  · rcases List.mem_append.1 hj with hj | hj
    · exact h.groups j hj
    · rw [List.mem_singleton.1 hj]
      exact hgood

/-- A bit that joins the group of its byte. -/
lemma Agrees.join {b k : Nat} {g : List (Nat × FieldRef)} {f : FieldRef}
    (h : Agrees n tag s (out ++ [.bits g])) (hb : b + 1 = s.nextByte) (hty : f.ty = .bool)
    (hbyte : f.byte.toNat = b) (hg : Group b (k + 1) (g ++ [(s.refs.length, f)])) (hk : k < 8) :
    Agrees n tag ⟨s.refs ++ [f], s.nextByte, some (b, k + 1)⟩
      (out ++ [.bits (g ++ [(s.refs.length, f)])]) := by
  rcases hout : readItems (out.map (Item.render n tag)) with ⟨places, start⟩
  have hplaces := h.places
  rw [List.map_append, List.map_singleton, readItems_snoc, hout] at hplaces
  obtain ⟨hold, hnext⟩ := Prod.mk.inj hplaces
  have hstart : start = b := by
    have : start + 1 = s.nextByte := hnext
    omega
  refine ⟨?_, ?_, fun j hj => ?_, ⟨out, _, rfl, hg⟩⟩
  · rw [List.map_append, List.map_singleton, readItems_snoc, hout, devicePlaces_snoc, ← hold]
    refine Prod.ext ?_ hnext
    simp [Item.render, readItem, devicePlace, hty, hbyte, hstart]
  · have hindices := h.indices
    rw [List.flatMap_append, List.flatMap_singleton] at hindices ⊢
    rw [List.length_append, List.length_singleton, List.range_succ, ← hindices, List.append_assoc]
    simp [Item.indices]
  · rcases List.mem_append.1 hj with hj | hj
    · exact h.groups j (List.mem_append_left _ hj)
    · rw [List.mem_singleton.1 hj]
      exact hg.good (by omega) (by omega)

/-- The last group is of another byte than the one that begins after it. -/
lemma Agrees.last_byte (h : Agrees n tag s out) (hbits : s.BitsOk) (hn : s.nextByte < 65535)
    {g : List (Nat × FieldRef)} (hg : out.getLast? = some (.bits g)) :
    g.getLast?.map (·.2.byte) ≠ some (UInt16.ofNat s.nextByte) := by
  have hopen := h.opened
  cases hb : s.bitByte with
  | none =>
    rw [hb] at hopen
    exact absurd hg (hopen g)
  | some p =>
    obtain ⟨b, k⟩ := p
    rw [hb] at hopen
    obtain ⟨out', g', rfl, hg'⟩ := hopen
    obtain ⟨hk, -, hbn⟩ := hbits b k hb
    rw [List.getLast?_concat] at hg
    cases hg
    rw [hg'.getLast hk]
    intro heq
    have := congrArg UInt16.toNat (Option.some.inj heq)
    rw [Packing.toNat_ofNat_byte (by omega), Packing.toNat_ofNat_byte (by omega)] at this
    omega

/-- One field more keeps the items in step with the packing. -/
lemma Agrees.push (h : Agrees n tag s out) (hbits : s.BitsOk) (hp : Packing.Pushed s ty s')
    (hn : s'.nextByte ≤ 65535) :
    ∃ f, s'.refs = s.refs ++ [f] ∧ Agrees n tag s' (pushItem out (f, s.refs.length)) := by
  cases hp with
  | @bit b k hty hb hk =>
    refine ⟨_, rfl, ?_⟩
    obtain ⟨hk1, -, hbn⟩ := hbits b k hb
    have hopen := h.opened
    rw [hb] at hopen
    obtain ⟨out', g, rfl, hg⟩ := hopen
    dsimp only at hn
    rw [pushItem_bit hty (hg.getLast hk1)]
    exact h.join hbn hty (Packing.toNat_ofNat_byte (by omega)) (hg.snoc s.refs.length ty) hk
  | newBit hty hb =>
    refine ⟨_, rfl, ?_⟩
    dsimp only at hn
    rw [pushItem_newBit hty fun g hg => h.last_byte hbits (by omega) hg]
    have hg := Group.single s.refs.length ty s.nextByte
    refine h.snoc (fun places => ?_) rfl (hg.good (le_refl _) (by omega)) ⟨out, _, rfl, hg⟩
    have hbyte := Packing.toNat_ofNat_byte (show s.nextByte < 65536 by omega)
    simp [Item.render, readItem, devicePlace, hty, hbyte, DataType.byteLen]
  | @bytes m hty =>
    refine ⟨_, rfl, ?_⟩
    have hpos : 0 < m := by
      cases ty <;> cases hty <;> decide
    have hbool : ty ≠ .bool := by
      rintro rfl
      cases hty
    dsimp only at hn
    rw [pushItem_scalar hbool]
    refine h.snoc (fun places => ?_) rfl trivial fun g hg => ?_
    · have hbyte := Packing.toNat_ofNat_byte (show s.nextByte < 65536 by omega)
      simp [Item.render, readItem, devicePlace, hbool, hbyte, byteLen_dataType hty]
    · rw [List.getLast?_concat] at hg
      cases hg

lemma packed_agrees {fields : List FieldType} (h : (packed fields).nextByte ≤ 65535) :
    Agrees n tag (packed fields) (items (packed fields).refs) := by
  induction fields using List.reverseRecOn with
  | nil => exact ⟨rfl, rfl, List.forall_mem_nil _, fun g hg => by cases hg⟩
  | append_singleton fields ty ih =>
    rw [packed_snoc] at h ⊢
    have hp := Packing.push_pushed (packed fields) ty
    obtain ⟨f, hrefs, hagrees⟩ := (ih (le_trans hp.nextByte_le h)).push (packed_bitsOk fields) hp h
    rwa [hrefs, items_snoc]

end Step

/-- **The GSDML file describes the layout of the device.** A reader that lays the data items of a
checked layout out one after the other finds every field at the byte and bit the device has for
it, in as many bytes; the items list every field once, in declaration order, and each group of
bits has one to eight members at different offsets. -/
theorem readItems_items {slot : UInt16} {fields : List FieldType} {refs : List FieldRef}
    {len : UInt16} (h : checkedLayout slot fields = .ok (refs, len)) (n : UInt16) (tag : String) :
    readItems ((items refs).map (Item.render n tag)) =
        (refs.zipIdx.map (devicePlace n tag), len.toNat) ∧
      (items refs).flatMap Item.indices = List.range fields.length ∧
      ∀ i ∈ items refs, i.GoodGroup := by
  obtain ⟨hle, rfl, rfl⟩ := checkedLayout_eq_ok.1 h
  have hbound : (packed fields).nextByte ≤ 65535 := le_trans hle (by decide)
  obtain ⟨hplaces, hindices, hgroups, -⟩ := packed_agrees (n := n) hbound
  have hlen : (packed fields).refs.length = fields.length := by
    have := congrArg List.length (packed_types fields)
    rwa [List.length_map] at this
  rw [Packing.toNat_ofNat_byte (by omega), ← hlen]
  exact ⟨hplaces, hindices, hgroups⟩

/-- Two bits, a word, a bit: the third field begins at byte 1 and the fourth at byte 3. -/
theorem readItems_mixed :
    readItems ((items (layout [.bool, .bool, .word, .bool]).1).map (Item.render 1 "In")) =
        ([⟨"M1_In0_b", 0, 0⟩, ⟨"M1_In1_b", 0, 1⟩, ⟨"M1_In2", 1, 0⟩, ⟨"M1_In3_b", 3, 0⟩], 4) ∧
      (items (layout [.bool, .bool, .word, .bool]).1).flatMap Item.indices = [0, 1, 2, 3] :=
  have h := @readItems_items 1 [.bool, .bool, .word, .bool] _ _ rfl 1 "In"
  ⟨h.1, h.2.1⟩

end Pnio
