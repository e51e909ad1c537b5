import Pnio.CmSafe
import Pnio.ConnectBlocks

/-!
Parameter writes on the wire: a stack of records is read back record by record, every record takes
its 64 header bytes at least, and the answer has one block for each of them.
-/

namespace Pnio

open Reader BlockReader

/-! ### What a controller writes -/

namespace Record

/-- The body of the `IODWriteReqHeader` of a record. -/
def headerBody (r : Record) : Bytes :=
  be16 r.seq ++ r.arUuid.write .big ++ be32 r.api ++ be16 r.slot ++ be16 r.subslot ++ be16 0 ++
  be16 r.index ++ be32 (UInt32.ofNat r.data.length) ++ List.replicate 24 0

/-- A record on the wire: its header of 64 bytes, with length 60, and its data. -/
def encode (r : Record) : Bytes :=
  be16 Ty.iodWriteReqHeader ++ be16 60 ++ [1, 0] ++ r.headerBody ++ r.data

/-- The length field of the record has room for the length of its data. -/
def Fits (r : Record) : Prop := r.data.length < 2 ^ 32

def padded (r : Record) : Bytes := r.encode ++ List.replicate ((4 - r.encode.length % 4) % 4) 0

end Record

/-- Records back to back, each padded to four bytes; the last one need not be. -/
inductive Stacked : List Record → Bytes → Prop
  | nil : Stacked [] []
  | last (r : Record) : Stacked [r] r.encode
  | cons (r : Record) {rs : List Record} {b : Bytes} (h : Stacked rs b) :
      Stacked (r :: rs) (r.padded ++ b)

/-! ### Reading a record -/

section One

variable {r : Record}

lemma Record.length_headerBody (r : Record) : r.headerBody.length = 58 := by
  simp [headerBody, Uuid.length_write]

lemma Record.length_encode (r : Record) : r.encode.length = 64 + r.data.length := by
  simp [encode, length_headerBody]
  omega

lemma Record.length_padded (r : Record) : r.padded.length % 4 = 0 := by
  rw [padded, List.length_append, List.length_replicate]
  omega

/-- The value of the header of a record. -/
lemma Record.reads_headerBody (r : Record) :
    Reads (do
      let seq ← u16
      let arUuid ← uuid
      let api ← u32
      let slot ← u16
      let subslot ← u16
      let _pad ← u16
      let index ← u16
      let recordDataLength ← u32
      let _padding ← bytes 24
      pure (({ seq, arUuid, api, slot, subslot, index, data := [] } : Record),
        recordDataLength.toNat)) r.headerBody
      ({ r with data := [] }, (UInt32.ofNat r.data.length).toNat) := by
  simp only [headerBody, List.append_assoc]
  refine (reads_u16 _).bind ((reads_uuid _).bind ((reads_u32 _).bind ((reads_u16 _).bind ?_)))
  refine (reads_u16 _).bind ((reads_u16 _).bind ((reads_u16 _).bind ((reads_u32 _).bind ?_)))
  exact (Reads.bytes (List.length_replicate ..)).map

lemma parseOne_encode (h : r.Fits) (rest : Bytes) :
    WriteReq.parseOne (r.encode ++ rest) = .ok (r, r.encode.length) := by
  have hlen : (UInt32.ofNat r.data.length).toNat = r.data.length := by
    rw [UInt32.toNat_ofNat']
    exact Nat.mod_eq_of_lt h
  have hwrite : (BlockHeader.write Ty.iodWriteReqHeader 58 : Res Unit _) =
      .ok (be16 Ty.iodWriteReqHeader ++ be16 60 ++ [1, 0]) := rfl
  have hbody : r.headerBody.length = (58 : UInt16).toNat := r.length_headerBody
  have hsplit : r.encode ++ rest =
      be16 Ty.iodWriteReqHeader ++ be16 60 ++ [1, 0] ++ r.headerBody ++ (r.data ++ rest) := by
    simp [Record.encode]
  have hheader := BlockHeader.parse_write hwrite hbody (r.data ++ rest)
  have hdata : (slice (r.encode ++ rest) 64 (64 + r.data.length) : Res BlockError _) =
      .ok r.data := by
    rw [hsplit]
    exact slice_append_mid (by simp [r.length_headerBody]) rfl
  have hend : BlockHeader.hdrLen + r.headerBody.length = 64 := by
    rw [r.length_headerBody, BlockHeader.hdrLen]
  rw [WriteReq.parseOne, hsplit, hheader, ← hsplit, Res.ok_bind]
  dsimp only
  rw [Res.reject_of_not (by simp), Res.ok_bind, r.reads_headerBody.runOn, Res.ok_bind]
  dsimp only
  rw [hlen, hend, Res.reject_of_not (by rw [List.length_append, r.length_encode]; omega),
    Res.ok_bind, hdata, Res.ok_bind, r.length_encode]

end One

/-! ### Reading a stack -/

section Stack

variable {r : Record} {rs : List Record} {done b : Bytes}

/-- Behind the last record. -/
lemma parseNested_end {data : Bytes} {pos : Nat} (h : data.length ≤ pos) (fuel : Nat) :
    WriteReq.parseNested data fuel pos = .ok [] := by
  cases fuel <;> rw [WriteReq.parseNested, if_neg (not_lt.2 h)]

/-- One round of the loop. -/
lemma parseNested_encode (h : r.Fits) (done rest : Bytes) (fuel : Nat) :
    WriteReq.parseNested (done ++ (r.encode ++ rest)) (fuel + 1) done.length =
      (WriteReq.parseNested (done ++ (r.encode ++ rest)) fuel
        ((done.length + r.encode.length + 3) / 4 * 4) >>= fun rs => .ok (r :: rs)) := by
  have hlt : done.length < (done ++ (r.encode ++ rest)).length := by
    rw [List.length_append, List.length_append, r.length_encode]
    omega
  rw [WriteReq.parseNested, if_pos hlt, List.drop_left, parseOne_encode h, Res.ok_bind]

/-- The loop reads the rest of a stack, from behind what it has read, with enough rounds left. -/
lemma parseNested_stacked (h : Stacked rs b) (hfit : ∀ r ∈ rs, r.Fits)
    (hdone : done.length % 4 = 0) {fuel : Nat} (hfuel : b.length ≤ fuel) :
    WriteReq.parseNested (done ++ b) fuel done.length = .ok rs := by
  induction h generalizing done fuel with
  | nil => exact parseNested_end (by simp) fuel
  | last r =>
    have hlen := r.length_encode
    obtain ⟨fuel, rfl⟩ : ∃ k, fuel = k + 1 := ⟨fuel - 1, by omega⟩
    have hround := parseNested_encode (hfit r (List.mem_singleton.2 rfl)) done [] fuel
    rw [List.append_nil] at hround
    rw [hround, parseNested_end (by rw [List.length_append]; omega), Res.ok_bind]
  | @cons r rs b _ ih =>
    rw [List.forall_mem_cons] at hfit
    have hlen := r.length_encode
    have hpad := r.length_padded
    rw [List.length_append] at hfuel
    have hpadded : r.padded.length = (r.encode.length + 3) / 4 * 4 := by
      rw [Record.padded, List.length_append, List.length_replicate]
      omega
    obtain ⟨fuel, rfl⟩ : ∃ k, fuel = k + 1 := ⟨fuel - 1, by omega⟩
    have hround := parseNested_encode hfit.1 done
      (List.replicate ((4 - r.encode.length % 4) % 4) 0 ++ b) fuel
    -- The next round begins behind the padding.
    have hnext : (done.length + r.encode.length + 3) / 4 * 4 = (done ++ r.padded).length := by
      rw [List.length_append, hpadded]
      omega
    have hsplit : done ++ (r.encode ++ (List.replicate ((4 - r.encode.length % 4) % 4) 0 ++ b)) =
        done ++ r.padded ++ b := by
      simp [Record.padded]
    rw [hsplit, hnext, ih hfit.2 (by rw [List.length_append]; omega) (by omega), Res.ok_bind]
      at hround
    rw [← List.append_assoc, hround]

lemma fits_of_sum {rs : List Record} (h : (rs.map (·.data.length)).sum < 65536) :
    ∀ r ∈ rs, r.Fits := by
  intro r hr
  have hle := List.le_sum_of_mem (List.mem_map_of_mem (f := fun r : Record => r.data.length) hr)
  unfold Record.Fits
  omega

/-- **A stack of records is taken apart record by record.** -/
lemma parse_stacked {outer : Record} (hindex : outer.index = indexMultipleWrite)
    (hsum : (rs.map (·.data.length)).sum < 65536) (hstack : Stacked rs outer.data)
    {blocks : Bytes} {n : Nat} (hread : WriteReq.parseOne blocks = .ok (outer, n)) :
    WriteReq.parse blocks = .ok ⟨outer :: rs⟩ := by
  have hnested : WriteReq.parseNested ([] ++ outer.data) outer.data.length 0 = .ok rs :=
    parseNested_stacked hstack (fits_of_sum hsum) rfl (le_refl _)
  rw [List.nil_append] at hnested
  rw [WriteReq.parse, hread, Res.mapErr_ok, Res.ok_bind]
  dsimp only
  rw [if_pos hindex, hnested, Res.mapErr_ok, Res.ok_bind]

end Stack

/-! ### The length of a record -/

namespace BlockReader

lemma takes_u16 : Takes u16 2 := (Takes.bytes _ 2).map

lemma takes_u32 : Takes u32 4 := (Takes.bytes _ 4).map

lemma takes_uuid : Takes uuid 16 := by
  have htake : Takes uuid (16 + (0 + 0)) := by
    refine Takes.bind (Takes.bytes _ 16) fun b => Takes.bind (Takes.lift _) fun o => ?_
    cases o with
    | none => exact Takes.lift _
    | some u => exact Takes.pure u
  exact htake

end BlockReader

lemma parseOne_consumed {buf : Bytes} {r : Record} {n : Nat}
    (h : WriteReq.parseOne buf = .ok (r, n)) : 64 ≤ n ∧ n ≤ buf.length := by
  unfold WriteReq.parseOne at h
  obtain ⟨⟨hd, body⟩, -, h⟩ := Res.bind_eq_ok.1 h
  obtain ⟨_, -, h⟩ := Res.bind_eq_ok.1 h
  obtain ⟨q, hq, h⟩ := Res.bind_eq_ok.1 h
  obtain ⟨_, hend, h⟩ := Res.bind_eq_ok.1 h
  obtain ⟨data, -, h⟩ := Res.bind_eq_ok.1 h
  cases h
  rw [Res.reject_eq_ok, not_lt] at hend
  refine ⟨?_, hend⟩
  have hbody := Takes.le_length (takes_u16.bind fun _ => takes_uuid.bind fun _ =>
    takes_u32.bind fun _ => takes_u16.bind fun _ => takes_u16.bind fun _ =>
    takes_u16.bind fun _ => takes_u16.bind fun _ => takes_u32.bind fun _ =>
    (Takes.bytes _ 24).map) hq
  simp only [BlockHeader.hdrLen]
  omega

/-- As many rounds as there are 64 bytes are enough, whatever the bytes are. -/
lemma parseNested_rounds {data : Bytes} {pos : Nat} {fuel fuel' : Nat}
    (h : data.length ≤ pos + 64 * fuel) (h' : data.length ≤ pos + 64 * fuel') :
    WriteReq.parseNested data fuel pos = WriteReq.parseNested data fuel' pos := by
  induction fuel generalizing pos fuel' with
  | zero =>
    rw [parseNested_end (by omega), parseNested_end (by omega)]
  | succ fuel ih =>
    by_cases hpos : pos < data.length
    · obtain ⟨fuel', rfl⟩ : ∃ k, fuel' = k + 1 := ⟨fuel' - 1, by omega⟩
      rw [WriteReq.parseNested, WriteReq.parseNested, if_pos hpos, if_pos hpos]
      cases hone : WriteReq.parseOne (data.drop pos) with
      | ok q =>
        obtain ⟨r, n⟩ := q
        have hn := (parseOne_consumed hone).1
        rw [Res.ok_bind, Res.ok_bind]
        dsimp only
        have hrest : WriteReq.parseNested data fuel ((pos + n + 3) / 4 * 4) =
            WriteReq.parseNested data fuel' ((pos + n + 3) / 4 * 4) := ih (by omega) (by omega)
        rw [hrest]
      | err e => rfl
      | panic k => rfl
    · rw [parseNested_end (not_lt.1 hpos), parseNested_end (not_lt.1 hpos)]

/-- The records of a stack take 64 bytes each. -/
lemma length_of_parseNested {data : Bytes} {fuel pos : Nat} {rs : List Record}
    (h : WriteReq.parseNested data fuel pos = .ok rs) (hne : rs ≠ []) :
    pos + 64 * rs.length ≤ data.length := by
  induction fuel generalizing pos rs with
  | zero =>
    rw [WriteReq.parseNested] at h
    split_ifs at h
    cases h
    exact absurd rfl hne
  | succ fuel ih =>
    rw [WriteReq.parseNested] at h
    split_ifs at h with hpos
    · obtain ⟨⟨r, n⟩, hone, h⟩ := Res.bind_eq_ok.1 h
      obtain ⟨rest, hrest, h⟩ := Res.bind_eq_ok.1 h
      cases h
      obtain ⟨hlo, hhi⟩ := parseOne_consumed hone
      rw [List.length_drop] at hhi
      rw [List.length_cons]
      by_cases hnil : rest = []
      · rw [hnil, List.length_nil]
        omega
      · have := ih hrest hnil
        omega
    · cases h
      exact absurd rfl hne

lemma parse_consumed {blocks : Bytes} {outer : Record} {rs : List Record}
    (h : WriteReq.parse blocks = .ok ⟨outer :: rs⟩) : 64 * rs.length ≤ outer.data.length := by
  unfold WriteReq.parse at h
  obtain ⟨⟨outer', n⟩, -, h⟩ := Res.bind_eq_ok.1 h
  dsimp only at h
  split_ifs at h
  · obtain ⟨nested, hnested, h⟩ := Res.bind_eq_ok.1 h
    cases h
    by_cases hnil : rs = []
    · rw [hnil]
      exact Nat.zero_le _
    · have := length_of_parseNested (Res.mapErr_eq_ok.1 hnested) hnil
      omega
  · cases h
    exact Nat.zero_le _

/-! ### The answer -/

/-- The answer to a record: a block of 64 bytes with the numbers of the record. -/
structure EchoesRecord (r : Record) (b : Bytes) : Prop where
  length : b.length = 64
  block : ∃ body, BlockHeader.parse b = .ok (⟨Ty.iodWriteResHeader, 60, 1, 0⟩, body)
  seq : half b 6 = some r.seq
  arUuid : (slice b 8 24 : Res Unit _) = .ok (r.arUuid.write .big)
  api : (u32At b 24 : Res Unit _) = .ok r.api
  slot : half b 28 = some r.slot
  subslot : half b 30 = some r.subslot
  index : half b 34 = some r.index

def echoBody (r : Record) : Bytes :=
  be16 r.seq ++ r.arUuid.write .big ++ be32 r.api ++ be16 r.slot ++ be16 r.subslot ++ be16 0 ++
  be16 r.index ++ be32 0 ++ be16 0 ++ be16 0 ++ be32 0 ++ List.replicate 16 0

/-- The block `writeResRecord` writes. -/
def echo (r : Record) : Bytes :=
  be16 Ty.iodWriteResHeader ++ be16 60 ++ [1, 0] ++ echoBody r

lemma length_echoBody (r : Record) : (echoBody r).length = 58 := by
  simp [echoBody, Uuid.length_write]

lemma length_echo (r : Record) : (echo r).length = 64 := by
  simp [echo, length_echoBody]

lemma writeResRecord_eq {ε : Type} (r : Record) :
    (writeResRecord r : Res ε _) = .ok (echo r) := by
  simp only [echo, echoBody, ← List.append_assoc]
  rfl

lemma echo_echoes (r : Record) : EchoesRecord r (echo r) := by
  have huuid := Uuid.length_write r.arUuid .big
  have hu16 : ∀ {o : Nat} {v : UInt16}, (u16At (echo r) o : Res Unit _) = .ok v →
      half (echo r) o = some v := u16At_eq_ok.1
  refine ⟨length_echo r, ?_, hu16 ?_, ?_, ?_, hu16 ?_, hu16 ?_, hu16 ?_⟩
  · have hwrite : (BlockHeader.write Ty.iodWriteResHeader 58 : Res Unit _) =
        .ok (be16 Ty.iodWriteResHeader ++ be16 60 ++ [1, 0]) := rfl
    have hparse := BlockHeader.parse_write hwrite (length_echoBody r) []
    rw [List.append_nil] at hparse
    exact ⟨_, hparse⟩
  · simp (disch := simp) [echo, echoBody, u16At_append_right]
  · simp (disch := simp [huuid]) [echo, echoBody, slice_append_right, slice_append_left]
  · simp (disch := simp [huuid]) [echo, echoBody, u32At_append_right, huuid]
  · simp (disch := simp [huuid]) [echo, echoBody, u16At_append_right, huuid]
  · simp (disch := simp [huuid]) [echo, echoBody, u16At_append_right, huuid]
  · simp (disch := simp [huuid]) [echo, echoBody, u16At_append_right, huuid]

lemma buildWriteRes_eq {ε : Type} (req : WriteReq) :
    (buildWriteRes req : Res ε _) = .ok (req.records.map echo).flatten := by
  rw [buildWriteRes, Res.mapM_eq_map fun r _ => writeResRecord_eq r, Res.ok_bind]

/-! ### The law -/

/-- What holds of the parameter writes on the wire. -/
structure WriteLaw : Prop where
  /-- A record is read from its encoding, whatever stands behind it. -/
  encoded : ∀ r : Record, r.Fits → ∀ rest,
    WriteReq.parseOne (r.encode ++ rest) = .ok (r, r.encode.length)
  /-- Where a MultipleWrite is read, the records that are stacked in its data follow it. -/
  stacked : ∀ (outer : Record) (nested : List Record), outer.index = indexMultipleWrite →
    (nested.map (·.data.length)).sum < 65536 → Stacked nested outer.data →
      ∀ blocks n, WriteReq.parseOne blocks = .ok (outer, n) →
        WriteReq.parse blocks = .ok ⟨outer :: nested⟩
  returns : ∀ blocks, (WriteReq.parse blocks).NoPanic
  /-- The loop over a stack makes no more rounds than there are 64 bytes. -/
  rounds : ∀ (data : Bytes) (fuel : Nat), data.length ≤ 64 * fuel →
    WriteReq.parseNested data fuel 0 = WriteReq.parseNested data data.length 0
  consumed : ∀ buf r n, WriteReq.parseOne buf = .ok (r, n) → 64 ≤ n ∧ n ≤ buf.length
  nested : ∀ blocks outer nested, WriteReq.parse blocks = .ok ⟨outer :: nested⟩ →
    64 * nested.length ≤ outer.data.length
  /-- The answer has a block for each record, in order. -/
  answered : ∀ blocks req, WriteReq.parse blocks = .ok req →
    ∃ bs, (buildWriteRes req : Res CmError _) = .ok bs.flatten ∧
      List.Forall₂ EchoesRecord req.records bs

/-- **Parameter writes on the wire**: a stack of records is read back, the parser ends on every
input, and every record is echoed in a block of 64 bytes. -/
theorem writes_on_wire : WriteLaw where
  encoded _ h rest := parseOne_encode h rest
  stacked _ _ hindex hsum hstack _ _ hread := parse_stacked hindex hsum hstack hread
  returns blocks := WriteReq.noPanic_parse blocks
  rounds _ _ h := parseNested_rounds (by omega) (by omega)
  consumed _ _ _ h := parseOne_consumed h
  nested _ _ _ h := parse_consumed h
  answered blocks req _ := by
    refine ⟨req.records.map echo, buildWriteRes_eq req, ?_⟩
    exact List.forall₂_map_right_iff.2 (List.forall₂_same.2 fun r _ => echo_echoes r)

namespace WriteDemo

/-- A record of three bytes, which is padded, and one of a single byte. -/
def three : Record :=
  { seq := 1, arUuid := Uuid.nil, api := 0, slot := 1, subslot := 1, index := 0x10,
    data := [1, 2, 3] }

def one : Record :=
  { seq := 2, arUuid := Uuid.nil, api := 0, slot := 2, subslot := 1, index := 0x11, data := [4] }

/-- Both in one MultipleWrite. -/
def outer : Record :=
  { seq := 0, arUuid := Uuid.nil, api := 0, slot := 0xFFFF, subslot := 0xFFFF, index := 0xE040,
    data := three.padded ++ one.encode }

end WriteDemo

open WriteDemo in
/-- Two records, the first one padded, are read back from the bytes of a MultipleWrite. -/
theorem writes_on_wire_two :
    three.padded = three.encode ++ [0] ∧ outer.encode.length = 64 + (68 + 65) ∧
      WriteReq.parse outer.encode = .ok ⟨[outer, three, one]⟩ := by
  have hfits : outer.Fits := show outer.data.length < 2 ^ 32 by decide +kernel
  have hread := writes_on_wire.encoded outer hfits []
  rw [List.append_nil] at hread
  refine ⟨by decide +kernel, by decide +kernel, ?_⟩
  exact writes_on_wire.stacked outer [three, one] rfl (by decide) (.cons three (.last one)) _ _
    hread

end Pnio
