import Pnio.CmSafe

/-!
The file behind the I&M store.

Every accepted record is persisted: the three bodies go to a temporary file beside the store file,
which is then renamed. Either step can fail, and the store does not care. What the file system does
is an outcome that is given from outside.
-/

namespace Pnio

/-! ### The records of the store -/

/-- The records an operator can write. -/
inductive ImKind where
  | im1
  | im2
  | im3
deriving DecidableEq, Repr

namespace ImKind

def index : ImKind → UInt16
  | im1 => 0xAFF1
  | im2 => 0xAFF2
  | im3 => 0xAFF3

def blockType : ImKind → UInt16
  | im1 => 0x0021
  | im2 => 0x0022
  | im3 => 0x0023

def len : ImKind → Nat
  | im1 => 54
  | im2 => 16
  | im3 => 54

def body (k : ImKind) (s : ImStore) : Bytes :=
  match k with
  | im1 => s.im1.bytes
  | im2 => s.im2.bytes
  | im3 => s.im3.bytes

/-- The canonical block around a body: its type, its length with the two bytes of the version, and
version 1.0. -/
def block (k : ImKind) (body : Bytes) : Bytes :=
  (match k with
    | im1 => [0x00, 0x21, 0x00, 0x38, 0x01, 0x00]
    | im2 => [0x00, 0x22, 0x00, 0x12, 0x01, 0x00]
    | im3 => [0x00, 0x23, 0x00, 0x38, 0x01, 0x00]) ++ body

lemma length_body (k : ImKind) (s : ImStore) : (k.body s).length = k.len := by
  cases k with
  | im1 => exact s.im1.len
  | im2 => exact s.im2.len
  | im3 => exact s.im3.len

/-- The body that a record with this kind's index carries, if its block is the right one. -/
def bodyOf (k : ImKind) (record : Bytes) : Option Bytes :=
  match BlockHeader.parse record with
  | .ok (header, body) =>
    if header.blockType = k.blockType ∧ body.length = k.len then some body else none
  | _ => none

lemma index_injective {k l : ImKind} (h : k.index = l.index) : k = l := by
  revert h
  cases k <;> cases l <;> decide

/-- The indices are the range that is checked. -/
lemma exists_index_iff {i : UInt16} :
    (∃ k : ImKind, i = k.index) ↔ indexIm1 ≤ i ∧ i ≤ indexIm3 := by
  have hi : ∀ i : UInt16, 0xAFF1 ≤ i ∧ i ≤ 0xAFF3 ↔ i = 0xAFF1 ∨ i = 0xAFF2 ∨ i = 0xAFF3 := by
    intro i
    simp only [UInt16.le_iff_toNat_le, ← UInt16.toNat_inj, UInt16.reduceToNat]
    omega
  rw [indexIm1, indexIm3, hi]
  constructor
  · rintro ⟨k, rfl⟩
    cases k <;> decide
  · rintro (rfl | rfl | rfl)
    · exact ⟨im1, rfl⟩
    · exact ⟨im2, rfl⟩
    · exact ⟨im3, rfl⟩

end ImKind

namespace ImStore

variable {ε : Type} {s s' : ImStore} {record : Bytes}

/-- The store with another body for one record. -/
def put (s : ImStore) (k : ImKind) (b : Octets k.len) : ImStore :=
  match k with
  | .im1 => { s with im1 := b }
  | .im2 => { s with im2 := b }
  | .im3 => { s with im3 := b }

lemma body_put (s : ImStore) (k l : ImKind) (b : Octets k.len) :
    l.body (s.put k b) = if l = k then b.bytes else l.body s := by
  cases k <;> cases l <;> rfl

lemma recordBody_eq (k : ImKind) (record : Bytes) :
    (recordBody k.index k.blockType k.len record).toOption.map (·.bytes) = k.bodyOf record := by
  unfold recordBody ImKind.bodyOf
  cases hp : BlockHeader.parse record with
  | panic p => rfl
  | err e => rfl
  | ok r =>
    obtain ⟨header, body⟩ := r
    simp only [Res.mapErr, Res.ok_bind]
    by_cases ht : header.blockType = k.blockType
    · by_cases hl : body.length = k.len
      · rw [Res.reject_of_not (not_not.2 ht), Res.ok_bind, Res.reject_of_not (not_not.2 hl),
          Res.ok_bind, Octets.copyFrom_of_length hl, if_pos ⟨ht, hl⟩]
        rfl
      · rw [Res.reject_of_not (not_not.2 ht), Res.ok_bind, if_neg fun h => hl h.2]
        simp [Res.reject, hl, Res.toOption]
    · rw [if_neg fun h => ht h.1]
      simp [Res.reject, ht, Res.toOption]

lemma write_eq (s : ImStore) (k : ImKind) (record : Bytes) :
    s.write k.index record =
      (recordBody k.index k.blockType k.len record >>= fun b => .ok (s.put k b)) := by
  cases k <;> rfl

/-- **A record is written if and only if its block fits**, and then it replaces that body alone. -/
lemma write_spec (s : ImStore) (k : ImKind) (record : Bytes) :
    (∃ e, s.write k.index record = .err e) ∧ k.bodyOf record = none ∨
      ∃ s' b, s.write k.index record = .ok s' ∧ k.bodyOf record = some b ∧
        ∀ l : ImKind, l.body s' = if l = k then b else l.body s := by
  rw [write_eq, ← recordBody_eq]
  cases hb : recordBody k.index k.blockType k.len record with
  | ok b => exact .inr ⟨s.put k b, b.bytes, rfl, rfl, fun l => body_put s k l b⟩
  | err e => exact .inl ⟨⟨e, rfl⟩, rfl⟩
  | panic p => exact absurd hb ((noPanic_recordBody _ _ _ _).ne_panic p)

/-- A store is its three bodies. -/
lemma ext_body (h : ∀ k : ImKind, k.body s = k.body s') : s = s' := by
  obtain ⟨⟨a1, h1⟩, ⟨a2, h2⟩, ⟨a3, h3⟩⟩ := s
  obtain ⟨⟨b1, g1⟩, ⟨b2, g2⟩, ⟨b3, g3⟩⟩ := s'
  obtain rfl : a1 = b1 := h .im1
  obtain rfl : a2 = b2 := h .im2
  obtain rfl : a3 = b3 := h .im3
  rfl

end ImStore

/-! ### The last record written -/

namespace ImKind

/-- The body that a record puts into the store: it has the index, addresses a submodule of the
model, and its block has the right type and length. -/
def writtenBy (k : ImKind) (model : DeviceModel) (r : Record) : Option Bytes :=
  if r.index = k.index ∧ (model.find r.slot r.subslot).isSome then k.bodyOf r.data else none

/-- The body of the last such record, or the one before. -/
def lastBody (k : ImKind) (model : DeviceModel) (records : List Record) (old : Bytes) : Bytes :=
  ((records.filterMap (k.writtenBy model)).getLast?).getD old

variable (k : ImKind) (model : DeviceModel)

lemma lastBody_append (rs rs' : List Record) (old : Bytes) :
    k.lastBody model (rs ++ rs') old = k.lastBody model rs' (k.lastBody model rs old) := by
  unfold lastBody
  rw [List.filterMap_append, List.getLast?_append]
  cases (rs'.filterMap (k.writtenBy model)).getLast? <;> rfl

lemma lastBody_cons (r : Record) (rs : List Record) (old : Bytes) :
    k.lastBody model (r :: rs) old = k.lastBody model rs ((k.writtenBy model r).getD old) := by
  have hone : k.lastBody model [r] old = (k.writtenBy model r).getD old := by
    unfold lastBody
    cases hw : k.writtenBy model r <;> simp [hw]
  rw [← hone, ← lastBody_append, List.singleton_append]

variable {k model} {r : Record}

lemma writtenBy_of_unknown (h : (model.find r.slot r.subslot).isNone) :
    k.writtenBy model r = none := by
  refine if_neg fun hw => ?_
  rw [Option.isNone_iff_eq_none.1 h] at hw
  exact absurd hw.2 (by simp)

lemma writtenBy_of_index (h : ¬ (indexIm1 ≤ r.index ∧ r.index ≤ indexIm3)) :
    k.writtenBy model r = none :=
  if_neg fun hw => h (exists_index_iff.1 ⟨k, hw.1⟩)

lemma writtenBy_of_known {l : ImKind} (hi : r.index = k.index)
    (h : ¬ (model.find r.slot r.subslot).isNone) :
    l.writtenBy model r = if l = k then k.bodyOf r.data else none := by
  have hsome : (model.find r.slot r.subslot).isSome = true := by
    cases hm : model.find r.slot r.subslot with
    | none => exact absurd (by rw [hm]; rfl) h
    | some m => rfl
  unfold writtenBy
  by_cases hl : l = k
  · rw [if_pos ⟨hl ▸ hi, hsome⟩, if_pos hl, hl]
  · rw [if_neg hl]
    exact if_neg fun hw => hl (index_injective (hw.1.symm.trans hi))

end ImKind

/-- **One record of an accepted Write**: it is written, or nothing changes. -/
lemma writeImRecord_spec {ε : Type} {r : Record} (model : DeviceModel) (im : ImStore)
    (hr : indexIm1 ≤ r.index ∧ r.index ≤ indexIm3) :
    ∃ s im', (writeImRecord r model im : Res ε _) = .ok (s, im') ∧
      ∀ k : ImKind, k.body im' = (k.writtenBy model r).getD (k.body im) := by
  obtain ⟨k, hk⟩ := ImKind.exists_index_iff.2 hr
  unfold writeImRecord
  by_cases hf : (model.find r.slot r.subslot).isNone
  · refine ⟨_, im, if_pos hf, fun l => ?_⟩
    rw [ImKind.writtenBy_of_unknown hf]
    rfl
  · simp only [ImKind.writtenBy_of_known hk hf]
    rw [if_neg hf, hk]
    rcases ImStore.write_spec im k r.data with ⟨⟨e, hw⟩, hb⟩ | ⟨s', b, hw, hb, hbody⟩
    · rw [hw, hb]
      exact ⟨_, im, rfl, fun l => by split_ifs <;> rfl⟩
    · rw [hw, hb]
      refine ⟨_, s', rfl, fun l => ?_⟩
      rw [hbody]
      split_ifs <;> rfl

/-- **All records of an accepted Write**: the last one that fits counts. -/
lemma writeImRecords_spec {ε : Type} (cm : Cm) (records : List Record) :
    ∃ im, (cm.writeImRecords records : Res ε _) = .ok im ∧
      ∀ k : ImKind, k.body im = k.lastBody cm.model records (k.body cm.im) := by
  unfold Cm.writeImRecords
  generalize cm.im = im
  induction records generalizing im with
  | nil => exact ⟨im, rfl, fun _ => rfl⟩
  | cons r records ih =>
    rw [List.foldlM_cons]
    simp only [ImKind.lastBody_cons]
    split_ifs with hr
    · obtain ⟨s, im1, hw, hbody⟩ := writeImRecord_spec (ε := ε) cm.model im hr
      obtain ⟨im2, hrest, hlast⟩ := ih im1
      rw [hw]
      refine ⟨im2, hrest, fun k => ?_⟩
      rw [hlast, hbody]
    · obtain ⟨im2, hrest, hlast⟩ := ih im
      refine ⟨im2, hrest, fun k => ?_⟩
      rw [hlast, ImKind.writtenBy_of_index hr]
      rfl

/-! ### Files -/

/-- A path: its components, from the root or not. -/
structure FsPath where
  rooted : Bool
  parts : List String
deriving DecidableEq, Repr

namespace FsPath

def parent (p : FsPath) : Option FsPath :=
  if p.parts = [] then none else some { p with parts := p.parts.dropLast }

def join (p : FsPath) (name : String) : FsPath := { p with parts := p.parts ++ [name] }

end FsPath

/-- The contents of the files there are. -/
abbrev Disk := FsPath → Option Bytes

namespace Disk

def set (d : Disk) (p : FsPath) (content : Option Bytes) : Disk :=
  fun q => if q = p then content else d q

def rename (d : Disk) (src dst : FsPath) : Disk :=
  fun q => if q = dst then d src else if q = src then none else d q

end Disk

/-- What the file system does with one `persist`: a write that fails leaves anything behind. -/
inductive FsOutcome where
  | done
  | writeFailed (left : Option Bytes)
  | renameFailed
deriving DecidableEq, Repr

/-- The store with its path and the disk; `outcomes` has one entry for every time it was
persisted. -/
structure ImFile where
  store : ImStore
  path : Option FsPath
  disk : Disk
  outcomes : List FsOutcome

def tmpName (pid : Nat) : String := ".im-" ++ toString pid ++ ".tmp"

namespace ImStore

/-- The three bodies back to back. -/
def bytes (s : ImStore) : Bytes := s.im1.bytes ++ s.im2.bytes ++ s.im3.bytes

/-- A missing file, and one of the wrong length, falls back to blank records. -/
def load (d : Disk) (path : Option FsPath) : ImStore :=
  match path with
  | none => new
  | some p =>
    match d p with
    | some data =>
      if h : data.length = im1Len + im2Len + im3Len then
        { im1 := ⟨data.take 54, by simp [h, im1Len, im2Len, im3Len]⟩
          im2 := ⟨(data.drop 54).take 16, by simp [h, im1Len, im2Len, im3Len]⟩
          im3 := ⟨(data.drop 70).take 54, by simp [h, im1Len, im2Len, im3Len]⟩ }
      else new
    | none => new

/-- What was persisted is what is loaded. -/
lemma load_bytes {s : ImStore} {d : Disk} {p : FsPath} (h : d p = some s.bytes) :
    load d (some p) = s := by
  have h1 := s.im1.len
  have h2 := s.im2.len
  have h3 := s.im3.len
  have hlen : s.bytes.length = im1Len + im2Len + im3Len := by
    simp [bytes, h1, h2, h3, im1Len, im2Len, im3Len]
  simp only [load, h, hlen, dite_true]
  obtain ⟨⟨b1, l1⟩, ⟨b2, l2⟩, ⟨b3, l3⟩⟩ := s
  simp only [bytes, List.append_assoc]
  congr 2
  · exact List.take_left' l1
  · rw [List.drop_left' l1, List.take_left' l2]
  · rw [← List.append_assoc, List.drop_left' (by simp [l1, l2]),
      List.take_of_length_le (le_of_eq l3)]

end ImStore

namespace ImFile

variable {ε : Type}

/-- The temporary file is beside the store file. -/
def tmpOf (pid : Nat) (path : FsPath) : FsPath :=
  (path.parent.getD ⟨false, ["."]⟩).join (tmpName pid)

def persist (pid : Nat) (f : ImFile) (o : FsOutcome) : ImFile :=
  match f.path with
  | none => f
  | some path =>
    let tmp := tmpOf pid path
    let disk :=
      match o with
      | .done => (f.disk.set tmp (some f.store.bytes)).rename tmp path
      | .writeFailed left => f.disk.set tmp left
      | .renameFailed => f.disk.set tmp (some f.store.bytes)
    { f with disk, outcomes := f.outcomes ++ [o] }

/-- A failed `persist` is logged, and the record is written nevertheless. -/
def write (pid : Nat) (f : ImFile) (index : UInt16) (record : Bytes) (o : FsOutcome) :
    Res ImError ImFile := do
  let store ← f.store.write index record
  .ok (persist pid { f with store } o)

/-- `write_im_record`, with the file. -/
def writeRecord (pid : Nat) (model : DeviceModel) (f : ImFile) (r : Record) (o : FsOutcome) :
    Res ε ImFile :=
  if (model.find r.slot r.subslot).isNone then .ok f
  else do
    match ← Res.attempt (f.write pid r.index r.data o) with
    | .ok f' => .ok f'
    | .error _ => .ok f

/-- The I&M records of an accepted Write, each with what the file system does if it is
persisted. -/
def writeRecords (pid : Nat) (model : DeviceModel) (f : ImFile) (rs : List (Record × FsOutcome)) :
    Res ε ImFile :=
  rs.foldlM (fun f (r : Record × FsOutcome) =>
    if indexIm1 ≤ r.1.index ∧ r.1.index ≤ indexIm3 then f.writeRecord pid model r.1 r.2
    else .ok f) f

variable {pid : Nat} {model : DeviceModel} {f f' : ImFile} {o : FsOutcome}

@[simp] lemma persist_store (pid : Nat) (f : ImFile) (o : FsOutcome) :
    (f.persist pid o).store = f.store := by
  unfold persist
  split <;> rfl

@[simp] lemma persist_path (pid : Nat) (f : ImFile) (o : FsOutcome) :
    (f.persist pid o).path = f.path := by
  unfold persist
  split <;> rfl

/-- The file holds the store if the last `persist` went through. -/
def Synced (f : ImFile) : Prop :=
  ∀ p, f.path = some p → f.outcomes.getLast? = some .done → ImStore.load f.disk (some p) = f.store

lemma persist_synced (pid : Nat) (f : ImFile) (o : FsOutcome) : (f.persist pid o).Synced := by
  intro p hp hlast
  rw [persist_path] at hp
  unfold persist at hlast ⊢
  simp only [hp, List.getLast?_append, List.getLast?_singleton, Option.some_or,
    Option.some.injEq] at hlast ⊢
  subst hlast
  refine ImStore.load_bytes ?_
  simp [Disk.rename, Disk.set]

/-- The file goes along with the store. -/
lemma writeRecord_spec {r : Record} (hr : indexIm1 ≤ r.index ∧ r.index ≤ indexIm3)
    (pid : Nat) (model : DeviceModel) (f : ImFile) (o : FsOutcome) :
    ∃ f', (f.writeRecord pid model r o : Res ε _) = .ok f' ∧ f'.path = f.path ∧
      (f.Synced → f'.Synced) ∧
      ∀ k : ImKind, k.body f'.store = (k.writtenBy model r).getD (k.body f.store) := by
  obtain ⟨k, hk⟩ := ImKind.exists_index_iff.2 hr
  unfold writeRecord write
  by_cases hf : (model.find r.slot r.subslot).isNone
  · refine ⟨f, if_pos hf, rfl, id, fun l => ?_⟩
    rw [ImKind.writtenBy_of_unknown hf]
    rfl
  · simp only [ImKind.writtenBy_of_known hk hf]
    rw [if_neg hf, hk]
    rcases ImStore.write_spec f.store k r.data with ⟨⟨e, hw⟩, hb⟩ | ⟨s', b, hw, hb, hbody⟩
    · rw [hw, hb]
      exact ⟨f, rfl, rfl, id, fun l => by split_ifs <;> rfl⟩
    · rw [hw, hb]
      refine ⟨_, rfl, persist_path .., fun _ => persist_synced _ _ _, fun l => ?_⟩
      rw [persist_store, hbody]
      split_ifs <;> rfl

lemma writeRecords_spec (pid : Nat) (model : DeviceModel) (f : ImFile)
    (rs : List (Record × FsOutcome)) :
    ∃ f', (f.writeRecords pid model rs : Res ε _) = .ok f' ∧ f'.path = f.path ∧
      (f.Synced → f'.Synced) ∧
      ∀ k : ImKind, k.body f'.store = k.lastBody model (rs.map (·.1)) (k.body f.store) := by
  unfold writeRecords
  induction rs generalizing f with
  | nil => exact ⟨f, rfl, rfl, id, fun _ => rfl⟩
  | cons r rs ih =>
    rw [List.foldlM_cons]
    simp only [List.map_cons, ImKind.lastBody_cons]
    split_ifs with hr
    · obtain ⟨f1, hw, hpath, hsync, hbody⟩ := writeRecord_spec (ε := ε) hr pid model f r.2
      obtain ⟨f2, hrest, hpath2, hsync2, hlast⟩ := ih f1
      rw [hw]
      refine ⟨f2, hrest, hpath2.trans hpath, hsync2 ∘ hsync, fun k => ?_⟩
      rw [hlast, hbody]
    · obtain ⟨f2, hrest, hpath2, hsync2, hlast⟩ := ih f
      refine ⟨f2, hrest, hpath2, hsync2, fun k => ?_⟩
      rw [hlast, ImKind.writtenBy_of_index hr]
      rfl

end ImFile

end Pnio
