import Pnio.ImRun

/-!
The I&M records across restarts.

A station has one life after the other: each begins with `load` and ends at any moment, also in the
middle of a `persist`. What the store is there for is said by a machine with two copies of the
records, one that a life works on and one that survives it. The station with its files behaves
like that machine.
-/

namespace Pnio

/-! ### What survives -/

/-- The records a life works on, and those the next life begins with. -/
structure DurableIm where
  volatile : Option ImStore
  stable : ImStore

inductive ImEvent where
  | up
  | record (r : Record) (o : FsOutcome)
  | down

namespace DurableIm

variable (model : DeviceModel)

/-- A record that is written and persisted takes along what was written before it. -/
def record (d : DurableIm) (r : Record) (o : FsOutcome) : DurableIm :=
  match d.volatile with
  | none => d
  | some s =>
    if (indexIm1 ≤ r.index ∧ r.index ≤ indexIm3) ∧ ¬ (model.find r.slot r.subslot).isNone then
      match s.write r.index r.data with
      | .ok s' => ⟨some s', if o = .done then s' else d.stable⟩
      | _ => d
    else d

def on (d : DurableIm) : ImEvent → DurableIm
  | .up => { d with volatile := some d.stable }
  | .record r o => d.record model r o
  | .down => { d with volatile := none }

/-- The machine after the events of a log. -/
def after (stable : ImStore) (log : List ImEvent) : DurableIm := log.foldl (on model) ⟨none, stable⟩

variable {model} {stable : ImStore}

lemma after_append (log more : List ImEvent) :
    after model stable (log ++ more) = more.foldl (on model) (after model stable log) :=
  List.foldl_append

lemma after_snoc (log : List ImEvent) (e : ImEvent) :
    after model stable (log ++ [e]) = (after model stable log).on model e := by
  rw [after_append]
  rfl

/-- A record is written, or nothing changes. -/
lemma record_cases (model : DeviceModel) (d : DurableIm) (r : Record) (o : FsOutcome) :
    d.record model r o = d ∨
      ∃ s, d.record model r o = ⟨some s, if o = .done then s else d.stable⟩ := by
  unfold record
  cases d.volatile with
  | none => exact .inl rfl
  | some s =>
    dsimp only
    by_cases hr : (indexIm1 ≤ r.index ∧ r.index ≤ indexIm3) ∧
        ¬ (model.find r.slot r.subslot).isNone
    · rw [if_pos hr]
      cases s.write r.index r.data with
      | ok s' => exact .inr ⟨s', rfl⟩
      | err e => exact .inl rfl
      | panic p => exact .inl rfl
    · exact .inl (if_neg hr)

/-- What survives is never a mixture: some life had these records, or they were there before. -/
lemma stable_was_whole (log : List ImEvent) :
    (after model stable log).stable = stable ∨
      ∃ earlier, earlier <+: log ∧
        (after model stable earlier).volatile = some (after model stable log).stable := by
  induction log using List.reverseRecOn with
  | nil => exact .inl rfl
  | append_singleton log e ih =>
    -- either the last event makes the surviving records, or they are the ones before it
    have hsame : (after model stable (log ++ [e])).stable = (after model stable log).stable ∨
        (after model stable (log ++ [e])).volatile =
          some (after model stable (log ++ [e])).stable := by
      rw [after_snoc]
      cases e with
      | up => exact .inl rfl
      | down => exact .inl rfl
      | record r o =>
        rcases record_cases model (after model stable log) r o with h | ⟨s, h⟩
        · exact .inl (congrArg DurableIm.stable h)
        · rw [on, h]
          by_cases ho : o = .done
          · exact .inr (congrArg some (if_pos ho).symm)
          · exact .inl (if_neg ho)
    rcases hsame with hsame | hnew
    · rw [hsame]
      rcases ih with ih | ⟨earlier, hpre, ih⟩
      · exact .inl ih
      · exact .inr ⟨earlier, hpre.trans (List.prefix_append _ _), ih⟩
    · exact .inr ⟨_, List.prefix_rfl, hnew⟩

end DurableIm

/-! ### The station -/

/-- The files, the process with its manager, and what has happened to the store. -/
structure ImStation where
  disk : Disk
  life : Option (Nat × Cm)
  log : List ImEvent

inductive ImAct where
  | boot (pid : Nat) (seed : Uuid) (im0 : Im0)
  /-- A call of the manager, with what the file system does when its records are persisted. -/
  | input (i : CmInput) (outcomes : Nat → FsOutcome)
  /-- The process ends in the middle of a call, after `n` of its records; the last of them may have
  been under way. -/
  | killed (i : CmInput) (outcomes : Nat → FsOutcome) (n : Nat)
  /-- Other programs leave the file of the store alone. -/
  | other (p : FsPath) (content : Option Bytes)

/-- The records that a call passes to the store, with what becomes of each. -/
def Cm.persists (cm : Cm) (i : CmInput) (outcomes : Nat → FsOutcome) : List (Record × FsOutcome) :=
  (cm.imWrites i).zipIdx.map fun w => (w.1, outcomes w.2)

def ImEvent.ofWrite (w : Record × FsOutcome) : ImEvent := .record w.1 w.2

def imStationSystem (model : DeviceModel) (path : FsPath) : System ImStation ImAct where
  init s := s.life = none ∧ s.log = []
  step s
    | .boot pid seed im0 =>
      if s.life.isSome then none
      else
        let cm := { Cm.new model seed with im0, im := ImStore.load s.disk (some path) }
        some ⟨s.disk, some (pid, cm), s.log ++ [.up]⟩
    | .input i outcomes => do
      let (pid, cm) ← s.life
      let (cm', _) ← cm.step i
      let writes := cm.persists i outcomes
      let file ← (ImFile.writeRecords pid cm.model ⟨cm.im, some path, s.disk, []⟩ writes :
        Res Empty _).toOption
      some ⟨file.disk, some (pid, cm'), s.log ++ writes.map .ofWrite⟩
    | .killed i outcomes n => do
      let (pid, cm) ← s.life
      let writes := (cm.persists i outcomes).take n
      let file ← (ImFile.writeRecords pid cm.model ⟨cm.im, some path, s.disk, []⟩ writes :
        Res Empty _).toOption
      some ⟨file.disk, none, s.log ++ writes.map .ofWrite ++ [.down]⟩
    | .other p content => if p = path then none else some { s with disk := s.disk.set p content }

/-! ### Files that mirror the machine -/

lemma ImStore.load_congr {d d' : Disk} {p : FsPath} (h : d' p = d p) :
    ImStore.load d' (some p) = ImStore.load d (some p) := by
  simp only [load, h]

/-- The file of a life, against the machine. -/
structure ImFile.Mirrors (f : ImFile) (path : FsPath) (d : DurableIm) : Prop where
  file : f.path = some path
  volatile : d.volatile = some f.store
  stable : ImStore.load f.disk (some path) = d.stable

namespace ImFile

variable {ε : Type} {pid : Nat} {f : ImFile} {path : FsPath} {d : DurableIm}

/-- Only a rename touches the file of the store. -/
lemma load_persist (htmp : tmpOf pid path ≠ path) (hp : f.path = some path) (o : FsOutcome) :
    ImStore.load (f.persist pid o).disk (some path) =
      if o = .done then f.store else ImStore.load f.disk (some path) := by
  unfold persist
  rw [hp]
  cases o with
  | done =>
    rw [if_pos rfl]
    refine ImStore.load_bytes ?_
    simp [Disk.rename, Disk.set]
  | writeFailed left =>
    rw [if_neg (by simp)]
    exact ImStore.load_congr (if_neg (Ne.symm htmp))
  | renameFailed =>
    rw [if_neg (by simp)]
    exact ImStore.load_congr (if_neg (Ne.symm htmp))

lemma Mirrors.writeRecord (h : f.Mirrors path d) (htmp : tmpOf pid path ≠ path)
    (model : DeviceModel) {r : Record} (hr : indexIm1 ≤ r.index ∧ r.index ≤ indexIm3)
    (o : FsOutcome) :
    ∃ f', (f.writeRecord pid model r o : Res ε _) = .ok f' ∧
      f'.Mirrors path (d.record model r o) := by
  unfold ImFile.writeRecord DurableIm.record
  rw [h.volatile]
  dsimp only
  by_cases hf : (model.find r.slot r.subslot).isNone
  · rw [if_pos hf, if_neg fun hc => hc.2 hf]
    exact ⟨f, rfl, h⟩
  · rw [if_neg hf, if_pos ⟨hr, hf⟩]
    obtain ⟨k, hk⟩ := ImKind.exists_index_iff.2 hr
    rw [hk]
    rcases ImStore.write_spec f.store k r.data with ⟨⟨e, hw⟩, -⟩ | ⟨s', b, hw, -, -⟩
    · rw [write, hw]
      exact ⟨f, rfl, h⟩
    · rw [write, hw]
      have hload := load_persist (f := { f with store := s' }) htmp h.file o
      refine ⟨_, rfl, ?_, ?_, ?_⟩
      · rw [persist_path]
        exact h.file
      · rw [persist_store]
      · rw [hload, h.stable]

/-- The records of a call, one after the other. -/
lemma Mirrors.writeRecords (h : f.Mirrors path d) (htmp : tmpOf pid path ≠ path)
    (model : DeviceModel) (rs : List (Record × FsOutcome)) :
    ∃ f', (f.writeRecords pid model rs : Res ε _) = .ok f' ∧
      f'.Mirrors path ((rs.map .ofWrite).foldl (DurableIm.on model) d) := by
  unfold ImFile.writeRecords
  induction rs generalizing f d with
  | nil => exact ⟨f, rfl, h⟩
  | cons r rs ih =>
    rw [List.foldlM_cons]
    by_cases hr : indexIm1 ≤ r.1.index ∧ r.1.index ≤ indexIm3
    · obtain ⟨f1, hw, h1⟩ := h.writeRecord (ε := ε) htmp model hr r.2
      rw [if_pos hr, hw]
      exact ih h1
    · have hsame : d.on model (.ofWrite r) = d := by
        simp only [DurableIm.on, ImEvent.ofWrite, DurableIm.record, h.volatile, hr, false_and,
          if_false]
      rw [if_neg hr, List.map_cons, List.foldl_cons, hsame]
      exact ih h

end ImFile

/-! ### Every life -/

/-- The station, against the machine. -/
structure ImStation.Ok (model : DeviceModel) (path : FsPath) (d : DurableIm) (s : ImStation) :
    Prop where
  stable : ImStore.load s.disk (some path) = d.stable
  volatile : s.life.map (·.2.im) = d.volatile
  sameModel : ∀ pid cm, s.life = some (pid, cm) → cm.model = model

section Station

variable {model : DeviceModel} {path : FsPath} {stable : ImStore} {s s' : ImStation} {pid : Nat}
  {cm : Cm}

lemma ImStation.Ok.mirrors {d : DurableIm} (h : s.Ok model path d) (hl : s.life = some (pid, cm)) :
    ImFile.Mirrors ⟨cm.im, some path, s.disk, []⟩ path d := by
  have hv := h.volatile
  rw [hl] at hv
  exact ⟨rfl, hv.symm, h.stable⟩

/-- The manager and the file are written alike. -/
lemma store_eq_im {i : CmInput} {outcomes : Nat → FsOutcome} {cm' : Cm} {out : CmOutput}
    {file : ImFile} {disk : Disk} (hstep : cm.step i = some (cm', out))
    (hf : (ImFile.writeRecords pid cm.model ⟨cm.im, some path, disk, []⟩
      (cm.persists i outcomes) : Res Empty _) = .ok file) : file.store = cm'.im := by
  obtain ⟨him, -⟩ := Cm.step_written hstep
  obtain ⟨im', him', hbody⟩ := writeImRecords_spec (ε := RpcError) cm (cm.imWrites i)
  cases him.symm.trans him'
  obtain ⟨file', hf', -, -, hfile⟩ := ImFile.writeRecords_spec (ε := Empty) pid cm.model
    ⟨cm.im, some path, disk, []⟩ (cm.persists i outcomes)
  cases hf.symm.trans hf'
  have hfst : (cm.persists i outcomes).map (·.1) = cm.imWrites i := by
    rw [Cm.persists, List.map_map]
    exact List.zipIdx_map_fst 0 _
  rw [hfst] at hfile
  exact ImStore.ext_body fun k => (hfile k).trans (hbody k).symm

lemma imStation_step (hpath : ∀ pid, ImFile.tmpOf pid path ≠ path) {a : ImAct}
    (h : s.Ok model path (.after model stable s.log))
    (hs : (imStationSystem model path).step s a = some s') :
    s'.Ok model path (.after model stable s'.log) := by
  cases a with
  | boot pid seed im0 =>
    obtain ⟨-, hs⟩ := Option.ite_none_left_eq_some.1 hs
    cases hs
    rw [DurableIm.after_snoc]
    refine ⟨h.stable, ?_, ?_⟩
    · exact congrArg some h.stable
    · rintro _ _ ⟨⟩
      rfl
  | input i outcomes =>
    obtain ⟨⟨pid, cm⟩, hl, hs⟩ := Option.bind_eq_some_iff.1 hs
    obtain ⟨⟨cm', out⟩, hstep, hs⟩ := Option.bind_eq_some_iff.1 hs
    obtain ⟨file, hf, hs⟩ := Option.bind_eq_some_iff.1 hs
    cases hs
    have hfile := Res.toOption_eq_some.1 hf
    have hmodel := h.sameModel pid cm hl
    obtain ⟨file', hf', hm⟩ := (h.mirrors hl).writeRecords (ε := Empty) (hpath pid) cm.model
      (cm.persists i outcomes)
    cases hfile.symm.trans hf'
    rw [hmodel] at hm
    rw [DurableIm.after_append]
    refine ⟨hm.stable, ?_, ?_⟩
    · rw [hm.volatile, store_eq_im hstep hfile]
      rfl
    · rintro _ _ ⟨⟩
      exact (Cm.step_stepped hstep).model.trans hmodel
  | killed i outcomes n =>
    obtain ⟨⟨pid, cm⟩, hl, hs⟩ := Option.bind_eq_some_iff.1 hs
    obtain ⟨file, hf, hs⟩ := Option.bind_eq_some_iff.1 hs
    cases hs
    obtain ⟨file', hf', hm⟩ := (h.mirrors hl).writeRecords (ε := Empty) (hpath pid) cm.model
      ((cm.persists i outcomes).take n)
    cases (Res.toOption_eq_some.1 hf).symm.trans hf'
    rw [h.sameModel pid cm hl] at hm
    rw [DurableIm.after_snoc, DurableIm.after_append]
    refine ⟨hm.stable, rfl, ?_⟩
    rintro _ _ ⟨⟩
  | other p content =>
    obtain ⟨hp, hs⟩ := Option.ite_none_left_eq_some.1 hs
    cases hs
    refine ⟨?_, h.volatile, h.sameModel⟩
    rw [← h.stable]
    exact ImStore.load_congr (if_neg (Ne.symm hp))

end Station

/-- **The I&M records survive every crash of the process.** Whatever calls the lives of a station
serve, whatever the file system does with each record and wherever a process ends, what the next
life loads is what the machine with two copies has kept: the records as they were when one was last
persisted, all three of the same moment. What a Read returns is what that machine works on. -/
theorem im_survives_crashes (model : DeviceModel) (path : FsPath)
    (hpath : ∀ pid, ImFile.tmpOf pid path ≠ path) (disk : Disk) (s : ImStation)
    (hr : ((imStationSystem model path).startAt ⟨disk, none, []⟩).Reach s) :
    let d := DurableIm.after model (ImStore.load disk (some path)) s.log
    ImStore.load s.disk (some path) = d.stable ∧ s.life.map (·.2.im) = d.volatile ∧
      (d.stable = ImStore.load disk (some path) ∨ ∃ earlier, earlier <+: s.log ∧
        (DurableIm.after model (ImStore.load disk (some path)) earlier).volatile =
          some d.stable) ∧
      ∀ pid cm, s.life = some (pid, cm) → ∀ (k : ImKind) buf src now cm' out req,
        cm.ReadsRecord buf req → req.index = k.index →
        cm.handleDatagram buf src now = .ok (cm', out) →
        ∀ o ∈ out.send, ∀ b, okBlocks o.bytes = some b →
          ∃ store, d.volatile = some store ∧
            ReadAnswer req (k.block (k.body store)) b := by
  intro d
  have hok : s.Ok model path d := by
    refine hr.inv (I := fun s => s.Ok model path
      (.after model (ImStore.load disk (some path)) s.log)) ?_ ?_
    · rintro _ rfl
      refine ⟨rfl, rfl, ?_⟩
      rintro _ _ ⟨⟩
    · intro s a s' h hs
      exact imStation_step hpath h hs
  refine ⟨hok.stable, hok.volatile, DurableIm.stable_was_whole s.log, ?_⟩
  intro pid cm hl k buf src now cm' out req hread hk hd o ho b hb
  refine ⟨cm.im, ?_, reads_stored hread hk hd ho hb⟩
  rw [← hok.volatile, hl]
  rfl

namespace Demo

def imPath : FsPath := ⟨true, ["im"]⟩

lemma imPath_not_tmp (pid : Nat) : ImFile.tmpOf pid imPath ≠ imPath := by
  intro h
  have hparts : [tmpName pid] = ["im"] := congrArg FsPath.parts h
  have hname := congrArg String.toList (List.cons.inj hparts).1
  simp [tmpName] at hname

/-- The second life is asked for the record. -/
def readAgain : Bytes := request 2 .readImplicit readIm2Blocks

/-- The second life has the record that was persisted as the first one ended, and returns it. -/
def restarted (s : ImStation) : Bool :=
  match s.life with
  | some (pid, cm) =>
    pid = 8 && cm.im.im2.bytes = im2Body && cm.cacheLookup (uuid 5, 2) = none &&
      match cm.handleDatagram readAgain plc 0 with
      | .ok (_, out) => out.send.any fun o => (okBlocks o.bytes).isSome
      | _ => false
  | none => false

end Demo

/-- The process ends right after the rename; the next one has the record and returns it. -/
theorem im_survives_crashes_restart :
    ∃ s cm cm' out, ((imStationSystem Demo.imModel Demo.imPath).startAt
        ⟨fun _ => none, none, []⟩).Reach s ∧
      s.life = some (8, cm) ∧ cm.im.im2.bytes = Demo.im2Body ∧
      ImStore.load s.disk (some Demo.imPath) =
        (DurableIm.after Demo.imModel ImStore.new s.log).stable ∧
      cm.handleDatagram Demo.readAgain Demo.plc 0 = .ok (cm', out) ∧
      ∃ o ∈ out.send, ∃ b, okBlocks o.bytes = some b ∧
        b.drop 64 = [0x00, 0x22, 0x00, 0x12, 0x01, 0x00] ++ List.replicate 16 0x41 := by
  have hrun : (((imStationSystem Demo.imModel Demo.imPath).startAt ⟨fun _ => none, none, []⟩).run
      ⟨fun _ => none, none, []⟩ [.boot 7 Demo.seed im0Default,
        .input (Demo.recv (Demo.connect 0 1)) fun _ => .done,
        .killed (Demo.recv Demo.writeIm2) (fun _ => .done) 1,
        .boot 8 Demo.seed im0Default]).any Demo.restarted = true := by
    decide +kernel
  obtain ⟨s, hs, hp⟩ := System.exists_reach_of_run rfl hrun
  obtain ⟨hload, hvol, -, hread⟩ :=
    im_survives_crashes Demo.imModel Demo.imPath Demo.imPath_not_tmp (fun _ => none) s hs
  unfold Demo.restarted at hp
  split at hp
  · next pid cm hlife =>
    split at hp
    · next cm' out hd =>
      simp only [Bool.and_eq_true, decide_eq_true_eq, List.any_eq_true] at hp
      obtain ⟨⟨⟨rfl, him⟩, hl⟩, o, ho, hok⟩ := hp
      obtain ⟨b, hb⟩ := Option.isSome_iff_exists.1 hok
      have hask : cm.ReadsRecord Demo.readAgain Demo.readIm2Req :=
        ⟨{ callHeader (Demo.uuid 1) (Demo.uuid 5) 2 Demo.readIm2Blocks.length with
            interface := pnioDeviceInterface, opnum := Opnum.readImplicit.toU16 },
          NdrRequest.forBlocks 1340 (UInt32.ofNat Demo.readIm2Blocks.length), Demo.readIm2Blocks,
          ⟨by decide +kernel, rfl, rfl, by decide +kernel⟩, hl, .inr rfl, by decide +kernel⟩
      obtain ⟨store, hstore, hans⟩ :=
        hread 8 cm hlife .im2 _ _ _ cm' out _ hask rfl hd o ho b hb
      have him' : store = cm.im := by
        rw [hlife] at hvol
        exact Option.some.inj (hstore.symm.trans hvol.symm)
      refine ⟨s, cm, cm', out, hs, hlife, him, hload, hd, o, ho, b, hb, ?_⟩
      rw [hans.carries, him']
      exact congrArg (ImKind.block .im2) him
    · simp at hp
  · cases hp

end Pnio
