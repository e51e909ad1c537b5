import Pnio.Lib.Runs

/-!
Threads that share values behind locks.

An operation takes locks one at a time, reads what they protect, changes what it has locked, and
gives its locks back in reverse order after its last change. Operations run interleaved, one lock
or one change at a time. Two facts about every interleaving: the operations could have run one
after the other, and if each of them takes its locks in ascending order, then some thread can
always go on.
-/

namespace Pnio

/-- An operation over the locks `R`, where `r` protects a value of type `V r`. -/
inductive LockProg {R : Type} (V : R → Type) (α : Type) where
  | ret (out : α)
  | lock (r : R) (next : V r → LockProg V α)
  /-- Goes on with `none` if the lock is taken. -/
  | tryLock (r : R) (next : Option (V r) → LockProg V α)
  | put (r : R) (v : V r) (next : LockProg V α)

namespace LockProg

variable {R ι α : Type} {V : R → Type}

/-- Locks are taken in ascending order, and only what is locked is changed; `held` is locked
already. -/
def Ordered [LT ι] (rank : R → ι) : List R → LockProg V α → Prop
  | _, ret _ => True
  | held, lock r next =>
    (r ∉ held ∧ ∀ h ∈ held, rank h < rank r) ∧ ∀ v, (next v).Ordered rank (r :: held)
  | held, tryLock r next =>
    r ∉ held ∧ (next none).Ordered rank held ∧ ∀ v, (next (some v)).Ordered rank (r :: held)
  | held, put r _ next => r ∈ held ∧ next.Ordered rank held

/-- The operation never waits for a lock. -/
def Nonblocking : LockProg V α → Prop
  | ret _ => True
  | lock _ _ => False
  | tryLock _ next => ∀ v, (next v).Nonblocking
  | put _ _ next => next.Nonblocking

/-- The operation run by itself; a lock that it only tries may be taken. -/
inductive Runs [DecidableEq R] : LockProg V α → (∀ r, V r) → (∀ r, V r) → α → Prop
  | ret (out : α) (s : ∀ r, V r) : Runs (ret out) s s out
  | lock {r : R} {next : V r → LockProg V α} {s s' : ∀ r, V r} {out : α}
      (h : Runs (next (s r)) s s' out) : Runs (lock r next) s s' out
  | free {r : R} {next : Option (V r) → LockProg V α} {s s' : ∀ r, V r} {out : α}
      (h : Runs (next (some (s r))) s s' out) : Runs (tryLock r next) s s' out
  | taken {r : R} {next : Option (V r) → LockProg V α} {s s' : ∀ r, V r} {out : α}
      (h : Runs (next none) s s' out) : Runs (tryLock r next) s s' out
  | put {r : R} {v : V r} {next : LockProg V α} {s s' : ∀ r, V r} {out : α}
      (h : Runs next (Function.update s r v) s' out) : Runs (put r v next) s s' out

end LockProg

/-! ### The threads -/

/-- What a thread is at: the operation `op`, of which `rest` is left, or giving its locks back;
`held` is what it has locked, the latest first. -/
inductive LockTask {R : Type} (V : R → Type) (Op α : Type) where
  | running (op : Op) (rest : LockProg V α) (held : List R)
  | leaving (held : List R)

namespace LockTask

variable {R Op α : Type} {V : R → Type}

def held : LockTask V Op α → List R
  | running _ _ held => held
  | leaving held => held

end LockTask

/-- The values, who holds which lock, what every thread is at, and what was done so far. -/
structure LockState {R : Type} (V : R → Type) (T Op α : Type) where
  mem : ∀ r, V r
  owner : R → Option T
  task : T → Option (LockTask V Op α)
  log : List (T × Op × α)

inductive LockMove (T Op : Type) where
  | call (t : T) (op : Op)
  | step (t : T)

section Threads

variable {R T Op α : Type} {V : R → Type} [DecidableEq R] [DecidableEq T]

namespace LockState

def setTask (s : LockState V T Op α) (t : T) (k : Option (LockTask V Op α)) :
    LockState V T Op α :=
  { s with task := Function.update s.task t k }

def setOwner (s : LockState V T Op α) (r : R) (o : Option T) : LockState V T Op α :=
  { s with owner := Function.update s.owner r o }

/-- One step of the thread `t`; `none` if it has to wait. -/
def advance (s : LockState V T Op α) (t : T) : LockTask V Op α → Option (LockState V T Op α)
  | .running op (.ret out) held =>
    some { s.setTask t (some (.leaving held)) with log := s.log ++ [(t, op, out)] }
  | .running op (.lock r next) held =>
    if s.owner r = none then
      some ((s.setOwner r (some t)).setTask t (some (.running op (next (s.mem r)) (r :: held))))
    else none
  | .running op (.tryLock r next) held =>
    if s.owner r = none then
      some ((s.setOwner r (some t)).setTask t
        (some (.running op (next (some (s.mem r))) (r :: held))))
    else some (s.setTask t (some (.running op (next none) held)))
  | .running op (.put r v next) held =>
    some ({ s with mem := Function.update s.mem r v }.setTask t (some (.running op next held)))
  | .leaving (r :: held) => some ((s.setOwner r none).setTask t (some (.leaving held)))
  | .leaving [] => some (s.setTask t none)

def step (prog : Op → LockProg V α) (s : LockState V T Op α) :
    LockMove T Op → Option (LockState V T Op α)
  | .call t op =>
    if (s.task t).isNone then some (s.setTask t (some (.running op (prog op) []))) else none
  | .step t => (s.task t).bind fun k => s.advance t k

/-- What the thread `t` has locked. -/
def held (s : LockState V T Op α) (t : T) : List R := ((s.task t).map LockTask.held).getD []

end LockState

variable (T) in
/-- All threads idle and all locks free, over the values `mem`. -/
def lockSystem (prog : Op → LockProg V α) (mem : ∀ r, V r) :
    System (LockState V T Op α) (LockMove T Op) where
  init s := s = ⟨mem, fun _ => none, fun _ => none, []⟩
  step := LockState.step prog

/-- The operations of a log one after the other, from `s` to `s'`. -/
inductive Serial (prog : Op → LockProg V α) :
    (∀ r, V r) → List (T × Op × α) → (∀ r, V r) → Prop
  | nil (s : ∀ r, V r) : Serial prog s [] s
  | snoc {s s' s'' : ∀ r, V r} {log : List (T × Op × α)} {t : T} {op : Op} {out : α}
      (h : Serial prog s log s') (hr : (prog op).Runs s' s'' out) :
      Serial prog s (log ++ [(t, op, out)]) s''

namespace LockState

variable {prog : Op → LockProg V α} {s s' : LockState V T Op α} {t u : T} {op : Op} {r : R}
  {k : LockTask V Op α} {held : List R}

/-! ### What one step does -/

/-- The steps of a thread that is at a task. -/
inductive Advance (s : LockState V T Op α) (t : T) : LockTask V Op α → LockState V T Op α → Prop
  | ret (op : Op) (out : α) (held : List R) : Advance s t (.running op (.ret out) held)
      { s.setTask t (some (.leaving held)) with log := s.log ++ [(t, op, out)] }
  | lock (op : Op) {r : R} (next : V r → LockProg V α) (held : List R) (h : s.owner r = none) :
      Advance s t (.running op (.lock r next) held)
        ((s.setOwner r (some t)).setTask t (some (.running op (next (s.mem r)) (r :: held))))
  | free (op : Op) {r : R} (next : Option (V r) → LockProg V α) (held : List R)
      (h : s.owner r = none) :
      Advance s t (.running op (.tryLock r next) held)
        ((s.setOwner r (some t)).setTask t
          (some (.running op (next (some (s.mem r))) (r :: held))))
  | taken (op : Op) {r : R} (next : Option (V r) → LockProg V α) (held : List R)
      (h : s.owner r ≠ none) :
      Advance s t (.running op (.tryLock r next) held)
        (s.setTask t (some (.running op (next none) held)))
  | put (op : Op) {r : R} (v : V r) (next : LockProg V α) (held : List R) :
      Advance s t (.running op (.put r v next) held)
        ({ s with mem := Function.update s.mem r v }.setTask t (some (.running op next held)))
  | unlock (r : R) (held : List R) : Advance s t (.leaving (r :: held))
      ((s.setOwner r none).setTask t (some (.leaving held)))
  | leave : Advance s t (.leaving []) (s.setTask t none)

lemma advance_cases (h : s.advance t k = some s') : Advance s t k s' := by
  cases k with
  | running op rest held =>
    cases rest with
    | ret out =>
      cases h
      exact .ret op out held
    | lock r next =>
      simp only [advance] at h
      split_ifs at h with ho
      cases h
      exact .lock op next held ho
    | tryLock r next =>
      simp only [advance] at h
      split_ifs at h with ho
      · cases h
        exact .free op next held ho
      · cases h
        exact .taken op next held ho
    | put r v next =>
      cases h
      exact .put op v next held
  | leaving held =>
    cases held with
    | nil =>
      cases h
      exact .leave
    | cons r held =>
      cases h
      exact .unlock r held

/-- Only a lock that is taken makes a thread wait. -/
lemma advance_eq_none (h : s.advance t k = none) :
    ∃ op r next held u, k = .running op (.lock r next) held ∧ s.owner r = some u := by
  cases k with
  | running op rest held =>
    cases rest with
    | ret out => cases h
    | lock r next =>
      simp only [advance] at h
      split_ifs at h with ho
      obtain ⟨u, hu⟩ := Option.ne_none_iff_exists'.1 ho
      exact ⟨op, r, next, held, u, rfl, hu⟩
    | tryLock r next =>
      simp only [advance] at h
      split_ifs at h
    | put r v next => cases h
  | leaving held => cases held <;> cases h

/-! ### The order of the locks -/

/-- The owners are the threads' own lists; every list and what is left to do keep the order. -/
structure Disciplined {ι : Type} [LT ι] (rank : R → ι) (s : LockState V T Op α) : Prop where
  owner : ∀ t r, s.owner r = some t ↔ r ∈ s.held t
  nodup : ∀ t, (s.held t).Nodup
  ordered : ∀ t op rest held, s.task t = some (.running op rest held) → rest.Ordered rank held

omit [DecidableEq R] [DecidableEq T] in
lemma held_of_task (h : s.task t = some k) : s.held t = k.held := by
  simp [LockState.held, h]

/-- What a step of `t` leaves alone. -/
structure Frame (s s' : LockState V T Op α) (t : T) : Prop where
  task : ∀ u ≠ t, s'.task u = s.task u
  owner : ∀ u ≠ t, ∀ r, s'.owner r = some u ↔ s.owner r = some u
  mem : ∀ u ≠ t, ∀ r, s.owner r = some u → s'.mem r = s.mem r

variable {ι : Type} [LT ι] {rank : R → ι}

omit [DecidableEq T] in
/-- A lock that is given to `t`, or taken from it, is no lock of another thread. -/
lemma setOwner_iff {o : Option T} (hr : s.owner r ≠ some u) (ho : o ≠ some u) (q : R) :
    (s.setOwner r o).owner q = some u ↔ s.owner q = some u := by
  by_cases hq : q = r
  · subst hq
    simp [setOwner, ho, hr]
  · simp [setOwner, hq]

lemma Advance.frame (h : Advance s t k s') (ht : s.task t = some k)
    (hd : s.Disciplined rank) : Frame s s' t := by
  have hown : ∀ r, r ∈ k.held → s.owner r = some t := fun r hr =>
    (hd.owner t r).2 (held_of_task ht ▸ hr)
  have hfree : ∀ {r} u, s.owner r = none → s.owner r ≠ some u := fun u h h' => by
    rw [h] at h'
    cases h'
  have hother : ∀ {r u}, u ≠ t → s.owner r = some t → s.owner r ≠ some u := fun hu h h' =>
    hu (Option.some.inj (h'.symm.trans h))
  have htu : ∀ {u}, u ≠ t → (some t : Option T) ≠ some u := fun hu h => hu (Option.some.inj h).symm
  refine ⟨fun u hu => ?_, fun u hu r => ?_, fun u hu r hr => ?_⟩
  · cases h <;> exact Function.update_of_ne hu _ _
  · cases h with
    | ret | taken | put | leave => exact Iff.rfl
    | lock op next held h => exact setOwner_iff (hfree u h) (htu hu) r
    | free op next held h => exact setOwner_iff (hfree u h) (htu hu) r
    | unlock q held =>
      exact setOwner_iff (hother hu (hown q List.mem_cons_self)) (fun h => by cases h) r
  · cases h with
    | ret | lock | free | taken | unlock | leave => rfl
    | @put op q v next held =>
      -- what is changed belongs to `t`
      refine Function.update_of_ne ?_ _ _
      rintro rfl
      exact hother hu (hown r (hd.ordered t _ _ _ ht).1) hr

omit [DecidableEq R] [DecidableEq T] in
/-- After a step of `t` only what `t` itself is at has to be looked at. -/
lemma Disciplined.of_frame {k' : Option (LockTask V Op α)} (hd : s.Disciplined rank)
    (hf : Frame s s' t) (hk : s'.task t = k')
    (ho : ∀ r, s'.owner r = some t ↔ r ∈ (k'.map LockTask.held).getD [])
    (hn : ((k'.map LockTask.held).getD []).Nodup)
    (hr : ∀ op rest held, k' = some (.running op rest held) → rest.Ordered rank held) :
    s'.Disciplined rank := by
  have hself : s'.held t = (k'.map LockTask.held).getD [] := by simp only [LockState.held, hk]
  have hheld : ∀ u ≠ t, s'.held u = s.held u := fun u hu => by
    simp only [LockState.held, hf.task u hu]
  refine ⟨fun u r => ?_, fun u => ?_, fun u op rest held hu => ?_⟩
  · by_cases hut : u = t
    · subst hut
      rw [hself]
      exact ho r
    · rw [hf.owner u hut, hheld u hut, hd.owner]
  · by_cases hut : u = t
    · subst hut
      rw [hself]
      exact hn
    · rw [hheld u hut]
      exact hd.nodup u
  · by_cases hut : u = t
    · subst hut
      exact hr op rest held (hk.symm.trans hu)
    · exact hd.ordered u op rest held ((hf.task u hut).symm.trans hu)

lemma Advance.disciplined (h : Advance s t k s') (ht : s.task t = some k)
    (hd : s.Disciplined rank) : s'.Disciplined rank := by
  have hf := h.frame ht hd
  have howner : ∀ r, s.owner r = some t ↔ r ∈ k.held := fun r => held_of_task ht ▸ hd.owner t r
  have hnodup : k.held.Nodup := held_of_task ht ▸ hd.nodup t
  -- what a thread that takes the free lock `r` holds
  have htake : ∀ r, s.owner r = none →
      (∀ q, (s.setOwner r (some t)).owner q = some t ↔ q ∈ r :: k.held) ∧ (r :: k.held).Nodup := by
    intro r hr
    have hnot : r ∉ k.held := fun h => by
      have := (howner r).2 h
      rw [hr] at this
      cases this
    refine ⟨fun q => ?_, List.nodup_cons.2 ⟨hnot, hnodup⟩⟩
    by_cases hq : q = r
    · subst hq
      simp [setOwner]
    · simp [setOwner, hq, howner]
  cases h with
  | ret op out held =>
    exact hd.of_frame hf (Function.update_self ..) howner hnodup fun _ _ _ hu => by cases hu
  | lock op next held h =>
    obtain ⟨ho, hn⟩ := htake _ h
    refine hd.of_frame hf (Function.update_self ..) ho hn fun _ _ _ hu => ?_
    cases hu
    exact (hd.ordered t _ _ _ ht).2 _
  | free op next held h =>
    obtain ⟨ho, hn⟩ := htake _ h
    refine hd.of_frame hf (Function.update_self ..) ho hn fun _ _ _ hu => ?_
    cases hu
    exact (hd.ordered t _ _ _ ht).2.2 _
  | taken op next held h =>
    refine hd.of_frame hf (Function.update_self ..) howner hnodup fun _ _ _ hu => ?_
    cases hu
    exact (hd.ordered t _ _ _ ht).2.1
  | put op v next held =>
    refine hd.of_frame hf (Function.update_self ..) howner hnodup fun _ _ _ hu => ?_
    cases hu
    exact (hd.ordered t _ _ _ ht).2
  | unlock r held =>
    obtain ⟨hr, hn⟩ := List.nodup_cons.1 hnodup
    refine hd.of_frame hf (Function.update_self ..) (fun q => ?_) hn fun _ _ _ hu => by cases hu
    by_cases hq : q = r
    · subst hq
      simpa [setTask, setOwner, LockTask.held] using hr
    · simpa [setTask, setOwner, LockTask.held, hq] using howner q
  | leave =>
    exact hd.of_frame hf (Function.update_self ..) howner List.nodup_nil fun _ _ _ hu => by cases hu

/-! ### Every interleaving is a serial run -/

/-- The values as a thread sees them that has locked `held`, over the serial values `b`. -/
def view (s : LockState V T Op α) (held : List R) (b : ∀ r, V r) : ∀ r, V r :=
  fun r => if r ∈ held then s.mem r else b r

/-- Whatever is left of the operation of `t` does from here on, the whole operation does from the
serial values, as far as these agree with `a` on what `t` has locked. -/
def Follows (prog : Op → LockProg V α) (s : LockState V T Op α) (a : ∀ r, V r) (t : T) : Prop :=
  ∀ op rest held, s.task t = some (.running op rest held) →
    ∀ b : ∀ r, V r, (∀ r ∈ held, b r = a r) →
      ∀ b' out, rest.Runs (s.view held b) b' out → (prog op).Runs b b' out

/-- No operation has `r` locked that may still change it. -/
def Settled (s : LockState V T Op α) (r : R) : Prop :=
  ∀ t op rest held, s.task t = some (.running op rest held) → r ∉ held

/-- The serial values `a` behind a state: an operation shows up in them with its last change. -/
structure SerialBy (prog : Op → LockProg V α) (mem₀ : ∀ r, V r) (s : LockState V T Op α)
    (a : ∀ r, V r) : Prop where
  serial : Serial prog mem₀ s.log a
  settled : ∀ r, s.Settled r → a r = s.mem r
  follows : ∀ t, Follows prog s a t

variable {a a' mem₀ : ∀ r, V r} {rest : LockProg V α}

omit [DecidableEq T] in
/-- Another thread's step does not matter to what a thread follows. -/
lemma Follows.frame (hu : Follows prog s a u) (ht : s'.task u = s.task u)
    (hm : ∀ r ∈ s.held u, s'.mem r = s.mem r) (ha : ∀ r ∈ s.held u, a' r = a r) :
    Follows prog s' a' u := by
  intro op rest held hk b hb b' out hr
  rw [ht] at hk
  have hheld : s.held u = held := held_of_task hk
  have hview : s'.view held b = s.view held b := by
    funext r
    by_cases hr' : r ∈ held
    · simp only [view, if_pos hr', hm r (hheld ▸ hr')]
    · simp only [view, if_neg hr']
  rw [hview] at hr
  refine hu op rest held hk b (fun r hr' => ?_) b' out hr
  rw [hb r hr', ha r (hheld ▸ hr')]

omit [DecidableEq T] in
/-- A lock that is taken shows the serial value. -/
lemma view_cons {b : ∀ r, V r} (hr : b r = s.mem r) : s.view (r :: held) b = s.view held b := by
  funext q
  by_cases hq : q = r
  · subst hq
    simp [view, hr]
  · simp [view, hq]

omit [DecidableEq T] in
lemma view_apply {b : ∀ r, V r} (hr : b r = s.mem r) : s.view held b r = s.mem r := by
  simp [view, hr]

omit [DecidableEq R] [DecidableEq T] in
lemma Frame.settled (hf : Frame s s' t) (h : s'.Settled r) (ht : s.task t = some k)
    (hr : ∀ op rest held, k = .running op rest held → r ∉ held) : s.Settled r := by
  intro u op rest held hu
  by_cases hut : u = t
  · subst hut
    exact hr op rest held (Option.some.inj (ht.symm.trans hu))
  · exact h u op rest held ((hf.task u hut).trans hu)

omit [DecidableEq R] [DecidableEq T] in
lemma Disciplined.settled_of_free (hd : s.Disciplined rank) (h : s.owner r = none) :
    s.Settled r := by
  intro t op rest held ht hr
  have := (hd.owner t r).2 (held_of_task ht ▸ hr)
  rw [h] at this
  cases this

omit [DecidableEq T] in
/-- After a step of `t` the serial values stay, if `t` still follows them and has not changed what
is settled. -/
lemma SerialBy.of_frame (hs : SerialBy prog mem₀ s a) (hd : s.Disciplined rank)
    (hf : Frame s s' t) (hlog : s'.log = s.log)
    (hset : ∀ r, s'.Settled r → s.Settled r ∧ s'.mem r = s.mem r)
    (ht : Follows prog s' a t) : SerialBy prog mem₀ s' a := by
  refine ⟨hlog ▸ hs.serial, fun r hr => ?_, fun u => ?_⟩
  · obtain ⟨hr', hm⟩ := hset r hr
    rw [hm, hs.settled r hr']
  · by_cases hut : u = t
    · subst hut
      exact ht
    · exact (hs.follows u).frame (hf.task u hut)
        (fun r hr => hf.mem u hut r ((hd.owner u r).2 hr)) fun _ _ => rfl

/-- An operation that makes its last step runs as a whole from the serial values to what it sees;
that becomes the serial values. -/
lemma SerialBy.ret {out : α} (hs : SerialBy prog mem₀ s a) (hd : s.Disciplined rank)
    (ht : s.task t = some (.running op (.ret out) held))
    (hf : Frame s { s.setTask t (some (.leaving held)) with log := s.log ++ [(t, op, out)] } t) :
    SerialBy prog mem₀ { s.setTask t (some (.leaving held)) with log := s.log ++ [(t, op, out)] }
      (s.view held a) := by
  have hown : ∀ r ∈ held, s.owner r = some t := fun r hr =>
    (hd.owner t r).2 (held_of_task ht ▸ hr)
  refine ⟨hs.serial.snoc (hs.follows t op _ held ht a (fun _ _ => rfl) _ _ (.ret out _)),
    fun r hr => ?_, fun u => ?_⟩
  · by_cases hrt : r ∈ held
    · exact if_pos hrt
    · have hr' : s.Settled r := hf.settled hr ht fun op' rest' held' he => by
        cases he
        exact hrt
      exact (if_neg hrt).trans (hs.settled r hr')
  · by_cases hut : u = t
    · subst hut
      intro op' rest' held' hk
      simp [setTask] at hk
    · refine (hs.follows u).frame (hf.task u hut) (fun _ _ => rfl) fun r hr => if_neg fun hrt => ?_
      exact hut (Option.some.inj (((hd.owner u r).2 hr).symm.trans (hown r hrt)))

omit [DecidableEq T] in
/-- A thread that goes on in its operation: each run of what is left of it has to be a run of what
was left before. -/
lemma SerialBy.running {rest' : LockProg V α} {held' : List R} (hs : SerialBy prog mem₀ s a)
    (hd : s.Disciplined rank) (hf : Frame s s' t) (hlog : s'.log = s.log)
    (ht : s.task t = some (.running op rest held))
    (ht' : s'.task t = some (.running op rest' held')) (hsub : held ⊆ held')
    (hmem : ∀ r ∉ held', s'.mem r = s.mem r)
    (hruns : ∀ b : ∀ r, V r, (∀ r ∈ held', b r = a r) → ∀ b' out,
      rest'.Runs (s'.view held' b) b' out → rest.Runs (s.view held b) b' out) :
    SerialBy prog mem₀ s' a := by
  refine hs.of_frame hd hf hlog (fun r hr => ?_) ?_
  · have hr' : r ∉ held' := hr t op rest' held' ht'
    refine ⟨hf.settled hr ht fun _ _ _ he => ?_, hmem r hr'⟩
    cases he
    exact fun h => hr' (hsub h)
  · intro op₁ rest₁ held₁ hk b hb b' out hr
    cases ht'.symm.trans hk
    exact hs.follows t _ _ _ ht b (fun r hr' => hb r (hsub hr')) b' out (hruns b hb b' out hr)

omit [DecidableEq T] in
/-- A thread that gives its locks back. -/
lemma SerialBy.leaving (hs : SerialBy prog mem₀ s a) (hd : s.Disciplined rank)
    (hf : Frame s s' t) (hlog : s'.log = s.log) (hmem : s'.mem = s.mem)
    (ht : s.task t = some (.leaving held))
    (ht' : ∀ op rest l, s'.task t ≠ some (.running op rest l)) : SerialBy prog mem₀ s' a := by
  refine hs.of_frame hd hf hlog (fun r hr => ⟨?_, congrFun hmem r⟩) fun op rest l hk => ?_
  · exact hf.settled hr ht fun _ _ _ he => by cases he
  · exact absurd hk (ht' op rest l)

lemma Advance.serialBy (h : Advance s t k s') (ht : s.task t = some k) (hd : s.Disciplined rank)
    (hs : SerialBy prog mem₀ s a) : ∃ a', SerialBy prog mem₀ s' a' := by
  have hf := h.frame ht hd
  -- what a thread reads when it takes the free lock `r`
  have hread : ∀ {r held} {b : ∀ r, V r}, s.owner r = none → (∀ q ∈ r :: held, b q = a q) →
      b r = s.mem r := fun hr hb =>
    (hb _ List.mem_cons_self).trans (hs.settled _ (hd.settled_of_free hr))
  cases h with
  | ret op out held => exact ⟨_, hs.ret hd ht hf⟩
  | @lock op r next held hr =>
    refine ⟨a, hs.running hd hf rfl ht (Function.update_self ..) (List.subset_cons_self r held)
      (fun _ _ => rfl) fun b hb b' out hrun => .lock ?_⟩
    rw [view_apply (hread hr hb), ← view_cons (hread hr hb)]
    exact hrun
  | @free op r next held hr =>
    refine ⟨a, hs.running hd hf rfl ht (Function.update_self ..) (List.subset_cons_self r held)
      (fun _ _ => rfl) fun b hb b' out hrun => .free ?_⟩
    rw [view_apply (hread hr hb), ← view_cons (hread hr hb)]
    exact hrun
  | taken op next held hr =>
    exact ⟨a, hs.running hd hf rfl ht (Function.update_self ..) (List.Subset.refl held)
      (fun _ _ => rfl) fun b hb b' out hrun => .taken hrun⟩
  | @put op r v next held =>
    have hr : r ∈ held := (hd.ordered t _ _ _ ht).1
    refine ⟨a, hs.running hd hf rfl ht (Function.update_self ..) (List.Subset.refl held)
      (fun q hq => Function.update_of_ne (fun h : q = r => hq (h ▸ hr)) _ _)
      fun b hb b' out hrun => .put ?_⟩
    have hview : Function.update (s.view held b) r v =
        view { s with mem := Function.update s.mem r v } held b := by
      funext q
      by_cases hq : q = r
      · subst hq
        simp [view, hr]
      · simp [view, hq]
    rw [hview]
    exact hrun
  | unlock r held =>
    exact ⟨a, hs.leaving hd hf rfl rfl ht fun _ _ _ hk => by simp [setTask] at hk⟩
  | leave =>
    exact ⟨a, hs.leaving hd hf rfl rfl ht fun _ _ _ hk => by simp [setTask] at hk⟩

/-- A call changes nothing but what its own thread is at. -/
lemma call_inv (hp : (prog op).Ordered rank []) (ht : s.task t = none)
    (hd : s.Disciplined rank) (hs : SerialBy prog mem₀ s a) :
    (s.setTask t (some (.running op (prog op) []))).Disciplined rank ∧
      SerialBy prog mem₀ (s.setTask t (some (.running op (prog op) []))) a := by
  have hheld : s.held t = [] := by simp [LockState.held, ht]
  have hf : Frame s (s.setTask t (some (.running op (prog op) []))) t :=
    ⟨fun u hu => Function.update_of_ne hu _ _, fun _ _ _ => Iff.rfl, fun _ _ _ _ => rfl⟩
  constructor
  · refine hd.of_frame hf (Function.update_self ..) (fun r => hheld ▸ hd.owner t r)
      List.nodup_nil fun _ _ _ he => ?_
    cases he
    exact hp
  · refine hs.of_frame hd hf rfl (fun r hr => ⟨?_, rfl⟩)
      fun op' rest' held' hk b _ b' out hrun => ?_
    · intro u op' rest' held' hu
      have hut : u ≠ t := by
        rintro rfl
        rw [ht] at hu
        cases hu
      exact hr u op' rest' held' ((hf.task u hut).trans hu)
    · simp only [setTask, Function.update_self, Option.some.injEq, LockTask.running.injEq] at hk
      obtain ⟨rfl, rfl, rfl⟩ := hk
      have hview : (s.setTask t (some (.running op (prog op) []))).view [] b = b := by
        funext r
        simp [view]
      rwa [hview] at hrun

end LockState

section Rules

variable {ι : Type} {rank : R → ι} {prog : Op → LockProg V α} {mem : ∀ r, V r}
  {s : LockState V T Op α}

lemma lockSystem_inv [LT ι] (hp : ∀ op, (prog op).Ordered rank [])
    (h : (lockSystem T prog mem).Reach s) :
    s.Disciplined rank ∧ ∃ a, s.SerialBy prog mem a := by
  refine h.inv (I := fun s => s.Disciplined rank ∧ ∃ a, s.SerialBy prog mem a) ?_ ?_
  · rintro s rfl
    refine ⟨⟨fun t r => ?_, fun t => List.nodup_nil, fun t _ _ _ hk => by cases hk⟩,
      mem, .nil mem, fun _ _ => rfl, fun t _ _ _ hk => by cases hk⟩
    simp [LockState.held]
  · rintro s i s' ⟨hd, a, hs⟩ hstep
    cases i with
    | call t op =>
      simp only [lockSystem, LockState.step] at hstep
      split_ifs at hstep with ht
      cases hstep
      obtain ⟨hd', hs'⟩ := LockState.call_inv (hp op) (Option.isNone_iff_eq_none.1 ht) hd hs
      exact ⟨hd', a, hs'⟩
    | step t =>
      obtain ⟨k, ht, hadv⟩ := Option.bind_eq_some_iff.1 hstep
      have hadv := LockState.advance_cases hadv
      exact ⟨hadv.disciplined ht hd, hadv.serialBy ht hd hs⟩

/-- **Serial order rule**: the operations that made their last change could have run one after the
other, in the order in which they did; what no thread has locked is what they leave behind. -/
theorem exists_serial [LT ι] (hp : ∀ op, (prog op).Ordered rank [])
    (h : (lockSystem T prog mem).Reach s) :
    ∃ a, Serial prog mem s.log a ∧ ∀ r, s.owner r = none → a r = s.mem r := by
  obtain ⟨hd, a, hs⟩ := lockSystem_inv hp h
  exact ⟨a, hs.serial, fun r hr => hs.settled r (hd.settled_of_free hr)⟩

/-- A thread that waits for `r` waits for one that can go on, or for one that waits for a lock
above `r`. -/
lemma LockState.exists_advance_of_waiting [Preorder ι] [WellFoundedGT ι]
    (hd : s.Disciplined rank) (r : R) {u : T} (hu : s.owner r = some u) :
    ∃ v k s', s.task v = some k ∧ s.advance v k = some s' := by
  induction hr : rank r using WellFoundedGT.induction generalizing r u with
  | ind i ih =>
    subst hr
    have hheld : r ∈ s.held u := (hd.owner u r).1 hu
    -- the owner is in an operation, since an idle thread holds nothing
    obtain ⟨k, hk⟩ : ∃ k, s.task u = some k := by
      refine Option.ne_none_iff_exists'.1 fun hnone => ?_
      simp [LockState.held, hnone] at hheld
    cases hadv : s.advance u k with
    | some s' => exact ⟨u, k, s', hk, hadv⟩
    | none =>
      obtain ⟨op, r', next, held, w, rfl, hw⟩ := advance_eq_none hadv
      rw [held_of_task hk] at hheld
      have hlt : rank r < rank r' := (hd.ordered u _ _ _ hk).1.2 r hheld
      exact ih (rank r') hlt r' hw rfl

/-- **Progress rule**: with the locks taken in ascending order, whenever a thread is in an
operation, some thread that is in one can go on. -/
theorem exists_advance [Preorder ι] [WellFoundedGT ι] (hp : ∀ op, (prog op).Ordered rank [])
    (h : (lockSystem T prog mem).Reach s) {t : T} (ht : s.task t ≠ none) :
    ∃ u s', s.task u ≠ none ∧ s.step prog (.step u) = some s' := by
  obtain ⟨hd, -⟩ := lockSystem_inv hp h
  obtain ⟨k, hk⟩ := Option.ne_none_iff_exists'.1 ht
  have hgo : ∃ v k s', s.task v = some k ∧ s.advance v k = some s' := by
    cases hadv : s.advance t k with
    | some s' => exact ⟨t, k, s', hk, hadv⟩
    | none =>
      obtain ⟨op, r, next, held, u, -, hu⟩ := LockState.advance_eq_none hadv
      exact LockState.exists_advance_of_waiting hd r hu
  obtain ⟨v, k, s', hv, hadv⟩ := hgo
  refine ⟨v, s', by simp [hv], ?_⟩
  simp only [LockState.step, hv, Option.bind_some]
  exact hadv

/-- What is left of an operation that only tries its locks only tries its locks. -/
lemma LockState.Advance.nonblocking {s' : LockState V T Op α} {t : T} {op op' : Op}
    {rest rest' : LockProg V α} {held held' : List R}
    (h : Advance s t (.running op rest held) s') (ht : s'.task t = some (.running op' rest' held'))
    (hn : (prog op).Nonblocking → rest.Nonblocking) (hop : (prog op').Nonblocking) :
    rest'.Nonblocking := by
  cases h with
  | ret => simp [setTask] at ht
  | lock next held hr =>
    simp only [setTask, Function.update_self, Option.some.injEq, LockTask.running.injEq] at ht
    obtain ⟨rfl, -, -⟩ := ht
    exact (hn hop).elim
  | free next held hr =>
    simp only [setTask, Function.update_self, Option.some.injEq, LockTask.running.injEq] at ht
    obtain ⟨rfl, rfl, -⟩ := ht
    exact hn hop _
  | taken next held hr =>
    simp only [setTask, Function.update_self, Option.some.injEq, LockTask.running.injEq] at ht
    obtain ⟨rfl, rfl, -⟩ := ht
    exact hn hop _
  | put v next held =>
    simp only [setTask, Function.update_self, Option.some.injEq, LockTask.running.injEq] at ht
    obtain ⟨rfl, rfl, -⟩ := ht
    exact hn hop

lemma nonblocking_inv (h : (lockSystem T prog mem).Reach s) :
    ∀ t op rest held, s.task t = some (.running op rest held) → (prog op).Nonblocking →
      rest.Nonblocking := by
  refine h.inv (I := fun s => ∀ t op rest held, s.task t = some (.running op rest held) →
    (prog op).Nonblocking → rest.Nonblocking) ?_ ?_
  · rintro s rfl t _ _ _ hk
    cases hk
  · intro s i s' hI hstep u op rest held hu hn
    cases i with
    | call t op' =>
      simp only [lockSystem, LockState.step] at hstep
      split_ifs at hstep
      cases hstep
      by_cases hut : u = t
      · subst hut
        simp only [LockState.setTask, Function.update_self, Option.some.injEq,
          LockTask.running.injEq] at hu
        obtain ⟨rfl, rfl, -⟩ := hu
        exact hn
      · exact hI u op rest held ((Function.update_of_ne hut _ _).symm.trans hu) hn
    | step t =>
      obtain ⟨k, ht, hadv⟩ := Option.bind_eq_some_iff.1 hstep
      have hadv := LockState.advance_cases hadv
      by_cases hut : u = t
      · subst hut
        cases k with
        | running op' rest' held' => exact hadv.nonblocking hu (hI u _ _ _ ht) hn
        | leaving held' => cases hadv <;> simp [LockState.setTask] at hu
      · have htask : s'.task u = s.task u := by
          cases hadv <;> exact Function.update_of_ne hut _ _
        exact hI u op rest held (htask.symm.trans hu) hn

/-- **No waiting**: a thread that is in an operation which only tries its locks can always go on. -/
theorem advance_of_nonblocking (h : (lockSystem T prog mem).Reach s) {t : T}
    {k : LockTask V Op α} (ht : s.task t = some k)
    (hn : ∀ op rest held, k = .running op rest held → (prog op).Nonblocking) :
    ∃ s', s.step prog (.step t) = some s' := by
  refine Option.ne_none_iff_exists'.1 fun hnone => ?_
  simp only [LockState.step, ht, Option.bind_some] at hnone
  obtain ⟨op, r, next, held, u, rfl, -⟩ := LockState.advance_eq_none hnone
  exact nonblocking_inv h t op _ held ht (hn op _ held rfl)

end Rules

end Threads

end Pnio
