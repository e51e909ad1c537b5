import Pnio.DeviceRun

/-!
How long a step of the device waits: until the caller's limit or the earliest timer is due,
whichever comes first, in the whole milliseconds that `poll(2)` takes.
-/

namespace Pnio

/-- The timeout of `poll(2)`: for ever, or up to `i32::MAX` milliseconds. -/
inductive PollTimeout where
  | none
  | millis (ms : Fin (2 ^ 31))
deriving DecidableEq, Repr

namespace PollTimeout

def max : PollTimeout := .millis ⟨2 ^ 31 - 1, by decide⟩

def fromU16 (ms : UInt16) : PollTimeout :=
  .millis ⟨ms.toNat, ms.toNat_lt.trans (by decide)⟩

end PollTimeout

/-- A duration is rounded up to whole milliseconds. -/
def pollTimeout : Option Nat → PollTimeout
  | none => .none
  | some d =>
    let ms := d / 1000000 + if d % 1000000000 % 1000000 ≠ 0 then 1 else 0
    if ms < 2 ^ 16 then .fromU16 (.ofNat ms) else .max

namespace Device

/-- The earlier of the next deadlines of the connection and of the alarm channel. -/
def nextDeadline (d : Device) : Option Instant :=
  match d.cm.nextDeadline, d.alarm.bind AlarmChannel.nextDeadline with
  | some a, some b => some (min a b)
  | a, b => a.or b

def effectiveWait (d : Device) (now : Instant) (wait : Option Nat) : Option Nat :=
  match wait, d.nextDeadline.map (· - now) with
  | some w, some d => some (min w d)
  | some w, none => some w
  | none, some d => some d
  | none, none => none

/-- The timeout a step passes to `poll(2)`; it does not poll unless both transports have a
descriptor. -/
def polls (d : Device) (ethFd rpcFd : Option Int) (now : Instant) (wait : Option Nat) :
    Option PollTimeout :=
  match ethFd, rpcFd with
  | some _, some _ => some (pollTimeout (d.effectiveWait now wait))
  | _, _ => none

/-- The deadlines of the device. -/
def deadlines (d : Device) : List Instant :=
  d.cm.nextDeadline.toList ++ (d.alarm.bind AlarmChannel.nextDeadline).toList

/-- All that bounds the wait of a step. -/
def waits (d : Device) (now : Instant) (wait : Option Nat) : List Nat :=
  wait.toList ++ d.deadlines.map (· - now)

/-- The wait is the least of all bounds. -/
lemma effectiveWait_eq (d : Device) (now : Instant) (wait : Option Nat) :
    d.effectiveWait now wait = (d.waits now wait).min? := by
  unfold effectiveWait waits nextDeadline deadlines
  cases wait <;> cases d.cm.nextDeadline <;> cases d.alarm.bind AlarmChannel.nextDeadline <;>
    simp [List.min?_cons, Nat.sub_min_sub_right]

end Device

/-- The timeout is at least `d`, and less than a millisecond more. -/
def PollTimeout.Covers (t : PollTimeout) (d : Nat) : Prop :=
  ∃ ms, t = .millis ms ∧ d ≤ ms * 1000000 ∧ ms * 1000000 < d + 1000000

/-- Up to the range of a 16-bit number the timeout is exact to the millisecond. -/
lemma pollTimeout_covers {d : Nat} (h : d ≤ 65535 * 1000000) :
    (pollTimeout (some d)).Covers d := by
  have hms : d / 1000000 + (if d % 1000000000 % 1000000 ≠ 0 then 1 else 0) < 2 ^ 16 := by
    split_ifs <;> omega
  refine ⟨_, if_pos hms, ?_⟩
  dsimp only
  rw [UInt16.toNat_ofNat_of_lt' hms]
  split_ifs <;> omega

/-- Beyond it the timeout is the longest there is. -/
lemma pollTimeout_eq_max {d : Nat} (h : 65535 * 1000000 < d) :
    pollTimeout (some d) = .max := by
  refine if_neg ?_
  split_ifs <;> omega

lemma max_covers_iff {d : Nat} (hd : d ≤ (2 ^ 31 - 1) * 1000000) :
    PollTimeout.max.Covers d ↔ (2 ^ 31 - 2) * 1000000 < d := by
  constructor
  · rintro ⟨ms, h, -, hlt⟩
    cases h
    dsimp only at hlt
    omega
  · intro h
    refine ⟨_, rfl, ?_⟩
    dsimp only
    omega

lemma pollTimeout_eq_none {w : Option Nat} (h : pollTimeout w = .none) : w = none := by
  cases w with
  | none => rfl
  | some d =>
    rcases Nat.lt_or_ge (65535 * 1000000) d with hlong | hshort
    · rw [pollTimeout_eq_max hlong] at h
      cases h
    · obtain ⟨ms, hms, -⟩ := pollTimeout_covers hshort
      rw [hms] at h
      cases h

/-- **How long a step waits**: the timeout is infinite only if nothing bounds the wait. Up to
`i32::MAX` milliseconds it covers the least bound to the millisecond if and only if that bound is
in the range of a 16-bit number, or in the last millisecond of all. -/
theorem polls_covers_iff (d : Device) (ethFd rpcFd : Int) (now : Instant) (wait : Option Nat) :
    ∃ t, d.polls (some ethFd) (some rpcFd) now wait = some t ∧
      (t = .none → wait = none ∧ d.cm.nextDeadline = none ∧
        d.alarm.bind AlarmChannel.nextDeadline = none) ∧
      ∀ m, IsLeast {w | w ∈ d.waits now wait} m → m ≤ (2 ^ 31 - 1) * 1000000 →
        (t.Covers m ↔ m ≤ 65535 * 1000000 ∨ (2 ^ 31 - 2) * 1000000 < m) := by
  refine ⟨_, rfl, ?_, ?_⟩
  · intro h
    have hmin := pollTimeout_eq_none h
    rw [d.effectiveWait_eq] at hmin
    have hnil := List.min?_eq_none_iff.1 hmin
    simpa [Device.waits, Device.deadlines] using hnil
  · rintro m ⟨hmem, hle⟩ hm
    have hmin : (d.waits now wait).min? = some m :=
      List.min?_eq_some_iff.2 ⟨hmem, fun w hw => hle hw⟩
    rw [d.effectiveWait_eq, hmin]
    rcases Nat.lt_or_ge (65535 * 1000000) m with hlong | hshort
    · rw [pollTimeout_eq_max hlong, max_covers_iff hm]
      exact ⟨.inr, fun h => h.resolve_left (by omega)⟩
    · exact ⟨fun _ => .inl hshort, fun _ => pollTimeout_covers hshort⟩

/-- What bounds the wait of a new device is the caller's limit alone. -/
lemma isLeast_waits_new (setup : DeviceSetup) (now : Instant) (w : Nat) :
    IsLeast {m | m ∈ (Device.new setup).waits now (some w)} w :=
  ⟨List.mem_singleton_self w, fun _ hm => le_of_eq (List.mem_singleton.1 hm).symm⟩

open DeviceDemo in
/-- A limit of 1.5 milliseconds is covered by two. -/
theorem polls_covers_short :
    ∃ t, (Device.new setup).polls (some 3) (some 4) 0 (some 1500000) = some t ∧
      t.Covers 1500000 := by
  obtain ⟨t, ht, -, hiff⟩ := polls_covers_iff (Device.new setup) 3 4 0 (some 1500000)
  exact ⟨t, ht, (hiff _ (isLeast_waits_new setup 0 _) (by decide)).2 (.inl (by decide))⟩

open DeviceDemo in
/-- A limit of 100 seconds becomes one of more than 24 days. -/
theorem long_wait_not_covered :
    ¬ ∀ (d : Device) (ethFd rpcFd : Int) (now : Instant) (wait : Option Nat) (t : PollTimeout)
        (m : Nat), d.polls (some ethFd) (some rpcFd) now wait = some t →
        IsLeast {w | w ∈ d.waits now wait} m → m ≤ (2 ^ 31 - 1) * 1000000 → t.Covers m := by
  intro hall
  have hmax : (Device.new setup).polls (some 3) (some 4) 0 (some 100000000000) = some .max :=
    congrArg some (pollTimeout_eq_max (by decide))
  have h := hall _ 3 4 0 _ _ _ hmax (isLeast_waits_new setup 0 _) (by decide)
  exact absurd ((max_covers_iff (by decide)).1 h) (by decide)

end Pnio
