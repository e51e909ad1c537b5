import Pnio.Config
import Pnio.Rta

/-!
The store of active channel diagnoses and the notifications it produces.

`View` is what a controller knows from the notifications it was sent. Every change of the
store and the notification made of it keep a view that tracks the store.
-/

namespace Pnio

inductive ChannelError where
  | shortCircuit
  | undervoltage
  | overvoltage
  | overload
  | overtemperature
  | lineBreak
  | upperLimitExceeded
  | lowerLimitExceeded
  | error
deriving DecidableEq, Repr

def ChannelError.code : ChannelError → UInt16
  | shortCircuit => 1
  | undervoltage => 2
  | overvoltage => 3
  | overload => 4
  | overtemperature => 5
  | lineBreak => 6
  | upperLimitExceeded => 7
  | lowerLimitExceeded => 8
  | error => 9

inductive Severity where
  | fault
  | maintenanceRequired
  | maintenanceDemanded
deriving DecidableEq, Repr

def Severity.maintenance : Severity → Maintenance
  | fault => .fault
  | maintenanceRequired => .required
  | maintenanceDemanded => .demanded

structure Diagnosis where
  slot : UInt16
  channel : UInt16
  error : ChannelError
  severity : Severity
  direction : Direction
deriving DecidableEq, Repr

/-- Slot, channel and error code. -/
abbrev DiagKey := UInt16 × UInt16 × UInt16

def Diagnosis.key (d : Diagnosis) : DiagKey := (d.slot, d.channel, d.error.code)

/-- Keys in the order of their components. -/
def DiagKey.cmp (a b : DiagKey) : Ordering :=
  (compare a.1 b.1).then ((compare a.2.1 b.2.1).then (compare a.2.2 b.2.2))

instance : Std.TransCmp DiagKey.cmp :=
  inferInstanceAs (Std.TransCmp (compareLex (compareOn fun k : DiagKey => k.1)
    (compareLex (compareOn fun k : DiagKey => k.2.1) (compareOn fun k : DiagKey => k.2.2))))

instance : Std.LawfulEqCmp DiagKey.cmp where
  eq_of_compare := by
    intro a b h
    simp only [DiagKey.cmp, Ordering.then_eq_eq, Std.LawfulEqCmp.compare_eq_iff_eq] at h
    exact Prod.ext h.1 (Prod.ext h.2.1 h.2.2)

structure SubmoduleInfo where
  slot : UInt16
  subslot : UInt16
  moduleIdent : UInt32
  submoduleIdent : UInt32
  direction : Direction
deriving DecidableEq, Repr

structure DiagStore where
  submodules : List SubmoduleInfo
  active : Std.TreeMap DiagKey Diagnosis DiagKey.cmp

namespace DiagStore

def new (submodules : List SubmoduleInfo) : DiagStore := { submodules, active := ∅ }

def directionOf (sm : SubmoduleModel) : Direction :=
  if sm.outputLen = 0 ∧ 0 < sm.inputLen then .input
  else if sm.inputLen = 0 ∧ 0 < sm.outputLen then .output
  else .inputOutput

/-- Subslot 1 of every slot above 0. -/
def fromModel (model : DeviceModel) : DiagStore :=
  new ((model.slots.filter (0 < ·.slot)).filterMap fun slot => do
    let sm ← slot.submodules.find? (·.subslot == 1)
    some { slot := slot.slot, subslot := 1, moduleIdent := slot.moduleIdent,
           submoduleIdent := sm.submoduleIdent, direction := directionOf sm })

def info (s : DiagStore) (slot : UInt16) : Option SubmoduleInfo :=
  s.submodules.find? (·.slot == slot)

/-- The flags describe the store as it is, after the change that is announced. -/
def buildNotification (s : DiagStore) (info : SubmoduleInfo) (d : Diagnosis)
    (alarmType : AlarmType) (specifier : Specifier) : AlarmNotification :=
  let channelDiag := s.active.keys.any (·.1 == d.slot)
  { alarmType
    api := 0
    slot := info.slot
    subslot := info.subslot
    moduleIdent := info.moduleIdent
    submoduleIdent := info.submoduleIdent
    specifier :=
      { sequence := 0
        channelDiag
        manufacturerDiag := false
        submoduleDiag := channelDiag
        arDiag := !s.active.isEmpty }
    usi := usiChannelDiag
    data := .channel
      { channel := d.channel
        properties :=
          { type := 0
            accumulative := false
            maintenance := d.severity.maintenance
            specifier
            direction := match info.direction with
              | .input => 1
              | .output => 2
              | .inputOutput => 3 }
        errorType := d.error.code } }

/-- The store after `d` was raised on a known submodule. -/
def raised (s : DiagStore) (d : Diagnosis) : DiagStore :=
  { s with active := s.active.insert d.key d }

def raise (s : DiagStore) (d : Diagnosis) : DiagStore × Option AlarmNotification :=
  match s.info d.slot with
  | none => (s, none)
  | some info =>
    let d := { d with direction := info.direction }
    if (s.active[d.key]?).any (·.severity == d.severity) then (s, none)
    else (s.raised d, some ((s.raised d).buildNotification info d .diagnosis .appears))

/-- The store without the entry. -/
def cleared (s : DiagStore) (key : DiagKey) : DiagStore := { s with active := s.active.erase key }

/-- An entry of a slot the store does not know would go unannounced. -/
def clear (s : DiagStore) (slot channel : UInt16) (err : ChannelError) :
    DiagStore × Option AlarmNotification :=
  let key : DiagKey := (slot, channel, err.code)
  match s.active[key]? with
  | none => (s, none)
  | some removed =>
    let s := s.cleared key
    match s.info slot with
    | none => (s, none)
    | some info =>
      let othersOnChannel := s.active.keys.any fun k => k.1 == slot && k.2.1 == channel
      let specifier := if othersOnChannel then .disappearsOthersRemain else .disappears
      (s, some (s.buildNotification info removed .diagnosisDisappears specifier))

/-- The active diagnoses in key order. -/
def activeList (s : DiagStore) : List Diagnosis := s.active.toList.map (·.2)

def problemIndicator (s : DiagStore) : Bool := s.activeList.any (·.severity == .fault)

def replay (s : DiagStore) : List AlarmNotification :=
  s.activeList.filterMap fun d => do
    let info ← s.info d.slot
    some (s.buildNotification info d .diagnosis .appears)

end DiagStore

inductive DiagCommand where
  | raise (d : Diagnosis)
  | clear (slot channel : UInt16) (err : ChannelError)
deriving DecidableEq, Repr

/-- The change a command makes, and what is to be announced. -/
def DiagStore.command (s : DiagStore) : DiagCommand → DiagStore × Option AlarmNotification
  | .raise d => s.raise d
  | .clear slot channel err => s.clear slot channel err

/-! ### The controller's view -/

/-- What a controller believes about every slot, channel and error. -/
abbrev View := DiagKey → Option Severity

namespace View

def empty : View := fun _ => none

def severityOf : Maintenance → Option Severity
  | .fault => some .fault
  | .required => some .maintenanceRequired
  | .demanded => some .maintenanceDemanded
  | .qualified => none

/-- A Diagnosis sets the severity of its key, a DiagnosisDisappears removes it. -/
def receive (v : View) (n : AlarmNotification) : View :=
  match n.data with
  | .channel cd =>
    let key : DiagKey := (n.slot, cd.channel, cd.errorType)
    if n.alarmType = .diagnosis then Function.update v key (severityOf cd.properties.maintenance)
    else if n.alarmType = .diagnosisDisappears then Function.update v key none
    else v
  | _ => v

end View

@[simp] lemma View.severityOf_maintenance (s : Severity) :
    View.severityOf s.maintenance = some s := by
  cases s <;> rfl

namespace DiagStore

/-- The severity under which a key is active. -/
def severity (s : DiagStore) (key : DiagKey) : Option Severity := (s.active[key]?).map (·.severity)

/-- Entries lie under their own key, on submodules the store knows. -/
structure Ok (s : DiagStore) : Prop where
  key : ∀ (k : DiagKey) (d : Diagnosis), s.active[k]? = some d → k = d.key
  known : ∀ (k : DiagKey) (d : Diagnosis), s.active[k]? = some d → (s.info d.slot).isSome

/-- The view agrees with the store. -/
def TrackedBy (s : DiagStore) (v : View) : Prop := ∀ key, v key = s.severity key

lemma info_slot {s : DiagStore} {slot : UInt16} {i : SubmoduleInfo} (h : s.info slot = some i) :
    i.slot = slot := by
  have := List.find?_some h
  simpa using this

lemma info_raised {s : DiagStore} {d : Diagnosis} {slot : UInt16} :
    (s.raised d).info slot = s.info slot := rfl

/-- What a command can do to a store that is in order. -/
inductive Changed (s : DiagStore) : DiagStore → Option AlarmNotification → Prop
  | same : Changed s s none
  | raised {d : Diagnosis} {i : SubmoduleInfo} (hi : s.info d.slot = some i) :
      Changed s (s.raised d)
        (some ((s.raised d).buildNotification i d .diagnosis .appears))
  | cleared {d : Diagnosis} {i : SubmoduleInfo} {sp : Specifier} (hd : s.active[d.key]? = some d)
      (hi : s.info d.slot = some i) :
      Changed s (s.cleared d.key)
        (some ((s.cleared d.key).buildNotification i d .diagnosisDisappears sp))

lemma raise_changed (s : DiagStore) (d : Diagnosis) :
    Changed s (s.raise d).1 (s.raise d).2 := by
  unfold raise
  split
  · exact .same
  · rename_i i hi
    dsimp only
    split_ifs
    · exact .same
    · exact .raised hi

lemma clear_changed {s : DiagStore} (hs : s.Ok) (slot channel : UInt16) (err : ChannelError) :
    Changed s (s.clear slot channel err).1 (s.clear slot channel err).2 := by
  unfold clear
  dsimp only
  split
  · exact .same
  · rename_i d hd
    have hkey := hs.key _ d hd
    obtain ⟨hslot, -⟩ := Prod.mk.inj hkey
    obtain ⟨i, hi⟩ := Option.isSome_iff_exists.1 (hs.known _ d hd)
    have hi' : (s.cleared (slot, channel, err.code)).info slot = some i := by
      rw [hslot]; exact hi
    rw [hi']
    rw [hkey] at hd ⊢
    exact .cleared hd hi

lemma command_changed {s : DiagStore} (hs : s.Ok) (c : DiagCommand) :
    Changed s (s.command c).1 (s.command c).2 := by
  cases c with
  | raise d => exact raise_changed s d
  | clear slot channel err => exact clear_changed hs slot channel err

lemma getElem?_raised (s : DiagStore) (d : Diagnosis) (k : DiagKey) :
    (s.raised d).active[k]? = if d.key = k then some d else s.active[k]? := by
  rw [raised, Std.TreeMap.getElem?_insert]
  simp only [Std.LawfulEqCmp.compare_eq_iff_eq]

lemma getElem?_cleared (s : DiagStore) (k k' : DiagKey) :
    (s.cleared k).active[k']? = if k = k' then none else s.active[k']? := by
  rw [cleared, Std.TreeMap.getElem?_erase]
  simp only [Std.LawfulEqCmp.compare_eq_iff_eq]

lemma Changed.ok {s s' : DiagStore} {n : Option AlarmNotification} (h : Changed s s' n)
    (hs : s.Ok) : s'.Ok := by
  cases h with
  | same => exact hs
  | @raised d i hi =>
    constructor
    · intro k e he
      rw [getElem?_raised] at he
      split_ifs at he with hk
      · cases he; exact hk.symm
      · exact hs.key k e he
    · intro k e he
      rw [getElem?_raised] at he
      split_ifs at he with hk
      · cases he
        rw [info_raised, hi]
        rfl
      · exact hs.known k e he
  | cleared hd hi =>
    constructor
    · intro k e he
      rw [getElem?_cleared] at he
      split_ifs at he
      exact hs.key k e he
    · intro k e he
      rw [getElem?_cleared] at he
      split_ifs at he
      exact hs.known k e he

section Track

variable {s s' : DiagStore} {v : View} {d : Diagnosis} {i : SubmoduleInfo}

lemma receive_appears (hi : s'.info d.slot = some i) (sp : Specifier) :
    v.receive (s.buildNotification i d .diagnosis sp) =
      Function.update v d.key (some d.severity) := by
  simp [View.receive, buildNotification, Diagnosis.key, info_slot hi]

lemma receive_disappears (hi : s'.info d.slot = some i) (sp : Specifier) :
    v.receive (s.buildNotification i d .diagnosisDisappears sp) =
      Function.update v d.key none := by
  simp [View.receive, buildNotification, Diagnosis.key, info_slot hi]

/-- A view that hears of every change keeps tracking the store. -/
lemma Changed.tracked {n : Option AlarmNotification} (h : Changed s s' n) (hv : s.TrackedBy v) :
    s'.TrackedBy (n.toList.foldl View.receive v) := by
  cases h with
  | same => exact hv
  | @raised d i hi =>
    intro k
    rw [Option.toList_some, List.foldl_cons, List.foldl_nil, receive_appears hi, severity,
      getElem?_raised, Function.update_apply]
    by_cases hk : k = d.key
    · rw [if_pos hk, if_pos hk.symm]
      rfl
    · rw [if_neg hk, if_neg (Ne.symm hk)]
      exact hv k
  | @cleared d i sp hd hi =>
    intro k
    rw [Option.toList_some, List.foldl_cons, List.foldl_nil, receive_disappears hi, severity,
      getElem?_cleared, Function.update_apply]
    by_cases hk : k = d.key
    · rw [if_pos hk, if_pos hk.symm]
      rfl
    · rw [if_neg hk, if_neg (Ne.symm hk)]
      exact hv k

/-- The view after the severities of a list were set one by one. -/
def setAll (v : View) (l : List (DiagKey × Diagnosis)) : View :=
  l.foldl (fun v p => Function.update v p.1 (some p.2.severity)) v

lemma setAll_of_not_mem {l : List (DiagKey × Diagnosis)} {k : DiagKey} (h : ∀ p ∈ l, p.1 ≠ k) :
    setAll v l k = v k := by
  induction l generalizing v with
  | nil => rfl
  | cons p l ih =>
    have hp : k ≠ p.1 := (h p (by simp)).symm
    rw [setAll, List.foldl_cons, ← setAll, ih fun q hq => h q (by simp [hq]),
      Function.update_of_ne hp]

lemma setAll_of_mem {l : List (DiagKey × Diagnosis)} (hl : l.Pairwise fun a b => a.1 ≠ b.1)
    {p : DiagKey × Diagnosis} (hp : p ∈ l) : setAll v l p.1 = some p.2.severity := by
  induction l generalizing v with
  | nil => cases hp
  | cons q l ih =>
    obtain ⟨hq, hl⟩ := List.pairwise_cons.1 hl
    rw [setAll, List.foldl_cons, ← setAll]
    rcases List.mem_cons.1 hp with rfl | hp
    · rw [setAll_of_not_mem fun r hr => (hq r hr).symm, Function.update_self]
    · exact ih hl hp

/-- Every entry is announced, under its own key. -/
lemma foldl_replay (hs : s.Ok) : s.replay.foldl View.receive v = setAll v s.active.toList := by
  have hall : ∀ p ∈ s.active.toList, p.1 = p.2.key ∧ (s.info p.2.slot).isSome := by
    intro p hp
    have := Std.TreeMap.mem_toList_iff_getElem?_eq_some.1 hp
    exact ⟨hs.key _ _ this, hs.known _ _ this⟩
  unfold replay activeList
  generalize s.active.toList = l at hall
  induction l generalizing v with
  | nil => rfl
  | cons p l ih =>
    obtain ⟨hk, hn⟩ := hall p (by simp)
    obtain ⟨i, hi⟩ := Option.isSome_iff_exists.1 hn
    have ih := @ih (Function.update v p.1 (some p.2.severity)) fun q hq => hall q (by simp [hq])
    rw [List.map_cons, List.filterMap_cons, hi, setAll, List.foldl_cons, ← setAll, ← ih]
    simp only [Option.bind_eq_bind, Option.bind_some, List.foldl_cons, receive_appears hi, hk]

/-- Replaying the store to a controller that knows nothing. -/
lemma replay_tracked (hs : s.Ok) : s.TrackedBy (s.replay.foldl View.receive .empty) := by
  intro k
  rw [foldl_replay hs, severity]
  have hdistinct : s.active.toList.Pairwise fun a b => a.1 ≠ b.1 := by
    refine s.active.distinct_keys_toList.imp fun h => ?_
    simpa only [Std.LawfulEqCmp.compare_eq_iff_eq] using h
  cases hk : s.active[k]? with
  | none =>
    refine setAll_of_not_mem fun p hp h => ?_
    have := Std.TreeMap.mem_toList_iff_getElem?_eq_some.1 hp
    rw [h, hk] at this
    cases this
  | some d =>
    exact setAll_of_mem hdistinct (Std.TreeMap.mem_toList_iff_getElem?_eq_some.2 hk)

end Track

lemma new_ok (submodules : List SubmoduleInfo) : (new submodules).Ok := by
  constructor <;> intro k d h <;> simp [new] at h

end DiagStore

end Pnio
