import Pnio.Diag
import Pnio.Lib.Runs

/-!
What the notifications of a store say, after any raises and clears: when there is one, which of
its flags are set, and what is replayed to a controller that comes later.
-/

namespace Pnio

/-- The store of a model and any commands. -/
def diagSystem (model : DeviceModel) : System DiagStore DiagCommand where
  init s := s = .fromModel model
  step s c := some (s.command c).1

namespace DiagStore

variable {s s' : DiagStore} {d : Diagnosis}

lemma Changed.submodules {n : Option AlarmNotification} (h : Changed s s' n) :
    s'.submodules = s.submodules := by
  cases h <;> rfl

/-- In a run the store stays in order and knows the same submodules. -/
lemma reach {model : DeviceModel} (h : (diagSystem model).Reach s) :
    s.Ok ∧ s.submodules = (fromModel model).submodules := by
  refine System.Reach.inv (I := fun s => s.Ok ∧ s.submodules = (fromModel model).submodules)
    ?_ ?_ h
  · rintro s rfl
    exact ⟨new_ok _, rfl⟩
  · rintro s c s' ⟨hok, hsub⟩ hs
    cases hs
    have hc := command_changed hok c
    exact ⟨hc.ok hok, hc.submodules.trans hsub⟩

/-! ### The active set -/

/-- Both stores have the same diagnoses. -/
def SameActive (s s' : DiagStore) : Prop := ∀ k : DiagKey, s'.active[k]? = s.active[k]?

lemma SameActive.refl (s : DiagStore) : s.SameActive s := fun _ => rfl

lemma mem_activeList (hs : s.Ok) : d ∈ s.activeList ↔ s.active[d.key]? = some d := by
  unfold activeList
  rw [List.mem_map]
  constructor
  · rintro ⟨⟨k, e⟩, hp, rfl⟩
    have he := Std.TreeMap.mem_toList_iff_getElem?_eq_some.1 hp
    rwa [hs.key k e he] at he
  · intro h
    exact ⟨(d.key, d), Std.TreeMap.mem_toList_iff_getElem?_eq_some.2 h, rfl⟩

lemma keys_eq (hs : s.Ok) : s.active.keys = s.activeList.map Diagnosis.key := by
  rw [← Std.TreeMap.map_fst_toList_eq_keys, activeList, List.map_map]
  refine List.map_congr_left fun p hp => ?_
  exact hs.key p.1 p.2 (Std.TreeMap.mem_toList_iff_getElem?_eq_some.1 hp)

lemma any_keys_slot (hs : s.Ok) (slot : UInt16) :
    s.active.keys.any (·.1 == slot) = true ↔ ∃ d ∈ s.activeList, d.slot = slot := by
  rw [keys_eq hs]
  simp [Diagnosis.key]

lemma any_keys_channel (hs : s.Ok) (slot channel : UInt16) :
    s.active.keys.any (fun k => k.1 == slot && k.2.1 == channel) = true ↔
      ∃ d ∈ s.activeList, d.slot = slot ∧ d.channel = channel := by
  rw [keys_eq hs]
  simp [Diagnosis.key]

lemma isEmpty_active : s.active.isEmpty = true ↔ s.activeList = [] := by
  rw [activeList, List.map_eq_nil_iff, ← List.isEmpty_iff, Std.TreeMap.isEmpty_toList]

/-! ### The notification of a command -/

/-- The flags of a notification for `slot` describe the store. -/
structure Flags (s : DiagStore) (slot : UInt16) (n : AlarmNotification) : Prop where
  ofSlot : n.slot = slot
  channelDiag : n.specifier.channelDiag ↔ ∃ d ∈ s.activeList, d.slot = slot
  submoduleDiag : n.specifier.submoduleDiag ↔ ∃ d ∈ s.activeList, d.slot = slot
  arDiag : n.specifier.arDiag ↔ s.activeList ≠ []

lemma flags_buildNotification (hs : s.Ok) {i : SubmoduleInfo} (hi : i.slot = d.slot)
    (alarmType : AlarmType) (sp : Specifier) :
    s.Flags d.slot (s.buildNotification i d alarmType sp) := by
  refine ⟨hi, any_keys_slot hs d.slot, any_keys_slot hs d.slot, ?_⟩
  rw [ne_eq, ← isEmpty_active]
  simp [buildNotification]

/-- A raise is announced unless the diagnosis is there with this severity. -/
lemma raise_spec (hs : s.Ok) (d : Diagnosis) :
    ((s.raise d).2 = none ↔ s.SameActive (s.raise d).1) ∧
      ∀ n, (s.raise d).2 = some n → (s.raise d).1.Flags d.slot n := by
  cases hi : s.info d.slot with
  | none =>
    have h : s.raise d = (s, none) := by rw [raise, hi]
    rw [h]
    refine ⟨iff_of_true rfl (SameActive.refl s), fun n hn => ?_⟩
    cases hn
  | some i =>
    obtain ⟨e, he⟩ : ∃ e, e = ({ d with direction := i.direction } : Diagnosis) := ⟨_, rfl⟩
    have hslot : e.slot = d.slot := by rw [he]
    by_cases hany : (s.active[e.key]?).any (·.severity == e.severity) = true
    · have h : s.raise d = (s, none) := by
        rw [he] at hany
        rw [raise, hi]
        exact if_pos hany
      rw [h]
      refine ⟨iff_of_true rfl (SameActive.refl s), fun n hn => ?_⟩
      cases hn
    · have h : s.raise d = (s.raised e,
          some ((s.raised e).buildNotification i e .diagnosis .appears)) := by
        rw [he] at hany ⊢
        rw [raise, hi]
        exact if_neg hany
      rw [h]
      refine ⟨iff_of_false nofun fun hsame => hany ?_, fun n hn => ?_⟩
      · have := hsame e.key
        rw [getElem?_raised, if_pos rfl] at this
        rw [← this]
        simp
      · cases hn
        have hok : (s.raised e).Ok := (Changed.raised (hslot.symm ▸ hi)).ok hs
        rw [← hslot]
        exact flags_buildNotification hok ((info_slot hi).trans hslot.symm) _ _

/-- A clear is announced exactly if there was something to clear. -/
lemma clear_spec (hs : s.Ok) (slot channel : UInt16) (err : ChannelError) :
    ((s.clear slot channel err).2 = none ↔ s.SameActive (s.clear slot channel err).1) ∧
      ∀ n, (s.clear slot channel err).2 = some n → (s.clear slot channel err).1.Flags slot n ∧
        ∃ cd, n.data = .channel cd ∧ (cd.properties.specifier = .disappearsOthersRemain ↔
          ∃ d ∈ (s.clear slot channel err).1.activeList, d.slot = slot ∧ d.channel = channel) := by
  unfold clear
  dsimp only
  cases hd : s.active[((slot, channel, err.code) : DiagKey)]? with
  | none =>
    refine ⟨iff_of_true rfl (SameActive.refl s), fun n hn => ?_⟩
    cases hn
  | some e =>
    have hkey := hs.key _ e hd
    have hslot : slot = e.slot := (Prod.mk.inj hkey).1
    obtain ⟨i, hi⟩ := Option.isSome_iff_exists.1 (hs.known _ e hd)
    have hi' : (s.cleared (slot, channel, err.code)).info slot = some i := by
      rw [hslot]
      exact hi
    have hok : (s.cleared (slot, channel, err.code)).Ok := by
      rw [hkey] at hd ⊢
      exact (@Changed.cleared s e i .appears hd hi).ok hs
    dsimp only
    rw [hi']
    dsimp only
    refine ⟨iff_of_false nofun fun hsame => ?_, fun n hn => ?_⟩
    · have := hsame (slot, channel, err.code)
      rw [getElem?_cleared, if_pos rfl, hd] at this
      cases this
    · cases hn
      refine ⟨?_, _, rfl, ?_⟩
      · have h := flags_buildNotification hok (i := i) (info_slot hi) .diagnosisDisappears
          (if ((s.cleared (slot, channel, err.code)).active.keys.any fun k =>
            k.1 == slot && k.2.1 == channel) then .disappearsOthersRemain else .disappears)
        rw [← hslot] at h
        exact h
      · rw [← any_keys_channel hok]
        dsimp only
        split_ifs with h
        · exact iff_of_true rfl h
        · exact iff_of_false nofun h

/-! ### The replay -/

/-- The notification that tells of an active diagnosis: on its channel, with its error and
severity, for its submodule as the model has it, and with all flags set. -/
structure Announces (model : DeviceModel) (d : Diagnosis) (n : AlarmNotification) : Prop where
  alarmType : n.alarmType = .diagnosis
  slot : n.slot = d.slot
  submodule : ∃ slot ∈ model.slots, ∃ sm, slot.slot = d.slot ∧ 0 < d.slot ∧
    slot.submodules.find? (·.subslot == 1) = some sm ∧ n.subslot = sm.subslot ∧
    n.moduleIdent = slot.moduleIdent ∧ n.submoduleIdent = sm.submoduleIdent ∧
    n.data = .channel
      { channel := d.channel
        properties :=
          { type := 0
            accumulative := false
            maintenance := match d.severity with
              | .fault => .fault
              | .maintenanceRequired => .required
              | .maintenanceDemanded => .demanded
            specifier := .appears
            -- 1 for inputs alone, 2 for outputs alone, 3 for both or neither
            direction :=
              if sm.outputLen = 0 ∧ 0 < sm.inputLen then 1
              else if sm.inputLen = 0 ∧ 0 < sm.outputLen then 2
              else 3 }
        errorType := d.error.code }
  flags : n.specifier.channelDiag ∧ n.specifier.submoduleDiag ∧ n.specifier.arDiag

/-- The number of a submodule's direction on the wire. -/
lemma directionOf_number (sm : SubmoduleModel) :
    ((match directionOf sm with
      | .input => 1
      | .output => 2
      | .inputOutput => 3) : UInt8) =
      if sm.outputLen = 0 ∧ 0 < sm.inputLen then 1
      else if sm.inputLen = 0 ∧ 0 < sm.outputLen then 2
      else 3 := by
  unfold directionOf
  split_ifs <;> rfl

/-- What the store knows of a slot is in the model. -/
lemma info_fromModel {model : DeviceModel} {slot : UInt16} {i : SubmoduleInfo}
    (hsub : s.submodules = (fromModel model).submodules) (hi : s.info slot = some i) :
    ∃ sl ∈ model.slots, ∃ sm, sl.slot = slot ∧ 0 < slot ∧
      sl.submodules.find? (·.subslot == 1) = some sm ∧
      i = ⟨slot, 1, sl.moduleIdent, sm.submoduleIdent, directionOf sm⟩ := by
  have hmem : i ∈ (fromModel model).submodules := hsub ▸ List.mem_of_find?_eq_some hi
  have hslot := info_slot hi
  simp only [fromModel, new, List.mem_filterMap, List.mem_filter, decide_eq_true_eq] at hmem
  obtain ⟨sl, ⟨hsl, hpos⟩, hsm⟩ := hmem
  obtain ⟨sm, hfind, hi⟩ := Option.bind_eq_some_iff.1 hsm
  cases hi
  cases hslot
  exact ⟨sl, hsl, sm, rfl, hpos, hfind, rfl⟩

lemma announces_buildNotification {model : DeviceModel} (hs : s.Ok)
    (hsub : s.submodules = (fromModel model).submodules) (hd : d ∈ s.activeList)
    {i : SubmoduleInfo} (hi : s.info d.slot = some i) :
    Announces model d (s.buildNotification i d .diagnosis .appears) := by
  have hf := flags_buildNotification hs (info_slot hi) .diagnosis .appears
  obtain ⟨sl, hsl, sm, hslot, hpos, hfind, rfl⟩ := info_fromModel hsub hi
  have hone : 1 = sm.subslot := by
    have hbeq := List.find?_some hfind
    exact (beq_iff_eq.1 hbeq).symm
  refine ⟨rfl, rfl, ⟨sl, hsl, sm, hslot, hpos, hfind, hone, rfl, rfl, ?_⟩, ?_, ?_, ?_⟩
  · rw [← directionOf_number]
    rfl
  · exact hf.channelDiag.2 ⟨d, hd, rfl⟩
  · exact hf.submoduleDiag.2 ⟨d, hd, rfl⟩
  · exact hf.arDiag.2 (List.ne_nil_of_mem hd)

lemma replay_announces {model : DeviceModel} (hs : s.Ok)
    (hsub : s.submodules = (fromModel model).submodules) :
    List.Forall₂ (Announces model) s.activeList s.replay := by
  have hall : ∀ d ∈ s.activeList, ∃ i, s.info d.slot = some i := fun d hd =>
    Option.isSome_iff_exists.1 (hs.known d.key d ((mem_activeList hs).1 hd))
  have hann : ∀ d ∈ s.activeList, ∀ i, s.info d.slot = some i →
      Announces model d (s.buildNotification i d .diagnosis .appears) := fun d hd i hi =>
    announces_buildNotification hs hsub hd hi
  unfold replay
  -- by induction over the list, with what holds of its members
  generalize s.activeList = l at hall hann
  induction l with
  | nil => exact .nil
  | cons d l ih =>
    obtain ⟨i, hi⟩ := hall d (by simp)
    rw [List.filterMap_cons, hi]
    refine .cons (hann d (by simp) i hi) (ih ?_ ?_)
    · exact fun e he => hall e (by simp [he])
    · exact fun e he => hann e (by simp [he])

end DiagStore

/-- The slot a command is about. -/
def DiagCommand.slot : DiagCommand → UInt16
  | .raise d => d.slot
  | .clear slot _ _ => slot

/-- **The notifications describe the store.** After any raises and clears on the store of a model:

* a command is not announced exactly if it leaves the active set as it was;
* the flags of a notification say what the set has after the command, on the slot and altogether;
* a clear says that others remain exactly if one does, on the same slot and channel;
* the replay has one notification for each active diagnosis. -/
theorem notifications_describe_store {model : DeviceModel} {s : DiagStore}
    (hr : (diagSystem model).Reach s) :
    (∀ c, (s.command c).2 = none ↔ s.SameActive (s.command c).1) ∧
    (∀ c n, (s.command c).2 = some n → (s.command c).1.Flags c.slot n) ∧
    (∀ slot channel err n, (s.clear slot channel err).2 = some n →
      ∃ cd, n.data = .channel cd ∧ (cd.properties.specifier = .disappearsOthersRemain ↔
        ∃ d ∈ (s.clear slot channel err).1.activeList, d.slot = slot ∧ d.channel = channel)) ∧
    List.Forall₂ (DiagStore.Announces model) s.activeList s.replay := by
  obtain ⟨hs, hsub⟩ := DiagStore.reach hr
  refine ⟨fun c => ?_, fun c n hn => ?_, fun slot channel err n hn => ?_,
    DiagStore.replay_announces hs hsub⟩
  · cases c with
    | raise d => exact (DiagStore.raise_spec hs d).1
    | clear slot channel err => exact (DiagStore.clear_spec hs slot channel err).1
  · cases c with
    | raise d => exact (DiagStore.raise_spec hs d).2 n hn
    | clear slot channel err => exact ((DiagStore.clear_spec hs slot channel err).2 n hn).1
  · exact ((DiagStore.clear_spec hs slot channel err).2 n hn).2

namespace DiagDemo

/-- Two bytes of inputs in slot 1. -/
def model : DeviceModel :=
  { vendorId := 1
    deviceId := 1
    inst := 0
    stationName := .ofAscii [0x61]
    mac := .of 2 0 0 0 0 1
    maxAlarmDataLength := 200
    slots := [{ slot := 1, moduleIdent := 7, submodules := [⟨1, 8, 2, 0⟩] }] }

def wire (e : ChannelError) : Diagnosis :=
  { slot := 1, channel := 3, error := e, severity := .fault, direction := .input }

/-- Two diagnoses of one channel. -/
def commands : List DiagCommand := [.raise (wire .lineBreak), .raise (wire .shortCircuit)]

def hasBoth (s : DiagStore) : Bool :=
  s.activeList = [wire .shortCircuit, wire .lineBreak] &&
    (s.clear 1 3 .lineBreak).1.activeList = [wire .shortCircuit] &&
    (s.clear 1 3 .lineBreak).2.isSome

end DiagDemo

open DiagDemo in
/-- One of two diagnoses of a channel is cleared: the other remains. -/
theorem notifications_describe_two_diagnoses :
    ∃ s n cd, (diagSystem DiagDemo.model).Reach s ∧ s.replay.length = 2 ∧
      (s.clear 1 3 .lineBreak).2 = some n ∧ n.specifier.channelDiag ∧ n.data = .channel cd ∧
      cd.properties.specifier = .disappearsOthersRemain := by
  have hrun : ((diagSystem DiagDemo.model).run (.fromModel DiagDemo.model) commands).any
      hasBoth = true := by
    decide +kernel
  obtain ⟨s, hr, hs⟩ := System.exists_reach_of_run (S := diagSystem DiagDemo.model) rfl hrun
  simp only [hasBoth, Bool.and_eq_true, decide_eq_true_eq] at hs
  obtain ⟨⟨hboth, hleft⟩, hn⟩ := hs
  obtain ⟨n, hn⟩ := Option.isSome_iff_exists.1 hn
  obtain ⟨-, hflags, hclear, hreplay⟩ := notifications_describe_store hr
  obtain ⟨cd, hcd, hiff⟩ := hclear 1 3 .lineBreak n hn
  have hmem : wire .shortCircuit ∈ (s.clear 1 3 .lineBreak).1.activeList := by
    rw [hleft]
    exact List.mem_singleton.2 rfl
  refine ⟨s, n, cd, hr, ?_, hn, ?_, hcd, hiff.2 ⟨_, hmem, rfl, rfl⟩⟩
  · rw [← hreplay.length_eq, hboth]
    rfl
  · exact (hflags (.clear 1 3 .lineBreak) n hn).channelDiag.2 ⟨_, hmem, rfl⟩

end Pnio
