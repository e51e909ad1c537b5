import Pnio.ConfigSpec
import Pnio.GsdmlDoc

/-!
The GSDML document can be read: whatever the texts of the vendor and the names in the configuration
are, no value ends before its closing quote.
-/

namespace Pnio

open Xml (Piece free free_iff quote)

/-! ### Values without quotes -/

section Free

variable (b : UInt8) (s t : Bytes)

@[simp] lemma free_append : free b (s ++ t) = (free b s && free b t) := List.all_append

@[simp] lemma free_dec (n : Nat) : free quote (dec n) = true :=
  free_iff.2 fun h => absurd (isDigit_of_mem_dec h) (by decide)

@[simp] lemma free_hex (width n : Nat) : free quote (hex width n) = true := by
  have hdigit : ∀ d < 16, hexDigit d ≠ quote := by decide
  refine free_iff.2 fun h => ?_
  obtain ⟨i, -, hi⟩ := List.mem_map.1 h
  exact hdigit _ (Nat.mod_lt _ (by decide)) hi

/-- This is what the escaping is for. -/
@[simp] lemma free_escape (s : Str) : free quote (escape s) = true := by
  refine free_iff.2 fun h => ?_
  obtain ⟨b, -, hb⟩ := List.mem_flatMap.1 h
  unfold escapeByte at hb
  split_ifs at hb with h1 h2 h3 h4 h5
  · exact absurd hb (by decide)
  · exact absurd hb (by decide)
  · exact absurd hb (by decide)
  · exact absurd hb (by decide)
  · exact absurd hb (by decide)
  · exact h4 (List.mem_singleton.1 hb).symm

lemma free_swPrefix {c : Char} (h : c ∈ Im0.validSwPrefixes) :
    free quote (String.utf8EncodeChar c) = true := by
  have hall : Im0.validSwPrefixes.all (free quote <| String.utf8EncodeChar ·) = true := by decide
  exact List.all_eq_true.1 hall c h

end Free

/-! ### The parts of the document -/

lemma ok_line (indent : Nat) (ps : List Piece) :
    (line indent ps).all Piece.ok = ps.all Piece.ok := by
  have hindent : Piece.ok (.text (String.ofList (List.replicate indent ' '))) = true := by
    refine free_iff.2 fun h => ?_
    rw [utf8_ofList, List.mem_flatMap] at h
    obtain ⟨c, hc, hlt⟩ := h
    rw [List.eq_of_mem_replicate hc] at hlt
    exact absurd hlt (by decide)
  have hend : Piece.ok (.text "\n") = true := by decide
  rw [line, List.cons_append, List.all_cons, hindent, List.all_append, List.all_cons, hend]
  simp

section Parts

variable {cfg : DeviceConfig} (vendor : GsdmlMeta) (n : UInt16)

lemma ok_profileHeader : profileHeader.all Piece.ok = true := by decide

lemma ok_accessPointSubmodule : accessPointSubmodule.all Piece.ok = true := by decide

lemma ok_accessPointTail : accessPointTail.all Piece.ok = true := by decide

lemma ok_textListHead : textListHead.all Piece.ok = true := by decide

lemma ok_textListTail : textListTail.all Piece.ok = true := by decide

lemma ok_deviceIdentity : (deviceIdentity cfg vendor).all Piece.ok = true := by
  simp only [deviceIdentity, List.all_append, ok_line, List.all_cons, List.all_nil, Piece.ok,
    free_append, free_hex, free_escape, Bool.and_true]
  decide

/-- Here the document depends on a check of the builder: the letter is not escaped. -/
lemma ok_identity (h : cfg.im0.softwareRevision.swPrefix ∈ Im0.validSwPrefixes) :
    (moduleIdentityXml cfg).all Piece.ok = true := by
  simp only [moduleIdentityXml, List.all_append, ok_line, List.all_cons, List.all_nil, Piece.ok,
    free_append, free_dec, free_escape, free_swPrefix h, Bool.true_and, Bool.and_true]
  decide

lemma ok_accessPointHead (h : (moduleIdentityXml cfg).all Piece.ok = true) :
    (accessPointHead cfg vendor).all Piece.ok = true := by
  simp only [accessPointHead, h, List.all_append, ok_line, List.all_cons, List.all_nil, Piece.ok,
    free_append, free_dec, free_escape, Bool.and_true]
  decide

lemma ok_moduleItemRef (s : SubmoduleSpec) : (moduleItemRef s).all Piece.ok = true := by
  simp only [moduleItemRef, ok_line, List.all_cons, List.all_nil, Piece.ok, utf8_append, utf8_slot,
    toString_text, free_append, free_dec, Bool.and_true]
  decide

lemma ok_timingProperties : (timingProperties cfg).all Piece.ok = true := by
  have hclock : free quote (sendClock cfg) = true := by
    unfold sendClock
    split_ifs
    · simp only [utf8_append, utf8_slot, toString_text, free_append, free_dec, Bool.true_and]
      decide
    · decide
  simp only [timingProperties, ok_line, List.all_cons, List.all_nil, Piece.ok, hclock,
    Bool.and_true]
  decide

lemma ok_moduleHead (s : SubmoduleSpec) (h : (moduleIdentityXml cfg).all Piece.ok = true) :
    (moduleHead cfg s).x.all Piece.ok = true := by
  simp only [moduleHead, h, List.all_append, ok_line, List.all_cons, List.all_nil, Piece.ok,
    utf8_append, utf8_slot, toString_text, free_append, free_dec, free_hex, Bool.and_true]
  decide

lemma ok_moduleTail : (moduleTail n).all Piece.ok = true := by
  simp only [moduleTail, List.all_append, ok_line, List.all_cons, List.all_nil, Piece.ok,
    utf8_append, utf8_slot, toString_text, free_append, free_dec, Bool.and_true]
  decide

end Parts

/-! ### The items -/

section Items

variable (n : UInt16) (side : Side)

lemma free_short : free quote (utf8 side.short) = true := by
  cases side <;> decide

lemma ok_bit (group : List (Nat × FieldRef)) :
    ((group.map fun p => (⟨p.2.bit, bitId n side.short p.1⟩ : BitDataItem)).flatMap
      BitDataItem.xml).all Piece.ok = true := by
  refine List.all_eq_true.2 fun piece hpiece => ?_
  obtain ⟨b, hb, hpiece⟩ := List.mem_flatMap.1 hpiece
  obtain ⟨p, -, rfl⟩ := List.mem_map.1 hb
  refine List.all_eq_true.1 ?_ piece hpiece
  simp only [BitDataItem.xml, bitId, ok_line, List.all_cons, List.all_nil, Piece.ok, utf8_append,
    utf8_slot, utf8_index, utf8_offset, toString_text, free_append, free_dec, free_short,
    Bool.and_true]
  decide

lemma ok_item (item : Item) : (item.render n side.short).xml.all Piece.ok = true := by
  cases item with
  | scalar ty i =>
    have hty : free quote (utf8 (dataType ty).name) = true := by cases ty <;> decide
    simp only [Item.render, DataItem.xml, scalarId, ok_line, List.all_cons, List.all_nil, Piece.ok,
      utf8_append, utf8_slot, utf8_index, toString_text, free_append, free_dec, free_short, hty,
      Bool.and_true]
    decide
  | bits group =>
    simp only [Item.render, DataItem.xml, bitsId, List.all_append, ok_bit, ok_line, List.all_cons,
      List.all_nil, Piece.ok, utf8_append, utf8_slot, utf8_index, toString_text, free_append,
      free_dec, free_short, DataType.name, Bool.and_true]
    decide

lemma ok_sideDraft (cfg : DeviceConfig) : (sideDraft cfg n side).x.all Piece.ok = true := by
  unfold sideDraft
  cases cfg.fields n side.direction with
  | none => rfl
  | some fields =>
    have hitems : (((items fields).map (Item.draft n side.short)).flatMap (·.x)).all
        Piece.ok = true := by
      refine List.all_eq_true.2 fun piece hpiece => ?_
      obtain ⟨d, hd, hpiece⟩ := List.mem_flatMap.1 hpiece
      obtain ⟨item, -, rfl⟩ := List.mem_map.1 hd
      exact List.all_eq_true.1 (ok_item n side item) piece hpiece
    simp only [List.all_append, hitems, ok_line, List.all_cons, List.all_nil, Piece.ok]
    cases side <;> decide

end Items

/-! ### The texts -/

/-- An entry of the list of texts. -/
def Quoteless (t : Bytes × Bytes) : Prop := free quote t.1 = true ∧ free quote t.2 = true

lemma ok_textXml {t : Bytes × Bytes} (h : Quoteless t) : (textXml t).all Piece.ok = true := by
  simp only [textXml, ok_line, List.all_cons, List.all_nil, Piece.ok, h.1, h.2, Bool.and_true]
  decide

lemma quoteless_accessPoint (vendor : GsdmlMeta) : ∀ t ∈ accessPointTexts vendor, Quoteless t := by
  simp only [accessPointTexts, List.forall_mem_cons, Quoteless, free_append, free_escape,
    Bool.true_and]
  exact ⟨⟨by decide, trivial⟩, ⟨by decide, by decide⟩, ⟨by decide, by decide⟩,
    ⟨by decide, by decide⟩, ⟨by decide, by decide⟩, List.forall_mem_nil _⟩

lemma quoteless_item (n : UInt16) (side : Side) (item : Item) :
    ∀ t ∈ item.texts n side.short, Quoteless t := by
  cases item with
  | scalar ty i =>
    have hty : free quote (utf8 ty.debug) = true := by cases ty <;> decide
    simp only [Item.texts, scalarId, List.forall_mem_singleton, Quoteless, utf8_append, utf8_slot,
      utf8_index, toString_text, free_append, free_dec, free_short, hty, Bool.and_true]
    decide
  | bits group =>
    have hbit : ∀ i, Quoteless (utf8 (bitId n side.short i), utf8 s!"{side.short} {i} (Bool)") := by
      intro i
      simp only [bitId, Quoteless, utf8_append, utf8_slot, utf8_index, toString_text, free_append,
        free_dec, free_short, Bool.and_true]
      decide
    refine List.forall_mem_cons.2 ⟨?_, fun t ht => ?_⟩
    · simp only [bitsId, Quoteless, utf8_append, utf8_slot, utf8_index, toString_text, free_append,
        free_dec, free_short, Bool.and_true]
      decide
    · obtain ⟨p, -, rfl⟩ := List.mem_map.1 ht
      exact hbit p.1

lemma quoteless_sideDraft (cfg : DeviceConfig) (n : UInt16) (side : Side) :
    ∀ t ∈ (sideDraft cfg n side).texts, Quoteless t := by
  unfold sideDraft
  cases cfg.fields n side.direction with
  | none => exact List.forall_mem_nil _
  | some fields =>
    intro t ht
    obtain ⟨d, hd, ht⟩ := List.mem_flatMap.1 ht
    obtain ⟨item, -, rfl⟩ := List.mem_map.1 hd
    exact quoteless_item n side item t ht

lemma quoteless_moduleHead (cfg : DeviceConfig) (s : SubmoduleSpec) :
    ∀ t ∈ (moduleHead cfg s).texts, Quoteless t := by
  simp only [moduleHead, List.forall_mem_cons, Quoteless, utf8_append, utf8_slot, toString_text,
    free_append, free_dec, free_escape, Bool.and_true]
  exact ⟨⟨by decide, trivial⟩, ⟨by decide, by decide⟩, List.forall_mem_nil _⟩

lemma quoteless_moduleDraft (cfg : DeviceConfig) (s : SubmoduleSpec) :
    ∀ t ∈ (moduleDraft cfg s).texts, Quoteless t := by
  intro t ht
  have htexts : (moduleDraft cfg s).texts = (moduleHead cfg s).texts ++
      (sideDraft cfg s.slot .input).texts ++ (sideDraft cfg s.slot .output).texts ++ [] := rfl
  rw [htexts, List.append_nil] at ht
  rcases List.mem_append.1 ht with ht | ht
  · rcases List.mem_append.1 ht with ht | ht
    · exact quoteless_moduleHead cfg s t ht
    · exact quoteless_sideDraft cfg s.slot .input t ht
  · exact quoteless_sideDraft cfg s.slot .output t ht

/-! ### The whole -/

section Whole

variable {cfg : DeviceConfig}

lemma ok_moduleDraft (s : SubmoduleSpec) (h : (moduleIdentityXml cfg).all Piece.ok = true) :
    (moduleDraft cfg s).x.all Piece.ok = true := by
  have hx : (moduleDraft cfg s).x = (moduleHead cfg s).x ++ (sideDraft cfg s.slot .input).x ++
      (sideDraft cfg s.slot .output).x ++ moduleTail s.slot := rfl
  rw [hx, List.all_append, List.all_append, List.all_append, ok_moduleHead s h, ok_sideDraft,
    ok_sideDraft, ok_moduleTail]
  rfl

/-- Pieces made of a list of things, each of which is well formed. -/
lemma ok_flatMap {α : Type} {l : List α} {f : α → List Piece}
    (h : ∀ a ∈ l, (f a).all Piece.ok = true) : (l.flatMap f).all Piece.ok = true := by
  rw [List.all_flatMap]
  exact List.all_eq_true.2 h

lemma ok_document (vendor : GsdmlMeta)
    (h : cfg.im0.softwareRevision.swPrefix ∈ Im0.validSwPrefixes) :
    (document cfg vendor).all Piece.ok = true := by
  have hid := ok_identity h
  have hmodules : ((cfg.submodules.map (moduleDraft cfg)).flatMap (·.x)).all Piece.ok = true := by
    refine ok_flatMap fun d hd => ?_
    obtain ⟨s, -, rfl⟩ := List.mem_map.1 hd
    exact ok_moduleDraft s hid
  have htexts : ((accessPointTexts vendor ++
      (cfg.submodules.map (moduleDraft cfg)).flatMap (·.texts)).flatMap textXml).all
        Piece.ok = true := by
    refine ok_flatMap fun t ht => ok_textXml ?_
    rcases List.mem_append.1 ht with ht | ht
    · exact quoteless_accessPoint vendor t ht
    · obtain ⟨d, hd, ht⟩ := List.mem_flatMap.1 ht
      obtain ⟨s, -, rfl⟩ := List.mem_map.1 hd
      exact quoteless_moduleDraft cfg s t ht
  simp only [document, List.all_append, ok_profileHeader, ok_deviceIdentity,
    ok_accessPointHead _ hid, ok_flatMap fun s _ => ok_moduleItemRef s, ok_accessPointSubmodule,
    ok_timingProperties, ok_accessPointTail, hmodules, ok_textListHead, htexts, ok_textListTail,
    Bool.and_true]

end Whole

/-- The builder lets no other letter pass. -/
lemma DeviceConfigBuilder.build_swPrefix {b : DeviceConfigBuilder} {cfg : DeviceConfig}
    (h : b.build = .ok cfg) : cfg.im0.softwareRevision.swPrefix ∈ Im0.validSwPrefixes := by
  unfold build at h
  obtain ⟨name, -, h⟩ := Res.bind_eq_ok.1 h
  obtain ⟨_, -, h⟩ := Res.bind_eq_ok.1 h
  obtain ⟨_, -, h⟩ := Res.bind_eq_ok.1 h
  obtain ⟨_, hvalid, h⟩ := Res.bind_eq_ok.1 h
  obtain ⟨_, -, h⟩ := Res.bind_eq_ok.1 h
  obtain ⟨derived, -, h⟩ := Res.bind_eq_ok.1 h
  obtain ⟨_, -, h⟩ := Res.bind_eq_ok.1 h
  cases h
  rw [Res.mapErr_eq_ok, Im0.validate] at hvalid
  obtain ⟨_, -, hvalid⟩ := Res.bind_eq_ok.1 hvalid
  obtain ⟨_, -, hvalid⟩ := Res.bind_eq_ok.1 hvalid
  exact not_not.1 (Res.reject_eq_ok.1 hvalid)

/-- **The document of an accepted configuration is read as it was meant.** -/
theorem read_render {b : DeviceConfigBuilder} {cfg : DeviceConfig} (h : b.build = .ok cfg)
    (vendor : GsdmlMeta) :
    Xml.read (render cfg vendor) = (document cfg vendor).flatMap Piece.elements :=
  Xml.read_write (List.all_eq_true.1 (ok_document vendor (DeviceConfigBuilder.build_swPrefix h)))

end Pnio
