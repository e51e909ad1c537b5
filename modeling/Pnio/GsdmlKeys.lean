import Pnio.GsdmlDoc

/-!
The ids of the GSDML document and what they stand for.

Ids are put together from the numbers of slots and fields. They are compared by their parts: a
number ends where its digits end, so the parts can be read off the id.
-/

namespace Pnio

/-! ### The keys of the texts -/

/-- The texts of the access point. -/
inductive DapText where
  | infoText
  | name
  | info
  | interface
  | port1
deriving DecidableEq

def DapText.id : DapText → String
  | infoText => "T_InfoText"
  | name => "T_DAP_Name"
  | info => "T_DAP_Info"
  | interface => "T_Interface"
  | port1 => "T_Port1"

/-- A field of its own, a group of bits, or a bit of a group. -/
inductive Kind where
  | scalar
  | bits
  | bit
deriving DecidableEq

def Kind.suffix : Kind → String
  | scalar => ""
  | bits => "_bits"
  | bit => "_b"

/-- What a text is for. -/
inductive TextKey where
  | dap (t : DapText)
  | name (n : UInt16)
  | info (n : UInt16)
  | item (n : UInt16) (side : Side) (i : Nat) (kind : Kind)
deriving DecidableEq

namespace TextKey

def id : TextKey → String
  | dap t => t.id
  | name n => s!"M{n}_Name"
  | info n => s!"M{n}_Info"
  | item n side i .scalar => scalarId n side.short i
  | item n side i .bits => bitsId n side.short i
  | item n side i .bit => bitId n side.short i

/-- The id of a text of a module, after the number of its slot. -/
def rest : TextKey → Bytes
  | dap _ => []
  | name _ => utf8 "_Name"
  | info _ => utf8 "_Info"
  | item _ side i kind => utf8 "_" ++ utf8 side.short ++ dec i ++ utf8 kind.suffix

/-- The slot of a text of a module. -/
def slot : TextKey → Option UInt16
  | dap _ => none
  | name n | info n | item n _ _ _ => some n

lemma id_eq {k : TextKey} {n : UInt16} (h : k.slot = some n) :
    utf8 k.id = utf8 "M" ++ (dec n.toNat ++ k.rest) := by
  cases k with
  | dap t => cases h
  | name m | info m =>
    cases h
    simp only [id, rest, utf8_append, utf8_slot, toString_text, List.append_assoc]
  | item m side i kind =>
    cases h
    cases kind with
    | scalar =>
      simp only [id, scalarId, rest, Kind.suffix, utf8_append, utf8_slot, utf8_index, toString_text,
        List.append_assoc]
      rw [show utf8 "" = [] from rfl, List.append_nil]
    | bits =>
      simp only [id, bitsId, rest, Kind.suffix, utf8_append, utf8_slot, utf8_index, toString_text,
        List.append_assoc]
    | bit =>
      simp only [id, bitId, rest, Kind.suffix, utf8_append, utf8_slot, utf8_index, toString_text,
        List.append_assoc]

lemma noDigit_rest {k : TextKey} : NoDigit k.rest := by
  cases k with
  | dap t => rintro b ⟨⟩
  | name n => exact (by decide : NoDigit (utf8 "_Name"))
  | info n => exact (by decide : NoDigit (utf8 "_Info"))
  | item n side i kind =>
    rintro b ⟨⟩
    decide

/-- The second byte of what follows the slot number tells the sides apart. -/
def letter : Side → UInt8
  | .input => 0x49
  | .output => 0x4f

lemma second_item (side : Side) (s : Bytes) :
    (utf8 "_" ++ utf8 side.short ++ s)[1]? = some (letter side) := by
  cases side <;> rfl

lemma name_ne_item (side : Side) (s : Bytes) :
    utf8 "_Name" ≠ utf8 "_" ++ utf8 side.short ++ s := by
  intro h
  have hsecond : (utf8 "_Name")[1]? = some (letter side) := by rw [h, second_item]
  cases side <;> exact absurd hsecond (by decide)

lemma info_ne_item (side : Side) (i : Nat) (s : Bytes) :
    utf8 "_Info" ≠ utf8 "_" ++ utf8 side.short ++ (dec i ++ s) := by
  intro h
  cases side with
  | input =>
    -- what follows the common part is no number
    have hfo : utf8 "_" ++ utf8 "In" ++ utf8 "fo" = utf8 "_" ++ utf8 "In" ++ (dec i ++ s) := h
    exact dec_append_ne (by decide) (List.append_cancel_left hfo).symm
  | output =>
    have hsecond : (utf8 "_Info")[1]? = some (letter .output) := by rw [h, second_item]
    exact absurd hsecond (by decide)

lemma item_inj {side side' : Side} {i i' : Nat} {kind kind' : Kind}
    (h : utf8 "_" ++ utf8 side.short ++ dec i ++ utf8 kind.suffix =
      utf8 "_" ++ utf8 side'.short ++ dec i' ++ utf8 kind'.suffix) :
    side = side' ∧ i = i' ∧ kind = kind' := by
  rw [List.append_assoc, List.append_assoc _ (dec i')] at h
  have hside : side = side' := by
    have hletter : some (letter side) = some (letter side') := by
      rw [← second_item side, h, second_item]
    cases side <;> cases side' <;> first | rfl | exact absurd hletter (by decide)
  subst hside
  have hsuffix : ∀ k : Kind, NoDigit (utf8 k.suffix) := by
    intro k
    cases k <;> decide
  obtain ⟨hi, hk⟩ := dec_append_inj (hsuffix kind) (hsuffix kind') (List.append_cancel_left h)
  refine ⟨rfl, hi, ?_⟩
  rw [utf8_inj] at hk
  cases kind <;> cases kind' <;> first | rfl | exact absurd hk (by decide)

lemma rest_inj {k k' : TextKey} {n : UInt16} (h : k.slot = some n) (h' : k'.slot = some n)
    (hr : k.rest = k'.rest) : k = k' := by
  cases k with
  | dap t => cases h
  | name m =>
    cases h
    cases k' with
    | dap t => cases h'
    | name m' => cases h'; rfl
    | info m' => exact absurd (utf8_inj.1 hr) (by decide)
    | item m' side i kind => exact absurd (hr.trans (List.append_assoc _ _ _)) (name_ne_item side _)
  | info m =>
    cases h
    cases k' with
    | dap t => cases h'
    | name m' => exact absurd (utf8_inj.1 hr) (by decide)
    | info m' => cases h'; rfl
    | item m' side i kind =>
      exact absurd (hr.trans (List.append_assoc _ _ _)) (info_ne_item side i _)
  | item m side i kind =>
    cases h
    cases k' with
    | dap t => cases h'
    | name m' =>
      exact absurd (hr.symm.trans (List.append_assoc _ _ _)) (name_ne_item side _)
    | info m' =>
      exact absurd (hr.symm.trans (List.append_assoc _ _ _)) (info_ne_item side i _)
    | item m' side' i' kind' =>
      cases h'
      obtain ⟨rfl, rfl, rfl⟩ := item_inj hr
      rfl

/-- A text of the access point has another first letter than one of a module. -/
lemma dap_ne {t : DapText} {k : TextKey} {n : UInt16} (h : k.slot = some n) :
    utf8 t.id ≠ utf8 k.id := by
  intro heq
  rw [id_eq h] at heq
  have hfirst : (utf8 t.id).head? = some 0x4d := by rw [heq]; rfl
  cases t <;> exact absurd hfirst (by decide)

/-- **Different texts have different ids.** -/
theorem id_injective : Function.Injective fun k : TextKey => utf8 k.id := by
  have hcases : ∀ k : TextKey, (∃ t, k = dap t) ∨ ∃ n, k.slot = some n := by
    intro k
    cases k with
    | dap t => exact .inl ⟨t, rfl⟩
    | name n | info n | item n => exact .inr ⟨n, rfl⟩
  intro k k' (h : utf8 k.id = utf8 k'.id)
  rcases hcases k with ⟨t, rfl⟩ | ⟨n, hn⟩ <;> rcases hcases k' with ⟨t', rfl⟩ | ⟨n', hn'⟩
  · have ht : t.id = t'.id := utf8_inj.1 h
    cases t <;> cases t' <;> first | rfl | exact absurd ht (by decide)
  · exact absurd h (dap_ne hn')
  · exact absurd h.symm (dap_ne hn)
  · rw [id_eq hn, id_eq hn'] at h
    obtain ⟨hslot, hrest⟩ :=
      dec_append_inj noDigit_rest noDigit_rest (List.append_cancel_left h)
    obtain rfl := UInt16.toNat_inj.1 hslot
    exact rest_inj hn hn' hrest

def bytes (k : TextKey) : Bytes := utf8 k.id

end TextKey

/-! ### The keys of the modules -/

/-- What has an `ID` of its own. -/
inductive IdKey where
  | dap
  | dapSubmodule
  | interface
  | port
  | item (n : UInt16)
  | itemSubmodule (n : UInt16)
deriving DecidableEq

namespace IdKey

def id : IdKey → String
  | dap => "DAP1"
  | dapSubmodule => "DAP1_SM"
  | interface => "DAP1_IF"
  | port => "DAP1_P1"
  | item n => s!"M{n}"
  | itemSubmodule n => s!"M{n}_SM"

def bytes (k : IdKey) : Bytes := utf8 k.id

def slot : IdKey → Option UInt16
  | item n | itemSubmodule n => some n
  | dap | dapSubmodule | interface | port => none

/-- The id of a module or its submodule, after the number of its slot. -/
def rest : IdKey → Bytes
  | itemSubmodule _ => utf8 "_SM"
  | _ => []

lemma bytes_eq {k : IdKey} {n : UInt16} (h : k.slot = some n) :
    k.bytes = utf8 "M" ++ (dec n.toNat ++ k.rest) := by
  cases k with
  | item m =>
    cases h
    simp only [bytes, id, rest, utf8_append, utf8_slot, toString_text, List.append_nil]
  | itemSubmodule m =>
    cases h
    simp only [bytes, id, rest, utf8_append, utf8_slot, toString_text, List.append_assoc]
  | _ => cases h

lemma noDigit_rest {k : IdKey} : NoDigit k.rest := by
  cases k <;> first | exact (by decide : NoDigit []) | exact (by decide : NoDigit (utf8 "_SM"))

/-- The ids of the access point have another first letter than those of the modules. -/
lemma fixed_ne {k k' : IdKey} {n : UInt16} (h : k.slot = none) (h' : k'.slot = some n) :
    k.bytes ≠ k'.bytes := by
  intro heq
  rw [bytes_eq h'] at heq
  have hfirst : k.bytes.head? = some 0x4d := by rw [heq]; rfl
  cases k with
  | item m | itemSubmodule m => cases h
  | _ => exact absurd hfirst (by decide)

/-- **Different modules and submodules have different ids.** -/
theorem bytes_injective : Function.Injective bytes := by
  intro k k' h
  cases hn : k.slot with
  | none =>
    cases hn' : k'.slot with
    | none =>
      have hid : k.id = k'.id := utf8_inj.1 h
      cases k <;> cases hn <;> cases k' <;> cases hn' <;>
        first | rfl | exact absurd hid (by decide)
    | some n' => exact absurd h (fixed_ne hn hn')
  | some n =>
    cases hn' : k'.slot with
    | none => exact absurd h.symm (fixed_ne hn' hn)
    | some n' =>
      rw [bytes_eq hn, bytes_eq hn'] at h
      obtain ⟨hslot, hrest⟩ := dec_append_inj noDigit_rest noDigit_rest (List.append_cancel_left h)
      obtain rfl := UInt16.toNat_inj.1 hslot
      have hne : ([] : Bytes) ≠ utf8 "_SM" := by decide
      cases k <;> cases hn <;> cases k' <;> cases hn' <;>
        first | rfl | exact absurd hrest hne | exact absurd hrest.symm hne

end IdKey

end Pnio
