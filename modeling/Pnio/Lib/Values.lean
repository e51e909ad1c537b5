import Pnio.Lib.Text

/-!
Reading values from texts: numbers, whose digits are taken one after the other, and texts in which
some characters are written as references.
-/

namespace Pnio

/-! ### Numbers -/

def digitValue (b : UInt8) : Option Nat :=
  if isDigit b then some (b.toNat - 0x30)
  else if 0x41 ≤ b ∧ b ≤ 0x46 then some (b.toNat - 0x37)
  else none

/-- The number with one more digit. -/
def addDigit (base acc : Nat) (b : UInt8) : Option Nat := do
  let d ← digitValue b
  if d < base then some (acc * base + d) else none

/-- The number that a text stands for; a number has at least one digit. -/
def numeral (base : Nat) (s : Bytes) : Option Nat :=
  if s.isEmpty then none else s.foldlM (addDigit base) 0

lemma addDigit_of_value {base acc d : Nat} {b : UInt8} (hb : digitValue b = some d)
    (hd : d < base) : addDigit base acc b = some (acc * base + d) := by
  simp [addDigit, hb, hd]

lemma numeral_of_fold {base n : Nat} {s : Bytes} (hs : s ≠ [])
    (h : s.foldlM (addDigit base) 0 = some n) : numeral base s = some n := by
  cases s with
  | nil => exact absurd rfl hs
  | cons b s => exact h

/-- A digit is one byte, and the byte has its value. -/
lemma digit_value {c : Char} (h : c.isDigit = true) :
    ∃ b, String.utf8EncodeChar c = [b] ∧ digitValue b = some (c.toNat - '0'.toNat) ∧
      c.toNat - '0'.toNat < 10 := by
  have hdigit := encode_digit h
  simp only [Char.isDigit, Bool.and_eq_true, decide_eq_true_eq, UInt32.le_iff_toNat_le] at h
  obtain ⟨hlo, hhi⟩ := h
  change 48 ≤ c.toNat at hlo
  change c.toNat ≤ 57 at hhi
  have hcode : String.utf8EncodeChar c = [UInt8.ofNat c.toNat] := by
    have hascii : c.val.toNat ≤ 0x7f := le_trans hhi (by decide)
    rw [String.utf8EncodeChar, if_pos hascii]
    rfl
  have hbyte : (UInt8.ofNat c.toNat).toNat = c.toNat :=
    UInt8.toNat_ofNat_of_lt' (hhi.trans_lt (by decide))
  have hzero : '0'.toNat = 48 := rfl
  refine ⟨_, hcode, ?_, by omega⟩
  rw [digitValue, if_pos (hdigit _ (by rw [hcode]; exact List.mem_singleton_self _)), hbyte]
  rfl

lemma foldlM_digits {l : List Char} (h : ∀ c ∈ l, c.isDigit = true) (acc : Nat) :
    (l.flatMap String.utf8EncodeChar).foldlM (addDigit 10) acc =
      some (Nat.ofDigitChars 10 l acc) := by
  induction l generalizing acc with
  | nil => rfl
  | cons c l ih =>
    obtain ⟨hc, hl⟩ := List.forall_mem_cons.1 h
    obtain ⟨b, hb, hvalue, hlt⟩ := digit_value hc
    rw [List.flatMap_cons, hb, List.singleton_append, List.foldlM_cons,
      addDigit_of_value hvalue hlt, Nat.ofDigitChars_cons, Nat.mul_comm]
    exact ih hl _

/-- **A number in decimal is read back.** -/
theorem numeral_dec (n : Nat) : numeral 10 (dec n) = some n := by
  refine numeral_of_fold (dec_ne_nil n) ?_
  rw [dec, Nat.toString_eq_ofList_toDigits, utf8_ofList, foldlM_digits fun c hc =>
    Nat.isDigit_of_mem_toDigits (by decide) (by decide) hc, Nat.ofDigitChars_ten_toDigits]

/-! ### References -/

/-- The characters that have a name. -/
def entity (name : Bytes) : Option UInt8 :=
  if name = utf8 "amp" then some 0x26
  else if name = utf8 "lt" then some 0x3c
  else if name = utf8 "gt" then some 0x3e
  else if name = utf8 "quot" then some 0x22
  else if name = utf8 "apos" then some 0x27
  else none

/-- The text so far, and the name so far inside a reference. -/
def unescapeByte (s : Bytes × Option Bytes) (b : UInt8) : Option (Bytes × Option Bytes) :=
  match s.2 with
  | none => if b = 0x26 then some (s.1, some []) else some (s.1 ++ [b], none)
  | some name =>
    if b = 0x3b then do
      let c ← entity name
      some (s.1 ++ [c], none)
    else some (s.1, some (name ++ [b]))

/-- The text that was meant; a reference has to be known and to end. -/
def unescape (s : Bytes) : Option Bytes := do
  let r ← s.foldlM unescapeByte ([], none)
  if r.2.isNone then some r.1 else none

/-- Texts whose bytes are each read back as themselves. -/
theorem unescape_flatMap {f : UInt8 → Bytes}
    (h : ∀ b out, (f b).foldlM unescapeByte (out, none) = some (out ++ [b], none)) (s : Bytes) :
    unescape (s.flatMap f) = some s := by
  have hfold : ∀ out, (s.flatMap f).foldlM unescapeByte (out, none) = some (out ++ s, none) := by
    induction s with
    | nil => intro out; simp
    | cons b s ih =>
      intro out
      rw [List.flatMap_cons, List.foldlM_append, h]
      change (s.flatMap f).foldlM unescapeByte (out ++ [b], none) = _
      rw [ih, List.append_assoc]
      rfl
  rw [unescape, hfold]
  rfl

end Pnio
