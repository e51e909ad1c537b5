import Pnio.Lib.Bytes

/-!
Texts as bytes, and numbers in decimal: what was put together from a number and a text that does
not go on with a digit can be taken apart again.
-/

namespace Pnio

/-- The bytes of a text. -/
def utf8 (s : String) : Bytes := s.toByteArray.data.toList

lemma utf8_append (s t : String) : utf8 (s ++ t) = utf8 s ++ utf8 t := by
  simp [utf8]

lemma utf8_inj {s t : String} : utf8 s = utf8 t ↔ s = t := by
  rw [utf8, utf8, Array.toList_inj, ← ByteArray.ext_iff, String.toByteArray_inj]

lemma utf8_beq (s t : String) : (utf8 s == utf8 t) = (s == t) := by
  rw [Bool.eq_iff_iff, beq_iff_eq, beq_iff_eq, utf8_inj]

/-! ### Decimal numbers -/

/-- A number in decimal, without leading zeros. -/
def dec (n : Nat) : Bytes := utf8 (toString n)

def isDigit (b : UInt8) : Bool := 0x30 ≤ b ∧ b ≤ 0x39

lemma utf8_ofList (l : List Char) : utf8 (String.ofList l) = l.flatMap String.utf8EncodeChar := by
  simp [utf8, List.utf8Encode]

lemma encode_digit {c : Char} (h : c.isDigit = true) :
    ∀ b ∈ String.utf8EncodeChar c, isDigit b = true := by
  simp only [Char.isDigit, Bool.and_eq_true, decide_eq_true_eq, UInt32.le_iff_toNat_le] at h
  obtain ⟨hlo, hhi⟩ := h
  change 48 ≤ c.val.toNat at hlo
  change c.val.toNat ≤ 57 at hhi
  intro b hb
  rw [String.utf8EncodeChar, if_pos (by omega), List.mem_singleton] at hb
  subst hb
  have hbyte : (UInt8.ofNat c.val.toNat).toNat = c.val.toNat :=
    UInt8.toNat_ofNat_of_lt' (hhi.trans_lt (by decide))
  rw [isDigit, decide_eq_true_eq, UInt8.le_iff_toNat_le, UInt8.le_iff_toNat_le, hbyte]
  exact ⟨hlo, hhi⟩

lemma isDigit_of_mem_dec {n : Nat} {b : UInt8} (h : b ∈ dec n) : isDigit b = true := by
  rw [dec, Nat.toString_eq_ofList_toDigits, utf8_ofList, List.mem_flatMap] at h
  obtain ⟨c, hc, hb⟩ := h
  exact encode_digit (Nat.isDigit_of_mem_toDigits (by decide) (by decide) hc) b hb

lemma dec_injective : Function.Injective dec := by
  intro m n h
  rw [dec, dec, utf8_inj, Nat.toString_eq_ofList_toDigits, Nat.toString_eq_ofList_toDigits] at h
  have hread := congrArg (Nat.ofDigitChars 10 · 0) (String.ofList_injective h)
  rwa [Nat.ofDigitChars_ten_toDigits, Nat.ofDigitChars_ten_toDigits] at hread

lemma dec_ne_nil (n : Nat) : dec n ≠ [] := by
  have hne : dec n ≠ utf8 "" := by
    rw [dec, Ne, utf8_inj]
    simp
  exact hne

/-- The text does not begin with a digit. -/
def NoDigit (s : Bytes) : Prop := ∀ b ∈ s.head?, isDigit b = false

instance (s : Bytes) : Decidable (NoDigit s) :=
  match s with
  | [] => .isTrue (by rintro b ⟨⟩)
  | b :: _ => decidable_of_iff (isDigit b = false)
    ⟨fun h => by rintro _ ⟨⟩; exact h, fun h => h b rfl⟩

/-- A number ends where the digits end. -/
theorem dec_append_inj {m n : Nat} {s t : Bytes} (hs : NoDigit s) (ht : NoDigit t)
    (h : dec m ++ s = dec n ++ t) : m = n ∧ s = t := by
  have hspan : ∀ k r, NoDigit r → (dec k ++ r).span isDigit = (dec k, r) := by
    intro k r hr
    rw [List.span_eq_takeWhile_dropWhile, List.takeWhile_append_of_pos fun b => isDigit_of_mem_dec,
      List.dropWhile_append_of_pos fun b => isDigit_of_mem_dec]
    cases r with
    | nil => simp
    | cons b r => simp [hr b rfl]
  have heq := (hspan m s hs).symm.trans ((congrArg _ h).trans (hspan n t ht))
  exact ⟨dec_injective (congrArg Prod.fst heq), congrArg Prod.snd heq⟩

/-- A number is not a text that begins with something else. -/
lemma dec_append_ne {n : Nat} {s t : Bytes} (ht : NoDigit t) : dec n ++ s ≠ t := by
  intro h
  obtain ⟨b, r, hb⟩ := List.exists_cons_of_ne_nil (dec_ne_nil n)
  have hdigit : isDigit b = true := isDigit_of_mem_dec (hb ▸ List.mem_cons_self)
  have hhead := ht b (by rw [← h, hb]; rfl)
  rw [hdigit] at hhead
  cases hhead

end Pnio
