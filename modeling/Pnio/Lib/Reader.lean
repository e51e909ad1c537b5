import Pnio.Lib.Bytes

/-!
Reading a byte string from front to back: a cursor, the readers over it and valid UTF-8.
-/

namespace Pnio

/-- A position inside a byte string. -/
structure Cursor where
  buf : Bytes
  pos : Nat
  inb : pos ≤ buf.length

/-- A computation that reads from a cursor. -/
abbrev Reader (ε α : Type) := StateT Cursor (Res ε) α

namespace Reader

variable {ε α : Type}

/-- The value a reader gets from the start of `buf`. -/
def runOn (p : Reader ε α) (buf : Bytes) : Res ε α := do
  let (a, _) ← p ⟨buf, 0, Nat.zero_le _⟩
  .ok a

/-- `n` bytes; `short need have` is the error when fewer are left. -/
def bytes (short : Nat → Nat → ε) (n : Nat) : Reader ε Bytes := fun c =>
  if h : c.pos + n ≤ c.buf.length then
    .ok ((c.buf.drop c.pos).take n, { c with pos := c.pos + n, inb := h })
  else .err (short (c.pos + n) c.buf.length)

/-- The same reader `n` times. -/
def many (p : Reader ε α) : Nat → Reader ε (List α)
  | 0 => pure []
  | n + 1 => do
    let a ← p
    let as ← many p n
    pure (a :: as)

/-- How many bytes are left. -/
def remaining : Reader ε Nat := fun c => .ok (c.buf.length - c.pos, c)

end Reader

/-! ### Reading what was written -/

/-- The cursor between `pre`, which was read, and `t`, which was not. -/
def Cursor.split (pre t : Bytes) : Cursor := ⟨pre ++ t, pre.length, by simp⟩

lemma Cursor.split_eq {pre t : Bytes} {c : Cursor} (hb : c.buf = pre ++ t)
    (hp : c.pos = pre.length) : c = Cursor.split pre t := by
  obtain ⟨buf, pos, inb⟩ := c
  cases hb
  cases hp
  rfl

namespace Reader

variable {ε α : Type}

@[simp] lemma pure_apply (a : α) (c : Cursor) : (pure a : Reader ε α) c = .ok (a, c) := rfl

@[simp] lemma bind_apply {β : Type} (p : Reader ε α) (f : α → Reader ε β) (c : Cursor) :
    (p >>= f) c = (p c >>= fun r => f r.1 r.2) := rfl

@[simp] lemma lift_apply (x : Res ε α) (c : Cursor) :
    (StateT.lift x : Reader ε α) c = (x >>= fun a => .ok (a, c)) := rfl

lemma runOn_split (p : Reader ε α) (buf : Bytes) :
    p.runOn buf = (p (Cursor.split [] buf) >>= fun r => .ok r.1) := rfl

/-- Reading a field of the right width takes it off the front. -/
lemma bytes_split {short : Nat → Nat → ε} {n : Nat} {a : Bytes} (h : a.length = n)
    (pre t : Bytes) :
    bytes short n (Cursor.split pre (a ++ t)) = .ok (a, Cursor.split (pre ++ a) t) := by
  have hin : (Cursor.split pre (a ++ t)).pos + n ≤ (Cursor.split pre (a ++ t)).buf.length := by
    simp [Cursor.split]; omega
  have ht : ((Cursor.split pre (a ++ t)).buf.drop (Cursor.split pre (a ++ t)).pos).take n = a := by
    simp [Cursor.split, h]
  unfold bytes
  rw [dif_pos hin, ht]
  congr 2
  exact Cursor.split_eq (by simp [Cursor.split]) (by simp [Cursor.split, h])

lemma remaining_split (pre t : Bytes) :
    (remaining (Cursor.split pre t) : Res ε _) = .ok (t.length, Cursor.split pre t) := by
  simp [remaining, Cursor.split]

end Reader

/-- The reader takes the bytes `b` off the front, whatever follows them, and gets `a`. -/
def Reader.Reads {ε α : Type} (p : Reader ε α) (b : Bytes) (a : α) : Prop :=
  ∀ pre t, p (Cursor.split pre (b ++ t)) = .ok (a, Cursor.split (pre ++ b) t)

namespace Reader.Reads

variable {ε α β : Type} {p : Reader ε α} {b b' : Bytes} {a : α}

lemma bind {f : α → Reader ε β} {c : β} (hp : Reads p b a) (hf : Reads (f a) b' c) :
    Reads (p >>= f) (b ++ b') c := by
  intro pre t
  rw [bind_apply, List.append_assoc, hp, Res.ok_bind, hf, List.append_assoc]

/-- What follows the last field reads nothing. -/
lemma bind_nil {f : α → Reader ε β} {c : β} (hp : Reads p b a) (hf : Reads (f a) [] c) :
    Reads (p >>= f) b c := by
  have h := hp.bind hf
  rwa [List.append_nil] at h

/-- The last field, and the value that is made of all. -/
lemma map {g : α → β} (hp : Reads p b a) : Reads (p >>= fun x => pure (g x)) b (g a) := by
  intro pre t
  rw [bind_apply, hp, Res.ok_bind, pure_apply]

lemma pure (a : α) : Reads (Pure.pure a : Reader ε α) [] a := by
  intro pre t
  rw [pure_apply, List.nil_append, List.append_nil]

/-- A check that passes, or a conversion that works, reads nothing. -/
lemma lift {x : Res ε α} (h : x = .ok a) : Reads (StateT.lift x) [] a := by
  intro pre t
  rw [lift_apply, h, Res.ok_bind, List.nil_append, List.append_nil]

lemma bytes {short : Nat → Nat → ε} {n : Nat} (h : b.length = n) :
    Reads (Reader.bytes short n) b b :=
  bytes_split h

/-- As many values as are written. -/
lemma many_map {γ : Type} {w : γ → Bytes} {v : γ → α} (l : List γ)
    (h : ∀ c ∈ l, Reads p (w c) (v c)) :
    Reads (Reader.many p l.length) (l.flatMap w) (l.map v) := by
  induction l with
  | nil => exact Reads.pure []
  | cons c l ih =>
    rw [List.forall_mem_cons] at h
    exact h.1.bind (ih h.2).map

lemma many {w : α → Bytes} (l : List α) (h : ∀ a ∈ l, Reads p (w a) a) :
    Reads (Reader.many p l.length) (l.flatMap w) l := by
  have hmap := many_map l h
  rwa [List.map_id'] at hmap

lemma many_one (h : Reads p b a) : Reads (Reader.many p 1) b [a] :=
  h.bind_nil (Reads.pure []).map

lemma runOn (h : Reads p b a) : p.runOn b = .ok a := by
  have := h [] []
  rw [List.append_nil] at this
  rw [runOn_split, this, Res.ok_bind]

end Reader.Reads

/-! ### Readers that cannot panic -/

/-- The reader returns or fails wherever the cursor is. -/
class Reader.Safe {ε α : Type} (p : Reader ε α) : Prop where
  noPanic : ∀ c, (p c).NoPanic

namespace Reader

variable {ε α β : Type}

/-- The second reader is safe for every value the first one can read. -/
lemma safe_bind_of {p : Reader ε α} {f : α → Reader ε β} (hp : p.Safe)
    (hf : ∀ a c c', p c = .ok (a, c') → Safe (f a)) : Safe (p >>= f) := by
  refine ⟨fun c => ?_⟩
  rw [bind_apply]
  exact Res.noPanic_bind_of (hp.noPanic c) fun r hr => (hf r.1 c r.2 hr).noPanic r.2

instance safe_pure (a : α) : Safe (pure a : Reader ε α) := ⟨fun c => Res.noPanic_ok (a, c)⟩

instance safe_bind (p : Reader ε α) (f : α → Reader ε β) [hp : Safe p] [hf : ∀ a, Safe (f a)] :
    Safe (p >>= f) :=
  safe_bind_of hp fun a _ _ _ => hf a

instance safe_lift (x : Res ε α) [hx : x.NoPanic] : Safe (StateT.lift x : Reader ε α) :=
  ⟨fun _ => Res.noPanic_bind_of hx fun _ _ => Res.noPanic_ok _⟩

instance safe_bytes (short : Nat → Nat → ε) (n : Nat) : Safe (bytes short n) := by
  refine ⟨fun c => ?_⟩
  unfold bytes
  split <;> infer_instance

instance safe_many (p : Reader ε α) (n : Nat) [hp : Safe p] : Safe (many p n) := by
  induction n with
  | zero => exact safe_pure []
  | succ n ih => exact safe_bind_of hp fun a _ _ _ => safe_bind_of ih fun as _ _ _ => safe_pure _

instance noPanic_runOn (p : Reader ε α) (buf : Bytes) [hp : Safe p] : (p.runOn buf).NoPanic :=
  Res.noPanic_bind_of (hp.noPanic _) fun _ _ => Res.noPanic_ok _

lemma length_of_bytes {short : Nat → Nat → ε} {n : Nat} {c c' : Cursor} {b : Bytes}
    (h : bytes short n c = .ok (b, c')) : b.length = n := by
  unfold bytes at h
  split at h
  · rename_i hle
    cases h
    rw [List.length_take, List.length_drop]
    omega
  · cases h

end Reader

/-! ### How far a reader goes -/

/-- A reader that gets a value has read `n` bytes. -/
def Reader.Takes {ε α : Type} (p : Reader ε α) (n : Nat) : Prop :=
  ∀ c a c', p c = .ok (a, c') → c'.pos = c.pos + n ∧ c'.buf = c.buf

namespace Reader.Takes

variable {ε α β : Type} {p : Reader ε α} {n m : Nat}

lemma bind {f : α → Reader ε β} (hp : Takes p n) (hf : ∀ a, Takes (f a) m) :
    Takes (p >>= f) (n + m) := by
  intro c b c' h
  rw [bind_apply] at h
  obtain ⟨⟨a, c₁⟩, hread, h⟩ := Res.bind_eq_ok.1 h
  obtain ⟨hpos, hbuf⟩ := hp _ _ _ hread
  obtain ⟨hpos', hbuf'⟩ := hf a _ _ _ h
  dsimp only at hpos' hbuf'
  exact ⟨by omega, hbuf'.trans hbuf⟩

lemma pure (a : α) : Takes (Pure.pure a : Reader ε α) 0 := by
  intro c b c' h
  cases h
  exact ⟨rfl, rfl⟩

lemma map {g : α → β} (hp : Takes p n) : Takes (p >>= fun a => Pure.pure (g a)) n :=
  hp.bind fun a => pure (g a)

lemma lift (x : Res ε α) : Takes (StateT.lift x) 0 := by
  intro c b c' h
  rw [lift_apply] at h
  obtain ⟨a, -, h⟩ := Res.bind_eq_ok.1 h
  cases h
  exact ⟨rfl, rfl⟩

lemma bytes (short : Nat → Nat → ε) (n : Nat) : Takes (Reader.bytes short n) n := by
  intro c b c' h
  unfold Reader.bytes at h
  split at h
  · cases h
    exact ⟨rfl, rfl⟩
  · cases h

lemma le_length {b : Bytes} {a : α} (hp : Takes p n) (h : p.runOn b = .ok a) : n ≤ b.length := by
  obtain ⟨⟨a', c'⟩, hread, -⟩ := Res.bind_eq_ok.1 h
  obtain ⟨hpos, hbuf⟩ := hp _ _ _ hread
  have hin := c'.inb
  rw [hpos, hbuf] at hin
  dsimp only at hin
  omega

end Reader.Takes

/-! ### UTF-8 -/

/-- Well-formed UTF-8: no overlong forms, no surrogates, nothing above U+10FFFF. -/
def utf8Valid : Bytes → Bool
  | [] => true
  | a :: t =>
    if a < 0x80 then utf8Valid t
    else match t with
      | [] => false
      | b :: t =>
        if 0xC2 ≤ a ∧ a ≤ 0xDF then b &&& 0xC0 == 0x80 && utf8Valid t
        else match t with
          | [] => false
          | c :: t =>
            if 0xE0 ≤ a ∧ a ≤ 0xEF then
              b &&& 0xC0 == 0x80 && c &&& 0xC0 == 0x80 &&
              (a != 0xE0 || 0xA0 ≤ b) && (a != 0xED || b < 0xA0) && utf8Valid t
            else match t with
              | [] => false
              | d :: t =>
                0xF0 ≤ a && a ≤ 0xF4 &&
                b &&& 0xC0 == 0x80 && c &&& 0xC0 == 0x80 && d &&& 0xC0 == 0x80 &&
                (a != 0xF0 || 0x90 ≤ b) && (a != 0xF4 || b < 0x90) && utf8Valid t

/-- A string, as the bytes that spell it. -/
structure Str where
  bytes : Bytes
  valid : utf8Valid bytes = true
deriving DecidableEq

lemma utf8Valid_of_ascii {b : Bytes} (h : ∀ x ∈ b, x < 0x80) : utf8Valid b = true := by
  induction b with
  | nil => rfl
  | cons a t ih =>
    have ha : a < 0x80 := h a (by simp)
    have ht : utf8Valid t = true := ih fun x hx => h x (by simp [hx])
    rw [utf8Valid.eq_def]
    simp only [ha, if_true, ht]

/-- The ASCII characters among `b`. -/
def Str.ofAscii (b : Bytes) : Str :=
  ⟨b.filter (· < 0x80), utf8Valid_of_ascii fun x hx => by simpa using (List.mem_filter.1 hx).2⟩

/-- `str::is_ascii`. -/
def Str.isAscii (s : Str) : Bool := s.bytes.all (· < 0x80)

/-- `String::from_utf8`. -/
def Str.fromUtf8 (b : Bytes) : Option Str :=
  if h : utf8Valid b = true then some ⟨b, h⟩ else none

end Pnio
