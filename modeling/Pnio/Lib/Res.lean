import Mathlib.Tactic

/-!
Computations that return a value, fail with an error the caller can handle, or panic.

A function that indexes a slice or adds machine integers panics where the source would, so
"the function returns" is a statement of its own and not built into the model.
-/

namespace Pnio

/-- How a computation ends without returning; `nonterm` marks a loop that used up its bound. -/
inductive Panic where
  | bounds
  | overflow
  | unwrap
  | unreachable
  | nonterm
deriving DecidableEq, Repr

inductive Res (ε α : Type) where
  | ok (a : α)
  | err (e : ε)
  | panic (p : Panic)
deriving DecidableEq, Repr

namespace Res

variable {ε ε' α β γ : Type}

def bind (x : Res ε α) (f : α → Res ε β) : Res ε β :=
  match x with
  | ok a => f a
  | err e => err e
  | panic p => panic p

instance : Monad (Res ε) where
  pure := ok
  bind := bind

@[simp] lemma pure_eq (a : α) : (pure a : Res ε α) = ok a := rfl

@[simp] lemma ok_bind (a : α) (f : α → Res ε β) : (ok a >>= f) = f a := rfl

@[simp] lemma err_bind (e : ε) (f : α → Res ε β) : (err e >>= f) = err e := rfl

@[simp] lemma panic_bind (p : Panic) (f : α → Res ε β) : (panic p >>= f) = panic p := rfl

instance : LawfulMonad (Res ε) :=
  LawfulMonad.mk' (Res ε) (by rintro _ (_ | _ | _) <;> rfl) (fun _ _ => rfl)
    (by rintro _ _ _ (_ | _ | _) _ _ <;> rfl)

/-- What a sequence of two computations returned, each part of it returned. -/
lemma bind_eq_ok {x : Res ε α} {f : α → Res ε β} {b : β} :
    (x >>= f) = ok b ↔ ∃ a, x = ok a ∧ f a = ok b := by
  cases x <;> simp

lemma bind_eq_err {x : Res ε α} {f : α → Res ε β} {e : ε} :
    (x >>= f) = err e ↔ x = err e ∨ ∃ a, x = ok a ∧ f a = err e := by
  cases x <;> simp

/-- The early return `if c { return Err(e) }`. -/
def reject (c : Prop) [Decidable c] (e : ε) : Res ε Unit :=
  if c then err e else ok ()

@[simp] lemma reject_eq_ok {c : Prop} [Decidable c] {e : ε} {u : Unit} :
    reject c e = ok u ↔ ¬ c := by
  unfold reject; split <;> simp_all

@[simp] lemma reject_eq_err {c : Prop} [Decidable c] {e e' : ε} :
    reject c e = err e' ↔ c ∧ e = e' := by
  unfold reject; split <;> simp_all

lemma reject_of_not {c : Prop} [Decidable c] {e : ε} (h : ¬ c) : reject c e = ok () := by
  simp [h]

/-- The value of an option, or an error in its absence. -/
def okOr (o : Option α) (e : ε) : Res ε α :=
  match o with
  | some a => ok a
  | none => err e

@[simp] lemma okOr_some (a : α) (e : ε) : okOr (some a) e = ok a := rfl

@[simp] lemma okOr_none (e : ε) : (okOr none e : Res ε α) = err e := rfl

@[simp] lemma okOr_eq_ok {o : Option α} {e : ε} {a : α} : okOr o e = ok a ↔ o = some a := by
  cases o <;> simp

/-- The value of an option; its absence is a panic. -/
def unwrap (o : Option α) : Res ε α :=
  match o with
  | some a => ok a
  | none => panic .unwrap

@[simp] lemma unwrap_some (a : α) : (unwrap (some a) : Res ε α) = ok a := rfl

@[simp] lemma unwrap_none : (unwrap none : Res ε α) = panic .unwrap := rfl

@[simp] lemma unwrap_eq_ok {o : Option α} {a : α} :
    (unwrap o : Res ε α) = ok a ↔ o = some a := by
  cases o <;> simp

/-- The value of a result; an error is a panic. -/
def expect : Res ε' α → Res ε α
  | ok a => ok a
  | err _ => panic .unwrap
  | panic p => panic p

@[simp] lemma expect_ok (a : α) : (expect (ok a : Res ε' α) : Res ε α) = ok a := rfl

/-- The error conversion of the `?` operator. -/
def mapErr (g : ε → ε') : Res ε α → Res ε' α
  | ok a => ok a
  | err e => err (g e)
  | panic p => panic p

@[simp] lemma mapErr_ok (g : ε → ε') (a : α) : mapErr g (ok a) = ok a := rfl

@[simp] lemma mapErr_err (g : ε → ε') (e : ε) :
    (mapErr g (err e) : Res ε' α) = err (g e) := rfl

@[simp] lemma mapErr_panic (g : ε → ε') (p : Panic) :
    (mapErr g (panic p : Res ε α)) = panic p := rfl

@[simp] lemma mapErr_eq_ok {g : ε → ε'} {x : Res ε α} {a : α} :
    mapErr g x = ok a ↔ x = ok a := by
  cases x <;> simp

/-- A computation whose error the caller matches on; only a panic still ends it. -/
def attempt : Res ε α → Res ε' (Except ε α)
  | ok a => ok (.ok a)
  | err e => ok (.error e)
  | panic p => panic p

@[simp] lemma attempt_ok (a : α) : (attempt (ok a : Res ε α) : Res ε' _) = ok (.ok a) := rfl

@[simp] lemma attempt_err (e : ε) :
    (attempt (err e : Res ε α) : Res ε' _) = ok (.error e) := rfl

@[simp] lemma attempt_panic (p : Panic) :
    (attempt (panic p : Res ε α) : Res ε' _) = panic p := rfl

@[simp] lemma attempt_eq_ok {x : Res ε α} {r : Except ε α} :
    (attempt x : Res ε' _) = ok r ↔
      (∃ a, x = ok a ∧ r = .ok a) ∨ ∃ e, x = err e ∧ r = .error e := by
  cases x <;> simp [eq_comm]

lemma bind_returns {x : Res ε α} {f : α → Res ε β} {a : α} (hx : x = ok a)
    (hf : ∃ b, f a = ok b) : ∃ b, x >>= f = ok b := by
  rw [hx]
  exact hf

/-- The value, if there is one. -/
def toOption : Res ε α → Option α
  | ok a => some a
  | _ => none

lemma toOption_eq_some {x : Res ε α} {a : α} : x.toOption = some a ↔ x = ok a := by
  cases x <;> simp [toOption]

lemma toOption_map_eq_some {x : Res ε α} {f : α → β} {b : β} :
    x.toOption.map f = some b ↔ ∃ a, x = ok a ∧ f a = b := by
  cases x <;> simp [toOption]

/-- A loop whose rounds all return returns. -/
lemma mapM_returns {f : α → Res ε β} {l : List α} (h : ∀ a ∈ l, ∃ b, f a = ok b) :
    ∃ bs, l.mapM f = ok bs := by
  induction l with
  | nil => exact ⟨[], rfl⟩
  | cons a l ih =>
    obtain ⟨b, hb⟩ := h a List.mem_cons_self
    obtain ⟨bs, hbs⟩ := ih fun a' ha' => h a' (List.mem_cons_of_mem a ha')
    rw [List.mapM_cons, hb, hbs]
    exact ⟨b :: bs, rfl⟩

/-- A loop that pushes one result for each element. -/
lemma mapM_eq_map {f : α → Res ε β} {g : α → β} {l : List α} (h : ∀ a ∈ l, f a = ok (g a)) :
    l.mapM f = ok (l.map g) := by
  induction l with
  | nil => rfl
  | cons a l ih =>
    rw [List.forall_mem_cons] at h
    rw [List.mapM_cons, h.1, ok_bind, ih h.2]
    rfl

lemma length_of_mapM {f : α → Res ε β} {l : List α} {r : List β}
    (h : l.mapM f = .ok r) : r.length = l.length := by
  induction l generalizing r with
  | nil =>
    rw [List.mapM_nil] at h
    cases h
    rfl
  | cons a l ih =>
    rw [List.mapM_cons] at h
    obtain ⟨b, -, h⟩ := Res.bind_eq_ok.1 h
    obtain ⟨bs, hbs, h⟩ := Res.bind_eq_ok.1 h
    cases h
    rw [List.length_cons, List.length_cons, ih hbs]

/-- A loop of checks runs through if every check does. -/
lemma forM_eq_ok {l : List α} {f : α → Res ε PUnit} {u : PUnit} :
    l.forM f = ok u ↔ ∀ a ∈ l, f a = ok ⟨⟩ := by
  induction l with
  | nil => exact iff_of_true rfl (List.forall_mem_nil _)
  | cons a l ih =>
    have hcons : (a :: l).forM f = (f a >>= fun _ => l.forM f) := rfl
    rw [hcons, bind_eq_ok, List.forall_mem_cons, ← ih]
    exact ⟨fun ⟨_, ha, hl⟩ => ⟨ha, hl⟩, fun ⟨ha, hl⟩ => ⟨⟨⟩, ha, hl⟩⟩

/-- A loop that adds up two sums, and returns as long as they stay below the bound. -/
lemma foldlM_sums {I : β → Nat → Nat → Prop} {f : β → α → Res ε β} {u v : α → Nat} {n : Nat}
    {l : List α} {b : β} {x y : Nat}
    (hf : ∀ a ∈ l, ∀ b x y, I b x y → x + u a < n → y + v a < n →
      ∃ b', f b a = ok b' ∧ I b' (x + u a) (y + v a))
    (hb : I b x y) (hx : x + (l.map u).sum < n) (hy : y + (l.map v).sum < n) :
    ∃ b', l.foldlM f b = ok b' ∧ I b' (x + (l.map u).sum) (y + (l.map v).sum) := by
  induction l generalizing b x y with
  | nil => exact ⟨b, rfl, hb⟩
  | cons a l ih =>
    rw [List.forall_mem_cons] at hf
    rw [List.map_cons, List.sum_cons, ← Nat.add_assoc] at hx hy ⊢
    obtain ⟨b1, h1, hb1⟩ := hf.1 b x y hb (by omega) (by omega)
    obtain ⟨b', h', hb'⟩ := ih hf.2 hb1 hx hy
    rw [List.map_cons, List.sum_cons, ← Nat.add_assoc]
    refine ⟨b', ?_, hb'⟩
    rw [List.foldlM_cons, h1]
    exact h'

/-- What every round of a fold keeps, the whole fold keeps. -/
lemma foldlM_inv_mem {I : β → Prop} {f : β → α → Res ε β} {l : List α}
    (hf : ∀ b, ∀ a ∈ l, ∀ b', I b → f b a = ok b' → I b') {b b' : β} (hb : I b)
    (h : l.foldlM f b = ok b') : I b' := by
  induction l generalizing b with
  | nil => cases h; exact hb
  | cons a l ih =>
    rw [List.foldlM_cons] at h
    obtain ⟨b1, h1, h⟩ := bind_eq_ok.1 h
    exact ih (fun b a' ha' => hf b a' (List.mem_cons_of_mem a ha'))
      (hf b a List.mem_cons_self b1 hb h1) h

lemma foldlM_inv {I : β → Prop} {f : β → α → Res ε β} (hf : ∀ b a b', I b → f b a = ok b' → I b')
    {l : List α} {b b' : β} (hb : I b) (h : l.foldlM f b = ok b') : I b' :=
  foldlM_inv_mem (fun b a _ b' => hf b a b') hb h

/-! ### The errors a computation can return -/

/-- Every error `x` returns satisfies `P`. -/
def Raises (P : ε → Prop) (x : Res ε α) : Prop := ∀ e, x = err e → P e

section Raises

variable {P : ε → Prop}

lemma raises_ok (a : α) : Raises P (ok a) := fun _ h => by cases h

lemma raises_err {e : ε} (h : P e) : Raises P (err e : Res ε α) := fun _ he => by cases he; exact h

lemma raises_bind {x : Res ε α} {f : α → Res ε β} (hx : Raises P x)
    (hf : ∀ a, Raises P (f a)) : Raises P (x >>= f) := by
  intro e he
  rcases bind_eq_err.1 he with h | ⟨a, -, h⟩
  · exact hx e h
  · exact hf a e h

lemma raises_reject {c : Prop} [Decidable c] {e : ε} (h : P e) : Raises P (reject c e) := by
  intro e' he
  obtain ⟨-, rfl⟩ := reject_eq_err.1 he
  exact h

lemma raises_okOr {o : Option α} {e : ε} (h : P e) : Raises P (okOr o e) := by
  intro e' he
  cases o with
  | none => cases he; exact h
  | some a => cases he

lemma raises_mapErr {g : ε' → ε} {x : Res ε' α} (h : ∀ e, P (g e)) : Raises P (mapErr g x) := by
  intro e he
  cases x with
  | err e' => cases he; exact h e'
  | ok a => cases he
  | panic p => cases he

lemma raises_forM {l : List α} {f : α → Res ε PUnit} (h : ∀ a, Raises P (f a)) :
    Raises P (l.forM f) := by
  induction l with
  | nil => exact raises_ok _
  | cons a l ih => exact raises_bind (h a) fun _ => ih

lemma raises_foldlM {l : List α} {f : β → α → Res ε β} {b : β} (h : ∀ b a, Raises P (f b a)) :
    Raises P (l.foldlM f b) := by
  induction l generalizing b with
  | nil => exact raises_ok _
  | cons a l ih =>
    rw [List.foldlM_cons]
    exact raises_bind (h b a) fun _ => ih

end Raises

/-! ### Computations that cannot panic -/

/-- `x` returns a value or an error. A class, so that the safety of a sequence of safe steps is
found by instance search. -/
class NoPanic (x : Res ε α) : Prop where
  ne_panic : ∀ p, x ≠ panic p

section NoPanic

instance noPanic_ok (a : α) : NoPanic (ok a : Res ε α) := ⟨nofun⟩

instance noPanic_pure (a : α) : NoPanic (pure a : Res ε α) := ⟨nofun⟩

instance noPanic_err (e : ε) : NoPanic (err e : Res ε α) := ⟨nofun⟩

/-- The second step is safe for every value the first one can return. -/
lemma noPanic_bind_of {x : Res ε α} {f : α → Res ε β} (hx : NoPanic x)
    (hf : ∀ a, x = ok a → NoPanic (f a)) : NoPanic (x >>= f) := by
  cases x with
  | ok a => exact hf a rfl
  | err e => exact ⟨nofun⟩
  | panic p => exact absurd rfl (hx.ne_panic p)

instance noPanic_bind (x : Res ε α) (f : α → Res ε β) [hx : NoPanic x]
    [hf : ∀ a, NoPanic (f a)] : NoPanic (x >>= f) :=
  noPanic_bind_of hx fun a _ => hf a

instance noPanic_reject (c : Prop) [Decidable c] (e : ε) : NoPanic (reject c e) := by
  unfold reject
  split <;> infer_instance

instance noPanic_okOr (o : Option α) (e : ε) : NoPanic (okOr o e) := by
  cases o <;> exact ⟨nofun⟩

instance noPanic_mapErr (g : ε → ε') (x : Res ε α) [hx : NoPanic x] : NoPanic (mapErr g x) := by
  cases x with
  | ok a => exact ⟨nofun⟩
  | err e => exact ⟨nofun⟩
  | panic p => exact absurd rfl (hx.ne_panic p)

instance noPanic_forM (l : List α) (f : α → Res ε PUnit) [hf : ∀ a, NoPanic (f a)] :
    NoPanic (l.forM f) := by
  induction l with
  | nil => exact noPanic_ok _
  | cons a l ih => exact noPanic_bind_of (hf a) fun _ _ => ih

instance noPanic_foldlM (l : List α) (f : β → α → Res ε β) (b : β)
    [hf : ∀ b a, NoPanic (f b a)] : NoPanic (l.foldlM f b) := by
  induction l generalizing b with
  | nil => exact noPanic_ok b
  | cons a l ih =>
    rw [List.foldlM_cons]
    exact noPanic_bind_of (hf b a) fun b' _ => ih b'

/-- A loop whose rounds are all safe. -/
lemma noPanic_mapM {l : List α} {f : α → Res ε β} (h : ∀ a ∈ l, NoPanic (f a)) :
    NoPanic (l.mapM f) := by
  induction l with
  | nil => exact noPanic_ok []
  | cons a l ih =>
    rw [List.mapM_cons]
    refine noPanic_bind_of (h a List.mem_cons_self) fun b _ => ?_
    refine noPanic_bind_of (ih fun a' ha' => h a' (List.mem_cons_of_mem a ha')) fun bs _ => ?_
    exact noPanic_pure _

/-- A safe computation whose error is caught returns. -/
lemma attempt_returns {δ : Type} (x : Res ε α) [hx : NoPanic x] :
    ∃ r, (attempt x : Res δ _) = ok r := by
  cases x with
  | ok a => exact ⟨_, rfl⟩
  | err e => exact ⟨_, rfl⟩
  | panic p => exact absurd rfl (hx.ne_panic p)

lemma noPanic_of_returns {x : Res ε α} (h : ∃ a, x = ok a) : NoPanic x := by
  obtain ⟨a, rfl⟩ := h
  exact noPanic_ok a

/-- A computation that can neither panic nor fail returns. -/
lemma NoPanic.returns {x : Res ε α} (hx : NoPanic x) (he : ∀ e, x ≠ err e) : ∃ a, x = ok a := by
  cases x with
  | ok a => exact ⟨a, rfl⟩
  | err e => exact absurd rfl (he e)
  | panic p => exact absurd rfl (hx.ne_panic p)

end NoPanic

/-! ### Computations that end alike -/

/-- Both return, with values in the relation `R`, or both end in the same error or panic. -/
inductive Alike (R : α → β → Prop) : Res ε α → Res ε β → Prop
  | ok {a : α} {b : β} (h : R a b) : Alike R (ok a) (ok b)
  | err (e : ε) : Alike R (err e) (err e)
  | panic (p : Panic) : Alike R (panic p) (panic p)

section Alike

variable {δ : Type} {R : α → β → Prop} {x : Res ε α} {y : Res ε β}

/-- The same first step. -/
lemma Alike.step (z : Res ε δ) {f : δ → Res ε α} {g : δ → Res ε β}
    (h : ∀ d, Alike R (f d) (g d)) : Alike R (z >>= f) (z >>= g) := by
  cases z with
  | ok d => exact h d
  | err e => exact .err e
  | panic p => exact .panic p

lemma Alike.bind {Q : γ → δ → Prop} {f : α → Res ε γ} {g : β → Res ε δ} (h : Alike R x y)
    (hfg : ∀ a b, R a b → Alike Q (f a) (g b)) : Alike Q (x >>= f) (y >>= g) := by
  cases h with
  | ok h => exact hfg _ _ h
  | err e => exact .err e
  | panic p => exact .panic p

/-- The same branch. -/
lemma Alike.ite {p q : Prop} [Decidable p] [Decidable q] {x' : Res ε α} {y' : Res ε β}
    (hpq : p ↔ q) (h : p → Alike R x y) (h' : ¬ p → Alike R x' y') :
    Alike R (if p then x else x') (if q then y else y') := by
  by_cases hp : p
  · rw [if_pos hp, if_pos (hpq.1 hp)]
    exact h hp
  · rw [if_neg hp, if_neg fun hq => hp (hpq.2 hq)]
    exact h' hp

lemma Alike.exists_ok {a : α} (h : Alike R x y) (hx : x = Res.ok a) :
    ∃ b, y = Res.ok b ∧ R a b := by
  cases h with
  | ok h =>
    cases hx
    exact ⟨_, rfl, h⟩
  | err e => cases hx
  | panic p => cases hx

end Alike

end Res

end Pnio
