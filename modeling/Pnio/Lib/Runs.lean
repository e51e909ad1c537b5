import Mathlib.Tactic

/-!
Runs of a system whose steps are given by a partial function of the state and an input, and
the rules by which an invariant is carried along them.
-/

namespace Pnio

/-- A start set and a step; a step that does not happen (`none`) has no successor. -/
structure System (σ ι : Type) where
  init : σ → Prop
  step : σ → ι → Option σ

namespace System

variable {σ ι : Type} (S : System σ ι)

/-- The states reached by steps that all meet the guard `G`. -/
inductive ReachWhen (G : σ → ι → Prop) : σ → Prop
  | init {s : σ} (h : S.init s) : ReachWhen G s
  | step {s s' : σ} {i : ι} (h : ReachWhen G s) (hg : G s i) (hs : S.step s i = some s') :
      ReachWhen G s'

/-- The states reached by any steps. -/
def Reach (s : σ) : Prop := S.ReachWhen (fun _ _ => True) s

variable {S} {G : σ → ι → Prop} {I : σ → Prop} {s s' : σ}

/-- **Invariant rule**: what holds at the start and is kept by every guarded step holds in
every state reached. -/
theorem ReachWhen.inv (h0 : ∀ s, S.init s → I s)
    (hs : ∀ s i s', I s → G s i → S.step s i = some s' → I s') (h : S.ReachWhen G s) : I s := by
  induction h with
  | init h => exact h0 _ h
  | step _ hg hst ih => exact hs _ _ _ ih hg hst

theorem Reach.inv (h0 : ∀ s, S.init s → I s)
    (hs : ∀ s i s', I s → S.step s i = some s' → I s') (h : S.Reach s) : I s :=
  ReachWhen.inv h0 (fun s i s' hI _ hst => hs s i s' hI hst) h

lemma ReachWhen.reach (h : S.ReachWhen G s) : S.Reach s := by
  induction h with
  | init h => exact .init h
  | step _ _ hst ih => exact .step ih trivial hst

/-- The same system, started in the state `s`. -/
def startAt (S : System σ ι) (s : σ) : System σ ι where
  init := (· = s)
  step := S.step

section Run

variable (S G) [∀ s i, Decidable (G s i)]

/-- The state after a list of inputs that all meet the guard. -/
def runWhen (s : σ) : List ι → Option σ
  | [] => some s
  | i :: is => if G s i then (S.step s i).bind fun s' => runWhen s' is else none

variable {S G}

lemma reachWhen_run {is : List ι} (h : S.ReachWhen G s) (hr : S.runWhen G s is = some s') :
    S.ReachWhen G s' := by
  induction is generalizing s with
  | nil => cases hr; exact h
  | cons i is ih =>
    rw [runWhen] at hr
    split_ifs at hr with hg
    obtain ⟨s1, h1, hr⟩ := Option.bind_eq_some_iff.1 hr
    exact ih (.step h hg h1) hr

/-- A run that is evaluated and tested at its end reaches a state that passes the test. -/
lemma exists_reachWhen_of_run {is : List ι} {p : σ → Bool} (h : S.init s)
    (hp : (S.runWhen G s is).any p = true) : ∃ s', S.ReachWhen G s' ∧ p s' = true := by
  obtain ⟨s', hr, hp⟩ := (Option.any_eq_true p _).1 hp
  exact ⟨s', reachWhen_run (.init h) hr, hp⟩

/-- The state after a list of inputs. -/
def run (S : System σ ι) (s : σ) (is : List ι) : Option σ := S.runWhen (fun _ _ => True) s is

/-- A run is its first step and the rest. -/
lemma run_cons {i : ι} {is : List ι} :
    S.run s (i :: is) = some s' ↔ ∃ s₁, S.step s i = some s₁ ∧ S.run s₁ is = some s' := by
  rw [run, runWhen, if_pos trivial, Option.bind_eq_some_iff]
  rfl

lemma exists_reach_of_run {is : List ι} {p : σ → Bool} (h : S.init s)
    (hp : (S.run s is).any p = true) : ∃ s', S.Reach s' ∧ p s' = true :=
  exists_reachWhen_of_run h hp

/-- **Deletion rule**: a relation to a second run that every kept input carries on, and every other
input leaves as it is, still holds after the second run has only taken the kept inputs. -/
theorem run_filter {R : σ → σ → Prop} {keep : ι → Bool}
    (hkeep : ∀ s t i s', R s t → keep i = true → S.step s i = some s' →
      ∃ t', S.step t i = some t' ∧ R s' t')
    (hdel : ∀ s t i s', R s t → keep i = false → S.step s i = some s' → R s' t)
    {is : List ι} {t : σ} (h : R s t) (hr : S.run s is = some s') :
    ∃ t', S.run t (is.filter keep) = some t' ∧ R s' t' := by
  induction is generalizing s t with
  | nil =>
    cases hr
    exact ⟨t, rfl, h⟩
  | cons i is ih =>
    obtain ⟨s1, h1, hr⟩ := run_cons.1 hr
    cases hk : keep i with
    | true =>
      obtain ⟨t1, ht1, hR⟩ := hkeep s t i s1 h hk h1
      obtain ⟨t', ht', hR'⟩ := ih hR hr
      refine ⟨t', ?_, hR'⟩
      rw [List.filter_cons_of_pos hk]
      exact run_cons.2 ⟨t1, ht1, ht'⟩
    | false =>
      rw [List.filter_cons_of_neg (by rw [hk]; decide)]
      exact ih (hdel s t i s1 h hk h1) hr

/-- The rule for systems with a log of inputs and replies: the second run has the log of the first
without the deleted inputs. -/
theorem run_filter_log {ρ : Type} {R : σ → σ → Prop} {H : ρ → Prop} {log : σ → List (ι × ρ)}
    {keep : ι → Bool}
    (hkeep : ∀ s t i s', R s t → keep i = true → S.step s i = some s' →
      ∃ t' y, S.step t i = some t' ∧ R s' t' ∧
        log s' = log s ++ [(i, y)] ∧ log t' = log t ++ [(i, y)])
    (hdel : ∀ s t i s', R s t → keep i = false → S.step s i = some s' →
      R s' t ∧ ∃ y, log s' = log s ++ [(i, y)] ∧ H y)
    {is : List ι} {t : σ} (h : R s t) (hs : log s = []) (ht : log t = [])
    (hr : S.run s is = some s') :
    ∃ t', S.run t (is.filter keep) = some t' ∧ R s' t' ∧
      log t' = (log s').filter (fun u => keep u.1) ∧
      ∀ u ∈ log s', keep u.1 = false → H u.2 := by
  refine run_filter (R := fun s t => R s t ∧ log t = (log s).filter (fun u => keep u.1) ∧
    ∀ u ∈ log s, keep u.1 = false → H u.2) ?_ ?_ ⟨h, by rw [hs, ht, List.filter_nil], ?_⟩ hr
  · rintro s t i s1 ⟨hsame, hlog, hhid⟩ hk h1
    obtain ⟨t1, y, ht1, hsame1, hs1, hl1⟩ := hkeep s t i s1 hsame hk h1
    refine ⟨t1, ht1, hsame1, ?_, ?_⟩
    · rw [hl1, hs1, List.filter_append, hlog]
      simp [hk]
    · intro u hu hku
      rw [hs1, List.mem_append, List.mem_singleton] at hu
      rcases hu with hu | rfl
      · exact hhid u hu hku
      · rw [hk] at hku
        cases hku
  · rintro s t i s1 ⟨hsame, hlog, hhid⟩ hk h1
    obtain ⟨hsame1, y, hs1, hy⟩ := hdel s t i s1 hsame hk h1
    refine ⟨hsame1, ?_, ?_⟩
    · rw [hs1, List.filter_append, hlog]
      simp [hk]
    · intro u hu hku
      rw [hs1, List.mem_append, List.mem_singleton] at hu
      rcases hu with hu | rfl
      · exact hhid u hu hku
      · exact hy
  · rw [hs]
    exact fun u hu => by cases hu

end Run

end System

/-! ### Histories -/

section Along

variable {α : Type} {Q : List α → α → Prop}

/-- Every entry of the history is allowed by the entries before it. -/
def Along (Q : List α → α → Prop) (l : List α) : Prop :=
  ∀ pre a post, l = pre ++ a :: post → Q pre a

lemma along_nil : Along Q [] := by
  intro pre a post h
  simp at h

/-- A history that grew by entries which are all allowed. -/
lemma Along.append {l l' : List α} (h : Along Q l)
    (h' : ∀ pre a post, l' = pre ++ a :: post → Q (l ++ pre) a) : Along Q (l ++ l') := by
  intro pre a post heq
  rcases List.append_eq_append_iff.1 heq with ⟨t, rfl, ht⟩ | ⟨t, ht, hl'⟩
  · exact h' t a post ht
  · cases t with
    | nil =>
      rw [List.append_nil] at ht
      have := h' [] a post hl'.symm
      rwa [List.append_nil, ht] at this
    | cons b t =>
      obtain ⟨rfl, -⟩ := List.cons.inj hl'
      exact h pre a t ht

lemma Along.snoc {l : List α} {a : α} (h : Along Q l) (ha : Q l a) : Along Q (l ++ [a]) := by
  refine h.append fun pre b post heq => ?_
  rcases List.singleton_eq_append_iff.1 heq with ⟨rfl, hb⟩ | ⟨-, hb⟩
  · obtain ⟨rfl, -⟩ := List.cons.inj hb
    rwa [List.append_nil]
  · cases hb

end Along

end Pnio
