import Mathlib.Tactic

/-!
Ranges of positions, and maps that record which positions are taken.
-/

namespace Pnio

/-- The positions from `off` up to, not including, `off + len`. -/
structure Span where
  off : Nat
  len : Nat
deriving DecidableEq, Repr

namespace Span

def Has (s : Span) (i : Nat) : Prop := s.off ≤ i ∧ i < s.off + s.len

/-- One of the two ends before the other begins. -/
def Apart (s t : Span) : Prop := s.off + s.len ≤ t.off ∨ t.off + t.len ≤ s.off

instance (s t : Span) : Decidable (s.Apart t) := inferInstanceAs (Decidable (_ ∨ _))

lemma Apart.symm {s t : Span} (h : s.Apart t) : t.Apart s := Or.symm h

lemma Apart.not_has {s t : Span} (h : s.Apart t) {i : Nat} (hs : s.Has i) : ¬ t.Has i := by
  intro ht
  obtain ⟨h1, h2⟩ := hs
  obtain ⟨h3, h4⟩ := ht
  rcases h with h | h <;> omega

/-- Two ranges that are not apart share a position, unless one is empty. -/
lemma exists_has_of_not_apart {s t : Span} (hs : 0 < s.len) (ht : 0 < t.len) (h : ¬ s.Apart t) :
    ∃ i, s.Has i ∧ t.Has i := by
  unfold Apart at h
  push Not at h
  refine ⟨max s.off t.off, ⟨le_max_left _ _, ?_⟩, ⟨le_max_right _ _, ?_⟩⟩
  · exact max_lt (by omega) h.1
  · exact max_lt h.2 (by omega)

lemma has_split {off a b i : Nat} :
    Has ⟨off, a + b⟩ i ↔ Has ⟨off, a⟩ i ∨ Has ⟨off + a, b⟩ i := by
  unfold Has
  dsimp only
  omega

end Span

/-! ### Packing -/

/-- Ranges that fill the positions below `off`, one after the other. -/
structure Packed (l : List Span) (off : Nat) : Prop where
  within : ∀ s ∈ l, s.off + s.len ≤ off
  apart : l.Pairwise Span.Apart
  nonempty : ∀ s ∈ l, 0 < s.len
  total : (l.map Span.len).sum = off

namespace Packed

variable {l l' : List Span} {off len : Nat}

lemma nil : Packed [] 0 :=
  ⟨List.forall_mem_nil _, List.Pairwise.nil, List.forall_mem_nil _, rfl⟩

/-- The next range starts where the others end; it may be listed anywhere among them. -/
lemma push (h : Packed l off) (hlen : 0 < len) (hp : l'.Perm (⟨off, len⟩ :: l)) :
    Packed l' (off + len) := by
  have hsymm : ∀ {s t : Span}, s.Apart t → t.Apart s := Span.Apart.symm
  refine ⟨fun s hs => ?_, (hp.pairwise_iff hsymm).2 ?_, fun s hs => ?_, ?_⟩
  · rcases List.mem_cons.1 (hp.mem_iff.1 hs) with rfl | hs
    · exact le_refl _
    · exact le_trans (h.within s hs) (Nat.le_add_right _ _)
  · exact List.pairwise_cons.2 ⟨fun s hs => .inr (h.within s hs), h.apart⟩
  · rcases List.mem_cons.1 (hp.mem_iff.1 hs) with rfl | hs
    · exact hlen
    · exact h.nonempty s hs
  · rw [(hp.map Span.len).sum_eq, List.map_cons, List.sum_cons, h.total, Nat.add_comm]

/-- There are at most as many ranges as positions. -/
lemma length_le (h : Packed l off) : l.length ≤ off := by
  have hle := List.length_le_sum_of_one_le (l.map Span.len) fun n hn => by
    obtain ⟨s, hs, rfl⟩ := List.mem_map.1 hn
    exact h.nonempty s hs
  rwa [List.length_map, h.total] at hle

end Packed

/-! ### Occupancy maps -/

/-- The map with the positions of `s` taken. -/
def paint (occ : List Bool) (s : Span) : List Bool :=
  occ.take s.off ++ List.replicate s.len true ++ occ.drop (s.off + s.len)

/-- No position of `s` is taken. -/
def FreeOf (occ : List Bool) (s : Span) : Prop := ∀ i, s.Has i → occ[i]? ≠ some true

/-- Exactly the positions of the ranges in `l` are taken. -/
def PaintedBy (occ : List Bool) (l : List Span) : Prop :=
  ∀ i, occ[i]? = some true ↔ ∃ s ∈ l, s.Has i

section Paint

variable {occ : List Bool} {s : Span} {l : List Span}

lemma length_paint (h : s.off + s.len ≤ occ.length) : (paint occ s).length = occ.length := by
  simp only [paint, List.length_append, List.length_take, List.length_replicate, List.length_drop]
  omega

lemma getElem?_paint (h : s.off + s.len ≤ occ.length) (i : Nat) :
    (paint occ s)[i]? = some true ↔ s.Has i ∨ occ[i]? = some true := by
  have hlen : (occ.take s.off).length = s.off := by
    rw [List.length_take]
    omega
  unfold Span.Has paint
  rcases Nat.lt_or_ge i s.off with h1 | h1
  · rw [List.append_assoc, List.getElem?_append_left (by omega), List.getElem?_take_of_lt h1]
    constructor
    · exact .inr
    · rintro (⟨h2, -⟩ | h2)
      · omega
      · exact h2
  · rcases Nat.lt_or_ge i (s.off + s.len) with h2 | h2
    · rw [List.getElem?_append_left (by simp; omega), List.getElem?_append_right (by omega),
        List.getElem?_replicate, if_pos (by omega)]
      exact iff_of_true rfl (.inl ⟨h1, h2⟩)
    · rw [List.getElem?_append_right (by simp; omega), List.getElem?_drop]
      have hi : s.off + s.len + (i - (occ.take s.off ++ List.replicate s.len true).length) = i := by
        rw [List.length_append, hlen, List.length_replicate]
        omega
      rw [hi]
      constructor
      · exact .inr
      · rintro (⟨-, h3⟩ | h3)
        · omega
        · exact h3

lemma paintedBy_replicate (n : Nat) : PaintedBy (List.replicate n false) [] := by
  intro i
  rw [List.getElem?_replicate]
  constructor
  · intro h
    split_ifs at h
    cases h
  · rintro ⟨s, hs, -⟩
    cases hs

lemma PaintedBy.paint (h : PaintedBy occ l) (hs : s.off + s.len ≤ occ.length) :
    PaintedBy (paint occ s) (l ++ [s]) := by
  intro i
  rw [getElem?_paint hs, h i]
  simp only [List.mem_append, List.mem_singleton]
  constructor
  · rintro (hi | ⟨t, ht, hi⟩)
    · exact ⟨s, .inr rfl, hi⟩
    · exact ⟨t, .inl ht, hi⟩
  · rintro ⟨t, ht | rfl, hi⟩
    · exact .inr ⟨t, ht, hi⟩
    · exact .inl hi

/-- A range is free of what was taken if it is apart from all of it. -/
lemma PaintedBy.freeOf_iff (h : PaintedBy occ l) (hl : ∀ t ∈ l, 0 < t.len) (hs : 0 < s.len) :
    FreeOf occ s ↔ ∀ t ∈ l, t.Apart s := by
  constructor
  · intro hf t ht
    by_contra hna
    obtain ⟨i, hi, hi'⟩ := Span.exists_has_of_not_apart (hl t ht) hs hna
    exact hf i hi' ((h i).2 ⟨t, ht, hi⟩)
  · intro ha i hi htaken
    obtain ⟨t, ht, hti⟩ := (h i).1 htaken
    exact (ha t ht).not_has hti hi

/-- Looking at the bytes of a range one by one finds out whether it is free. -/
lemma any_slice_iff : ((occ.drop s.off).take s.len).any id = true ↔ ¬ FreeOf occ s := by
  rw [List.any_eq_true]
  unfold FreeOf Span.Has
  push Not
  constructor
  · rintro ⟨b, hb, hid⟩
    obtain rfl : b = true := hid
    obtain ⟨j, hj⟩ := List.mem_iff_getElem?.1 hb
    have hlt : j < s.len := by
      by_contra hge
      rw [List.getElem?_take_eq_none (by omega)] at hj
      cases hj
    rw [List.getElem?_take_of_lt hlt, List.getElem?_drop] at hj
    exact ⟨s.off + j, ⟨by omega, by omega⟩, hj⟩
  · rintro ⟨i, ⟨h1, h2⟩, hi⟩
    refine ⟨true, List.mem_iff_getElem?.2 ⟨i - s.off, ?_⟩, rfl⟩
    rw [List.getElem?_take_of_lt (by omega), List.getElem?_drop,
      show s.off + (i - s.off) = i by omega]
    exact hi

end Paint

end Pnio
