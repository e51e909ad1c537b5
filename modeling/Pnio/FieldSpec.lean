import Pnio.Data

/-!
The packing rule of a submodule's fields as a whole: nothing overlaps, nothing is left out, bits
go eight to a byte, and so every field is a register of its own.
-/

namespace Pnio

/-! ### No gaps -/

namespace Packing

/-- The bytes so far, each with a field in it. -/
def Covered (s : Packing) : Prop :=
  ∀ b < s.nextByte, ∃ f ∈ s.refs, ∃ i, f.span.Has i ∧ i / 8 = b

lemma Covered.mono {s : Packing} (h : s.Covered) {f : FieldRef} {b : Nat} (hb : b < s.nextByte) :
    ∃ g ∈ s.refs ++ [f], ∃ i, g.span.Has i ∧ i / 8 = b := by
  obtain ⟨g, hg, hi⟩ := h b hb
  exact ⟨g, List.mem_append_left _ hg, hi⟩

lemma Pushed.covered {s s' : Packing} {ty : FieldType} (h : Pushed s ty s') (hc : s.Covered)
    (hn : s'.nextByte ≤ 65535) : s'.Covered := by
  intro b hb
  cases h with
  | bit => exact hc.mono hb
  | newBit ht =>
    dsimp only at hb hn
    rcases Nat.lt_or_ge b s.nextByte with hlt | hge
    · exact hc.mono hlt
    · refine ⟨_, List.mem_append_right _ (List.mem_singleton.2 rfl), 8 * s.nextByte, ?_, by omega⟩
      rw [FieldRef.span, toNat_ofNat_byte (by omega), ht]
      exact ⟨le_refl _, Nat.lt_succ_self _⟩
  | @bytes n ht =>
    dsimp only at hb hn
    rcases Nat.lt_or_ge b s.nextByte with hlt | hge
    · exact hc.mono hlt
    · refine ⟨_, List.mem_append_right _ (List.mem_singleton.2 rfl), 8 * b, ?_, by omega⟩
      rw [FieldRef.span, toNat_ofNat_byte (by omega), FieldType.bitLen_of_some ht]
      unfold Span.Has
      dsimp only
      rw [UInt8.toNat_zero]
      omega

end Packing

lemma packed_covered {fields : List FieldType} (h : (packed fields).nextByte ≤ 65535) :
    (packed fields).Covered := by
  induction fields using List.reverseRecOn with
  | nil =>
    intro b hb
    exact absurd hb (Nat.not_lt_zero b)
  | append_singleton fields ty ih =>
    rw [packed_snoc] at h ⊢
    have hp := Packing.push_pushed (packed fields) ty
    exact hp.covered (ih (le_trans hp.nextByte_le h)) h

/-! ### Declaration order -/

lemma packed_ordered {fields : List FieldType} (h : (packed fields).nextByte ≤ 65535) :
    (packed fields).refs.Pairwise fun f g => f.span.off + f.span.len ≤ g.span.off := by
  induction fields using List.reverseRecOn with
  | nil => exact List.Pairwise.nil
  | append_singleton fields ty ih =>
    rw [packed_snoc] at h ⊢
    have hp := Packing.push_pushed (packed fields) ty
    have hle := le_trans hp.nextByte_le h
    obtain ⟨f, hrefs, -, hoff, -⟩ := hp.span (packed_ok hle) h
    rw [hrefs]
    refine List.pairwise_append.2 ⟨ih hle, List.pairwise_singleton _ _, fun g hg f' hf' => ?_⟩
    rw [List.mem_singleton.1 hf']
    exact le_trans ((packed_ok hle).within g hg) hoff

/-! ### Runs of bits -/

/-- No byte is open for bits unless the last field is a bit. -/
lemma packed_closed {fields : List FieldType} (h : fields.getLast? ≠ some .bool) :
    (packed fields).bitByte = none := by
  induction fields using List.reverseRecOn with
  | nil => rfl
  | append_singleton fields ty _ =>
    have hty : ty ≠ .bool := by
      rintro rfl
      exact h (by simp)
    rw [packed_snoc]
    have hp := Packing.push_pushed (packed fields) ty
    generalize (packed fields).push ty = s' at hp ⊢
    cases hp with
    | bit ht => exact absurd ht hty
    | newBit ht => exact absurd ht hty
    | bytes => rfl

/-- The place of bit `j` of a run that begins with byte `b`. -/
def runRef (b j : Nat) : FieldRef := ⟨UInt16.ofNat (b + j / 8), UInt8.ofNat (j % 8), .bool⟩

/-- A run of bits is packed from a byte boundary on, least significant bit first. -/
lemma packed_run {pre : List FieldType} (h : pre.getLast? ≠ some .bool) (k : Nat) :
    let s := packed (pre ++ List.replicate k .bool)
    let b := (packed pre).nextByte
    s.refs = (packed pre).refs ++ (List.range k).map (runRef b) ∧
      s.nextByte = b + (k + 7) / 8 ∧
      s.bitByte = if k = 0 then none else some (b + (k - 1) / 8, (k - 1) % 8 + 1) := by
  dsimp only
  induction k with
  | zero => simp [packed_closed h]
  | succ k ih =>
    obtain ⟨hrefs, hnext, hbit⟩ := ih
    rw [List.replicate_succ', ← List.append_assoc, packed_snoc]
    have hp := Packing.push_pushed (packed (pre ++ List.replicate k .bool)) .bool
    generalize (packed (pre ++ List.replicate k .bool)).push .bool = s' at hp ⊢
    generalize packed (pre ++ List.replicate k .bool) = s at hrefs hnext hbit hp
    have hmap : (List.range (k + 1)).map (runRef (packed pre).nextByte) =
        (List.range k).map (runRef (packed pre).nextByte) ++ [runRef (packed pre).nextByte k] := by
      rw [List.range_succ, List.map_append, List.map_singleton]
    cases hp with
    | @bit b' k' _ hb hk =>
      rw [hbit] at hb
      split_ifs at hb with hz
      simp only [Option.some.injEq, Prod.mk.injEq] at hb
      obtain ⟨rfl, rfl⟩ := hb
      -- The open byte has room, so the run goes on in it.
      have hdiv : (k - 1) / 8 = k / 8 := by omega
      have hmod : (k - 1) % 8 + 1 = k % 8 := by omega
      refine ⟨?_, ?_, ?_⟩
      · rw [hrefs, hmap, hdiv, hmod, List.append_assoc]
        rfl
      · dsimp only
        omega
      · rw [if_neg (Nat.succ_ne_zero k), Nat.add_sub_cancel, hdiv, hmod]
    | newBit _ hb =>
      -- There is no open byte or it is full: `k` is a multiple of eight.
      have hk : k % 8 = 0 := by
        by_cases hz : k = 0
        · rw [hz]
        · have := hb _ _ (by rw [hbit, if_neg hz])
          omega
      have hplace : s.nextByte = (packed pre).nextByte + k / 8 := by omega
      refine ⟨?_, ?_, ?_⟩
      · rw [hrefs, hmap, hplace, List.append_assoc, runRef, hk]
        rfl
      · dsimp only
        omega
      · rw [if_neg (Nat.succ_ne_zero k), Nat.add_sub_cancel, hplace, hk]
    | bytes ht => cases ht

/-- The fields placed first stay where they are. -/
lemma packed_refs_append (fields more : List FieldType) :
    (packed fields).refs <+: (packed (fields ++ more)).refs := by
  induction more using List.reverseRecOn with
  | nil => rw [List.append_nil]
  | append_singleton more ty ih =>
    rw [← List.append_assoc, packed_snoc]
    refine ih.trans ?_
    have hp := Packing.push_pushed (packed (fields ++ more)) ty
    generalize (packed (fields ++ more)).push ty = s' at hp ⊢
    cases hp with
    | bit => exact List.prefix_append _ _
    | newBit => exact List.prefix_append _ _
    | bytes => exact List.prefix_append _ _

lemma packed_run_at {pre post : List FieldType} {k j : Nat} (h : pre.getLast? ≠ some .bool)
    (hj : j < k) :
    (packed (pre ++ List.replicate k .bool ++ post)).refs[pre.length + j]? =
      some (runRef (packed pre).nextByte j) := by
  have hlen : (packed pre).refs.length = pre.length := by
    rw [← List.length_map (f := FieldRef.ty), packed_types]
  obtain ⟨hrefs, -, -⟩ := packed_run h k
  have hmem : (packed (pre ++ List.replicate k .bool)).refs[pre.length + j]? =
      some (runRef (packed pre).nextByte j) := by
    rw [hrefs, List.getElem?_append_right (by omega), hlen, Nat.add_sub_cancel_left,
      List.getElem?_map, List.getElem?_range hj, Option.map_some]
  obtain ⟨t, ht⟩ := packed_refs_append (pre ++ List.replicate k .bool) post
  rw [← ht, List.getElem?_append_left (List.getElem?_eq_some_iff.1 hmem).1, hmem]

/-! ### The rule -/

/-- **How the fields of a submodule are packed into `n` bytes.** -/
structure PackedInto (fields : List FieldType) (refs : List FieldRef) (n : Nat) : Prop where
  types : refs.map (·.ty) = fields
  counted : n = (fields.foldl countField (0, 0)).1
  ordered : refs.Pairwise fun f g => f.span.off + f.span.len ≤ g.span.off
  apart : (refs.map FieldRef.span).Pairwise Span.Apart
  within : ∀ f ∈ refs, f.span.off + f.span.len ≤ 8 * n
  /-- No byte is left out. -/
  covered : ∀ b < n, ∃ f ∈ refs, ∃ i, f.span.Has i ∧ i / 8 = b
  /-- A run of bits begins with a byte of its own and goes on bit by bit, eight to a byte. -/
  runs : ∀ pre k post, fields = pre ++ List.replicate k .bool ++ post →
    pre.getLast? ≠ some .bool →
      ∃ b, ∀ j < k, ∃ f, refs[pre.length + j]? = some f ∧ f.ty = .bool ∧
        f.byte.toNat = b + j / 8 ∧ f.bit.toNat = j % 8

/-- **A field is a register of its own**: a value that is set reads back, and no other bit of the
data changes. -/
def Registers (refs : List FieldRef) (n : Nat) : Prop :=
  ∀ b : Bytes, b.length = n → ∀ f ∈ refs, ∀ v : Value, v.fieldType = f.ty →
    ∃ b', f.put v b = .ok b' ∧ b'.length = n ∧ f.get b' = .ok v ∧
      (∀ i, ¬ f.span.Has i → bitAt b' i = bitAt b i) ∧
      ∀ g ∈ refs, g ≠ f → g.get b' = g.get b

/-- The count does not pass over bytes it has not counted yet. -/
lemma packed_nextByte_append (fields more : List FieldType) :
    (packed fields).nextByte ≤ (packed (fields ++ more)).nextByte := by
  induction more using List.reverseRecOn with
  | nil => rw [List.append_nil]
  | append_singleton more ty ih =>
    rw [← List.append_assoc, packed_snoc]
    exact le_trans ih (Packing.push_pushed _ ty).nextByte_le

lemma runRef_place {b j : Nat} (h : b + j / 8 < 65536) :
    (runRef b j).byte.toNat = b + j / 8 ∧ (runRef b j).bit.toNat = j % 8 :=
  ⟨Packing.toNat_ofNat_byte h, Packing.toNat_ofNat_bit (Nat.mod_lt j (by decide))⟩

section Checked

variable {slot n : UInt16} {fields : List FieldType} {refs : List FieldRef}

lemma checkedLayout_packedInto (h : checkedLayout slot fields = .ok (refs, n)) :
    PackedInto fields refs n.toNat := by
  have hlaid := checkedLayout_laidOut h
  obtain ⟨hle, rfl, rfl⟩ := checkedLayout_eq_ok.1 h
  have hbound : (packed fields).nextByte ≤ 65535 := le_trans hle (by decide)
  have hn : (UInt16.ofNat (packed fields).nextByte).toNat = (packed fields).nextByte :=
    Packing.toNat_ofNat_byte (by omega)
  refine ⟨hlaid.types, ?_, packed_ordered hbound, hlaid.apart, hlaid.within, ?_, ?_⟩
  · rw [hn, countField_packed]
  · rw [hn]
    exact packed_covered hbound
  · rintro pre k post rfl hpre
    refine ⟨(packed pre).nextByte, fun j hj => ⟨_, packed_run_at hpre hj, rfl, ?_⟩⟩
    obtain ⟨-, hnext, -⟩ := packed_run hpre k
    have hmono := packed_nextByte_append (pre ++ List.replicate k .bool) post
    exact runRef_place (by omega)

lemma checkedLayout_registers (h : checkedLayout slot fields = .ok (refs, n)) :
    Registers refs n.toNat := by
  have hlaid := checkedLayout_laidOut h
  have hfits := checkedLayout_fits h
  intro b hb f hf v hv
  obtain ⟨b', hput, honly, hget⟩ := (hfits f hf).put_eq (le_of_eq hb.symm) hv
  have hlen : b'.length = n.toNat := by rw [honly.length, hb]
  refine ⟨b', hput, hlen, hget, honly.rest, fun g hg hne => ?_⟩
  have hsymm : Std.Symm fun f g : FieldRef => f.span.Apart g.span := ⟨fun _ _ h => h.symm⟩
  have hapart := (List.pairwise_map.1 hlaid.apart).forall hf hg hne.symm
  exact (hfits g hg).get_congr (le_of_eq hlen.symm) (le_of_eq hb.symm) (honly.sameBits hapart)

/-- **The packing rule**: the fields of a checked layout lie one after the other in the counted
bytes, and each of them is a register of its own. -/
theorem checkedLayout_packs (h : checkedLayout slot fields = .ok (refs, n)) :
    PackedInto fields refs n.toNat ∧ Registers refs n.toNat :=
  ⟨checkedLayout_packedInto h, checkedLayout_registers h⟩

theorem checkedLayout_packs_mixed :
    checkedLayout 1 [.bool, .bool, .real, .bool] =
        .ok ([⟨0, 0, .bool⟩, ⟨0, 1, .bool⟩, ⟨1, 0, .real⟩, ⟨5, 0, .bool⟩], 6) ∧
      Registers [⟨0, 0, .bool⟩, ⟨0, 1, .bool⟩, ⟨1, 0, .real⟩, ⟨5, 0, .bool⟩] 6 :=
  have h : checkedLayout 1 [.bool, .bool, .real, .bool] =
      .ok ([⟨0, 0, .bool⟩, ⟨0, 1, .bool⟩, ⟨1, 0, .real⟩, ⟨5, 0, .bool⟩], 6) := by decide
  ⟨h, (checkedLayout_packs h).2⟩

end Checked

end Pnio
