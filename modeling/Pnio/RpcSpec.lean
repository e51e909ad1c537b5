import Pnio.CmSafe
import Pnio.ConnectBlocks

/-!
The encodings of the RPC layer invert each other.

What is written is read back from the front of any buffer, in both byte orders; and what is accepted
is, byte for byte, what would have been written. The same for a row of PNIO blocks.
-/

namespace Pnio

/-! ### Reading, then writing -/

section Rewrite

variable {ε : Type}

namespace Drep

variable {d : Drep} {b : Bytes}

/-- A number is written as the bytes it was read from. -/
lemma putU16_of_u16 {v : UInt16} (hb : b.length = 2) (h : (d.u16 b : Res ε _) = .ok v) :
    d.putU16 v = b := by
  rw [u16, slice_full hb, Res.ok_bind] at h
  cases h
  unfold putU16 value
  split
  · have hlt : ofLe b < 2 ^ 16 := by simpa [ofLe, hb] using ofBe_lt b.reverse
    rw [UInt16.toNat_ofNat', Nat.mod_eq_of_lt hlt, ← hb, toLe_ofLe]
  · exact be16_ofBe hb

lemma putU32_of_u32 {v : UInt32} (hb : b.length = 4) (h : (d.u32 b : Res ε _) = .ok v) :
    d.putU32 v = b := by
  rw [u32, slice_full hb, Res.ok_bind] at h
  cases h
  unfold putU32 value
  split
  · have hlt : ofLe b < 2 ^ 32 := by simpa [ofLe, hb] using ofBe_lt b.reverse
    rw [UInt32.toNat_ofNat', Nat.mod_eq_of_lt hlt, ← hb, toLe_ofLe]
  · exact be32_ofBe hb

end Drep

lemma PacketType.toU8_of_fromU8 {b : UInt8} {t : PacketType} (h : fromU8 b = .ok t) :
    t.toU8 = b := by
  unfold fromU8 at h
  split at h
  all_goals cases h
  all_goals exact UInt8.toNat_inj.1 (Eq.symm (by assumption))

lemma Uuid.write_of_bytes {u : Uuid} {a : UInt32} {b c : UInt16} {rest : Bytes} (d : Drep)
    (h : u.bytes = be32 a ++ (be16 b ++ (be16 c ++ rest))) :
    write u d = d.putU32 a ++ d.putU16 b ++ d.putU16 c ++ rest := by
  have h0 : u.bytes.take 4 = be32 a := by
    rw [h, List.take_left' (length_be32 a)]
  have h4 : u.bytes.drop 4 = be16 b ++ (be16 c ++ rest) := by
    rw [h, List.drop_left' (length_be32 a)]
  have h6 : u.bytes.drop 6 = be16 c ++ rest := by
    rw [← List.drop_drop (i := 2) (j := 4), h4, List.drop_left' (length_be16 b)]
  have h8 : u.bytes.drop 8 = rest := by
    rw [← List.drop_drop (i := 2) (j := 6), h6, List.drop_left' (length_be16 c)]
  rw [write, h0, h4, h6, h8, List.take_left' (length_be16 b), List.take_left' (length_be16 c),
    ofBe_be32, ofBe_be16, ofBe_be16]

lemma Uuid.write_of_read {b : Bytes} {d : Drep} {u : Uuid} (hb : b.length = 16)
    (h : (read b d : Res ε _) = .ok (some u)) : write u d = b := by
  unfold read at h
  rw [if_neg (by omega)] at h
  obtain ⟨s0, h0, h⟩ := Res.bind_eq_ok.1 h
  obtain ⟨timeLow, hlow, h⟩ := Res.bind_eq_ok.1 h
  obtain ⟨s4, h4, h⟩ := Res.bind_eq_ok.1 h
  obtain ⟨timeMid, hmid, h⟩ := Res.bind_eq_ok.1 h
  obtain ⟨s6, h6, h⟩ := Res.bind_eq_ok.1 h
  obtain ⟨timeHi, hhi, h⟩ := Res.bind_eq_ok.1 h
  obtain ⟨rest, h8, h⟩ := Res.bind_eq_ok.1 h
  obtain ⟨u', hu, h⟩ := Res.bind_eq_ok.1 h
  cases h
  have hbytes : u.bytes = be32 timeLow ++ (be16 timeMid ++ (be16 timeHi ++ rest)) := by
    unfold Octets.copyFrom at hu
    split at hu
    · cases hu
      simp only [List.append_assoc]
    · cases hu
  rw [write_of_bytes d hbytes, Drep.putU32_of_u32 (length_of_slice h0) hlow,
    Drep.putU16_of_u16 (length_of_slice h4) hmid, Drep.putU16_of_u16 (length_of_slice h6) hhi]
  have hstart : s0 = b.take 4 := by simpa using take_append_slice h0
  rw [hstart, take_append_slice h4, take_append_slice h6, take_append_slice h8,
    List.take_of_length_le (le_of_eq hb)]

section Fields

variable {buf s : Bytes} {d : Drep} {lo hi : Nat}

/-! Each field is written behind what came before it in the buffer. -/

lemma take_append_putU16 {v : UInt16} (hs : (slice buf lo hi : Res ε _) = .ok s)
    (hv : (d.u16 s : Res ε _) = .ok v) (hi2 : hi - lo = 2) :
    buf.take lo ++ d.putU16 v = buf.take hi := by
  rw [Drep.putU16_of_u16 ((length_of_slice hs).trans hi2) hv, take_append_slice hs]

lemma take_append_putU32 {v : UInt32} (hs : (slice buf lo hi : Res ε _) = .ok s)
    (hv : (d.u32 s : Res ε _) = .ok v) (hi4 : hi - lo = 4) :
    buf.take lo ++ d.putU32 v = buf.take hi := by
  rw [Drep.putU32_of_u32 ((length_of_slice hs).trans hi4) hv, take_append_slice hs]

lemma take_append_uuid {u? : Option Uuid} {u : Uuid} (hs : (slice buf lo hi : Res ε _) = .ok s)
    (hv : (Uuid.read s d : Res ε _) = .ok u?) (hu : (Res.unwrap u? : Res ε _) = .ok u)
    (hi16 : hi - lo = 16) : buf.take lo ++ u.write d = buf.take hi := by
  obtain rfl := Res.unwrap_eq_ok.1 hu
  rw [Uuid.write_of_read ((length_of_slice hs).trans hi16) hv, take_append_slice hs]

end Fields

/-- The writer spells the byte order as the first of three bytes. -/
lemma Drep.take_append_toBytes {buf : Bytes} {b : UInt8} {d : Drep}
    (h4 : (idx buf 4 : Res ε _) = .ok b) (hd : (buf.drop 4).take 3 = d.toBytes) :
    fromByte b = d ∧ buf.take 4 ++ d.toBytes = buf.take 7 := by
  constructor
  · rw [idx_eq_ok] at h4
    have hb : d.toBytes[0]? = some b := by
      rw [← hd, List.getElem?_take_of_lt (by decide), List.getElem?_drop]
      exact h4
    have hb' : (if d.littleEndian then 0x10 else 0x00) = b := Option.some.inj hb
    rw [← hb', fromByte_toBytes]
  · rw [← hd, ← List.take_add]

/-- **An accepted header is written as it came**, if its byte order is spelled as the writer
spells it. -/
lemma RpcHeader.write_of_parse {buf : Bytes} {h : RpcHeader} {d : Drep}
    (hp : parse buf = .ok h) (hd : (buf.drop 4).take 3 = d.toBytes) : h.write = buf.take 80 := by
  simp only [parse, Res.bind_eq_ok, Res.reject_eq_ok, exists_const, Res.ok.injEq, not_not] at hp
  obtain ⟨-, v, h0, hv, t, h1, ptype, ht, flags1, h2, flags2, h3, order, h4, serialHi, h7, hp⟩ := hp
  obtain ⟨s8, h8, object?, hobj?, object, hobj, hp⟩ := hp
  obtain ⟨s24, h24, interface?, hif?, interface, hif, hp⟩ := hp
  obtain ⟨s40, h40, activity?, hact?, activity, hact, hp⟩ := hp
  obtain ⟨s56, h56, serverBoot, hboot, s60, h60, ifVersion, hver, s64, h64, seqNum, hseq, hp⟩ := hp
  obtain ⟨s68, h68, opnum, hop, s70, h70, ihint, hih, s72, h72, ahint, hah, hp⟩ := hp
  obtain ⟨s74, h74, fragLen, hfl, s76, h76, fragNum, hfn, hp⟩ := hp
  obtain ⟨authProto, h78, serialLo, h79, -, rfl⟩ := hp
  subst hv
  obtain ⟨rfl, htake⟩ := Drep.take_append_toBytes h4 hd
  have hstart : [version, t, flags1, flags2] = buf.take 4 := by
    rw [← take_append_idx h3, ← take_append_idx h2, ← take_append_idx h1, ← take_append_idx h0]
    rfl
  simp only [write, PacketType.toU8_of_fromU8 ht]
  rw [hstart, htake, take_append_idx h7, take_append_uuid h8 hobj? hobj rfl,
    take_append_uuid h24 hif? hif rfl, take_append_uuid h40 hact? hact rfl,
    take_append_putU32 h56 hboot rfl, take_append_putU32 h60 hver rfl,
    take_append_putU32 h64 hseq rfl, take_append_putU16 h68 hop rfl,
    take_append_putU16 h70 hih rfl, take_append_putU16 h72 hah rfl,
    take_append_putU16 h74 hfl rfl, take_append_putU16 h76 hfn rfl]
  rw [← take_append_idx h79, ← take_append_idx h78, List.append_assoc]
  rfl

end Rewrite

/-- **The RPC encodings invert**: headers, array headers and UUIDs are read back as they were
written, in both byte orders; and an accepted header is written as it came. -/
theorem rpc_inverse :
    (∀ h : RpcHeader, h.fragNum = 0 → h.flags1 &&& flag1Frag = 0 →
      RpcHeader.parse h.write = .ok h) ∧
    (∀ (n : NdrRequest) (d : Drep) (blocks rest : Bytes), n.argsLen = n.actualCount →
      n.actualCount.toNat = blocks.length → n.offset = 0 →
      NdrRequest.parse (n.write d ++ (blocks ++ rest)) d = .ok (n, blocks)) ∧
    (∀ (n : NdrResponse) (d : Drep) (blocks rest : Bytes), n.argsLen = n.actualCount →
      n.actualCount.toNat = blocks.length → n.offset = 0 →
      NdrResponse.parse (n.write d ++ (blocks ++ rest)) d = .ok (n, blocks)) ∧
    (∀ (u : Uuid) (d : Drep), (Uuid.read (u.write d) d : Res RpcError _) = .ok (some u)) ∧
    ∀ (buf : Bytes) (h : RpcHeader), RpcHeader.parse buf = .ok h →
      (∃ d : Drep, (buf.drop 4).take 3 = d.toBytes) → h.write = buf.take 80 := by
  refine ⟨?_, ?_, ?_, ?_, ?_⟩
  · intro h hn hf
    have hp := h.parse_write [] hn hf
    rwa [List.append_nil] at hp
  · intro n d blocks rest ha hc ho
    exact n.parse_write d blocks rest ha ho hc
  · intro n d blocks rest ha hc ho
    exact n.parse_write d blocks rest ha ho hc
  · exact fun u d => Uuid.read_write u d
  · rintro buf h hp ⟨d, hd⟩
    exact RpcHeader.write_of_parse hp hd

/-- A request header in little-endian order. -/
def littleHeader : RpcHeader :=
  { ptype := .request, flags1 := flag1LastFrag, flags2 := 0, drep := .little, serialHi := 7,
    object := .fill 16 1, interface := pnioDeviceInterface, activity := .fill 16 3, serverBoot := 0,
    ifVersion := 1, seqNum := 258, opnum := Opnum.write.toU16, ihint := 0xffff, ahint := 0xffff,
    fragLen := 23, fragNum := 0, authProto := 0, serialLo := 9 }

/-- The little-endian header and three bytes of blocks, with one byte behind them. -/
theorem rpc_inverse_little :
    RpcHeader.parse littleHeader.write = .ok littleHeader ∧
      NdrRequest.parse ((NdrRequest.forBlocks 100 3).write .little ++ ([1, 2, 3] ++ [4])) .little =
        .ok (NdrRequest.forBlocks 100 3, [1, 2, 3]) ∧
      littleHeader.write = (littleHeader.write ++ [4]).take 80 := by
  obtain ⟨hhead, hreq, -, -, hback⟩ := rpc_inverse
  refine ⟨hhead littleHeader rfl (by decide), hreq _ .little [1, 2, 3] [4] rfl rfl rfl, ?_⟩
  exact hback _ littleHeader (by decide +kernel) ⟨.little, by decide +kernel⟩

/-! ### Blocks in a row -/

/-- **`read_all` inverts `write`**: bodies that fit are read back with their types, in order; what
is accepted is covered end to end; and every round takes a header off the front. -/
theorem readAll_inverse :
    (∀ bs : List (UInt16 × Bytes), (∀ b ∈ bs, b.2.length ≤ 65533) →
      ∃ ws, (bs.mapM (fun b => writeBlock b.1 b.2) : Res BlockError _) = .ok ws ∧
        ∃ rs, BlockHeader.readAll ws.flatten = .ok rs ∧
          rs.map (fun r => (r.1.blockType, r.2)) = bs) ∧
    (∀ buf rs, BlockHeader.readAll buf = .ok rs → buf = rs.flatMap fun r => r.1.bytes ++ r.2) ∧
    (∀ buf r, BlockHeader.parse buf = .ok r →
      (buf.drop (BlockHeader.hdrLen + r.2.length)).length + 6 ≤ buf.length) ∧
    ∀ buf p, BlockHeader.readAll buf ≠ .panic p := by
  refine ⟨?_, ?_, ?_, ?_⟩
  · intro bs hbs
    have hfit : ∀ b ∈ bs, BlockFits b := fun b hb => by
      have := hbs b hb
      unfold BlockFits
      omega
    refine ⟨_, mapM_writeBlock hfit, _, readAll_blocks hfit, ?_⟩
    rw [List.map_map]
    exact List.map_id' bs
  · intro buf rs h
    exact (BlockHeader.readAll_eq_ok.1 h).2
  · intro buf r h
    obtain ⟨-, rest, rfl⟩ := BlockHeader.parse_eq_ok.1 h
    simp only [List.length_drop, List.length_append, BlockHeader.length_bytes, BlockHeader.hdrLen]
    omega
  · intro buf p
    exact (BlockHeader.noPanic_readAll buf).ne_panic p

/-- Two blocks, the second one without a body. -/
theorem readAll_inverse_two :
    ∃ ws rs, (([(0x0101, [7, 8]), (0x0102, [])] : List (UInt16 × Bytes)).mapM
        (fun b => writeBlock b.1 b.2) : Res BlockError _) = .ok ws ∧
      BlockHeader.readAll ws.flatten = .ok rs ∧
      rs.map (fun r => (r.1.blockType, r.2)) = [(0x0101, [7, 8]), (0x0102, [])] := by
  obtain ⟨ws, hw, rs, hr, hmap⟩ := readAll_inverse.1 [(0x0101, [7, 8]), (0x0102, [])] (by decide)
  exact ⟨ws, rs, hw, hr, hmap⟩

end Pnio
