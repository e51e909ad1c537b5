import Pnio.Rpc

/-!
The NDR array header in front of the PNIO blocks: five counters on a request, a status and
four counters on a response.
-/

namespace Pnio

/-- What both directions of the array header check before they hand out the blocks. -/
def ndrBlocks (buf : Bytes) (argsLen offset actualCount : UInt32) : Res RpcError Bytes := do
  Res.reject (argsLen ≠ actualCount) (.ndrMismatch "args_len != actual_count")
  Res.reject (offset ≠ 0) (.ndrMismatch "array offset must be 0")
  Res.reject (buf.length - 20 < actualCount.toNat) (.ndrMismatch "actual_count overruns buffer")
  slice buf 20 (20 + actualCount.toNat)

structure NdrRequest where
  argsMax : UInt32
  argsLen : UInt32
  maxCount : UInt32
  offset : UInt32
  actualCount : UInt32
deriving DecidableEq, Repr

namespace NdrRequest

def hdrLen : Nat := 20

def parse (buf : Bytes) (drep : Drep) : Res RpcError (NdrRequest × Bytes) := do
  Res.reject (buf.length < hdrLen) (.tooShort hdrLen buf.length)
  let argsMax ← drep.u32 (← slice buf 0 4)
  let argsLen ← drep.u32 (← slice buf 4 8)
  let maxCount ← drep.u32 (← slice buf 8 12)
  let offset ← drep.u32 (← slice buf 12 16)
  let actualCount ← drep.u32 (← slice buf 16 20)
  let blocks ← ndrBlocks buf argsLen offset actualCount
  .ok ({ argsMax, argsLen, maxCount, offset, actualCount }, blocks)

def forBlocks (argsMax blocksLen : UInt32) : NdrRequest :=
  { argsMax, argsLen := blocksLen, maxCount := argsMax, offset := 0, actualCount := blocksLen }

def write (n : NdrRequest) (drep : Drep) : Bytes :=
  drep.putU32 n.argsMax ++ drep.putU32 n.argsLen ++ drep.putU32 n.maxCount ++
  drep.putU32 n.offset ++ drep.putU32 n.actualCount

@[simp] lemma length_write (n : NdrRequest) (drep : Drep) : (n.write drep).length = 20 := by
  simp [write]

end NdrRequest

structure NdrResponse where
  status : UInt32
  argsLen : UInt32
  maxCount : UInt32
  offset : UInt32
  actualCount : UInt32
deriving DecidableEq, Repr

namespace NdrResponse

def hdrLen : Nat := 20

def parse (buf : Bytes) (drep : Drep) : Res RpcError (NdrResponse × Bytes) := do
  Res.reject (buf.length < hdrLen) (.tooShort hdrLen buf.length)
  let status ← drep.u32 (← slice buf 0 4)
  let argsLen ← drep.u32 (← slice buf 4 8)
  let maxCount ← drep.u32 (← slice buf 8 12)
  let offset ← drep.u32 (← slice buf 12 16)
  let actualCount ← drep.u32 (← slice buf 16 20)
  let blocks ← ndrBlocks buf argsLen offset actualCount
  .ok ({ status, argsLen, maxCount, offset, actualCount }, blocks)

def ok (requestArgsMax blocksLen : UInt32) : NdrResponse :=
  { status := 0, argsLen := blocksLen, maxCount := requestArgsMax, offset := 0,
    actualCount := blocksLen }

def error (status requestArgsMax : UInt32) : NdrResponse :=
  { status, argsLen := 0, maxCount := requestArgsMax, offset := 0, actualCount := 0 }

def write (n : NdrResponse) (drep : Drep) : Bytes :=
  drep.putU32 n.status ++ drep.putU32 n.argsLen ++ drep.putU32 n.maxCount ++
  drep.putU32 n.offset ++ drep.putU32 n.actualCount

@[simp] lemma length_write (n : NdrResponse) (drep : Drep) : (n.write drep).length = 20 := by
  simp [write]

end NdrResponse

/-! ### Round trips -/

lemma ndrBlocks_append {pre blocks : Bytes} {cnt : UInt32} (rest : Bytes) (hp : pre.length = 20)
    (hc : cnt.toNat = blocks.length) :
    ndrBlocks (pre ++ (blocks ++ rest)) cnt 0 cnt = .ok blocks := by
  unfold ndrBlocks
  rw [Res.reject_of_not (by simp), Res.reject_of_not (by simp),
    Res.reject_of_not (by simp [hp, hc])]
  simp only [Res.ok_bind]
  rw [slice_append_right (by omega) (by omega), hp, hc, Nat.sub_self, Nat.add_sub_cancel_left,
    slice_append_left rfl]

/-- **Request round trip**: the header and exactly the declared blocks are read back. -/
theorem NdrRequest.parse_write (n : NdrRequest) (drep : Drep) (blocks rest : Bytes)
    (ha : n.argsLen = n.actualCount) (ho : n.offset = 0)
    (hc : n.actualCount.toNat = blocks.length) :
    parse (n.write drep ++ (blocks ++ rest)) drep = .ok (n, blocks) := by
  have hl : ¬ (n.write drep ++ (blocks ++ rest)).length < hdrLen := by simp [hdrLen]
  have hb := ndrBlocks_append rest (n.length_write drep) hc
  unfold parse
  rw [Res.reject_of_not hl, Res.ok_bind]
  simp (disch := simp) only [write, List.append_assoc, slice_append_left, slice_append_right,
    Res.ok_bind, Drep.u32_putU32, Drep.length_putU32, Nat.reduceSub, ho, ha] at hb ⊢
  rw [hb, Res.ok_bind]
  cases n; simp_all

/-- **Response round trip**: the status and exactly the declared blocks are read back. -/
theorem NdrResponse.parse_write (n : NdrResponse) (drep : Drep) (blocks rest : Bytes)
    (ha : n.argsLen = n.actualCount) (ho : n.offset = 0)
    (hc : n.actualCount.toNat = blocks.length) :
    parse (n.write drep ++ (blocks ++ rest)) drep = .ok (n, blocks) := by
  have hl : ¬ (n.write drep ++ (blocks ++ rest)).length < hdrLen := by simp [hdrLen]
  have hb := ndrBlocks_append rest (n.length_write drep) hc
  unfold parse
  rw [Res.reject_of_not hl, Res.ok_bind]
  simp (disch := simp) only [write, List.append_assoc, slice_append_left, slice_append_right,
    Res.ok_bind, Drep.u32_putU32, Drep.length_putU32, Nat.reduceSub, ho, ha] at hb ⊢
  rw [hb, Res.ok_bind]
  cases n; simp_all

end Pnio
