import Pnio.Lib.Bytes

/-!
The classic packet filter machine: an accumulator, an index register and a program that only
jumps forward. A load outside the packet ends the program and drops the packet.
-/

namespace Pnio

/-- One instruction, as the kernel is given it. -/
structure SockFilter where
  code : UInt16
  jt : UInt8
  jf : UInt8
  k : UInt32
deriving DecidableEq, Repr

namespace SockFilter

def ldHAbs : UInt16 := 0x28
def ldHInd : UInt16 := 0x48
def ldxImm : UInt16 := 0x01
def ja : UInt16 := 0x05
def jeq : UInt16 := 0x15
def jge : UInt16 := 0x35
def jgt : UInt16 := 0x25
def ret : UInt16 := 0x06

/-- How many instructions a comparison skips. -/
def branch (i : SockFilter) (c : Prop) [Decidable c] : Nat := if c then i.jt.toNat else i.jf.toNat

/-- The program from its `skip`-th instruction on, with accumulator `a` and index register `x`:
how many bytes of the packet are passed on. A program that ends without a `ret` or has another
instruction is none the kernel loads. -/
def exec (pkt : Bytes) : List SockFilter → Nat → UInt32 → UInt32 → Option UInt32
  | [], _, _, _ => none
  | _ :: prog, skip + 1, a, x => exec pkt prog skip a x
  | i :: prog, 0, a, x =>
    if i.code = ldHAbs then
      match half pkt i.k.toNat with
      | some v => exec pkt prog 0 v.toUInt32 x
      | none => some 0
    else if i.code = ldHInd then
      match half pkt (x + i.k).toNat with
      | some v => exec pkt prog 0 v.toUInt32 x
      | none => some 0
    else if i.code = ldxImm then exec pkt prog 0 a i.k
    else if i.code = ja then exec pkt prog i.k.toNat a x
    else if i.code = jeq then exec pkt prog (i.branch (a = i.k)) a x
    else if i.code = jge then exec pkt prog (i.branch (i.k ≤ a)) a x
    else if i.code = jgt then exec pkt prog (i.branch (i.k < a)) a x
    else if i.code = ret then some i.k
    else none

/-- The program on a packet. -/
def run (prog : List SockFilter) (pkt : Bytes) : Option UInt32 := exec pkt prog 0 0 0

/-- The packet is passed on. -/
def Passes (prog : List SockFilter) (pkt : Bytes) : Prop := ∃ n, run prog pkt = some n ∧ n ≠ 0

/-! ### One rule for each instruction -/

section Rules

variable {pkt : Bytes} {prog : List SockFilter} {jt jf : UInt8} {k a x : UInt32}

@[simp] lemma exec_skip (i : SockFilter) (n : Nat) :
    exec pkt (i :: prog) (n + 1) a x = exec pkt prog n a x := rfl

lemma exec_ldHAbs :
    exec pkt (⟨ldHAbs, jt, jf, k⟩ :: prog) 0 a x =
      match half pkt k.toNat with
      | some v => exec pkt prog 0 v.toUInt32 x
      | none => some 0 := rfl

lemma exec_ldHInd :
    exec pkt (⟨ldHInd, jt, jf, k⟩ :: prog) 0 a x =
      match half pkt (x + k).toNat with
      | some v => exec pkt prog 0 v.toUInt32 x
      | none => some 0 := rfl

lemma exec_jeq :
    exec pkt (⟨jeq, jt, jf, k⟩ :: prog) 0 a x =
      if a = k then exec pkt prog jt.toNat a x else exec pkt prog jf.toNat a x := by
  have hrule : exec pkt (⟨jeq, jt, jf, k⟩ :: prog) 0 a x =
    exec pkt prog (if a = k then jt.toNat else jf.toNat) a x := rfl
  rw [hrule, apply_ite (exec pkt prog · a x)]

lemma exec_jge :
    exec pkt (⟨jge, jt, jf, k⟩ :: prog) 0 a x =
      if k ≤ a then exec pkt prog jt.toNat a x else exec pkt prog jf.toNat a x := by
  have hrule : exec pkt (⟨jge, jt, jf, k⟩ :: prog) 0 a x =
    exec pkt prog (if k ≤ a then jt.toNat else jf.toNat) a x := rfl
  rw [hrule, apply_ite (exec pkt prog · a x)]

lemma exec_jgt :
    exec pkt (⟨jgt, jt, jf, k⟩ :: prog) 0 a x =
      if k < a then exec pkt prog jt.toNat a x else exec pkt prog jf.toNat a x := by
  have hrule : exec pkt (⟨jgt, jt, jf, k⟩ :: prog) 0 a x =
    exec pkt prog (if k < a then jt.toNat else jf.toNat) a x := rfl
  rw [hrule, apply_ite (exec pkt prog · a x)]

end Rules

end SockFilter

end Pnio
