import Pnio.Eth

/-!
The RTC1 frame: a FrameID, the C-SDU and the four bytes of APDU status behind it.
-/

namespace Pnio

def tciRt : UInt16 := 0xC000
def csduMin : Nat := 40
def apduLen : Nat := 4

inductive FrameError where
  | tooShort (need have_ : Nat)
  | notProfinet
  | bufferTooSmall (need have_ : Nat)
deriving DecidableEq, Repr

structure DataStatus where
  val : UInt8
deriving DecidableEq, Repr

namespace DataStatus

def runPrimaryValidOk : DataStatus := ⟨0x35⟩
def runPrimaryValidProblem : DataStatus := ⟨0x15⟩

def primary (s : DataStatus) : Bool := s.val &&& 0x01 != 0
def redundancy (s : DataStatus) : Bool := s.val &&& 0x02 != 0
def dataValid (s : DataStatus) : Bool := s.val &&& 0x04 != 0
def providerRun (s : DataStatus) : Bool := s.val &&& 0x10 != 0
def stationOk (s : DataStatus) : Bool := s.val &&& 0x20 != 0

end DataStatus

structure RtFrame where
  frameId : UInt16
  csdu : Bytes
  cycleCounter : UInt16
  dataStatus : DataStatus
  transferStatus : UInt8
deriving DecidableEq, Repr

def frameLen (csduLen : Nat) : Nat := 18 + 2 + max csduLen csduMin + apduLen

namespace RtFrame

/-- The length a frame would need whose Ethernet header is not complete. -/
def headerTooShort (frame : Bytes) : FrameError :=
  let off := if 14 ≤ frame.length ∧ (frame.drop 12).take 2 = [0x81, 0x00] then 18 else 14
  .tooShort (off + 2 + csduMin + apduLen) frame.length

def parse (frame : Bytes) : Res FrameError (EthHeader × RtFrame) := do
  let (eth, off) ← Res.mapErr (fun _ => headerTooShort frame) (EthHeader.parse frame)
  Res.reject (eth.ethertype ≠ ethertypeProfinet) .notProfinet
  let need := off + 2 + csduMin + apduLen
  Res.reject (frame.length < need) (.tooShort need frame.length)
  let frameId ← u16At frame off
  let apduOff := frame.length - apduLen
  let csdu ← slice frame (off + 2) apduOff
  let apdu ← slice frame apduOff frame.length
  let cycleCounter ← u16At apdu 0
  let dataStatus ← idx apdu 2
  let transferStatus ← idx apdu 3
  .ok (eth, { frameId, csdu, cycleCounter, dataStatus := ⟨dataStatus⟩, transferStatus })

/-- The bytes of a frame, its C-SDU padded with zeros to the minimum. -/
def bytes (f : RtFrame) (dst src : MacAddr) : Bytes :=
  dst.bytes ++ src.bytes ++ be16 ethertypeVlan ++ be16 tciRt ++ be16 ethertypeProfinet ++
  be16 f.frameId ++ f.csdu ++ List.replicate (csduMin - f.csdu.length) 0 ++
  be16 f.cycleCounter ++ [f.dataStatus.val, f.transferStatus]

/-- The buffer with the frame at its front, and the length of the frame. -/
def write (f : RtFrame) (out : Bytes) (dst src : MacAddr) : Res FrameError (Bytes × Nat) := do
  let need := frameLen f.csdu.length
  Res.reject (out.length < need) (.bufferTooSmall need out.length)
  let out ← patch out 0 (f.bytes dst src)
  .ok (out, need)

@[simp] lemma length_bytes (f : RtFrame) (dst src : MacAddr) :
    (f.bytes dst src).length = frameLen f.csdu.length := by
  simp [bytes, frameLen, csduMin, apduLen]; omega

end RtFrame

end Pnio
