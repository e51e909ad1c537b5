import Pnio.Ndr
import Pnio.Ar

/-!
The context manager: RPC datagrams in, RPC datagrams and AR notifications out.

It parses the envelope of a datagram, feeds the AR machine, wraps the machine's actions into
complete PDUs and keeps a small cache of responses for retransmitted requests.
-/

namespace Pnio

def pnioUdpPort : UInt16 := 34964
def rpcArgsMax : UInt32 := 1340
def cacheCapacity : Nat := 4

inductive IpAddr where
  | v4 (a : Octets 4)
  | v6 (a : Octets 16)
deriving DecidableEq, Repr

structure SocketAddr where
  ip : IpAddr
  port : UInt16
deriving DecidableEq, Repr

structure Outgoing where
  bytes : Bytes
  dst : SocketAddr
deriving DecidableEq, Repr

structure CmOutput where
  send : List Outgoing
  notify : List (ArState × Option AbortReason)
deriving DecidableEq, Repr

/-- What a response takes from the request it answers. -/
structure RespondCtx where
  object : Uuid
  interface : Uuid
  activity : Uuid
  seqNum : UInt32
  opnum : UInt16
  argsMax : UInt32
  src : SocketAddr
deriving DecidableEq, Repr

def PnioStatus.writeIndexUnsupported : PnioStatus := .new 0xDF 0x80 0xB0 0x00

def errorStatus (e : CmError) (default : PnioStatus) : PnioStatus :=
  match e with
  | .reject s => s
  | .block _ => default

abbrev CacheKey := Uuid × UInt32

structure Cm where
  ar : Ar
  model : DeviceModel
  im0 : Im0
  im : ImStore
  activitySeed : Uuid
  callSeq : UInt32
  currentCallSeq : Option UInt32
  controllerAddr : Option SocketAddr
  cache : List (CacheKey × Bytes)
deriving DecidableEq

/-! ### PDUs -/

def responseHeader (ctx : RespondCtx) (blocksLen : Nat) : RpcHeader :=
  { ptype := .response, flags1 := flag1Idempotent ||| flag1NoFack, flags2 := 0, drep := .big,
    serialHi := 0, object := ctx.object, interface := ctx.interface, activity := ctx.activity,
    serverBoot := 0, ifVersion := 1, seqNum := ctx.seqNum, opnum := ctx.opnum, ihint := 0xffff,
    ahint := 0xffff, fragLen := UInt16.ofNat (NdrResponse.hdrLen + blocksLen), fragNum := 0,
    authProto := 0, serialLo := 0 }

def buildResponsePdu (ctx : RespondCtx) (status : PnioStatus) (blocks : Bytes) : Bytes :=
  let outBlocks := if status.val = 0 then blocks else []
  let ndr :=
    if status.val = 0 then NdrResponse.ok ctx.argsMax (UInt32.ofNat outBlocks.length)
    else NdrResponse.error status.val ctx.argsMax
  (responseHeader ctx outBlocks.length).write ++ ndr.write .big ++ outBlocks

def callHeader (object activity : Uuid) (seqNum : UInt32) (blocksLen : Nat) : RpcHeader :=
  { ptype := .request, flags1 := flag1Idempotent, flags2 := 0, drep := .big, serialHi := 0,
    object, interface := pnioControllerInterface, activity, serverBoot := 0, ifVersion := 1,
    seqNum, opnum := Opnum.control.toU16, ihint := 0xffff, ahint := 0xffff,
    fragLen := UInt16.ofNat (NdrRequest.hdrLen + blocksLen), fragNum := 0, authProto := 0,
    serialLo := 0 }

namespace Cm

variable {ε : Type}

def new (model : DeviceModel) (activitySeed : Uuid) : Cm :=
  { ar := Ar.new model, model, im0 := im0Default, im := ImStore.new, activitySeed, callSeq := 0,
    currentCallSeq := none, controllerAddr := none, cache := [] }

def cacheLookup (cm : Cm) (key : CacheKey) : Option Bytes :=
  (cm.cache.find? (·.1 == key)).map (·.2)

def cacheInsert (cm : Cm) (key : CacheKey) (pdu : Bytes) : Cm :=
  let kept := if cacheCapacity ≤ cm.cache.length then cm.cache.tail else cm.cache
  { cm with cache := kept ++ [(key, pdu)] }

/-- The PDU of one call under the given sequence number. -/
def callPdu (cm : Cm) (object : Uuid) (seqNum : UInt32) (blocks : Bytes) : Bytes :=
  (callHeader object cm.activitySeed seqNum blocks.length).write ++
    (NdrRequest.forBlocks rpcArgsMax (UInt32.ofNat blocks.length)).write .big ++ blocks

/-- A new call takes the next sequence number, a retry the one outstanding. -/
def buildCallPdu (cm : Cm) (blocks : Bytes) (isNew : Bool) : Res ε (Cm × Bytes) := do
  let ctx ← Res.unwrap cm.ar.ctx
  let object := ctx.params.initiatorObjectUuid
  if isNew then
    let seqNum := cm.callSeq
    if seqNum.toNat + 1 < 4294967296 then
      .ok ({ cm with callSeq := seqNum + 1, currentCallSeq := some seqNum },
        cm.callPdu object seqNum blocks)
    else .panic .overflow
  else do
    let seqNum ← Res.unwrap cm.currentCallSeq
    .ok (cm, cm.callPdu object seqNum blocks)

/-- One action of the AR machine; a `Respond` without a request is dropped. -/
def applyOne (respCtx : Option RespondCtx) (callIsNew : Bool) (s : Cm × CmOutput)
    (action : Action) : Res ε (Cm × CmOutput) :=
  let (cm, out) := s
  match action with
  | .respond status blocks =>
    match respCtx with
    | some ctx =>
      let pdu := buildResponsePdu ctx status blocks
      .ok (cm.cacheInsert (ctx.activity, ctx.seqNum) pdu,
        { out with send := out.send ++ [{ bytes := pdu, dst := ctx.src }] })
    | none => .ok (cm, out)
  | .callController blocks => do
    let dst ← Res.unwrap cm.controllerAddr
    let (cm, pdu) ← cm.buildCallPdu blocks callIsNew
    .ok (cm, { out with send := out.send ++ [{ bytes := pdu, dst }] })
  | .notify state reason => .ok (cm, { out with notify := out.notify ++ [(state, reason)] })

def apply (cm : Cm) (actions : List Action) (respCtx : Option RespondCtx) (callIsNew : Bool) :
    Res ε (Cm × CmOutput) :=
  actions.foldlM (applyOne respCtx callIsNew) (cm, ⟨[], []⟩)

def handleRead (cm : Cm) (req : ReadReq) (checkAr : Bool) : Res ε (List Action) :=
  let matchesAr := cm.ar.ctx.any (·.params.arUuid == req.arUuid)
  if checkAr && !matchesAr then .ok [refuse .readWrongAr]
  else do
    match ← readRecord req cm.model cm.im0 cm.im with
    | some data => do
      let blocks ← buildReadRes req data
      .ok [.respond .ok blocks]
    | none => .ok [refuse .readIndexUnsupported]

def isNotifyConnected : Action → Bool
  | .notify .connected _ => true
  | _ => false

def isRespondOk : Action → Bool
  | .respond s _ => s.val == 0
  | _ => false

/-- The I&M records of an accepted Write, in request order. -/
def writeImRecords (cm : Cm) (records : List Record) : Res ε ImStore :=
  records.foldlM (fun im r =>
    if indexIm1 ≤ r.index ∧ r.index ≤ indexIm3 then do
      let (_, im) ← writeImRecord r cm.model im
      .ok im
    else .ok im) cm.im

/-- A Connect that (re-)established the AR fixes the controller's address and forgets the
outstanding call. -/
def afterConnect (cm : Cm) (ar : Ar) (actions : List Action) (src : SocketAddr) : Cm :=
  if actions.any isNotifyConnected then
    { cm with ar, controllerAddr := some ⟨src.ip, pnioUdpPort⟩, currentCallSeq := none }
  else { cm with ar }

def serveConnect (cm : Cm) (blocks : Bytes) (src : SocketAddr) (now : Instant) :
    Res ε (Cm × List Action) := do
  match ← Res.attempt (ConnectReq.parse blocks) with
  | .ok req => do
    let (ar, actions) ← cm.ar.on (.connectReq req) now
    .ok (cm.afterConnect ar actions src, actions)
  | .error e => .ok (cm, [refuse (errorStatus e (.connectReject .arBlock 0xfe))])

def serveWrite (cm : Cm) (blocks : Bytes) (now : Instant) : Res ε (Cm × List Action) := do
  match ← Res.attempt (WriteReq.parse blocks) with
  | .ok req => do
    let (ar, actions) ← cm.ar.on (.writeReq req) now
    if actions.any isRespondOk then do
      let im ← cm.writeImRecords req.records
      .ok ({ cm with ar, im }, actions)
    else .ok ({ cm with ar }, actions)
  | .error e => .ok (cm, [refuse (errorStatus e .writeIndexUnsupported)])

def serveControl (cm : Cm) (blocks : Bytes) (now : Instant) : Res ε (Cm × List Action) := do
  match ← Res.attempt (ControlBlock.parse blocks) with
  | .ok cb =>
    if cb.command = ControlCmd.prmEnd then do
      let (ar, actions) ← cm.ar.on (.prmEndReq cb) now
      .ok ({ cm with ar }, actions)
    else .ok (cm, [refuse .controlWrongState])
  | .error e => .ok (cm, [refuse (errorStatus e .controlWrongState)])

def serveRelease (cm : Cm) (blocks : Bytes) (now : Instant) : Res ε (Cm × List Action) := do
  match ← Res.attempt (ControlBlock.parse blocks) with
  | .ok cb => do
    let (ar, actions) ← cm.ar.on (.releaseReq cb) now
    .ok ({ cm with ar }, actions)
  | .error e => .ok (cm, [refuse (errorStatus e .controlWrongState)])

def serveRead (cm : Cm) (blocks : Bytes) (checkAr : Bool) : Res ε (Cm × List Action) := do
  match ← Res.attempt (ReadReq.parse blocks) with
  | .ok req => do
    let actions ← cm.handleRead req checkAr
    .ok (cm, actions)
  | .error e => .ok (cm, [refuse (errorStatus e .readIndexUnsupported)])

def serve (cm : Cm) (opnum : UInt16) (blocks : Bytes) (src : SocketAddr) (now : Instant) :
    Res ε (Cm × List Action) :=
  match Opnum.fromU16 opnum with
  | some .connect => cm.serveConnect blocks src now
  | some .write => cm.serveWrite blocks now
  | some .control => cm.serveControl blocks now
  | some .release => cm.serveRelease blocks now
  | some .read => cm.serveRead blocks true
  | some .readImplicit => cm.serveRead blocks false
  | none => .ok (cm, [refuse .serviceUnsupported])

/-- A request that is not in the cache. -/
def handleRequest (cm : Cm) (h : RpcHeader) (body : Bytes) (src : SocketAddr) (now : Instant) :
    Res RpcError (Cm × CmOutput) := do
  let (req, blocks) ← NdrRequest.parse body h.drep
  let (cm, actions) ← cm.serve h.opnum blocks src now
  cm.apply actions
    (some { object := h.object, interface := h.interface, activity := h.activity,
            seqNum := h.seqNum, opnum := h.opnum, argsMax := req.argsMax, src }) true

/-- An error leaves the manager as it was: all of them are raised before anything changes. -/
def handleDatagram (cm : Cm) (buf : Bytes) (src : SocketAddr) (now : Instant) :
    Res RpcError (Cm × CmOutput) := do
  let h ← RpcHeader.parse buf
  let body ← slice buf RpcHeader.hdrLen buf.length
  if h.ptype = .response then do
    let (n, _) ← NdrResponse.parse body h.drep
    let (ar, actions) ← cm.ar.on (.appReadyRsp ⟨n.status⟩) now
    apply { cm with ar } actions none false
  else if h.ptype ≠ .request then .ok (cm, ⟨[], []⟩)
  else do
    Res.reject (h.interface ≠ pnioDeviceInterface) (.badInterface h.interface)
    match cm.cacheLookup (h.activity, h.seqNum) with
    | some bytes => .ok (cm, ⟨[{ bytes, dst := src }], []⟩)
    | none => cm.handleRequest h body src now

/-- When `tick` has to be called next. -/
def nextDeadline (cm : Cm) : Option Instant := cm.ar.nextDeadline

def tick (cm : Cm) (now : Instant) : Res ε (Cm × CmOutput) := do
  let (ar, actions) ← cm.ar.on .tick now
  apply { cm with ar } actions none false

def abort (cm : Cm) (reason : AbortReason) (now : Instant) : Res ε (Cm × CmOutput) := do
  let (ar, actions) ← cm.ar.on (.abort reason) now
  apply { cm with ar } actions none false

end Cm

end Pnio
