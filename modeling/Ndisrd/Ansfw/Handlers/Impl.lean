import Ndisrd.Ansfw.Callbacks.Impl

/-!
This module contains the handlers through which traffic enters the drivers: `PtReceive` for frames,
`tdiConnectionOk` and `fwThread` for local connects and datagrams, and `OutboundTransportV4Classify` for
packets to local addresses. What the system decides for them, above all whether an allocation succeeds,
is part of their input.
-/

open ReqFlags

namespace Ansfw

inductive Action where
  | call (c : Call)
  | indicateReceive
  | chainIrp
  -- `tdiCancelIrp`, or `tdiPendIrp` for an IRP that is already cancelled.
  | cancelIrp
  | recycleRequest
  | freeCloneRequest
  deriving DecidableEq, Repr

/-! ### `PtReceive` -/

inductive NdisStatus where
  | success
  | pending
  | failure
  deriving DecidableEq, Repr

structure Frame where
  headerBufferSize : Nat
  lookAheadBufferSize : Nat
  packetSize : Nat
  packet : Nat

structure ReceiveEnv where
  -- The adapter has a miniport handle and is powered on.
  ready : Bool
  loopback : Bool
  allocatePacket : Bool
  allocateBuffer : Bool
  allocateResidualBuffer : Bool
  transferDataStatus : NdisStatus
  allocateMemory : Bool
  -- `SendPacket` finds an adapter and memory.
  sendPacket : Bool
  -- For a fragment, the other fragments around it in its datagram, if that gets complete.
  datagram : Option (List Nat × List Nat)

variable (d : Drivers)

def datagramRequest (others : List Nat × List Nat) (packet : Nat) : InjectedRequest where
  reqFlags := fragmentedIp ||| reassembled
  packet := 0
  fragments := others.1 ++ packet :: others.2

def receiveCalls (env : ReceiveEnv) (packet : Nat) : List Call :=
  let calls := (fltInjectRequest d none packet).2
  if .reassemblePacket packet ∈ calls then
    match env.datagram with
    | some others => calls ++ (fwInjectRequest d none (datagramRequest others packet)).calls
    | none => calls
  else
    calls

-- `PtTransferDataComplete` for a packet of `PtReceive`. When NDIS calls it for a transfer that
-- was pending, the status in the packet still says so.
def ptTransferDataComplete (env : ReceiveEnv) (packet : Nat) (transferDataStatus : NdisStatus)
    : List Action :=
  if transferDataStatus ≠ .success then
    []
  else if env.allocateMemory then
    (receiveCalls d env packet).map .call
  else
    []

def ptReceive (env : ReceiveEnv) (frame : Frame) : List Action :=
  if !env.ready then
    []
  else if env.loopback then
    [.indicateReceive]
  else
    let nDataSize := frame.headerBufferSize + frame.packetSize
    let nResidualSize := frame.packetSize - frame.lookAheadBufferSize
    if maxEtherSize < nDataSize then
      [.indicateReceive]
    else if !env.allocatePacket then
      [.indicateReceive]
    else if !env.allocateBuffer then
      [.indicateReceive]
    else if nResidualSize ≠ 0 then
      if env.allocateResidualBuffer then
        ptTransferDataComplete d env frame.packet env.transferDataStatus
      else
        [.indicateReceive]
    else
      ptTransferDataComplete d env frame.packet .success

/-! ### Local connects and datagrams -/

structure TdiEnv where
  allocateRequest : Bool
  -- The IRP is cancelled before `fwThread` gets to it.
  cancelled : Bool
  allocateFwRequest : Bool

def localRequest : InjectedRequest where
  reqFlags := loopback
  packet := 0
  fragments := []

def fwThread (env : TdiEnv) : List Action :=
  if d.fwInstancesList.isEmpty then
    [.chainIrp, .recycleRequest]
  else if env.allocateFwRequest then
    (fwInjectRequest d none localRequest).calls.map .call ++ [.freeCloneRequest]
  else
    [.chainIrp, .recycleRequest]

def tdiConnectionOk (env : TdiEnv) : List Action :=
  if !env.allocateRequest then
    [.chainIrp]
  else if env.cancelled then
    [.cancelIrp, .recycleRequest]
  else
    fwThread d env

/-! ### `OutboundTransportV4Classify` -/

inductive ActionType where
  | block
  | permit
  | continue
  deriving DecidableEq, Repr

-- `FWPS_CLASSIFY_OUT0`. `rightsWrite` and `absorb` are the flags that are looked at.
structure ClassifyOut where
  actionType : ActionType
  rightsWrite : Bool
  absorb : Bool
  deriving DecidableEq, Repr

structure ClassifyEnv where
  clearActionRight : Bool
  injectedBySelf : Bool
  isLocalAddress : Bool
  allocateCloneStatus : NtStatus
  allocatePool : Bool
  injectTransportSend : Bool

def outboundTransportV4Classify (env : ClassifyEnv) (classifyOut : ClassifyOut)
    : ClassifyOut × List Action :=
  if !classifyOut.rightsWrite && classifyOut.actionType == .block then
    (classifyOut, [])
  else
    let classifyOut :=
      if env.clearActionRight then { classifyOut with rightsWrite := false } else classifyOut
    let classifyOut := { classifyOut with actionType := .permit }
    if env.injectedBySelf || !env.isLocalAddress then
      (classifyOut, [])
    else if !env.allocateCloneStatus.ntSuccess then
      (classifyOut, [])
    else if !env.allocatePool then
      (classifyOut, [])
    else
      ({ actionType := .block, rightsWrite := false, absorb := true },
        (fwInjectRequest d none localRequest).calls.map .call ++ [.freeCloneRequest])

/-! ### All handlers -/

inductive Handler where
  | ptReceive (env : ReceiveEnv) (frame : Frame)
  | tdiConnectionOk (env : TdiEnv)
  | outboundTransportV4Classify (env : ClassifyEnv) (classifyOut : ClassifyOut)

namespace Handler

def actions : Handler → List Action
  | .ptReceive env frame => Ansfw.ptReceive d env frame
  | .tdiConnectionOk env => Ansfw.tdiConnectionOk d env
  | .outboundTransportV4Classify env classifyOut =>
    (Ansfw.outboundTransportV4Classify d env classifyOut).2

def GoesOn : Handler → Prop
  | .ptReceive env frame =>
    .indicateReceive ∈ Ansfw.ptReceive d env frame ∨
      .call (.sendPacket frame.packet) ∈ Ansfw.ptReceive d env frame ∧ env.sendPacket = true
  | .tdiConnectionOk env =>
    .chainIrp ∈ Ansfw.tdiConnectionOk d env ∨
      .call .injectLoopbackRequest ∈ Ansfw.tdiConnectionOk d env
  | .outboundTransportV4Classify env classifyOut =>
    (Ansfw.outboundTransportV4Classify d env classifyOut).1.actionType = .permit ∨
      .call .injectLoopbackRequest ∈ (Ansfw.outboundTransportV4Classify d env classifyOut).2 ∧
        env.injectTransportSend = true

-- The tests after which the firewall is responsible.
def InScope : Handler → Prop
  | .ptReceive env frame =>
    env.loopback = false ∧ frame.headerBufferSize + frame.packetSize ≤ maxEtherSize
  | .tdiConnectionOk _ => True
  | .outboundTransportV4Classify env _ => env.injectedBySelf = false ∧ env.isLocalAddress = true

end Handler

end Ansfw
