import Ndisrd.Lib.Memory
import Ndisrd.Lib.Run
import Ndisrd.Shared.Basic

/-!
This module contains the receive path of the NT driver: how `PtReceive` gathers the header, the
look-ahead and the residual of a frame in one of its own packets, and how `PtTransferDataComplete` makes
an `FLT_PACKET` of that.
-/

namespace Ansfltr

/--
`NDIS_BUFFER`: `length` bytes of the packet's `m_IBuffer`, from `start` on.
-/
structure NdisBuffer where
  start : Nat
  length : Nat

/--
`NDISHK_PACKET`, with its address and the buffers chained to it.
-/
structure NdishkPacket where
  address : Nat
  chain : List NdisBuffer
  nTransferDataStatus : NtStatus
  nBytesTransferred : Nat
  iBuffer : Nat → UInt8

namespace NdishkPacket

def ndisQueryPacketLength (p : NdishkPacket) : Nat := p.chain.foldr (fun b n => b.length + n) 0

-- What `NdisQueryBufferSafe` maps of each buffer.
def virtualAddresses (p : NdishkPacket) : List (List UInt8) :=
  p.chain.map fun b => Memory.load p.iBuffer b.start b.length

-- `NdisUnchainBufferAtFront` and `NdisChainBufferAtBack`.
def reorder (p : NdishkPacket) : NdishkPacket :=
  match p.chain with
  | [] => p
  | pResidualBuffer :: rest => { p with chain := rest ++ [pResidualBuffer] }

end NdishkPacket

/--
The loop of `UF_ReadOnPacket` from the first of `buffers` on, each with the bytes it maps. Returns
`lpBuffer` and the number of bytes read.
-/
def ufReadOnPacketLoop (buffers : List (List UInt8)) (nNumberOfBytesToRead nOffset : Nat)
    (lpBuffer : Nat → UInt8) (numberOfBytesRead : Nat)
    : (Nat → UInt8) × Nat :=
  match buffers with
  | [] => (lpBuffer, numberOfBytesRead)
  | virtualAddress :: buffers =>
    if nOffset = 0 ∧ nNumberOfBytesToRead = 0 then
      (lpBuffer, numberOfBytesRead)
    else
      let currentOffset :=
        if virtualAddress.length > nOffset then nOffset else virtualAddress.length
      let nOffset := nOffset - currentOffset
      let currentLength := virtualAddress.length - currentOffset
      if nOffset ≠ 0 ∨ currentLength = 0 then
        ufReadOnPacketLoop buffers nNumberOfBytesToRead nOffset lpBuffer numberOfBytesRead
      else
        let amountToMove :=
          if currentLength > nNumberOfBytesToRead then nNumberOfBytesToRead else currentLength
        let moved := (virtualAddress.drop currentOffset).take amountToMove
        ufReadOnPacketLoop buffers (nNumberOfBytesToRead - amountToMove) nOffset
          (Memory.store lpBuffer numberOfBytesRead moved) (numberOfBytesRead + amountToMove)

def ufReadOnPacket (buffers : List (List UInt8)) (lpBuffer : Nat → UInt8)
    (nNumberOfBytesToRead nOffset : Nat)
    : (Nat → UInt8) × Nat :=
  if nNumberOfBytesToRead = 0 then
    (lpBuffer, 0)
  else
    ufReadOnPacketLoop buffers nNumberOfBytesToRead nOffset lpBuffer 0

/-! ### The adapter -/

structure Adapt where
  miniportHandle : Bool
  mpDeviceStateD0 : Bool
  mediumWan : Bool
  localAddress : List UInt8
  currentAddress : List UInt8
  pendingTransfertData : List NdishkPacket

inductive ReceiveEffect where
  | ethIndicateReceive
  | transferDataComplete (packet : Nat) (status : NtStatus) (bytesTransferred : Nat)
  | fltInjectRequest (pBuffer : FltPacket)
  | freePacketAndBuffers (packet : Nat)

/--
`PtTransferDataComplete`. `memory` is what `NdisAllocateMemoryWithTag` has for the new packet.
-/
def ptTransferDataComplete (a : Adapt) (packet : Nat) (status : NtStatus) (bytesTransferred : Nat)
    (memory : Option (Nat → UInt8))
    : Adapt × List ReceiveEffect :=
  if !a.miniportHandle then
    (a, [])
  else if a.pendingTransfertData = [] then
    (a, [.transferDataComplete packet status bytesTransferred])
  else
    match a.pendingTransfertData.find? fun pHKPacket => pHKPacket.address = packet with
    | none => (a, [])
    | some pHKPacket =>
      let a := { a with
        pendingTransfertData :=
          a.pendingTransfertData.eraseP fun pHKPacket => pHKPacket.address = packet }
      if pHKPacket.nTransferDataStatus ≠ NtStatus.success then
        (a, [.freePacketAndBuffers packet])
      else
        match memory with
        | none => (a, [.freePacketAndBuffers packet])
        | some memory =>
          let uPacketLength := pHKPacket.ndisQueryPacketLength
          let read := ufReadOnPacket pHKPacket.reorder.virtualAddresses memory uPacketLength 0
          let pBuffer : FltPacket := ⟨.inbound, read.2, read.1⟩
          (a, [.fltInjectRequest pBuffer, .freePacketAndBuffers packet])

/--
A receive indication: the header, and the data behind it, of which the adapter below shows the first
`lookAheadBufferSize` bytes.
-/
structure Indication where
  header : List UInt8
  data : List UInt8
  lookAheadBufferSize : Nat

namespace Indication

def lookAhead (ind : Indication) : List UInt8 := ind.data.take ind.lookAheadBufferSize

def packetSize (ind : Indication) : Nat := ind.data.length

def nResidualSize (ind : Indication) : Nat := ind.packetSize - ind.lookAheadBufferSize

def residual (ind : Indication) : List UInt8 := ind.data.drop ind.lookAheadBufferSize

end Indication

/--
What the allocations of one indication yield, each with the memory as it was.
-/
structure Allocations where
  packet : Option (Nat × (Nat → UInt8))
  buffer : Bool
  residualBuffer : Bool
  memory : Option (Nat → UInt8)

/--
What NDIS does to transfer data: the status it returns, and the bytes that it puts into the buffers of
the packet, from the first one on.
-/
structure Transfer where
  status : NtStatus
  bytes : List UInt8

def fillChain (iBuffer : Nat → UInt8) (chain : List NdisBuffer) (bytes : List UInt8) : Nat → UInt8 :=
  match chain with
  | [] => iBuffer
  | b :: chain => fillChain (Memory.store iBuffer b.start (bytes.take b.length)) chain (bytes.drop b.length)

def NdishkPacket.fill (p : NdishkPacket) (bytes : List UInt8) : NdishkPacket :=
  { p with iBuffer := fillChain p.iBuffer p.chain bytes }

structure Received where
  status : NtStatus
  adapter : Adapt
  effects : List ReceiveEffect

-- The source address of the frame, six bytes behind its destination, is the adapter's own.
def isLoopback (a : Adapt) (ind : Indication) : Bool :=
  (ind.header.drop etherAddrLength).take etherAddrLength ==
    if a.mediumWan then a.localAddress else a.currentAddress

/--
The packet as it stands in the list of pending transfers, before any transfer.
-/
def gather (ind : Indication) (address : Nat) (iBuffer : Nat → UInt8) : NdishkPacket where
  address := address
  chain := [⟨0, ind.header.length + ind.packetSize - ind.nResidualSize⟩]
  nTransferDataStatus := NtStatus.success
  nBytesTransferred := 0
  iBuffer := Memory.store (Memory.store iBuffer 0 ind.header) ind.header.length ind.lookAhead

-- The packet when `NdisTransferData` has returned.
def transferData (ind : Indication) (transfer : Transfer) (pHKPacket : NdishkPacket) : NdishkPacket :=
  let residualBuffer : NdisBuffer :=
    ⟨ind.header.length + ind.lookAheadBufferSize, ind.nResidualSize⟩
  let pHKPacket := { pHKPacket with chain := residualBuffer :: pHKPacket.chain }
  { pHKPacket.fill transfer.bytes with
    nTransferDataStatus := transfer.status
    nBytesTransferred := transfer.bytes.length }

-- The end of `PtReceive`, with the packet in the list. A pending transfer is left to NDIS.
def endReceive (a : Adapt) (pHKPacket : NdishkPacket) (memory : Option (Nat → UInt8)) : Received :=
  let a := { a with pendingTransfertData := pHKPacket :: a.pendingTransfertData }
  if pHKPacket.nTransferDataStatus ≠ NtStatus.pending then
    let done := ptTransferDataComplete a pHKPacket.address pHKPacket.nTransferDataStatus
      pHKPacket.nBytesTransferred memory
    ⟨NtStatus.success, done.1, done.2⟩
  else
    ⟨NtStatus.success, a, []⟩

def ptReceive (a : Adapt) (ind : Indication) (alloc : Allocations) (transfer : Transfer) : Received :=
  let oldReceive (effects : List ReceiveEffect) : Received :=
    ⟨NtStatus.success, a, effects ++ [.ethIndicateReceive]⟩
  if !a.miniportHandle || !a.mpDeviceStateD0 then
    ⟨NtStatus.unsuccessful, a, []⟩
  else if isLoopback a ind then
    oldReceive []
  else if ind.header.length + ind.packetSize > maxEtherSize then
    oldReceive []
  else
    match alloc.packet with
    | none => oldReceive []
    | some (address, iBuffer) =>
      if !alloc.buffer then
        oldReceive [.freePacketAndBuffers address]
      else if ind.nResidualSize = 0 then
        endReceive a (gather ind address iBuffer) alloc.memory
      else if !alloc.residualBuffer then
        oldReceive [.freePacketAndBuffers address]
      else
        endReceive a (transferData ind transfer (gather ind address iBuffer)) alloc.memory

/-! ### Transfers that end later -/

inductive AdapterEvent where
  | receive (ind : Indication) (alloc : Allocations) (transfer : Transfer)
  -- NDIS has put the bytes into the packet and calls `PtTransferDataComplete`.
  | transferComplete (packet : Nat) (transfer : Transfer) (memory : Option (Nat → UInt8))

def fillPending (a : Adapt) (packet : Nat) (bytes : List UInt8) : Adapt :=
  { a with
    pendingTransfertData :=
      a.pendingTransfertData.map fun p => if p.address = packet then p.fill bytes else p }

def ndisTransferDataComplete (a : Adapt) (packet : Nat) (transfer : Transfer)
    (memory : Option (Nat → UInt8))
    : Adapt × List ReceiveEffect :=
  ptTransferDataComplete (fillPending a packet transfer.bytes) packet transfer.status
    transfer.bytes.length memory

def adapterStep (a : Adapt) : AdapterEvent → Adapt
  | .receive ind alloc transfer => (ptReceive a ind alloc transfer).adapter
  | .transferComplete packet transfer memory => (ndisTransferDataComplete a packet transfer memory).1

def AdapterEvent.packet : AdapterEvent → Option Nat
  | .receive _ alloc _ => alloc.packet.map Prod.fst
  | .transferComplete packet _ _ => some packet

end Ansfltr
