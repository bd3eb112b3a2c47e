import Ndisrd.Lib.Buffer
import Ndisrd.Lib.Run
import Ndisrd.Ansfw.TcpIp.Impl

/-!
This module contains the reassembly of `reassembly.c`: the intermediate queue of fragments, the queue
of datagrams under assembly with their work buffers, and what the reassembly thread, the TTL thread
and the clients do to them.
-/

open ReqFlags

namespace Ansfw

@[simp]
def workBufSize : Nat := 65536
@[simp]
def workBuf : Nat := 65550
@[simp]
def bitsBufferLenght : Nat := 1024
@[simp]
def etherHdrSize : Nat := 14
@[simp]
def maxWorkBufferCount : Nat := 100

structure FragHdr where
  datagrID : Nat
  fullLength : Nat
  flagOffset : Nat
  ipHeaderSize : Nat
  source : Nat
  dest : Nat
  protocol : Nat
  ttl : Nat

namespace FragHdr

def ofPacket (p : FltPacket) : FragHdr where
  datagrID := p.ipId.val
  fullLength := p.ipLen.val
  flagOffset := p.ipOff.val
  ipHeaderSize := p.ipHdrLen.val
  source := ntohl p.ipSrc.val
  dest := ntohl p.ipDst.val
  protocol := p.ipP.val
  ttl := p.ipTtl.val

variable (h : FragHdr)

def offset : Nat := h.flagOffset % 0x2000

def moreFragments : Bool := h.flagOffset / 0x2000 % 2 = 1

-- This and the next two are stored in 16 bits.
def datasize : Nat := (h.fullLength + 65536 - h.ipHeaderSize) % 65536

def lastbit : Nat := (h.datasize + h.ipHeaderSize) / 8 % 65536

def totallen : Nat := (h.offset * 8 + h.fullLength) % 65536

end FragHdr

abbrev fragHdr (pRequest : FwRequest) : FragHdr := FragHdr.ofPacket pRequest.fltPacket

inductive MemOp where
  -- `RtlCopyMemory(finalbuf+dst, m_pBuffer+src, len)`
  | copy (dst src len : Nat)
  | setBits (start len : Nat)
  deriving DecidableEq, Repr

/--
`DATA_LIST`. `m_FwRequest` is the field `fwRequest`, with its reference count in `references`. `id`
tells one work buffer from another and `ops` is what was done to its memory since it was zeroed; the
code has neither.
-/
structure DataList where
  id : Nat
  destIP : Nat
  srcIP : Nat
  bitMapHeader : Bitmap
  finalbuf : Nat → UInt8
  totallen : Nat
  ID : Nat
  protocol : Nat
  ttl : Nat
  bLast : Bool
  fragmentsList : List FwRequest
  fwRequest : FwRequest
  references : Nat
  ops : List MemOp

namespace DataList

def zeroed (id : Nat) : DataList where
  id := id
  destIP := 0
  srcIP := 0
  bitMapHeader := ⟨0, fun _ => false⟩
  finalbuf := fun _ => 0
  totallen := 0
  ID := 0
  protocol := 0
  ttl := 0
  bLast := false
  fragmentsList := []
  fwRequest := .allocateRequest id ⟨.out, 0, fun _ => 0⟩
  references := 0
  ops := []

def hasKey (d : DataList) (h : FragHdr) : Bool :=
  d.ID = h.datagrID ∧ d.protocol = h.protocol ∧ d.destIP = h.dest ∧ d.srcIP = h.source

-- Here the memory of a work buffer does not end. What a copy past `WORKBUF` does to the fields behind
-- `finalbuf` and to the next block is in `stepIn`.
def perform (p : FltPacket) (d : DataList) (op : MemOp) : DataList :=
  let d := { d with ops := d.ops ++ [op] }
  match op with
  | .copy dst src len => { d with finalbuf := Buffer.copy d.finalbuf dst p.buffer src len }
  | .setBits start len => { d with bitMapHeader := d.bitMapHeader.setBits start len }

def write (d : DataList) (p : FltPacket) (ops : List MemOp) : DataList := ops.foldl (perform p) d

def copyRequest (d : DataList) (pRequest : FwRequest) : DataList :=
  { d with
    fwRequest := { d.fwRequest with
      ipProto := pRequest.ipProto
      sourceAddr := pRequest.sourceAddr
      destAddr := pRequest.destAddr
      sourcePort := pRequest.sourcePort
      destPort := pRequest.destPort
      pid := pRequest.pid
      reqFlags := pRequest.reqFlags } }

end DataList

/--
The state of the reassembly. `delivered` are the work buffers that clients still hold a reference to.
`injected` and `released` record the calls of `FWInjectRequest` for a datagram and of
`FWFreeCloneRequest` for a fragment.
-/
structure Reassembly where
  intermedQueue : List FwRequest
  datagrQueue : List DataList
  freeDatagramWorkBufList : List DataList
  allocCounter : Nat
  delivered : List DataList
  injected : List DataList
  released : List FwRequest

/--
What the code does not decide itself: whether the pool has memory, and how many clones of a delivered
datagram the clients make.
-/
structure Env where
  poolAlloc : Bool
  clones : Nat

def initializeReassembly : Reassembly where
  intermedQueue := []
  datagrQueue := []
  freeDatagramWorkBufList := []
  allocCounter := 0
  delivered := []
  injected := []
  released := []

namespace Reassembly

def ruleRecycleDatagramWorkBuffer (s : Reassembly) (datagr : DataList) : Reassembly :=
  { s with freeDatagramWorkBufList := s.freeDatagramWorkBufList ++ [datagr] }

def ruleAllocDatagramWorkBuffer (env : Env) (s : Reassembly) : Option (DataList × Reassembly) :=
  match s.freeDatagramWorkBufList with
  | pDataBuffer :: rest =>
    some (.zeroed pDataBuffer.id, { s with freeDatagramWorkBufList := rest })
  | [] =>
    if maxWorkBufferCount < s.allocCounter then
      none
    else if env.poolAlloc then
      some (.zeroed s.allocCounter, { s with allocCounter := s.allocCounter + 1 })
    else
      none

def releaseFragments (s : Reassembly) (fragments : List FwRequest) : Reassembly :=
  { s with released := s.released ++ fragments }

-- `FWFreeCloneRequest` for a delivered datagram. Its flags are those of a fragment, which never
-- has `FL_REQUEST_LOOPBACK`, and `FL_REQUEST_REASSEMBLED`.
def freeDatagram (s : Reassembly) (d : DataList) : Reassembly :=
  let d := { d with references := d.references - 1 }
  if d.references = 0 then
    (s.releaseFragments d.fragmentsList).ruleRecycleDatagramWorkBuffer d
  else
    { s with delivered := s.delivered ++ [d] }

end Reassembly

def sumWords (buffer : Nat → UInt8) : Nat → Nat → Nat → Nat
  | _, 0, cksum => cksum
  | i, 1, cksum => (cksum + (buffer i).toNat) % 0x100000000
  | i, size + 2, cksum =>
    sumWords buffer (i + 2) size ((cksum + wordOfBytes (buffer i) (buffer (i + 1))) % 0x100000000)

def getChecksum (buffer : Nat → UInt8) (start size : Nat) : Nat :=
  let cksum := sumWords buffer start size 0
  let cksum := (cksum / 65536 + cksum % 65536) % 0x100000000
  let cksum := (cksum + cksum / 65536) % 0x100000000
  65535 - cksum % 65536

def storeWord (buffer : Nat → UInt8) (i w : Nat) : Nat → UInt8 := fun j =>
  if j = i then UInt8.ofNat (w % 256) else if j = i + 1 then UInt8.ofNat (w / 256) else buffer j

def prepareIpHeader (finalbuf : Nat → UInt8) (totallen : Nat) : Nat → UInt8 :=
  let buf := storeWord finalbuf (mHdrSize + 10) 0
  let buf := storeWord buf (mHdrSize + 2) (ntohs totallen)
  let buf := storeWord buf (mHdrSize + 6) 0
  storeWord buf (mHdrSize + 10) (getChecksum buf mHdrSize 20)

def assembled (d : DataList) (pRequest : FwRequest) : DataList :=
  let finalbuf := prepareIpHeader d.finalbuf d.totallen
  { d with
    finalbuf := finalbuf
    references := 1
    fwRequest := { d.fwRequest with
      reqFlags := d.fwRequest.reqFlags ||| reassembled
      fltPacket := {
        direction := pRequest.fltPacket.direction
        buffer := finalbuf
        bufferSize := d.totallen + etherHdrSize } } }

variable (env : Env) (s : Reassembly)

def deliver (d : DataList) : Reassembly :=
  let s := { s with injected := s.injected ++ [d] }
  s.freeDatagram { d with references := d.references + env.clones }

def verify (before : List DataList) (d : DataList) (after : List DataList) (pRequest : FwRequest)
    : Reassembly :=
  let lastbyte := d.totallen / 8
  if d.bitMapHeader.areBitsSet 0 lastbyte then
    deliver env { s with datagrQueue := before ++ after } (assembled d pRequest)
  else
    { s with datagrQueue := before ++ d :: after }

-- What a fragment does to the memory of the datagram it belongs to, `none` when it does not fit.
-- The branch for the very first fragment has no size check.
def existingOps (h : FragHdr) : Option (List MemOp) :=
  if h.moreFragments ∧ h.offset = 0 then
    some [
      .copy 0 0 mHdrSize,
      .copy (h.offset * 8 + mHdrSize) etherHdrSize h.fullLength,
      .setBits h.offset (h.fullLength / 8)
    ]
  else if workBufSize < h.offset * 8 + h.fullLength then
    none
  else
    some [
      .copy 0 0 mHdrSize,
      .copy (h.offset * 8 + h.ipHeaderSize + mHdrSize) (etherHdrSize + h.ipHeaderSize) h.datasize,
      .setBits h.offset h.lastbit
    ]

def addFragment (d : DataList) (pRequest : FwRequest) (h : FragHdr) (ops : List MemOp) : DataList :=
  let d := { d with fragmentsList := pRequest :: d.fragmentsList }
  let d :=
    if h.moreFragments then
      if h.offset = 0 then d.copyRequest pRequest else d
    else
      { d with bLast := true, totallen := h.totallen }
  d.write pRequest.fltPacket ops

def analyzeExisting (before : List DataList) (d : DataList) (after : List DataList)
    (pRequest : FwRequest) (h : FragHdr)
    : Reassembly × List MemOp :=
  match existingOps h with
  | none =>
    let s := { s with datagrQueue := before ++ after }
    (s.ruleRecycleDatagramWorkBuffer { d with fragmentsList := pRequest :: d.fragmentsList }, [])
  | some ops =>
    let d := addFragment d pRequest h ops
    if d.bLast then
      (verify env s before d after pRequest, ops)
    else
      ({ s with datagrQueue := before ++ d :: after }, ops)

def newOps (h : FragHdr) : List MemOp :=
  if h.offset = 0 then [
    .copy 0 0 mHdrSize,
    .copy mHdrSize etherHdrSize h.fullLength,
    .setBits h.offset (h.fullLength / 8)
  ] else [
    .copy 0 0 mHdrSize,
    .copy (h.offset * 8 + h.ipHeaderSize + mHdrSize) (etherHdrSize + h.ipHeaderSize) h.datasize,
    .setBits h.offset (h.fullLength / 8)
  ]

def newDatagram (d : DataList) (pRequest : FwRequest) (h : FragHdr) : DataList :=
  let d := { d with
    fragmentsList := [pRequest]
    ID := h.datagrID
    bLast := false
    ttl := h.ttl
    protocol := h.protocol
    destIP := h.dest
    srcIP := h.source
    bitMapHeader := { d.bitMapHeader with size := bitsBufferLenght * 8 } }
  let d :=
    if h.offset = 0 then
      d.copyRequest pRequest
    else if h.moreFragments then
      { d with bLast := false }
    else
      { d with totallen := h.totallen, bLast := true }
  d.write pRequest.fltPacket (newOps h)

def analyzeNew (pRequest : FwRequest) (h : FragHdr) : Reassembly × List MemOp :=
  if workBufSize < h.offset * 8 + h.fullLength then
    (s, [])
  else
    match s.ruleAllocDatagramWorkBuffer env with
    | none => (s, [])
    | some (d, s) =>
      ({ s with datagrQueue := s.datagrQueue ++ [newDatagram d pRequest h] }, newOps h)

def analyze (pRequest : FwRequest) : Reassembly × List MemOp :=
  let h := fragHdr pRequest
  if 20 < h.ipHeaderSize then
    (s, [])
  else
    match s.datagrQueue.span (fun d => !d.hasKey h) with
    | (before, d :: after) => analyzeExisting env s before d after pRequest h
    | (_, []) => analyzeNew env s pRequest h

/--
The inner loop of `TtlDecrementThreadFunc`, with the datagrams before and from the current one on. It
starts over at the head of the queue after each removal.
-/
def ttlLoop (s : Reassembly) (seen : List DataList) : List DataList → Reassembly
  | [] => { s with datagrQueue := seen }
  | d :: rest =>
    if d.ttl = 0 then
      ttlLoop ((s.releaseFragments d.fragmentsList).ruleRecycleDatagramWorkBuffer d) [] (seen ++ rest)
    else
      ttlLoop s (seen ++ [{ d with ttl := d.ttl - 1 }]) rest
termination_by rest => (seen.length + rest.length, rest.length)
decreasing_by
  . apply Prod.Lex.left
    simp
  . apply Prod.Lex.right'
    . simp
      omega
    . simp

def ttlDecrementThreadFunc : Reassembly := ttlLoop s [] s.datagrQueue

def freeCloneRequest (id : Nat) : Reassembly :=
  match s.delivered.span (fun d => d.id ≠ id) with
  | (before, d :: after) => { s with delivered := before ++ after }.freeDatagram d
  | (_, []) => s

inductive Event where
  | reassemblePacket (pFwRequest : FwRequest)
  -- The reassembly thread takes the next request from the intermediate queue.
  | intermed (env : Env)
  | ttlPass
  | freeClone (id : Nat)

def step (s : Reassembly) : Event → Reassembly
  | .reassemblePacket pFwRequest => { s with intermedQueue := s.intermedQueue ++ [pFwRequest] }
  | .intermed env =>
    match s.intermedQueue with
    | [] => s
    | pRequest :: rest => (analyze env { s with intermedQueue := rest } pRequest).1
  | .ttlPass => ttlDecrementThreadFunc s
  | .freeClone id => freeCloneRequest s id

def OnAnalyze (P : Env → Reassembly → FwRequest → Prop) (s : Reassembly) : Event → Prop
  | .intermed env =>
    match s.intermedQueue with
    | [] => True
    | pRequest :: rest => P env { s with intermedQueue := rest } pRequest
  | _ => True

end Ansfw
