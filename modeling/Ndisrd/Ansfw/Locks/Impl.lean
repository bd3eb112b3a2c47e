import Ndisrd.Lib.Lock
import Ndisrd.Ansfw.Callbacks.Impl
import Ndisrd.Ansfw.Reassembly.Impl

/-!
This module contains the spin locks that the threads of both drivers take: for each function the locks
it takes and releases, in program order, and the passes of the reassembly thread, the TTL thread and the
threads on which packets arrive.
-/

open ReqFlags

namespace Ansfw

-- `g_slIntermedQueueLock`, `g_slDatagrQueueLock`, `g_FreeDatagramWorkBufListLock`,
-- `g_FwInstancesLock`, `g_FltInstancesLock` and `g_PacketLock`
inductive SpinLock where
  | intermedQueue
  | datagrQueue
  | freeDatagramWorkBufList
  | fwInstances
  | fltInstances
  | packet
  deriving DecidableEq, Repr

abbrev LockOp := Lock.Op SpinLock

def locked (l : SpinLock) (ops : List LockOp) : List LockOp := .acquire l :: (ops ++ [.release l])

/--
Which build of `SendPacket` runs, and which calls of `FLTFreeCloneRequest` and `FWFreeCloneRequest` drop
the last reference to a packet or to its request.
-/
structure Releases where
  -- The build that looks up the packet's adapter under `g_PacketLock`.
  vista : Bool
  fltLast : Nat → Bool
  fwLast : Nat → Bool

namespace Locks

variable (d : Drivers) (rel : Releases)

/-! ### Callbacks -/

def fltFreeCloneRequest (packet : Nat) : List LockOp :=
  if rel.fltLast packet then locked .packet [] else []

-- For a request that is neither a loopback one nor a datagram.
def fwFreeCloneRequest (packet : Nat) : List LockOp :=
  if rel.fwLast packet && d.bFltConnected then fltFreeCloneRequest rel packet else []

def isClientConnected : List LockOp := locked .fwInstances []

-- The callbacks of the clients run inside and take none of these locks.
def processRequest : List LockOp := locked .fwInstances []

def reassemblePacket : List LockOp := locked .intermedQueue []

def requestCallback (packet : Nat) : List LockOp :=
  isClientConnected ++
    if d.fwInstancesList.isEmpty then
      []
    else if !d.allocateRequest then
      []
    else if d.fragment packet then
      reassemblePacket
    else
      processRequest ++ fwFreeCloneRequest d rel packet

-- Instances other than `ansfw` take none of these locks.
def callInstance (packet : Nat) : FltInstance → List LockOp
  | .ansfw => requestCallback d rel packet
  | .other _ => []

def sendPacket : List LockOp := if rel.vista then locked .packet [] else []

def fltInjectRequest (pInstance : Option FltInstance) (packet : Nat) : List LockOp :=
  let called :=
    Chain.callWhile NtStatus.success
      (fun i => ((Ansfw.callInstance d packet i).1, callInstance d rel packet i))
      (Chain.after pInstance d.fltInstancesList)
  locked .fltInstances called.2 ++ if called.1 = NtStatus.success then sendPacket rel else []

def fwInjectRequest (pInstance : Option Nat) (pRequest : InjectedRequest) : List LockOp :=
  processRequest ++
    if (Ansfw.processRequest d pInstance).1.ntSuccess then
      if pRequest.reqFlags.has loopback then
        []
      else if pRequest.reqFlags.has reassembled then
        if d.bFltConnected then
          pRequest.fragments.flatMap (fltInjectRequest d rel (some .ansfw))
        else
          []
      else if d.bFltConnected then
        fltInjectRequest d rel (some .ansfw) pRequest.packet
      else
        []
    else
      []

/-! ### Reassembly -/

def ruleRecycleDatagramWorkBuffer : List LockOp := locked .freeDatagramWorkBufList []

def ruleAllocDatagramWorkBuffer : List LockOp := locked .freeDatagramWorkBufList []

def releaseFragments (fragments : List FwRequest) : List LockOp :=
  fragments.flatMap fun r => fwFreeCloneRequest d rel r.id

-- `FWFreeCloneRequest` for a datagram, to which the clients have added `env.clones` references.
def freeDatagram (env : Env) (dl : DataList) : List LockOp :=
  if dl.references + env.clones - 1 = 0 then
    releaseFragments d rel dl.fragmentsList ++ ruleRecycleDatagramWorkBuffer
  else
    []

def injectedRequest (dl : DataList) : InjectedRequest where
  reqFlags := dl.fwRequest.reqFlags
  packet := dl.id
  fragments := dl.fragmentsList.map FwRequest.id

def verify (env : Env) (dl : DataList) (pRequest : FwRequest) : List LockOp :=
  if dl.bitMapHeader.areBitsSet 0 (dl.totallen / 8) then
    fwInjectRequest d rel none (injectedRequest (assembled dl pRequest)) ++
      freeDatagram d rel env (assembled dl pRequest)
  else
    []

def analyzeExisting (env : Env) (dl : DataList) (pRequest : FwRequest) (h : FragHdr) : List LockOp :=
  match existingOps h with
  | none => ruleRecycleDatagramWorkBuffer
  | some ops =>
    if (addFragment dl pRequest h ops).bLast then
      verify d rel env (addFragment dl pRequest h ops) pRequest
    else
      []

def analyzeNew (h : FragHdr) : List LockOp :=
  if workBufSize < h.offset * 8 + h.fullLength then [] else ruleAllocDatagramWorkBuffer

def analyze (env : Env) (s : Reassembly) (pRequest : FwRequest) : List LockOp :=
  let h := fragHdr pRequest
  if 20 < h.ipHeaderSize then
    []
  else
    locked .datagrQueue
      (match s.datagrQueue.span (fun dl => !dl.hasKey h) with
      | (_, dl :: _) => analyzeExisting d rel env dl pRequest h
      | (_, []) => analyzeNew h)

def ttlLoop (seen : List DataList) : List DataList → List LockOp
  | [] => []
  | dl :: rest =>
    if dl.ttl = 0 then
      releaseFragments d rel dl.fragmentsList ++ ruleRecycleDatagramWorkBuffer ++
        ttlLoop [] (seen ++ rest)
    else
      ttlLoop (seen ++ [{ dl with ttl := dl.ttl - 1 }]) rest
termination_by rest => (seen.length + rest.length, rest.length)
decreasing_by
  . apply Prod.Lex.left
    simp
  . apply Prod.Lex.right'
    . simp
      omega
    . simp

end Locks

/-! ### Threads -/

structure AnalyzeCall where
  drivers : Drivers
  releases : Releases
  env : Env
  reassembly : Reassembly
  pRequest : FwRequest

def AnalyzeCall.locks (c : AnalyzeCall) : List LockOp :=
  Locks.analyze c.drivers c.releases c.env c.reassembly c.pRequest

-- The request was the next one on the intermediate queue, at some point of some run.
structure AnalyzeCall.Valid (c : AnalyzeCall) : Prop where
  instances : c.drivers.fltInstancesList.Nodup
  reached : ∃ es rest,
    (Run.run step initializeReassembly es).intermedQueue = c.pRequest :: rest ∧
      c.reassembly = { Run.run step initializeReassembly es with intermedQueue := rest }

def intermedThreadFunc (calls : List AnalyzeCall) : List LockOp :=
  locked .intermedQueue (calls.flatMap AnalyzeCall.locks)

def ttlDecrementThread (d : Drivers) (rel : Releases) (s : Reassembly) : List LockOp :=
  locked .datagrQueue (Locks.ttlLoop d rel [] s.datagrQueue)

def packetArrival (d : Drivers) (rel : Releases) (packet : Nat) : List LockOp :=
  locked .packet [] ++ Locks.fltInjectRequest d rel none packet ++
    Locks.fltFreeCloneRequest rel packet

inductive Thread where
  | reassembly
  | ttl
  | arrival (n : Nat)
  deriving DecidableEq, Repr

inductive Pass : Thread → List LockOp → Prop where
  | reassembly {calls : List AnalyzeCall} (h : ∀ c ∈ calls, c.Valid)
      : Pass .reassembly (intermedThreadFunc calls)
  | ttl (d : Drivers) (rel : Releases) (s : Reassembly) : Pass .ttl (ttlDecrementThread d rel s)
  | arrival (n : Nat) (d : Drivers) (rel : Releases) (packet : Nat)
      : Pass (.arrival n) (packetArrival d rel packet)

abbrev LockState := Lock.State Thread SpinLock
abbrev LockEvent := Lock.Event Thread SpinLock

def IsPass : LockEvent → Prop
  | .start i ops => Pass i ops
  | .next _ => True

end Ansfw
