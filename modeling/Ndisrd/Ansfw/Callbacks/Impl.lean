import Ndisrd.Ansfltr.Callbacks
import Ndisrd.Ansfw.Request

/-!
This module contains the callback chains of `callbacks.c`: how a packet that reaches `ansfw` is shown to
its clients, and how `FWInjectRequest` passes a request on. Each function returns its status and the
record of the callbacks it made. Packets are told apart by numbers.
-/

open ReqFlags

namespace Ansfw

inductive FltInstance where
  | ansfw
  | other (j : Nat)
  deriving DecidableEq, Repr

inductive Call where
  | client (i : Nat)
  | fltInstance (j : Nat) (packet : Nat)
  | injectLoopbackRequest
  | reassemblePacket (packet : Nat)
  | sendPacket (packet : Nat)
  deriving DecidableEq, Repr

structure Drivers where
  fwInstancesList : List Nat
  clientStatus : Nat → NtStatus
  fltInstancesList : List FltInstance
  instanceStatus : Nat → Nat → NtStatus
  bFltConnected : Bool
  allocateRequest : Bool
  -- The packet is inbound and marked `FL_REQUEST_FRAGMENTED_IP`.
  fragment : Nat → Bool

structure InjectedRequest where
  reqFlags : ReqFlags
  packet : Nat
  fragments : List Nat

variable (d : Drivers)

def callClient (i : Nat) : NtStatus × List Call := (d.clientStatus i, [.client i])

def processRequest (pFwInstance : Option Nat) : NtStatus × List Call :=
  Chain.callWhile NtStatus.success (callClient d) (Chain.after pFwInstance d.fwInstancesList)

def requestCallback (packet : Nat) : NtStatus × List Call :=
  if d.fwInstancesList.isEmpty then
    (NtStatus.success, [])
  else if !d.allocateRequest then
    (NtStatus.insufficientResources, [])
  else if d.fragment packet then
    (NtStatus.unsuccessful, [.reassemblePacket packet])
  else
    processRequest d none

def callInstance (packet : Nat) : FltInstance → NtStatus × List Call
  | .ansfw => requestCallback d packet
  | .other j => (d.instanceStatus j packet, [.fltInstance j packet])

def fltInjectRequest (pInstance : Option FltInstance) (packet : Nat) : NtStatus × List Call :=
  Ansfltr.fltInjectRequest (callInstance d packet) (.sendPacket packet) d.fltInstancesList pInstance

def injectFragments : List Nat → NtStatus → NtStatus × List Call
  | [], status => (status, [])
  | packet :: rest, _ =>
    let injected := fltInjectRequest d (some .ansfw) packet
    let others := injectFragments rest injected.1
    (others.1, injected.2 ++ others.2)

-- The outcome of `FWInjectRequest`.
structure Injected where
  status : NtStatus
  calls : List Call

def fwInjectRequest (pInstance : Option Nat) (pRequest : InjectedRequest) : Injected :=
  let (status, calls) := processRequest d pInstance
  if status.ntSuccess then
    if pRequest.reqFlags.has loopback then
      { status, calls := calls ++ [.injectLoopbackRequest] }
    else if pRequest.reqFlags.has reassembled then
      if d.bFltConnected then
        let (status, injected) := injectFragments d pRequest.fragments status
        { status, calls := calls ++ injected }
      else
        { status, calls }
    else if d.bFltConnected then
      let (status, injected) := fltInjectRequest d (some .ansfw) pRequest.packet
      { status, calls := calls ++ injected }
    else
      { status := NtStatus.unsuccessful, calls }
  else
    { status, calls }

end Ansfw
