import Ndisrd.Ansfw.Request

/-!
This module contains the references to a request: `FWCloneRequest`, `FWInjectRequest` and
`FWFreeCloneRequest` as the holders of a request call them, and what the last reference disposes of.
-/

open ReqFlags

namespace Ansfw

/--
A request with what it owns: a loopback request the IRP of its `TDI_CONN_REQUEST`, as long as `pIrp`
says so, and a reassembled one the requests of its fragments.
-/
structure RequestObject where
  id : Nat
  references : Int
  reqFlags : ReqFlags
  pIrp : Bool
  fragmentsList : List RequestObject

inductive Effect where
  | tdiChainIrp (id : Nat)
  | tdiFailIrp (id : Nat)
  | tdiRecycleRequest (id : Nat)
  | fltInjectRequest (id : Nat)
  | fltFreeCloneRequest (id : Nat)
  | freeRequest (id : Nat)
  | recycleDatagram (id : Nat)
  deriving DecidableEq, Repr

def freeLoopbackRequest (r : RequestObject) : List Effect :=
  (if r.pIrp then [.tdiFailIrp r.id] else []) ++ [.tdiRecycleRequest r.id, .freeRequest r.id]

variable (bFltConnected : Bool)

mutual

def fwFreeCloneRequest (r : RequestObject) : List Effect :=
  match r with
  | ⟨id, references, reqFlags, pIrp, fragmentsList⟩ =>
    if references - 1 = 0 then
      if reqFlags.has loopback then
        freeLoopbackRequest ⟨id, references, reqFlags, pIrp, fragmentsList⟩
      else if reqFlags.has reassembled then
        freeFragments fragmentsList ++ [.recycleDatagram id]
      else
        (if bFltConnected then [.fltFreeCloneRequest id] else []) ++ [.freeRequest id]
    else
      []

def freeFragments : List RequestObject → List Effect
  | [] => []
  | pFragment :: rest => fwFreeCloneRequest pFragment ++ freeFragments rest

end

-- `InjectLoopbackRequest`. The IRP is chained down and its pointer cleared.
def injectLoopbackRequest (r : RequestObject) : RequestObject × List Effect :=
  if r.pIrp then ({ r with pIrp := false }, [.tdiChainIrp r.id]) else (r, [])

def injectRequest (status : NtStatus) (r : RequestObject) : RequestObject × List Effect :=
  if status.ntSuccess then
    if r.reqFlags.has loopback then
      injectLoopbackRequest r
    else if r.reqFlags.has reassembled then
      (r, if bFltConnected then r.fragmentsList.map fun f => .fltInjectRequest f.id else [])
    else
      (r, if bFltConnected then [.fltInjectRequest r.id] else [])
  else
    (r, [])

/--
A request in use. `holders` are those that still have a reference to release, `log` is what happened to
the request and `injected` counts the injections that no client refused.
-/
structure Use where
  request : RequestObject
  holders : List Nat
  log : List Effect
  injected : Nat

inductive HolderCall where
  | clone (holder newHolder : Nat)
  | inject (holder : Nat) (status : NtStatus) (bFltConnected : Bool)
  | free (holder : Nat) (bFltConnected : Bool)

def HolderCall.Valid (u : Use) : HolderCall → Prop
  | .clone holder newHolder => holder ∈ u.holders ∧ newHolder ∉ u.holders
  | .inject holder _ _ => holder ∈ u.holders
  | .free holder _ => holder ∈ u.holders

def useStep (u : Use) : HolderCall → Use
  | .clone _ newHolder =>
    { u with
      request := { u.request with references := u.request.references + 1 }
      holders := newHolder :: u.holders }
  | .inject _ status bFltConnected =>
    let (request, effects) := injectRequest bFltConnected status u.request
    { u with
      request
      log := u.log ++ effects
      injected := if status.ntSuccess then u.injected + 1 else u.injected }
  | .free holder bFltConnected =>
    { u with
      request := { u.request with references := u.request.references - 1 }
      holders := u.holders.erase holder
      log := u.log ++ fwFreeCloneRequest bFltConnected u.request }

def create (r : RequestObject) : Use where
  request := r
  holders := [0]
  log := []
  injected := 0

end Ansfw
