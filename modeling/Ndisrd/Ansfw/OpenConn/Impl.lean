import Ndisrd.Lib.ListEntry
import Ndisrd.Lib.Run

/-!
This module contains the open TDI objects of `nt/openConn.c`: the records of addresses and connections,
the lists that they are on, the dispatch and completion routines that move them, and `addrThread`.
-/

namespace Ansfw.OpenConn

inductive ListHead where
  | gFreeAddrList
  | gOpenAddrList
  | gTcpAddrList
  | gPendingAddrList
  deriving DecidableEq

open ListHead

/--
`TDI_OPEN_CONN`, whose `m_pFileObject` and `m_pTcpFileObject` are one field.
-/
structure TdiOpenConn where
  flPending : Bool
  flAttached : Bool
  flListen : Bool
  pIrp : Option Nat
  pTcpObj : Option Nat
  pFileObject : Nat
  pAddrObj : Option Nat

inductive Request where
  | openAddress
  | openConnection
  | associateAddress (addressFile : Nat)
  | disAssociateAddress
  | closeAddress
  | closeConnection
  | setEvent
  | listen
  | connect
  deriving DecidableEq

-- An IRP that is with the transport, with the context of its completion routine.
structure Call where
  request : Request
  file : Nat
  context : Option Nat

-- What a thread does next, between two locks.
inductive Pc where
  | idle
  | park (irp r : Nat) (listen : Bool)
  | insertPending (irp r : Nat)
  | setEvent
  | insertTail (head : ListHead) (r : Nat)
  | findPending (file : Nat)
  -- `addrThread`
  | removeHead
  | completeRequest (r : Nat)
  | clear (r : Nat)
  | relink (r : Nat)
  deriving DecidableEq

-- What the transport has open for a file object.
inductive Object where
  | closed
  | address
  | connection (associated : Option Nat)

/--
The state. `issued` are the IRPs that were dispatched, `parked` those that a completion routine put on
`g_PendingAddrList`, for which it returns `STATUS_MORE_PROCESSING_REQUIRED`, and `completed` what
`addrThread` passed to `IoCompleteRequest`.
-/
structure State where
  record : Nat → TdiOpenConn
  links : ListEntry.Links ListHead Nat
  -- the records from here on were never allocated
  nextRecord : Nat
  gAddrThreadEvent : Bool
  calls : Nat → Option Call
  pc : Nat → Pc
  objects : Nat → Object
  issued : List Nat
  parked : List Nat
  completed : List (Option Nat)

-- `initLists`
def init (record : Nat → TdiOpenConn) : State where
  record := record
  links := ⟨id, id⟩
  nextRecord := 0
  gAddrThreadEvent := false
  calls _ := none
  pc _ := .idle
  objects _ := .closed
  issued := []
  parked := []
  completed := []

def addrThread : Nat := 0

namespace State

variable (s : State)

def goto (t : Nat) (pc : Pc) : State := { s with pc := Function.update s.pc t pc }

def setRecord (r : Nat) (c : TdiOpenConn) : State :=
  { s with record := Function.update s.record r c }

def insert (head : ListHead) (r : Nat) : State :=
  { s with links := s.links.insertTailList head r }

def remove (r : Nat) : State := { s with links := s.links.removeEntryList r }

def tdiRecycleOpenConn (r : Nat) : State := s.insert gFreeAddrList r

-- A walk through a list that was destroyed would not end. It is given up after all records.
def list (head : ListHead) : List Nat := s.links.toList s.nextRecord head

def find (head : ListHead) (file : Nat) : Option Nat :=
  (s.list head).find? fun r => (s.record r).pFileObject = file

-- How `addrThread`, `TDIH_TdiListenComplete` and `TDIH_TdiConnectComplete2` look for an address.
def addrObject (file : Nat) : Option Nat :=
  match s.find gTcpAddrList file with
  | some tcpObj =>
    match (s.record tcpObj).pAddrObj with
    | some addrObj => some addrObj
    | none => s.find gOpenAddrList file
  | none => s.find gOpenAddrList file

def setPAddrObj (r : Nat) (pAddrObj : Option Nat) : State :=
  s.setRecord r { s.record r with pAddrObj }

-- `m_pTcpObj` is set together with `FL_ATTACHED`.
def setPTcpObj (r : Nat) (pTcpObj : Option Nat) : State :=
  s.setRecord r { s.record r with pTcpObj, flAttached := pTcpObj.isSome }

def pass (irp : Nat) (call : Option Call) : State :=
  { s with calls := Function.update s.calls irp call, issued := irp :: s.issued }

end State

/-! ### The dispatch routines -/

-- `NdisZeroMemory`, which also clears the links that the record had on its last list.
def TdiOpenConn.zero : TdiOpenConn := ⟨false, false, false, none, none, 0, none⟩

def tdiAllocOpenConn (poolAlloc : Bool) (s : State) : Option (Nat × State) :=
  match s.links.flink (.head gFreeAddrList) with
  | .entry r => some (r, (s.remove r).setRecord r .zero)
  | .head _ =>
    if poolAlloc then
      let s' := s.setRecord s.nextRecord .zero
      some (s.nextRecord, { s' with nextRecord := s.nextRecord + 1 })
    else
      none

def tdiOpen (poolAlloc : Bool) (s : State) (irp : Nat) (request : Request) (file : Nat) : State :=
  match tdiAllocOpenConn poolAlloc s with
  | some (r, s) =>
    (s.setRecord r { s.record r with pFileObject := file }).pass irp (some ⟨request, file, some r⟩)
  | none => s.pass irp (some ⟨request, file, none⟩)

def tdiAssociateAddress (s : State) (irp file addressFile : Nat) : State :=
  match s.find gOpenAddrList addressFile with
  | some r => (s.remove r).pass irp (some ⟨.associateAddress addressFile, file, some r⟩)
  | none => s.pass irp (some ⟨.associateAddress addressFile, file, none⟩)

-- Without a record there is no completion routine.
def tdiSetEvent (s : State) (irp file : Nat) : State :=
  match s.find gOpenAddrList file with
  | some r => (s.remove r).pass irp (some ⟨.setEvent, file, some r⟩)
  | none => s.pass irp none

def dispatch (poolAlloc : Bool) (s : State) (irp : Nat) (request : Request) (file : Nat) : State :=
  match request with
  | .openAddress => tdiOpen poolAlloc s irp request file
  | .openConnection => tdiOpen poolAlloc s irp request file
  | .associateAddress addressFile => tdiAssociateAddress s irp file addressFile
  | .setEvent => tdiSetEvent s irp file
  | _ => s.pass irp (some ⟨request, file, none⟩)

/-! ### The completion routines -/

-- How a completion routine is called.
structure Completion where
  sameDevice : Bool
  success : Bool
  passive : Bool

variable (c : Completion) (s : State) (t irp file : Nat)

def tdiOpenAddressComplete : Option Nat → State
  | none => s
  | some r =>
    if c.sameDevice && c.success then
      if c.passive then s.insert gOpenAddrList r else s.goto t (.park irp r false)
    else
      s.tdiRecycleOpenConn r

def tdiOpenConnectionComplete : Option Nat → State
  | none => s
  | some r =>
    if c.sameDevice && c.success then s.insert gTcpAddrList r else s.tdiRecycleOpenConn r

def tdiAssociateAddressComplete : Option Nat → State
  | none => s
  | some r =>
    if c.sameDevice && c.success then
      match s.find gTcpAddrList file with
      | some tcpObj => ((s.setPAddrObj tcpObj (some r)).setPTcpObj r (some tcpObj)).insert gOpenAddrList r
      | none => s.insert gOpenAddrList r
    else
      s.insert gOpenAddrList r

def tdiDisAssociateAddressComplete : State :=
  if c.sameDevice && c.success then
    match s.find gTcpAddrList file with
    | some tcpObj =>
      match (s.record tcpObj).pAddrObj with
      | some addrObj => (s.setPTcpObj addrObj none).setPAddrObj tcpObj none
      | none => s.setPAddrObj tcpObj none
    | none => s
  else
    s

-- What `TDIH_TdiCloseAddressComplete` does with the record, on either list.
def closeRecord (r : Nat) : State :=
  let s := s.remove r
  match (s.record r).pTcpObj with
  | some tcpObj => (s.setPAddrObj tcpObj none).goto t (.insertTail gFreeAddrList r)
  | none => s.goto t (.insertTail gFreeAddrList r)

def tdiCloseAddressComplete : State :=
  if c.sameDevice && c.success then
    match s.find gOpenAddrList file with
    | some r => closeRecord s t r
    | none => s.goto t (.findPending file)
  else
    s

def tdiCloseConnectionComplete : State :=
  if c.sameDevice && c.success then
    match s.find gTcpAddrList file with
    | some tcpObj =>
      match (s.record tcpObj).pAddrObj with
      | some addrObj =>
        ((s.setPTcpObj addrObj none).remove tcpObj).goto t (.insertTail gFreeAddrList tcpObj)
      | none => (s.remove tcpObj).goto t (.insertTail gFreeAddrList tcpObj)
    | none => s
  else
    s

def tdiSetEventComplete : Option Nat → State
  | none => s
  | some r =>
    if c.sameDevice && c.success && !c.passive then
      s.goto t (.park irp r true)
    else
      s.insert gOpenAddrList r

-- `TDIH_TdiListenComplete` and `TDIH_TdiConnectComplete2`, of which only the first one sets `FL_LISTEN`.
def tdiListenComplete (listen : Bool) : State :=
  if c.sameDevice && c.success then
    match s.addrObject file with
    | some r =>
      (s.remove r).goto t (if c.passive then .insertTail gOpenAddrList r else .park irp r listen)
    | none => s
  else
    s

/-! ### The transport -/

-- A connection of an address that is closed is no longer associated.
def Object.forget (addressFile : Nat) : Object → Object
  | .connection (some associated) =>
    .connection (if associated = addressFile then none else some associated)
  | object => object

def transport (objects : Nat → Object) (call : Call) : Nat → Object :=
  match call.request with
  | .openAddress => Function.update objects call.file .address
  | .openConnection => Function.update objects call.file (.connection none)
  | .associateAddress addressFile =>
    Function.update objects call.file (.connection (some addressFile))
  | .disAssociateAddress => Function.update objects call.file (.connection none)
  | .closeAddress =>
    Function.update (fun file => (objects file).forget call.file) call.file .closed
  | .closeConnection => Function.update objects call.file .closed
  | _ => objects

def completeCall (call : Call) : State :=
  match call.request with
  | .openAddress => tdiOpenAddressComplete c s t irp call.context
  | .openConnection => tdiOpenConnectionComplete c s call.context
  | .associateAddress _ => tdiAssociateAddressComplete c s call.file call.context
  | .disAssociateAddress => tdiDisAssociateAddressComplete c s call.file
  | .closeAddress => tdiCloseAddressComplete c s t call.file
  | .closeConnection => tdiCloseConnectionComplete c s t call.file
  | .setEvent => tdiSetEventComplete c s t irp call.context
  | .listen => tdiListenComplete c s t irp call.file true
  | .connect => tdiListenComplete c s t irp call.file false

def State.answer (call : Call) : State :=
  { s with
    calls := Function.update s.calls irp none
    objects := if c.success then transport s.objects call else s.objects }

def complete : State :=
  match s.calls irp with
  | some call => completeCall c (s.answer c irp call) t irp call
  | none => s

/-! ### What the threads do between the locks -/

def addrThreadRelink (r : Nat) : State :=
  match s.addrObject (s.record r).pFileObject with
  | some _ => ((s.remove r).tdiRecycleOpenConn r).goto t .removeHead
  | none => (s.insert gOpenAddrList r).goto t .removeHead

def advance : State :=
  match s.pc t with
  | .idle =>
    if t = addrThread ∧ s.gAddrThreadEvent then
      { s with gAddrThreadEvent := false }.goto t .removeHead
    else
      s
  | .park irp r listen =>
    let conn := s.record r
    (s.setRecord r { conn with
      pIrp := some irp, flPending := true, flListen := conn.flListen || listen }).goto t
        (.insertPending irp r)
  | .insertPending irp r =>
    { s.insert gPendingAddrList r with parked := irp :: s.parked }.goto t .setEvent
  | .setEvent => { s with gAddrThreadEvent := true }.goto t .idle
  | .insertTail head r => (s.insert head r).goto t .idle
  | .findPending file =>
    match s.find gPendingAddrList file with
    | some r => closeRecord s t r
    | none => s.goto t .idle
  | .removeHead =>
    match s.links.flink (.head gPendingAddrList) with
    | .entry r => (s.remove r).goto t (.completeRequest r)
    | .head _ => s.goto t .idle
  | .completeRequest r =>
    { s with completed := (s.record r).pIrp :: s.completed }.goto t (.clear r)
  | .clear r =>
    (s.setRecord r { s.record r with pIrp := none, flPending := false, flListen := false }).goto t
      (.relink r)
  | .relink r => addrThreadRelink s t r

inductive Event where
  | dispatch (irp : Nat) (request : Request) (file : Nat) (poolAlloc : Bool)
  | complete (t irp : Nat) (c : Completion)
  | advance (t : Nat)

def step (s : State) : Event → State
  | .dispatch irp request file poolAlloc => dispatch poolAlloc s irp request file
  | .complete t irp c => complete c s t irp
  | .advance t => advance s t

/--
Each IRP is dispatched once, and a routine is called on a thread that is doing nothing else.
-/
def Allowed (s : State) : Event → Prop
  | .dispatch irp _ _ _ => irp ∉ s.issued
  | .complete t _ _ => s.pc t = .idle ∧ t ≠ addrThread
  | .advance _ => True

instance (s : State) : DecidablePred (Allowed s)
  | .dispatch irp _ _ _ => inferInstanceAs (Decidable (irp ∉ s.issued))
  | .complete t _ _ => inferInstanceAs (Decidable (s.pc t = .idle ∧ t ≠ addrThread))
  | .advance _ => .isTrue trivial

end Ansfw.OpenConn
