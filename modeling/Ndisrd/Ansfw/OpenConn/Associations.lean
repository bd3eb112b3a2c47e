import Ndisrd.Ansfw.OpenConn.Graph
import Ndisrd.Ansfw.OpenConn.Parked

/-!
This module contains the associations of connections with addresses: what the transport allows, and what
each completion routine does to the pointers between the records.
-/

namespace Ansfw.OpenConn

open ListHead ListEntry

def Request.associates : Request → Bool
  | .openAddress => true
  | .openConnection => true
  | .associateAddress _ => true
  | .disAssociateAddress => true
  | .closeAddress => true
  | .closeConnection => true
  | _ => false

-- The record that a thread is about to put on `g_PendingAddrList`.
def Pc.parking : Pc → Option Nat
  | .park _ r _ => some r
  | .insertPending _ r => some r
  | _ => none

namespace State

variable (s : State)

-- The record is on `g_FreeAddrList`, or a thread has come to `tdiRecycleOpenConn` with it.
def Recycled (r : Nat) : Prop :=
  r ∈ s.list gFreeAddrList ∨ ∃ t, s.pc t = .insertTail gFreeAddrList r

def Used (r : Nat) : Prop := s.Known r ∧ ¬ s.Recycled r

-- The address is on `g_OpenAddrList`, or an association has taken it from there for now.
def IsAddress (r : Nat) : Prop :=
  r ∈ s.list gOpenAddrList ∨ ∃ irp call addressFile, s.calls irp = some call ∧
    call.request = .associateAddress addressFile ∧ call.context = some r

def Parking (r : Nat) : Prop :=
  r ∈ s.list gPendingAddrList ∨ ∃ t, (s.pc t).parking = some r

def Graph : Prop :=
  OpenConn.Graph (· ∈ s.list gTcpAddrList) s.IsAddress s.Used s.record s.objects

end State

/--
The pointers between connections and addresses are not to records that were recycled.
-/
structure Linked (s : State) : Prop where
  pAddrObj : ∀ conn ∈ s.list gTcpAddrList, ∀ a, (s.record conn).pAddrObj = some a →
    s.IsAddress a ∧ ¬ s.Recycled a
  pTcpObj : ∀ a, s.Used a → ∀ conn, (s.record a).pTcpObj = some conn →
    conn ∈ s.list gTcpAddrList ∧ ¬ s.Recycled conn

/--
What the transport completes with success. A file object is closed when its open is completed, and is
opened again when the routine of its close has returned.
-/
def Served (s : State) (call : Call) : Prop :=
  match call.request with
  | .openAddress => s.objects call.file = .closed ∧ ∀ t, s.pc t ≠ .findPending call.file
  | .openConnection => s.objects call.file = .closed
  | .associateAddress addressFile =>
    s.objects call.file = .connection none ∧ s.objects addressFile = .address
  | .disAssociateAddress => ∃ associated, s.objects call.file = .connection associated
  | .closeAddress =>
    s.objects call.file = .address ∧ ∀ r, s.Parking r → (s.record r).pFileObject ≠ call.file
  | .closeConnection => ∃ associated, s.objects call.file = .connection associated
  | _ => True

/--
What the calls and the completion routines have in their hands.
-/
structure Hands (s : State) : Prop where
  requests : ∀ irp call, s.calls irp = some call → call.request.associates = true
  issued : ∀ irp call, s.calls irp = some call → irp ∈ s.issued
  taken : ∀ irp call addressFile a, s.calls irp = some call →
    call.request = .associateAddress addressFile → call.context = some a →
    (s.record a).pFileObject = addressFile
  fresh : ∀ irp call r, s.calls irp = some call →
    call.request = .openAddress ∨ call.request = .openConnection → call.context = some r →
    (s.record r).pTcpObj = none ∧ (s.record r).pAddrObj = none ∧ (s.record r).pFileObject = call.file
  tails : ∀ t head r, s.pc t = .insertTail head r → head = gFreeAddrList ∨ head = gOpenAddrList
  closing : ∀ t file, s.pc t = .findPending file → ∀ r, s.Parking r →
    (s.record r).pFileObject ≠ file

structure Associated (s : State) : Prop where
  graph : s.Graph
  hands : Hands s

/-! ### Where the records are -/

section Places

variable {s : State} (h : Placed s) {irp t r a : Nat} {call : Call} {head : ListHead}
include h

theorem not_recycled_of_mem (hr : r ∈ s.list head) (hhead : head ≠ gFreeAddrList) : ¬ s.Recycled r := by
  rintro (hfree | ⟨t, ht⟩)
  . exact hhead (h.mem_unique hr hfree)
  . apply h.custody.off (.thread t) r ?_ head hr
    show (s.pc t).record = some r
    rw [ht]
    rfl

theorem not_mem_of_call (hcall : s.calls irp = some call) (hr : call.context = some r)
    : r ∉ s.list head := by
  apply h.custody.off (.call irp) r
  show (s.calls irp).bind Call.context = some r
  rw [hcall]
  exact hr

theorem call_unique {irp' : Nat} {call' : Call} (hcall : s.calls irp = some call)
    (hr : call.context = some r) (hcall' : s.calls irp' = some call') (hr' : call'.context = some r)
    : irp = irp' := by
  apply Holder.call.inj
  apply h.custody.once _ _ r
  . show (s.calls irp).bind Call.context = some r
    rw [hcall]
    exact hr
  . show (s.calls irp').bind Call.context = some r
    rw [hcall']
    exact hr'

theorem record_ne_of_call (hcall : s.calls irp = some call) (hr : call.context = some r)
    : (s.pc t).record ≠ some r := by
  intro ht
  have heq : Holder.thread t = .call irp := by
    apply h.custody.once _ _ r
    . exact ht
    . show (s.calls irp).bind Call.context = some r
      rw [hcall]
      exact hr
  cases heq

theorem not_recycled_of_call (hcall : s.calls irp = some call) (hr : call.context = some r)
    : ¬ s.Recycled r := by
  rintro (hfree | ⟨t, ht⟩)
  . exact not_mem_of_call h hcall hr hfree
  . apply record_ne_of_call h (t := t) hcall hr
    rw [ht]
    rfl

theorem State.IsAddress.not_recycled (ha : s.IsAddress a) : ¬ s.Recycled a := by
  rcases ha with ha | ⟨irp, call, addressFile, hcall, _, hr⟩
  . exact not_recycled_of_mem h ha (by decide)
  . exact not_recycled_of_call h hcall hr

theorem State.IsAddress.known (ha : s.IsAddress a) : s.Known a := by
  rcases ha with ha | ⟨irp, call, addressFile, hcall, _, hr⟩
  . exact h.custody.listed _ a ha
  . apply h.custody.kept (.call irp) a
    show (s.calls irp).bind Call.context = some a
    rw [hcall]
    exact hr

-- A connection is no address.
theorem State.IsAddress.not_mem (ha : s.IsAddress a) : a ∉ s.list gTcpAddrList := by
  rcases ha with ha | ⟨irp, call, addressFile, hcall, _, hr⟩
  . intro hmem
    cases h.mem_unique ha hmem
  . exact not_mem_of_call h hcall hr

theorem Associated.linked (hs : Associated s) : Linked s := by
  constructor
  . intro conn hconn a ha
    have haddress := hs.graph.target conn a hconn ha
    exact ⟨haddress, haddress.not_recycled h⟩
  . intro a ha conn hconn
    have hmem := (hs.graph.back a conn ha hconn).1
    exact ⟨hmem, not_recycled_of_mem h hmem (by decide)⟩

end Places

/-! ### The fields of the records -/

section Fields

variable {s : State} {r b : Nat} {p : Option Nat}

@[simp]
theorem pFileObject_setPAddrObj
    : ((s.setPAddrObj r p).record b).pFileObject = (s.record b).pFileObject := by
  show (Function.update s.record r _ b).pFileObject = _
  by_cases hb : b = r
  . rw [hb, Function.update_self]
  . rw [Function.update_of_ne hb]

@[simp]
theorem pTcpObj_setPAddrObj : ((s.setPAddrObj r p).record b).pTcpObj = (s.record b).pTcpObj := by
  show (Function.update s.record r _ b).pTcpObj = _
  by_cases hb : b = r
  . rw [hb, Function.update_self]
  . rw [Function.update_of_ne hb]

@[simp]
theorem pAddrObj_setPAddrObj
    : ((s.setPAddrObj r p).record b).pAddrObj = if b = r then p else (s.record b).pAddrObj := by
  show (Function.update s.record r _ b).pAddrObj = _
  by_cases hb : b = r
  . rw [hb, Function.update_self, if_pos rfl]
  . rw [Function.update_of_ne hb, if_neg hb]

@[simp]
theorem pFileObject_setPTcpObj
    : ((s.setPTcpObj r p).record b).pFileObject = (s.record b).pFileObject := by
  show (Function.update s.record r _ b).pFileObject = _
  by_cases hb : b = r
  . rw [hb, Function.update_self]
  . rw [Function.update_of_ne hb]

@[simp]
theorem pAddrObj_setPTcpObj : ((s.setPTcpObj r p).record b).pAddrObj = (s.record b).pAddrObj := by
  show (Function.update s.record r _ b).pAddrObj = _
  by_cases hb : b = r
  . rw [hb, Function.update_self]
  . rw [Function.update_of_ne hb]

@[simp]
theorem pTcpObj_setPTcpObj
    : ((s.setPTcpObj r p).record b).pTcpObj = if b = r then p else (s.record b).pTcpObj := by
  show (Function.update s.record r _ b).pTcpObj = _
  by_cases hb : b = r
  . rw [hb, Function.update_self, if_pos rfl]
  . rw [Function.update_of_ne hb, if_neg hb]

end Fields

end Ansfw.OpenConn
