import Ndisrd.Ansfw.OpenConn.Impl

/-!
This module contains the graph of connections and addresses: which pointers between the records agree with
each other and with the transport, and how each change of them keeps that.
-/

namespace Ansfw.OpenConn

/--
The connections are the records on `g_TcpAddrList`, the addresses those that a connection can point to,
and a record is in use until it is recycled.
-/
structure Graph (tcp addr used : Nat → Prop) (record : Nat → TdiOpenConn) (objects : Nat → Object)
    : Prop where
  back : ∀ a c, used a → (record a).pTcpObj = some c → tcp c ∧ (record c).pAddrObj = some a
  target : ∀ c a, tcp c → (record c).pAddrObj = some a → addr a
  agree : ∀ c a, tcp c → (record c).pAddrObj = some a →
    objects (record c).pFileObject = .connection (some (record a).pFileObject)
  conns : ∀ c, tcp c → ∃ a, objects (record c).pFileObject = .connection a
  files : ∀ c c', tcp c → tcp c' → (record c).pFileObject = (record c').pFileObject → c = c'

namespace Graph

variable {tcp addr used : Nat → Prop} {record : Nat → TdiOpenConn} {objects : Nat → Object}
variable (h : Graph tcp addr used record objects) {a c r file : Nat}
include h

theorem mono {addr' used' : Nat → Prop} (haddr : ∀ a, addr a → addr' a) (hused : ∀ a, used' a → used a)
    : Graph tcp addr' used' record objects :=
  ⟨fun a c ha => h.back a c (hused a ha), fun c a hc ha => haddr a (h.target c a hc ha), h.agree,
    h.conns, h.files⟩

-- A record that is zeroed and used again.
theorem alloc {used' : Nat → Prop} {conn : TdiOpenConn} (htcp : ¬ tcp r) (haddr : ¬ addr r)
    (hconn : conn.pTcpObj = none) (hused : ∀ a, used' a → used a ∨ a = r)
    : Graph tcp addr used' (Function.update record r conn) objects := by
  have hc : ∀ {c}, tcp c → Function.update record r conn c = record c := by
    intro c hc
    apply Function.update_of_ne
    rintro rfl
    exact htcp hc
  refine ⟨?_, ?_, ?_, ?_, ?_⟩
  . intro a c ha hac
    by_cases har : a = r
    . rw [har, Function.update_self, hconn] at hac
      cases hac
    . rw [Function.update_of_ne har] at hac
      obtain ⟨htcp, hback⟩ := h.back a c ((hused a ha).resolve_right har) hac
      rw [hc htcp]
      exact ⟨htcp, hback⟩
  . intro c a htcp hca
    rw [hc htcp] at hca
    exact h.target c a htcp hca
  . intro c a hmem hca
    rw [hc hmem] at hca ⊢
    have har : a ≠ r := by
      rintro rfl
      exact haddr (h.target c a hmem hca)
    rw [Function.update_of_ne har]
    exact h.agree c a hmem hca
  . intro c htcp
    rw [hc htcp]
    exact h.conns c htcp
  . intro c c' htcp htcp' hfile
    rw [hc htcp, hc htcp'] at hfile
    exact h.files c c' htcp htcp' hfile

theorem elsewhere (hne : ∀ c, tcp c → (record c).pFileObject ≠ file) (object : Object)
    : Graph tcp addr used record (Function.update objects file object) := by
  refine ⟨h.back, h.target, ?_, ?_, h.files⟩
  . intro c a hc hca
    rw [Function.update_of_ne (hne c hc)]
    exact h.agree c a hc hca
  . intro c hc
    rw [Function.update_of_ne (hne c hc)]
    exact h.conns c hc

-- The transport opens what was closed.
theorem opened (hclosed : objects file = .closed) (object : Object)
    : Graph tcp addr used record (Function.update objects file object) := by
  apply h.elsewhere
  intro c hc heq
  obtain ⟨a, ha⟩ := h.conns c hc
  rw [heq, hclosed] at ha
  cases ha

theorem insertConnection (hclosed : objects (record r).pFileObject = .closed)
    (hr : (record r).pAddrObj = none)
    : Graph (fun c => tcp c ∨ c = r) addr used record
        (Function.update objects (record r).pFileObject (.connection none)) := by
  have hopened := h.opened hclosed (.connection none)
  have hfile : ∀ {c}, tcp c → (record c).pFileObject ≠ (record r).pFileObject := by
    intro c hc heq
    obtain ⟨a, ha⟩ := h.conns c hc
    rw [heq, hclosed] at ha
    cases ha
  refine ⟨?_, ?_, ?_, ?_, ?_⟩
  . intro a c ha hac
    obtain ⟨hc, hback⟩ := h.back a c ha hac
    exact ⟨Or.inl hc, hback⟩
  . rintro c a (hc | rfl) hca
    . exact h.target c a hc hca
    . cases hr.symm.trans hca
  . rintro c a (hc | rfl) hca
    . exact hopened.agree c a hc hca
    . cases hr.symm.trans hca
  . rintro c (hc | rfl)
    . exact hopened.conns c hc
    . exact ⟨none, Function.update_self _ _ _⟩
  . rintro c c' (hc | rfl) (hc' | rfl) heq
    . exact h.files c c' hc hc' heq
    . exact absurd heq (hfile hc)
    . exact absurd heq.symm (hfile hc')
    . rfl

-- The transport associates a connection that was not associated.
theorem associated (hfree : objects file = .connection none) (associated : Option Nat)
    : Graph tcp addr used record (Function.update objects file (.connection associated)) := by
  refine ⟨h.back, h.target, ?_, ?_, h.files⟩
  . intro c a hc hca
    have hobjects := h.agree c a hc hca
    rw [Function.update_of_ne]
    . exact hobjects
    . intro heq
      rw [heq, hfree] at hobjects
      cases hobjects
  . intro c hc
    by_cases heq : (record c).pFileObject = file
    . rw [heq, Function.update_self]
      exact ⟨associated, rfl⟩
    . rw [Function.update_of_ne heq]
      exact h.conns c hc

theorem link {record' : Nat → TdiOpenConn}
    (hfile : ∀ b, (record' b).pFileObject = (record b).pFileObject)
    (hconn : (record' c).pAddrObj = some a)
    (hother : ∀ b, b ≠ c → (record' b).pAddrObj = (record b).pAddrObj)
    (haddr : (record' a).pTcpObj = some c)
    (htcp : ∀ b, b ≠ a → (record' b).pTcpObj = (record b).pTcpObj)
    (hc : tcp c) (hfree : (record c).pAddrObj = none) (ha : addr a)
    (hobjects : objects (record c).pFileObject = .connection (some (record a).pFileObject))
    : Graph tcp addr used record' objects := by
  refine ⟨?_, ?_, ?_, ?_, ?_⟩
  . intro b d hb hbd
    by_cases hba : b = a
    . rw [hba] at hbd ⊢
      cases haddr.symm.trans hbd
      exact ⟨hc, hconn⟩
    . rw [htcp b hba] at hbd
      obtain ⟨hd, hback⟩ := h.back b d hb hbd
      refine ⟨hd, (hother d ?_).trans hback⟩
      rintro rfl
      cases hfree.symm.trans hback
  . intro d b hd hdb
    by_cases hdc : d = c
    . rw [hdc] at hdb
      cases hconn.symm.trans hdb
      exact ha
    . exact h.target d b hd ((hother d hdc).symm.trans hdb)
  . intro d b hd hdb
    rw [hfile, hfile]
    by_cases hdc : d = c
    . rw [hdc] at hdb ⊢
      cases hconn.symm.trans hdb
      exact hobjects
    . exact h.agree d b hd ((hother d hdc).symm.trans hdb)
  . intro d hd
    rw [hfile]
    exact h.conns d hd
  . intro d d' hd hd' heq
    rw [hfile, hfile] at heq
    exact h.files d d' hd hd' heq

/--
Pointers can be cleared, the one of a connection as long as no address points back.
-/
theorem unlink {record' : Nat → TdiOpenConn}
    (hfile : ∀ b, (record' b).pFileObject = (record b).pFileObject)
    (haddr : ∀ c a, (record' c).pAddrObj = some a → (record c).pAddrObj = some a)
    (htcp : ∀ a c, (record' a).pTcpObj = some c → (record a).pTcpObj = some c)
    (hback : ∀ a c, used a → (record' a).pTcpObj = some c →
      (record' c).pAddrObj = (record c).pAddrObj)
    : Graph tcp addr used record' objects := by
  refine ⟨?_, fun c a hc hca => h.target c a hc (haddr c a hca), ?_, ?_, ?_⟩
  . intro a c ha hac
    rw [hback a c ha hac]
    exact h.back a c ha (htcp a c hac)
  . intro c a hc hca
    rw [hfile, hfile]
    exact h.agree c a hc (haddr c a hca)
  . intro c hc
    rw [hfile]
    exact h.conns c hc
  . intro c c' hc hc' heq
    rw [hfile, hfile] at heq
    exact h.files c c' hc hc' heq

theorem disAssociated (hc : ∀ c, tcp c → (record c).pFileObject = file → (record c).pAddrObj = none)
    : Graph tcp addr used record (Function.update objects file (.connection none)) := by
  refine ⟨h.back, h.target, ?_, ?_, h.files⟩
  . intro c a htcp hca
    rw [Function.update_of_ne]
    . exact h.agree c a htcp hca
    . intro heq
      cases (hc c htcp heq).symm.trans hca
  . intro c htcp
    by_cases heq : (record c).pFileObject = file
    . rw [heq, Function.update_self]
      exact ⟨none, rfl⟩
    . rw [Function.update_of_ne heq]
      exact h.conns c htcp

theorem removeConnection (hback : ∀ a, used a → (record a).pTcpObj ≠ some c)
    (hc : ∀ d, tcp d → (record d).pFileObject = file → d = c)
    : Graph (fun d => tcp d ∧ d ≠ c) addr used record (Function.update objects file .closed) := by
  have hne : ∀ {d}, tcp d ∧ d ≠ c → (record d).pFileObject ≠ file := fun hd heq =>
    hd.2 (hc _ hd.1 heq)
  refine ⟨?_, fun d b hd => h.target d b hd.1, ?_, ?_, fun d d' hd hd' => h.files d d' hd.1 hd'.1⟩
  . intro b d hb hbd
    obtain ⟨hd, hdb⟩ := h.back b d hb hbd
    refine ⟨⟨hd, ?_⟩, hdb⟩
    rintro rfl
    exact hback b hb hbd
  . intro d b hd hdb
    rw [Function.update_of_ne (hne hd)]
    exact h.agree d b hd.1 hdb
  . intro d hd
    rw [Function.update_of_ne (hne hd)]
    exact h.conns d hd.1

-- An address that no connection points to can go.
theorem forgetAddress {addr' : Nat → Prop} (haddr : ∀ b, addr b → b ≠ a → addr' b)
    (ha : ∀ c, tcp c → (record c).pAddrObj ≠ some a)
    : Graph tcp addr' used record objects := by
  refine ⟨h.back, ?_, h.agree, h.conns, h.files⟩
  intro c b hc hcb
  apply haddr b (h.target c b hc hcb)
  rintro rfl
  exact ha c hc hcb

-- The transport closes an address that no connection points to.
theorem closedAddress (haddress : objects file = .address)
    (hfile : ∀ c a, tcp c → (record c).pAddrObj = some a → (record a).pFileObject ≠ file)
    : Graph tcp addr used record
        (Function.update (fun f => (objects f).forget file) file .closed) := by
  have hne : ∀ {c}, tcp c → (record c).pFileObject ≠ file := by
    intro c hc heq
    obtain ⟨a, ha⟩ := h.conns c hc
    rw [heq, haddress] at ha
    cases ha
  refine ⟨h.back, h.target, ?_, ?_, h.files⟩
  . intro c a hc hca
    rw [Function.update_of_ne (hne hc), h.agree c a hc hca]
    show Object.connection (if _ = file then none else _) = _
    rw [if_neg (hfile c a hc hca)]
  . intro c hc
    obtain ⟨a, ha⟩ := h.conns c hc
    rw [Function.update_of_ne (hne hc), ha]
    cases a with
    | none => exact ⟨none, rfl⟩
    | some a => exact ⟨_, rfl⟩

end Graph

end Ansfw.OpenConn
