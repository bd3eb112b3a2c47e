import Ndisrd.Lib.Run
import Ndisrd.Shared.Basic

/-!
This module contains `ipmon.c`: the list of the addresses of the local interfaces, which TDI's
notifications add to and delete from, and the blocks of memory that its entries are.
-/

namespace Ansfw.IpMonitor

-- `TA_ADDRESS`, with the bytes at `Address`.
structure TaAddress where
  addressLength : Nat
  addressType : Nat
  address : Nat → UInt8

def tdiAddressTypeIp : Nat := 2

def TaAddress.dwAddr (a : TaAddress) : Nat :=
  dwordOfBytes (a.address 2) (a.address 3) (a.address 4) (a.address 5)

structure NetAddress where
  block : Nat
  dwAddr : Nat

/--
`allocated` are the blocks from `g_NetAddressesLookasideList` that have not been given back.
-/
structure Monitor where
  gNetAddressesList : List NetAddress
  allocated : List Nat

def registerIpMonitor : Monitor := ⟨[], []⟩

def isLocalAddress (gNetAddressesList : List NetAddress) (dwAddr : Nat) : Bool :=
  -- Loopback address
  let bResult := dwAddr &&& 0x000000ff == 0x0000007f
  if bResult then
    bResult
  else
    gNetAddressesList.any fun pNetAddress => pNetAddress.dwAddr == dwAddr

-- `memory` is what the lookaside list has for the new entry.
def clientPnPAddNetAddress (s : Monitor) (address : TaAddress) (deviceName : Bool) (memory : Option Nat)
    : Monitor :=
  if address.addressType = tdiAddressTypeIp ∧ address.addressLength = 14 ∧ deviceName = true then
    match memory with
    | none => s
    | some block =>
      { gNetAddressesList := ⟨block, address.dwAddr⟩ :: s.gNetAddressesList
        allocated := block :: s.allocated }
  else
    s

/--
The loop of `ClientPnPDelNetAddress`, with the entries before and from the current one on. What it
removes is not given back to the lookaside list.
-/
def delLoop (dwAddr : Nat) (seen : List NetAddress) : List NetAddress → List NetAddress
  | [] => seen
  | pNetAddress :: rest =>
    if pNetAddress.dwAddr = dwAddr then
      delLoop dwAddr [] (seen ++ rest)
    else
      delLoop dwAddr (seen ++ [pNetAddress]) rest
termination_by rest => (seen.length + rest.length, rest.length)
decreasing_by
  . apply Prod.Lex.left
    simp
  . apply Prod.Lex.right'
    . simp
      omega
    . simp

def clientPnPDelNetAddress (s : Monitor) (address : TaAddress) (deviceName : Bool) : Monitor :=
  if address.addressType = tdiAddressTypeIp ∧ address.addressLength = 14 ∧ deviceName = true then
    { s with gNetAddressesList := delLoop address.dwAddr [] s.gNetAddressesList }
  else
    s

inductive Notification where
  | add (address : TaAddress) (deviceName : Bool) (memory : Option Nat)
  | del (address : TaAddress) (deviceName : Bool)

def step (s : Monitor) : Notification → Monitor
  | .add address deviceName memory => clientPnPAddNetAddress s address deviceName memory
  | .del address deviceName => clientPnPDelNetAddress s address deviceName

def TaAddress.IPv4 (a : TaAddress) (deviceName : Bool) : Prop :=
  a.addressType = tdiAddressTypeIp ∧ a.addressLength = 14 ∧ deviceName = true

-- A notification for an IPv4 address, whose allocation succeeds.
def Notification.Admissible (s : Monitor) : Notification → Prop
  | .add address deviceName memory =>
    address.IPv4 deviceName ∧ ∃ block, memory = some block ∧ block ∉ s.allocated
  | .del address deviceName => address.IPv4 deviceName

end Ansfw.IpMonitor
