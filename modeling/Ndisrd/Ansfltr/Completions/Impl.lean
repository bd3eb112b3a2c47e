import Ndisrd.Lib.Simulation
import Ndisrd.Lib.SinglyLinked
import Ndisrd.Shared.Basic

/-!
This module contains the `NET_BUFFER_LIST`s that pass through a filter module of the Vista driver in both
directions: those that it passes on or gives back as a whole, its own ones, and the two handlers that get
them back from NDIS in chains.
-/

namespace Ansfltr.Completions

/-- What the handlers read of a `NET_BUFFER_LIST`: `packet` is its `ProtocolReserved[3]`. -/
structure Header where
  sourceHandle : Nat
  pool : Nat
  packet : Nat
  deriving DecidableEq

structure FilterModule where
  filterHandle : Nat
  netBufferListPool : Nat

def FilterModule.own (pFilter : FilterModule) (pPacket : Nat) : Header where
  sourceHandle := pFilter.filterHandle
  pool := pFilter.netBufferListPool
  packet := pPacket

inductive Call where
  | sendNetBufferLists (netBufferLists : List Nat)
  | indicateReceiveNetBufferLists (netBufferLists : List Nat)
  | sendNetBufferListsComplete (netBufferLists : List Nat)
  | returnNetBufferLists (netBufferLists : List Nat)
  | fltFreeCloneRequest (pPacket : Nat)
  deriving DecidableEq

/--
A chain of lists: the pointer to the first one, and the links as they are at the call.
-/
structure Batch where
  netBufferLists : Option Nat
  next : Nat → Option Nat
  chain : List Nat
  linked : SinglyLinked.Path next netBufferLists chain none

/-! ### The loops -/

section Loops

variable (pFilter : FilterModule) (header : Nat → Header)

/--
One turn of `FilterSendNetBufferListsComplete` and of `FilterReturnNetBufferLists`. A list that is given
away is not the driver's any more: `after` is what its link becomes.
-/
def completeTurn (giveBack : List Nat → Call) (after : Nat → Option Nat)
    (p : Option Nat × (Nat → Option Nat) × List Call)
    : Loop.Turn (Option Nat × (Nat → Option Nat) × List Call) (List Call) :=
  match p.1 with
  | none => .done p.2.2
  | some currNbl =>
    let netBufferLists := p.2.1 currNbl
    if (header currNbl).sourceHandle = pFilter.filterHandle then
      if (header currNbl).pool = pFilter.netBufferListPool then
        let calls := p.2.2 ++ [.fltFreeCloneRequest (header currNbl).packet]
        .goOn (netBufferLists, Function.update p.2.1 currNbl (after currNbl), calls)
      else
        .goOn (netBufferLists, p.2.1, p.2.2)
    else
      let next := Function.update p.2.1 currNbl none
      -- with what is still linked to it
      let calls := p.2.2 ++ [giveBack (currNbl :: (next currNbl).toList)]
      .goOn (netBufferLists, Function.update next currNbl (after currNbl), calls)

def filterSendNetBufferListsComplete (after : Nat → Option Nat)
    : Option Nat × (Nat → Option Nat) × List Call →
        Loop.Turn (Option Nat × (Nat → Option Nat) × List Call) (List Call) :=
  completeTurn pFilter header .sendNetBufferListsComplete after

def filterReturnNetBufferLists (after : Nat → Option Nat)
    : Option Nat × (Nat → Option Nat) × List Call →
        Loop.Turn (Option Nat × (Nat → Option Nat) × List Call) (List Call) :=
  completeTurn pFilter header .returnNetBufferLists after

end Loops

/-! ### A filter module in its stack -/

/--
`ndis` are the lists that NDIS has through this module and gives back, with the direction they went.
-/
structure State where
  running : Bool
  instancesListEmpty : Bool
  header : Nat → Header
  ndis : List (Direction × Nat)

inductive Event where
  | filterState (running : Bool)
  | instances (instancesListEmpty : Bool)
  /-- Somebody, `CreateNetBufferList` or another driver, makes a list. -/
  | allocate (nbl : Nat) (header : Header)
  | filterSendNetBufferLists (b : Batch)
  | filterReceiveNetBufferLists (b : Batch) (resources : Bool)
  | sendPacket (direction : Direction) (pPacket nbl : Nat)
  | filterSendNetBufferListsComplete (b : Batch) (after : Nat → Option Nat)
  | filterReturnNetBufferLists (b : Batch) (after : Nat → Option Nat)

variable (pFilter : FilterModule) (s : State)

/-- What becomes of the chain that `FilterSendNetBufferLists` is called with. -/
def filterSendNetBufferLists (b : Batch) : State × List Call :=
  if s.running && s.instancesListEmpty then
    ({ s with ndis := b.chain.map (Prod.mk .out) ++ s.ndis }, [.sendNetBufferLists b.chain])
  else
    (s, [.sendNetBufferListsComplete b.chain])

/--
The same for `FilterReceiveNetBufferLists`. With `NDIS_RECEIVE_FLAGS_RESOURCES` the lists are not given back:
they go back to NDIS with the return of the handler.
-/
def filterReceiveNetBufferLists (b : Batch) (resources : Bool) : State × List Call :=
  if s.running && s.instancesListEmpty then
    let ndis := if resources then s.ndis else b.chain.map (Prod.mk .inbound) ++ s.ndis
    ({ s with ndis := ndis }, [.indicateReceiveNetBufferLists b.chain])
  else if !resources then
    (s, [.returnNetBufferLists b.chain])
  else
    (s, [])

def sendPacket (direction : Direction) (nbl : Nat) : State × List Call :=
  let s := { s with ndis := (direction, nbl) :: s.ndis }
  match direction with
  | .inbound => (s, [.indicateReceiveNetBufferLists [nbl]])
  | .out => (s, [.sendNetBufferLists [nbl]])

/-- NDIS gives back the lists of a chain. -/
def comeBack (direction : Direction) (chain : List Nat) : State :=
  { s with ndis := s.ndis.filter fun l => l ∉ chain.map (Prod.mk direction) }

def Performs (e : Event) (o : State × List Call) : Prop :=
  match e with
  | .filterState running => o = ({ s with running := running }, [])
  | .instances instancesListEmpty => o = ({ s with instancesListEmpty := instancesListEmpty }, [])
  | .allocate nbl header => o = ({ s with header := Function.update s.header nbl header }, [])
  | .filterSendNetBufferLists b => o = filterSendNetBufferLists s b
  | .filterReceiveNetBufferLists b resources => o = filterReceiveNetBufferLists s b resources
  | .sendPacket direction _ nbl => o = sendPacket s direction nbl
  | .filterSendNetBufferListsComplete b after =>
    ∃ calls,
      Loop.Ends (filterSendNetBufferListsComplete pFilter s.header after)
          (b.netBufferLists, b.next, []) calls ∧
        o = (comeBack s .out b.chain, calls)
  | .filterReturnNetBufferLists b after =>
    ∃ calls,
      Loop.Ends (filterReturnNetBufferLists pFilter s.header after)
          (b.netBufferLists, b.next, []) calls ∧
        o = (comeBack s .inbound b.chain, calls)

/--
What NDIS keeps to: lists that are handed in are another's and not yet handed in, a packet's list is handed
on once at a time, and what NDIS gives back it has.
-/
def Allowed (s : State) : Event → Prop
  | .filterState _ => True
  | .instances _ => True
  | .allocate nbl _ => nbl ∉ s.ndis.map Prod.snd
  | .filterSendNetBufferLists b =>
    ∀ nbl ∈ b.chain, (s.header nbl).sourceHandle ≠ pFilter.filterHandle ∧ nbl ∉ s.ndis.map Prod.snd
  | .filterReceiveNetBufferLists b _ =>
    ∀ nbl ∈ b.chain, (s.header nbl).sourceHandle ≠ pFilter.filterHandle ∧ nbl ∉ s.ndis.map Prod.snd
  | .sendPacket _ pPacket nbl => s.header nbl = pFilter.own pPacket ∧ nbl ∉ s.ndis.map Prod.snd
  | .filterSendNetBufferListsComplete b _ => ∀ nbl ∈ b.chain, (.out, nbl) ∈ s.ndis
  | .filterReturnNetBufferLists b _ => ∀ nbl ∈ b.chain, (.inbound, nbl) ∈ s.ndis

def init (header : Nat → Header) : State := ⟨false, true, header, []⟩

end Ansfltr.Completions
