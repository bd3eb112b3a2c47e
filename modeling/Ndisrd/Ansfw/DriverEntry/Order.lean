import Ndisrd.Ansfw.DriverEntry.Impl

/-!
This module contains the order of the start-up: which lists are initialised whenever a handler may be
called, which handlers may be called too early, and that nothing else uses a list before its time.
-/

namespace Ansfw.DriverEntry

open Startup

/--
What is established before a fact is, on the way of the start-up or of the handler that establishes it.
-/
def needs (platform : Platform) : Fact → List Fact
  | .fwInstancesList => [.fwRequestsLookasideList]
  | .openAddrList => [.intermedQueue]
  | .filterCallbacks =>
    match platform with
    | .nt => []
    | .vista _ => [.intermedQueue, .connectionsList, .netAddressesList]
  | .pnpHandlers => [.netAddressesLookasideList, .netAddressesList]
  | .bfeCallback => [.connectionsList, .connectionsLookasideList, .netAddressesList]
  | .callout _ => [.connectionsList, .connectionsLookasideList, .netAddressesList]
  | .attached _ =>
    [.freeAddrList, .openAddrList, .pendingAddrList, .tcpAddrList, .pendingRequestList, .freeRequestList]
  | .thread .intermed => [.intermedQueue, .datagrQueue, .freeDatagramWorkBufList]
  | .thread .ttlDecrement => [.datagrQueue, .freeDatagramWorkBufList]
  | .thread .addr => [.pendingAddrList, .openAddrList, .tcpAddrList, .freeAddrList]
  | .thread .fw => [.pendingRequestList, .freeRequestList, .fwInstancesList, .fwRequestsLookasideList]
  | .client => [.fwInstancesList]
  | .fragment => [.fwInstancesList, .fwRequestsLookasideList]
  | _ => []

attribute [simp] needs

/--
A packet must find the list of clients. On NT it must also find the lists in which its process and its
address are looked up, if it comes that far, and a request to connect or send the list of addresses.
-/
def Timely (platform : Platform) (known : List Fact) : Handler → Prop
  | .requestCallback packet =>
    .fwInstancesList ∈ known ∧
      (platform = .nt → packet.connected → packet.allocated →
        .openAddrList ∈ known ∧
          (packet.inboundIp → isLoopback packet.destAddr = false → .netAddressesList ∈ known))
  | .fwRegisterRequestCallback allocated => allocated → .fwInstancesList ∈ known
  | .tdiSend _ _ send _ =>
    send.asksForAddress → isLoopback send.destAddr = false → .netAddressesList ∈ known
  | .outboundTransportV4Classify packet => packet.goesOn → .fwInstancesList ∈ known
  | _ => True

instance decidableTimely (platform : Platform) (known : List Fact)
    : ∀ c, Decidable (Timely platform known c)
  | .requestCallback packet =>
    inferInstanceAs (Decidable (_ ∧ (_ → _ → _ → _ ∧ (packet.inboundIp = true → _ → _))))
  | .fwRegisterRequestCallback allocated => inferInstanceAs (Decidable (allocated = true → _))
  | .tdiSend _ _ send _ => inferInstanceAs (Decidable (send.asksForAddress = true → _ → _))
  | .outboundTransportV4Classify packet => inferInstanceAs (Decidable (packet.goesOn = true → _))
  | .tdi .. => .isTrue trivial
  | .aleAuthConnectV4Classify _ => .isTrue trivial
  | .aleResourceAssignmentV4Classify _ => .isTrue trivial
  | .aleFlowEstablishedV4Classify => .isTrue trivial
  | .aleFlowEstablishedV4Delete _ => .isTrue trivial
  | .bfeSubscribeWithoutDeviceCallback _ => .isTrue trivial
  | .clientPnPAddNetAddress _ => .isTrue trivial
  | .clientPnPDelNetAddress => .isTrue trivial
  | .worker .. => .isTrue trivial

variable {platform : Platform} {known : List Fact}

theorem driverEntry_covered : Covered [] (driverEntry platform) := by
  cases platform with
  | nt => decide
  | vista bfeRunning => cases bfeRunning <;> decide

theorem driverEntry_ordered : Ordered (needs platform) [] (driverEntry platform) := by
  cases platform with
  | nt => decide
  | vista bfeRunning => cases bfeRunning <;> decide

theorem isLocalAddress_subset (addr : ℕ)
    : isLocalAddress addr ⊆ known ↔ (isLoopback addr = false → .netAddressesList ∈ known) := by
  unfold isLocalAddress
  split <;> simp_all

theorem initPacketHeaders_subset (packet : Packet)
    : initPacketHeaders packet ⊆ known ↔
      (packet.inboundIp → isLoopback packet.destAddr = false → .netAddressesList ∈ known) := by
  unfold initPacketHeaders
  split <;> simp_all [isLocalAddress_subset]

section Closed

variable (hclosed : Closed (needs platform) known)
include hclosed

theorem fwRequestsLookasideList_mem (h : .fwInstancesList ∈ known)
    : .fwRequestsLookasideList ∈ known :=
  hclosed _ h (by simp)

/--
What a packet needs beside the list of clients once it is past the allocation: on Vista all of it is
initialised before the callback is registered.
-/
theorem getPidFromLocalInfo_mem (hcallbacks : .filterCallbacks ∈ known)
    : getPidFromLocalInfo platform ∈ known ↔ (platform = .nt → .openAddrList ∈ known) := by
  cases platform with
  | nt => simp [getPidFromLocalInfo]
  | vista =>
    have hconnections : .connectionsList ∈ known := hclosed _ hcallbacks (by simp)
    simp [getPidFromLocalInfo, hconnections]

theorem intermedQueue_mem (hcallbacks : .filterCallbacks ∈ known)
    (h : getPidFromLocalInfo platform ∈ known)
    : .intermedQueue ∈ known := by
  cases platform with
  | nt => exact hclosed _ h (by simp [getPidFromLocalInfo])
  | vista => exact hclosed _ hcallbacks (by simp)

theorem netAddressesList_mem (hcallbacks : .filterCallbacks ∈ known) (h : platform ≠ .nt)
    : .netAddressesList ∈ known := by
  cases platform with
  | nt => exact absurd rfl h
  | vista => exact hclosed _ hcallbacks (by simp)

theorem covered_requestCallback (packet : Packet) (hcallbacks : .filterCallbacks ∈ known)
    : Covered known (requestCallback platform packet) ↔
      Timely platform known (.requestCallback packet) := by
  have hlookaside := fwRequestsLookasideList_mem hclosed
  have hpid := getPidFromLocalInfo_mem hclosed hcallbacks
  have hqueue := intermedQueue_mem hclosed hcallbacks
  have hnet := netAddressesList_mem hclosed hcallbacks
  have htail (h : getPidFromLocalInfo platform ∈ known) (hlist : .fwInstancesList ∈ known)
      : Covered known (if packet.fragment then reassemblePacket
          else uses (processRequest ++ fwFreeCloneRequest)) := by
    split
    . exact ⟨hqueue h, trivial⟩
    . exact (covered_uses _).mpr (by simp [processRequest, fwFreeCloneRequest, hlist, hlookaside hlist])
  unfold requestCallback Timely
  split
  . simp_all [uses, Covered]
  . split
    . simp_all [uses, Covered]
    . next hconnected hallocated =>
      simp only [uses, covered_uses_append, List.append_subset, initPacketHeaders_subset,
        List.cons_subset, List.nil_subset, and_true]
      constructor
      . rintro ⟨⟨⟨⟨hlist, -⟩, haddr⟩, h⟩, -⟩
        exact ⟨hlist, fun hnt _ _ => ⟨hpid.mp h hnt, haddr⟩⟩
      . rintro ⟨hlist, hrest⟩
        have hfound : packet.connected ∧ packet.allocated := by simp_all
        have h := hpid.mpr fun hnt => (hrest hnt hfound.1 hfound.2).1
        refine ⟨⟨⟨⟨hlist, hlookaside hlist⟩, ?_⟩, h⟩, htail h hlist⟩
        intro hip haddr
        by_cases hnt : platform = .nt
        . exact (hrest hnt hfound.1 hfound.2).2 hip haddr
        . exact hnet hnt

theorem tdiRoutine_touches_subset {device : Device} (routine : TdiRoutine)
    (hdevice : .attached device ∈ known)
    : routine.touches ⊆ known := by
  have hlists : needs platform (.attached device) ⊆ known := hclosed _ hdevice
  refine List.Subset.trans ?_ hlists
  cases routine <;> simp [TdiRoutine.touches]

theorem sendRoutine_touches_subset {device : Device} (routine : SendRoutine)
    (hdevice : .attached device ∈ known)
    : routine.touches ⊆ known := by
  have hlists : needs platform (.attached device) ⊆ known := hclosed _ hdevice
  refine List.Subset.trans ?_ hlists
  cases routine <;> simp [SendRoutine.touches]

theorem tdiSend_subset {device : Device} {routine : SendRoutine} {send : TdiSend} {used : List Fact}
    (hopens : Opens known (.tdiSend device routine send used))
    : tdiSend send used ⊆ known ↔ Timely platform known (.tdiSend device routine send used) := by
  obtain ⟨hdevice, hused⟩ := hopens
  have hlists : needs platform (.attached device) ⊆ known := hclosed _ hdevice
  have htcp : .tcpAddrList ∈ known := hlists (by simp)
  have hopen : .openAddrList ∈ known := hlists (by simp)
  have hrest := List.Subset.trans hused (sendRoutine_touches_subset hclosed routine hdevice)
  have hlookup : (if send.ofConnection then [] else [Fact.openAddrList]) ⊆ known := by
    split <;> simp [hopen]
  unfold tdiSend Timely TdiSend.asksForAddress
  cases hbogus : send.bogusStack with
  | true => simp [hbogus]
  | false =>
    by_cases hpid : send.pid = 0
    . simp [htcp, hlookup, hrest, hpid]
    . simp [htcp, hlookup, hrest, hpid, hbogus, isLocalAddress_subset]

theorem callout_needs {callout : Callout} (hcallout : .callout callout ∈ known)
    : .connectionsList ∈ known ∧ .connectionsLookasideList ∈ known ∧ .netAddressesList ∈ known := by
  have hlists : needs platform (.callout callout) ⊆ known := hclosed _ hcallout
  simpa using hlists

theorem addConnection_subset {callout : Callout} (hcallout : .callout callout ∈ known) (updated : Bool)
    : addConnection updated ⊆ known := by
  have hlists := callout_needs hclosed hcallout
  cases updated <;> simp [addConnection, hlists]

theorem removeConnection_subset {callout : Callout} (hcallout : .callout callout ∈ known) (found : Bool)
    : removeConnection found ⊆ known := by
  have hlists := callout_needs hclosed hcallout
  cases found <;> simp [removeConnection, hlists]

theorem outboundTransport_subset {packet : OutboundPacket}
    (hcallout : .callout .outboundTransport ∈ known)
    : outboundTransportV4Classify packet ⊆ known ↔
      Timely platform known (.outboundTransportV4Classify packet) := by
  obtain ⟨hconnections, -, hnet⟩ := callout_needs hclosed hcallout
  have haddr : isLocalAddress packet.remoteAddr ⊆ known := (isLocalAddress_subset _).mpr fun _ => hnet
  have hasked : (if packet.blocked || packet.injectedBySelf then []
      else isLocalAddress packet.remoteAddr) ⊆ known := by
    split <;> simp [haddr]
  unfold outboundTransportV4Classify Timely
  rw [List.append_subset, and_iff_right hasked]
  cases hgoesOn : packet.goesOn with
  | true => simp [processRequest, hconnections, hgoesOn]
  | false => simp [hgoesOn]

theorem worker_subset {worker : Worker} {used : List Fact} (hopens : Opens known (.worker worker used))
    : [worker.looksInto] ++ used ⊆ known := by
  obtain ⟨hthread, hused, hfed⟩ := hopens
  have hlists : needs platform (.thread worker) ⊆ known := hclosed _ hthread
  rw [List.append_subset]
  constructor
  . refine List.Subset.trans ?_ hlists
    cases worker <;> simp [Worker.looksInto]
  . by_cases hnone : used = []
    . simp [hnone]
    . refine List.Subset.trans hused ?_
      have hfragment (h : worker.fedBy = [.fragment]) : needs platform .fragment ⊆ known := by
        have hfed := hfed hnone
        exact hclosed _ (hfed (by simp [h]))
      cases worker <;> simp_all [Worker.touches, Worker.fedBy]

theorem timely_iff_covered {c : Handler} (hopens : Opens known c)
    : Timely platform known c ↔ Covered known (path platform c) := by
  cases c with
  | requestCallback packet => exact (covered_requestCallback hclosed packet hopens.1).symm
  | fwRegisterRequestCallback allocated =>
    cases allocated <;> simp [Timely, path, fwRegisterRequestCallback, Covered]
  | tdi device routine used =>
    have hused := List.Subset.trans hopens.2 (tdiRoutine_touches_subset hclosed routine hopens.1)
    exact iff_of_true trivial ((covered_uses _).mpr hused)
  | tdiSend device routine send used =>
    exact (tdiSend_subset hclosed hopens).symm.trans (covered_uses _).symm
  | aleAuthConnectV4Classify updated =>
    exact iff_of_true trivial ((covered_uses _).mpr (addConnection_subset hclosed hopens updated))
  | aleResourceAssignmentV4Classify updated =>
    exact iff_of_true trivial ((covered_uses _).mpr (addConnection_subset hclosed hopens updated))
  | aleFlowEstablishedV4Classify =>
    exact iff_of_true trivial ((covered_uses _).mpr (by
      simp [getConnection, callout_needs hclosed hopens]))
  | aleFlowEstablishedV4Delete found =>
    exact iff_of_true trivial ((covered_uses _).mpr (removeConnection_subset hclosed hopens found))
  | outboundTransportV4Classify packet =>
    exact (outboundTransport_subset hclosed hopens).symm.trans (covered_uses _).symm
  | bfeSubscribeWithoutDeviceCallback running =>
    cases running <;> exact iff_of_true trivial trivial
  | clientPnPAddNetAddress allocated =>
    have hlists : needs platform .pnpHandlers ⊆ known := hclosed _ hopens
    refine iff_of_true trivial ((covered_uses _).mpr (List.Subset.trans ?_ hlists))
    cases allocated <;> simp [clientPnPAddNetAddress]
  | clientPnPDelNetAddress =>
    have hlists : needs platform .pnpHandlers ⊆ known := hclosed _ hopens
    exact iff_of_true trivial ((covered_uses _).mpr (List.Subset.trans (by
      simp [clientPnPDelNetAddress]) hlists))
  | worker worker used =>
    exact iff_of_true trivial ((covered_uses _).mpr (worker_subset hclosed hopens))

/--
What a handler establishes comes behind what it needs: a client and a fragment behind the lists that the
handler has gone through, a callout behind those that the subscription came behind.
-/
theorem ordered_path {c : Handler} (hopens : Opens known c) (hcovered : Covered known (path platform c))
    : Ordered (needs platform) known (path platform c) := by
  cases c with
  | requestCallback packet =>
    have hlist := ((timely_iff_covered hclosed hopens).mpr hcovered).1
    simp only [path, requestCallback]
    split
    . exact ordered_uses _
    . split
      . exact ordered_uses _
      . rw [uses, ordered_uses_append]
        split
        . simp [reassemblePacket, Ordered, hlist, fwRequestsLookasideList_mem hclosed hlist]
        . exact ordered_uses _
  | fwRegisterRequestCallback allocated =>
    cases allocated with
    | false => trivial
    | true => exact ⟨by simpa using hcovered.1, trivial⟩
  | bfeSubscribeWithoutDeviceCallback running =>
    have hlists : needs platform .bfeCallback ⊆ known := hclosed _ hopens
    cases running with
    | false => trivial
    | true => simp_all [path, establishes, registerCallouts, Ordered]
  | tdi device routine used => exact ordered_uses _
  | tdiSend device routine send used => exact ordered_uses _
  | aleAuthConnectV4Classify updated => exact ordered_uses _
  | aleResourceAssignmentV4Classify updated => exact ordered_uses _
  | aleFlowEstablishedV4Classify => exact ordered_uses _
  | aleFlowEstablishedV4Delete found => exact ordered_uses _
  | outboundTransportV4Classify packet => exact ordered_uses _
  | clientPnPAddNetAddress allocated => exact ordered_uses _
  | clientPnPDelNetAddress => exact ordered_uses _
  | worker worker used => exact ordered_uses _

end Closed

/--
Whenever the callbacks, devices and callouts of a start-up call, no list is used before its time just if
every call is timely.
-/
theorem run_timely_iff (platform : Platform) {es : List Event}
    (hes : Run.Along (step platform) Allowed (initState platform) es)
    : SoundThroughout platform es ↔
      Run.Along (step platform) (Met (Timely platform)) (initState platform) es := by
  apply soundThroughout_iff driverEntry_covered driverEntry_ordered
  . intro known c hclosed hopens
    exact timely_iff_covered hclosed hopens
  . intro known c hclosed hopens hcovered
    exact ordered_path hclosed hopens hcovered
  . exact hes

/--
The whole of the NT start-up, then a client, a packet for it and a connection to another host.
-/
def startedRun : List Event :=
  List.replicate 23 .start ++
    [.call 0 (.fwRegisterRequestCallback true), .goOn 0, .goOn 0,
      .call 1 (.requestCallback ⟨true, true, true, 0x0100a8c0, false⟩),
      .call 2 (.tdiSend .tcp .connect ⟨false, false, 4, 0x0200a8c0⟩ [.freeRequestList, .pendingRequestList]),
      .goOn 1, .goOn 2, .goOn 1, .goOn 2, .goOn 1, .goOn 2]

theorem startedRun_sound : SoundThroughout .nt startedRun :=
  (run_timely_iff .nt (by decide)).mpr (by decide)

/--
On NT, a packet right behind the registration of the callbacks.
-/
def earlyPacketRun : List Event :=
  [.start, .call 0 (.requestCallback ⟨true, true, false, 0, false⟩), .goOn 0]

/--
On NT, a process opens an address and connects while the other devices are still being attached.
-/
def earlyConnectRun : List Event :=
  List.replicate 17 .start ++
    [.call 0 (.tdi .tcp .openAddress [.freeAddrList, .openAddrList]), .goOn 0, .goOn 0,
      .call 0 (.tdiSend .tcp .connect ⟨false, false, 4, 0x0200a8c0⟩ []), .goOn 0, .goOn 0, .goOn 0]

/--
On Vista, a packet to the own host behind the registration of the callouts.
-/
def earlyClassifyRun : List Event :=
  List.replicate 9 .start ++
    [.call 0 (.outboundTransportV4Classify ⟨false, false, 0x0100007f, false, true⟩), .goOn 0, .goOn 0]

theorem not_sound_earlyRuns
    : (Run.Along (step .nt) Allowed (initState .nt) earlyPacketRun ∧
        ¬Run.Along (step .nt) Sound (initState .nt) earlyPacketRun) ∧
      (Run.Along (step .nt) Allowed (initState .nt) earlyConnectRun ∧
        ¬Run.Along (step .nt) Sound (initState .nt) earlyConnectRun) ∧
      (Run.Along (step (.vista true)) Allowed (initState (.vista true)) earlyClassifyRun ∧
        ¬Run.Along (step (.vista true)) Sound (initState (.vista true)) earlyClassifyRun) := by
  decide

end Ansfw.DriverEntry
