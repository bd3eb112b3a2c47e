import Ndisrd.Lib.Logged
import Ndisrd.Lib.Run
import Ndisrd.Lib.Buffer
import Ndisrd.Lib.Chain
import Ndisrd.Shared.Basic
import Ndisrd.Ansfltr.Callbacks
import Ndisrd.Lib.Memory
import Ndisrd.Ansfltr.Receive.Impl
import Ndisrd.Ansfltr.Receive.Lemmas
import Ndisrd.Lib.Holders
import Ndisrd.Ansfltr.Packets.Impl
import Ndisrd.Ansfltr.Packets.Lemmas
import Ndisrd.Ansfw.Request
import Ndisrd.Ansfw.TcpIp.Impl
import Ndisrd.Ansfw.TcpIp.Lemmas
import Ndisrd.Ansfw.TcpIp.Bounds
import Ndisrd.Ansfw.TcpIp.Fragment
import Ndisrd.Ansfw.Reassembly.Impl
import Ndisrd.Ansfw.Reassembly.Lemmas
import Ndisrd.Ansfw.Reassembly.Bounds
import Ndisrd.Ansfw.Reassembly.Ledger
import Ndisrd.Ansfw.Reassembly.Coverage
import Ndisrd.Ansfw.Reassembly.Holes
import Ndisrd.Ansfw.Reassembly.Delivery
import Ndisrd.Ansfw.Reassembly.Queue
import Ndisrd.Ansfw.Reassembly.Verdict
import Ndisrd.Ansfw.Callbacks.Impl
import Ndisrd.Ansfw.Callbacks.Approval
import Ndisrd.Ansfw.Callbacks.Deferral
import Ndisrd.Ansfw.Lifetime.Impl
import Ndisrd.Ansfw.Lifetime.Lemmas
import Ndisrd.Ansfw.Lifetime.Datagrams
import Ndisrd.Ansfw.Firewall.Impl
import Ndisrd.Ansfw.Firewall.Life
import Ndisrd.Ansfw.Firewall.Lemmas
import Ndisrd.Ansfw.Firewall.Steps
import Ndisrd.Ansfw.Firewall.Pending
import Ndisrd.Ansfw.Firewall.Quiet
import Ndisrd.Ansfw.Firewall.Progress
import Ndisrd.Ansfw.Firewall.Runs
import Ndisrd.Lib.Lock
import Ndisrd.Ansfw.Locks.Impl
import Ndisrd.Ansfw.Locks.Deadlock
import Ndisrd.Lib.Passes
import Ndisrd.Ansfw.Connections.Impl
import Ndisrd.Ansfw.Connections.Lemmas
import Ndisrd.Ansfw.Connections.Attribution
import Ndisrd.Ansfw.Connections.Flows
import Ndisrd.Ansfw.Handlers.Impl
import Ndisrd.Ansfw.Handlers.Bypass
import Ndisrd.Lib.ListEntry
import Ndisrd.Lib.Custody
import Ndisrd.Ansfw.OpenConn.Impl
import Ndisrd.Ansfw.OpenConn.Lists
import Ndisrd.Ansfw.OpenConn.Steps
import Ndisrd.Ansfw.OpenConn.Parked
import Ndisrd.Ansfw.OpenConn.Completed
import Ndisrd.Ansfw.OpenConn.Graph
import Ndisrd.Ansfw.OpenConn.Associations
import Ndisrd.Ansfw.OpenConn.Links
import Ndisrd.Ansfw.OpenConn.Dangling
import Ndisrd.Ansfw.Reassembly.Ttl
import Ndisrd.Lib.Restart
import Ndisrd.Ansfw.Reassembly.WorkBuffers
import Ndisrd.Lib.Projection
import Ndisrd.Ansfw.Reassembly.Separation
import Ndisrd.Ansfw.Connections.PacketPid
import Ndisrd.Ansfw.TcpIp.LaterFragment
import Ndisrd.Ansfw.Workers.Impl
import Ndisrd.Ansfw.Workers.Wakeup
import Ndisrd.Ansfltr.Requests.FrameSize
import Ndisrd.Ansfltr.Pause.Stopped
import Ndisrd.Ansfw.FilterLink.Balance
import Ndisrd.Lib.Onward
import Ndisrd.Lib.Startup
import Ndisrd.Ansfw.DriverEntry.Impl
import Ndisrd.Ansfw.DriverEntry.Order
import Ndisrd.Lib.Acquisition
import Ndisrd.Ansfw.Unwinding.Impl
import Ndisrd.Ansfw.Unwinding.Lemmas
import Ndisrd.Ansfw.Unwinding.Failure
import Ndisrd.Ansfw.Unwinding.Script
import Ndisrd.Ansfw.OpenConn.LocalInfo
import Ndisrd.Ansfw.Connections.Conversation
import Ndisrd.Ansfw.OpenConn.IpDispatch
import Ndisrd.Ansfltr.SendPacket
import Ndisrd.Ansfw.Callbacks.HandOver
import Ndisrd.Ansfltr.NetBuffers.Impl
import Ndisrd.Ansfltr.NetBuffers.Batch
import Ndisrd.Lib.Loop
import Ndisrd.Ansfltr.Receive.ReadOnPacket
import Ndisrd.Ansfw.FindEa.Impl
import Ndisrd.Ansfw.FindEa.Stride
import Ndisrd.Ansfw.IpMonitor.Impl
import Ndisrd.Ansfw.IpMonitor.Blocks
import Ndisrd.Lib.OnesComplement
import Ndisrd.Ansfw.Reassembly.Checksum
import Ndisrd.Ansfw.Reassembly.TotalLength
import Ndisrd.Lib.Census
import Ndisrd.Ansfltr.ControlDevice.Impl
import Ndisrd.Ansfltr.ControlDevice.Safety
import Ndisrd.Ansfltr.Requests.Threads
import Ndisrd.Ansfltr.Requests.Handover
import Ndisrd.Ansfltr.MediaStatus.Impl
import Ndisrd.Ansfltr.MediaStatus.View
import Ndisrd.Lib.SinglyLinked
import Ndisrd.Ansfltr.Adapters.Impl
import Ndisrd.Ansfltr.Adapters.LifeCycle
import Ndisrd.Ansfltr.Adapters.Order
import Ndisrd.Lib.Pool
import Ndisrd.Ansfltr.Descriptors.Impl
import Ndisrd.Ansfltr.Descriptors.Ledger
import Ndisrd.Ansfltr.Descriptors.Transfers
import Ndisrd.Lib.ListLoops
import Ndisrd.Ansfltr.Registry.Impl
import Ndisrd.Lib.Simulation
import Ndisrd.Ansfltr.Registry.Lists
import Ndisrd.Ansfltr.Registry.Unload
import Ndisrd.Ansfltr.Completions.Impl
import Ndisrd.Ansfltr.Completions.GivenBack
import Ndisrd.Ansfltr.DataPath.Impl
import Ndisrd.Ansfltr.DataPath.Frames
import Ndisrd.Ansfltr.DataPath.Delivery
import Ndisrd.Ansfltr.FilterDriver.Impl
import Ndisrd.Ansfltr.FilterDriver.LifeTime
import Ndisrd.Ansfltr.FilterDriver.Order
import Ndisrd.Lib.Undefined
import Ndisrd.Ansfw.Reassembly.Overrun
