import FleetosAgent.Lib.FinMap
import FleetosAgent.Lib.MirrorSync
import FleetosAgent.Lib.Run
import FleetosAgent.Abi
import FleetosAgent.Policy.Sync
import FleetosAgent.Theorems.PolicySync
import FleetosAgent.Routes.Table
import FleetosAgent.Theorems.RouteSync
import FleetosAgent.Theorems.Reconcile
import FleetosAgent.Workloads.ProbeLoop
import FleetosAgent.Theorems.RulingD
import FleetosAgent.Lib.Traced
import FleetosAgent.Workloads.IpAllocator
import FleetosAgent.Identity.Degraded
import FleetosAgent.Workloads.Runtime
import FleetosAgent.Workloads.Manager
import FleetosAgent.Theorems.ManagerSteps
import FleetosAgent.Theorems.Exclusivity
import FleetosAgent.Theorems.MapKeys
import FleetosAgent.Theorems.Ledger
import FleetosAgent.Theorems.Healing
import FleetosAgent.Theorems.RouteKeys
import FleetosAgent.Theorems.RouteWatch
import FleetosAgent.Theorems.GateOrder
import FleetosAgent.Client.Retry
import FleetosAgent.Client.Watch
import FleetosAgent.WatchLoops
import FleetosAgent.Lib.Cursor
import FleetosAgent.Theorems.WatchFeed
import FleetosAgent.Ebpf.NetGuard
import FleetosAgent.Theorems.BootGate
import FleetosAgent.Identity.Sequences
import FleetosAgent.Secret.Deliver
import FleetosAgent.Theorems.Sequences
import FleetosAgent.Theorems.AntiReplay
import FleetosAgent.VsockAttest.ConfigPush
import FleetosAgent.VsockAttest.Handshake
import FleetosAgent.Theorems.Handshake
import FleetosAgent.Theorems.Delivery
import FleetosAgent.Lib.Checked
import FleetosAgent.Workloads.IpAllocatorU32
import FleetosAgent.Theorems.IpAllocator
import FleetosAgent.Theorems.FixedPoint
import FleetosAgent.Observability.PodEvents
import FleetosAgent.Theorems.PodEvents
import FleetosAgent.Theorems.KeyScope
import FleetosAgent.Theorems.HostSections
import FleetosAgent.Theorems.ReplicaIdentity
import FleetosAgent.Theorems.KeyHosting
import FleetosAgent.Client.Channel
import FleetosAgent.Theorems.LockOrder
import FleetosAgent.Identity.Keystore
import FleetosAgent.Theorems.Keystore
import FleetosAgent.Lib.Paths
import FleetosAgent.Theorems.EmptyDir
import FleetosAgent.Lib.Streak
import FleetosAgent.Theorems.Probes
import FleetosAgent.Theorems.ProbeLoop
import FleetosAgent.Theorems.ScheduleWatch
import FleetosAgent.Ebpf.Counters
import FleetosAgent.Identity.Svid
import FleetosAgent.Theorems.Counters
import FleetosAgent.Theorems.Svid
import FleetosAgent.Theorems.PairLedger
import FleetosAgent.Client.Unary
import FleetosAgent.Theorems.Unary
import FleetosAgent.Theorems.Backoff
import FleetosAgent.Client.Rotation
import FleetosAgent.Theorems.Generations
import FleetosAgent.Theorems.BootArtifacts
import FleetosAgent.Routes.Hosts
import FleetosAgent.Theorems.HostsView
import FleetosAgent.Theorems.SecretFiles
import FleetosAgent.Lib.Base64
import FleetosAgent.Lib.Pem
import FleetosAgent.Client.Channels
import FleetosAgent.Theorems.Pem
import FleetosAgent.Join
import FleetosAgent.Theorems.JoinSteps
import FleetosAgent.Theorems.Join
import FleetosAgent.Theorems.JoinCalls
import FleetosAgent.Theorems.JoinRecovery
import FleetosAgent.Theorems.GuestConfig
import FleetosAgent.Lib.FaultyTable
import FleetosAgent.Policy.Capacity
import FleetosAgent.Theorems.PolicyLoss
import FleetosAgent.Theorems.PolicyCapacity
import FleetosAgent.Lib.Remote
import FleetosAgent.Workloads.Netns
import FleetosAgent.Workloads.Containerd
import FleetosAgent.Workloads.ContainerNode
import FleetosAgent.Theorems.Netns
import FleetosAgent.Theorems.Containerd
import FleetosAgent.Theorems.ContainerSteps
import FleetosAgent.Theorems.ContainerNode
import FleetosAgent.Theorems.ClientCache
import FleetosAgent.Ebpf.PossibleCpus
import FleetosAgent.Theorems.PossibleCpus
