import FleetosAgent.Identity.Sequences
import FleetosAgent.Lib.OsPath
import FleetosAgent.Lib.Remote

/-! # Container network namespaces

`workloads/netns.rs`: the agent runs `ip` to make a namespace for each container, with a veth pair between it and the host.
What `ip` does is a parameter. -/

namespace FleetosAgent.Workloads.Netns
open Lib Traced Identity

/-- Directory where iproute2 places netns files. -/
def NETNS_DIR : String := "/run/netns"

/-- Name of the container-side interface inside the workload netns. -/
def CONTAINER_IFACE : String := "eth0"

/-- Host-side veth prefix (kept short for IFNAMSIZ). -/
def HOST_VETH_PREFIX : String := "fveth"

/-- Netns path for a pod (matches iproute2 convention). -/
def netnsPath (podId : String) : OsPath := (OsPath.ofString NETNS_DIR).join podId

def fnv1a (s : String) : UInt64 :=
  (utf8 s).foldl (fun h b => (h ^^^ b.toUInt64) * 0x100000001b3) 0xcbf29ce484222325

/-- `{:x}`. -/
def lowerHex (n : UInt64) : String := .ofList (Nat.toDigits 16 n.toNat)

/-- The whole characters among the first `n` bytes. -/
def cutChars : Nat → List Char → List Char
  | _, [] => []
  | n, c :: rest => if c.utf8Size ≤ n then c :: cutChars (n - c.utf8Size) rest else []

/-- `&s[..n]`, for an `n` that is not inside a character. -/
def cutAt (s : String) (n : Nat) : String := .ofList (cutChars n s.toList)

/-- What `host_veth_name` cuts to size. -/
def vethSuffix (podId : String) : String :=
  if podId.utf8ByteSize > 15 - HOST_VETH_PREFIX.utf8ByteSize then lowerHex (fnv1a podId) else podId

/-- Host-side veth name for a pod. Must fit IFNAMSIZ (15 usable chars). -/
def hostVethName (podId : String) : String :=
  let max := 15 - HOST_VETH_PREFIX.utf8ByteSize
  HOST_VETH_PREFIX ++ cutAt (vethSuffix podId) (min (vethSuffix podId).utf8ByteSize max)

/-! ### The commands -/

inductive IpCommand where
  | netnsAdd (name : String)
  | netnsDel (name : String)
  | linkAddVeth (name peer : String)
  | addrAdd (ip : UInt32) (dev : String)
  | linkSetUp (dev : String)
  | linkSetNetns (dev name : String)
  | routeAddDefault (gateway : UInt32)
  deriving DecidableEq

def IpCommand.args : IpCommand → List String
  | netnsAdd name => ["netns", "add", name]
  | netnsDel name => ["netns", "del", name]
  | linkAddVeth name peer => ["link", "add", name, "type", "veth", "peer", "name", peer]
  | addrAdd ip dev => ["addr", "add", dottedQuad (toBeBytes ip) ++ "/30", "dev", dev]
  | linkSetUp dev => ["link", "set", dev, "up"]
  | linkSetNetns dev name => ["link", "set", dev, "netns", name]
  | routeAddDefault gateway => ["route", "add", "default", "via", dottedQuad (toBeBytes gateway)]

/-- A run of `ip` in the host's namespace, or of `ip netns exec <ns> ip`. -/
structure IpCall where
  within : Option String
  command : IpCommand
  deriving DecidableEq

def IpCall.args (call : IpCall) : List String :=
  match call.within with
  | none => call.command.args
  | some ns => ["netns", "exec", ns, "ip"] ++ call.command.args

/-- How a run of `ip` fails: it does not start, it cannot be waited for, or it exits with a status and a text. -/
inductive IpFailure where
  | spawn (e : String)
  | wait (e : String)
  | exit (status stderr : String)

/-- The errors of `run_cmd`. -/
def IpCall.error (call : IpCall) : IpFailure → AgentError
  | .spawn e => .workload ("spawn ip " ++ " ".intercalate call.args ++ ": " ++ e)
  | .wait e => .workload ("wait ip " ++ " ".intercalate call.args ++ ": " ++ e)
  | .exit status stderr =>
    .workload ("ip " ++ " ".intercalate call.args ++ " failed (status=" ++ status ++ "): " ++ stderr)

/-- `ip`, and what its runs read and change. -/
structure IpTool where
  State : Type
  /-- One run. Also a run that fails may have changed something. -/
  run : State → IpCall → Except IpFailure Unit × State
  /-- `Path::exists`. -/
  pathExists : State → OsPath → Bool

/-! ### The agent's side -/

abbrev NetM (ip : IpTool) := Traced ip.State AgentError

section Agent
variable {ip : IpTool}

def runCmd (call : IpCall) : NetM ip Unit := invoke fun s => ((ip.run s call).1.mapError call.error, (ip.run s call).2)

def runIp (command : IpCommand) : NetM ip Unit := runCmd ⟨none, command⟩

def runIpIn (ns : String) (command : IpCommand) : NetM ip Unit := runCmd ⟨some ns, command⟩

/-- Create a new network namespace via `ip netns add`. -/
def createNetns (podId : String) : NetM ip OsPath := do
  runIp (.netnsAdd podId)
  return netnsPath podId

/-- Destroy a pod's netns via `ip netns del`. Best-effort. -/
def destroyNetns (podId : String) : NetM ip Unit := do
  let s ← get
  if ip.pathExists s (netnsPath podId) then do
    let _ ← attempt (runIp (.netnsDel podId))
    pure ()
  else pure ()

/-- Configure the netns: veth pair, gateway/container IPs, default route. -/
def configureNetns (podId : String) (containerIp gatewayIp : UInt32) : NetM ip Unit := do
  let hveth := hostVethName podId
  runIp (.linkAddVeth hveth CONTAINER_IFACE)
  runIp (.addrAdd gatewayIp hveth)
  runIp (.linkSetUp hveth)
  runIp (.linkSetNetns CONTAINER_IFACE podId)
  runIpIn podId (.addrAdd containerIp CONTAINER_IFACE)
  runIpIn podId (.linkSetUp CONTAINER_IFACE)
  runIpIn podId (.routeAddDefault gatewayIp)

end Agent

end FleetosAgent.Workloads.Netns
