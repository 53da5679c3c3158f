import FleetosAgent.Workloads.Runtime

/-! # Host-measured boot

`vsock_attest/measure.rs`: the BLAKE3 hashes of the boot artifacts, and the hash of the three together. -/

namespace FleetosAgent.VsockAttest
open Lib Workloads

/-- The files of the host and the hash function. -/
structure MeasureApi where
  readFile : OsPath → Except String (List UInt8)
  blake3 : List UInt8 → Bytes 32

section
variable (api : MeasureApi)

def hashFile (path : OsPath) : Except AgentError (Bytes 32) :=
  match api.readFile path with
  | .error e => .error (.internal s!"failed to read boot artifact {path.toStringLossy}: {e}")
  | .ok data => .ok (api.blake3 data)

/-- All three artifacts must exist and be readable. -/
def computeBootMeasurement (kernelPath rootfsPath guestInitPath : OsPath) : Except AgentError BootMeasurement := do
  let kernelHash ← hashFile api kernelPath
  let rootfsHash ← hashFile api rootfsPath
  let guestInitHash ← hashFile api guestInitPath
  let combinedHash := api.blake3 (kernelHash.toList ++ rootfsHash.toList ++ guestInitHash.toList)
  return ⟨kernelHash, rootfsHash, guestInitHash, combinedHash⟩

end

end FleetosAgent.VsockAttest
