import Mathlib.Data.Nat.Basic
import Mathlib.Tactic.Common

/-! # Fixed-width data shared with the kernel

The structures of `fleetos_ebpf_common` as the agent lays them out in map keys and values, the byte order of
IPv4 addresses on a little-endian host, and the agent's errors. -/

namespace FleetosAgent

/-- `[u8; n]`. -/
abbrev Bytes (n : Nat) := Vector UInt8 n

/-- `AgentError`, as far as the modelled functions return it. -/
inductive AgentError where
  | storage (text : String)
  | serialization (text : String)
  | rpc (text : String)
  | attestation (text : String)
  | identity (text : String)
  | ebpf (text : String)
  | secret (text : String)
  | policy (text : String)
  | workload (text : String)
  | io (text : String)
  | internal (text : String)
  deriving DecidableEq, Repr

/-- `Display` of `AgentError`. -/
def AgentError.display : AgentError → String
  | storage text => s!"storage error: {text}"
  | serialization text => s!"serialization error: {text}"
  | rpc text => s!"RPC failed: {text}"
  | attestation text => s!"attestation error: {text}"
  | identity text => s!"identity error: {text}"
  | ebpf text => s!"eBPF error: {text}"
  | secret text => s!"secret error: {text}"
  | policy text => s!"policy error: {text}"
  | workload text => s!"workload error: {text}"
  | io text => s!"IO error: {text}"
  | internal text => s!"internal error: {text}"

/-- What a failed `bpf_map_delete_elem` on an absent key reads like. -/
def absentKey : String := "`bpf_map_delete_elem` failed"

structure IdentityFingerprint where
  bytes : Bytes 16
  deriving DecidableEq, Repr

/-! ### Policy entries -/

structure HostOrderPort where
  val : UInt16
  deriving DecidableEq, Repr

structure EbpfPolicyKey where
  srcFingerprint : IdentityFingerprint
  dstFingerprint : IdentityFingerprint
  protocol : UInt8
  pad : Bytes 3
  dstPort : HostOrderPort
  pad2 : Bytes 2
  deriving DecidableEq, Repr

structure EbpfPolicyWildcardKey where
  srcFingerprint : IdentityFingerprint
  dstFingerprint : IdentityFingerprint
  deriving DecidableEq, Repr

structure EbpfPolicyValue where
  sagVersion : UInt64
  decision : UInt8
  pad : Bytes 7
  deriving DecidableEq, Repr

/-- The bytes of a `u16` in memory. -/
def leBytes16 (n : UInt16) : Bytes 2 := #v[n.toUInt8, (n >>> 8).toUInt8]

def leBytes64 (n : UInt64) : Bytes 8 := Vector.ofFn fun i => (n >>> (8 * i.val.toUInt64)).toUInt8

def exactKeyBytes (key : EbpfPolicyKey) : Bytes 40 :=
  key.srcFingerprint.bytes ++ key.dstFingerprint.bytes ++ #v[key.protocol] ++ key.pad ++ leBytes16 key.dstPort.val ++
    key.pad2

def wildcardKeyBytes (key : EbpfPolicyWildcardKey) : Bytes 32 := key.srcFingerprint.bytes ++ key.dstFingerprint.bytes

/-- `transmute` of an `EbpfPolicyValue`. -/
def policyValueBytes (value : EbpfPolicyValue) : Bytes 16 := leBytes64 value.sagVersion ++ #v[value.decision] ++ value.pad

/-- The decision the kernel reads out of a stored policy value. -/
def storedDecision (bytes : Bytes 16) : UInt8 := bytes[8]

@[simp] theorem storedDecision_policyValueBytes (value : EbpfPolicyValue) :
    storedDecision (policyValueBytes value) = value.decision := by
  have before : (8 : Nat) < 8 + 1 := by omega
  refine Eq.trans (b := (leBytes64 value.sagVersion ++ #v[value.decision])[8]) (Vector.getElem_append_left before) ?_
  rw [Vector.getElem_append_right (by omega) (by omega)]
  rfl

/-! ### Routes -/

structure DummyIpRouteValue where
  dstFp : IdentityFingerprint
  targetAgentFp : IdentityFingerprint
  sagVersion : UInt64
  deriving DecidableEq, Repr

/-- `bytemuck::bytes_of` of a `DummyIpRouteValue`. -/
def routeValueBytes (value : DummyIpRouteValue) : Bytes 40 :=
  value.dstFp.bytes ++ value.targetAgentFp.bytes ++ leBytes64 value.sagVersion

/-- The destination fingerprint the kernel reads out of a stored route. -/
def storedDstFp (bytes : Bytes 40) : IdentityFingerprint := ⟨Vector.ofFn fun i : Fin 16 => bytes[i.val]⟩

def storedTargetAgentFp (bytes : Bytes 40) : IdentityFingerprint := ⟨Vector.ofFn fun i : Fin 16 => bytes[16 + i.val]⟩

@[simp] theorem storedDstFp_routeValueBytes (value : DummyIpRouteValue) :
    storedDstFp (routeValueBytes value) = value.dstFp := by
  obtain ⟨⟨dst⟩, target, version⟩ := value
  simp only [storedDstFp, routeValueBytes, IdentityFingerprint.mk.injEq]
  refine Vector.ext fun i hi => ?_
  have before : i < 16 + 16 := by omega
  rw [Vector.getElem_ofFn]
  refine Eq.trans (b := (dst ++ target.bytes)[i]) (Vector.getElem_append_left before) ?_
  exact Vector.getElem_append_left hi

@[simp] theorem storedTargetAgentFp_routeValueBytes (value : DummyIpRouteValue) :
    storedTargetAgentFp (routeValueBytes value) = value.targetAgentFp := by
  obtain ⟨dst, ⟨target⟩, version⟩ := value
  simp only [storedTargetAgentFp, routeValueBytes, IdentityFingerprint.mk.injEq]
  refine Vector.ext fun i hi => ?_
  have before : 16 + i < 16 + 16 := by omega
  rw [Vector.getElem_ofFn]
  refine Eq.trans (b := (dst.bytes ++ target)[16 + i]) (Vector.getElem_append_left before) ?_
  rw [Vector.getElem_append_right before (by omega)]
  simp

/-! ### IPv4 addresses on a little-endian host -/

abbrev Octets := Bytes 4

/-- `u32::from_be_bytes`: the canonical numeric value of an address. -/
def fromBeBytes (o : Octets) : UInt32 :=
  UInt32.ofNat (((o[0].toNat * 256 + o[1].toNat) * 256 + o[2].toNat) * 256 + o[3].toNat)

/-- `u32::to_be_bytes`. -/
def toBeBytes (n : UInt32) : Octets :=
  #v[UInt8.ofNat (n.toNat / 16777216), UInt8.ofNat (n.toNat / 65536), UInt8.ofNat (n.toNat / 256), UInt8.ofNat n.toNat]

/-- `Ipv4Addr::to_string`. -/
def dottedQuad (octets : Octets) : String := s!"{octets[0]}.{octets[1]}.{octets[2]}.{octets[3]}"

/-- `u32::from_ne_bytes` where the host is little-endian. -/
def fromNeBytes (o : Octets) : UInt32 := fromBeBytes o.reverse

/-- `u32::from_be` where the host is little-endian: the bytes swap places. -/
def fromBe (n : UInt32) : UInt32 := fromNeBytes (toBeBytes n)

/-- `HostOrderIpv4`: the key type of every map that is keyed by an address. -/
structure HostOrderIpv4 where
  val : UInt32
  deriving DecidableEq, Repr

/-- `HostOrderIpv4::from_network`. -/
def HostOrderIpv4.fromNetwork (n : UInt32) : HostOrderIpv4 := ⟨fromBe n⟩

/-- The key the kernel looks up for an address: it loads the octets as one word and converts that word. -/
def lookupKey (o : Octets) : HostOrderIpv4 := HostOrderIpv4.fromNetwork (fromNeBytes o)

theorem fromBeBytes_toNat (o : Octets) :
    (fromBeBytes o).toNat = ((o[0].toNat * 256 + o[1].toNat) * 256 + o[2].toNat) * 256 + o[3].toNat := by
  have h0 := o[0].toNat_lt
  have h1 := o[1].toNat_lt
  have h2 := o[2].toNat_lt
  have h3 := o[3].toNat_lt
  rw [fromBeBytes, UInt32.toNat_ofNat']
  exact Nat.mod_eq_of_lt (by omega)

@[simp] theorem toBeBytes_fromBeBytes (o : Octets) : toBeBytes (fromBeBytes o) = o := by
  have h0 := o[0].toNat_lt
  have h1 := o[1].toNat_lt
  have h2 := o[2].toNat_lt
  have h3 := o[3].toNat_lt
  rw [toBeBytes, fromBeBytes_toNat]
  refine Vector.ext fun i hi => ?_
  -- The four octets are the four digits to the base 256.
  obtain rfl | rfl | rfl | rfl : i = 0 ∨ i = 1 ∨ i = 2 ∨ i = 3 := by omega
  all_goals
    refine UInt8.toNat_inj.mp ?_
    simp only [Vector.getElem_mk, List.getElem_toArray, List.getElem_cons_zero, List.getElem_cons_succ,
      UInt8.toNat_ofNat']
    omega

theorem fromBeBytes_injective {o o' : Octets} (h : fromBeBytes o = fromBeBytes o') : o = o' := by
  rw [← toBeBytes_fromBeBytes o, h, toBeBytes_fromBeBytes]

@[simp] theorem fromBeBytes_toBeBytes (n : UInt32) : fromBeBytes (toBeBytes n) = n := by
  refine UInt32.toNat_inj.mp ?_
  have hn := n.toNat_lt
  rw [fromBeBytes_toNat]
  simp only [toBeBytes, Vector.getElem_mk, List.getElem_toArray, List.getElem_cons_zero, List.getElem_cons_succ,
    UInt8.toNat_ofNat']
  omega

@[simp] theorem fromBe_fromNeBytes (o : Octets) : fromBe (fromNeBytes o) = fromBeBytes o := by
  simp [fromBe, fromNeBytes]

@[simp] theorem fromBe_fromBeBytes (o : Octets) : fromBe (fromBeBytes o) = fromNeBytes o := by
  simp [fromBe]

@[simp] theorem fromBe_fromBe (n : UInt32) : fromBe (fromBe n) = n := by
  show fromBe (fromNeBytes (toBeBytes n)) = n
  rw [fromBe_fromNeBytes, fromBeBytes_toBeBytes]

theorem fromBe_injective : Function.Injective fromBe := Function.LeftInverse.injective fromBe_fromBe

theorem lookupKey_val (o : Octets) : (lookupKey o).val = fromBeBytes o := by
  simp [lookupKey, HostOrderIpv4.fromNetwork]

/-- Converting the canonical value once more gives the kernel's key only for addresses that read the same in
    both directions. -/
theorem fromNetwork_fromBeBytes_eq_lookupKey_iff (o : Octets) :
    HostOrderIpv4.fromNetwork (fromBeBytes o) = lookupKey o ↔ o.reverse = o := by
  rw [HostOrderIpv4.fromNetwork, lookupKey, HostOrderIpv4.fromNetwork, HostOrderIpv4.mk.injEq, fromBe_fromBeBytes,
    fromBe_fromNeBytes]
  exact ⟨fromBeBytes_injective, congrArg fromBeBytes⟩

end FleetosAgent
