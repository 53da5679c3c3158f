import FleetosAgent.Abi
import FleetosAgent.Lib.FinMap
import FleetosAgent.Lib.RangeText
import Mathlib.Tactic.IntervalCases

/-! # Node-local workload IPs

`NodeIpAllocator` of `workloads/mod.rs`. Offsets are natural numbers: `base + host_count` fits in 32 bits, and every offset
in use lies below the broadcast address, so none of the additions of the source overflows. -/

namespace FleetosAgent.Workloads
open Lib

structure NodeIpAllocator where
  base : Nat
  hostCount : Nat
  nextOffset : Nat
  free : Finset Nat
  /-- offset → pod id, or pod id followed by ":gw" for a gateway -/
  allocated : FinMap Nat String
  fits : base + hostCount ≤ 2 ^ 32
  bounded : ∀ o, o ∈ free ∨ o ∈ allocated.keys → o < nextOffset ∧ o + 1 < hostCount
  disjoint : ∀ o ∈ free, o ∉ allocated.keys

/-- The parsers of the standard library that `parse_cidr` calls. -/
structure StdParsers where
  ipv4Addr : String → Except String Octets
  u32 : String → Except String UInt32

def parseCidr (std : StdParsers) (cidr : String) : Except AgentError (UInt32 × UInt32) := do
  let (addr, bits) ← match RangeText.splitOnce '/' cidr.toList with
    | some (addr, bits) => .ok (String.ofList addr, String.ofList bits)
    | none => .error (.workload "CIDR missing /prefix")
  let ip ← (std.ipv4Addr addr).mapError fun e => .workload s!"bad CIDR address: {e}"
  let bits ← (std.u32 bits).mapError fun e => .workload s!"bad CIDR prefix: {e}"
  if bits > 32 then .error (.workload "CIDR prefix > 32")
  return (fromBeBytes ip, bits)

namespace NodeIpAllocator

theorem base_fits (ip bits : UInt32) (h : 8 ≤ bits ∧ bits ≤ 28) :
    (ip &&& ((0xFFFFFFFF : UInt32) <<< (32 - bits))).toNat + ((1 : UInt32) <<< (32 - bits)).toNat ≤ 2 ^ 32 := by
  have masked : (ip &&& ((0xFFFFFFFF : UInt32) <<< (32 - bits))).toNat ≤
      ((0xFFFFFFFF : UInt32) <<< (32 - bits)).toNat := by
    rw [UInt32.toNat_and]
    exact Nat.and_le_right
  have top : ((0xFFFFFFFF : UInt32) <<< (32 - bits)).toNat + ((1 : UInt32) <<< (32 - bits)).toNat = 2 ^ 32 := by
    obtain ⟨lo, hi⟩ := h
    rw [UInt32.le_iff_toNat_le] at lo hi
    obtain ⟨n, rfl⟩ : ∃ n, bits = UInt32.ofNat n := ⟨bits.toNat, UInt32.ofNat_toNat.symm⟩
    generalize hn : (UInt32.ofNat n).toNat = m at lo hi
    have small : UInt32.ofNat n = UInt32.ofNat m := by rw [← hn, UInt32.ofNat_toNat]
    rw [small]
    change 8 ≤ m at lo
    change m ≤ 28 at hi
    clear masked small hn
    interval_cases m <;> decide
  omega

theorem disjoint_empty : ∀ o ∈ (∅ : Finset Nat), o ∉ (∅ : FinMap Nat String).keys := by simp

/-- `NodeIpAllocator::new` after `parse_cidr`. -/
def ofBits (ip bits : UInt32) : Except AgentError NodeIpAllocator :=
  if h : 8 ≤ bits ∧ bits ≤ 28 then
    let mask : UInt32 := 0xFFFFFFFF <<< (32 - bits)
    if (ip &&& mask) >>> 28 = 0xF then
      .error (.workload "workload_ip_cidr overlaps the 240.0.0.0/4 dummy space")
    else .ok
      { base := (ip &&& mask).toNat
        hostCount := ((1 : UInt32) <<< (32 - bits)).toNat
        nextOffset := 1
        free := ∅
        allocated := ∅
        fits := base_fits ip bits h
        bounded := by simp
        disjoint := disjoint_empty }
  else .error (.workload s!"workload_ip_cidr prefix /{bits} outside 8..=28")

def new (std : StdParsers) (cidr : String) : Except AgentError NodeIpAllocator := do
  let (ip, bits) ← parseCidr std cidr
  ofBits ip bits

variable (a : NodeIpAllocator)

/-- The address at an offset, in canonical (big-endian numeric) form. -/
def addr (o : Nat) : UInt32 := UInt32.ofNat (a.base + o)

theorem addr_inj {o o' : Nat} (ho : o < a.hostCount) (ho' : o' < a.hostCount) : a.addr o = a.addr o' ↔ o = o' := by
  have fits := a.fits
  constructor
  · intro h
    have h' : (a.base + o) % 2 ^ 32 = (a.base + o') % 2 ^ 32 := by
      simpa only [addr, UInt32.toNat_ofNat'] using congrArg UInt32.toNat h
    rw [Nat.mod_eq_of_lt (by omega), Nat.mod_eq_of_lt (by omega)] at h'
    omega
  · rintro rfl
    rfl

def gatewayOwner (podId : String) : String := s!"{podId}:gw"

theorem gatewayOwner_injective : Function.Injective gatewayOwner := fun _ _ => (String.append_left_inj ":gw").mp

/-- `while o % 4 != 1 { o += 1 }`: the loop turns at most three times. -/
def nextBoundary : Nat → Nat → Nat
  | 0, o => o
  | fuel + 1, o => if o % 4 = 1 then o else nextBoundary fuel (o + 1)

theorem nextBoundary_spec (o : Nat) : nextBoundary 3 o % 4 = 1 ∧ o ≤ nextBoundary 3 o := by
  unfold nextBoundary nextBoundary nextBoundary nextBoundary
  split_ifs <;> omega

/-- The offset of a freed /30-aligned pair, the lowest first. -/
def reusable : Option Nat := (Enumeration.sorted.list a.free).find? fun o => o % 4 = 1 ∧ o + 1 ∈ a.free

theorem reusable_spec {a : NodeIpAllocator} {o : Nat} (h : a.reusable = some o) :
    o ∈ a.free ∧ o + 1 ∈ a.free ∧ o % 4 = 1 := by
  have hmem := List.mem_of_find?_eq_some h
  have hpred := List.find?_some h
  rw [decide_eq_true_eq] at hpred
  exact ⟨(Enumeration.mem_list _ _ _).mp hmem, hpred.2, hpred.1⟩

def takeFreed (podId : String) (o : Nat) (h : a.reusable = some o) : NodeIpAllocator where
  base := a.base
  hostCount := a.hostCount
  nextOffset := a.nextOffset
  free := (a.free.erase o).erase (o + 1)
  allocated := (a.allocated.insert o (gatewayOwner podId)).insert (o + 1) podId
  fits := a.fits
  bounded x hx := by
    obtain ⟨hfree, hnext, -⟩ := reusable_spec h
    refine a.bounded x ?_
    simp only [FinMap.keys_insert, Finset.mem_erase, Finset.mem_insert] at hx
    rcases hx with ⟨-, -, hx⟩ | rfl | rfl | hx
    · exact Or.inl hx
    · exact Or.inl hnext
    · exact Or.inl hfree
    · exact Or.inr hx
  disjoint x hx := by
    simp only [FinMap.keys_insert, Finset.mem_erase, Finset.mem_insert] at hx ⊢
    rintro (rfl | rfl | hk)
    · exact hx.1 rfl
    · exact hx.2.1 rfl
    · exact a.disjoint x hx.2.2 hk

def takeNext (podId : String) (h : nextBoundary 3 a.nextOffset + 1 < a.hostCount - 1) : NodeIpAllocator where
  base := a.base
  hostCount := a.hostCount
  nextOffset := nextBoundary 3 a.nextOffset + 4
  free := a.free
  allocated := (a.allocated.insert (nextBoundary 3 a.nextOffset) (gatewayOwner podId)).insert
    (nextBoundary 3 a.nextOffset + 1) podId
  fits := a.fits
  bounded x hx := by
    have ho := (nextBoundary_spec a.nextOffset).2
    simp only [FinMap.keys_insert, Finset.mem_insert] at hx
    rcases hx with hx | rfl | rfl | hx
    · have := a.bounded x (Or.inl hx)
      omega
    · omega
    · omega
    · have := a.bounded x (Or.inr hx)
      omega
  disjoint x hx := by
    have ho := (nextBoundary_spec a.nextOffset).2
    have hb := a.bounded x (Or.inl hx)
    simp only [FinMap.keys_insert, Finset.mem_insert]
    rintro (rfl | rfl | hk)
    · omega
    · omega
    · exact a.disjoint x hx hk

/-- Allocate a /30 point-to-point pair (gateway, workload): a freed pair if there is one, else the next one. -/
def allocateP2pPair (podId : String) : Except AgentError ((UInt32 × UInt32) × NodeIpAllocator) :=
  match h : a.reusable with
  | some o => .ok ((a.addr o, a.addr (o + 1)), a.takeFreed podId o h)
  | none =>
    let o := nextBoundary 3 a.nextOffset
    if h : o + 1 < a.hostCount - 1 then .ok ((a.addr o, a.addr (o + 1)), a.takeNext podId h)
    else .error (.workload "node workload IP space exhausted")

/-- Release a /30 point-to-point pair: every offset recorded for the pod or for its gateway is free again. -/
def releaseP2pPair (podId : String) : NodeIpAllocator where
  base := a.base
  hostCount := a.hostCount
  nextOffset := a.nextOffset
  free := a.free ∪ a.allocated.keys.filter fun o =>
    a.allocated.get o = some podId ∨ a.allocated.get o = some (gatewayOwner podId)
  allocated := a.allocated.retain fun _ owner => !(owner = podId ∨ owner = gatewayOwner podId)
  fits := a.fits
  bounded x hx := by
    refine a.bounded x ?_
    rcases hx with hx | hx
    · rcases Finset.mem_union.mp hx with hx | hx
      · exact Or.inl hx
      · exact Or.inr (Finset.mem_filter.mp hx).1
    · exact Or.inr (FinMap.keys_retain_subset _ _ hx)
  disjoint x hx := by
    intro hk
    obtain ⟨owner, howner⟩ := FinMap.mem_keys_iff.mp hk
    obtain ⟨hget, hkeep⟩ := FinMap.get_retain_eq_some.mp howner
    rcases Finset.mem_union.mp hx with hx | hx
    · exact a.disjoint x hx (FinMap.mem_keys_of_get hget)
    · have howned := (Finset.mem_filter.mp hx).2
      rw [hget, Option.some.injEq, Option.some.injEq] at howned
      simp [howned] at hkeep

/-! ### Single addresses -/

def takeFreedOne (podId : String) (o : Nat) (h : o ∈ a.free) : NodeIpAllocator where
  base := a.base
  hostCount := a.hostCount
  nextOffset := a.nextOffset
  free := a.free.erase o
  allocated := a.allocated.insert o podId
  fits := a.fits
  bounded x hx := by
    refine a.bounded x ?_
    simp only [FinMap.keys_insert, Finset.mem_erase, Finset.mem_insert] at hx
    rcases hx with ⟨-, hx⟩ | rfl | hx
    · exact Or.inl hx
    · exact Or.inl h
    · exact Or.inr hx
  disjoint x hx := by
    simp only [FinMap.keys_insert, Finset.mem_erase, Finset.mem_insert] at hx ⊢
    rintro (rfl | hk)
    · exact hx.1 rfl
    · exact a.disjoint x hx.2 hk

def takeNextOne (podId : String) (h : a.nextOffset < a.hostCount - 1) : NodeIpAllocator where
  base := a.base
  hostCount := a.hostCount
  nextOffset := a.nextOffset + 1
  free := a.free
  allocated := a.allocated.insert a.nextOffset podId
  fits := a.fits
  bounded x hx := by
    simp only [FinMap.keys_insert, Finset.mem_insert] at hx
    rcases hx with hx | rfl | hx
    · have := a.bounded x (Or.inl hx)
      omega
    · omega
    · have := a.bounded x (Or.inr hx)
      omega
  disjoint x hx := by
    have hb := a.bounded x (Or.inl hx)
    simp only [FinMap.keys_insert, Finset.mem_insert]
    rintro (rfl | hk)
    · omega
    · exact a.disjoint x hx hk

theorem head_mem_free {a : NodeIpAllocator} {order : Enumeration Nat} {o : Nat} (h : (order.list a.free).head? = some o) :
    o ∈ a.free :=
  (order.mem_list a.free o).mp (List.mem_of_mem_head? h)

/-- Allocate one address: a freed one, whichever the walk over the free set meets first, else the next one. -/
def allocate (order : Enumeration Nat) (podId : String) : Except AgentError (UInt32 × NodeIpAllocator) :=
  match h : (order.list a.free).head? with
  | some o => .ok (a.addr o, a.takeFreedOne podId o (head_mem_free h))
  | none =>
    if h : a.nextOffset < a.hostCount - 1 then .ok (a.addr a.nextOffset, a.takeNextOne podId h)
    else .error (.workload "node workload IP space exhausted")

/-- Release the addresses that are recorded for the pod itself. -/
def release (podId : String) : NodeIpAllocator where
  base := a.base
  hostCount := a.hostCount
  nextOffset := a.nextOffset
  free := a.free ∪ a.allocated.keys.filter fun o => a.allocated.get o = some podId
  allocated := a.allocated.retain fun _ owner => !(owner = podId)
  fits := a.fits
  bounded x hx := by
    refine a.bounded x ?_
    rcases hx with hx | hx
    · rcases Finset.mem_union.mp hx with hx | hx
      · exact Or.inl hx
      · exact Or.inr (Finset.mem_filter.mp hx).1
    · exact Or.inr (FinMap.keys_retain_subset _ _ hx)
  disjoint x hx := by
    intro hk
    obtain ⟨owner, howner⟩ := FinMap.mem_keys_iff.mp hk
    obtain ⟨hget, hkeep⟩ := FinMap.get_retain_eq_some.mp howner
    rcases Finset.mem_union.mp hx with hx | hx
    · exact a.disjoint x hx (FinMap.mem_keys_of_get hget)
    · have howned := (Finset.mem_filter.mp hx).2
      rw [hget, Option.some.injEq] at howned
      simp [howned] at hkeep

/-! ### What the two operations on pairs do to the allocated table -/

variable {a}

/-- An allocation takes a pair of offsets that were not allocated, the gateway first. -/
structure Took (a : NodeIpAllocator) (podId : String) (gw wl : UInt32) (a' : NodeIpAllocator) (o : Nat) : Prop where
  gateway_fresh : o ∉ a.allocated.keys
  workload_fresh : o + 1 ∉ a.allocated.keys
  aligned : o % 4 = 1
  below : o + 2 < a.hostCount
  gateway : gw = a.addr o
  workload : wl = a.addr (o + 1)
  base : a'.base = a.base
  hostCount : a'.hostCount = a.hostCount
  allocated : a'.allocated = (a.allocated.insert o (gatewayOwner podId)).insert (o + 1) podId

theorem Took.addr_eq {podId : String} {gw wl : UInt32} {a' : NodeIpAllocator} {o : Nat} (took : Took a podId gw wl a' o)
    (o' : Nat) : a'.addr o' = a.addr o' := by
  rw [addr, addr, took.base]

theorem Took.get_eq_some {podId owner : String} {gw wl : UInt32} {a' : NodeIpAllocator} {o o' : Nat}
    (took : Took a podId gw wl a' o) :
    a'.allocated.get o' = some owner ↔
      (o' = o + 1 ∧ podId = owner) ∨ (o' = o ∧ gatewayOwner podId = owner) ∨ a.allocated.get o' = some owner := by
  have workload : (a.allocated.insert o (gatewayOwner podId)).get (o + 1) = none := by
    rw [FinMap.get_insert_ne _ _ (by omega)]
    exact FinMap.notMem_keys.mp took.workload_fresh
  rw [took.allocated, FinMap.get_insert_eq_some workload,
    FinMap.get_insert_eq_some (FinMap.notMem_keys.mp took.gateway_fresh)]

/-- The workload address of a new pair is that of no allocated offset. -/
theorem Took.addr_ne {podId owner : String} {gw wl : UInt32} {a' : NodeIpAllocator} {o o' : Nat}
    (took : Took a podId gw wl a' o) (h : a.allocated.get o' = some owner) : a.addr o' ≠ wl := by
  have hkey := FinMap.mem_keys_of_get h
  have hbound := (a.bounded o' (Or.inr hkey)).2
  have hbelow := took.below
  rw [took.workload, Ne, a.addr_inj (by omega) (by omega)]
  exact fun heq => took.workload_fresh (heq ▸ hkey)

theorem allocateP2pPair_took {podId : String} {gw wl : UInt32} {a' : NodeIpAllocator}
    (h : a.allocateP2pPair podId = .ok ((gw, wl), a')) : ∃ o, Took a podId gw wl a' o := by
  unfold allocateP2pPair at h
  split at h
  · next o ho =>
    obtain ⟨hfree, hnext, haligned⟩ := reusable_spec ho
    cases h
    refine ⟨o, a.disjoint o hfree, a.disjoint _ hnext, haligned, ?_, rfl, rfl, rfl, rfl, rfl⟩
    exact (a.bounded (o + 1) (Or.inl hnext)).2
  · dsimp only at h
    split at h
    · next hroom =>
      obtain ⟨haligned, hle⟩ := nextBoundary_spec a.nextOffset
      cases h
      have fresh : ∀ x, a.nextOffset ≤ x → x ∉ a.allocated.keys := by
        intro x hx hk
        have := (a.bounded x (Or.inr hk)).1
        omega
      exact ⟨_, fresh _ hle, fresh _ (by omega), haligned, by omega, rfl, rfl, rfl, rfl, rfl⟩
    · cases h

theorem releaseP2pPair_get (podId : String) (o : Nat) (owner : String) :
    (a.releaseP2pPair podId).allocated.get o = some owner ↔
      a.allocated.get o = some owner ∧ owner ≠ podId ∧ owner ≠ gatewayOwner podId := by
  rw [releaseP2pPair, FinMap.get_retain_eq_some]
  simp

/-- Releasing a pair just taken, for a pod that had none, restores the table. -/
theorem Took.release_allocated {podId : String} {gw wl : UInt32} {a' : NodeIpAllocator} {o : Nat}
    (took : Took a podId gw wl a' o)
    (fresh : ∀ o owner, a.allocated.get o = some owner → owner ≠ podId ∧ owner ≠ gatewayOwner podId) :
    (a'.releaseP2pPair podId).allocated = a.allocated := by
  refine FinMap.ext fun x => Option.ext fun owner => ?_
  rw [releaseP2pPair_get, took.get_eq_some]
  constructor
  · rintro ⟨⟨-, rfl⟩ | ⟨-, rfl⟩ | hget, hworkload, hgateway⟩
    · exact absurd rfl hworkload
    · exact absurd rfl hgateway
    · exact hget
  · exact fun hget => ⟨Or.inr (Or.inr hget), fresh x owner hget⟩

end NodeIpAllocator

end FleetosAgent.Workloads
