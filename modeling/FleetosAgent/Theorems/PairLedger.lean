import FleetosAgent.Lib.Run
import FleetosAgent.Theorems.IpAllocator

/-! # The pairs that pods hold

A ledger beside the allocator: the pairs that were handed out and not released since. The table of the allocator tells the
two addresses of a pair apart by a suffix of the pod id, so it says what the ledger says as long as no released id meets
the suffixed id of a holder; and then every /30 block of the range is held or can be handed out. -/

namespace FleetosAgent.Workloads
open Lib NodeIpAllocator

inductive PairCall where
  | allocate (podId : String) (order : Enumeration UInt32)
  | release (podId : String)

def PairCall.podId : PairCall → String
  | allocate podId _ => podId
  | release podId => podId

/-- A pair that was handed out. -/
structure HeldPair where
  podId : String
  gateway : UInt32
  workload : UInt32

structure PairLedger where
  alloc : U32Allocator
  held : List HeldPair := []

namespace PairLedger

/-- A call, with its answer entered in the ledger; `none` is a panic of the allocator. -/
def step (t : PairLedger) : PairCall → Option PairLedger
  | .allocate podId order =>
    match t.alloc.allocateP2pPair order podId with
    | none => none
    | some (.error _, s) => some { t with alloc := s }
    | some (.ok (gateway, workload), s) => some ⟨s, ⟨podId, gateway, workload⟩ :: t.held⟩
  | .release podId => some ⟨t.alloc.releaseP2pPair podId, t.held.filter (·.podId ≠ podId)⟩

def after (t : Option PairLedger) (call : PairCall) : Option PairLedger := t.bind (·.step call)

def holders (t : PairLedger) : List String := t.held.map (·.podId)

end PairLedger

/-- A range that `NodeIpAllocator::new` accepts, and the allocator it starts with. -/
structure AcceptedRange where
  std : StdParsers
  cidr : String
  start : U32Allocator
  accepted : U32Allocator.new std cidr = some (.ok start)

def AcceptedRange.ledger (range : AcceptedRange) : PairLedger := ⟨range.start, []⟩

/-! ### What an allocation does -/

namespace NodeIpAllocator
variable {a a' : NodeIpAllocator} {podId : String}

/-- The answers to an allocation, with what they say of the state. -/
inductive PairAnswer (a : NodeIpAllocator) (podId : String) : Except AgentError (UInt32 × UInt32) → NodeIpAllocator → Prop
  | took {gw wl : UInt32} {o : Nat} {a' : NodeIpAllocator} (took : Took a podId gw wl a' o) (source : PairSource a o a') :
      PairAnswer a podId (.ok (gw, wl)) a'
  | exhausted {e : AgentError} (none : a.reusable = none) (full : ¬nextBoundary 3 a.nextOffset + 1 < a.hostCount - 1) :
      PairAnswer a podId (.error e) a

theorem pairAnswer_of_error {e : AgentError} (h : a.allocateP2pPair podId = .error e) :
    PairAnswer a podId (.error e) a := by
  cases hreuse : a.reusable with
  | some o =>
    rw [allocateP2pPair_of_reusable hreuse] at h
    cases h
  | none =>
    rw [allocateP2pPair_of_none hreuse] at h
    by_cases hroom : nextBoundary 3 a.nextOffset + 1 < a.hostCount - 1
    · rw [dif_pos hroom] at h
      cases h
    · exact .exhausted hreuse hroom

end NodeIpAllocator

namespace U32Allocator
variable {s : U32Allocator} {a : NodeIpAllocator}

/-- An allocation returns, with an answer of the other model. -/
theorem Represents.pairAnswer (h : s.Represents a) (room : a.Room) (order : Enumeration UInt32) (podId : String) :
    ∃ result s' a', s.allocateP2pPair order podId = some (result, s') ∧ s'.Represents a' ∧ a'.Room ∧
      PairAnswer a podId result a' := by
  obtain ⟨s', hstep, hrep⟩ := h.allocateP2pPair room order podId
  have room' := (step_answered room (.allocateP2pPair podId Enumeration.sorted)).room
  obtain ⟨⟨result, s''⟩, hcall, hanswer⟩ := Option.map_eq_some_iff.mp hstep
  obtain ⟨hresult, rfl⟩ := Prod.mk.inj hanswer
  refine ⟨result, s'', _, hcall, hrep, room', ?_⟩
  unfold NodeIpAllocator.step at hresult ⊢
  dsimp only at hresult ⊢
  cases halloc : a.allocateP2pPair podId with
  | error e =>
    rw [halloc] at hresult
    obtain rfl := AllocatorAnswer.pair.inj hresult
    exact pairAnswer_of_error halloc
  | ok taken =>
    obtain ⟨⟨gw, wl⟩, a'⟩ := taken
    rw [halloc] at hresult
    obtain rfl := AllocatorAnswer.pair.inj hresult
    obtain ⟨o, took, source⟩ := allocateP2pPair_source halloc
    exact .took took source

end U32Allocator

/-! ### The ledger in offsets -/

/-- A held pair by the offset of its gateway. -/
structure Slot where
  podId : String
  offset : Nat

def Slot.pair (a : NodeIpAllocator) (slot : Slot) : HeldPair := ⟨slot.podId, a.addr slot.offset, a.addr (slot.offset + 1)⟩

theorem slotPair_congr {a a' : NodeIpAllocator} (h : a'.base = a.base) : Slot.pair a' = Slot.pair a := by
  funext slot
  simp only [Slot.pair, addr, h]

/-- What a call does to the slots and the allocator. -/
inductive SlotStep (slots : List Slot) (a : NodeIpAllocator) : PairCall → List Slot → NodeIpAllocator → Prop
  | took {podId : String} {order : Enumeration UInt32} {gw wl : UInt32} {o : Nat} {a' : NodeIpAllocator}
      (took : Took a podId gw wl a' o) (source : PairSource a o a') :
      SlotStep slots a (.allocate podId order) (⟨podId, o⟩ :: slots) a'
  | exhausted {podId : String} {order : Enumeration UInt32} : SlotStep slots a (.allocate podId order) slots a
  | released {podId : String} :
      SlotStep slots a (.release podId) (slots.filter (·.podId ≠ podId)) (a.releaseP2pPair podId)

/-- The ledger holds the pairs of `slots`, and its allocator the offsets of `a`. -/
structure PairLedger.Mirrors (t : PairLedger) (slots : List Slot) (a : NodeIpAllocator) : Prop where
  represents : t.alloc.Represents a
  room : a.Room
  held : t.held = slots.map (Slot.pair a)

namespace PairLedger.Mirrors
variable {t : PairLedger} {slots : List Slot} {a : NodeIpAllocator}

theorem released (h : t.Mirrors slots a) (podId : String) :
    Mirrors ⟨t.alloc.releaseP2pPair podId, t.held.filter (·.podId ≠ podId)⟩ (slots.filter (·.podId ≠ podId))
      (a.releaseP2pPair podId) := by
  refine ⟨h.represents.releaseP2pPair podId, h.room.released _ _ rfl rfl rfl rfl rfl, ?_⟩
  show t.held.filter _ = (slots.filter _).map (Slot.pair a)
  rw [h.held, List.filter_map]
  rfl

theorem step (h : t.Mirrors slots a) (call : PairCall) :
    ∃ t' slots' a', t.step call = some t' ∧ t'.Mirrors slots' a' ∧ SlotStep slots a call slots' a' := by
  cases call with
  | allocate podId order =>
    obtain ⟨result, s', a', hcall, hrep, room, answer⟩ := h.represents.pairAnswer h.room order podId
    rw [PairLedger.step, hcall]
    cases answer with
    | exhausted none full => exact ⟨_, slots, a, rfl, ⟨hrep, room, h.held⟩, .exhausted⟩
    | @took gw wl o _ took source =>
      refine ⟨_, _, a', rfl, ⟨hrep, room, ?_⟩, .took took source⟩
      rw [slotPair_congr took.base, List.map_cons, ← h.held, took.gateway, took.workload]
      rfl
  | release podId => exact ⟨_, _, _, rfl, h.released podId, .released⟩

theorem mem_held (h : t.Mirrors slots a) {pair : HeldPair} : pair ∈ t.held ↔ ∃ slot ∈ slots, slot.pair a = pair := by
  rw [h.held, List.mem_map]

theorem holders (h : t.Mirrors slots a) : t.holders = slots.map (·.podId) := by
  rw [PairLedger.holders, h.held, List.map_map]
  rfl

end PairLedger.Mirrors

theorem NodeIpAllocator.ofBits_start {ip bits : UInt32} {a : NodeIpAllocator} (h : ofBits ip bits = .ok a) :
    bits.toNat ≤ 28 ∧ a.nextOffset = 1 ∧ a.free = ∅ ∧ a.allocated = ∅ := by
  unfold ofBits at h
  by_cases hbits : 8 ≤ bits ∧ bits ≤ 28
  · rw [dif_pos hbits] at h
    dsimp only at h
    split_ifs at h
    obtain rfl := Except.ok.inj h
    exact ⟨UInt32.le_iff_toNat_le.mp hbits.2, rfl, rfl, rfl⟩
  · rw [dif_neg hbits] at h
    cases h

/-- A range starts with no slot, at a multiple of four, and is made of whole blocks. -/
theorem AcceptedRange.mirrors (range : AcceptedRange) :
    ∃ a, range.ledger.Mirrors [] a ∧ a.nextOffset = 1 ∧ a.free = ∅ ∧ a.allocated = ∅ ∧ 4 ∣ a.base ∧ 4 ∣ a.hostCount := by
  obtain ⟨ip, bits, a, hparse, hnew, hrep, room, hbase, hhosts⟩ := U32Allocator.new_represents range.accepted
  have hbits : ofBits ip bits = .ok a := by
    rw [NodeIpAllocator.new, hparse] at hnew
    exact hnew
  obtain ⟨hle, hnext, hfree, halloc⟩ := ofBits_start hbits
  have whole : 4 ∣ 2 ^ (32 - bits.toNat) := pow_dvd_pow 2 (show 2 ≤ 32 - bits.toNat by omega)
  refine ⟨a, ⟨hrep, room, rfl⟩, hnext, hfree, halloc, ?_, hhosts ▸ whole⟩
  rw [hbase]
  exact whole.mul_left _

/-! ### The tags of the table -/

theorem NodeIpAllocator.gatewayOwner_ne (podId : String) : gatewayOwner podId ≠ podId := by
  intro h
  have hlen : (podId ++ ":gw").length = podId.length := congrArg String.length h
  rw [String.length_append] at hlen
  exact absurd (Nat.add_eq_left.mp hlen) (by decide)

/-- A release of `podId` meets the tag of no holder: none has its id followed by ":gw", and it is none of theirs followed
    by ":gw". -/
def ApartFrom (holders : List String) (podId : String) : Prop :=
  ∀ holder ∈ holders, holder ≠ gatewayOwner podId ∧ podId ≠ gatewayOwner holder

/-- The table has the two tags of every slot and nothing else. -/
def Tagged (slots : List Slot) (a : NodeIpAllocator) : Prop :=
  ∀ o owner, a.allocated.get o = some owner ↔
    ∃ slot ∈ slots, (o = slot.offset ∧ owner = gatewayOwner slot.podId) ∨ (o = slot.offset + 1 ∧ owner = slot.podId)

namespace Tagged
variable {slots slots' : List Slot} {a a' : NodeIpAllocator} {slot : Slot} {podId : String}

theorem gateway (tagged : Tagged slots a) (h : slot ∈ slots) :
    a.allocated.get slot.offset = some (gatewayOwner slot.podId) :=
  (tagged _ _).mpr ⟨slot, h, Or.inl ⟨rfl, rfl⟩⟩

theorem workload (tagged : Tagged slots a) (h : slot ∈ slots) : a.allocated.get (slot.offset + 1) = some slot.podId :=
  (tagged _ _).mpr ⟨slot, h, Or.inr ⟨rfl, rfl⟩⟩

theorem below (tagged : Tagged slots a) (h : slot ∈ slots) :
    slot.offset + 1 < a.nextOffset ∧ slot.offset + 2 < a.hostCount :=
  a.bounded _ (Or.inr (FinMap.mem_keys_of_get (tagged.workload h)))

/-- The tags of `podId` are those of its slots, if it is apart from the holders. -/
theorem owned_iff (tagged : Tagged slots a) (apart : ApartFrom (slots.map (·.podId)) podId) (o : Nat) :
    (a.allocated.get o = some podId ∨ a.allocated.get o = some (gatewayOwner podId)) ↔
      ∃ slot ∈ slots, slot.podId = podId ∧ (o = slot.offset ∨ o = slot.offset + 1) := by
  constructor
  · rintro (h | h)
    · obtain ⟨slot, hmem, ⟨-, heq⟩ | ⟨ho, rfl⟩⟩ := (tagged _ _).mp h
      · exact absurd heq (apart _ (List.mem_map_of_mem hmem)).2
      · exact ⟨slot, hmem, rfl, Or.inr ho⟩
    · obtain ⟨slot, hmem, ⟨ho, heq⟩ | ⟨-, heq⟩⟩ := (tagged _ _).mp h
      · exact ⟨slot, hmem, (gatewayOwner_injective heq).symm, Or.inl ho⟩
      · exact absurd heq.symm (apart _ (List.mem_map_of_mem hmem)).1
  · rintro ⟨slot, hmem, rfl, rfl | rfl⟩
    · exact Or.inr (tagged.gateway hmem)
    · exact Or.inl (tagged.workload hmem)

theorem mem_free_released (tagged : Tagged slots a) (apart : ApartFrom (slots.map (·.podId)) podId) (o : Nat) :
    o ∈ (a.releaseP2pPair podId).free ↔
      o ∈ a.free ∨ ∃ slot ∈ slots, slot.podId = podId ∧ (o = slot.offset ∨ o = slot.offset + 1) := by
  rw [← tagged.owned_iff apart, releaseP2pPair, Finset.mem_union, Finset.mem_filter]
  refine or_congr_right (and_iff_right_of_imp ?_)
  rintro (hget | hget)
  · exact FinMap.mem_keys_of_get hget
  · exact FinMap.mem_keys_of_get hget

theorem took {gw wl : UInt32} {o : Nat} (tagged : Tagged slots a) (took : Took a podId gw wl a' o) :
    Tagged (⟨podId, o⟩ :: slots) a' := by
  intro x owner
  rw [took.get_eq_some, tagged, List.exists_mem_cons_iff]
  constructor
  · rintro (⟨hx, howner⟩ | ⟨hx, howner⟩ | hold)
    · exact Or.inl (Or.inr ⟨hx, howner.symm⟩)
    · exact Or.inl (Or.inl ⟨hx, howner.symm⟩)
    · exact Or.inr hold
  · rintro ((⟨hx, howner⟩ | ⟨hx, howner⟩) | hold)
    · exact Or.inr (Or.inl ⟨hx, howner.symm⟩)
    · exact Or.inl ⟨hx, howner.symm⟩
    · exact Or.inr (Or.inr hold)

theorem released (tagged : Tagged slots a) (apart : ApartFrom (slots.map (·.podId)) podId) :
    Tagged (slots.filter (·.podId ≠ podId)) (a.releaseP2pPair podId) := by
  intro x owner
  rw [releaseP2pPair_get, tagged]
  constructor
  · rintro ⟨⟨slot, hmem, htag⟩, hworkload, hgateway⟩
    have hne : slot.podId ≠ podId := by
      rintro rfl
      rcases htag with ⟨-, rfl⟩ | ⟨-, rfl⟩
      · exact hgateway rfl
      · exact hworkload rfl
    exact ⟨slot, List.mem_filter.mpr ⟨hmem, decide_eq_true hne⟩, htag⟩
  · rintro ⟨slot, hmem, htag⟩
    obtain ⟨hmem, hne⟩ := List.mem_filter.mp hmem
    have hne : slot.podId ≠ podId := of_decide_eq_true hne
    obtain ⟨hsuffixed, hsuffix⟩ := apart _ (List.mem_map_of_mem hmem)
    refine ⟨⟨slot, hmem, htag⟩, ?_⟩
    rcases htag with ⟨-, rfl⟩ | ⟨-, rfl⟩
    · exact ⟨hsuffix.symm, fun heq => hne (gatewayOwner_injective heq)⟩
    · exact ⟨hne, hsuffixed⟩

/-- Every call keeps the tags, a release if its id is apart from the holders. -/
theorem step {call : PairCall} (tagged : Tagged slots a) (hstep : SlotStep slots a call slots' a')
    (apart : ∀ podId, call = .release podId → ApartFrom (slots.map (·.podId)) podId) : Tagged slots' a' := by
  cases hstep with
  | took took source => exact tagged.took took
  | exhausted => exact tagged
  | released => exact tagged.released (apart _ rfl)

end Tagged

/-! ### Addresses -/

namespace U32Allocator

def Free (s : U32Allocator) (ip : UInt32) : Prop := ∃ o ∈ s.free, ip.toNat = s.base.toNat + o.toNat

def Allocated (s : U32Allocator) (ip : UInt32) : Prop := ∃ o ∈ s.allocated.keys, ip.toNat = s.base.toNat + o.toNat

variable {s : U32Allocator} {a : NodeIpAllocator}

theorem Represents.free_iff (h : s.Represents a) (ip : UInt32) : s.Free ip ↔ ∃ o ∈ a.free, ip = a.addr o := by
  have toNat_eq : ∀ o ∈ a.free, (a.addr o).toNat = a.base + o := fun o ho =>
    addr_toNat (by have := (a.bounded o (Or.inl ho)).2; omega)
  constructor
  · rintro ⟨o, ho, hip⟩
    have hfree := (h.free o).mp ho
    exact ⟨o.toNat, hfree, UInt32.toNat_inj.mp (by rw [hip, toNat_eq _ hfree, h.base])⟩
  · rintro ⟨o, ho, rfl⟩
    obtain ⟨u, hu, rfl⟩ := (h.mem_free o).mp ho
    exact ⟨u, hu, by rw [toNat_eq _ ho, h.base]⟩

theorem Represents.allocated_addr (h : s.Represents a) {o : Nat} (ho : o < a.hostCount) :
    s.Allocated (a.addr o) ↔ o ∈ a.allocated.keys := by
  have hfits := a.fits
  constructor
  · rintro ⟨u, hkey, heq⟩
    rw [addr_toNat ho, h.base] at heq
    obtain rfl : o = u.toNat := by omega
    exact (h.mem_keys u).mp hkey
  · intro hkey
    have hval : (UInt32.ofNat o).toNat = o := UInt32.toNat_ofNat_of_lt' (by
      show o < 2 ^ 32
      omega)
    exact ⟨UInt32.ofNat o, (h.mem_keys _).mpr (hval.symm ▸ hkey), by rw [hval, addr_toNat ho, h.base]⟩

theorem Represents.not_free (h : s.Represents a) {ip : UInt32} (hip : s.Allocated ip) : ¬s.Free ip := by
  rintro ⟨o, hfree, hval⟩
  obtain ⟨u, hkey, heq⟩ := hip
  obtain rfl : o = u := UInt32.toNat_inj.mp (Nat.add_left_cancel (hval.symm.trans heq))
  exact a.disjoint o.toNat ((h.free o).mp hfree) ((h.mem_keys o).mp hkey)

end U32Allocator

/-! ### Releases -/

namespace PairLedger

/-- A release of `podId` frees exactly the addresses of its pairs, and every other pod keeps both of its addresses. -/
structure Frame (t : PairLedger) (podId : String) : Prop where
  stays : ∀ ip, t.alloc.Free ip → (t.alloc.releaseP2pPair podId).Free ip
  freed : ∀ ip, (t.alloc.releaseP2pPair podId).Free ip ∧ ¬t.alloc.Free ip ↔
    ∃ pair ∈ t.held, pair.podId = podId ∧ (ip = pair.gateway ∨ ip = pair.workload)
  kept : ∀ pair ∈ t.held, pair.podId ≠ podId →
    (t.alloc.releaseP2pPair podId).Allocated pair.gateway ∧ (t.alloc.releaseP2pPair podId).Allocated pair.workload

variable {t : PairLedger} {slots : List Slot} {a : NodeIpAllocator} {podId : String}

theorem Mirrors.allocated (h : t.Mirrors slots a) (tagged : Tagged slots a) {pair : HeldPair} (hpair : pair ∈ t.held) :
    t.alloc.Allocated pair.gateway ∧ t.alloc.Allocated pair.workload := by
  obtain ⟨slot, hmem, rfl⟩ := h.mem_held.mp hpair
  have hbelow := (tagged.below hmem).2
  constructor
  · exact (h.represents.allocated_addr (by omega)).mpr (FinMap.mem_keys_of_get (tagged.gateway hmem))
  · exact (h.represents.allocated_addr (by omega)).mpr (FinMap.mem_keys_of_get (tagged.workload hmem))

theorem Mirrors.free_released_iff (h : t.Mirrors slots a) (tagged : Tagged slots a) (apart : ApartFrom t.holders podId)
    (ip : UInt32) : (t.alloc.releaseP2pPair podId).Free ip ↔
      t.alloc.Free ip ∨ ∃ pair ∈ t.held, pair.podId = podId ∧ (ip = pair.gateway ∨ ip = pair.workload) := by
  have mem_free := tagged.mem_free_released (h.holders ▸ apart)
  rw [(h.represents.releaseP2pPair podId).free_iff, h.represents.free_iff]
  constructor
  · rintro ⟨o, ho, rfl⟩
    rcases (mem_free o).mp ho with ho | ⟨slot, hmem, hpod, ho⟩
    · exact Or.inl ⟨o, ho, rfl⟩
    · refine Or.inr ⟨slot.pair a, h.mem_held.mpr ⟨slot, hmem, rfl⟩, hpod, ?_⟩
      rcases ho with rfl | rfl
      · exact Or.inl rfl
      · exact Or.inr rfl
  · rintro (⟨o, ho, rfl⟩ | ⟨pair, hpair, hpod, hip⟩)
    · exact ⟨o, (mem_free o).mpr (Or.inl ho), rfl⟩
    · obtain ⟨slot, hmem, rfl⟩ := h.mem_held.mp hpair
      rcases hip with rfl | rfl
      · exact ⟨slot.offset, (mem_free _).mpr (Or.inr ⟨slot, hmem, hpod, Or.inl rfl⟩), rfl⟩
      · exact ⟨slot.offset + 1, (mem_free _).mpr (Or.inr ⟨slot, hmem, hpod, Or.inr rfl⟩), rfl⟩

theorem Mirrors.frame (h : t.Mirrors slots a) (tagged : Tagged slots a) (apart : ApartFrom t.holders podId) :
    t.Frame podId := by
  have free_iff := h.free_released_iff tagged apart
  refine ⟨fun ip hfree => (free_iff ip).mpr (Or.inl hfree), fun ip => ?_, fun pair hpair hpod => ?_⟩
  · rw [free_iff]
    constructor
    · rintro ⟨hfree, hnot⟩
      exact hfree.resolve_left hnot
    · rintro ⟨pair, hpair, hpod, hip⟩
      obtain ⟨hgateway, hworkload⟩ := h.allocated tagged hpair
      refine ⟨Or.inr ⟨pair, hpair, hpod, hip⟩, h.represents.not_free ?_⟩
      rcases hip with rfl | rfl
      · exact hgateway
      · exact hworkload
  · -- the released ledger still holds the pair, and mirrors slots with the tags of the table
    exact (h.released podId).allocated (tagged.released (h.holders ▸ apart))
      (List.mem_filter.mpr ⟨hpair, decide_eq_true hpod⟩)

/-- A tag that a release meets is freed with it. -/
theorem Mirrors.apart_of_frame (h : t.Mirrors slots a) (tagged : Tagged slots a) (frame : t.Frame podId) :
    ApartFrom t.holders podId := by
  have hrep := h.represents.releaseP2pPair podId
  intro holder hholder
  rw [h.holders] at hholder
  obtain ⟨slot, hmem, rfl⟩ := List.mem_map.mp hholder
  have hbelow := (tagged.below hmem).2
  have hpair : slot.pair a ∈ t.held := h.mem_held.mpr ⟨slot, hmem, rfl⟩
  constructor
  · intro heq
    have hne : slot.podId ≠ podId := fun hpod => gatewayOwner_ne podId (heq.symm.trans hpod)
    have hkey := (hrep.allocated_addr (show slot.offset + 1 < a.hostCount by omega)).mp (frame.kept _ hpair hne).2
    obtain ⟨owner, hget⟩ := FinMap.mem_keys_iff.mp hkey
    obtain ⟨hget, -, hgateway⟩ := (releaseP2pPair_get _ _ _).mp hget
    rw [tagged.workload hmem] at hget
    exact hgateway ((Option.some.inj hget).symm.trans heq)
  · intro heq
    have hne : slot.podId ≠ podId := fun hpod => gatewayOwner_ne slot.podId (heq.symm.trans hpod.symm)
    have hkey := (hrep.allocated_addr (show slot.offset < a.hostCount by omega)).mp (frame.kept _ hpair hne).1
    obtain ⟨owner, hget⟩ := FinMap.mem_keys_iff.mp hkey
    obtain ⟨hget, hworkload, -⟩ := (releaseP2pPair_get _ _ _).mp hget
    rw [tagged.gateway hmem] at hget
    exact hworkload ((Option.some.inj hget).symm.trans heq.symm)

/-- The call returns, and a release keeps its frame. -/
def Framed : Option PairLedger → PairCall → Prop
  | none, _ => False
  | some t, .allocate podId order => (t.step (.allocate podId order)).isSome
  | some t, .release podId => t.Frame podId

/-- The id of a release is apart from the pods that hold a pair. -/
def ReleasesApart : Option PairLedger → PairCall → Prop
  | some t, .release podId => ApartFrom t.holders podId
  | _, _ => True

/-- The ledger mirrors slots that are what the table says. -/
def Settled (t : Option PairLedger) : Prop := ∃ t' slots a, t = some t' ∧ t'.Mirrors slots a ∧ Tagged slots a

theorem Settled.framed_iff {t : Option PairLedger} (settled : Settled t) (call : PairCall) :
    Framed t call ↔ ReleasesApart t call := by
  obtain ⟨t, slots, a, rfl, mirrors, tagged⟩ := settled
  cases call with
  | allocate podId order =>
    obtain ⟨t', -, -, hstep, -, -⟩ := mirrors.step (.allocate podId order)
    exact iff_true_intro (Option.isSome_iff_exists.mpr ⟨t', hstep⟩)
  | release podId => exact ⟨mirrors.apart_of_frame tagged, mirrors.frame tagged⟩

theorem Settled.after {t : Option PairLedger} (settled : Settled t) {call : PairCall} (framed : Framed t call) :
    Settled (PairLedger.after t call) := by
  have apart := (settled.framed_iff call).mp framed
  obtain ⟨t, slots, a, rfl, mirrors, tagged⟩ := settled
  obtain ⟨t', slots', a', hstep, mirrors', hslots⟩ := mirrors.step call
  refine ⟨t', slots', a', hstep, mirrors', tagged.step hslots ?_⟩
  rintro podId rfl
  exact mirrors.holders ▸ apart

theorem settled_start (range : AcceptedRange) : Settled (some range.ledger) := by
  obtain ⟨a, mirrors, -, -, halloc, -, -⟩ := range.mirrors
  refine ⟨_, [], a, rfl, mirrors, fun o owner => ?_⟩
  simp [halloc]

/-- Along a run, every release frees exactly the pairs of its pod and leaves those of the other pods, exactly if the id of
    each release is apart from the ids of the pods that hold a pair then. -/
theorem releases_framed_iff (range : AcceptedRange) (calls : List PairCall) :
    Along after Framed (some range.ledger) calls ↔ Along after ReleasesApart (some range.ledger) calls :=
  along_iff_of_inv (A := fun _ => True) (fun _ _ => trivial) (settled_start range)
    (fun _ call settled _ => settled.framed_iff call) fun _ _ settled _ framed => settled.after framed

/-- The pairs of 10.0.0.0/28, none taken yet. -/
def sixteen : AcceptedRange := ⟨U32Allocator.oneRange, "10.0.0.9/28", _, U32Allocator.oneRange_accepted⟩

theorem findPair_empty (order : Enumeration UInt32) :
    U32Allocator.findPair ∅ ((order.list ∅).mergeSort fun o o' => o ≤ o') = some none := by
  have empty : order.list ∅ = [] := List.eq_nil_iff_forall_not_mem.mpr fun o ho =>
    Finset.notMem_empty o ((order.mem_list _ _).mp ho)
  rw [empty, List.mergeSort_nil]
  rfl

/-- "a" and "a:gw" hold the first two pairs, and the release of "a" frees the workload address of "a:gw". -/
theorem release_frees_suffixed_pod :
    ∃ t, [PairCall.allocate "a" .arbitrary, .allocate "a:gw" .arbitrary].foldl after (some sixteen.ledger) = some t ∧
      ⟨"a:gw", 0x0A000005, 0x0A000006⟩ ∈ t.held ∧ (t.alloc.releaseP2pPair "a").Free 0x0A000006 ∧ ¬t.Frame "a" := by
  have first : U32Allocator.allocateP2pPair ⟨0x0A000000, 16, 1, ∅, ∅⟩ .arbitrary "a" =
      some (.ok (0x0A000001, 0x0A000002), ⟨0x0A000000, 16, 5, ∅, (FinMap.insert ∅ 1 "a:gw").insert 2 "a"⟩) := by
    rw [U32Allocator.allocateP2pPair, findPair_empty]
    rfl
  have second : U32Allocator.allocateP2pPair ⟨0x0A000000, 16, 5, ∅, (FinMap.insert ∅ 1 "a:gw").insert 2 "a"⟩
      .arbitrary "a:gw" =
        some (.ok (0x0A000005, 0x0A000006), ⟨0x0A000000, 16, 9, ∅,
          (((FinMap.insert ∅ 1 "a:gw").insert 2 "a").insert 5 "a:gw:gw").insert 6 "a:gw"⟩) := by
    rw [U32Allocator.allocateP2pPair, findPair_empty]
    rfl
  refine ⟨⟨⟨0x0A000000, 16, 9, ∅, (((FinMap.insert ∅ 1 "a:gw").insert 2 "a").insert 5 "a:gw:gw").insert 6 "a:gw"⟩,
    [⟨"a:gw", 0x0A000005, 0x0A000006⟩, ⟨"a", 0x0A000001, 0x0A000002⟩]⟩, ?_, List.mem_cons_self, ?_, fun frame => ?_⟩
  · simp only [List.foldl, after, Option.bind, step, AcceptedRange.ledger, sixteen, first, second]
  · exact ⟨6, by decide, by decide⟩
  · obtain ⟨o, hkey, heq⟩ := (frame.kept _ List.mem_cons_self (by decide)).2
    have hval : o.toNat = 6 := Nat.add_left_cancel heq.symm
    obtain rfl : o = 6 := UInt32.toNat_inj.mp hval
    exact absurd hkey (by decide)

end PairLedger

/-! ### The blocks of the range -/

/-- Below the next offset every block is a slot or free as a whole; the offset in `slots` stands for the block. -/
structure Blocks (slots : List Slot) (a : NodeIpAllocator) : Prop where
  tagged : Tagged slots a
  base : 4 ∣ a.base
  hosts : 4 ∣ a.hostCount
  next : a.nextOffset % 4 = 1
  aligned : ∀ slot ∈ slots, slot.offset % 4 = 1
  nodup : (slots.map (·.offset)).Nodup
  free : ∀ o, o ∈ a.free ↔ ∃ b, b % 4 = 1 ∧ b < a.nextOffset ∧ b ∉ slots.map (·.offset) ∧ (o = b ∨ o = b + 1)

namespace Blocks
variable {slots slots' : List Slot} {a a' : NodeIpAllocator} {podId : String}

theorem start (hnext : a.nextOffset = 1) (hfree : a.free = ∅) (halloc : a.allocated = ∅) (hbase : 4 ∣ a.base)
    (hhosts : 4 ∣ a.hostCount) : Blocks [] a := by
  refine ⟨fun o owner => ?_, hbase, hhosts, by rw [hnext], fun _ h => (nomatch h), List.nodup_nil, fun o => ?_⟩
  · simp [halloc]
  · rw [hfree, hnext]
    constructor
    · exact fun h => absurd h (Finset.notMem_empty o)
    · rintro ⟨b, hb, hlt, -⟩
      omega

theorem offset_lt (blocks : Blocks slots a) {o : Nat} (h : o ∈ slots.map (·.offset)) : o + 1 < a.nextOffset := by
  obtain ⟨slot, hmem, rfl⟩ := List.mem_map.mp h
  exact (blocks.tagged.below hmem).1

/-- A free offset at the start of a block is that of a free block. -/
theorem of_free (blocks : Blocks slots a) {o : Nat} (h : o ∈ a.free) (ho : o % 4 = 1) :
    o < a.nextOffset ∧ o ∉ slots.map (·.offset) := by
  obtain ⟨b, hb, hlt, hnot, hob⟩ := (blocks.free o).mp h
  obtain rfl : o = b := by omega
  exact ⟨hlt, hnot⟩

theorem took_freed {gw wl : UInt32} {o : Nat} (blocks : Blocks slots a) (took : Took a podId gw wl a' o)
    (hreuse : a.reusable = some o) (hfree : a'.free = (a.free.erase o).erase (o + 1))
    (hnext : a'.nextOffset = a.nextOffset) :
    Blocks (⟨podId, o⟩ :: slots) a' := by
  have haligned := took.aligned
  obtain ⟨-, hnot⟩ := blocks.of_free (reusable_spec hreuse).1 haligned
  refine ⟨blocks.tagged.took took, took.base ▸ blocks.base, took.hostCount ▸ blocks.hosts, hnext ▸ blocks.next,
    List.forall_mem_cons.mpr ⟨haligned, blocks.aligned⟩, List.nodup_cons.mpr ⟨hnot, blocks.nodup⟩, fun x => ?_⟩
  rw [hfree, hnext, Finset.mem_erase, Finset.mem_erase, blocks.free]
  simp only [List.map_cons, List.mem_cons, not_or]
  constructor
  · rintro ⟨hx', hx, b, hb, hlt, hslot, hxb⟩
    exact ⟨b, hb, hlt, ⟨by omega, hslot⟩, hxb⟩
  · rintro ⟨b, hb, hlt, ⟨hne, hslot⟩, hxb⟩
    exact ⟨by omega, by omega, b, hb, hlt, hslot, hxb⟩

theorem took_next {gw wl : UInt32} {o : Nat} (blocks : Blocks slots a) (took : Took a podId gw wl a' o)
    (hboundary : o = nextBoundary 3 a.nextOffset) (hfree : a'.free = a.free) (hnext : a'.nextOffset = o + 4) :
    Blocks (⟨podId, o⟩ :: slots) a' := by
  have haligned := took.aligned
  obtain rfl : o = a.nextOffset := hboundary.trans (if_pos blocks.next)
  have hnot : a.nextOffset ∉ slots.map (·.offset) := fun h => by have := blocks.offset_lt h; omega
  refine ⟨blocks.tagged.took took, took.base ▸ blocks.base, took.hostCount ▸ blocks.hosts, by omega,
    List.forall_mem_cons.mpr ⟨haligned, blocks.aligned⟩, List.nodup_cons.mpr ⟨hnot, blocks.nodup⟩, fun x => ?_⟩
  rw [hfree, hnext, blocks.free]
  simp only [List.map_cons, List.mem_cons, not_or]
  constructor
  · rintro ⟨b, hb, hlt, hslot, hxb⟩
    exact ⟨b, hb, by omega, ⟨by omega, hslot⟩, hxb⟩
  · rintro ⟨b, hb, hlt, ⟨hne, hslot⟩, hxb⟩
    exact ⟨b, hb, by omega, hslot, hxb⟩

theorem took {gw wl : UInt32} {o : Nat} (blocks : Blocks slots a) (took : Took a podId gw wl a' o)
    (source : PairSource a o a') :
    Blocks (⟨podId, o⟩ :: slots) a' := by
  cases source with
  | freed reusable free next => exact blocks.took_freed took reusable free next
  | next boundary free next => exact blocks.took_next took boundary free next

/-- A release gives back the blocks of its pod, whole. -/
theorem released (blocks : Blocks slots a) (apart : ApartFrom (slots.map (·.podId)) podId) :
    Blocks (slots.filter (·.podId ≠ podId)) (a.releaseP2pPair podId) := by
  have sublist : (slots.filter (·.podId ≠ podId)).Sublist slots := List.filter_sublist
  refine ⟨blocks.tagged.released apart, blocks.base, blocks.hosts, blocks.next,
    fun slot hmem => blocks.aligned slot (sublist.subset hmem), blocks.nodup.sublist (sublist.map _), fun o => ?_⟩
  rw [blocks.tagged.mem_free_released apart, blocks.free]
  constructor
  · rintro (⟨b, hb, hlt, hslot, hob⟩ | ⟨slot, hmem, hpod, ho⟩)
    · exact ⟨b, hb, hlt, fun h => hslot ((sublist.map _).subset h), hob⟩
    · refine ⟨slot.offset, blocks.aligned slot hmem, ?_, ?_, ho⟩
      · exact Nat.lt_of_succ_lt (blocks.tagged.below hmem).1
      · intro h
        obtain ⟨slot', hmem', heq⟩ := List.mem_map.mp h
        obtain ⟨hmem', hne⟩ := List.mem_filter.mp hmem'
        obtain rfl := List.inj_on_of_nodup_map blocks.nodup hmem' hmem heq
        exact of_decide_eq_true hne hpod
  · rintro ⟨b, hb, hlt, hslot, hob⟩
    by_cases hold : b ∈ slots.map (·.offset)
    · obtain ⟨slot, hmem, rfl⟩ := List.mem_map.mp hold
      have hpod : slot.podId = podId := by
        by_contra hne
        exact hslot (List.mem_map_of_mem (List.mem_filter.mpr ⟨hmem, decide_eq_true hne⟩))
      exact Or.inr ⟨slot, hmem, hpod, hob⟩
    · exact Or.inl ⟨b, hb, hlt, hold, hob⟩

theorem step {call : PairCall} (blocks : Blocks slots a) (hstep : SlotStep slots a call slots' a')
    (apart : ∀ podId, call = .release podId → ApartFrom (slots.map (·.podId)) podId) : Blocks slots' a' := by
  cases hstep with
  | took took source => exact blocks.took took source
  | exhausted => exact blocks
  | released => exact blocks.released (apart _ rfl)

/-! ### Capacity -/

/-- There is a slot for every block at most. -/
theorem length_le (blocks : Blocks slots a) : slots.length ≤ a.hostCount / 4 := by
  have inRange : slots.map (·.offset) ⊆ (List.range (a.hostCount / 4)).map (4 * · + 1) := by
    intro o ho
    obtain ⟨slot, hmem, rfl⟩ := List.mem_map.mp ho
    have hbelow := (blocks.tagged.below hmem).2
    have haligned := blocks.aligned slot hmem
    exact List.mem_map.mpr ⟨slot.offset / 4, List.mem_range.mpr (by omega), by omega⟩
  simpa using (List.subperm_of_subset blocks.nodup inRange).length_le

theorem le_length (h : ∀ k < a.hostCount / 4, 4 * k + 1 ∈ slots.map (·.offset)) : a.hostCount / 4 ≤ slots.length := by
  have covered : (List.range (a.hostCount / 4)).map (4 * · + 1) ⊆ slots.map (·.offset) := by
    intro o ho
    obtain ⟨k, hk, rfl⟩ := List.mem_map.mp ho
    exact h k (List.mem_range.mp hk)
  have nodup : ((List.range (a.hostCount / 4)).map (4 * · + 1)).Nodup :=
    List.nodup_range.map fun k k' (heq : 4 * k + 1 = 4 * k' + 1) => by omega
  simpa using (List.subperm_of_subset nodup covered).length_le

/-- A block is held, or free as a whole, or the next offset has not passed it. -/
theorem cases (blocks : Blocks slots a) (k : Nat) :
    4 * k + 1 ∈ slots.map (·.offset) ∨ (4 * k + 1 ∈ a.free ∧ 4 * k + 2 ∈ a.free) ∨ a.nextOffset ≤ 4 * k + 1 := by
  by_cases hslot : 4 * k + 1 ∈ slots.map (·.offset)
  · exact Or.inl hslot
  · by_cases hlt : 4 * k + 1 < a.nextOffset
    · exact Or.inr (Or.inl ⟨(blocks.free _).mpr ⟨_, by omega, hlt, hslot, Or.inl rfl⟩,
        (blocks.free _).mpr ⟨_, by omega, hlt, hslot, Or.inr rfl⟩⟩)
    · exact Or.inr (Or.inr (by omega))

theorem length_of_exhausted (blocks : Blocks slots a) (hnone : a.reusable = none)
    (hfull : ¬nextBoundary 3 a.nextOffset + 1 < a.hostCount - 1) : slots.length = a.hostCount / 4 := by
  have hboundary : nextBoundary 3 a.nextOffset = a.nextOffset := if_pos blocks.next
  rw [hboundary] at hfull
  refine le_antisymm blocks.length_le (le_length fun k hk => ?_)
  rcases blocks.cases k with hslot | ⟨hfree, hfree'⟩ | hnext
  · exact hslot
  · have hskip := List.find?_eq_none.mp hnone _ ((Enumeration.mem_list _ _ _).mpr hfree)
    exact absurd (decide_eq_true ⟨by omega, hfree'⟩) hskip
  · omega

/-- An allocation fails exactly if there is a slot for every block. -/
theorem exhausted_iff {result : Except AgentError (UInt32 × UInt32)} (blocks : Blocks slots a)
    (answer : PairAnswer a podId result a') : (∃ e, result = .error e) ↔ slots.length = a.hostCount / 4 := by
  cases answer with
  | took took source =>
    have hlength := (blocks.took took source).length_le
    rw [took.hostCount, List.length_cons] at hlength
    exact ⟨fun ⟨_, h⟩ => (nomatch h), fun h => by omega⟩
  | exhausted hnone hfull => exact ⟨fun _ => blocks.length_of_exhausted hnone hfull, fun _ => ⟨_, rfl⟩⟩

end Blocks

/-- The pair has the two middle addresses of the block `k` of a range. -/
def HeldPair.InBlock (pair : HeldPair) (base k : Nat) : Prop :=
  pair.gateway.toNat = base + 4 * k + 1 ∧ pair.workload.toNat = base + 4 * k + 2

/-- Every /30 block of the range is held, free as a whole or not reached yet; no two pairs are in one block, and an
    allocation returns, with an error exactly if every block is held. -/
structure PairLedger.ExactCapacity (range : AcceptedRange) (t : PairLedger) : Prop where
  aligned : 4 ∣ range.start.base.toNat
  exhausted : ∀ podId order, ∃ result s, t.alloc.allocateP2pPair order podId = some (result, s) ∧
    ((∃ e, result = .error e) ↔ t.held.length = range.start.hostCount.toNat / 4)
  inBlock : ∀ pair ∈ t.held, ∃ k < range.start.hostCount.toNat / 4, pair.InBlock range.start.base.toNat k
  noneLost : ∀ k < range.start.hostCount.toNat / 4, (∃ pair ∈ t.held, pair.InBlock range.start.base.toNat k) ∨
    (∀ ip : UInt32, ip.toNat = range.start.base.toNat + 4 * k + 1 ∨ ip.toNat = range.start.base.toNat + 4 * k + 2 →
      t.alloc.Free ip) ∨
    t.alloc.nextOffset.toNat ≤ 4 * k + 1
  apart : t.held.Pairwise fun pair pair' => pair.gateway.toNat / 4 ≠ pair'.gateway.toNat / 4

/-- The addresses of a slot are those of its block. -/
theorem Blocks.pair_inBlock {slots : List Slot} {a : NodeIpAllocator} (blocks : Blocks slots a) {slot : Slot}
    (hmem : slot ∈ slots) : (slot.pair a).InBlock a.base (slot.offset / 4) := by
  have haligned := blocks.aligned slot hmem
  have hbelow := (blocks.tagged.below hmem).2
  have hgateway : (a.addr slot.offset).toNat = a.base + slot.offset := U32Allocator.addr_toNat (by omega)
  have hworkload : (a.addr (slot.offset + 1)).toNat = a.base + (slot.offset + 1) := U32Allocator.addr_toNat (by omega)
  exact ⟨hgateway.trans (by omega), hworkload.trans (by omega)⟩

namespace PairLedger.Mirrors
variable {t : PairLedger} {slots : List Slot} {a : NodeIpAllocator}

theorem inBlock (h : t.Mirrors slots a) (blocks : Blocks slots a) {pair : HeldPair} (hpair : pair ∈ t.held) :
    ∃ k < a.hostCount / 4, pair.InBlock a.base k := by
  obtain ⟨slot, hmem, rfl⟩ := h.mem_held.mp hpair
  have hbelow := (blocks.tagged.below hmem).2
  have hhosts := blocks.hosts
  exact ⟨slot.offset / 4, by omega, blocks.pair_inBlock hmem⟩

theorem noneLost (h : t.Mirrors slots a) (blocks : Blocks slots a) (k : Nat) :
    (∃ pair ∈ t.held, pair.InBlock a.base k) ∨
      (∀ ip : UInt32, ip.toNat = a.base + 4 * k + 1 ∨ ip.toNat = a.base + 4 * k + 2 → t.alloc.Free ip) ∨
      t.alloc.nextOffset.toNat ≤ 4 * k + 1 := by
  rcases blocks.cases k with hslot | ⟨hgateway, hworkload⟩ | hnext
  · obtain ⟨slot, hmem, hoffset⟩ := List.mem_map.mp hslot
    have hblock := blocks.pair_inBlock hmem
    rw [show slot.offset / 4 = k by omega] at hblock
    exact Or.inl ⟨slot.pair a, h.mem_held.mpr ⟨slot, hmem, rfl⟩, hblock⟩
  · have free : ∀ ip : UInt32, ∀ o ∈ a.free, ip.toNat = a.base + o → t.alloc.Free ip := by
      intro ip o ho hip
      have hbound := (a.bounded o (Or.inl ho)).2
      exact (h.represents.free_iff ip).mpr
        ⟨o, ho, UInt32.toNat_inj.mp (hip.trans (U32Allocator.addr_toNat (by omega)).symm)⟩
    refine Or.inr (Or.inl fun ip hip => ?_)
    rcases hip with hip | hip
    · exact free ip _ hgateway hip
    · exact free ip _ hworkload hip
  · exact Or.inr (Or.inr (h.represents.nextOffset.trans_le hnext))

/-- The slots have different offsets, all at the start of a block. -/
theorem apart (h : t.Mirrors slots a) (blocks : Blocks slots a) :
    t.held.Pairwise fun pair pair' => pair.gateway.toNat / 4 ≠ pair'.gateway.toNat / 4 := by
  rw [h.held, List.pairwise_map]
  have distinct : slots.Pairwise fun slot slot' => slot.offset ≠ slot'.offset := List.pairwise_map.mp blocks.nodup
  refine distinct.imp_of_mem fun {slot slot'} hmem hmem' hne => ?_
  have hbase := blocks.base
  have haligned := blocks.aligned slot hmem
  have haligned' := blocks.aligned slot' hmem'
  rw [(blocks.pair_inBlock hmem).1, (blocks.pair_inBlock hmem').1]
  omega

theorem exactCapacity {range : AcceptedRange} (h : t.Mirrors slots a) (blocks : Blocks slots a)
    (hbase : a.base = range.start.base.toNat) (hhosts : a.hostCount = range.start.hostCount.toNat) :
    t.ExactCapacity range := by
  have hlength : t.held.length = slots.length := by rw [h.held, List.length_map]
  refine ⟨hbase ▸ blocks.base, fun podId order => ?_, fun pair hpair => ?_, fun k _ => ?_, h.apart blocks⟩
  · obtain ⟨result, s', a', hcall, -, -, answer⟩ := h.represents.pairAnswer h.room order podId
    rw [hlength, ← hhosts]
    exact ⟨result, s', hcall, blocks.exhausted_iff answer⟩
  · rw [← hbase, ← hhosts]
    exact h.inBlock blocks hpair
  · rw [← hbase]
    exact h.noneLost blocks k

end PairLedger.Mirrors

theorem SlotStep.range {slots slots' : List Slot} {a a' : NodeIpAllocator} {call : PairCall}
    (h : SlotStep slots a call slots' a') : a'.base = a.base ∧ a'.hostCount = a.hostCount := by
  cases h with
  | took took source => exact ⟨took.base, took.hostCount⟩
  | exhausted => exact ⟨rfl, rfl⟩
  | released => exact ⟨rfl, rfl⟩

theorem SlotStep.podId {slots slots' : List Slot} {a a' : NodeIpAllocator} {call : PairCall}
    (h : SlotStep slots a call slots' a') {slot : Slot} (hmem : slot ∈ slots') :
    slot ∈ slots ∨ slot.podId = call.podId := by
  cases h with
  | took took source =>
    rcases List.mem_cons.mp hmem with rfl | hmem
    · exact Or.inr rfl
    · exact Or.inl hmem
  | exhausted => exact Or.inl hmem
  | released => exact Or.inl (List.mem_filter.mp hmem).1

namespace PairLedger

/-- The ledger mirrors slots of the pods `ids` that make up the blocks of the range. -/
def Whole (range : AcceptedRange) (ids : Set String) (t : Option PairLedger) : Prop :=
  ∃ t' slots a, t = some t' ∧ t'.Mirrors slots a ∧ Blocks slots a ∧ a.base = range.start.base.toNat ∧
    a.hostCount = range.start.hostCount.toNat ∧ ∀ slot ∈ slots, slot.podId ∈ ids

theorem whole_start (range : AcceptedRange) (ids : Set String) : Whole range ids (some range.ledger) := by
  obtain ⟨a, mirrors, hnext, hfree, halloc, hbase, hhosts⟩ := range.mirrors
  exact ⟨_, [], a, rfl, mirrors, .start hnext hfree halloc hbase hhosts, mirrors.represents.base.symm,
    mirrors.represents.hostCount.symm, fun _ h => (nomatch h)⟩

theorem Whole.after {range : AcceptedRange} {ids : Set String} (apart : ∀ id ∈ ids, ∀ id' ∈ ids, id ≠ gatewayOwner id')
    {t : Option PairLedger} (whole : Whole range ids t) {call : PairCall} (hcall : call.podId ∈ ids) :
    Whole range ids (PairLedger.after t call) := by
  obtain ⟨t, slots, a, rfl, mirrors, blocks, hbase, hhosts, hids⟩ := whole
  obtain ⟨t', slots', a', hstep, mirrors', hslots⟩ := mirrors.step call
  obtain ⟨hbase', hhosts'⟩ := hslots.range
  refine ⟨t', slots', a', hstep, mirrors', blocks.step hslots ?_, hbase'.trans hbase, hhosts'.trans hhosts, ?_⟩
  · rintro podId rfl holder hholder
    obtain ⟨slot, hmem, rfl⟩ := List.mem_map.mp hholder
    exact ⟨apart _ (hids slot hmem) _ hcall, apart _ hcall _ (hids slot hmem)⟩
  · intro slot hmem
    rcases hslots.podId hmem with hmem | hpod
    · exact hids slot hmem
    · exact hpod ▸ hcall

/-- From every accepted range, in every run in which no id is another one followed by ":gw", the capacity is exact. -/
theorem capacity_exact (range : AcceptedRange) (calls : List PairCall)
    (unsuffixed : ∀ call ∈ calls, ∀ call' ∈ calls, call.podId ≠ gatewayOwner call'.podId) :
    ∃ t, calls.foldl after (some range.ledger) = some t ∧ t.ExactCapacity range := by
  have apart : ∀ id ∈ {id | ∃ call ∈ calls, call.podId = id}, ∀ id' ∈ {id | ∃ call ∈ calls, call.podId = id},
      id ≠ gatewayOwner id' := by
    rintro _ ⟨call, hcall, rfl⟩ _ ⟨call', hcall', rfl⟩
    exact unsuffixed call hcall call' hcall'
  have named : Along after (fun _ call => call.podId ∈ {id | ∃ call ∈ calls, call.podId = id}) (some range.ledger) calls :=
    fun pre call post hcalls => ⟨call, by rw [hcalls]; simp, rfl⟩
  obtain ⟨t, slots, a, hrun, mirrors, blocks, hbase, hhosts, -⟩ :=
    named.inv (fun _ _ whole hcall => whole.after apart hcall) (whole_start range _)
  exact ⟨t, hrun, mirrors.exactCapacity blocks hbase hhosts⟩

/-- Two pods and a release in a range of four blocks. -/
theorem capacity_exact_sixteen :
    ∃ t, [PairCall.allocate "web-0" .arbitrary, .allocate "web-1" .arbitrary, .release "web-0"].foldl after
      (some sixteen.ledger) = some t ∧ t.ExactCapacity sixteen :=
  capacity_exact sixteen _ (by simp +decide)

end PairLedger

end FleetosAgent.Workloads
