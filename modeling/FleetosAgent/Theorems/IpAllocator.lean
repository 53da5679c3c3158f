import FleetosAgent.Workloads.IpAllocatorU32

/-! # The IP allocator stays sound

The 32-bit allocator does what `NodeIpAllocator` does, whose invariant is part of its type: its offsets are bounded, and the
free ones are apart from the allocated ones. What else the arithmetic needs (`Room`) every call keeps, so no operation
overflows and the two never part. -/

namespace FleetosAgent.Workloads
open Lib

/-! ### Room for the arithmetic -/

namespace NodeIpAllocator

/-- The offsets in use are above the network address, the next one is at most a pair beyond the end, and the range ends
    below 240.0.0.0. -/
structure Room (a : NodeIpAllocator) : Prop where
  next_pos : 0 < a.nextOffset
  pos : ∀ o, o ∈ a.free ∨ o ∈ a.allocated.keys → 0 < o
  next_le : a.nextOffset ≤ a.hostCount + 1
  hosts : 2 ≤ a.hostCount
  below : a.base + a.hostCount ≤ 240 * 2 ^ 24

/-- An offset that a call may hand out. -/
structure Fresh (a : NodeIpAllocator) (o : Nat) : Prop where
  notMem : o ∉ a.allocated.keys
  pos : 0 < o
  inside : o + 1 < a.hostCount

variable {a a' : NodeIpAllocator} {podId : String}

theorem Room.fresh_of_free (room : a.Room) {o : Nat} (h : o ∈ a.free) : a.Fresh o :=
  ⟨a.disjoint o h, room.pos o (Or.inl h), (a.bounded o (Or.inl h)).2⟩

theorem Room.fresh_of_next (room : a.Room) {o : Nat} (hnext : a.nextOffset ≤ o) (hroom : o + 1 < a.hostCount) : a.Fresh o :=
  ⟨fun hk => by have := (a.bounded o (Or.inr hk)).1; omega, by have := room.next_pos; omega, hroom⟩

theorem Room.allocate (room : a.Room) {order : Enumeration Nat} {ip : UInt32} (h : a.allocate order podId = .ok (ip, a')) :
    a'.Room ∧ a'.base = a.base ∧ a'.hostCount = a.hostCount ∧ ∃ o, a.Fresh o ∧ ip = a.addr o := by
  unfold NodeIpAllocator.allocate at h
  split at h
  · next o ho =>
    have hfree := head_mem_free ho
    cases h
    refine ⟨⟨room.next_pos, ?_, room.next_le, room.hosts, room.below⟩, rfl, rfl, o, room.fresh_of_free hfree, rfl⟩
    intro x hx
    simp only [takeFreedOne, FinMap.keys_insert, Finset.mem_erase, Finset.mem_insert] at hx
    rcases hx with ⟨-, hx⟩ | rfl | hx
    · exact room.pos x (Or.inl hx)
    · exact room.pos x (Or.inl hfree)
    · exact room.pos x (Or.inr hx)
  · split at h
    · next hroom =>
      have hpos := room.next_pos
      cases h
      refine ⟨⟨Nat.succ_pos _, ?_, ?_, room.hosts, room.below⟩, rfl, rfl, _, room.fresh_of_next le_rfl (by omega), rfl⟩
      · intro x hx
        simp only [takeNextOne, FinMap.keys_insert, Finset.mem_insert] at hx
        rcases hx with hx | rfl | hx
        · exact room.pos x (Or.inl hx)
        · exact hpos
        · exact room.pos x (Or.inr hx)
      · show a.nextOffset + 1 ≤ a.hostCount + 1
        omega
    · cases h

theorem allocateP2pPair_of_reusable {o : Nat} (h : a.reusable = some o) :
    a.allocateP2pPair podId = .ok ((a.addr o, a.addr (o + 1)), a.takeFreed podId o h) := by
  unfold NodeIpAllocator.allocateP2pPair
  split
  · next o' h' =>
    obtain rfl := Option.some.inj (h.symm.trans h')
    rfl
  · next h' => cases h.symm.trans h'

theorem allocateP2pPair_of_none (h : a.reusable = none) :
    a.allocateP2pPair podId = if hroom : nextBoundary 3 a.nextOffset + 1 < a.hostCount - 1 then
      .ok ((a.addr (nextBoundary 3 a.nextOffset), a.addr (nextBoundary 3 a.nextOffset + 1)),
        a.takeNext podId hroom)
      else .error (.workload "node workload IP space exhausted") := by
  unfold NodeIpAllocator.allocateP2pPair
  split
  · next o' h' => cases h.symm.trans h'
  · rfl

/-- Where the pair of an allocation comes from: it was freed, or it is the next one. -/
inductive PairSource (a : NodeIpAllocator) (o : Nat) (a' : NodeIpAllocator) : Prop
  | freed (reusable : a.reusable = some o) (free : a'.free = (a.free.erase o).erase (o + 1))
      (next : a'.nextOffset = a.nextOffset)
  | next (boundary : o = nextBoundary 3 a.nextOffset) (free : a'.free = a.free) (next : a'.nextOffset = o + 4)

theorem allocateP2pPair_source {gw wl : UInt32} (h : a.allocateP2pPair podId = .ok ((gw, wl), a')) :
    ∃ o, Took a podId gw wl a' o ∧ PairSource a o a' := by
  obtain ⟨o, took⟩ := allocateP2pPair_took h
  have hbelow := took.below
  have same : ∀ o', o' + 2 < a.hostCount → a.addr o' = gw → o' = o := fun o' ho' hgw =>
    (a.addr_inj (by omega) (by omega)).mp (hgw.trans took.gateway)
  refine ⟨o, took, ?_⟩
  cases hreuse : a.reusable with
  | some o' =>
    rw [allocateP2pPair_of_reusable hreuse] at h
    obtain ⟨hpair, rfl⟩ := Prod.mk.inj (Except.ok.inj h)
    obtain rfl := same o' (a.bounded _ (Or.inl (reusable_spec hreuse).2.1)).2 (Prod.mk.inj hpair).1
    exact .freed hreuse rfl rfl
  | none =>
    rw [allocateP2pPair_of_none hreuse] at h
    by_cases hroom : nextBoundary 3 a.nextOffset + 1 < a.hostCount - 1
    · rw [dif_pos hroom] at h
      obtain ⟨hpair, rfl⟩ := Prod.mk.inj (Except.ok.inj h)
      obtain rfl := same _ (by omega) (Prod.mk.inj hpair).1
      exact .next rfl rfl rfl
    · rw [dif_neg hroom] at h
      cases h

theorem Room.allocateP2pPair (room : a.Room) {gw wl : UInt32} (h : a.allocateP2pPair podId = .ok ((gw, wl), a')) :
    a'.Room ∧ a'.base = a.base ∧ a'.hostCount = a.hostCount ∧
      ∃ o, a.Fresh o ∧ a.Fresh (o + 1) ∧ o % 4 = 1 ∧ gw = a.addr o ∧ wl = a.addr (o + 1) := by
  obtain ⟨o, took, source⟩ := allocateP2pPair_source h
  have haligned := took.aligned
  have hbelow := took.below
  refine ⟨?_, took.base, took.hostCount, o, ⟨took.gateway_fresh, by omega, by omega⟩,
    ⟨took.workload_fresh, by omega, by omega⟩, haligned, took.gateway, took.workload⟩
  have kept : a'.free ⊆ a.free ∧ 0 < a'.nextOffset ∧ a'.nextOffset ≤ a.hostCount + 1 := by
    cases source with
    | freed reusable free next =>
      rw [free, next]
      exact ⟨(Finset.erase_subset _ _).trans (Finset.erase_subset _ _), room.next_pos, room.next_le⟩
    | next boundary free next =>
      rw [free, next]
      exact ⟨subset_rfl, Nat.succ_pos _, by omega⟩
  refine ⟨kept.2.1, ?_, took.hostCount ▸ kept.2.2, took.hostCount ▸ room.hosts, ?_⟩
  · intro x hx
    rw [took.allocated] at hx
    simp only [FinMap.keys_insert, Finset.mem_insert] at hx
    rcases hx with hx | rfl | rfl | hx
    · exact room.pos x (Or.inl (kept.1 hx))
    · omega
    · omega
    · exact room.pos x (Or.inr hx)
  · rw [took.base, took.hostCount]
    exact room.below

/-- A release only moves offsets from the allocated ones to the free ones. -/
theorem Room.released (room : a.Room) (owned : Nat → Prop) [DecidablePred owned] (kept : Nat → String → Bool)
    (hbase : a'.base = a.base) (hhosts : a'.hostCount = a.hostCount) (hnext : a'.nextOffset = a.nextOffset)
    (hfree : a'.free = a.free ∪ a.allocated.keys.filter owned) (halloc : a'.allocated = a.allocated.retain kept) :
    a'.Room := by
  refine ⟨hnext ▸ room.next_pos, fun x hx => room.pos x ?_, ?_, hhosts ▸ room.hosts, ?_⟩
  · rw [hfree, halloc] at hx
    rcases hx with hx | hx
    · rcases Finset.mem_union.mp hx with hx | hx
      · exact Or.inl hx
      · exact Or.inr (Finset.mem_filter.mp hx).1
    · exact Or.inr (FinMap.keys_retain_subset _ _ hx)
  · rw [hnext, hhosts]
    exact room.next_le
  · rw [hbase, hhosts]
    exact room.below

/-! ### Calls -/

def step (a : NodeIpAllocator) : AllocatorCall Nat → AllocatorAnswer × NodeIpAllocator
  | .allocate podId order =>
    match a.allocate order podId with
    | .ok (ip, a') => (.address (.ok ip), a')
    | .error e => (.address (.error e), a)
  | .release podId => (.released, a.release podId)
  | .allocateP2pPair podId _ =>
    match a.allocateP2pPair podId with
    | .ok (pair, a') => (.pair (.ok pair), a')
    | .error e => (.pair (.error e), a)
  | .releaseP2pPair podId => (.released, a.releaseP2pPair podId)

end NodeIpAllocator

/-- The addresses that a call hands out. -/
def AllocatorAnswer.addresses : AllocatorAnswer → List UInt32
  | .address (.ok ip) => [ip]
  | .pair (.ok (gateway, workload)) => [gateway, workload]
  | _ => []

def AllocatorAnswer.Failed : AllocatorAnswer → Prop
  | .address (.error _) | .pair (.error _) => True
  | _ => False

namespace NodeIpAllocator

/-- What the answer to a call tells about it. -/
structure Answered (a : NodeIpAllocator) (answer : AllocatorAnswer) (a' : NodeIpAllocator) : Prop where
  room : a'.Room
  base : a'.base = a.base
  hostCount : a'.hostCount = a.hostCount
  addresses : ∀ ip ∈ answer.addresses, ∃ o, a.Fresh o ∧ ip = a.addr o
  pair : ∀ gw wl, answer = .pair (.ok (gw, wl)) →
    ∃ o, a.Fresh o ∧ a.Fresh (o + 1) ∧ o % 4 = 1 ∧ gw = a.addr o ∧ wl = a.addr (o + 1)
  failed : answer.Failed → a' = a

theorem step_answered {a : NodeIpAllocator} (room : a.Room) (call : AllocatorCall Nat) :
    a.Answered (a.step call).1 (a.step call).2 := by
  cases call with
  | allocate podId order =>
    unfold step
    dsimp only
    cases h : a.allocate order podId with
    | error e => exact ⟨room, rfl, rfl, fun _ h => (nomatch h), fun _ _ h => (nomatch h), fun _ => rfl⟩
    | ok taken =>
      obtain ⟨ip, a'⟩ := taken
      obtain ⟨room', hbase, hhosts, taken⟩ := room.allocate h
      exact ⟨room', hbase, hhosts, List.forall_mem_singleton.mpr taken, fun _ _ h => (nomatch h), fun h => (nomatch h)⟩
  | allocateP2pPair podId order =>
    unfold step
    dsimp only
    cases h : a.allocateP2pPair podId with
    | error e => exact ⟨room, rfl, rfl, fun _ h => (nomatch h), fun _ _ h => (nomatch h), fun _ => rfl⟩
    | ok taken =>
      obtain ⟨⟨gw, wl⟩, a'⟩ := taken
      obtain ⟨room', hbase, hhosts, o, hgw, hwl, aligned, rfl, rfl⟩ := room.allocateP2pPair h
      refine ⟨room', hbase, hhosts, ?_, ?_, fun h => (nomatch h)⟩
      · refine List.forall_mem_cons.mpr ⟨⟨o, hgw, rfl⟩, List.forall_mem_singleton.mpr ⟨o + 1, hwl, rfl⟩⟩
      · rintro gw wl ⟨⟩
        exact ⟨o, hgw, hwl, aligned, rfl, rfl⟩
  | release podId =>
    exact ⟨room.released _ _ rfl rfl rfl rfl rfl, rfl, rfl, fun _ h => (nomatch h), fun _ _ h => (nomatch h),
      fun h => (nomatch h)⟩
  | releaseP2pPair podId =>
    exact ⟨room.released _ _ rfl rfl rfl rfl rfl, rfl, rfl, fun _ h => (nomatch h), fun _ _ h => (nomatch h),
      fun h => (nomatch h)⟩

end NodeIpAllocator

/-! ### The 32-bit allocator refines it -/

section Sets
variable {f : Finset UInt32} {f' : Finset Nat} {m : FinMap UInt32 String} {m' : FinMap Nat String}

theorem uint32_mod_four (o : UInt32) : o % 4 = 1 ↔ o.toNat % 4 = 1 := by
  rw [← UInt32.toNat_inj, UInt32.toNat_mod]
  rfl

theorem mem_erase_toNat (h : ∀ o : UInt32, o ∈ f ↔ o.toNat ∈ f') (x o : UInt32) :
    o ∈ f.erase x ↔ o.toNat ∈ f'.erase x.toNat := by
  rw [Finset.mem_erase, Finset.mem_erase, h, Ne, Ne, UInt32.toNat_inj]

theorem get_insert_toNat (h : ∀ o : UInt32, m.get o = m'.get o.toNat) (x o : UInt32) (owner : String) :
    (m.insert x owner).get o = (m'.insert x.toNat owner).get o.toNat := by
  rw [FinMap.get_insert, FinMap.get_insert, h]
  exact if_congr UInt32.toNat_inj.symm rfl rfl

end Sets

namespace U32Allocator
open NodeIpAllocator

/-- The 32-bit allocator holds the offsets of the other one. -/
structure Represents (s : U32Allocator) (a : NodeIpAllocator) : Prop where
  base : s.base.toNat = a.base
  hostCount : s.hostCount.toNat = a.hostCount
  nextOffset : s.nextOffset.toNat = a.nextOffset
  free : ∀ o : UInt32, o ∈ s.free ↔ o.toNat ∈ a.free
  allocated : ∀ o : UInt32, s.allocated.get o = a.allocated.get o.toNat

variable {s s' : U32Allocator} {a : NodeIpAllocator} {podId : String}

theorem Represents.unique (h : s.Represents a) (h' : s'.Represents a) : s = s' := by
  obtain ⟨base, hostCount, nextOffset, free, allocated⟩ := s
  obtain ⟨base', hostCount', nextOffset', free', allocated'⟩ := s'
  obtain rfl : base = base' := UInt32.toNat_inj.mp (h.base.trans h'.base.symm)
  obtain rfl : hostCount = hostCount' := UInt32.toNat_inj.mp (h.hostCount.trans h'.hostCount.symm)
  obtain rfl : nextOffset = nextOffset' := UInt32.toNat_inj.mp (h.nextOffset.trans h'.nextOffset.symm)
  obtain rfl : free = free' := Finset.ext fun o => (h.free o).trans (h'.free o).symm
  obtain rfl : allocated = allocated' := FinMap.ext fun o => (h.allocated o).trans (h'.allocated o).symm
  rfl

theorem Represents.mem_keys (h : s.Represents a) (o : UInt32) : o ∈ s.allocated.keys ↔ o.toNat ∈ a.allocated.keys := by
  rw [s.allocated.mem_keys, a.allocated.mem_keys, h.allocated]

theorem Represents.mem_free (h : s.Represents a) (o : Nat) : o ∈ a.free ↔ ∃ u ∈ s.free, u.toNat = o := by
  constructor
  · intro ho
    have hbound := (a.bounded o (Or.inl ho)).2
    have hfits := a.fits
    have hval : (UInt32.ofNat o).toNat = o := UInt32.toNat_ofNat_of_lt' (by
      show o < 2 ^ 32
      omega)
    exact ⟨UInt32.ofNat o, (h.free _).mpr (hval.symm ▸ ho), hval⟩
  · rintro ⟨u, hu, rfl⟩
    exact (h.free u).mp hu

theorem addr_toNat {o : Nat} (h : o < a.hostCount) : (a.addr o).toNat = a.base + o := by
  have hfits := a.fits
  exact UInt32.toNat_ofNat_of_lt' (by
    show a.base + o < 2 ^ 32
    omega)

/-- An address inside the range is added up without overflow. -/
theorem Represents.checked_addr (h : s.Represents a) {o : UInt32} (ho : o.toNat < a.hostCount) :
    checkedAdd s.base o = some (a.addr o.toNat) := by
  have hfits := a.fits
  obtain ⟨ip, hip, hval⟩ := checkedAdd_of_lt (x := s.base) (y := o) (by rw [h.base]; omega)
  rw [hip]
  exact congrArg some (UInt32.toNat_inj.mp (by rw [hval, h.base, addr_toNat ho]))

theorem Represents.last (h : s.Represents a) (room : a.Room) :
    ∃ last, checkedSub s.hostCount 1 = some last ∧ last.toNat = a.hostCount - 1 := by
  have hosts := room.hosts
  obtain ⟨last, hlast, hval⟩ := checkedSub_of_le (x := s.hostCount) (y := 1) (by
    rw [h.hostCount]
    exact le_trans (by decide) hosts)
  exact ⟨last, hlast, by rw [hval, h.hostCount]; rfl⟩

theorem allocate_of_free {order : Enumeration Nat} {o : Nat} (h : (order.list a.free).head? = some o) :
    a.allocate order podId = .ok (a.addr o, a.takeFreedOne podId o (head_mem_free h)) := by
  unfold NodeIpAllocator.allocate
  split
  · next o' h' =>
    obtain rfl := Option.some.inj (h.symm.trans h')
    rfl
  · next h' => cases h.symm.trans h'

theorem allocate_of_none {order : Enumeration Nat} (h : (order.list a.free).head? = none) :
    a.allocate order podId = if hroom : a.nextOffset < a.hostCount - 1 then
      .ok (a.addr a.nextOffset, a.takeNextOne podId hroom) else .error (.workload "node workload IP space exhausted") := by
  unfold NodeIpAllocator.allocate
  split
  · next o' h' => cases h.symm.trans h'
  · rfl

theorem Represents.allocate (h : s.Represents a) (room : a.Room) (order : Enumeration UInt32) (podId : String) :
    ∃ order', ∃ s', s.step (.allocate podId order) = some ((a.step (.allocate podId order')).1, s') ∧
      s'.Represents (a.step (.allocate podId order')).2 := by
  obtain ⟨order', hwalk⟩ := order.exists_list_eq_map (fun _ _ => UInt32.toNat_inj.mp) h.mem_free
  have hhead : (order'.list a.free).head? = (order.list s.free).head?.map UInt32.toNat := by rw [hwalk, List.head?_map]
  refine ⟨order', ?_⟩
  unfold U32Allocator.step U32Allocator.allocate NodeIpAllocator.step
  dsimp only
  cases hpick : (order.list s.free).head? with
  | some o =>
    have hfree : o ∈ s.free := (order.mem_list _ _).mp (List.mem_of_mem_head? hpick)
    have hbound := (a.bounded o.toNat (Or.inl ((h.free o).mp hfree))).2
    rw [hpick, Option.map_some] at hhead
    rw [allocate_of_free hhead]
    dsimp only
    rw [h.checked_addr (by omega)]
    exact ⟨_, rfl, h.base, h.hostCount, h.nextOffset, mem_erase_toNat h.free o,
      fun x => get_insert_toNat h.allocated o x podId⟩
  | none =>
    rw [hpick, Option.map_none] at hhead
    obtain ⟨last, hlast, hval⟩ := h.last room
    have hbefore : last ≤ s.nextOffset ↔ ¬a.nextOffset < a.hostCount - 1 := by
      rw [UInt32.le_iff_toNat_le, hval, h.nextOffset, Nat.not_lt]
    rw [allocate_of_none hhead, hlast]
    dsimp only [Option.bind_eq_bind, Option.bind_some]
    by_cases hroom : a.nextOffset < a.hostCount - 1
    · have hfits := a.fits
      obtain ⟨next, hnext, hnextval⟩ := checkedAdd_of_toNat s.nextOffset 1 1 rfl (by rw [h.nextOffset]; omega)
      rw [if_neg (mt hbefore.mp (not_not.mpr hroom)), dif_pos hroom, hnext, h.checked_addr (by rw [h.nextOffset]; omega)]
      dsimp only [Option.bind_some]
      rw [h.nextOffset]
      refine ⟨_, rfl, h.base, h.hostCount, ?_, h.free, fun x => ?_⟩
      · exact hnextval.trans (congrArg (· + 1) h.nextOffset)
      · have := get_insert_toNat h.allocated s.nextOffset x podId
        rwa [h.nextOffset] at this
    · rw [if_pos (hbefore.mpr hroom), dif_neg hroom]
      exact ⟨s, rfl, h⟩

/-- The sorted candidates are the free offsets in order. -/
theorem Represents.candidates (h : s.Represents a) (order : Enumeration UInt32) :
    ((order.list s.free).mergeSort fun o o' => o ≤ o').map UInt32.toNat = Enumeration.sorted.list a.free := by
  have hperm := List.mergeSort_perm (order.list s.free) fun o o' => decide (o ≤ o')
  refine List.Perm.eq_of_pairwise (fun _ _ _ _ => le_antisymm) ?_ (Enumeration.pairwise_sorted _) ?_
  · have trans : ∀ x y z : UInt32, decide (x ≤ y) = true → decide (y ≤ z) = true → decide (x ≤ z) = true :=
      fun x y z hxy hyz => decide_eq_true (UInt32.le_trans (of_decide_eq_true hxy) (of_decide_eq_true hyz))
    have total : ∀ x y : UInt32, (decide (x ≤ y) || decide (y ≤ x)) = true := fun x y => by simpa using UInt32.le_total x y
    rw [List.pairwise_map]
    exact (List.pairwise_mergeSort trans total (order.list s.free)).imp fun hle =>
      UInt32.le_iff_toNat_le.mp (of_decide_eq_true hle)
  · rw [List.perm_ext_iff_of_nodup ((hperm.nodup_iff.mpr (order.nodup _)).map fun _ _ => UInt32.toNat_inj.mp)
      (Enumeration.nodup _ _)]
    intro o
    rw [Enumeration.mem_list, h.mem_free, List.mem_map]
    exact exists_congr fun u => and_congr_left fun _ => hperm.mem_iff.trans (order.mem_list _ _)

theorem Represents.findPair (h : s.Represents a) (l : List UInt32) (hl : ∀ o ∈ l, o ∈ s.free) :
    ∃ reuse, findPair s.free l = some reuse ∧
      (l.map UInt32.toNat).find? (fun o => o % 4 = 1 ∧ o + 1 ∈ a.free) = reuse.map UInt32.toNat := by
  induction l with
  | nil => exact ⟨none, rfl, rfl⟩
  | cons o l ih =>
    obtain ⟨ho, hl⟩ := List.forall_mem_cons.mp hl
    obtain ⟨reuse, hfind, hval⟩ := ih hl
    rw [U32Allocator.findPair, List.map_cons, List.find?_cons]
    by_cases haligned : o % 4 = 1
    · have hfits := a.fits
      have hbound := (a.bounded o.toNat (Or.inl ((h.free o).mp ho))).2
      obtain ⟨next, hnext, hnextval⟩ := checkedAdd_of_toNat o 1 1 rfl (by omega)
      have hmem : next ∈ s.free ↔ o.toNat + 1 ∈ a.free := by rw [h.free, hnextval]
      rw [if_pos haligned, hnext]
      dsimp only [Option.bind_eq_bind, Option.bind_some]
      by_cases hfree : next ∈ s.free
      · rw [decide_eq_true ⟨(uint32_mod_four o).mp haligned, hmem.mp hfree⟩]
        exact ⟨some o, if_pos hfree, rfl⟩
      · rw [decide_eq_false fun hpair => hfree (hmem.mpr hpair.2)]
        exact ⟨reuse, (if_neg hfree).trans hfind, hval⟩
    · rw [decide_eq_false fun hpair => haligned ((uint32_mod_four o).mpr hpair.1)]
      exact ⟨reuse, (if_neg haligned).trans hfind, hval⟩

theorem nextBoundary_eq (fuel : Nat) (o : UInt32) (hturns : ∃ d ≤ fuel, (o.toNat + d) % 4 = 1)
    (hfits : o.toNat + fuel < 2 ^ 32) :
    ∃ z, nextBoundary fuel o = some z ∧ z.toNat = NodeIpAllocator.nextBoundary fuel o.toNat := by
  induction fuel generalizing o with
  | zero =>
    obtain ⟨d, hd, hmod⟩ := hturns
    obtain rfl : d = 0 := by omega
    exact ⟨o, if_pos ((uint32_mod_four o).mpr hmod), rfl⟩
  | succ fuel ih =>
    rw [nextBoundary, NodeIpAllocator.nextBoundary]
    by_cases haligned : o % 4 = 1
    · rw [if_pos haligned, if_pos ((uint32_mod_four o).mp haligned)]
      exact ⟨o, rfl, rfl⟩
    · have hnat := mt (uint32_mod_four o).mpr haligned
      obtain ⟨next, hnext, hval⟩ := checkedAdd_of_toNat o 1 1 rfl (by omega)
      obtain ⟨d, hd, hmod⟩ := hturns
      obtain ⟨z, hz, hzval⟩ := ih next ⟨d - 1, by omega, by
        have : d ≠ 0 := fun h0 => hnat (by simpa [h0] using hmod)
        rw [hval]
        omega⟩ (by omega)
      rw [if_neg haligned, if_neg hnat, hnext]
      exact ⟨z, hz, hval ▸ hzval⟩

theorem nextBoundary_le (o : Nat) : NodeIpAllocator.nextBoundary 3 o ≤ o + 3 := by
  unfold NodeIpAllocator.nextBoundary NodeIpAllocator.nextBoundary NodeIpAllocator.nextBoundary
    NodeIpAllocator.nextBoundary
  split_ifs <;> omega

theorem Represents.pairInserted (h : s.Represents a) (podId : String) {o guest : UInt32}
    (hguest : guest.toNat = o.toNat + 1) (x : UInt32) :
    ((s.allocated.insert o (gatewayOwner podId)).insert guest podId).get x =
      ((a.allocated.insert o.toNat (gatewayOwner podId)).insert (o.toNat + 1) podId).get x.toNat := by
  rw [← hguest]
  exact get_insert_toNat (fun y => get_insert_toNat h.allocated o y _) guest x podId

theorem checkedAdd_addr {o : Nat} (h : o + 1 < a.hostCount) : checkedAdd (a.addr o) 1 = some (a.addr (o + 1)) := by
  have hfits := a.fits
  have hgateway := addr_toNat (a := a) (o := o) (by omega)
  obtain ⟨ip, hip, hval⟩ := checkedAdd_of_toNat (a.addr o) 1 1 rfl (by omega)
  refine hip.trans (congrArg some (UInt32.toNat_inj.mp ?_))
  rw [hval, hgateway, addr_toNat (by omega)]
  rfl

/-- A pair of freed offsets is taken again. -/
theorem Represents.reusePair (h : s.Represents a) {order : Enumeration UInt32} (podId : String) {o : UInt32}
    (hfind : U32Allocator.findPair s.free ((order.list s.free).mergeSort fun o o' => o ≤ o') = some (some o))
    (hreuse : a.reusable = some o.toNat) :
    ∃ s', s.step (.allocateP2pPair podId order) = some ((a.step (.allocateP2pPair podId Enumeration.sorted)).1, s') ∧
      s'.Represents (a.step (.allocateP2pPair podId Enumeration.sorted)).2 := by
  have hfits := a.fits
  obtain ⟨hfree, hnext, -⟩ := reusable_spec hreuse
  have hbound := (a.bounded _ (Or.inl hnext)).2
  obtain ⟨guest, hguest, hguestval⟩ := checkedAdd_of_toNat o 1 1 rfl (by omega)
  unfold U32Allocator.step U32Allocator.allocateP2pPair NodeIpAllocator.step
  dsimp only
  rw [hfind, allocateP2pPair_of_reusable hreuse]
  dsimp only [Option.bind_eq_bind, Option.bind_some]
  rw [hguest, h.checked_addr (by omega)]
  dsimp only [Option.bind_some]
  rw [checkedAdd_addr (by omega)]
  refine ⟨_, rfl, h.base, h.hostCount, h.nextOffset, fun x => ?_, h.pairInserted podId hguestval⟩
  have herased := mem_erase_toNat (mem_erase_toNat h.free o) guest x
  rwa [hguestval] at herased

/-- With no such pair the next boundary is tried. -/
theorem Represents.freshPair (h : s.Represents a) (room : a.Room) {order : Enumeration UInt32} (podId : String)
    (hfind : U32Allocator.findPair s.free ((order.list s.free).mergeSort fun o o' => o ≤ o') = some none)
    (hreuse : a.reusable = none) :
    ∃ s', s.step (.allocateP2pPair podId order) = some ((a.step (.allocateP2pPair podId Enumeration.sorted)).1, s') ∧
      s'.Represents (a.step (.allocateP2pPair podId Enumeration.sorted)).2 := by
  have hfits := a.fits
  have hnext_le := room.next_le
  have hbelow := room.below
  obtain ⟨o, ho, hoval⟩ := nextBoundary_eq 3 s.nextOffset
    ⟨(5 - s.nextOffset.toNat % 4) % 4, by omega, by omega⟩ (by rw [h.nextOffset]; omega)
  rw [h.nextOffset] at hoval
  have hle := nextBoundary_le a.nextOffset
  obtain ⟨guest, hguest, hguestval⟩ := checkedAdd_of_toNat o 1 1 rfl (by omega)
  obtain ⟨last, hlast, hlastval⟩ := h.last room
  have hbefore : last ≤ guest ↔ ¬NodeIpAllocator.nextBoundary 3 a.nextOffset + 1 < a.hostCount - 1 := by
    rw [UInt32.le_iff_toNat_le, hlastval, hguestval, hoval, Nat.not_lt]
  unfold U32Allocator.step U32Allocator.allocateP2pPair NodeIpAllocator.step
  dsimp only
  rw [hfind, allocateP2pPair_of_none hreuse]
  dsimp only [Option.bind_eq_bind, Option.bind_some]
  rw [ho]
  dsimp only [Option.bind_some]
  rw [hguest, hlast]
  dsimp only [Option.bind_some]
  by_cases hroom : NodeIpAllocator.nextBoundary 3 a.nextOffset + 1 < a.hostCount - 1
  · obtain ⟨next, hnext, hnextval⟩ := checkedAdd_of_toNat o 4 4 rfl (by omega)
    rw [if_neg (mt hbefore.mp (not_not.mpr hroom)), dif_pos hroom, hnext, h.checked_addr (by omega),
      h.checked_addr (by omega)]
    dsimp only [Option.bind_some]
    rw [hguestval, hoval]
    refine ⟨_, rfl, h.base, h.hostCount, ?_, h.free, fun x => ?_⟩
    · exact hnextval.trans (congrArg (· + 4) hoval)
    · have hinserted := h.pairInserted podId hguestval x
      rwa [hoval] at hinserted
  · rw [if_pos (hbefore.mpr hroom), dif_neg hroom]
    exact ⟨s, rfl, h⟩

theorem Represents.allocateP2pPair (h : s.Represents a) (room : a.Room) (order : Enumeration UInt32) (podId : String) :
    ∃ s', s.step (.allocateP2pPair podId order) = some ((a.step (.allocateP2pPair podId Enumeration.sorted)).1, s') ∧
      s'.Represents (a.step (.allocateP2pPair podId Enumeration.sorted)).2 := by
  obtain ⟨reuse, hfind, hval⟩ := h.findPair ((order.list s.free).mergeSort fun o o' => o ≤ o') fun o ho =>
    (order.mem_list _ _).mp ((List.mergeSort_perm _ _).mem_iff.mp ho)
  rw [h.candidates] at hval
  cases reuse with
  | some o => exact h.reusePair podId hfind hval
  | none => exact h.freshPair room podId hfind hval

/-- A release frees the offsets of some owners and keeps the entries of others; both look at the table alone. -/
theorem Represents.released {s' : U32Allocator} {a' : NodeIpAllocator} (h : s.Represents a) (owned : Option String → Prop)
    [DecidablePred owned] (kept : String → Bool) (hs : s' = { s with
      free := s.free ∪ s.allocated.keys.filter fun o => owned (s.allocated.get o)
      allocated := s.allocated.retain fun _ owner => kept owner })
    (hbase : a'.base = a.base) (hhosts : a'.hostCount = a.hostCount) (hnext : a'.nextOffset = a.nextOffset)
    (hfree : a'.free = a.free ∪ a.allocated.keys.filter fun o => owned (a.allocated.get o))
    (halloc : a'.allocated = a.allocated.retain fun _ owner => kept owner) : s'.Represents a' := by
  subst hs
  refine ⟨h.base.trans hbase.symm, h.hostCount.trans hhosts.symm, h.nextOffset.trans hnext.symm, fun o => ?_, fun o => ?_⟩
  · rw [hfree, Finset.mem_union, Finset.mem_union, Finset.mem_filter, Finset.mem_filter, h.free, h.mem_keys, h.allocated]
  · rw [halloc]
    show (s.allocated.get o).filter _ = (a.allocated.get o.toNat).filter _
    rw [h.allocated]

theorem Represents.release (h : s.Represents a) (podId : String) : (s.release podId).Represents (a.release podId) :=
  h.released (· = some podId) (fun owner => !(owner = podId)) rfl rfl rfl rfl rfl rfl

theorem Represents.releaseP2pPair (h : s.Represents a) (podId : String) :
    (s.releaseP2pPair podId).Represents (a.releaseP2pPair podId) :=
  h.released (fun owner => owner = some podId ∨ owner = some (gatewayOwner podId))
    (fun owner => !(owner = podId ∨ owner = gatewayOwner podId)) rfl rfl rfl rfl rfl rfl

theorem Represents.step (h : s.Represents a) (room : a.Room) (call : AllocatorCall UInt32) :
    ∃ call' s', s.step call = some ((a.step call').1, s') ∧ s'.Represents (a.step call').2 := by
  cases call with
  | allocate podId order =>
    obtain ⟨order', s', hstep, hrep⟩ := h.allocate room order podId
    exact ⟨.allocate podId order', s', hstep, hrep⟩
  | allocateP2pPair podId order =>
    obtain ⟨s', hstep, hrep⟩ := h.allocateP2pPair room order podId
    exact ⟨.allocateP2pPair podId .sorted, s', hstep, hrep⟩
  | release podId => exact ⟨.release podId, _, rfl, h.release podId⟩
  | releaseP2pPair podId => exact ⟨.releaseP2pPair podId, _, rfl, h.releaseP2pPair podId⟩

end U32Allocator

/-! ### The range of a CIDR -/

/-- The network address: the host bits are zero. -/
def cidrNetwork (ip bits : UInt32) : Nat := ip.toNat / 2 ^ (32 - bits.toNat) * 2 ^ (32 - bits.toNat)

/-- The broadcast address: the host bits are one. -/
def cidrBroadcast (ip bits : UInt32) : Nat := cidrNetwork ip bits + 2 ^ (32 - bits.toNat) - 1

section Range
variable {ip k : UInt32}

theorem one_shiftLeft_toNat (hk : k.toNat < 32) : ((1 : UInt32) <<< k).toNat = 2 ^ k.toNat := by
  rw [UInt32.toNat_shiftLeft, Nat.mod_eq_of_lt hk, Nat.shiftLeft_eq]
  show 1 * 2 ^ k.toNat % 2 ^ 32 = _
  rw [one_mul, Nat.mod_eq_of_lt (Nat.pow_lt_pow_right (by decide) hk)]

/-- Masking clears the low bits. -/
theorem masked_toNat (ip : UInt32) (hk : k.toNat < 32) :
    (ip &&& ((0xFFFFFFFF : UInt32) <<< k)).toNat = ip.toNat / 2 ^ k.toNat * 2 ^ k.toNat := by
  rw [UInt32.toNat_and, UInt32.toNat_shiftLeft, Nat.mod_eq_of_lt hk, ← Nat.shiftRight_eq_div_pow, ← Nat.shiftLeft_eq]
  refine Nat.eq_of_testBit_eq fun i => ?_
  have ones : UInt32.toNat 0xFFFFFFFF = 2 ^ 32 - 1 := rfl
  rw [ones, Nat.testBit_and, Nat.testBit_mod_two_pow, Nat.testBit_shiftLeft, Nat.testBit_shiftLeft, Nat.testBit_shiftRight,
    Nat.testBit_two_pow_sub_one]
  by_cases hki : k.toNat ≤ i
  · rw [Nat.add_sub_cancel' hki]
    by_cases hi : i < 32
    · have : i - k.toNat < 32 := by omega
      simp [hki, hi, this]
    · have : ip.toNat.testBit i = false :=
        Nat.testBit_lt_two_pow (ip.toNat_lt.trans_le (Nat.pow_le_pow_right (by decide) (by omega)))
      simp [this]
  · simp [hki]

/-- A range that does not start in 240.0.0.0/4 ends below it. -/
theorem range_below (hk : k.toNat ≤ 28) (hstart : ¬(ip &&& ((0xFFFFFFFF : UInt32) <<< k)) >>> 28 = 0xF) :
    ip.toNat / 2 ^ k.toNat * 2 ^ k.toNat + 2 ^ k.toNat ≤ 240 * 2 ^ 24 := by
  have start : ip.toNat / 2 ^ k.toNat * 2 ^ k.toNat < 15 * 2 ^ 28 := by
    rw [← masked_toNat ip (by omega)]
    have hlt := (ip &&& ((0xFFFFFFFF : UInt32) <<< k)).toNat_lt
    have hshift : (ip &&& ((0xFFFFFFFF : UInt32) <<< k)).toNat / 2 ^ 28 ≠ 15 := fun h => hstart (UInt32.toNat_inj.mp (by
      rw [UInt32.toNat_shiftRight]
      exact (Nat.shiftRight_eq_div_pow _ _).trans h))
    omega
  -- Both ends are multiples of the size of the range.
  have split : 15 * 2 ^ 28 = 15 * 2 ^ (28 - k.toNat) * 2 ^ k.toNat := by
    rw [Nat.mul_assoc, ← Nat.pow_add, Nat.sub_add_cancel hk]
  rw [split] at start
  have next : ip.toNat / 2 ^ k.toNat + 1 ≤ 15 * 2 ^ (28 - k.toNat) := Nat.lt_of_mul_lt_mul_right start
  calc ip.toNat / 2 ^ k.toNat * 2 ^ k.toNat + 2 ^ k.toNat
      = (ip.toNat / 2 ^ k.toNat + 1) * 2 ^ k.toNat := by rw [Nat.add_mul, Nat.one_mul]
    _ ≤ 15 * 2 ^ (28 - k.toNat) * 2 ^ k.toNat := Nat.mul_le_mul_right _ next
    _ = 240 * 2 ^ 24 := split.symm

end Range

namespace U32Allocator
open NodeIpAllocator

variable {s : U32Allocator} {a : NodeIpAllocator}

theorem shift_toNat {bits : UInt32} (hi : bits.toNat ≤ 28) : (32 - bits).toNat = 32 - bits.toNat :=
  UInt32.toNat_sub_of_le _ _ (UInt32.le_iff_toNat_le.mpr (hi.trans (by decide)))

/-- None of the operations of `new` overflows. -/
theorem new_eq {std : StdParsers} {cidr : String} {ip bits : UInt32} (hparse : parseCidr std cidr = .ok (ip, bits))
    (lo : 8 ≤ bits.toNat) (hi : bits.toNat ≤ 28) : new std cidr = some (
      if (ip &&& ((0xFFFFFFFF : UInt32) <<< (32 - bits))) >>> 28 = 0xF then
        .error (.workload "workload_ip_cidr overlaps the 240.0.0.0/4 dummy space")
      else .ok ⟨ip &&& ((0xFFFFFFFF : UInt32) <<< (32 - bits)), 1 <<< (32 - bits), 1, ∅, ∅⟩) := by
  have hbits : 8 ≤ bits ∧ bits ≤ 28 := ⟨UInt32.le_iff_toNat_le.mpr lo, UInt32.le_iff_toNat_le.mpr hi⟩
  have hzero : bits ≠ 0 := fun h0 => absurd (h0 ▸ lo) (by decide)
  have hsub : checkedSub 32 bits = some (32 - bits) := if_pos (UInt32.le_iff_toNat_le.mpr (hi.trans (by decide)))
  have hshl : ∀ x, checkedShl x (32 - bits) = some (x <<< (32 - bits)) := fun x =>
    if_pos (UInt32.lt_iff_toNat_lt.mpr (by rw [shift_toNat hi]; show 32 - bits.toNat < 32; omega))
  unfold new
  rw [hparse]
  dsimp only
  rw [if_neg (not_not.mpr hbits), hsub]
  dsimp only [Option.bind_eq_bind, Option.bind_some]
  rw [if_neg hzero, hshl, hshl]
  dsimp only [Option.bind_some]
  split <;> rfl

/-- An accepted range gives an allocator with room, and the other model gives the same one. -/
theorem new_represents {std : StdParsers} {cidr : String} {s : U32Allocator} (h : new std cidr = some (.ok s)) :
    ∃ ip bits a, parseCidr std cidr = .ok (ip, bits) ∧ NodeIpAllocator.new std cidr = .ok a ∧ s.Represents a ∧ a.Room ∧
      a.base = cidrNetwork ip bits ∧ a.hostCount = 2 ^ (32 - bits.toNat) := by
  cases hparse : parseCidr std cidr with
  | error e =>
    rw [new, hparse] at h
    cases h
  | ok parsed =>
    obtain ⟨ip, bits⟩ := parsed
    by_cases hbits : 8 ≤ bits ∧ bits ≤ 28
    · have lo : 8 ≤ bits.toNat := UInt32.le_iff_toNat_le.mp hbits.1
      have hi : bits.toNat ≤ 28 := UInt32.le_iff_toNat_le.mp hbits.2
      have hshift := shift_toNat hi
      rw [new_eq hparse lo hi] at h
      by_cases hdummy : (ip &&& ((0xFFFFFFFF : UInt32) <<< (32 - bits))) >>> 28 = 0xF
      · rw [if_pos hdummy] at h
        cases h
      · rw [if_neg hdummy] at h
        obtain rfl := Except.ok.inj (Option.some.inj h)
        have hbase := masked_toNat ip (k := 32 - bits) (by omega)
        have hhosts := one_shiftLeft_toNat (k := 32 - bits) (by omega)
        rw [hshift] at hbase hhosts
        have hnew : NodeIpAllocator.new std cidr = ofBits ip bits := by
          rw [NodeIpAllocator.new, hparse]
          rfl
        unfold ofBits at hnew
        dsimp only at hnew
        rw [dif_pos hbits, if_neg hdummy] at hnew
        refine ⟨ip, bits, _, rfl, hnew, ⟨rfl, rfl, rfl, ?_, ?_⟩, ⟨Nat.one_pos, ?_, ?_, ?_, ?_⟩, hbase, hhosts⟩
        · exact fun o => by simp
        · exact fun o => rfl
        · exact fun o ho => by simp at ho
        · exact Nat.le_add_left 1 _
        · show 2 ≤ ((1 : UInt32) <<< (32 - bits)).toNat
          rw [hhosts]
          exact Nat.pow_le_pow_right (n := 2) (by decide) (show 1 ≤ 32 - bits.toNat by omega)
        · show (ip &&& ((0xFFFFFFFF : UInt32) <<< (32 - bits))).toNat + ((1 : UInt32) <<< (32 - bits)).toNat ≤ _
          rw [hbase, hhosts, ← hshift]
          exact range_below (by omega) hdummy
    · rw [new, hparse] at h
      dsimp only at h
      rw [if_pos hbits] at h
      cases h

/-! ### Runs -/

/-- What a call does to an allocator of the range from `network` to `broadcast`. -/
structure SoundCall (network broadcast : Nat) (s : U32Allocator) (answer : AllocatorAnswer) (s' : U32Allocator) : Prop where
  notAllocated : ∀ ip ∈ answer.addresses, ∀ o ∈ s.allocated.keys, ip.toNat ≠ s.base.toNat + o.toNat
  inside : ∀ ip ∈ answer.addresses, network < ip.toNat ∧ ip.toNat < broadcast ∧ ip.toNat < 240 * 2 ^ 24
  pair : ∀ gateway workload, answer = .pair (.ok (gateway, workload)) →
    ∃ k, gateway.toNat = s.base.toNat + 4 * k + 1 ∧ workload.toNat = s.base.toNat + 4 * k + 2
  failed : answer.Failed → s' = s

theorem Represents.soundCall (h : s.Represents a) (room : a.Room) (call : AllocatorCall UInt32) :
    ∃ answer s', s.step call = some (answer, s') ∧ SoundCall a.base (a.base + a.hostCount - 1) s answer s' := by
  obtain ⟨call', s', hstep, hrep⟩ := h.step room call
  have answered := step_answered room call'
  refine ⟨_, s', hstep, ?_, ?_, ?_, ?_⟩
  · intro ip hip o ho heq
    obtain ⟨x, fresh, rfl⟩ := answered.addresses ip hip
    have hinside := fresh.inside
    rw [addr_toNat (by omega), h.base] at heq
    obtain rfl : x = o.toNat := by omega
    exact fresh.notMem ((h.mem_keys o).mp ho)
  · intro ip hip
    obtain ⟨x, fresh, rfl⟩ := answered.addresses ip hip
    have hinside := fresh.inside
    have hpos := fresh.pos
    have hbelow := room.below
    rw [addr_toNat (by omega)]
    omega
  · intro gateway workload hpair
    obtain ⟨o, hgw, hwl, aligned, rfl, rfl⟩ := answered.pair gateway workload hpair
    have hinside := hwl.inside
    rw [addr_toNat (by omega), addr_toNat (by omega), h.base]
    exact ⟨o / 4, by omega, by omega⟩
  · intro hfailed
    rw [answered.failed hfailed] at hrep
    exact hrep.unique h

/-- The 32-bit allocator follows the other one through a run. -/
theorem Represents.run (h : s.Represents a) (room : a.Room) (calls : List (AllocatorCall UInt32)) :
    ∃ s' a', s.run calls = some s' ∧ s'.Represents a' ∧ a'.Room ∧ a'.base = a.base ∧ a'.hostCount = a.hostCount := by
  induction calls generalizing s a with
  | nil => exact ⟨s, a, rfl, h, room, rfl, rfl⟩
  | cons call calls ih =>
    obtain ⟨call', s', hstep, hrep⟩ := h.step room call
    have answered := step_answered room call'
    obtain ⟨t, b, hrun, hrep', room', hbase, hhosts⟩ := ih hrep answered.room
    refine ⟨t, b, ?_, hrep', room', hbase.trans answered.base, hhosts.trans answered.hostCount⟩
    rw [U32Allocator.run, hstep]
    exact hrun

/-- From every accepted range, no call of a run overflows; the free offsets stay apart from the allocated ones, and every
    call hands out addresses that were not allocated, inside the range, and changes nothing if it fails. -/
theorem allocator_sound (std : StdParsers) (cidr : String) (s₀ : U32Allocator) (accepted : new std cidr = some (.ok s₀))
    (calls : List (AllocatorCall UInt32)) :
    ∃ ip bits, parseCidr std cidr = .ok (ip, bits) ∧ ∃ s, s₀.run calls = some s ∧ s.base.toNat = cidrNetwork ip bits ∧
      Disjoint s.free s.allocated.keys ∧
      ∀ call, ∃ answer s', s.step call = some (answer, s') ∧
        SoundCall (cidrNetwork ip bits) (cidrBroadcast ip bits) s answer s' := by
  obtain ⟨ip, bits, a₀, hparse, -, hrep₀, room₀, hbase, hhosts⟩ := new_represents accepted
  obtain ⟨s, a, hrun, hrep, room, hbase', hhosts'⟩ := hrep₀.run room₀ calls
  have network : a.base = cidrNetwork ip bits := hbase'.trans hbase
  have broadcast : a.base + a.hostCount - 1 = cidrBroadcast ip bits := by rw [cidrBroadcast, network, hhosts', hhosts]
  refine ⟨ip, bits, hparse, s, hrun, hrep.base.trans network, ?_, fun call => ?_⟩
  · rw [Finset.disjoint_left]
    exact fun o hfree hkey => a.disjoint o.toNat ((hrep.free o).mp hfree) ((hrep.mem_keys o).mp hkey)
  · rw [← broadcast, ← network]
    exact hrep.soundCall room call

/-- A parser for one range. -/
def oneRange : StdParsers where
  ipv4Addr text := if text = "10.0.0.9" then .ok #v[10, 0, 0, 9] else .error "invalid IPv4 address syntax"
  u32 text := if text = "28" then .ok 28 else .error "invalid digit found in string"

theorem oneRange_accepted : new oneRange "10.0.0.9/28" = some (.ok ⟨0x0A000000, 16, 1, ∅, ∅⟩) := by
  have split : RangeText.splitOnce '/' "10.0.0.9/28".toList = some ("10.0.0.9".toList, "28".toList) := by decide
  have parsed : parseCidr oneRange "10.0.0.9/28" = .ok (0x0A000009, 28) := by
    rw [parseCidr, split]
    rfl
  rw [new_eq parsed (by decide) (by decide)]
  rfl

theorem allocator_sound_of_range :
    ∃ s, (U32Allocator.mk 0x0A000000 16 1 ∅ ∅).run [.allocateP2pPair "web-0" .arbitrary, .releaseP2pPair "web-0"] = some s ∧
      Disjoint s.free s.allocated.keys := by
  obtain ⟨-, -, -, s, hrun, -, hdisjoint, -⟩ := allocator_sound oneRange "10.0.0.9/28" _ oneRange_accepted
    [.allocateP2pPair "web-0" .arbitrary, .releaseP2pPair "web-0"]
  exact ⟨s, hrun, hdisjoint⟩

end U32Allocator

end FleetosAgent.Workloads
