import FleetosAgent.Ebpf.Counters
import FleetosAgent.Lib.Run
import FleetosAgent.Theorems.ManagerSteps
import Mathlib.Algebra.BigOperators.Fin
import Mathlib.Algebra.BigOperators.Intervals
import Mathlib.Algebra.Order.BigOperators.Group.Finset
import Mathlib.Data.Nat.ModEq

/-! # Rates from counters

The four counters are treated alike. The sum over the CPUs saturates and the difference of two sums wraps: a rate is the
real one exactly if both sums lost the same to saturation, and it is bounded by the real traffic exactly if no baseline is
above the sum that it is subtracted from. -/

namespace FleetosAgent.Ebpf
open Lib Workloads

/-! ### The four counters -/

inductive Counter where
  | txBytes
  | txPackets
  | rxBytes
  | rxPackets
  deriving DecidableEq

namespace Counter

def ofSample : Counter → PodNetCounters → UInt64
  | txBytes, c => c.txBytes
  | txPackets, c => c.txPackets
  | rxBytes, c => c.rxBytes
  | rxPackets, c => c.rxPackets

def ofAggregate : Counter → AggregatedCounters → UInt64
  | txBytes, a => a.txBytes
  | txPackets, a => a.txPackets
  | rxBytes, a => a.rxBytes
  | rxPackets, a => a.rxPackets

def ofRates : Counter → CounterRates → UInt64
  | txBytes, r => r.txBytesPerSec
  | txPackets, r => r.txPacketsPerSec
  | rxBytes, r => r.rxBytesPerSec
  | rxPackets, r => r.rxPacketsPerSec

variable (k : Counter)

theorem ofAggregate_aggregate (perCpu : List PodNetCounters) :
    k.ofAggregate (aggregate perCpu) = (perCpu.map k.ofSample).foldl saturatingAdd 0 := by
  have from_any : ∀ a : AggregatedCounters, k.ofAggregate (perCpu.foldl (fun a c => {
      txBytes := saturatingAdd a.txBytes c.txBytes
      txPackets := saturatingAdd a.txPackets c.txPackets
      rxBytes := saturatingAdd a.rxBytes c.rxBytes
      rxPackets := saturatingAdd a.rxPackets c.rxPackets }) a) =
      (perCpu.map k.ofSample).foldl saturatingAdd (k.ofAggregate a) := by
    induction perCpu with
    | nil => exact fun _ => rfl
    | cons c perCpu ih =>
      intro a
      rw [List.foldl_cons, ih, List.map_cons, List.foldl_cons]
      cases k <;> rfl
  have zero : k.ofAggregate {} = 0 := by cases k <;> rfl
  rw [aggregate, from_any, zero]

/-- The sum of a counter over the CPUs. -/
def sum {ncpu : Nat} (perCpu : Fin ncpu → PodNetCounters) : Nat := ∑ cpu, (k.ofSample (perCpu cpu)).toNat

theorem toNat_aggregate {ncpu : Nat} (perCpu : Fin ncpu → PodNetCounters) :
    (k.ofAggregate (aggregate (List.ofFn perCpu))).toNat = min (k.sum perCpu) (2 ^ 64 - 1) := by
  rw [ofAggregate_aggregate, toNat_foldl_saturatingAdd, List.map_ofFn, List.map_ofFn, List.sum_ofFn]
  simp [sum]

end Counter

theorem rate_eq {interval : UInt64} (prev curr : AggregatedCounters) (h : interval ≠ 0) :
    ∃ r, rate prev curr interval = some r ∧
      ∀ k : Counter, k.ofRates r = (k.ofAggregate curr - k.ofAggregate prev) / interval := by
  refine ⟨_, if_neg h, fun k => ?_⟩
  cases k <;> rfl

/-! ### Two snapshots -/

/-- Two snapshots of the true counts of each CPU: none decreases, and no counter increases by 2^64 over all CPUs. -/
structure Snapshots (ncpu : Nat) where
  prev : Fin ncpu → Counter → Nat
  curr : Fin ncpu → Counter → Nat
  mono : ∀ cpu k, prev cpu k ≤ curr cpu k
  increase_lt : ∀ k, ∑ cpu, (curr cpu k - prev cpu k) < 2 ^ 64

/-- What the map holds of the true counts: each modulo 2^64. -/
def observed {ncpu : Nat} (counts : Fin ncpu → Counter → Nat) (cpu : Fin ncpu) : PodNetCounters where
  txBytes := .ofNat (counts cpu .txBytes)
  txPackets := .ofNat (counts cpu .txPackets)
  rxBytes := .ofNat (counts cpu .rxBytes)
  rxPackets := .ofNat (counts cpu .rxPackets)

theorem sum_observed {ncpu : Nat} (counts : Fin ncpu → Counter → Nat) (k : Counter) :
    k.sum (observed counts) = ∑ cpu, counts cpu k % 2 ^ 64 := by
  refine Finset.sum_congr rfl fun cpu _ => ?_
  cases k <;> exact UInt64.toNat_ofNat'

/-- What saturation takes off the sum of the observed counts. -/
def cutOff {ncpu : Nat} (counts : Fin ncpu → Counter → Nat) (k : Counter) : Nat :=
  (∑ cpu, counts cpu k % 2 ^ 64) - (2 ^ 64 - 1)

namespace Snapshots
variable {ncpu : Nat} (s : Snapshots ncpu)

def increase (k : Counter) : Nat := ∑ cpu, (s.curr cpu k - s.prev cpu k)

/-- For every positive interval, the rate of each counter is its total increase divided by the interval. -/
def RateExact : Prop := ∀ interval : UInt64, interval ≠ 0 →
  ∃ r, rate (aggregate (List.ofFn (observed s.prev))) (aggregate (List.ofFn (observed s.curr))) interval = some r ∧
    ∀ k : Counter, (k.ofRates r).toNat = s.increase k / interval.toNat

theorem sum_curr_modEq (k : Counter) :
    (∑ cpu, s.prev cpu k % 2 ^ 64) + s.increase k ≡ ∑ cpu, s.curr cpu k % 2 ^ 64 [MOD 2 ^ 64] := by
  have total : ∑ cpu, s.prev cpu k + s.increase k = ∑ cpu, s.curr cpu k := by
    rw [increase, ← Finset.sum_add_distrib]
    exact Finset.sum_congr rfl fun cpu _ => Nat.add_sub_cancel' (s.mono cpu k)
  have prev : (∑ cpu, s.prev cpu k % 2 ^ 64) ≡ ∑ cpu, s.prev cpu k [MOD 2 ^ 64] := (Finset.sum_nat_mod _ _ _).symm
  have curr : (∑ cpu, s.curr cpu k % 2 ^ 64) ≡ ∑ cpu, s.curr cpu k [MOD 2 ^ 64] := (Finset.sum_nat_mod _ _ _).symm
  calc (∑ cpu, s.prev cpu k % 2 ^ 64) + s.increase k
      ≡ ∑ cpu, s.prev cpu k + s.increase k [MOD 2 ^ 64] := prev.add_right _
    _ = ∑ cpu, s.curr cpu k := total
    _ ≡ ∑ cpu, s.curr cpu k % 2 ^ 64 [MOD 2 ^ 64] := curr.symm

/-- The wrapping difference of the aggregates is the increase exactly if both sums lost the same, modulo 2^64. -/
theorem difference_eq_iff (k : Counter) :
    (k.ofAggregate (aggregate (List.ofFn (observed s.curr))) -
      k.ofAggregate (aggregate (List.ofFn (observed s.prev)))).toNat = s.increase k ↔
      cutOff s.prev k ≡ cutOff s.curr k [MOD 2 ^ 64] := by
  have step := s.sum_curr_modEq k
  have increase_lt : s.increase k < 2 ^ 64 := s.increase_lt k
  rw [toNat_sub_eq_iff increase_lt, k.toNat_aggregate, k.toNat_aggregate, sum_observed, sum_observed]
  unfold cutOff
  unfold Nat.ModEq at step ⊢
  generalize (∑ cpu, s.prev cpu k % 2 ^ 64) = a at step ⊢
  generalize (∑ cpu, s.curr cpu k % 2 ^ 64) = b at step ⊢
  generalize s.increase k = d at step ⊢
  omega

end Snapshots

/-- Aggregating and differencing gives the real rates exactly if, for each counter, saturation takes the same off both
    sums, modulo 2^64: so whenever both sums of the observed counts stay below 2^64. -/
theorem rate_exact_iff {ncpu : Nat} (s : Snapshots ncpu) :
    s.RateExact ↔ ∀ k, cutOff s.prev k ≡ cutOff s.curr k [MOD 2 ^ 64] := by
  constructor
  · intro h k
    obtain ⟨r, hr, exact⟩ := h 1 (by decide)
    obtain ⟨r', hr', value⟩ := rate_eq (aggregate (List.ofFn (observed s.prev))) (aggregate (List.ofFn (observed s.curr)))
      (by decide : (1 : UInt64) ≠ 0)
    obtain rfl := Option.some.inj (hr.symm.trans hr')
    rw [← s.difference_eq_iff k]
    have := exact k
    rw [value k] at this
    simpa [UInt64.toNat_div] using this
  · intro h interval hpos
    obtain ⟨r, hr, value⟩ :=
      rate_eq (aggregate (List.ofFn (observed s.prev))) (aggregate (List.ofFn (observed s.curr))) hpos
    refine ⟨r, hr, fun k => ?_⟩
    rw [value k, UInt64.toNat_div, (s.difference_eq_iff k).mpr (h k)]

/-- Each counter of one CPU wraps to zero, after an increase by one, while the other CPU stands at five. -/
def oneWraps : Snapshots 2 where
  prev cpu _ := if cpu = 0 then 2 ^ 64 - 1 else 5
  curr cpu _ := if cpu = 0 then 2 ^ 64 else 5
  mono cpu _ := by split_ifs <;> decide
  increase_lt _ := by decide

/-- The sum saturates before the wrap and not after it: an increase by one is reported as a rate of six. -/
theorem wrap_of_one_cpu_misreported :
    (rate (aggregate (List.ofFn (observed oneWraps.prev))) (aggregate (List.ofFn (observed oneWraps.curr))) 1).map
        (Counter.ofRates .txBytes) = some 6 ∧
      oneWraps.increase .txBytes = 1 ∧ ¬oneWraps.RateExact := by
  have reported : (rate (aggregate (List.ofFn (observed oneWraps.prev)))
      (aggregate (List.ofFn (observed oneWraps.curr))) 1).map
        (Counter.ofRates .txBytes) = some 6 := by decide +kernel
  have real : oneWraps.increase .txBytes = 1 := by decide +kernel
  refine ⟨reported, real, fun h => ?_⟩
  obtain ⟨r, hr, exact⟩ := h 1 (by decide)
  rw [hr, Option.map_some, Option.some_inj] at reported
  have := exact .txBytes
  rw [reported, real] at this
  exact absurd this (by decide)

/-! ### Boots, traffic and reads -/

/-- What happens to the counters of a node. -/
inductive CounterEvent (ncpu : Nat) where
  /-- `boot_pod` pre-populates the workload IP that the pod was given; it goes on if that fails. -/
  | boot (ip : UInt32) (fault : Option String)
  /-- `evict_pod` leaves the counters as they are. -/
  | evict (ip : UInt32)
  /-- The kernel counts traffic of an IP on a CPU; an IP without an entry is skipped. -/
  | count (ip : UInt32) (cpu : Fin ncpu) (amount : PodNetCounters)
  /-- `read_and_compute_rates`. -/
  | read (fault : Option String)

/-- The map and the reader, with what the kernel counted: since the last read that returned, and in all. -/
structure CounterState (ncpu : Nat) where
  map : CounterMap ncpu := ∅
  reader : PodNetCountersReader := {}
  sinceRead : UInt32 → Counter → Nat := fun _ _ => 0
  total : UInt32 → Counter → Nat := fun _ _ => 0

/-- The kernel's addition to the counters of one CPU. -/
def addSample (c amount : PodNetCounters) : PodNetCounters where
  txBytes := c.txBytes + amount.txBytes
  txPackets := c.txPackets + amount.txPackets
  rxBytes := c.rxBytes + amount.rxBytes
  rxPackets := c.rxPackets + amount.rxPackets

/-- `counts` with the amount added for the IP. -/
def addCounts (counts : UInt32 → Counter → Nat) (ip : UInt32) (amount : PodNetCounters) : UInt32 → Counter → Nat :=
  fun ip' k => if ip' = ip then counts ip' k + (k.ofSample amount).toNat else counts ip' k

theorem addCounts_self (counts : UInt32 → Counter → Nat) (ip : UInt32) (amount : PodNetCounters) (k : Counter) :
    addCounts counts ip amount ip k = counts ip k + (k.ofSample amount).toNat := if_pos rfl

theorem addCounts_of_ne (counts : UInt32 → Counter → Nat) {ip ip' : UInt32} (amount : PodNetCounters) {k : Counter}
    (h : ip' ≠ ip) : addCounts counts ip amount ip' k = counts ip' k := if_neg h

namespace CounterState
variable {ncpu : Nat}

def step (s : CounterState ncpu) : CounterEvent ncpu → CounterState ncpu
  | .boot ip fault => { s with map := (prepopulatePodCounters fault s.map ip).2 }
  | .evict _ => s
  | .count ip cpu amount =>
    match s.map.get ip with
    | none => s
    | some perCpu =>
      { s with
        map := s.map.insert ip (Function.update perCpu cpu (addSample (perCpu cpu) amount))
        sinceRead := addCounts s.sinceRead ip amount
        total := addCounts s.total ip amount }
  | .read fault =>
    -- the interval does not matter for what the reader keeps
    { s with
      reader := (s.reader.readAndComputeRates fault s.map 1).2
      sinceRead := if fault.isNone then fun _ _ => 0 else s.sinceRead }

theorem step_count_of_none {s : CounterState ncpu} {ip : UInt32} (h : s.map.get ip = none) (cpu : Fin ncpu)
    (amount : PodNetCounters) : s.step (.count ip cpu amount) = s := by
  unfold step
  dsimp only
  rw [h]

theorem step_count_of_some {s : CounterState ncpu} {ip : UInt32} {perCpu : Fin ncpu → PodNetCounters}
    (h : s.map.get ip = some perCpu) (cpu : Fin ncpu) (amount : PodNetCounters) : s.step (.count ip cpu amount) = { s with
      map := s.map.insert ip (Function.update perCpu cpu (addSample (perCpu cpu) amount))
      sinceRead := addCounts s.sinceRead ip amount
      total := addCounts s.total ip amount } := by
  unfold step
  dsimp only
  rw [h]

/-- Whatever the interval, the rates that a read reports stay within what the kernel counted since the read before. -/
def RatesBounded (s : CounterState ncpu) (event : CounterEvent ncpu) : Prop :=
  ∀ fault interval rates, event = .read fault → interval ≠ 0 → (s.reader.readAndComputeRates fault s.map interval).1 =
    .ok rates →
    ∀ ip r, rates.get ip = some r → ∀ k : Counter, (k.ofRates r).toNat * interval.toNat ≤ s.sinceRead ip k

/-- At a read that goes through, no counter of an IP stands below its baseline. -/
def BaselinesReached (s : CounterState ncpu) (event : CounterEvent ncpu) : Prop :=
  event = .read none → ∀ ip prev perCpu, s.reader.previous.get ip = some prev → s.map.get ip = some perCpu →
    ∀ k : Counter, (k.ofAggregate prev).toNat ≤ k.sum perCpu

/-! ### What the ghost counts say of the map and the reader -/

/-- An entry holds at most what was counted for its IP, a baseline and what came after it are part of that, and an entry is
    at most its baseline and what came after it. -/
structure Sound (s : CounterState ncpu) : Prop where
  stored : ∀ ip perCpu, s.map.get ip = some perCpu → ∀ k : Counter, k.sum perCpu ≤ s.total ip k
  baseline : ∀ ip prev, s.reader.previous.get ip = some prev →
    ∀ k : Counter, (k.ofAggregate prev).toNat + s.sinceRead ip k ≤ s.total ip k
  grown : ∀ ip prev perCpu, s.reader.previous.get ip = some prev → s.map.get ip = some perCpu →
    ∀ k : Counter, k.sum perCpu ≤ (k.ofAggregate prev).toNat + s.sinceRead ip k

variable {s : CounterState ncpu}

theorem sum_zero (k : Counter) : k.sum (fun _ : Fin ncpu => ({} : PodNetCounters)) = 0 := by
  refine Finset.sum_eq_zero fun cpu _ => ?_
  cases k <;> rfl

theorem sum_update_le (k : Counter) (perCpu : Fin ncpu → PodNetCounters) (cpu : Fin ncpu) (amount : PodNetCounters) :
    k.sum (Function.update perCpu cpu (addSample (perCpu cpu) amount)) ≤ k.sum perCpu + (k.ofSample amount).toNat := by
  have added : (k.ofSample (addSample (perCpu cpu) amount)).toNat ≤
      (k.ofSample (perCpu cpu)).toNat + (k.ofSample amount).toNat := by
    have := Nat.mod_le ((k.ofSample (perCpu cpu)).toNat + (k.ofSample amount).toNat) (2 ^ 64)
    cases k <;> exact (UInt64.toNat_add _ _).trans_le this
  unfold Counter.sum
  rw [← Finset.add_sum_erase _ _ (Finset.mem_univ cpu),
    ← Finset.add_sum_erase _ (fun cpu => (k.ofSample (perCpu cpu)).toNat) (Finset.mem_univ cpu)]
  have others : ∑ c ∈ Finset.univ.erase cpu,
      (k.ofSample (Function.update perCpu cpu (addSample (perCpu cpu) amount) c)).toNat =
        ∑ c ∈ Finset.univ.erase cpu, (k.ofSample (perCpu c)).toNat :=
    Finset.sum_congr rfl fun c hc => by rw [Function.update_of_ne (Finset.ne_of_mem_erase hc)]
  rw [others, Function.update_self]
  omega

theorem Sound.start : Sound ({} : CounterState ncpu) where
  stored := fun _ _ h => by cases h
  baseline := fun _ _ h => by cases h
  grown := fun _ _ _ h => by cases h

theorem Sound.boot (h : s.Sound) (ip : UInt32) (fault : Option String) : (s.step (.boot ip fault)).Sound := by
  cases fault with
  | some text => exact h
  | none =>
    have zeroed : ∀ ip' perCpu, (s.map.insert ip fun _ => {}).get ip' = some perCpu →
        s.map.get ip' = some perCpu ∨ ∀ k : Counter, k.sum perCpu = 0 := by
      intro ip' perCpu hget
      rw [FinMap.get_insert] at hget
      split_ifs at hget with heq
      · obtain rfl := Option.some.inj hget
        exact Or.inr sum_zero
      · exact Or.inl hget
    refine ⟨fun ip' perCpu hget k => ?_, h.baseline, fun ip' prev perCpu hprev hget k => ?_⟩
    · rcases zeroed ip' perCpu hget with hold | hzero
      · exact h.stored ip' perCpu hold k
      · rw [hzero k]
        exact Nat.zero_le _
    · rcases zeroed ip' perCpu hget with hold | hzero
      · exact h.grown ip' prev perCpu hprev hold k
      · rw [hzero k]
        exact Nat.zero_le _

theorem Sound.count (h : s.Sound) (ip : UInt32) (cpu : Fin ncpu) (amount : PodNetCounters) :
    (s.step (.count ip cpu amount)).Sound := by
  cases hip : s.map.get ip with
  | none =>
    rw [step_count_of_none hip]
    exact h
  | some perCpu =>
    rw [step_count_of_some hip]
    -- the entry, both ghost counts and so every bound go up by the amount, for this IP only
    refine ⟨fun ip' perCpu' hget k => ?_, fun ip' prev hprev k => ?_, fun ip' prev perCpu' hprev hget k => ?_⟩
      <;> dsimp only
    · by_cases heq : ip' = ip
      · subst heq
        obtain rfl := Option.some.inj ((FinMap.get_insert_self ..).symm.trans hget)
        have bound := h.stored ip' perCpu hip k
        have grows := sum_update_le k perCpu cpu amount
        rw [addCounts_self]
        omega
      · rw [addCounts_of_ne _ _ heq]
        exact h.stored ip' perCpu' ((FinMap.get_insert_ne _ _ heq).symm.trans hget) k
    · have bound := h.baseline ip' prev hprev k
      by_cases heq : ip' = ip
      · subst heq
        rw [addCounts_self, addCounts_self]
        omega
      · rw [addCounts_of_ne _ _ heq, addCounts_of_ne _ _ heq]
        exact bound
    · by_cases heq : ip' = ip
      · subst heq
        obtain rfl := Option.some.inj ((FinMap.get_insert_self ..).symm.trans hget)
        have bound := h.grown ip' prev perCpu hprev hip k
        have grows := sum_update_le k perCpu cpu amount
        rw [addCounts_self]
        omega
      · rw [addCounts_of_ne _ _ heq]
        exact h.grown ip' prev perCpu' hprev ((FinMap.get_insert_ne _ _ heq).symm.trans hget) k

/-- A read that goes through takes the sums as baselines; below 2^64 they are the sums themselves. -/
theorem Sound.read (h : s.Sound) (hlt : ∀ ip k, s.total ip k < 2 ^ 64) (fault : Option String) :
    (s.step (.read fault)).Sound := by
  cases fault with
  | some text => exact h
  | none =>
    have sampled : ∀ ip prev, (s.step (.read none)).reader.previous.get ip = some prev →
        ∃ perCpu, s.map.get ip = some perCpu ∧ ∀ k : Counter, (k.ofAggregate prev).toNat = k.sum perCpu := by
      intro ip prev hprev
      obtain ⟨perCpu, hget, rfl⟩ := Option.map_eq_some_iff.mp hprev
      refine ⟨perCpu, hget, fun k => ?_⟩
      have := h.stored ip perCpu hget k
      have := hlt ip k
      rw [k.toNat_aggregate]
      omega
    refine ⟨h.stored, fun ip prev hprev k => ?_, fun ip prev perCpu hprev hget k => ?_⟩
    · obtain ⟨perCpu, hget, value⟩ := sampled ip prev hprev
      rw [value k]
      exact h.stored ip perCpu hget k
    · obtain ⟨perCpu', hget', value⟩ := sampled ip prev hprev
      obtain rfl := Option.some.inj (hget.symm.trans hget')
      exact (value k).ge

theorem Sound.step (h : s.Sound) (hlt : ∀ ip k, s.total ip k < 2 ^ 64) (event : CounterEvent ncpu) :
    (s.step event).Sound := by
  cases event with
  | boot ip fault => exact h.boot ip fault
  | evict ip => exact h
  | count ip cpu amount => exact h.count ip cpu amount
  | read fault => exact h.read hlt fault

theorem total_le_step (event : CounterEvent ncpu) (ip : UInt32) (k : Counter) :
    s.total ip k ≤ (s.step event).total ip k := by
  cases event with
  | boot _ _ => exact le_rfl
  | evict _ => exact le_rfl
  | read _ => exact le_rfl
  | count ip' cpu amount =>
    cases hip : s.map.get ip' with
    | none => rw [step_count_of_none hip]
    | some perCpu =>
      rw [step_count_of_some hip]
      dsimp only [addCounts]
      split_ifs
      · exact Nat.le_add_right _ _
      · exact le_rfl

theorem total_le_run (events : List (CounterEvent ncpu)) (ip : UInt32) (k : Counter) :
    s.total ip k ≤ (events.foldl CounterState.step s).total ip k := by
  induction events generalizing s with
  | nil => exact le_rfl
  | cons event events ih => exact (total_le_step event ip k).trans ih

theorem sound_run {events : List (CounterEvent ncpu)}
    (hlt : ∀ ip k, (events.foldl CounterState.step {}).total ip k < 2 ^ 64) :
    (events.foldl CounterState.step {}).Sound := by
  induction events using List.reverseRecOn with
  | nil => exact .start
  | append_singleton events event ih =>
    rw [List.foldl_concat] at hlt ⊢
    have before : ∀ ip k, (events.foldl CounterState.step {}).total ip k < 2 ^ 64 :=
      fun ip k => (total_le_step event ip k).trans_lt (hlt ip k)
    exact (ih before).step before event

end CounterState

/-- A run from an empty map in which no IP's real total of a counter reaches 2^64. -/
structure CounterRun (ncpu : Nat) where
  events : List (CounterEvent ncpu)
  total_lt : ∀ ip k, (events.foldl CounterState.step {}).total ip k < 2 ^ 64

namespace CounterRun
variable {ncpu : Nat}

theorem total_lt_of_split (run : CounterRun ncpu) {before after : List (CounterEvent ncpu)}
    (h : run.events = before ++ after) (ip : UInt32) (k : Counter) :
    (before.foldl CounterState.step {}).total ip k < 2 ^ 64 := by
  have final := run.total_lt ip k
  rw [h, List.foldl_append] at final
  exact (CounterState.total_le_run after ip k).trans_lt final

end CounterRun

namespace CounterState
variable {ncpu : Nat} {s : CounterState ncpu}

/-- A read reports a rate for the IPs that have an entry and a baseline. -/
theorem get_rates {interval : UInt64} {rates : FinMap UInt32 CounterRates} {fault : Option String}
    (h : (s.reader.readAndComputeRates fault s.map interval).1 = .ok rates) (ip : UInt32) (r : CounterRates) :
    rates.get ip = some r ↔ ∃ prev perCpu, s.reader.previous.get ip = some prev ∧ s.map.get ip = some perCpu ∧
      rate prev (aggregate (List.ofFn perCpu)) interval = some r := by
  cases fault with
  | some text => cases h
  | none =>
    obtain rfl := Except.ok.inj h
    rw [FinMap.get_filterMapValues, FinMap.get_mapValues]
    constructor
    · intro hr
      obtain ⟨agg, hagg, hr⟩ := Option.bind_eq_some_iff.mp hr
      obtain ⟨perCpu, hget, rfl⟩ := Option.map_eq_some_iff.mp hagg
      obtain ⟨prev, hprev, hr⟩ := Option.bind_eq_some_iff.mp hr
      exact ⟨prev, perCpu, hprev, hget, hr⟩
    · rintro ⟨prev, perCpu, hprev, hget, hr⟩
      rw [hget, Option.map_some, Option.bind_some, hprev, Option.bind_some, hr]

/-- The wrapping difference of a sum and its baseline is within what was counted since exactly if the baseline is not above
    the sum. -/
theorem Sound.difference_le_iff (h : s.Sound) (hlt : ∀ ip k, s.total ip k < 2 ^ 64) {ip : UInt32}
    {prev : AggregatedCounters} {perCpu : Fin ncpu → PodNetCounters} (hprev : s.reader.previous.get ip = some prev)
    (hget : s.map.get ip = some perCpu) (k : Counter) :
    (k.ofAggregate (aggregate (List.ofFn perCpu)) - k.ofAggregate prev).toNat ≤ s.sinceRead ip k ↔
      (k.ofAggregate prev).toNat ≤ k.sum perCpu := by
  have stored := h.stored ip perCpu hget k
  have baseline := h.baseline ip prev hprev k
  have grown := h.grown ip prev perCpu hprev hget k
  have total := hlt ip k
  have value := k.toNat_aggregate perCpu
  -- the difference leads from the baseline to the sum
  have leads := (toNat_sub_eq_iff (k.ofAggregate (aggregate (List.ofFn perCpu)) - k.ofAggregate prev).toNat_lt).mp rfl
  constructor
  · intro hle
    rw [Nat.mod_eq_of_lt (by omega)] at leads
    omega
  · intro hle
    rw [(toNat_sub_eq_iff (d := k.sum perCpu - (k.ofAggregate prev).toNat) (by omega)).mpr (by omega)]
    omega

theorem Sound.ratesBounded_iff (h : s.Sound) (hlt : ∀ ip k, s.total ip k < 2 ^ 64) (event : CounterEvent ncpu) :
    s.RatesBounded event ↔ s.BaselinesReached event := by
  constructor
  · rintro hbound rfl ip prev perCpu hprev hget k
    obtain ⟨r, hr, value⟩ := rate_eq prev (aggregate (List.ofFn perCpu)) (by decide : (1 : UInt64) ≠ 0)
    obtain ⟨rates, hok⟩ : ∃ rates, (s.reader.readAndComputeRates none s.map 1).1 = .ok rates := ⟨_, rfl⟩
    have reported := (get_rates hok ip r).mpr ⟨prev, perCpu, hprev, hget, hr⟩
    have bound := hbound none 1 rates rfl (by decide) hok ip r reported k
    rw [← h.difference_le_iff hlt hprev hget k]
    rw [value k, UInt64.toNat_div] at bound
    simpa using bound
  · rintro hreached fault interval rates rfl hpos hok ip r hrate k
    cases fault with
    | some text => cases hok
    | none =>
      obtain ⟨prev, perCpu, hprev, hget, hr⟩ := (get_rates hok ip r).mp hrate
      obtain ⟨r', hr', value⟩ := rate_eq prev (aggregate (List.ofFn perCpu)) hpos
      obtain rfl := Option.some.inj (hr.symm.trans hr')
      rw [value k, UInt64.toNat_div]
      exact (Nat.div_mul_le_self _ _).trans
        ((h.difference_le_iff hlt hprev hget k).mpr (hreached rfl ip prev perCpu hprev hget k))

end CounterState

/-- In a run without an overflow of the real totals, the reported rates stay within the real traffic at every read exactly
    if at every read no counter stands below its baseline: a boot that zeroes an IP between two reads must not leave it
    below what the read before had seen. -/
theorem rates_bounded_iff {ncpu : Nat} (run : CounterRun ncpu) :
    Along CounterState.step CounterState.RatesBounded {} run.events ↔
      Along CounterState.step CounterState.BaselinesReached {} run.events := by
  have pointwise : ∀ before event after, run.events = before ++ event :: after →
      ((before.foldl CounterState.step {}).RatesBounded event ↔
        (before.foldl CounterState.step {}).BaselinesReached event) := by
    intro before event after h
    have hlt := run.total_lt_of_split h
    exact (CounterState.sound_run hlt).ratesBounded_iff hlt event
  exact ⟨fun h before event after hl => (pointwise before event after hl).mp (h before event after hl),
    fun h before event after hl => (pointwise before event after hl).mpr (h before event after hl)⟩

/-- An IP with a hundred bytes at one read is given to another pod, which counts one byte up to the next read. -/
def reusedEvents : List (CounterEvent 1) :=
  [.boot 7 none, .count 7 0 { txBytes := 100 }, .read none, .evict 7, .boot 7 none, .count 7 0 { txBytes := 1 }, .read none]

theorem reusedEvents_total_lt (ip : UInt32) (k : Counter) :
    (reusedEvents.foldl CounterState.step {}).total ip k < 2 ^ 64 := by
  have sums : (reusedEvents.foldl CounterState.step {}).total =
      addCounts (addCounts (fun _ _ => 0) 7 { txBytes := 100 }) 7 { txBytes := 1 } := rfl
  rw [sums]
  unfold addCounts
  split_ifs <;> dsimp only <;> cases k <;> decide

def reusedIp : CounterRun 1 := ⟨reusedEvents, reusedEvents_total_lt⟩

/-- The one byte is reported as a rate of 2^64 - 99 bytes a second. -/
theorem reused_ip_misreported :
    let s := (reusedIp.events.take 6).foldl CounterState.step {}
    s.sinceRead 7 .txBytes = 1 ∧
      (∃ rates r, (s.reader.readAndComputeRates none s.map 1).1 = .ok rates ∧ rates.get 7 = some r ∧
        r.txBytesPerSec.toNat = 2 ^ 64 - 99) ∧
      ¬Along CounterState.step CounterState.RatesBounded {} reusedIp.events := by
  intro s
  have since : s.sinceRead 7 .txBytes = 1 := rfl
  obtain ⟨rates, r, hok, hrate, hvalue⟩ : ∃ rates r, (s.reader.readAndComputeRates none s.map 1).1 = .ok rates ∧
      rates.get 7 = some r ∧ r.txBytesPerSec.toNat = 2 ^ 64 - 99 := ⟨_, _, rfl, rfl, rfl⟩
  refine ⟨since, ⟨rates, r, hok, hrate, hvalue⟩, fun h => ?_⟩
  have bound := h (reusedIp.events.take 6) (.read none) [] rfl none 1 rates rfl (by decide) hok 7 r hrate .txBytes
  rw [show Counter.ofRates .txBytes r = r.txBytesPerSec from rfl, hvalue] at bound
  exact absurd (bound.trans_eq since) (by decide)

/-! ### The counters of a node -/

section Node
open Traced
variable {api : SpiffeApi} {cfg : ManagerConfig api} {Q : FinMap UInt32 PodNetCounters → Prop}

/-- The counters of the node have `Q`. -/
def OfCounters (Q : FinMap UInt32 PodNetCounters → Prop) (t : World api) : Prop := Q t.podNetCounters

theorem OfCounters.addressFrame : AddressFrame (OfCounters Q : World api → Prop) := fun _ _ _ _ _ _ h => h

theorem OfCounters.of_books {w t : World api} (hw : OfCounters Q w) (h : t.books = w.books) : OfCounters Q t := by
  have same : t.podNetCounters = w.podNetCounters := congrArg Books.podNetCounters h
  unfold OfCounters
  rwa [same]

/-- An eviction leaves the counters as they are. -/
theorem evictPod_counters {env : EvictEnv} {podId : String} : Preserves (OfCounters Q) (evictPod cfg env podId) := by
  have stopped : ∀ runtime handle, Preserves (OfCounters Q) (stopRuntime cfg env podId runtime handle) :=
    fun runtime handle w hw => stopRuntime_steps.mono (fun _ ht => hw.of_books ht.1) (fun _ _ ht => hw.of_books ht.1)
      fun _ _ ht => hw.of_books ht.1.1
  have begun : Preserves (OfCounters Q) (beginEvict cfg podId) :=
    .bind (.modify fun _ ht => ht) fun _ => .bind (.when (.modify fun _ ht => ht)) fun _ => .when (.modify fun _ ht => ht)
  refine .bind .get fun w => preserves_orFail_bind fun pod _ => .bind begun fun _ => .bind (stopped _ _) fun _ => ?_
  exact .bind (releaseSource_frame OfCounters.addressFrame) fun _ => .bind .ofExcept fun _ => .modify fun _ ht => ht

/-- A boot changes the counters only by a zeroed entry. -/
theorem bootPod_counters {env : BootEnv api} {spec : WorkloadSpec} (hzero : ∀ m ip, Q m → Q (m.insert ip {})) :
    Preserves (OfCounters Q) (bootPod cfg env spec) := by
  refine preserves_orFail_bind fun podSpec hspec => .bind .ofExcept fun mounts => .bind .ofExcept fun fp => ?_
  have asked : Preserves (OfCounters Q) (requestDelegatedKey cfg env podSpec spec.workloadId) :=
    fun t ht => wp_requestDelegatedKey (fun _ => ht) fun _ => ht
  have ran : ∀ reservation, Preserves (OfCounters Q) (bootRuntime cfg env spec mounts reservation) :=
    fun reservation w hw => (bootRuntime_steps hspec).mono (fun _ ht => hw.of_books ht.1) (fun _ _ ht => hw.of_books ht.1)
      fun _ _ ht => hw.of_books ht.1
  refine .bind asked fun _ => .bind ?_ fun reservation => .bind (ran reservation).attempt fun result => ?_
  · exact reservePair_of_counters OfCounters.addressFrame fun t wl ht => hzero t.podNetCounters wl ht
  · cases result with
    | error e => exact .bind (cancelReservation_frame OfCounters.addressFrame) fun _ => .fail
    | ok handle =>
      refine .bind ?_ fun _ => .pure
      unfold recordPod
      split
      · exact .bind (.modify fun _ ht => ht) fun _ => .bind (.modify fun _ ht => ht) fun _ => .when (.modify fun _ ht => ht)
      · exact .bind (.modify fun _ ht => ht) fun _ => .when (.modify fun _ ht => ht)

/-- The counters of the node before any traffic, on each CPU. -/
def counterMap (ncpu : Nat) (w : World api) : CounterMap ncpu := w.podNetCounters.mapValues fun c _ => c

/-- What a reconcile call does to the counters, in every state it passes through, boots do. -/
theorem reconcile_counters {ncpu : Nat} {w : World api} (s : CounterState ncpu) (hs : s.map = counterMap ncpu w)
    (call : ReconcileCall api) (t : World api) (ht : t ∈ (reconcile cfg call w).passed ∨ t = (reconcile cfg call w).final) :
    ∃ ips : List UInt32, (ips.foldl (fun s ip => s.step (.boot ip none)) s).map = counterMap ncpu t := by
  have each : ∀ op ∈ reconcileOps w call, Preserves (OfCounters fun m => ∃ ips : List UInt32,
      (ips.foldl (fun s ip => s.step (.boot ip none)) s).map = m.mapValues fun c _ => c) (runOp cfg op) := by
    intro op _
    cases op with
    | evict podId env => exact evictPod_counters
    | boot spec env =>
      refine .bind (bootPod_counters ?_) fun _ => .pure
      rintro m ip ⟨ips, hips⟩
      refine ⟨ips ++ [ip], ?_⟩
      rw [List.foldl_concat, FinMap.mapValues_insert, ← hips]
      rfl
  have run := Preserves.runAll each w ⟨[], hs⟩
  rcases ht with ht | rfl
  · exact run.passed t ht
  · exact run.final

end Node

end FleetosAgent.Ebpf
