import FleetosAgent.Ebpf.PossibleCpus
import FleetosAgent.Theorems.Counters

/-! # Which CPUs the counters are made for

The kernel writes the possible CPUs as ranges. `num_possible_cpus` takes the highest number plus one, which is how many
there are only if the numbers have no gap. -/

namespace FleetosAgent.Ebpf
open Lib

/-- /sys/devices/system/cpu/possible on a node, bit by bit. -/
def possibleFile (mask : List Bool) : String := String.ofList (RangeText.write mask ++ ['\n'])

section Parse
variable {mask : List Bool}

theorem partHighest_runText {run : ℕ × ℕ} (ordered : run.1 ≤ run.2) (small : run.2 < UInt64.size) :
    partHighest (RangeText.runText run) = some run.2 := by
  have low : run.1 < UInt64.size := ordered.trans_lt small
  have dash : ∀ n, '-' ∉ Nat.toDigits 10 n := fun n => RangeText.notMem_toDigits (by decide)
  unfold partHighest RangeText.runText
  by_cases single : run.1 = run.2
  · rw [if_pos single, RangeText.splitOnce_eq_none (dash run.1)]
    exact single ▸ RangeText.parseBelow_toDigits low
  · rw [if_neg single, RangeText.splitOnce_append (dash run.1)]
    simp [RangeText.parseBelow_toDigits low, RangeText.parseBelow_toDigits small, ordered]

theorem foldlM_partHighest {l : List (ℕ × ℕ)} {start : ℕ} (ordered : ∀ run ∈ l, run.1 ≤ run.2)
    (small : ∀ run ∈ l, run.2 < UInt64.size) :
    (l.map RangeText.runText).foldlM (fun max part => (partHighest part).map (Nat.max max)) start =
      some (RangeText.highest start l) := by
  induction l generalizing start with
  | nil => rfl
  | cons run l ih =>
    rw [List.map_cons, List.foldlM_cons, partHighest_runText (ordered run (by simp)) (small run (by simp))]
    exact ih (fun r hr => ordered r (by simp [hr])) (fun r hr => small r (by simp [hr]))

/-- The parse of the file gives the last possible CPU plus one. -/
theorem numPossibleCpus_possibleFile (possible : true ∈ mask) (small : mask.length < UInt64.size) :
    numPossibleCpus (.ok (possibleFile mask)) = some (RangeText.highest 0 (RangeText.runs 0 mask) + 1) := by
  have bound : ∀ run ∈ RangeText.runs 0 mask, run.2 < mask.length := by
    intro run hrun
    obtain ⟨k, hk, hbit⟩ := RangeText.covers_runs.mp ⟨run, hrun, RangeText.ordered_runs run hrun, Nat.le_refl run.2⟩
    obtain ⟨lt, -⟩ := List.getElem?_eq_some_iff.mp hbit
    omega
  have last : RangeText.highest 0 (RangeText.runs 0 mask) < mask.length :=
    (List.getElem?_eq_some_iff.mp (RangeText.highest_runs possible).1).1
  have text : (possibleFile mask).toList = RangeText.write mask ++ ['\n'] := String.toList_ofList
  have read : numPossibleCpus (.ok (possibleFile mask)) = (((RangeText.trim (possibleFile mask).toList).splitOn ',').foldlM
      (fun max part => (partHighest part).map (Nat.max max)) 0).bind fun max => some ((max + 1) % UInt64.size) := rfl
  rw [read, text, RangeText.trim_of_plain fun c => RangeText.isWhitespace_write,
    RangeText.splitOn_write (RangeText.runs_ne_nil possible),
    foldlM_partHighest RangeText.ordered_runs fun run hrun => (bound run hrun).trans small, Option.bind_some,
    Nat.mod_eq_of_lt (by omega)]

end Parse

/-! ### Runs -/

section Runs
variable {nrCpus : ℕ}

/-- The event on a node where the file says `ncpu`: a boot comes as far as the conversion and its own insertion let it. -/
def CounterEvent.sized (aya : PerCpuApi nrCpus) (ncpu : ℕ) : CounterEvent nrCpus → CounterEvent nrCpus
  | .boot ip insertFault => .boot ip (aya.fault ncpu insertFault)
  | event => event

variable {aya : PerCpuApi nrCpus} {ncpu : ℕ} {events : List (CounterEvent nrCpus)} {ip : UInt32}

theorem fault_eq_none {insertFault : Option String} : aya.fault ncpu insertFault = none ↔ ncpu = nrCpus ∧
    insertFault = none := by
  rw [← aya.accepts_iff, PerCpuApi.fault]
  cases aya.tryFrom ncpu <;> simp

/-- A step makes an entry for a booted pod, if the values could be made and inserted, and no other. -/
theorem mem_keys_step_sized {s : CounterState nrCpus} {event : CounterEvent nrCpus} :
    ip ∈ (s.step (event.sized aya ncpu)).map.keys ↔ ip ∈ s.map.keys ∨ (ncpu = nrCpus ∧ event = .boot ip none) := by
  cases event with
  | boot ip' insertFault =>
    have boots : s.step (CounterEvent.sized aya ncpu (.boot ip' insertFault)) =
        { s with map := (prepopulatePodCounters (aya.fault ncpu insertFault) s.map ip').2 } := rfl
    have inserts : ncpu = nrCpus ∧ (CounterEvent.boot ip' insertFault : CounterEvent nrCpus) = .boot ip none ↔
        aya.fault ncpu insertFault = none ∧ ip' = ip := by
      rw [fault_eq_none, CounterEvent.boot.injEq, and_comm (a := ip' = ip), and_assoc]
    rw [boots, inserts]
    cases aya.fault ncpu insertFault with
    | some e => simp [prepopulatePodCounters]
    | none =>
      rw [prepopulatePodCounters, FinMap.keys_insert, Finset.mem_insert, or_comm]
      simp [eq_comm]
  | evict ip' | read fault => simp [CounterEvent.sized, CounterState.step]
  | count ip' cpu amount =>
    have same : CounterEvent.sized aya ncpu (.count ip' cpu amount) = .count ip' cpu amount := rfl
    rw [same]
    cases h : s.map.get ip' with
    | none =>
      rw [CounterState.step_count_of_none h]
      simp
    | some perCpu =>
      rw [CounterState.step_count_of_some h, FinMap.keys_insert, Finset.mem_insert]
      simp only [reduceCtorEq, and_false, or_false]
      constructor
      · rintro (rfl | hip)
        · exact FinMap.mem_keys_of_get h
        · exact hip
      · exact Or.inr

theorem mem_keys_run_sized : ip ∈ ((events.map (CounterEvent.sized aya ncpu)).foldl CounterState.step {}).map.keys ↔
    ncpu = nrCpus ∧ .boot ip none ∈ events := by
  induction events using List.reverseRecOn with
  | nil => simp
  | append_singleton events event ih =>
    rw [List.map_append, List.map_singleton, List.foldl_concat, mem_keys_step_sized, ih, ← and_or_left,
      List.mem_append, List.mem_singleton, eq_comm (a := event)]

end Runs

/-- On every node, `num_possible_cpus` reads the kernel's list without a panic; and whatever pods boot, go, send and are
    read, and whichever insertions fail, the counters are kept for the pods of which an insertion did not fail if the CPU
    numbers have no gap, and for no pod at all otherwise. -/
theorem pods_metered_iff_gapless (mask : List Bool) (possible : true ∈ mask) (small : mask.length < UInt64.size)
    (aya : PerCpuApi (mask.count true)) :
    ∃ ncpu, numPossibleCpus (.ok (possibleFile mask)) = some ncpu ∧
    ∀ (events : List (CounterEvent (mask.count true))) (ip : UInt32),
      ip ∈ ((events.map (CounterEvent.sized aya ncpu)).foldl CounterState.step {}).map.keys ↔
        RangeText.Gapless mask ∧ .boot ip none ∈ events := by
  refine ⟨_, numPossibleCpus_possibleFile possible small, fun events ip => ?_⟩
  rw [mem_keys_run_sized, RangeText.count_eq_highest_iff possible]

/-- CPUs 0, 2 and 3. -/
def gappedMask : List Bool := [true, false, true, true]

/-- A conversion that counts. -/
def countingApi (nrCpus : ℕ) : PerCpuApi nrCpus where
  tryFrom values := if values = nrCpus then none else some "not enough values"
  accepts_iff _ := by simp

theorem gapped_node_meters_none : possibleFile gappedMask = "0,2-3\n" ∧
    ∃ ncpu, numPossibleCpus (.ok (possibleFile gappedMask)) = some ncpu ∧
    ∀ (events : List (CounterEvent (gappedMask.count true))) (ip : UInt32),
      ip ∈ ((events.map (CounterEvent.sized (countingApi _) ncpu)).foldl CounterState.step {}).map.keys ↔
        RangeText.Gapless gappedMask ∧ .boot ip none ∈ events :=
  ⟨by decide, pods_metered_iff_gapless gappedMask (by decide) (by decide) (countingApi _)⟩

end FleetosAgent.Ebpf
