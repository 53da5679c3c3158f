import FleetosAgent.Workloads.Probes
import FleetosAgent.Lib.Run
import FleetosAgent.Lib.Streak
import Mathlib.Tactic.Common
import Mathlib.Algebra.Group.Nat.Defs

/-! # Probe windows

The two counters of a runner against the history of the probes it executed: each is the length of the streak at the end
of the history, modulo the width of its field, so the verdicts are verdicts about the last outcomes. -/

namespace FleetosAgent.Workloads
open Lib

/-! ### One probe -/

namespace ProbeCall

def passed (call : ProbeCall) : Bool := call.result.isOk

def failed (call : ProbeCall) : Bool := !call.passed

theorem failed_eq_false {call : ProbeCall} : call.failed = false ↔ call.passed = true := by simp [failed]

theorem failed_eq_true {call : ProbeCall} : call.failed = true ↔ call.passed = false := by simp [failed]

end ProbeCall

theorem toNat_max_one (n : UInt32) : (max n 1).toNat = max n.toNat 1 := by
  have h : max n 1 = if n ≤ 1 then 1 else n := rfl
  rw [h]
  split_ifs with hn
  · have := UInt32.le_iff_toNat_le.mp hn
    simp at this ⊢
    omega
  · have : ¬n.toNat ≤ 1 := fun h => hn (UInt32.le_iff_toNat_le.mpr h)
    omega

/-- A counter that is incremented wraps at the width of its field. -/
theorem toNat_add_one_of_mod {n : UInt32} {k : Nat} (h : n.toNat = k % 2 ^ 32) : (n + 1).toNat = (k + 1) % 2 ^ 32 := by
  rw [UInt32.toNat_add, h]
  simp

namespace ProbeRunner

variable {runner : ProbeRunner} {call : ProbeCall}

theorem probe_of_passed (h : call.passed = true) : runner.probe call = { runner with
    lastProbeAt := some call.ranAt
    consecutiveSuccesses := runner.consecutiveSuccesses + 1
    consecutiveFailures := 0
    phase := if runner.successThreshold ≤ runner.consecutiveSuccesses + 1 then .succeeded else .probing } := by
  unfold probe
  unfold ProbeCall.passed at h
  cases hr : call.result with
  | ok _ => rfl
  | error _ => simp [hr, Except.isOk, Except.toBool] at h

theorem probe_of_failed (h : call.passed = false) : runner.probe call = { runner with
    lastProbeAt := some call.ranAt
    consecutiveFailures := runner.consecutiveFailures + 1
    consecutiveSuccesses := 0
    phase := if runner.failureThreshold ≤ runner.consecutiveFailures + 1 then .failed else .probing } := by
  unfold probe
  unfold ProbeCall.passed at h
  cases hr : call.result with
  | ok _ => simp [hr, Except.isOk, Except.toBool] at h
  | error _ => rfl

/-- The runner of `probe` after it executed the calls of `history`, in order. -/
structure Counts (probe : Probe) (history : List ProbeCall) (runner : ProbeRunner) : Prop where
  successThreshold : runner.successThreshold.toNat = max probe.successThreshold.toNat 1
  failureThreshold : runner.failureThreshold.toNat = max probe.failureThreshold.toNat 1
  successes : runner.consecutiveSuccesses.toNat = streak ProbeCall.passed history % 2 ^ 32
  failures : runner.consecutiveFailures.toNat = streak ProbeCall.failed history % 2 ^ 32
  /-- Once a probe ran, the phase says which threshold is reached. -/
  succeeded : history ≠ [] → (runner.phase = .succeeded ↔ runner.successThreshold ≤ runner.consecutiveSuccesses)
  failed : history ≠ [] → (runner.phase = .failed ↔ runner.failureThreshold ≤ runner.consecutiveFailures)

namespace Counts

variable {probe : Probe} {history : List ProbeCall}

theorem new (probe : Probe) (now : Nat) : Counts probe [] (ProbeRunner.new probe now) where
  successThreshold := toNat_max_one _
  failureThreshold := toNat_max_one _
  successes := rfl
  failures := rfl
  succeeded := fun h => absurd rfl h
  failed := fun h => absurd rfl h

theorem not_threshold_le_zero {n : UInt32} {k : Nat} (h : n.toNat = max k 1) : ¬n ≤ 0 := by
  rw [UInt32.le_iff_toNat_le]
  simp only [UInt32.toNat_zero]
  omega

theorem step (h : Counts probe history runner) (call : ProbeCall) :
    Counts probe (history ++ [call]) (runner.probe call) := by
  cases hc : call.passed with
  | true =>
    rw [probe_of_passed hc]
    refine ⟨h.successThreshold, h.failureThreshold, ?_, ?_, fun _ => ?_, fun _ => ?_⟩
    · rw [streak_concat_pos hc]
      exact toNat_add_one_of_mod h.successes
    · rw [streak_concat_neg (ProbeCall.failed_eq_false.mpr hc)]
      rfl
    · dsimp only
      split_ifs with hle <;> simp [hle]
    · -- the failures are reset, below every threshold
      dsimp only
      simp only [not_threshold_le_zero h.failureThreshold, iff_false]
      split_ifs <;> decide
  | false =>
    rw [probe_of_failed hc]
    refine ⟨h.successThreshold, h.failureThreshold, ?_, ?_, fun _ => ?_, fun _ => ?_⟩
    · rw [streak_concat_neg hc]
      rfl
    · rw [streak_concat_pos (ProbeCall.failed_eq_true.mpr hc)]
      exact toNat_add_one_of_mod h.failures
    · dsimp only
      simp only [not_threshold_le_zero h.successThreshold, iff_false]
      split_ifs <;> decide
    · dsimp only
      split_ifs with hle <;> simp [hle]

theorem run (probe : Probe) (now : Nat) (history : List ProbeCall) :
    Counts probe history (history.foldl ProbeRunner.probe (ProbeRunner.new probe now)) := by
  induction history using List.reverseRecOn with
  | nil => exact new probe now
  | append_singleton history call ih =>
    rw [List.foldl_concat]
    exact ih.step call

/-- Below the width of the counter, the failure verdict is the verdict about the last outcomes. -/
theorem isLivePassing_eq_false_iff (h : Counts probe history runner) (hlt : streak ProbeCall.failed history < 2 ^ 32) :
    runner.isLivePassing = false ↔ LastAll ProbeCall.failed (max probe.failureThreshold.toNat 1) history := by
  rw [← le_streak_iff, isLivePassing, decide_eq_false_iff_not, UInt32.lt_iff_toNat_lt, h.failures, h.failureThreshold,
    Nat.mod_eq_of_lt hlt, Nat.not_lt]

theorem isReadyPassing_iff (h : Counts probe history runner) (hlt : streak ProbeCall.passed history < 2 ^ 32) :
    runner.isReadyPassing = true ↔ LastAll ProbeCall.passed (max probe.successThreshold.toNat 1) history := by
  rw [← le_streak_iff, isReadyPassing, decide_eq_true_iff, UInt32.le_iff_toNat_le, h.successes, h.successThreshold,
    Nat.mod_eq_of_lt hlt]

end Counts

end ProbeRunner

/-! ### The probes of a pod -/

namespace ProbeSetRunner

variable {runner : ProbeSetRunner} {call : ProbeSetCall}

/-- The set once the startup probe had its turn. -/
def probeStartup (runner : ProbeSetRunner) (call : ProbeSetCall) : ProbeSetRunner :=
  { runner with startup := runner.startup.map fun r => r.probeIfDue call.startup }

/-- The set after a call. -/
def after (runner : ProbeSetRunner) (call : ProbeSetCall) : ProbeSetRunner := (runner.runProbes call).2

theorem runProbes_of_started (h : (runner.probeStartup call).startupDone = true) : runner.runProbes call =
    (((runner.liveness.map fun r => r.probeIfDue call.liveness).all fun r => r.isLivePassing,
      (runner.readiness.map fun r => r.probeIfDue call.readiness).all fun r => r.isReadyPassing),
      { runner.probeStartup call with
        liveness := runner.liveness.map fun r => r.probeIfDue call.liveness
        readiness := runner.readiness.map fun r => r.probeIfDue call.readiness }) := if_pos h

theorem runProbes_of_starting (h : (runner.probeStartup call).startupDone = false) :
    runner.runProbes call = ((true, true), runner.probeStartup call) :=
  if_neg (Bool.eq_false_iff.mp h)

theorem startup_after : (runner.after call).startup = runner.startup.map fun r => r.probeIfDue call.startup := by
  unfold after
  cases h : (runner.probeStartup call).startupDone with
  | true => rw [runProbes_of_started h]; rfl
  | false => rw [runProbes_of_starting h]; rfl

theorem startupDone_after : (runner.after call).startupDone = (runner.probeStartup call).startupDone := by
  unfold startupDone
  rw [startup_after]
  rfl

/-- Before startup is done both values are reported as passing; after it they are the verdicts that `all_passing` reads. -/
theorem reported_of_allPassing (h : (runner.after call).allPassing = true) : (runner.runProbes call).1 = (true, true) := by
  cases hdone : (runner.probeStartup call).startupDone with
  | true =>
    unfold after at h
    rw [runProbes_of_started hdone] at h ⊢
    simp only [allPassing, Bool.and_eq_true] at h
    exact Prod.ext h.1.2 h.2
  | false => rw [runProbes_of_starting hdone]

end ProbeSetRunner

/-- The thresholds look at a window of the last outcomes. Each verdict is false or true by the outcomes of the last probes
    that ran alone, the phase agrees with both verdicts, and what the probe loop reads of a set agrees with what it
    reports. -/
theorem probe_windows (probe : Probe) (now : Nat) (calls : List ProbeCall) (hlen : calls.length < 2 ^ 32) :
    let runner := calls.foldl ProbeRunner.probe (ProbeRunner.new probe now)
    (runner.isLivePassing = false ↔ LastAll ProbeCall.failed (max probe.failureThreshold.toNat 1) calls) ∧
      (runner.isReadyPassing = true ↔ LastAll ProbeCall.passed (max probe.successThreshold.toNat 1) calls) ∧
      (calls ≠ [] → (runner.phase = .succeeded ↔ runner.isReadyPassing = true) ∧
        (runner.phase = .failed ↔ runner.isLivePassing = false)) ∧
      ∀ (set : ProbeSetRunner) (call : ProbeSetCall),
        (set.runProbes call).2.allPassing = true → (set.runProbes call).1 = (true, true) := by
  have counts := ProbeRunner.Counts.run probe now calls
  refine ⟨counts.isLivePassing_eq_false_iff (streak_le_length.trans_lt hlen),
    counts.isReadyPassing_iff (streak_le_length.trans_lt hlen), fun hne => ⟨?_, ?_⟩,
    fun set call h => ProbeSetRunner.reported_of_allPassing h⟩
  · rw [counts.succeeded hne, ProbeRunner.isReadyPassing, decide_eq_true_iff]
  · rw [counts.failed hne, ProbeRunner.isLivePassing, decide_eq_false_iff_not, UInt32.not_lt]

/-- Two failures after a success, under a failure threshold of two and a success threshold of zero. -/
theorem probe_windows_two_failures :
    let probe : Probe := ⟨none, 0, 1, 1, 0, 2⟩
    let calls : List ProbeCall := [⟨0, 0, .ok ()⟩, ⟨1, 1, .error "refused"⟩, ⟨2, 2, .error "refused"⟩]
    calls.length < 2 ^ 32 ∧ (calls.foldl ProbeRunner.probe (ProbeRunner.new probe 0)).isLivePassing = false :=
  ⟨by decide, (probe_windows _ 0 _ (by decide)).1.mpr ⟨by decide, by decide⟩⟩

/-! ### The startup gate -/

namespace ProbeRunner

/-- What a startup probe that is done needs to stay done in a call: a run of it succeeds, and the counter of successes has
    room for it. -/
def Steady (runner : ProbeRunner) (call : ProbeCall) : Prop :=
  runner.isDue call.dueAt = true → call.passed = true ∧ runner.consecutiveSuccesses.toNat + 1 < 2 ^ 32

/-- The counter of failures has room for a failing run of the probe. -/
def Countable (runner : ProbeRunner) (call : ProbeCall) : Prop :=
  runner.isDue call.dueAt = true → call.failed = true → runner.consecutiveFailures.toNat + 1 < 2 ^ 32

/-- A runner that passes has reached its success threshold, which is positive. -/
structure Reached (runner : ProbeRunner) : Prop where
  threshold_pos : 0 < runner.successThreshold.toNat
  of_passing : runner.isPassing = true → runner.successThreshold.toNat ≤ runner.consecutiveSuccesses.toNat

variable {runner : ProbeRunner} {call : ProbeCall}

theorem Reached.new (probe : Probe) (now : Nat) : Reached (ProbeRunner.new probe now) where
  threshold_pos := by
    rw [(Counts.new probe now).successThreshold]
    omega
  of_passing := fun h => by simp [isPassing, ProbeRunner.new] at h

theorem isPassing_probe_iff : (runner.probe call).isPassing = true ↔
    call.passed = true ∧ runner.successThreshold ≤ runner.consecutiveSuccesses + 1 := by
  cases hc : call.passed with
  | true =>
    rw [probe_of_passed hc]
    by_cases hle : runner.successThreshold ≤ runner.consecutiveSuccesses + 1 <;> simp [isPassing, hle]
  | false =>
    rw [probe_of_failed hc]
    by_cases hle : runner.failureThreshold ≤ runner.consecutiveFailures + 1 <;> simp [isPassing, hle]

theorem Reached.probe (h : runner.Reached) (call : ProbeCall) : (runner.probe call).Reached := by
  cases hc : call.passed with
  | true =>
    refine ⟨by rw [probe_of_passed hc]; exact h.threshold_pos, fun hp => ?_⟩
    have hle := UInt32.le_iff_toNat_le.mp (isPassing_probe_iff.mp hp).2
    rw [probe_of_passed hc]
    exact hle
  | false =>
    refine ⟨by rw [probe_of_failed hc]; exact h.threshold_pos, fun hp => ?_⟩
    have := (isPassing_probe_iff.mp hp).1
    simp [hc] at this

theorem Reached.probeIfDue (h : runner.Reached) (call : ProbeCall) : (runner.probeIfDue call).Reached := by
  unfold ProbeRunner.probeIfDue
  split_ifs
  · exact h.probe call
  · exact h

/-- At the top of its range the counter of successes wraps to zero, below every threshold. -/
theorem Reached.isPassing_probe_iff (h : runner.Reached) (hp : runner.isPassing = true) :
    (runner.probe call).isPassing = true ↔ call.passed = true ∧ runner.consecutiveSuccesses.toNat + 1 < 2 ^ 32 := by
  rw [ProbeRunner.isPassing_probe_iff, UInt32.le_iff_toNat_le, UInt32.toNat_add]
  have hpos := h.threshold_pos
  have hle := h.of_passing hp
  have hlt := runner.consecutiveSuccesses.toNat_lt
  have hmod : (runner.consecutiveSuccesses.toNat + (1 : UInt32).toNat) % 2 ^ 32 =
      if runner.consecutiveSuccesses.toNat + 1 < 2 ^ 32 then runner.consecutiveSuccesses.toNat + 1 else 0 := by
    split_ifs with hroom
    · exact Nat.mod_eq_of_lt hroom
    · have : runner.consecutiveSuccesses.toNat + (1 : UInt32).toNat = 2 ^ 32 := by simp; omega
      rw [this, Nat.mod_self]
  rw [hmod]
  refine and_congr_right fun _ => ?_
  split_ifs with hroom
  · exact ⟨fun _ => hroom, fun _ => by omega⟩
  · exact ⟨fun hz => by omega, fun hr => absurd hr hroom⟩

theorem Reached.isPassing_probeIfDue_iff (h : runner.Reached) (hp : runner.isPassing = true) :
    (runner.probeIfDue call).isPassing = true ↔ runner.Steady call := by
  unfold ProbeRunner.probeIfDue Steady
  split_ifs with hdue
  · rw [h.isPassing_probe_iff hp]
    exact ⟨fun k _ => k, fun k => k hdue⟩
  · exact ⟨fun _ hd => absurd hd hdue, fun _ => hp⟩

end ProbeRunner

namespace ProbeSetRunner

variable {runner : ProbeSetRunner} {call : ProbeSetCall}

/-- The liveness probe that a call runs: one does if startup is done by then and the probe is due. -/
def livenessRun (runner : ProbeSetRunner) (call : ProbeSetCall) : Option ProbeCall :=
  if (runner.probeStartup call).startupDone then
    (runner.liveness.filter (·.isDue call.liveness.dueAt)).map fun _ => call.liveness
  else none

/-- The liveness probes that a run of calls executes, in order. -/
def livenessHistory (runner : ProbeSetRunner) (calls : List ProbeSetCall) : List ProbeCall :=
  emitted after livenessRun runner calls

theorem liveness_after {r : ProbeRunner} (h : runner.liveness = some r) :
    (runner.after call).liveness = some ((runner.livenessRun call).elim r r.probe) := by
  unfold after livenessRun
  cases hdone : (runner.probeStartup call).startupDone with
  | true =>
    rw [runProbes_of_started hdone, h]
    by_cases hdue : r.isDue call.liveness.dueAt = true <;> simp [ProbeRunner.probeIfDue, hdue, Option.filter]
  | false =>
    rw [runProbes_of_starting hdone]
    exact h

theorem liveness_after_of_none (h : runner.liveness = none) : (runner.after call).liveness = none := by
  unfold after
  cases hdone : (runner.probeStartup call).startupDone with
  | true => rw [runProbes_of_started hdone, h]; rfl
  | false => rw [runProbes_of_starting hdone]; exact h

/-- Once startup is done, the value reported for liveness is the verdict of the probe as the call leaves it. -/
theorem live_of_started (h : (runner.after call).startupDone = true) :
    (runner.runProbes call).1.1 = (runner.after call).liveness.all fun r => r.isLivePassing := by
  rw [startupDone_after] at h
  unfold after
  rw [runProbes_of_started h]

/-- What holds of a set in every run: a passing startup probe has reached its threshold, and the liveness probe counts the
    failures at the end of what it executed. -/
structure Follows (liveness : Option Probe) (history : List ProbeCall) (runner : ProbeSetRunner) : Prop where
  startup : ∃ r, runner.startup = some r ∧ r.Reached
  liveness_none : liveness = none → runner.liveness = none
  liveness_some : ∀ probe, liveness = some probe → ∃ r, runner.liveness = some r ∧ r.Counts probe history

/-- A set with a startup probe that was never run. -/
def fresh (startup : Probe) (liveness readiness : Option Probe) (now : Nat) : ProbeSetRunner :=
  new (some ⟨some startup, liveness, readiness⟩) now

variable {startup : Probe} {liveness readiness : Option Probe} {now : Nat} {history : List ProbeCall}

theorem fresh_follows : Follows liveness [] (fresh startup liveness readiness now) where
  startup := ⟨_, rfl, .new startup now⟩
  liveness_none := by rintro rfl; rfl
  liveness_some := by rintro probe rfl; exact ⟨_, rfl, .new probe now⟩

theorem startupDone_fresh : (fresh startup liveness readiness now).startupDone = false := rfl

theorem Follows.after (h : Follows liveness history runner) (call : ProbeSetCall) :
    Follows liveness (history ++ (runner.livenessRun call).toList) (runner.after call) where
  startup := by
    obtain ⟨r, hr, reached⟩ := h.startup
    exact ⟨r.probeIfDue call.startup, by rw [startup_after, hr]; rfl, reached.probeIfDue call.startup⟩
  liveness_none := fun hl => liveness_after_of_none (h.liveness_none hl)
  liveness_some := fun probe hl => by
    obtain ⟨r, hr, counts⟩ := h.liveness_some probe hl
    refine ⟨_, liveness_after hr, ?_⟩
    cases runner.livenessRun call with
    | none => simpa using counts
    | some run => exact counts.step run

theorem follows_run (calls : List ProbeSetCall) :
    Follows liveness ((fresh startup liveness readiness now).livenessHistory calls)
      (calls.foldl ProbeSetRunner.after (fresh startup liveness readiness now)) := by
  induction calls using List.reverseRecOn with
  | nil => exact fresh_follows
  | append_singleton calls call ih =>
    unfold livenessHistory at ih ⊢
    rw [emitted_concat, List.foldl_concat]
    exact ih.after call

/-- What a set whose startup is done needs of a call. -/
def Steady (runner : ProbeSetRunner) (call : ProbeSetCall) : Prop :=
  runner.startupDone = true →
    (∀ r ∈ runner.startup, r.Steady call.startup) ∧ ∀ r ∈ runner.liveness, r.Countable call.liveness

/-- Startup stays done in a call exactly if its probe, where it is due, succeeds with room in its counter. -/
theorem Follows.startupDone_after_iff (h : Follows liveness history runner) (hdone : runner.startupDone = true) :
    (runner.after call).startupDone = true ↔ ∀ r ∈ runner.startup, r.Steady call.startup := by
  obtain ⟨r, hr, reached⟩ := h.startup
  simp only [startupDone, hr, Option.all_some] at hdone
  rw [startupDone, startup_after, hr, Option.map_some, Option.all_some, reached.isPassing_probeIfDue_iff hdone]
  exact ⟨by rintro hs _ ⟨⟩; exact hs, fun hs => hs r rfl⟩

/-- The verdict about the liveness probe: it failed as often in a row as its threshold says. -/
def LivenessFailed (liveness : Option Probe) (history : List ProbeCall) : Prop :=
  ∃ probe, liveness = some probe ∧ LastAll ProbeCall.failed (max probe.failureThreshold.toNat 1) history

/-- Once startup is done after a call, it is done after every later call, and from that call on the reported liveness is
    the verdict about what the liveness probe executed. -/
def StartupOnce (liveness : Option Probe) (runner : ProbeSetRunner) (calls : List ProbeSetCall) : Prop :=
  ∀ before call, before ++ [call] <+: calls →
    (∃ done, done ≠ [] ∧ done <+: before ++ [call] ∧ (done.foldl after runner).startupDone = true) →
      ((before ++ [call]).foldl after runner).startupDone = true ∧
        (((before.foldl after runner).runProbes call).1.1 = false ↔
          LivenessFailed liveness (runner.livenessHistory (before ++ [call])))

theorem livenessRun_eq_some {run : ProbeCall} (h : runner.livenessRun call = some run) :
    run = call.liveness ∧ (runner.after call).startupDone = true ∧
      ∃ r, runner.liveness = some r ∧ r.isDue call.liveness.dueAt = true := by
  rw [startupDone_after]
  unfold livenessRun at h
  cases hdone : (runner.probeStartup call).startupDone with
  | false => simp [hdone] at h
  | true =>
    rw [hdone, if_pos rfl, Option.map_eq_some_iff] at h
    obtain ⟨r, hr, rfl⟩ := h
    obtain ⟨hr, hdue⟩ := Option.filter_eq_some_iff.mp hr
    exact ⟨rfl, rfl, r, hr, hdue⟩

theorem livenessRun_of_due {r : ProbeRunner} (hdone : (runner.after call).startupDone = true)
    (hr : runner.liveness = some r) (hdue : r.isDue call.liveness.dueAt = true) :
    runner.livenessRun call = some call.liveness := by
  rw [startupDone_after] at hdone
  simp [livenessRun, hdone, hr, Option.filter, hdue]

theorem livenessHistory_concat (calls : List ProbeSetCall) : runner.livenessHistory (calls ++ [call]) =
    runner.livenessHistory calls ++ ((calls.foldl after runner).livenessRun call).toList := emitted_concat

/-- While the counter of failures did not wrap, the reported liveness is the verdict. -/
theorem Follows.live_eq_false_iff (h : Follows liveness history (runner.after call))
    (hdone : (runner.after call).startupDone = true) (hlt : streak ProbeCall.failed history < 2 ^ 32) :
    (runner.runProbes call).1.1 = false ↔ LivenessFailed liveness history := by
  rw [live_of_started hdone, LivenessFailed]
  cases hl : liveness with
  | none => simp [h.liveness_none hl]
  | some probe =>
    obtain ⟨r, hr, counts⟩ := h.liveness_some probe hl
    simp [hr, counts.isLivePassing_eq_false_iff hlt]

/-- A failing run of the liveness probe with a full counter is reported as live. -/
theorem Follows.live_of_full (h : Follows liveness history runner) (hdone : (runner.after call).startupDone = true)
    {r : ProbeRunner} (hr : runner.liveness = some r) (hdue : r.isDue call.liveness.dueAt = true)
    (hfail : call.liveness.failed = true) (hfull : ¬r.consecutiveFailures.toNat + 1 < 2 ^ 32) :
    (runner.runProbes call).1.1 = true ∧ LivenessFailed liveness (history ++ (runner.livenessRun call).toList) := by
  have hrun := livenessRun_of_due hdone hr hdue
  have next := h.after call
  rw [hrun, Option.toList_some] at next ⊢
  cases hl : liveness with
  | none => simp [h.liveness_none hl] at hr
  | some probe =>
    obtain ⟨r₀, hr₀, counts⟩ := h.liveness_some probe hl
    obtain ⟨r', hr', counts'⟩ := next.liveness_some probe hl
    obtain rfl : r = r₀ := Option.some.inj (hr.symm.trans hr₀)
    have hnext := counts'.failures
    have hcount := counts.failures
    have hthreshold := counts'.failureThreshold
    have hthreshold_lt := r'.failureThreshold.toNat_lt
    rw [streak_concat_pos hfail] at hnext
    constructor
    · rw [live_of_started hdone, hr', Option.all_some, ProbeRunner.isLivePassing, decide_eq_true_iff,
        UInt32.lt_iff_toNat_lt]
      omega
    · refine ⟨probe, rfl, (le_streak_iff _).mp ?_⟩
      rw [streak_concat_pos hfail]
      omega

/-- In a run of steady calls the counter of failures never wraps, and nothing ran before startup was done. -/
structure Bounded (runner : ProbeSetRunner) (history : List ProbeCall) : Prop where
  lt : streak ProbeCall.failed history < 2 ^ 32
  starting : runner.startupDone = false → history = []

theorem Bounded.after (h : Bounded runner history) (hf : Follows liveness history runner) (hs : runner.Steady call) :
    Bounded (runner.after call) (history ++ (runner.livenessRun call).toList) := by
  cases hrun : runner.livenessRun call with
  | none =>
    rw [Option.toList_none, List.append_nil]
    refine ⟨h.lt, fun hnot => ?_⟩
    cases hdone : runner.startupDone with
    | false => exact h.starting hdone
    | true =>
      have := (hf.startupDone_after_iff hdone).mpr (hs hdone).1
      simp [hnot] at this
  | some run =>
    obtain ⟨rfl, hafter, r, hr, hdue⟩ := livenessRun_eq_some hrun
    refine ⟨?_, fun hnot => by simp [hafter] at hnot⟩
    rw [Option.toList_some]
    cases hfail : call.liveness.failed with
    | false =>
      rw [streak_concat_neg hfail]
      decide
    | true =>
      rw [streak_concat_pos hfail]
      cases hdone : runner.startupDone with
      | false =>
        rw [h.starting hdone]
        decide
      | true =>
        have hroom := (hs hdone).2 r hr hdue hfail
        cases hl : liveness with
        | none => simp [hf.liveness_none hl] at hr
        | some probe =>
          obtain ⟨r', hr', counts⟩ := hf.liveness_some probe hl
          obtain rfl : r = r' := Option.some.inj (hr.symm.trans hr')
          rw [counts.failures, Nat.mod_eq_of_lt h.lt] at hroom
          exact hroom

theorem bounded_run {calls : List ProbeSetCall}
    (h : Along ProbeSetRunner.after Steady (fresh startup liveness readiness now) calls) :
    Bounded (calls.foldl ProbeSetRunner.after (fresh startup liveness readiness now))
      ((fresh startup liveness readiness now).livenessHistory calls) := by
  induction calls using List.reverseRecOn with
  | nil => exact ⟨Nat.two_pow_pos 32, fun _ => rfl⟩
  | append_singleton calls call ih =>
    obtain ⟨hcalls, hlast⟩ := along_concat.mp h
    rw [livenessHistory_concat, List.foldl_concat]
    exact (ih hcalls).after (follows_run calls) hlast

/-- Startup that is done stays done over steady calls. -/
theorem startupDone_of_steady {earlier later : List ProbeSetCall}
    (h : Along ProbeSetRunner.after Steady (fresh startup liveness readiness now) (earlier ++ later))
    (hdone : (earlier.foldl ProbeSetRunner.after (fresh startup liveness readiness now)).startupDone = true) :
    ((earlier ++ later).foldl ProbeSetRunner.after (fresh startup liveness readiness now)).startupDone = true := by
  induction later using List.reverseRecOn with
  | nil => rwa [List.append_nil]
  | append_singleton later call ih =>
    rw [← List.append_assoc] at h ⊢
    obtain ⟨hcalls, hlast⟩ := along_concat.mp h
    have hprev := ih hcalls
    rw [List.foldl_concat, (follows_run _).startupDone_after_iff hprev]
    exact (hlast hprev).1

end ProbeSetRunner

open ProbeSetRunner in
/-- Startup completes once, and the liveness verdict is reported from then on, exactly in the runs in which no call made
    while startup is done runs the startup probe to a failure. The two counters that wrap are the other half of the
    condition: 2^32 runs in a row. -/
theorem startup_once_iff (startup : Probe) (liveness readiness : Option Probe) (now : Nat) (calls : List ProbeSetCall) :
    StartupOnce liveness (fresh startup liveness readiness now) calls ↔
      Along ProbeSetRunner.after Steady (fresh startup liveness readiness now) calls := by
  constructor
  · rintro h before call rest rfl hdone
    have hne : before ≠ [] := by
      rintro rfl
      exact Bool.noConfusion (startupDone_fresh.symm.trans hdone)
    obtain ⟨hafter, verdict⟩ := h before call ⟨rest, by simp⟩ ⟨before, hne, List.prefix_append _ _, hdone⟩
    rw [List.foldl_concat] at hafter
    refine ⟨((follows_run before).startupDone_after_iff hdone).mp hafter, fun r hr hdue hfail => ?_⟩
    by_contra hfull
    obtain ⟨hlive, hfailed⟩ := (follows_run before).live_of_full hafter hr hdue hfail hfull
    rw [← livenessHistory_concat] at hfailed
    have := verdict.mpr hfailed
    simp [hlive] at this
  · intro h before call hcalls hearlier
    obtain ⟨rest, rfl⟩ := hcalls
    have hsteady := (along_append.mp h).1
    obtain ⟨done, -, ⟨later, hlater⟩, hdone⟩ := hearlier
    have hafter := startupDone_of_steady (by rw [hlater]; exact hsteady) hdone
    rw [hlater] at hafter
    refine ⟨hafter, ?_⟩
    have follows : Follows liveness ((fresh startup liveness readiness now).livenessHistory (before ++ [call])) _ :=
      follows_run (before ++ [call])
    rw [List.foldl_concat] at hafter follows
    exact follows.live_eq_false_iff hafter (bounded_run hsteady).lt

open ProbeSetRunner in
/-- A startup probe that passed runs again and fails: startup is not done any more, and the liveness probe, which failed
    with a threshold of one, is reported as live. -/
theorem startup_reopens :
    let probe : Probe := { check := none, successThreshold := 1, failureThreshold := 1 }
    let passing : ProbeCall := ⟨0, 0, .ok ()⟩
    let failing : ProbeCall := ⟨1, 1, .error "refused"⟩
    let first : ProbeSetCall := ⟨passing, failing, passing⟩
    let second : ProbeSetCall := ⟨failing, failing, passing⟩
    let runner := fresh probe (some probe) none 0
    (runner.runProbes first).1.1 = false ∧ ((runner.after first).runProbes second).1.1 = true ∧
      ¬StartupOnce (some probe) runner [first, second] := by
  intro probe passing failing first second runner
  refine ⟨by decide, by decide, fun h => ?_⟩
  have hdone : ([first].foldl ProbeSetRunner.after runner).startupDone = true := by decide
  have hreopened : ([first, second].foldl ProbeSetRunner.after runner).startupDone = false := by decide
  have hstill := (h [first] second (List.prefix_refl _) ⟨[first], List.cons_ne_nil _ _, ⟨[second], rfl⟩, hdone⟩).1
  exact Bool.noConfusion (hreopened.symm.trans hstill)

end FleetosAgent.Workloads
