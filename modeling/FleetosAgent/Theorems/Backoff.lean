import FleetosAgent.Client.Watch

/-! # Backing off

The delay before the next connection attempt doubles with every attempt that was given up, and nothing bounds their number:
the doubling leaves 64 bits long after the cap on the delay has been reached. -/

namespace FleetosAgent.Client

/-! ### The computation -/

/-- `delay` is what `n` doublings should give: computed without overflow, between the base and the cap, and no less than
    what fewer doublings give. -/
structure BackoffAt (n delay : Nat) : Prop where
  computed : checkedBackoffMs n = some delay
  base_le : baseRetryDelayMs ≤ delay
  le_max : delay ≤ maxRetryDelayMs
  mono : ∀ m ≤ n, ∃ earlier, checkedBackoffMs m = some earlier ∧ earlier ≤ delay

theorem base_mul_pow_lt {n : Nat} (h : n ≤ 57) : baseRetryDelayMs * 2 ^ n < 2 ^ 64 :=
  calc baseRetryDelayMs * 2 ^ n ≤ baseRetryDelayMs * 2 ^ 57 := Nat.mul_le_mul_left _ (Nat.pow_le_pow_right Nat.two_pos h)
    _ < 2 ^ 64 := by decide

theorem checkedBackoffMs_of_le {n : Nat} (h : n ≤ 57) :
    checkedBackoffMs n = some (min (baseRetryDelayMs * 2 ^ n) maxRetryDelayMs) := by
  have fits := base_mul_pow_lt h
  have power : 2 ^ n ≤ baseRetryDelayMs * 2 ^ n := Nat.le_mul_of_pos_left _ (by decide)
  rw [checkedBackoffMs, Nat.mod_eq_of_lt (by omega)]
  rw [if_neg (by omega), if_neg (by omega)]

theorem backoffMs_of_le {n : Nat} (h : n ≤ 57) : backoffMs n = min (baseRetryDelayMs * 2 ^ n) maxRetryDelayMs := by
  rw [backoffMs, Nat.mod_eq_of_lt (by omega : n < 2 ^ 32), Nat.mod_eq_of_lt (base_mul_pow_lt h)]

theorem backoffAt_of_le {n : Nat} (h : n ≤ 57) : BackoffAt n (backoffMs n) := by
  rw [backoffMs_of_le h]
  have power : ∀ m, 1 ≤ 2 ^ m := fun m => Nat.one_le_two_pow
  refine ⟨checkedBackoffMs_of_le h, ?_, Nat.min_le_right .., fun m hm => ?_⟩
  · exact Nat.le_min.mpr ⟨Nat.le_mul_of_pos_right _ (power n), by decide⟩
  · refine ⟨_, checkedBackoffMs_of_le (hm.trans h), ?_⟩
    have doubled : baseRetryDelayMs * 2 ^ m ≤ baseRetryDelayMs * 2 ^ n :=
      Nat.mul_le_mul_left _ (Nat.pow_le_pow_right Nat.two_pos hm)
    exact min_le_min_right _ doubled

/-- The 58th doubling does not fit. -/
theorem BackoffAt.le {n delay : Nat} (h : BackoffAt n delay) : n ≤ 57 := by
  by_contra many
  obtain ⟨earlier, computed, -⟩ := h.mono 58 (by omega)
  have overflow : checkedBackoffMs 58 = none := by decide
  rw [overflow] at computed
  cases computed

/-- The hops at which `classify_error` computes a delay never come near. -/
theorem backoffAt_of_classify {status : Status} {hops delay : Nat}
    (h : classifyError status hops = .retrySameTarget delay) : BackoffAt hops delay := by
  unfold classifyError at h
  by_cases many : maxRedirectHops < hops
  · rw [if_pos many] at h
    cases h
  rw [if_neg many] at h
  have few : hops ≤ 57 := by
    simp only [maxRedirectHops] at many
    omega
  by_cases code : status.code = .unavailable
  · rw [if_pos code] at h
    cases leader : leaderAddress status with
    | some target =>
      rw [leader] at h
      cases h
    | none =>
      rw [leader] at h
      cases h
      exact backoffAt_of_le few
  · rw [if_neg code] at h
    cases h

/-! ### The loops -/

inductive WatchName where
  | sag
  | schedule
  | routes
  | events

section Loops
variable (c : Policy.PolicyCompiler) (WatchEvent : Type)

def WatchName.Update : WatchName → Type
  | .sag => Policy.SagUpdate c
  | .schedule => ScheduleUpdate
  | .routes => Routes.RouteUpdate
  | .events => WatchEvent

def WatchName.loop : (name : WatchName) → WatchState → NetAnswer (name.Update c WatchEvent) →
    WatchState × WatchOutput (name.Update c WatchEvent)
  | .sag => watchSag c
  | .schedule => watchSchedule
  | .routes => watchRoutes
  | .events => watchEvents

end Loops

section Reconnect
variable {U : Type} {loop : WatchState → NetAnswer U → WatchState × WatchOutput U}

def runWatch (loop : WatchState → NetAnswer U → WatchState × WatchOutput U) (answers : List (NetAnswer U)) : WatchState :=
  answers.foldl (fun s answer => (loop s answer).1) {}

/-- The connection attempt fails, and is neither redirected nor transient. -/
def GivesUp (s : WatchState) (answer : NetAnswer U) : Prop :=
  s.phase = .request ∧ ∃ status reason, answer.watch = .error status ∧ classifyError status s.redirectHops = .giveUp reason

/-- In every run of the loop, the sleep after the `n`-th failed connection attempt in a row is as it should be. -/
def ReconnectBackoff (loop : WatchState → NetAnswer U → WatchState × WatchOutput U) (n : Nat) : Prop :=
  ∀ answers answer, GivesUp (runWatch loop answers) answer → (runWatch loop answers).consecutiveFailures + 1 = n →
    BackoffAt n (loop (runWatch loop answers) answer).2.sleepMs

/-- What the loops share: how they come to a request, and what they do when it fails. -/
structure Reconnects (loop : WatchState → NetAnswer U → WatchState × WatchOutput U) : Prop where
  channel : ∀ s answer, s.phase = .channel → answer.channel = .ok () → loop s answer = ({ s with phase := .request }, {})
  request : ∀ s answer status, s.phase = .request → answer.watch = .error status →
    ∃ request, loop s answer = requestError s request status

theorem reconnects_versioned (version : U → UInt64) : Reconnects (watchVersioned version) where
  channel s answer hs ha := by simp only [watchVersioned, hs, ha]
  request s answer status hs ha := ⟨⟨s.lastKnownVersion⟩, by simp only [watchVersioned, hs, ha]⟩

theorem reconnects_events : Reconnects (@watchEvents U) where
  channel s answer hs ha := by simp only [watchEvents, hs, ha]
  request s answer status hs ha := ⟨⟨0⟩, by simp only [watchEvents, hs, ha]⟩

theorem WatchName.reconnects (c : Policy.PolicyCompiler) (WatchEvent : Type) (name : WatchName) :
    Reconnects (name.loop c WatchEvent) := by
  cases name with
  | sag => exact reconnects_versioned _
  | schedule => exact reconnects_versioned _
  | routes => exact reconnects_versioned _
  | events => exact reconnects_events

theorem sleep_of_givesUp (h : Reconnects loop) {s : WatchState} {answer : NetAnswer U} (hs : GivesUp s answer) :
    (loop s answer).1 = { s with consecutiveFailures := s.consecutiveFailures + 1, phase := .channel } ∧
      (loop s answer).2.sleepMs = backoffMs (s.consecutiveFailures + 1) := by
  obtain ⟨phase, status, reason, watch, giveUp⟩ := hs
  obtain ⟨request, step⟩ := h.request s answer status phase watch
  rw [step, requestError, giveUp]
  exact ⟨rfl, rfl⟩

/-! ### Runs without a success -/

/-- The server is there and refuses. -/
def refusal : NetAnswer U := { watch := .error { code := .permissionDenied } }

theorem givesUp_refusal (failures : Nat) : GivesUp (U := U) ⟨0, 0, failures, .request⟩ refusal :=
  ⟨rfl, _, _, rfl, rfl⟩

theorem runWatch_concat (answers : List (NetAnswer U)) (answer : NetAnswer U) :
    runWatch loop (answers ++ [answer]) = (loop (runWatch loop answers) answer).1 := List.foldl_concat ..

/-- Each failed attempt takes two answers, that for the channel and that for the request. -/
theorem runWatch_refusals (h : Reconnects loop) (n : Nat) :
    runWatch loop (List.replicate (2 * n) refusal) = ⟨0, 0, n, .channel⟩ ∧
      runWatch loop (List.replicate (2 * n + 1) refusal) = ⟨0, 0, n, .request⟩ := by
  have ask : ∀ k, runWatch loop (List.replicate (2 * k) refusal) = ⟨0, 0, k, .channel⟩ →
      runWatch loop (List.replicate (2 * k + 1) refusal) = ⟨0, 0, k, .request⟩ := by
    intro k hk
    rw [List.replicate_succ', runWatch_concat, hk, h.channel _ _ rfl rfl]
  suffices waiting : runWatch loop (List.replicate (2 * n) refusal) = ⟨0, 0, n, .channel⟩ from ⟨waiting, ask n waiting⟩
  induction n with
  | zero => rfl
  | succ n ih =>
    rw [Nat.mul_succ, List.replicate_succ', runWatch_concat, ask n ih, (sleep_of_givesUp h (givesUp_refusal n)).1]

theorem reconnectBackoff_iff (h : Reconnects loop) (n : Nat) : ReconnectBackoff loop n ↔ n ≤ 57 := by
  constructor
  · intro backoff
    cases n with
    | zero => exact Nat.zero_le _
    | succ n =>
      have run := (runWatch_refusals h n).2
      refine (backoff (List.replicate (2 * n + 1) refusal) refusal ?_ ?_).le
      · rw [run]
        exact givesUp_refusal n
      · rw [run]
  · intro few answers answer gives hn
    rw [(sleep_of_givesUp h gives).2, hn]
    exact backoffAt_of_le few

end Reconnect

/-- After `n` failed connection attempts in a row each of the loops sleeps as it should exactly if there are at most 57; the
    delays of `classify_error` always are as they should be. -/
theorem reconnect_backoff_well_behaved_iff (c : Policy.PolicyCompiler) (WatchEvent : Type) (n : Nat) :
    (∀ name : WatchName, ReconnectBackoff (name.loop c WatchEvent) n) ∧
      (∀ status hops delay, classifyError status hops = .retrySameTarget delay → BackoffAt hops delay) ↔ n ≤ 57 := by
  constructor
  · intro h
    exact (reconnectBackoff_iff (WatchName.reconnects c WatchEvent .sag) n).mp (h.1 .sag)
  · intro few
    exact ⟨fun name => (reconnectBackoff_iff (name.reconnects c WatchEvent) n).mpr few,
      fun status hops delay => backoffAt_of_classify⟩

/-- The 58th failure in a row overflows; the wrapped product is 0 from the 62nd on, and the loop no longer sleeps. -/
theorem watch_schedule_stops_sleeping : checkedBackoffMs 58 = none ∧
    (watchSchedule (runWatch watchSchedule (List.replicate 123 refusal)) refusal).2.sleepMs = 0 := by
  have h : Reconnects watchSchedule := reconnects_versioned _
  refine ⟨by decide, ?_⟩
  rw [(runWatch_refusals h 61).2, (sleep_of_givesUp h (givesUp_refusal 61)).2]
  decide

end FleetosAgent.Client
