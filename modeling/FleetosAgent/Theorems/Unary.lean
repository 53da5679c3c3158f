import FleetosAgent.Client.Unary
import FleetosAgent.Lib.Run
import Mathlib.Data.Seq.Defs

/-! # How often a unary call is made

A wrapper keeps two counts, and a turn that does not return raises one of them. So what has been followed, retried and
called can be read off the replies: up to the turn at which the wrapper returns they were all redirects and transient
errors. The redirects are counted one too far: `classify_error` gives up above the limit, not at it. -/

namespace FleetosAgent.Client
open Lib

/-! ### Replies -/

open String in
/-- An address without blanks around it is taken as it is. -/
theorem leaderAddress_of_visible {status : Status} {address : String} (h : status.leaderDcAddress = some address)
    (hfirst : address.toList.head?.any Char.isWhitespace = false)
    (hlast : address.toList.getLast?.any Char.isWhitespace = false) (hne : address.isEmpty = false) :
    leaderAddress status = some address := by
  have start : address.toSlice.dropWhile Char.isWhitespace = address.toSlice := by
    refine Slice.dropWhile_eq_self ?_
    rw [Slice.startsWith_bool_eq_head?]
    simpa using hfirst
  have stop : address.toSlice.dropEndWhile Char.isWhitespace = address.toSlice := by
    refine Slice.dropEndWhile_eq_self ?_
    rw [Slice.endsWith_bool_eq_getLast?]
    simpa using hlast
  have trim : address.trimAscii.toString = address := by
    show ((address.toSlice.dropWhile Char.isWhitespace).dropEndWhile Char.isWhitespace).toString = address
    rw [start, stop]
    simp
  rw [leaderAddress, h, Option.map_some, trim, Option.filter_some, hne]
  rfl

namespace UnaryAttempt
variable {Resp : Type} (a : UnaryAttempt Resp)

/-- The status the call fails with, if it is made and fails. -/
def failure : Option Status :=
  match a.channel, a.reply with
  | .ok _, .error status => some status
  | _, _ => none

/-- UNAVAILABLE with a usable leader address. -/
def redirects : Bool := a.failure.any fun status => status.code = .unavailable && (leaderAddress status).isSome

/-- UNAVAILABLE without one. -/
def transient : Bool := a.failure.any fun status => status.code = .unavailable && (leaderAddress status).isNone

variable {a}

theorem redirects_iff : a.redirects = true ↔
    ∃ status target, a.failure = some status ∧ status.code = .unavailable ∧ leaderAddress status = some target := by
  unfold redirects
  cases a.failure with
  | none => simp
  | some status => simp [Option.isSome_iff_exists]

theorem transient_iff : a.transient = true ↔
    ∃ status, a.failure = some status ∧ status.code = .unavailable ∧ leaderAddress status = none := by
  unfold transient
  cases a.failure with
  | none => simp
  | some status => simp

theorem not_transient (h : a.redirects = true) : a.transient = false := by
  obtain ⟨status, target, hf, -, leader⟩ := redirects_iff.mp h
  rw [transient, hf]
  simp [leader]

theorem not_redirects (h : a.transient = true) : a.redirects = false := by
  by_contra hr
  rw [not_transient (Bool.of_not_eq_false hr)] at h
  cases h

end UnaryAttempt

namespace UnaryRpc
variable {Req Resp R : Type} (rpc : UnaryRpc Req Resp R)

/-! ### Runs -/

def after (l : List (UnaryAttempt Resp)) : UnaryState R := l.foldl rpc.step {}

/-- The calls made, the redirects followed and the retries of the same target. -/
def calls (l : List (UnaryAttempt Resp)) : List Req := emitted rpc.step (fun s a => (rpc.turn s a).2.request) {} l

def followed (l : List (UnaryAttempt Resp)) : List String := emitted rpc.step (fun s a => (rpc.turn s a).2.retarget) {} l

def retries (l : List (UnaryAttempt Resp)) : List Nat := emitted rpc.step (fun s a => (rpc.turn s a).2.sleepMs) {} l

/-! ### One turn -/

variable {rpc} {s : UnaryState R} {a : UnaryAttempt Resp} {l : List (UnaryAttempt Resp)}

/-- What a turn does that neither redirects nor retries. -/
structure Returns (rpc : UnaryRpc Req Resp R) (s : UnaryState R) (a : UnaryAttempt Resp) : Prop where
  returned : (rpc.turn s a).1.returned.isSome
  retarget : (rpc.turn s a).2.retarget = none
  sleepMs : (rpc.turn s a).2.sleepMs = none

theorem returns_of_turn {t : UnaryState R} {request : Option Req} (turn : rpc.turn s a = (t, { request := request }))
    (h : t.returned.isSome) : Returns rpc s a := by
  constructor <;> rw [turn]
  exact h

theorem returns_of_returned (h : s.returned.isSome) : Returns rpc s a ∧ (rpc.turn s a).2.request = none := by
  obtain ⟨r, hr⟩ := Option.isSome_iff_exists.mp h
  have turn : rpc.turn s a = (s, {}) := by simp only [turn, hr]
  exact ⟨returns_of_turn turn h, by rw [turn]⟩

theorem turn_of_failure {status : Status} (h : s.returned = none) (ha : a.failure = some status) :
    rpc.turn s a = rpc.failed s status := by
  obtain ⟨channel, reply⟩ := a
  cases channel with
  | error e => cases ha
  | ok u =>
    cases reply with
    | ok response => cases ha
    | error status' =>
      cases ha
      simp only [turn, h]

theorem returns_of_no_failure (h : s.returned = none) (ha : a.failure = none) : Returns rpc s a := by
  obtain ⟨channel, reply⟩ := a
  cases channel with
  | error e =>
    have turn : rpc.turn s ⟨.error e, reply⟩ = ({ s with returned := some (.error e) }, {}) := by simp only [turn, h]
    exact returns_of_turn turn rfl
  | ok u =>
    cases reply with
    | ok response =>
      have turn : rpc.turn s ⟨.ok u, .ok response⟩ =
          ({ s with returned := some (.ok (rpc.receive response)) }, { request := some rpc.request }) := by
            simp only [turn, h]
      exact returns_of_turn turn rfl
    | error status => cases ha

/-- A redirect is followed while the redirects taken do not exceed the limit. -/
theorem turn_of_redirects (h : s.returned = none) (ha : a.redirects = true) (hops : s.redirectHops ≤ maxRedirectHops) :
    ∃ target, rpc.turn s a =
      ({ s with redirectHops := s.redirectHops + 1 }, { request := some rpc.request, retarget := some target }) := by
  obtain ⟨status, target, hf, code, leader⟩ := UnaryAttempt.redirects_iff.mp ha
  refine ⟨target, ?_⟩
  rw [turn_of_failure h hf, failed, classifyError, if_neg (Nat.not_lt.mpr hops), if_pos code, leader]

/-- A transient error is waited for while retries are left. -/
theorem turn_of_transient (h : s.returned = none) (ha : a.transient = true) (hops : s.redirectHops ≤ maxRedirectHops)
    (left : s.transientRetries < maxTransientRetries) :
    ∃ delayMs, rpc.turn s a =
      ({ s with transientRetries := s.transientRetries + 1 },
        { request := some rpc.request, sleepMs := some delayMs }) := by
  obtain ⟨status, hf, code, leader⟩ := UnaryAttempt.transient_iff.mp ha
  refine ⟨backoffMs s.redirectHops, ?_⟩
  rw [turn_of_failure h hf, failed, classifyError, if_neg (Nat.not_lt.mpr hops), if_pos code, leader]
  dsimp only
  rw [if_neg (by omega)]

theorem returns_of_otherwise (h : s.returned = none) (hredirect : a.redirects = true → maxRedirectHops < s.redirectHops)
    (hretry : a.transient = true → s.redirectHops ≤ maxRedirectHops → maxTransientRetries ≤ s.transientRetries) :
    Returns rpc s a := by
  cases hf : a.failure with
  | none => exact returns_of_no_failure h hf
  | some status =>
    have turn : rpc.turn s a = rpc.failed s status := turn_of_failure h hf
    rw [failed, classifyError] at turn
    by_cases hops : maxRedirectHops < s.redirectHops
    · rw [if_pos hops] at turn
      exact returns_of_turn turn rfl
    · rw [if_neg hops] at turn
      by_cases code : status.code = .unavailable
      · rw [if_pos code] at turn
        cases leader : leaderAddress status with
        | some target => exact absurd (hredirect (UnaryAttempt.redirects_iff.mpr ⟨status, target, hf, code, leader⟩)) hops
        | none =>
          have spent := hretry (UnaryAttempt.transient_iff.mpr ⟨status, hf, code, leader⟩) (Nat.not_lt.mp hops)
          rw [leader] at turn
          dsimp only at turn
          rw [if_pos (Nat.lt_succ_of_le spent)] at turn
          exact returns_of_turn turn rfl
      · rw [if_neg code] at turn
        exact returns_of_turn turn rfl

/-! ### While the wrapper has not returned -/

/-- The wrapper is still in its loop after `l`: every reply was a redirect it followed or a transient error it waited for.
    -/
structure Pending (rpc : UnaryRpc Req Resp R) (l : List (UnaryAttempt Resp)) : Prop where
  state : rpc.after l = ⟨l.countP (·.redirects), l.countP (·.transient), none⟩
  calls : (rpc.calls l).length = l.length
  followed : (rpc.followed l).length = l.countP (·.redirects)
  retries : (rpc.retries l).length = l.countP (·.transient)
  continues : ∀ a ∈ l, a.redirects = true ∨ a.transient = true
  patience : l.countP (·.transient) ≤ maxTransientRetries

theorem after_concat : rpc.after (l ++ [a]) = (rpc.turn (rpc.after l) a).1 := List.foldl_concat ..

theorem calls_concat : rpc.calls (l ++ [a]) = rpc.calls l ++ (rpc.turn (rpc.after l) a).2.request.toList := emitted_concat

theorem followed_concat : rpc.followed (l ++ [a]) = rpc.followed l ++ (rpc.turn (rpc.after l) a).2.retarget.toList :=
  emitted_concat

theorem retries_concat : rpc.retries (l ++ [a]) = rpc.retries l ++ (rpc.turn (rpc.after l) a).2.sleepMs.toList :=
  emitted_concat

theorem pending_nil : Pending rpc [] := ⟨rfl, rfl, rfl, rfl, List.forall_mem_nil _, Nat.zero_le _⟩

theorem Pending.redirected (h : Pending rpc l) (ha : a.redirects = true) (hops : l.countP (·.redirects) ≤ maxRedirectHops) :
    Pending rpc (l ++ [a]) := by
  have hredirects : (l ++ [a]).countP (·.redirects) = l.countP (·.redirects) + 1 := by simp [ha]
  have htransient : (l ++ [a]).countP (·.transient) = l.countP (·.transient) := by simp [UnaryAttempt.not_transient ha]
  have state := h.state
  obtain ⟨target, turn⟩ : ∃ target, rpc.turn (rpc.after l) a = _ :=
    turn_of_redirects (by rw [state]) ha (by rw [state]; exact hops)
  constructor
  · rw [after_concat, turn, state, hredirects, htransient]
  · rw [calls_concat, turn, List.length_append, h.calls, List.length_append]
    rfl
  · rw [followed_concat, turn, List.length_append, h.followed, hredirects]
    rfl
  · rw [retries_concat, turn, htransient, ← h.retries]
    exact congrArg List.length (List.append_nil _)
  · exact List.forall_mem_append.mpr ⟨h.continues, List.forall_mem_singleton.mpr (Or.inl ha)⟩
  · rw [htransient]
    exact h.patience

theorem Pending.retried (h : Pending rpc l) (ha : a.transient = true) (hops : l.countP (·.redirects) ≤ maxRedirectHops)
    (left : l.countP (·.transient) < maxTransientRetries) : Pending rpc (l ++ [a]) := by
  have hredirects : (l ++ [a]).countP (·.redirects) = l.countP (·.redirects) := by simp [UnaryAttempt.not_redirects ha]
  have htransient : (l ++ [a]).countP (·.transient) = l.countP (·.transient) + 1 := by simp [ha]
  have state := h.state
  obtain ⟨delayMs, turn⟩ : ∃ delayMs, rpc.turn (rpc.after l) a = _ :=
    turn_of_transient (by rw [state]) ha (by rw [state]; exact hops) (by rw [state]; exact left)
  constructor
  · rw [after_concat, turn, state, hredirects, htransient]
  · rw [calls_concat, turn, List.length_append, h.calls, List.length_append]
    rfl
  · rw [followed_concat, turn, hredirects, ← h.followed]
    exact congrArg List.length (List.append_nil _)
  · rw [retries_concat, turn, List.length_append, h.retries, htransient]
    rfl
  · exact List.forall_mem_append.mpr ⟨h.continues, List.forall_mem_singleton.mpr (Or.inr ha)⟩
  · rw [htransient]
    exact left

/-- The replies up to the turn at which the wrapper returns; from then on nothing is followed, retried or called. -/
structure Settled (rpc : UnaryRpc Req Resp R) (pre l : List (UnaryAttempt Resp)) : Prop where
  initial : pre <+: l
  pending : Pending rpc pre
  followed : rpc.followed l = rpc.followed pre
  retries : rpc.retries l = rpc.retries pre
  calls : (rpc.calls l).length ≤ pre.length + 1
  returned : pre = l ∨ (rpc.after l).returned.isSome

theorem Settled.concat_of_returns {pre : List (UnaryAttempt Resp)} (h : Settled rpc pre l)
    (ha : Returns rpc (rpc.after l) a) (calls : (rpc.calls (l ++ [a])).length ≤ pre.length + 1) :
    Settled rpc pre (l ++ [a]) where
  initial := h.initial.trans (List.prefix_append ..)
  pending := h.pending
  followed := by rw [followed_concat, ha.retarget, Option.toList_none, List.append_nil, h.followed]
  retries := by rw [retries_concat, ha.sleepMs, Option.toList_none, List.append_nil, h.retries]
  calls := calls
  returned := by
    rw [after_concat]
    exact Or.inr ha.returned

theorem Pending.settled (h : Pending rpc l) : Settled rpc l l :=
  ⟨List.prefix_rfl, h, rfl, rfl, h.calls ▸ Nat.le_succ _, Or.inl rfl⟩

theorem exists_settled (rpc : UnaryRpc Req Resp R) (l : List (UnaryAttempt Resp)) : ∃ pre, Settled rpc pre l := by
  induction l using List.reverseRecOn with
  | nil => exact ⟨[], pending_nil.settled⟩
  | append_singleton l a ih =>
    obtain ⟨pre, h⟩ := ih
    rcases h.returned with rfl | returned
    · -- The loop goes on: the turn follows, waits or returns.
      have state := h.pending.state
      by_cases hr : a.redirects = true ∧ pre.countP (·.redirects) ≤ maxRedirectHops
      · exact ⟨_, (h.pending.redirected hr.1 hr.2).settled⟩
      by_cases ht : a.transient = true ∧ pre.countP (·.redirects) ≤ maxRedirectHops ∧
          pre.countP (·.transient) < maxTransientRetries
      · exact ⟨_, (h.pending.retried ht.1 ht.2.1 ht.2.2).settled⟩
      refine ⟨pre, h.concat_of_returns (returns_of_otherwise (by rw [state]) ?_ ?_) ?_⟩
      · rw [state]
        exact fun ha => Nat.not_le.mp fun hops => hr ⟨ha, hops⟩
      · rw [state]
        exact fun ha hops => Nat.not_lt.mp fun left => ht ⟨ha, hops, left⟩
      · rw [calls_concat, List.length_append, h.pending.calls]
        cases (rpc.turn (rpc.after pre) a).2.request <;> simp
    · obtain ⟨idle, silent⟩ : Returns rpc (rpc.after l) a ∧ _ := returns_of_returned returned
      refine ⟨pre, h.concat_of_returns idle ?_⟩
      rw [calls_concat, silent, Option.toList_none, List.append_nil]
      exact h.calls

/-! ### Over every sequence of replies -/

theorem counts_of_continues (h : ∀ a ∈ l, a.redirects = true ∨ a.transient = true) :
    l.countP (·.redirects) + l.countP (·.transient) = l.length := by
  induction l with
  | nil => rfl
  | cons a l ih =>
    obtain ⟨ha, hl⟩ := List.forall_mem_cons.mp h
    rcases ha with ha | ha
    · simp only [List.countP_cons, ha, UnaryAttempt.not_transient ha, ← ih hl, List.length_cons]
      simp only [if_true, Bool.false_eq_true, if_false]
      omega
    · simp only [List.countP_cons, ha, UnaryAttempt.not_redirects ha, ← ih hl, List.length_cons]
      simp only [if_true, Bool.false_eq_true, if_false]
      omega

theorem pending_of_continues (h : ∀ a ∈ l, a.redirects = true ∨ a.transient = true)
    (hops : l.countP (·.redirects) ≤ maxRedirectHops) (patience : l.countP (·.transient) ≤ maxTransientRetries) :
    Pending rpc l := by
  induction l using List.reverseRecOn with
  | nil => exact pending_nil
  | append_singleton l a ih =>
    obtain ⟨hl, ha⟩ := List.forall_mem_append.mp h
    rw [List.countP_append] at hops patience
    have pending := ih hl (by omega) (by omega)
    rcases List.forall_mem_singleton.mp ha with ha | ha
    · exact pending.redirected ha (by omega)
    · refine pending.retried ha (by omega) ?_
      have one : [a].countP (·.transient) = 1 := by simp [ha]
      omega

/-- What the wrapper keeps to, as far as the replies `l` go. -/
structure BoundedRetries (rpc : UnaryRpc Req Resp R) (l : List (UnaryAttempt Resp)) : Prop where
  followed : (rpc.followed l).length ≤ maxRedirectHops
  retries : (rpc.retries l).length ≤ maxTransientRetries
  calls : (rpc.calls l).length ≤ 1 + maxRedirectHops + maxTransientRetries
  returned : 1 + maxRedirectHops + maxTransientRetries ≤ l.length → (rpc.after l).returned.isSome

/-- Control redirects at most `maxRedirectHops` times before something else ends the loop: in an initial stretch of
    redirects and at most `maxTransientRetries` transient errors there are no more redirects than that. -/
def FewRedirects (l : List (UnaryAttempt Resp)) : Prop :=
  ∀ pre, pre <+: l → (∀ a ∈ pre, a.redirects = true ∨ a.transient = true) →
    pre.countP (·.transient) ≤ maxTransientRetries → pre.countP (·.redirects) ≤ maxRedirectHops

theorem boundedRetries_of_few (h : FewRedirects l) : BoundedRetries rpc l := by
  obtain ⟨pre, settled⟩ := exists_settled rpc l
  have pending := settled.pending
  have few := h pre settled.initial pending.continues pending.patience
  have total := counts_of_continues pending.continues
  have patience := pending.patience
  constructor
  · rw [settled.followed, pending.followed]
    exact few
  · rw [settled.retries, pending.retries]
    exact patience
  · have calls := settled.calls
    omega
  · intro long
    refine settled.returned.resolve_left ?_
    rintro rfl
    omega

/-- The first place at which a predicate has held `k` times before. -/
theorem exists_split_of_lt_countP {α : Type} {p : α → Bool} {l : List α} {k : Nat} (h : k < l.countP p) :
    ∃ pre a post, l = pre ++ a :: post ∧ p a = true ∧ pre.countP p = k := by
  induction l generalizing k with
  | nil => cases h
  | cons a l ih =>
    cases ha : p a with
    | false =>
      rw [List.countP_cons_of_neg (by simp [ha])] at h
      obtain ⟨pre, b, post, rfl, hb, hk⟩ := ih h
      exact ⟨a :: pre, b, post, rfl, hb, by rw [List.countP_cons_of_neg (by simp [ha]), hk]⟩
    | true =>
      rw [List.countP_cons_of_pos ha] at h
      cases k with
      | zero => exact ⟨[], a, l, rfl, ha, rfl⟩
      | succ k =>
        obtain ⟨pre, b, post, rfl, hb, hk⟩ := ih (Nat.lt_of_succ_lt_succ h)
        exact ⟨a :: pre, b, post, rfl, hb, by rw [List.countP_cons_of_pos ha, hk]⟩

/-- One redirect more than the limit is followed. -/
theorem lt_followed (hall : ∀ a ∈ l, a.redirects = true ∨ a.transient = true)
    (patience : l.countP (·.transient) ≤ maxTransientRetries) (many : maxRedirectHops < l.countP (·.redirects)) :
    maxRedirectHops < (rpc.followed l).length := by
  obtain ⟨pre, a, post, rfl, ha, hpre⟩ := exists_split_of_lt_countP many
  have transient : pre.countP (·.transient) ≤ maxTransientRetries := by
    rw [List.countP_append] at patience
    omega
  have pending : Pending rpc pre :=
    pending_of_continues (List.forall_mem_append.mp hall).1 hpre.le transient
  have followed := (pending.redirected ha hpre.le).followed
  rw [List.countP_append, hpre, List.countP_singleton, if_pos ha] at followed
  rw [List.append_cons, UnaryRpc.followed, emitted_append, List.length_append]
  exact Nat.lt_of_lt_of_le (Nat.lt_succ_self _) (Nat.le_add_right_of_le followed.ge)

/-- Over any sequence of replies, finite or not, a wrapper keeps to both limits, and returns within the calls they leave,
    exactly if control does not redirect it once more than the limit. -/
theorem bounded_retries_iff (rpc : UnaryRpc Req Resp R) (replies : Stream'.Seq (UnaryAttempt Resp)) :
    (∀ n, BoundedRetries rpc (replies.take n)) ↔ ∀ n, FewRedirects (replies.take n) := by
  refine forall_congr' fun n => ⟨fun h pre hpre hall patience => ?_, boundedRetries_of_few⟩
  obtain ⟨post, hpost⟩ := hpre
  by_contra many
  have followed : maxRedirectHops < (rpc.followed pre).length := lt_followed hall patience (Nat.not_le.mp many)
  have bound := h.followed
  rw [← hpost, UnaryRpc.followed, emitted_append, List.length_append] at bound
  exact absurd (Nat.le_of_add_right_le bound) (Nat.not_le.mpr followed)

/-- UNAVAILABLE, the leader is elsewhere. -/
def elsewhere : UnaryAttempt Resp := { reply := .error { code := .unavailable, leaderDcAddress := some "dc2:7443" } }

def noLeader : UnaryAttempt Resp := { reply := .error { code := .unavailable } }

@[simp] theorem elsewhere_redirects : (elsewhere : UnaryAttempt Resp).redirects = true := by
  refine UnaryAttempt.redirects_iff.mpr ⟨_, "dc2:7443", rfl, rfl, ?_⟩
  exact leaderAddress_of_visible rfl (by decide) (by decide) (by decide)

@[simp] theorem elsewhere_transient : (elsewhere : UnaryAttempt Resp).transient = false :=
  UnaryAttempt.not_transient elsewhere_redirects

@[simp] theorem noLeader_transient : (noLeader : UnaryAttempt Resp).transient = true := rfl

@[simp] theorem noLeader_redirects : (noLeader : UnaryAttempt Resp).redirects = false := rfl

theorem pending_after_nine : Pending rpc (List.replicate 3 noLeader ++ List.replicate 5 elsewhere ++ [elsewhere]) := by
  have eight : Pending rpc (List.replicate 3 noLeader ++ List.replicate 5 elsewhere) :=
    pending_of_continues (by simp) (by simp [maxRedirectHops]) (by simp [List.countP_cons, maxTransientRetries])
  exact eight.redirected elsewhere_redirects (by simp [maxRedirectHops])

/-- Three transient errors and six redirects: all six are followed, and after nine calls the wrapper is about to call
    again. -/
theorem fetch_secret_follows_six :
    let rpc := fetchSecret "spiffe://fleet/ns/a/sa/web" 1
    let replies := List.replicate 3 noLeader ++ List.replicate 5 elsewhere ++ [elsewhere]
    (rpc.followed replies).length = 6 ∧ (rpc.calls replies).length = 9 ∧ (rpc.after replies).returned = none := by
  have pending := @pending_after_nine _ _ _ (fetchSecret "spiffe://fleet/ns/a/sa/web" 1)
  exact ⟨pending.followed.trans (by simp), pending.calls, congrArg UnaryState.returned pending.state⟩

end UnaryRpc

end FleetosAgent.Client
