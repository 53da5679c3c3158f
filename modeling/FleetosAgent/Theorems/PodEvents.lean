import FleetosAgent.Lib.Run
import FleetosAgent.Observability.PodEvents

/-! # Where recorded events are

An event that was recorded is in the batch, in a request under way, in a request that succeeded, or in one that failed: a
failed request keeps its events, and nobody else has them. So the events are all accounted for exactly as long as no
request fails. -/

namespace FleetosAgent.Observability
open Lib

section Places
variable {reporter : PodEventReporter} {s : ReporterState} {action : ReporterAction}

/-- The events of the request that a task has under way. -/
def ReporterTask.inFlight : ReporterTask → List PodEvent
  | .sending events => events
  | _ => []

namespace ReporterTask
@[simp] theorem inFlight_record (event : PodEvent) : (record event).inFlight = [] := rfl
@[simp] theorem inFlight_flush : flush.inFlight = [] := rfl
@[simp] theorem inFlight_sending (events : List PodEvent) : (sending events).inFlight = events := rfl
@[simp] theorem inFlight_done (result : Except AgentError Unit) : (done result).inFlight = [] := rfl
end ReporterTask

def ReporterState.inFlight (s : ReporterState) : List PodEvent := s.tasks.flatMap ReporterTask.inFlight

/-- The event that a step records. -/
def records (s : ReporterState) : ReporterAction → Option PodEvent
  | .run task _ =>
    match s.tasks[task]? with
    | some (.record event) => some event
    | _ => none
  | _ => none

/-- The request that ends with a step, and whether it succeeded. -/
def answers (s : ReporterState) : ReporterAction → Option (List PodEvent × Bool)
  | .run task rpc =>
    match s.tasks[task]? with
    | some (.sending events) => some (events, rpc.isOk)
    | _ => none
  | _ => none

def delivers (s : ReporterState) (action : ReporterAction) : Option (List PodEvent) :=
  (answers s action).bind fun (events, ok) => if ok then some events else none

def loses (s : ReporterState) (action : ReporterAction) : Option (List PodEvent) :=
  (answers s action).bind fun (events, ok) => if ok then none else some events

/-- Moving one task moves only its own request. -/
theorem count_inFlight_set {tasks : List ReporterTask} {task : Nat} {before : ReporterTask} (h : tasks[task]? = some before)
    (after : ReporterTask) (event : PodEvent) :
    ((tasks.set task after).flatMap ReporterTask.inFlight).count event + before.inFlight.count event =
      (tasks.flatMap ReporterTask.inFlight).count event + after.inFlight.count event := by
  obtain ⟨hlt, hget⟩ := List.getElem?_eq_some_iff.mp h
  obtain ⟨left, right, hsplit, -, hset⟩ : ∃ left right, tasks = left ++ tasks[task] :: right ∧ left.length = task ∧
      tasks.set task after = left ++ after :: right := List.exists_of_set hlt
  rw [hget] at hsplit
  rw [hset, hsplit]
  simp only [List.flatMap_append, List.flatMap_cons, List.count_append]
  omega

/-! ### Sections -/

theorem pushSection_count (reporter : PodEventReporter) (batch : List PodEvent) (recorded event : PodEvent) :
    (ReporterTask.pushSection reporter batch recorded).1.count event +
      (ReporterTask.pushSection reporter batch recorded).2.inFlight.count event = batch.count event +
        [recorded].count event := by
  have idle : (ReporterTask.pushSection reporter batch recorded).2.inFlight = [] := by
    unfold ReporterTask.pushSection
    dsimp only
    split <;> rfl
  rw [idle, ReporterTask.pushSection, List.count_append, List.count_nil, Nat.add_zero]

theorem takeSection_count (batch : List PodEvent) (event : PodEvent) :
    (ReporterTask.takeSection batch).1.count event + (ReporterTask.takeSection batch).2.inFlight.count event =
      batch.count event := by
  cases batch with
  | nil => rfl
  | cons first rest => exact Nat.zero_add _

theorem answered_inFlight (rpc : Except String Unit) : (ReporterTask.answered rpc).inFlight = [] := by
  cases rpc <;> rfl

/-- Only the section that takes the batch sends, and it does not send an empty one. -/
theorem next_sending {rpc : Except String Unit} {batch events : List PodEvent} {before : ReporterTask}
    (h : (before.next reporter rpc batch).2 = .sending events) : events ≠ [] := by
  cases before with
  | record recorded =>
    unfold ReporterTask.next ReporterTask.pushSection at h
    dsimp only at h
    split at h <;> cases h
  | flush =>
    cases batch with
    | nil => cases h
    | cons first rest =>
      cases h
      exact List.cons_ne_nil _ _
  | sending events' => cases rpc <;> cases h
  | done result => cases h

/-- A step moves events from place to place: what it records comes in, and what a request ends with goes out. -/
theorem counts_step (reporter : PodEventReporter) (s : ReporterState) (action : ReporterAction) (event : PodEvent) :
    (reporterStep reporter s action).batch.count event + (reporterStep reporter s action).inFlight.count event +
        (delivers s action).toList.flatten.count event + (loses s action).toList.flatten.count event =
      s.batch.count event + s.inFlight.count event + (records s action).toList.count event := by
  cases action with
  | recordEvent podId eventType reason message nowUnix =>
    simp [reporterStep, ReporterState.inFlight, delivers, loses, answers, records]
  | callFlush => simp [reporterStep, ReporterState.inFlight, delivers, loses, answers, records]
  | run task rpc =>
    unfold reporterStep delivers loses answers records ReporterState.inFlight
    dsimp only
    cases htask : s.tasks[task]? with
    | none => simp
    | some before =>
      have moved := count_inFlight_set htask (before.next reporter rpc s.batch).2 event
      cases before with
      | record recorded =>
        have pushed := pushSection_count reporter s.batch recorded event
        simp only [ReporterTask.next, ReporterTask.inFlight_record, List.count_nil] at moved
        simp only [ReporterTask.next, Option.bind_none, Option.toList_none, Option.toList_some, List.flatten_nil,
          List.count_nil]
        omega
      | flush =>
        have taken := takeSection_count s.batch event
        simp only [ReporterTask.next, ReporterTask.inFlight_flush, List.count_nil] at moved
        simp only [ReporterTask.next, Option.bind_none, Option.toList_none, List.flatten_nil, List.count_nil]
        omega
      | sending events =>
        simp only [ReporterTask.next, answered_inFlight, ReporterTask.inFlight_sending, List.count_nil] at moved
        cases rpc with
        | ok u =>
          simp [ReporterTask.next, Except.isOk, Except.toBool]
          omega
        | error e =>
          simp [ReporterTask.next, Except.isOk, Except.toBool]
          omega
      | done result => simpa [ReporterTask.next] using moved

/-- No request is empty. -/
def RequestsFilled (s : ReporterState) : Prop := ∀ events, .sending events ∈ s.tasks → events ≠ []

theorem RequestsFilled.step (h : RequestsFilled s) (action : ReporterAction) :
    RequestsFilled (reporterStep reporter s action) := by
  intro events hmem
  cases action with
  | recordEvent podId eventType reason message nowUnix =>
    rcases List.mem_append.mp hmem with hmem | hmem
    · exact h events hmem
    · cases List.mem_singleton.mp hmem
  | callFlush =>
    rcases List.mem_append.mp hmem with hmem | hmem
    · exact h events hmem
    · cases List.mem_singleton.mp hmem
  | run task rpc =>
    unfold reporterStep at hmem
    dsimp only at hmem
    cases htask : s.tasks[task]? with
    | none =>
      rw [htask] at hmem
      exact h events hmem
    | some before =>
      rw [htask] at hmem
      rcases List.mem_or_eq_of_mem_set hmem with hmem | heq
      · exact h events hmem
      · exact next_sending heq.symm

/-- The request of a task fails at this step. -/
def RequestFails (s : ReporterState) (action : ReporterAction) : Prop :=
  ∃ task events e, action = .run task (.error e) ∧ s.tasks[task]? = some (.sending events)

theorem loses_eq_some {events : List PodEvent} (h : loses s action = some events) :
    RequestFails s action ∧ .sending events ∈ s.tasks := by
  cases action with
  | recordEvent podId eventType reason message nowUnix => cases h
  | callFlush => cases h
  | run task rpc =>
    unfold loses answers at h
    dsimp only at h
    split at h
    · next events' htask =>
      cases rpc with
      | ok u => cases h
      | error e =>
        obtain rfl := Option.some.inj h
        exact ⟨⟨task, events', e, rfl, htask⟩, List.mem_of_getElem? htask⟩
    · cases h

theorem RequestFails.loses (h : RequestFails s action) : ∃ events, loses s action = some events := by
  obtain ⟨task, events, e, rfl, htask⟩ := h
  exact ⟨events, by rw [Observability.loses, answers, htask]; rfl⟩

end Places

/-! ### Runs -/

section Runs
variable (reporter : PodEventReporter) (actions : List ReporterAction)

/-- The state after a run from an empty reporter. -/
def afterActions : ReporterState := actions.foldl (reporterStep reporter) {}

def recorded : List PodEvent := emitted (reporterStep reporter) records {} actions

/-- The requests that succeeded. -/
def delivered : List (List PodEvent) := emitted (reporterStep reporter) delivers {} actions

/-- The requests that failed. -/
def lost : List (List PodEvent) := emitted (reporterStep reporter) loses {} actions

/-- The recorded events, each once: in the batch, in a request under way, or in a request that succeeded. -/
def Accounted : Prop :=
  (recorded reporter actions).Perm ((afterActions reporter actions).batch ++ (afterActions reporter actions).inFlight ++
    (delivered reporter actions).flatten)

theorem counts_run (event : PodEvent) : (recorded reporter actions).count event =
    (afterActions reporter actions).batch.count event + (afterActions reporter actions).inFlight.count event +
      (delivered reporter actions).flatten.count event + (lost reporter actions).flatten.count event := by
  induction actions using List.reverseRecOn with
  | nil => rfl
  | append_singleton actions action ih =>
    have moved := counts_step reporter (afterActions reporter actions) action event
    unfold recorded delivered lost afterActions at *
    rw [emitted_concat, emitted_concat, emitted_concat, List.foldl_concat]
    simp only [List.count_append, List.flatten_append]
    omega

theorem requestsFilled_run : RequestsFilled (afterActions reporter actions) := by
  induction actions using List.reverseRecOn with
  | nil => exact fun _ h => nomatch h
  | append_singleton actions action ih =>
    rw [afterActions, List.foldl_concat]
    exact ih.step action

theorem accounted_iff_lost : Accounted reporter actions ↔ (lost reporter actions).flatten = [] := by
  rw [Accounted, List.perm_iff_count]
  constructor
  · intro h
    refine List.eq_nil_iff_forall_not_mem.mpr fun event hmem => ?_
    have total := counts_run reporter actions event
    have placed := h event
    rw [List.count_append, List.count_append] at placed
    have some_lost := List.count_pos_iff.mpr hmem
    omega
  · intro h event
    rw [counts_run, h, List.count_append, List.count_append, List.count_nil, Nat.add_zero]

theorem lost_nil_iff : (lost reporter actions).flatten = [] ↔
    Along (reporterStep reporter) (fun s action => ¬RequestFails s action) {} actions := by
  induction actions using List.reverseRecOn with
  | nil => exact ⟨fun _ => along_nil, fun _ => rfl⟩
  | append_singleton actions action ih =>
    rw [lost, emitted_concat, List.flatten_append, List.append_eq_nil_iff, along_concat]
    refine and_congr ih ?_
    constructor
    · intro hnil hfails
      obtain ⟨events, hloses⟩ := hfails.loses
      rw [hloses, Option.toList_some, List.flatten_singleton] at hnil
      exact requestsFilled_run reporter actions events (loses_eq_some hloses).2 hnil
    · intro hok
      cases hloses : loses (actions.foldl (reporterStep reporter) {}) action with
      | none => rfl
      | some events => exact absurd (loses_eq_some hloses).1 hok

/-- At every moment of a run all recorded events are accounted for exactly if no request of the run fails. -/
theorem events_accounted_iff : (∀ pre post, actions = pre ++ post → Accounted reporter pre) ↔
    Along (reporterStep reporter) (fun s action => ¬RequestFails s action) {} actions := by
  constructor
  · intro h
    rw [← lost_nil_iff, ← accounted_iff_lost]
    exact h actions [] (List.append_nil _).symm
  · rintro h pre post rfl
    rw [accounted_iff_lost, lost_nil_iff]
    exact (along_append.mp h).1

end Runs

/-! ### A lost event -/

/-- The one event of a batch is flushed, and the request fails. -/
def failedFlush : List ReporterAction :=
  [.recordEvent "web-0" "Started" "" "" 0, .run 0 (.ok ()), .callFlush, .run 1 (.ok ()), .run 1 (.error "unavailable")]

/-- The event is nowhere: not in the batch, not under way and not delivered. -/
theorem failed_flush_loses_event : ¬Accounted ⟨"node-0", 100⟩ failedFlush := by
  intro h
  have gone : recorded ⟨"node-0", 100⟩ failedFlush = [] := List.Perm.eq_nil h
  cases gone

end FleetosAgent.Observability
