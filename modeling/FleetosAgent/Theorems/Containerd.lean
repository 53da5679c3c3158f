import FleetosAgent.Theorems.ManagerSteps
import FleetosAgent.Workloads.Containerd

/-! # What the containerd adapter leaves

What is assumed of the daemon: ids of containers are unique, and a container is there until it is deleted. A boot that
succeeds has created the container of its pod; one that fails may have done so too, and a stop that succeeds may have left
it, since it looks at none of its answers. -/

namespace FleetosAgent.Workloads
open Lib Traced

/-- What is assumed of the daemon, whether or not a call succeeds for the agent. -/
structure ContainerdLaws (containerd : Containerd) where
  /-- There is a container of that id. -/
  has : containerd.State → String → Prop
  kept : ∀ {d id} (c : ContainerdCall), has d id → c ≠ .deleteContainer id → has (containerd.call d c).2 id
  create_new : ∀ {d id container answer}, (containerd.call d (.createContainer id container)).1 = .ok answer → ¬ has d id
  create_adds : ∀ {d id container answer}, (containerd.call d (.createContainer id container)).1 = .ok answer →
    has (containerd.call d (.createContainer id container)).2 id

namespace ContainerdAdapter
variable {containerd : Containerd} (laws : ContainerdLaws containerd) {env : ContainerdEnv}
  {a : ContainerdAdapter containerd} {E : AgentError → ContainerdAdapter containerd → Prop} {context : String}
  {id : String}

/-! ### One call -/

section Call
variable {c : ContainerdCall} {Q : c.Answer → ContainerdAdapter containerd → Prop}

theorem wp_rpc (hok : ∀ answer, (containerd.call a.daemon c).1 = .ok answer →
      Q answer { a with daemon := (containerd.call a.daemon c).2 })
    (herr : ∀ e, E e { a with daemon := (containerd.call a.daemon c).2 }) : wp (fun _ => True) (rpc context c) Q E a := by
  refine wp_invoke trivial (fun answer h => hok answer ?_) fun e _ => herr e
  cases hr : (containerd.call a.daemon c).1 with
  | ok given =>
    rw [hr] at h
    exact congrArg _ (Except.ok.inj h)
  | error e =>
    rw [hr] at h
    cases h

theorem rpc_keeps (h : c ≠ .deleteContainer id) :
    Preserves (fun a : ContainerdAdapter containerd => laws.has a.daemon id) (rpc context c) :=
  .invoke fun _ ha => laws.kept c ha h

end Call

/-! ### The functions -/

section Functions
variable {Q : Unit → ContainerdAdapter containerd → Prop} {workloadId : String}

theorem wp_channel (hQ : ∀ c, Q () { a with connected := c }) (hE : ∀ e, E e a) :
    wp (fun _ => True) (channel env) Q E a := by
  rw [channel, wp_bind, wp_get]
  split
  · exact wp_pure.mpr (hQ a.connected)
  · split
    · exact wp_fail.mpr (hE _)
    · exact wp_modify.mpr ⟨trivial, hQ true⟩

theorem wp_writeHosts (hQ : ∀ files, Q () { a with hostsFiles := files }) (hE : ∀ e, E e a) :
    wp (fun _ => True) (writeHosts env workloadId) Q E a := by
  unfold writeHosts
  split
  · exact wp_fail.mpr (hE _)
  · exact wp_fail.mpr (hE _)
  · exact wp_modify.mpr ⟨trivial, hQ _⟩

theorem channel_keeps : Preserves (fun a : ContainerdAdapter containerd => laws.has a.daemon id) (channel env) := by
  refine .bind .get fun a => ?_
  split
  · exact .pure
  · split
    · exact .fail
    · exact .modify fun _ ha => ha

theorem writeHosts_keeps :
    Preserves (fun a : ContainerdAdapter containerd => laws.has a.daemon id) (writeHosts env workloadId) := by
  unfold writeHosts
  split
  · exact .fail
  · exact .fail
  · exact .modify fun _ ha => ha

variable {spec : WorkloadSpec} {podSpec : PodSpec} {mounts : List PreparedMount} {netnsPath : OsPath}

theorem wp_boot (hspec : spec.podSpec = some podSpec) : wp (fun _ => True) (boot env spec mounts netnsPath)
    (fun _ t => ¬ laws.has a.daemon spec.effectiveId ∧ laws.has t.daemon spec.effectiveId) (fun _ _ => True) a := by
  rw [boot, hspec]
  dsimp only
  rw [effectiveId_eq hspec]
  refine wp_bind.mpr (wp_writeHosts (fun files => wp_bind.mpr (wp_channel (fun c => ?_) fun _ => trivial)) fun _ => trivial)
  refine wp_bind.mpr (wp_rpc (fun _ hcreate => ?_) fun _ => trivial)
  have created := laws.create_adds hcreate
  refine wp_bind.mpr (wp_rpc (fun pid _ => ?_) fun _ => trivial)
  refine wp_bind.mpr (wp_rpc (fun _ _ => wp_pure.mpr ⟨laws.create_new hcreate, ?_⟩) fun _ => trivial)
  exact laws.kept _ (laws.kept _ created (by rintro ⟨⟩)) (by rintro ⟨⟩)

/-- A boot takes no container away. -/
theorem boot_keeps :
    Preserves (fun a : ContainerdAdapter containerd => laws.has a.daemon id) (boot env spec mounts netnsPath) := by
  unfold boot
  split
  · exact .fail
  · refine .bind (writeHosts_keeps laws) fun _ => .bind (channel_keeps laws) fun _ => ?_
    refine .bind (rpc_keeps laws (by rintro ⟨⟩)) fun _ => .bind (rpc_keeps laws (by rintro ⟨⟩)) fun pid => ?_
    exact .bind (rpc_keeps laws (by rintro ⟨⟩)) fun _ => .pure

/-- A stop takes at most the one container away. -/
theorem stop_keeps {podId : String} (hne : id ≠ podId) :
    Preserves (fun a : ContainerdAdapter containerd => laws.has a.daemon id) (stop env podId) := by
  refine .bind (channel_keeps laws) fun _ => .bind (rpc_keeps laws (by rintro ⟨⟩)).attempt fun _ => ?_
  refine .bind (rpc_keeps laws (by rintro ⟨⟩)).attempt fun _ => .bind (rpc_keeps laws (by rintro ⟨⟩)).attempt fun _ => ?_
  refine .bind (rpc_keeps laws fun h => hne ?_).attempt fun _ => .pure
  exact (ContainerdCall.deleteContainer.inj h).symm

end Functions

end ContainerdAdapter

/-! ### A daemon with these laws -/

/-- The ids of the containers, and the tasks that do not start. -/
structure IdTable where
  ids : List String := []
  unstartable : List String := []

namespace IdTable

def daemon : Containerd where
  State := IdTable
  call s
    | .createContainer id _ => if id ∈ s.ids then (.error "already exists", s) else (.ok (), { s with ids := id :: s.ids })
    | .createTask _ => (.ok (4711 : UInt32), s)
    | .startTask id => if id ∈ s.unstartable then (.error "deadline exceeded", s) else (.ok (), s)
    | .kill _ _ => (.ok (), s)
    | .deleteTask _ => (.ok (), s)
    | .deleteContainer id => (.ok (), { s with ids := s.ids.filter (· ≠ id) })

theorem createContainer_ok {s : IdTable} {id : String} {container : Container} {answer : Unit}
    (h : (daemon.call s (.createContainer id container)).1 = .ok answer) :
    id ∉ s.ids ∧ id ∈ (daemon.call s (.createContainer id container)).2.ids := by
  dsimp only [daemon] at h ⊢
  split at h
  · cases h
  · next hnew => exact ⟨hnew, by rw [if_neg hnew]; exact List.mem_cons_self⟩

theorem call_keeps {s : IdTable} {id : String} (c : ContainerdCall) (h : id ∈ s.ids) (hc : c ≠ .deleteContainer id) :
    id ∈ (daemon.call s c).2.ids := by
  cases c with
  | createContainer other _ =>
    dsimp only [daemon]
    split
    · exact h
    · exact List.mem_cons_of_mem _ h
  | startTask other =>
    dsimp only [daemon]
    split <;> exact h
  | deleteContainer other =>
    refine List.mem_filter.mpr ⟨h, decide_eq_true fun hid => hc ?_⟩
    rw [hid]
  | createTask _ => exact h
  | kill _ _ => exact h
  | deleteTask _ => exact h

def laws : ContainerdLaws daemon where
  has s id := id ∈ IdTable.ids s
  kept := call_keeps
  create_new h := (createContainer_ok h).1
  create_adds h := (createContainer_ok h).2

end IdTable

end FleetosAgent.Workloads
