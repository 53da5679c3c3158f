import FleetosAgent.VsockAttest.Measure
import FleetosAgent.Workloads.Manager

/-! # What is measured and what boots

The manager measures the kernel of its configuration, the root file system and the guest init; the adapter submits a kernel
path of its own, and the root file system by the text of its path. -/

namespace FleetosAgent.Workloads
open Lib Traced VsockAttest

variable {api : SpiffeApi}

/-- A call of `boot_microvm_inner` for some spec: its other arguments, and the world and the environment it meets. -/
structure InnerBoot (api : SpiffeApi) where
  env : BootEnv api
  mounts : List PreparedMount
  vsockCid : UInt32
  interface : String
  guestIp : UInt32
  gatewayIp : UInt32
  world : World api

section
variable (cfg : ManagerConfig api) (spec : WorkloadSpec) (call : InnerBoot api)

def InnerBoot.run (env : BootEnv api) : Outcome (World api) AgentError UInt32 :=
  bootMicrovmInner cfg env spec call.mounts call.vsockCid call.interface call.guestIp call.gatewayIp call.world

/-- The same environment, with Cloud Hypervisor refusing to create `vm`. -/
def InnerBoot.refusing (vm : VmConfig) (refusal : String) : BootEnv api :=
  { call.env with createVm := Function.update call.env.createVm vm (some refusal) }

/-- The call asks Cloud Hypervisor to create `vm`: if that is refused, the call fails with it. -/
def Submits (vm : VmConfig) : Prop :=
  ∀ refusal, (call.run cfg spec (call.refusing vm refusal)).result = .error (.workload s!"CH vm.create: {refusal}")

/-- What is registered under the CID is the measurement of these paths, whatever the files hold. -/
def RegistersMeasurementOf (kernel rootfs guestInit : OsPath) : Prop :=
  ∀ files measurement, computeBootMeasurement files kernel rootfs guestInit = .ok measurement →
    (call.run cfg spec { call.env with measure := computeBootMeasurement files }).final.bootMeasurements.get call.vsockCid =
      some measurement

end

section
variable {cfg : ManagerConfig api} {spec : WorkloadSpec} {call : InnerBoot api}

/-! ### One call -/

def InnerBoot.rootfs (cfg : ManagerConfig api) (spec : WorkloadSpec) : OsPath := ociToErofs spec.image cfg.imageCachePath

/-- The configuration that is submitted, if the call comes to it. -/
def InnerBoot.vm (cfg : ManagerConfig api) (spec : WorkloadSpec) (call : InnerBoot api) (podSpec : PodSpec) : VmConfig :=
  MicroVmAdapter.vmConfig spec podSpec call.vsockCid (InnerBoot.rootfs cfg spec).toStringLossy call.interface call.gatewayIp

/-- How the adapter answers. -/
def InnerBoot.answer (cfg : ManagerConfig api) (spec : WorkloadSpec) (call : InnerBoot api) (env : BootEnv api) :
    Except AgentError UInt32 :=
  match validateMicrovmMounts call.mounts, spec.podSpec with
  | .error e, _ => .error e
  | .ok _, none => .error (.workload "microvm boot requires full PodSpec")
  | .ok _, some podSpec =>
    match env.createVm (call.vm cfg spec podSpec), env.bootVm with
    | some e, _ => .error (.workload s!"CH vm.create: {e}")
    | none, some e => .error (.workload s!"CH vm.boot: {e}")
    | none, none => .ok call.vsockCid

/-- `x` is the result, and `m` what is registered at the end. -/
def Ends (x : Except AgentError UInt32) (m : FinMap UInt32 BootMeasurement) (p : Manager api UInt32) (w : World api) :
    Prop :=
  wp (fun _ => True) p (fun handle t => x = .ok handle ∧ t.bootMeasurements = m)
    (fun e t => x = .error e ∧ t.bootMeasurements = m) w

theorem Ends.eq {x : Except AgentError UInt32} {m : FinMap UInt32 BootMeasurement} {p : Manager api UInt32} {w : World api}
    (h : Ends x m p w) : (p w).result = x ∧ (p w).final.bootMeasurements = m := by
  have post := h.2
  cases hr : (p w).result <;> rw [hr] at post <;> exact ⟨post.1.symm, post.2⟩

theorem ends_boot (env : BootEnv api) (w : World api) :
    Ends (call.answer cfg spec env) w.bootMeasurements (MicroVmAdapter.boot env spec call.vsockCid call.mounts
      (InnerBoot.rootfs cfg spec).toStringLossy call.interface call.guestIp call.gatewayIp) w := by
  rw [Ends, MicroVmAdapter.boot, wp_bind]
  refine wp_ofExcept (fun u hmounts => ?_) fun e hmounts => ⟨by rw [InnerBoot.answer, hmounts], rfl⟩
  cases hspec : spec.podSpec with
  | none => exact wp_bind.mpr (wp_fail.mpr ⟨by rw [InnerBoot.answer, hmounts, hspec], rfl⟩)
  | some podSpec =>
    refine wp_bind.mpr (wp_pure.mpr ?_)
    have answer : call.answer cfg spec env = match env.createVm (call.vm cfg spec podSpec), env.bootVm with
        | some e, _ => .error (.workload s!"CH vm.create: {e}")
        | none, some e => .error (.workload s!"CH vm.boot: {e}")
        | none, none => .ok call.vsockCid := by
      rw [InnerBoot.answer, hmounts, hspec]
    rw [answer, ← InnerBoot.vm]
    cases env.createVm (call.vm cfg spec podSpec) with
    | some e => exact wp_fail.mpr ⟨rfl, rfl⟩
    | none =>
      cases env.bootVm with
      | some e => exact wp_fail.mpr ⟨rfl, rfl⟩
      | none => exact wp_bind.mpr (wp_modify.mpr ⟨trivial, wp_pure.mpr ⟨rfl, rfl⟩⟩)

section Run
variable (env : BootEnv api)

theorem run_of_unmeasured {e : AgentError}
    (h : env.measure cfg.kernelPath (InnerBoot.rootfs cfg spec) cfg.guestInitPath = .error e) :
    (call.run cfg spec env).result = .error e ∧
      (call.run cfg spec env).final.bootMeasurements = call.world.bootMeasurements := by
  refine Ends.eq (x := .error e) ?_
  rw [Ends, bootMicrovmInner, wp_bind]
  refine wp_ofExcept (fun measurement hm => ?_) fun e' he =>
    ⟨congrArg Except.error (Except.error.inj (h.symm.trans he)), rfl⟩
  rw [← InnerBoot.rootfs, h] at hm
  cases hm

/-- What was measured is registered, and the adapter decides. -/
theorem run_of_measured {measurement : BootMeasurement}
    (h : env.measure cfg.kernelPath (InnerBoot.rootfs cfg spec) cfg.guestInitPath = .ok measurement) :
    (call.run cfg spec env).result = call.answer cfg spec env ∧
      (call.run cfg spec env).final.bootMeasurements =
        if cfg.attestation then call.world.bootMeasurements.insert call.vsockCid measurement
        else call.world.bootMeasurements := by
  refine Ends.eq ?_
  rw [Ends, bootMicrovmInner, wp_bind]
  refine wp_ofExcept (fun measurement' hm => ?_) fun e he => ?_
  · obtain rfl := Except.ok.inj (h.symm.trans hm)
    -- The adapter runs from a state with the registered measurements.
    have rest : ∀ t : World api, wp (fun _ => True) (do
        let handle ← MicroVmAdapter.boot env spec call.vsockCid call.mounts (InnerBoot.rootfs cfg spec).toStringLossy
          call.interface call.guestIp call.gatewayIp
        modify fun w => { w with
          microvms := w.microvms.insert call.vsockCid ⟨s!"/run/fleetos/vm/{call.vsockCid}/api.sock"⟩ }
        return handle)
        (fun handle t' => call.answer cfg spec env = .ok handle ∧ t'.bootMeasurements = t.bootMeasurements)
        (fun e t' => call.answer cfg spec env = .error e ∧ t'.bootMeasurements = t.bootMeasurements) t := by
      intro t
      refine wp_bind.mpr (wp.mono (ends_boot env t) (fun _ _ => trivial) (fun handle t' ht => ?_) fun e t' ht => ht)
      exact wp_bind.mpr (wp_modify.mpr ⟨trivial, wp_pure.mpr ht⟩)
    refine wp_bind.mpr (wp_when (fun attested => ?_) fun unattested => ?_)
    · rw [attested]
      exact wp_bind.mpr (wp_modify.mpr ⟨trivial, wp_modify.mpr ⟨trivial, rest _⟩⟩)
    · rw [unattested]
      exact rest _
  · rw [← InnerBoot.rootfs, h] at he
    cases he

end Run

/-! ### What the call submits -/

theorem submits_vm {podSpec : PodSpec} {u : Unit} {measurement : BootMeasurement} (hspec : spec.podSpec = some podSpec)
    (hmounts : validateMicrovmMounts call.mounts = .ok u)
    (hmeasure : call.env.measure cfg.kernelPath (InnerBoot.rootfs cfg spec) cfg.guestInitPath = .ok measurement) :
    Submits cfg spec call (call.vm cfg spec podSpec) := by
  intro refusal
  have refused : (call.refusing (call.vm cfg spec podSpec) refusal).createVm (call.vm cfg spec podSpec) = some refusal :=
    Function.update_self ..
  rw [(run_of_measured (call.refusing _ refusal) hmeasure).1, InnerBoot.answer, hmounts, hspec]
  dsimp only
  rw [refused]

/-- Cloud Hypervisor is asked about one configuration. -/
theorem answer_congr {env env' : BootEnv api} (hboot : env.bootVm = env'.bootVm)
    (hcreate : ∀ podSpec, spec.podSpec = some podSpec →
      env.createVm (call.vm cfg spec podSpec) = env'.createVm (call.vm cfg spec podSpec)) :
    call.answer cfg spec env = call.answer cfg spec env' := by
  unfold InnerBoot.answer
  cases validateMicrovmMounts call.mounts with
  | error e => rfl
  | ok u =>
    cases hspec : spec.podSpec with
    | none => rfl
    | some podSpec =>
      dsimp only
      rw [hcreate podSpec hspec, hboot]

theorem eq_vm_of_submits {vm : VmConfig} (h : Submits cfg spec call vm) :
    ∃ podSpec, spec.podSpec = some podSpec ∧ vm = call.vm cfg spec podSpec := by
  by_contra hvm
  -- Otherwise it makes no difference how `vm` is refused.
  have same : ∀ r r', (call.run cfg spec (call.refusing vm r)).result =
      (call.run cfg spec (call.refusing vm r')).result := by
    intro r r'
    cases hm : call.env.measure cfg.kernelPath (InnerBoot.rootfs cfg spec) cfg.guestInitPath with
    | error e => rw [(run_of_unmeasured (call.refusing vm r) hm).1, (run_of_unmeasured (call.refusing vm r') hm).1]
    | ok measurement =>
      rw [(run_of_measured (call.refusing vm r) hm).1, (run_of_measured (call.refusing vm r') hm).1]
      refine answer_congr rfl fun podSpec hspec => ?_
      have other : call.vm cfg spec podSpec ≠ vm := fun heq => hvm ⟨podSpec, hspec, heq.symm⟩
      exact (Function.update_of_ne other ..).trans (Function.update_of_ne other ..).symm
  have clash := (h "a").symm.trans ((same "a" "b").trans (h "b"))
  exact absurd clash (by decide)

/-! ### What is registered -/

/-- Files whose contents and hashes tell paths apart as `content` does. -/
def filled (content : OsPath → UInt8) : MeasureApi where
  readFile path := .ok [content path]
  blake3 bytes := .replicate 32 (bytes.headD 0)

theorem compute_filled (content : OsPath → UInt8) (kernel rootfs guestInit : OsPath) :
    ∃ combined, computeBootMeasurement (filled content) kernel rootfs guestInit =
      .ok ⟨.replicate 32 (content kernel), .replicate 32 (content rootfs), .replicate 32 (content guestInit), combined⟩ :=
  ⟨_, rfl⟩

theorem replicate_inj {x y : UInt8} (h : Vector.replicate 32 x = .replicate 32 y) : x = y := by
  have first := congrArg (·[0]) h
  simpa using first

theorem registersMeasurementOf_self (attested : cfg.attestation = true) :
    RegistersMeasurementOf cfg spec call cfg.kernelPath (InnerBoot.rootfs cfg spec) cfg.guestInitPath := by
  intro files measurement hm
  rw [(run_of_measured { call.env with measure := computeBootMeasurement files } hm).2, attested, if_pos rfl]
  exact FinMap.get_insert_self ..

/-- Two paths at which every file system holds the same are one path. -/
theorem eq_of_content {p q : OsPath} (h : ∀ content : OsPath → UInt8, content p = content q) : p = q := by
  classical
  by_contra hne
  have marked := h fun path => if path = q then 1 else 0
  rw [if_neg hne, if_pos rfl] at marked
  exact absurd marked (by decide)

/-- What a call registers on a file system with these contents, and what it should. -/
theorem registered_filled {kernel rootfs guestInit : OsPath}
    (h : RegistersMeasurementOf cfg spec call kernel rootfs guestInit) (content : OsPath → UInt8) : ∃ combined,
    (if cfg.attestation then call.world.bootMeasurements.insert call.vsockCid ⟨.replicate 32 (content cfg.kernelPath),
        .replicate 32 (content (InnerBoot.rootfs cfg spec)), .replicate 32 (content cfg.guestInitPath), combined⟩
      else call.world.bootMeasurements).get call.vsockCid =
    some ⟨.replicate 32 (content kernel), .replicate 32 (content rootfs), .replicate 32 (content guestInit),
      .replicate 32 (content kernel)⟩ := by
  obtain ⟨combined, measured⟩ := compute_filled content cfg.kernelPath (InnerBoot.rootfs cfg spec) cfg.guestInitPath
  refine ⟨combined, ?_⟩
  rw [← (run_of_measured { call.env with measure := computeBootMeasurement (filled content) } measured).2]
  exact h (filled content) _ rfl

/-- Without attestation nothing is registered, and with it the measurement of no other kernel and root file system. -/
theorem eq_of_registersMeasurementOf {kernel rootfs guestInit : OsPath}
    (h : RegistersMeasurementOf cfg spec call kernel rootfs guestInit) :
    cfg.attestation = true ∧ cfg.kernelPath = kernel ∧ InnerBoot.rootfs cfg spec = rootfs := by
  have registered := registered_filled h
  cases attested : cfg.attestation with
  | false =>
    rw [attested] at registered
    obtain ⟨_, zero⟩ := registered fun _ => 0
    obtain ⟨_, one⟩ := registered fun _ => 1
    rw [if_neg Bool.false_ne_true] at zero one
    have clash := Option.some.inj (zero.symm.trans one)
    exact absurd (replicate_inj (BootMeasurement.mk.inj clash).1) (by decide)
  | true =>
    rw [attested] at registered
    have told : ∀ content : OsPath → UInt8, content cfg.kernelPath = content kernel ∧
        content (InnerBoot.rootfs cfg spec) = content rootfs := by
      intro content
      obtain ⟨combined, get⟩ := registered content
      rw [if_pos rfl, FinMap.get_insert_self] at get
      obtain ⟨hkernel, hrootfs, -⟩ := BootMeasurement.mk.inj (Option.some.inj get)
      exact ⟨replicate_inj hkernel, replicate_inj hrootfs⟩
    exact ⟨rfl, eq_of_content fun content => (told content).1, eq_of_content fun content => (told content).2⟩

theorem isUtf8_ociToErofs (image : String) (cacheDir : OsPath) : (ociToErofs image cacheDir).IsUtf8 ↔ cacheDir.IsUtf8 := by
  refine OsPath.isUtf8_join ?_
  rw [LexicalPath.startsWith_slash, String.toList_append, String.toList_map]
  -- The separators of the image name are gone.
  cases image.toList with
  | nil => rfl
  | cons c cs =>
    simp only [List.map_cons, List.cons_append, List.head?_cons]
    split
    · rfl
    · next plain => simpa using fun heq => plain (Or.inl heq)

end

/-- Everything in the VM configuration that a call submits was measured for the registered hash. -/
def MeasuredIsBooted (cfg : ManagerConfig api) (spec : WorkloadSpec) : Prop :=
  ∀ call vm kernel rootfs guestInit, Submits cfg spec call vm →
    RegistersMeasurementOf cfg spec call kernel rootfs guestInit →
    OsPath.ofString vm.kernel = kernel ∧ OsPath.ofString vm.diskPath = rootfs

/-- A boot without volumes on a node whose files are all the same. -/
def plainBoot : InnerBoot api where
  env := { measure := computeBootMeasurement (filled fun _ => 0) }
  mounts := []
  vsockCid := 3
  interface := tapInterface 3
  guestIp := 0
  gatewayIp := 0
  world := { ips := samplePool }

theorem submits_plainBoot {cfg : ManagerConfig api} {spec : WorkloadSpec} {podSpec : PodSpec}
    (hspec : spec.podSpec = some podSpec) : Submits cfg spec plainBoot (plainBoot.vm cfg spec podSpec) := by
  obtain ⟨combined, measured⟩ := compute_filled (fun _ => 0) cfg.kernelPath (InnerBoot.rootfs cfg spec) cfg.guestInitPath
  exact submits_vm hspec rfl measured

/-- The kernel and the root disk that are submitted are the measured ones exactly if the manager measures the kernel that
    the adapter boots and the path of its image cache is UTF-8; or else nothing is submitted or registered. -/
theorem measured_is_booted_iff (cfg : ManagerConfig api) (spec : WorkloadSpec) :
    MeasuredIsBooted cfg spec ↔ (spec.podSpec.isSome = true → cfg.attestation = true →
      cfg.kernelPath = .ofString "/var/lib/fleetos/vmlinux" ∧ cfg.imageCachePath.IsUtf8) := by
  constructor
  · intro h isSome attested
    obtain ⟨podSpec, hspec⟩ := Option.isSome_iff_exists.mp isSome
    obtain ⟨kernel, disk⟩ := h plainBoot _ _ _ _ (submits_plainBoot hspec) (registersMeasurementOf_self attested)
    exact ⟨kernel.symm, (isUtf8_ociToErofs ..).mp (OsPath.ofString_toStringLossy_iff.mp disk)⟩
  · intro h call vm kernel rootfs guestInit submits registers
    obtain ⟨podSpec, hspec, rfl⟩ := eq_vm_of_submits submits
    obtain ⟨attested, rfl, rfl⟩ := eq_of_registersMeasurementOf registers
    obtain ⟨kernel, utf8⟩ := h (by rw [hspec]; rfl) attested
    exact ⟨kernel.symm, OsPath.ofString_toStringLossy_iff.mpr ((isUtf8_ociToErofs ..).mpr utf8)⟩

/-- A manager that measures a kernel of its own boots another one. -/
theorem unmeasured_kernel_boots :
    let cfg : ManagerConfig textApi := { trustDomain := "fleet", kernelPath := .ofString "/opt/fleetos/vmlinux" }
    let spec : WorkloadSpec := { workloadId := "web", runtime := .cloudHypervisor, podSpec := some {} }
    ∃ vm, Submits cfg spec plainBoot vm ∧
      RegistersMeasurementOf cfg spec plainBoot (.ofString "/opt/fleetos/vmlinux") (ociToErofs "" cfg.imageCachePath)
        (.ofString "/var/lib/fleetos/fleetos-guest-init") ∧
      vm.kernel = "/var/lib/fleetos/vmlinux" ∧ OsPath.ofString vm.kernel ≠ .ofString "/opt/fleetos/vmlinux" := by
  intro cfg spec
  refine ⟨_, submits_plainBoot rfl, registersMeasurementOf_self rfl, rfl, fun heq => ?_⟩
  exact absurd (OsPath.ofString_injective heq) (by decide)

end FleetosAgent.Workloads
