import FleetosAgent.Lib.Paths
import FleetosAgent.Workloads.Volumes

/-! # Where EmptyDir volumes lie

Volume names and pod ids are joined onto the scratch root as they come. Where that leads is told by the three texts alone:
an absolute pod id or name leaves the root behind, a relative name may climb out of the pod's directory. A path that is
prepared lies below `{scratch_root}/{pod_id}` exactly if its name stays there, and a teardown spares it exactly if it does
not lead into the directory that goes. -/

namespace FleetosAgent.Workloads

open Lib LexicalPath

/-! ### Joining -/

/-- A join leads, from where the root leads, where the path leads by itself. -/
theorem resolve_joinPath (root path : String) : resolve (joinPath root path) = (resolve root).join (resolve path) := by
  rw [joinPath, joinOnto, join, resolve_absolute]
  cases habsolute : path.startsWith "/" with
  | true => rfl
  | false =>
    rw [if_neg Bool.false_ne_true, if_neg Bool.false_ne_true]
    by_cases hempty : root = ""
    · subst hempty
      rw [if_pos (by rfl), String.empty_append]
      refine resolve_of_components ?_ habsolute (by rfl)
      rw [habsolute]
      rfl
    · cases hends : root.endsWith "/" with
      | true =>
        rw [if_pos (by simp)]
        exact resolve_append_of_endsWith hends habsolute
      | false =>
        rw [if_neg (by simpa using hempty), ← String.append_assoc]
        exact resolve_append_slash hempty habsolute

/-- `{scratch_root}/{pod_id}`: where the components of the pod id lead from the root, also those of an absolute one. -/
def scratchDir (scratchRoot podId : String) : LexicalPath := (components podId.toList).foldl push (resolve scratchRoot)

/-- The directory that the code makes of a root and a pod id. -/
def podDir (config : VolumeConfig) (podId : String) : String := joinPath config.scratchRoot podId

/-- Where it leads. -/
def podPlace (scratchRoot podId : String) : LexicalPath := (resolve scratchRoot).join (resolve podId)

/-- Where the volume of that name is made. -/
def volumePlace (scratchRoot podId name : String) : LexicalPath := (podPlace scratchRoot podId).join (resolve name)

theorem resolve_podDir (config : VolumeConfig) (podId : String) :
    resolve (podDir config podId) = podPlace config.scratchRoot podId := resolve_joinPath ..

theorem resolve_volume (config : VolumeConfig) (podId name : String) :
    resolve (joinPath (podDir config podId) name) = volumePlace config.scratchRoot podId name := by
  rw [resolve_joinPath, resolve_podDir, volumePlace]

/-- A relative pod id is joined as it is meant to be. -/
theorem podPlace_of_relative {podId : String} (h : (resolve podId).absolute = false) (scratchRoot : String) :
    podPlace scratchRoot podId = scratchDir scratchRoot podId := by
  rw [podPlace, join, h, if_neg Bool.false_ne_true, resolve_eq podId, ← resolve_absolute, h, scratchDir]
  rw [← foldl_push_append _ rfl, append_start]

/-! ### Preparation -/

/-- Every mount is of a volume that is there and is an EmptyDir: what it takes for the mounts to be prepared while
    HostPath is denied. -/
def EmptyDirs (volumes : List Volume) (mounts : List VolumeMount) : Prop :=
  ∀ mount ∈ mounts, ∃ volume size, (volumes.find? fun v => v.name = mount.name) = some volume ∧
    volume.source = some (.emptyDir size)

section Prepare
variable {fs : FileSystem} {config : VolumeConfig} {podId : String} {volumes : List Volume}

theorem prepareMount_ok {mount : VolumeMount} {prepared : PreparedMount} (hdeny : config.allowHostPath = false)
    (h : prepareMount fs config podId volumes mount = .ok prepared) :
    prepared.hostPath = joinPath (podDir config podId) mount.name ∧
      ∃ volume size, (volumes.find? fun v => v.name = mount.name) = some volume ∧
        volume.source = some (.emptyDir size) := by
  unfold prepareMount at h
  cases hfind : volumes.find? fun v => v.name = mount.name with
  | none => rw [hfind] at h; exact (nomatch h)
  | some volume =>
    have hname : volume.name = mount.name := by simpa using List.find?_some hfind
    rw [hfind] at h
    dsimp only at h
    cases hsource : volume.source with
    | none => rw [hsource] at h; exact (nomatch h)
    | some source =>
      rw [hsource] at h
      cases source with
      | hostPath path type => simp [hdeny] at h
      | emptyDir size =>
        dsimp only at h
        rw [hname] at h
        cases hcreate : fs.createDirAll (joinPath (joinPath config.scratchRoot podId) mount.name) with
        | some e => rw [hcreate] at h; exact (nomatch h)
        | none =>
          rw [hcreate] at h
          cases h
          exact ⟨rfl, volume, size, rfl, hsource⟩

theorem prepareMount_of_emptyDir (config : VolumeConfig) (podId : String) {mount : VolumeMount} {volume : Volume}
    {size : Option UInt64} (hfind : (volumes.find? fun v => v.name = mount.name) = some volume)
    (hsource : volume.source = some (.emptyDir size)) :
    ∃ prepared, prepareMount {} config podId volumes mount = .ok prepared := by
  unfold prepareMount
  rw [hfind]
  dsimp only
  rw [hsource]
  exact ⟨_, rfl⟩

/-- Whatever is prepared was asked for by a mount. -/
theorem prepareMounts_origin {mounts : List VolumeMount} {prepared : List PreparedMount}
    (h : prepareMounts fs config podId volumes mounts = .ok prepared) :
    List.Forall₂ (fun mount p => prepareMount fs config podId volumes mount = .ok p) mounts prepared := by
  induction mounts generalizing prepared with
  | nil =>
    cases h
    exact .nil
  | cons mount mounts ih =>
    rw [prepareMounts, List.mapM_cons] at h
    cases hfirst : prepareMount fs config podId volumes mount with
    | error e => rw [hfirst] at h; exact (nomatch h)
    | ok p =>
      cases hrest : prepareMounts fs config podId volumes mounts with
      | error e => rw [hfirst, ← prepareMounts, hrest] at h; exact (nomatch h)
      | ok rest =>
        rw [hfirst, ← prepareMounts, hrest] at h
        cases h
        exact .cons hfirst (ih hrest)

theorem prepareMounts_of_emptyDirs (config : VolumeConfig) (podId : String) {mounts : List VolumeMount}
    (h : EmptyDirs volumes mounts) :
    ∃ prepared, prepareMounts {} config podId volumes mounts = .ok prepared := by
  induction mounts with
  | nil => exact ⟨[], rfl⟩
  | cons mount mounts ih =>
    obtain ⟨volume, size, hfind, hsource⟩ := h mount (List.mem_cons_self ..)
    obtain ⟨p, hp⟩ := prepareMount_of_emptyDir config podId hfind hsource
    obtain ⟨rest, hrest⟩ := ih fun m hm => h m (List.mem_cons_of_mem _ hm)
    refine ⟨p :: rest, ?_⟩
    rw [prepareMounts, List.mapM_cons, hp, ← prepareMounts, hrest]
    rfl

end Prepare

section Prepared
variable {fs : FileSystem} {config : VolumeConfig} {podId : String} {volumes : List Volume} {mounts : List VolumeMount}
  {prepared : List PreparedMount}

/-- While HostPath is denied, what is prepared for a pod is one path for each mount: its name joined onto the pod's
    directory. -/
theorem prepared_hostPath (hdeny : config.allowHostPath = false)
    (h : prepareMounts fs config podId volumes mounts = .ok prepared) :
    prepared.map PreparedMount.hostPath = mounts.map fun mount => joinPath (podDir config podId) mount.name := by
  have horigin := prepareMounts_origin h
  clear h
  induction horigin with
  | nil => rfl
  | cons hfirst _ ih => rw [List.map_cons, List.map_cons, ih, (prepareMount_ok hdeny hfirst).1]

theorem prepared_origin (hdeny : config.allowHostPath = false)
    (h : prepareMounts fs config podId volumes mounts = .ok prepared) {m : PreparedMount} (hm : m ∈ prepared) :
    ∃ mount ∈ mounts, m.hostPath = joinPath (podDir config podId) mount.name := by
  have hpath : m.hostPath ∈ mounts.map fun mount => joinPath (podDir config podId) mount.name := by
    rw [← prepared_hostPath hdeny h]
    exact List.mem_map_of_mem hm
  obtain ⟨mount, hmount, heq⟩ := List.mem_map.mp hpath
  exact ⟨mount, hmount, heq.symm⟩

theorem emptyDirs_of_prepared (hdeny : config.allowHostPath = false)
    (h : prepareMounts fs config podId volumes mounts = .ok prepared) : EmptyDirs volumes mounts := by
  have horigin := prepareMounts_origin h
  clear h
  induction horigin with
  | nil => exact fun _ hmount => (nomatch hmount)
  | cons hfirst _ ih =>
    rintro mount (_ | ⟨_, hmount⟩)
    · exact (prepareMount_ok hdeny hfirst).2
    · exact ih mount hmount

end Prepared

/-! ### Below the pod's directory -/

/-- Whatever the file system: what these mounts prepare lies strictly below `{scratch_root}/{pod_id}`. -/
def PreparedBelow (config : VolumeConfig) (podId : String) (volumes : List Volume) (mounts : List VolumeMount) : Prop :=
  ∀ (fs : FileSystem) (prepared : List PreparedMount), prepareMounts fs config podId volumes mounts = .ok prepared →
    ∀ m ∈ prepared, (resolve m.hostPath).StrictlyBelow (scratchDir config.scratchRoot podId)

/-- An absolute name leads below the pod's directory by itself; with an absolute pod id, the two lead there without the
    root; and a relative name descends, or climbs and comes back. -/
def Stays (scratchRoot podId name : String) : Prop :=
  if (resolve name).absolute then (resolve name).StrictlyBelow (scratchDir scratchRoot podId)
  else if (resolve podId).absolute then ((resolve podId).append (resolve name)).StrictlyBelow (scratchDir scratchRoot podId)
  else (scratchDir scratchRoot podId).Returns (resolve name)

theorem volumePlace_below_iff (scratchRoot podId name : String) :
    (volumePlace scratchRoot podId name).StrictlyBelow (scratchDir scratchRoot podId) ↔ Stays scratchRoot podId name := by
  rw [volumePlace, Stays, join]
  cases (resolve name).absolute with
  | true => rfl
  | false =>
    rw [if_neg Bool.false_ne_true, if_neg Bool.false_ne_true]
    cases hpod : (resolve podId).absolute with
    | true => rw [podPlace, join, hpod, if_pos rfl, if_pos rfl]
    | false => rw [podPlace_of_relative hpod, if_neg Bool.false_ne_true, append_strictlyBelow_iff]

-- A name may climb out of the pod's directory as long as it comes back; a pod id must not leave the root.
example : Stays "/var/lib/fleetos/scratch" "web" "../web/cache" ∧ ¬ Stays "/var/lib/fleetos/scratch" "/etc" "cache" := by
  unfold Stays
  decide

/-- The condition on the places of the mounts is one on what is prepared, if the mounts can be prepared at all. -/
theorem forall_prepared_iff {config : VolumeConfig} (hdeny : config.allowHostPath = false) (podId : String)
    (volumes : List Volume) (mounts : List VolumeMount) (good : LexicalPath → Prop) :
    (∀ (fs : FileSystem) (prepared : List PreparedMount), prepareMounts fs config podId volumes mounts = .ok prepared →
        ∀ m ∈ prepared, good (resolve m.hostPath)) ↔
      (EmptyDirs volumes mounts → ∀ mount ∈ mounts, good (volumePlace config.scratchRoot podId mount.name)) := by
  constructor
  · intro hgood hdirs mount hmount
    obtain ⟨prepared, hprepared⟩ := prepareMounts_of_emptyDirs config podId hdirs
    have hpath : joinPath (podDir config podId) mount.name ∈ prepared.map PreparedMount.hostPath := by
      rw [prepared_hostPath hdeny hprepared]
      exact List.mem_map_of_mem hmount
    obtain ⟨m, hm, heq⟩ := List.mem_map.mp hpath
    rw [← resolve_volume, ← heq]
    exact hgood {} prepared hprepared m hm
  · intro hgood fs prepared hprepared m hm
    obtain ⟨mount, hmount, hpath⟩ := prepared_origin hdeny hprepared hm
    rw [hpath, resolve_volume]
    exact hgood (emptyDirs_of_prepared hdeny hprepared) mount hmount

theorem preparedBelow_iff {config : VolumeConfig} (hdeny : config.allowHostPath = false) (podId : String)
    (volumes : List Volume) (mounts : List VolumeMount) : PreparedBelow config podId volumes mounts ↔
      (EmptyDirs volumes mounts → ∀ mount ∈ mounts, Stays config.scratchRoot podId mount.name) := by
  simp only [← volumePlace_below_iff]
  exact forall_prepared_iff hdeny podId volumes mounts (·.StrictlyBelow (scratchDir config.scratchRoot podId))

/-! ### Tearing one pod down -/

/-- Tearing the pod down removes `dir`: whether that removal works is felt in what the teardown returns. -/
def TeardownRemoves (config : VolumeConfig) (podId dir : String) : Prop :=
  ∃ fs fs' : FileSystem, fs'.pathExists = fs.pathExists ∧
    (∀ path, path ≠ dir → fs'.removeDirAll path = fs.removeDirAll path) ∧
    teardownPodScratch fs' config podId ≠ teardownPodScratch fs config podId

theorem teardownRemoves_iff {config : VolumeConfig} {podId dir : String} :
    TeardownRemoves config podId dir ↔ dir = podDir config podId := by
  constructor
  · rintro ⟨fs, fs', hexists, hremove, hne⟩
    by_contra hother
    refine hne ?_
    unfold teardownPodScratch
    dsimp only
    rw [hexists, hremove (joinPath config.scratchRoot podId) (Ne.symm hother)]
  · rintro rfl
    refine ⟨{}, { removeDirAll := fun path => if path = podDir config podId then some "Device or resource busy" else none },
      rfl, fun path hpath => if_neg hpath, ?_⟩
    simp [teardownPodScratch, podDir]

/-- Whatever the file system: tearing `gone` down removes no directory that holds what these mounts prepare for `kept`. -/
def TeardownSpares (config : VolumeConfig) (gone kept : String) (volumes : List Volume) (mounts : List VolumeMount) :
    Prop :=
  ∀ (fs : FileSystem) (prepared : List PreparedMount), prepareMounts fs config kept volumes mounts = .ok prepared →
    ∀ m ∈ prepared, ∀ dir, TeardownRemoves config gone dir → ¬ (resolve m.hostPath).Within (resolve dir)

theorem teardownSpares_iff {config : VolumeConfig} (hdeny : config.allowHostPath = false) (gone kept : String)
    (volumes : List Volume) (mounts : List VolumeMount) : TeardownSpares config gone kept volumes mounts ↔
      (EmptyDirs volumes mounts → ∀ mount ∈ mounts,
        ¬ (volumePlace config.scratchRoot kept mount.name).Within (podPlace config.scratchRoot gone)) := by
  rw [← forall_prepared_iff hdeny kept volumes mounts (¬ ·.Within (podPlace config.scratchRoot gone))]
  unfold TeardownSpares
  simp only [teardownRemoves_iff, forall_eq, resolve_podDir]

/-! ### Plain pod ids -/

/-- A pod id that is a name has a directory of its own in the root. -/
theorem podPlace_of_plain {podId : String} (h : Plain podId.toList) (scratchRoot : String) :
    podPlace scratchRoot podId = ⟨(resolve scratchRoot).absolute, (resolve scratchRoot).ups,
      (resolve scratchRoot).names ++ [podId.toList]⟩ := by
  rw [podPlace, join, resolve_plain h, if_neg Bool.false_ne_true]
  rfl

theorem volumePlace_of_descends {name : String} (h : (resolve name).Descends) (scratchRoot podId : String) :
    volumePlace scratchRoot podId name = (podPlace scratchRoot podId).append (resolve name) := by
  rw [volumePlace, join, h.1, if_neg Bool.false_ne_true]

theorem stays_of_descends {podId name : String} (hpod : (resolve podId).absolute = false) (hname : (resolve name).Descends)
    (scratchRoot : String) : Stays scratchRoot podId name := by
  rw [Stays, hname.1, hpod, if_neg Bool.false_ne_true, if_neg Bool.false_ne_true]
  exact hname.returns _

/-- A descending name keeps to the directory of its pod, which is not that of another one. -/
theorem not_within_of_plain {gone kept name : String} (hgone : Plain gone.toList) (hkept : Plain kept.toList)
    (hne : gone ≠ kept) (hname : (resolve name).Descends) (scratchRoot : String) :
    ¬ (volumePlace scratchRoot kept name).Within (podPlace scratchRoot gone) := by
  rw [volumePlace_of_descends hname, append_of_descends _ hname, podPlace_of_plain hgone, podPlace_of_plain hkept]
  rintro ⟨-, -, hstarts⟩
  dsimp only at hstarts
  rw [List.append_assoc, List.prefix_append_right_inj, List.singleton_append, List.singleton_prefix_cons_iff] at hstarts
  exact hne (String.toList_inj.mp hstarts)

/-- A volume of that name is there to be prepared. -/
theorem prepareMounts_one (config : VolumeConfig) (podId name : String) : ∃ prepared,
    prepareMounts {} config podId [⟨name, some (.emptyDir none)⟩] [⟨name, "/data", false⟩] = .ok [prepared] ∧
      resolve prepared.hostPath = volumePlace config.scratchRoot podId name := by
  refine ⟨⟨name, "/data", false, joinPath (podDir config podId) name, .emptyDir none⟩, ?_, resolve_volume config podId name⟩
  simp [prepareMounts, prepareMount, podDir, pure, Except.pure, bind, Except.bind]

end FleetosAgent.Workloads
