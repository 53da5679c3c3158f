import FleetosAgent.Theorems.HostSections
import FleetosAgent.Theorems.KeyScope

/-! # Delegated keys after the last eviction

An eviction takes the pod out of every table of the manager but leaves the delegated keys alone, and the refresh loop asks
again for every key that is held. So a node that has evicted the last pod of a workload goes on to hold the workload's key,
unless none was held or on its way when the pod was removed. -/

namespace FleetosAgent.Workloads
open Lib Identity

section
variable {api : SpiffeApi} {cfg : HostConfig api} {s : HostState api} {text : String}

/-- The text of a pod's SPIFFE id. -/
def HostConfig.podText (cfg : HostConfig api) (pod : Pod) : String :=
  api.display (api.new cfg.trustDomain pod.tenantId .sa pod.workloadId)

def Hosts (cfg : HostConfig api) (s : HostState api) (text : String) : Prop :=
  ∃ podId pod, s.pods.getPod podId = some pod ∧ cfg.podText pod = text

def HoldsKey (s : HostState api) (text : String) : Prop :=
  ∃ target entry, s.keys.keys.get target = some entry ∧ api.display target = text

/-- The next request of the refresh loop is one for this id. -/
def RequestsKey (s : HostState api) (text : String) : Prop :=
  s.refresh.waiting = none ∧ ∃ request, s.refresh.queue.head? = some request ∧ api.display request.1 = text

/-- No key for this id is held, and the refresh loop neither awaits one nor has one to request. -/
def Quiet (s : HostState api) (text : String) : Prop := Filed (fun target _ => api.display target ≠ text) s.keys s.refresh

/-- What a boot of a pod with this id does to the keys and the pods. -/
def BootOf (cfg : HostConfig api) (text : String) : HostEvent api → Prop
  | .keyAnswered workloadId podSpec _ => api.display (cfg.bootId workloadId podSpec) = text
  | .recorded pod => cfg.podText pod = text
  | _ => False

def HostEvent.Honest : HostEvent api → Prop
  | .keyAnswered _ _ control => Identity.Honest control
  | .refresh event => event.Honest
  | _ => True

/-- `podId` is the last pod with this id. -/
structure LastPod (cfg : HostConfig api) (s : HostState api) (podId text : String) : Prop where
  hosted : ∃ pod, s.pods.getPod podId = some pod ∧ cfg.podText pod = text
  only : ∀ podId' pod, s.pods.getPod podId' = some pod → cfg.podText pod = text → podId' = podId

/-- Whatever happens after this run but for a boot of the workload: it stays gone, no key for it is held, and none is
    requested. -/
def NoKeyAfter (cfg : HostConfig api) (events : List (HostEvent api)) (text : String) : Prop :=
  ∀ post, (∀ event ∈ post, event.Honest ∧ ¬ BootOf cfg text event) →
    ¬ Hosts cfg (hostAfter cfg (events ++ post)) text ∧ ¬ HoldsKey (hostAfter cfg (events ++ post)) text ∧
      ¬ RequestsKey (hostAfter cfg (events ++ post)) text

/-! ### A quiet node stays quiet -/

theorem ofText_ne (text : String) : OfText fun (target : api.SpiffeId) _ => api.display target ≠ text :=
  fun _ _ _ same h => fun h' => h (same.trans h')

theorem Quiet.step {event : HostEvent api} (h : Quiet s text) (honest : event.Honest) (hboot : ¬ BootOf cfg text event) :
    Quiet (hostStep cfg s event) text := by
  cases event with
  | keyAnswered workloadId podSpec control => exact h.requestAndInstall (ofText_ne text) honest hboot
  | refresh event => exact (refresh_move cfg.loop s.keys s.refresh event).filed (ofText_ne text) honest h
  | registered | unregistered | recorded | evicting | removed => exact h

theorem Quiet.not_holdsKey (h : Quiet s text) : ¬ HoldsKey s text :=
  fun ⟨target, entry, hget, hdisplay⟩ => h.held target entry hget hdisplay

theorem Quiet.not_requestsKey (h : Quiet s text) : ¬ RequestsKey s text :=
  fun ⟨_, request, hhead, hdisplay⟩ => h.queued request (List.mem_of_head? hhead) hdisplay

theorem podText_beginEviction (pod : Pod) : cfg.podText pod.beginEviction = cfg.podText pod := by
  unfold HostConfig.podText Pod.beginEviction
  split <;> rfl

theorem not_hosts_step {event : HostEvent api} (h : ¬ Hosts cfg s text) (hboot : ¬ BootOf cfg text event) :
    ¬ Hosts cfg (hostStep cfg s event) text := by
  rintro ⟨podId, pod, hget, htext⟩
  cases event with
  | recorded new =>
    simp only [hostStep, PodManager.getPod_addPod] at hget
    split at hget
    · obtain rfl := Option.some.inj hget
      exact hboot htext
    · exact h ⟨podId, pod, hget, htext⟩
  | evicting evicted =>
    simp only [hostStep, PodManager.getPod_modifyPod] at hget
    split at hget
    · obtain ⟨pod', hget', rfl⟩ := Option.map_eq_some_iff.mp hget
      exact h ⟨evicted, pod', hget', by rw [← htext, podText_beginEviction]⟩
    · exact h ⟨podId, pod, hget, htext⟩
  | removed gone => exact h ⟨podId, pod, (PodManager.getPod_removePod_eq_some.mp hget).2, htext⟩
  | keyAnswered | registered | unregistered | refresh => exact h ⟨podId, pod, hget, htext⟩

theorem gone_run {post : List (HostEvent api)} (hpods : ¬ Hosts cfg s text) (hkeys : Quiet s text)
    (hpost : ∀ event ∈ post, event.Honest ∧ ¬ BootOf cfg text event) :
    ¬ Hosts cfg (post.foldl (hostStep cfg) s) text ∧ Quiet (post.foldl (hostStep cfg) s) text := by
  induction post using List.reverseRecOn with
  | nil => exact ⟨hpods, hkeys⟩
  | append_singleton post event ih =>
    rw [List.forall_mem_append, List.forall_mem_singleton] at hpost
    obtain ⟨gone, quiet⟩ := ih hpost.1
    rw [List.foldl_concat]
    exact ⟨not_hosts_step gone hpost.2.2, quiet.step hpost.2.1 hpost.2.2⟩

/-! ### What is on its way arrives -/

/-- A control that gives no key. -/
def refuses : Control api := fun _ => .error (.rpc "unreachable")

/-- The refresh loop's events, its answers honest. -/
def LoopEvent (event : HostEvent api) : Prop := ∃ e : RefreshEvent api, event = .refresh e ∧ e.Honest

theorem LoopEvent.allowed {event : HostEvent api} (h : LoopEvent event) : event.Honest ∧ ¬ BootOf cfg text event := by
  obtain ⟨e, rfl, honest⟩ := h
  exact ⟨honest, id⟩

theorem refused_refresh : (hostStep cfg s (.refresh (.answered refuses))).refresh = ⟨s.refresh.queue, none⟩ := by
  show (cfg.loop.step s.keys s.refresh (.answered refuses)).2 = _
  unfold RefreshLoop.step
  cases hwaiting : s.refresh.waiting with
  | none => simp [← hwaiting]
  | some request => rfl

/-- The loop works its queue off: with every answer refused, it comes to each request that is in it. -/
theorem reaches_request {queue : List (api.SpiffeId × Option UInt32)} (hqueue : s.refresh.queue = queue)
    (hmem : ∃ request ∈ queue, api.display request.1 = text) :
    ∃ post : List (HostEvent api), (∀ event ∈ post, LoopEvent event) ∧ RequestsKey (post.foldl (hostStep cfg) s) text := by
  have free : LoopEvent (.refresh (.answered refuses) : HostEvent api) := ⟨_, rfl, fun _ _ _ h => (nomatch h)⟩
  have sent : LoopEvent (.refresh .send : HostEvent api) := ⟨_, rfl, trivial⟩
  induction queue generalizing s with
  | nil => simp at hmem
  | cons first queue ih =>
    by_cases hfirst : api.display first.1 = text
    · refine ⟨[.refresh (.answered refuses)], by simpa using free, ?_⟩
      rw [List.foldl_cons, List.foldl_nil, RequestsKey, refused_refresh]
      exact ⟨rfl, first, by rw [hqueue]; rfl, hfirst⟩
    · have rest : ∃ request ∈ queue, api.display request.1 = text := by
        obtain ⟨request, hrequest, hdisplay⟩ := hmem
        rcases List.mem_cons.mp hrequest with rfl | hrequest
        · exact absurd hdisplay hfirst
        · exact ⟨request, hrequest, hdisplay⟩
      have left : (hostStep cfg (hostStep cfg s (.refresh (.answered refuses))) (.refresh .send)).refresh.queue =
          queue := by
        show (cfg.loop.step _ (hostStep cfg s (.refresh (.answered refuses))).refresh .send).2.queue = queue
        rw [refused_refresh, hqueue]
        rfl
      obtain ⟨post, hpost, hrequest⟩ := ih left rest
      refine ⟨.refresh (.answered refuses) :: .refresh .send :: post, ?_, hrequest⟩
      simp only [List.forall_mem_cons]
      exact ⟨free, sent, hpost⟩

theorem holdsKey_of_awaited {request : api.SpiffeId × Option UInt32} (hwaiting : s.refresh.waiting = some request)
    (hdisplay : api.display request.1 = text) :
    HoldsKey (hostStep cfg s (.refresh (.answered (grants request.1)))) text := by
  refine ⟨request.1, ⟨⟨request.1, request.2, 0, 14400⟩, []⟩, ?_, hdisplay⟩
  show FinMap.get (cfg.loop.step s.keys s.refresh (.answered (grants request.1))).1.keys request.1 = _
  rw [RefreshLoop.step, hwaiting]
  show FinMap.get (requestAndInstall _ _ _ _ _ _).2.keys _ = _
  rw [requestAndInstall_grants rfl]
  exact FinMap.get_insert_self ..

theorem quiet_of_noKeyAfter {events : List (HostEvent api)} (h : NoKeyAfter cfg events text) :
    Quiet (hostAfter cfg events) text := by
  have never : ∀ post : List (HostEvent api), (∀ event ∈ post, LoopEvent event) →
      ¬ HoldsKey (post.foldl (hostStep cfg) (hostAfter cfg events)) text ∧
      ¬ RequestsKey (post.foldl (hostStep cfg) (hostAfter cfg events)) text := by
    intro post hpost
    rw [← hostAfter_append]
    exact (h post fun event hevent => (hpost event hevent).allowed).2
  refine ⟨fun target entry hget hdisplay => ?_, fun request hmem hdisplay => ?_, fun request hwaiting hdisplay => ?_⟩
  · exact (never [] (by simp)).1 ⟨target, entry, hget, hdisplay⟩
  · obtain ⟨post, hpost, hrequest⟩ := reaches_request rfl ⟨request, hmem, hdisplay⟩
    exact (never post hpost).2 hrequest
  · have answered : LoopEvent (.refresh (.answered (grants request.1)) : HostEvent api) := ⟨_, rfl, honest_grants request.1⟩
    exact (never [.refresh (.answered (grants request.1))] (by simpa using answered)).1
      (holdsKey_of_awaited hwaiting hdisplay)

/-- Once the last pod of an id has been evicted, the node never again holds or requests a key for it before the next boot,
    exactly if no key for it was held, queued or awaited when the pod was removed. -/
theorem keys_follow_hosting_iff (cfg : HostConfig api) (run : List (HostEvent api)) (podId text : String)
    (last : LastPod cfg (hostAfter cfg run) podId text) :
    NoKeyAfter cfg (run ++ [.removed podId]) text ↔ Quiet (hostAfter cfg run) text := by
  have removed : hostAfter cfg (run ++ [.removed podId]) = hostStep cfg (hostAfter cfg run) (.removed podId) :=
    hostAfter_append
  constructor
  · intro h
    have quiet := quiet_of_noKeyAfter h
    rw [removed] at quiet
    exact quiet
  · intro quiet post hpost
    have gone : ¬ Hosts cfg (hostStep cfg (hostAfter cfg run) (.removed podId)) text := by
      rintro ⟨podId', pod, hget, htext⟩
      obtain ⟨hne, hget⟩ := PodManager.getPod_removePod_eq_some.mp hget
      exact hne (last.only podId' pod hget htext)
    obtain ⟨hosts, quiet⟩ := gone_run gone (quiet.step trivial id) hpost
    rw [hostAfter_append, removed]
    exact ⟨hosts, quiet.not_holdsKey, quiet.not_requestsKey⟩

end

/-! ### One workload -/

def sampleHost : HostConfig textApi := ⟨"fleet", { nodeSpiffeId := "node" }, ⟨"node", 14400⟩⟩

def webPod : Pod := .booted "web" "web" "" "" .containerd ⟨.replicate 16 0⟩ 0

/-- "web" boots without a key, and is evicted. -/
theorem keys_follow_hosting_of_refused :
    NoKeyAfter sampleHost ([.keyAnswered "web" {} refuses, .recorded webPod] ++ [.removed "web"])
      (sampleHost.podText webPod) := by
  refine (keys_follow_hosting_iff sampleHost _ "web" _ ⟨⟨webPod, rfl, rfl⟩, fun podId pod hget _ => ?_⟩).mpr .empty
  have hget' : (PodManager.new.addPod webPod).getPod podId = some pod := hget
  rw [PodManager.getPod_addPod] at hget'
  split at hget'
  · assumption
  · cases hget'

/-- The node after it has booted "web" and evicted it again. -/
def evictedNode : World textApi :=
  (reconcile delegatingConfig (sampleCall [] {} fun _ => delegatingBoot)
    (reconcile delegatingConfig (sampleCall [sampleSpec "web" .containerd] {} fun _ => delegatingBoot)
      { ips := samplePool }).final).final

/-- No pod is left, but the key of "web" is; and when three quarters of its time are over the loop requests the next one. -/
theorem evicted_workload_keeps_key : evictedNode.pods.allPods .sorted = [] ∧
    HoldsKey (evictedNode.host {}) "spiffe://fleet//sa/web" ∧
    RequestsKey (hostStep sampleHost (evictedNode.host {}) (.refresh (.tick 10800 (.sorted : Enumeration String))))
      "spiffe://fleet//sa/web" := by
  refine ⟨?_, ⟨"spiffe://fleet//sa/web", _, rfl, rfl⟩, rfl, ⟨"spiffe://fleet//sa/web", none⟩, ?_, rfl⟩
  · decide +kernel
  · decide +kernel

end FleetosAgent.Workloads
