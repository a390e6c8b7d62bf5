import KubewardenPolicies.ServiceFinder
import KubewardenPolicies.Sdk

/-!
`find_webhook_services_exposed`. The webhook targets are grouped by namespace; for each
namespace the Ingresses and the Services of that namespace are listed once, the services
they expose are intersected with that namespace's targets, and the results are gathered.
Rust visits the namespace map in no fixed order, so the results on the detector are stated
both for the map the code builds and for every other map that groups the targets, whatever
the order of its entries and of their sets. The file gives the code, then what a query
answers and when a target counts as exposed, the grouping invariant, one turn of the loop,
and whole runs, with samples over a cluster that always answers and one that fails.
-/
namespace KubewardenPolicies

/-- The cluster behind the host's `list_resources_by_namespace`, at the two resource types
the policy lists. -/
structure Cluster where
  listIngresses : ListResourcesByNamespaceRequest → Except String (List Ingress)
  listServices : ListResourcesByNamespaceRequest → Except String (List Service)

def ingressListRequest (ns : String) : ListResourcesByNamespaceRequest :=
  ⟨ns, "networking.k8s.io/v1", "Ingress", none, none⟩

def serviceListRequest (ns : String) : ListResourcesByNamespaceRequest :=
  ⟨ns, "v1", "Service", none, none⟩

/-- The two requests the detector issues for one namespace, in order. -/
def namespaceRequests (ns : String) : List ListResourcesByNamespaceRequest :=
  [ingressListRequest ns, serviceListRequest ns]

abbrev NamespaceMap := HashMap String (HashSet ServiceDetails)

/-- One turn of the grouping loop: add `svc` to the set of its namespace, or start it. -/
def groupByNamespace (m : NamespaceMap) (svc : ServiceDetails) : NamespaceMap :=
  m.modifyOrInsert svc.namespace (fun svcs => svcs.insert svc) (HashSet.ofList [svc])

/-- `webhook_svcs_by_namespace`: the targets grouped by namespace. -/
def webhookSvcsByNamespace (services : HashSet ServiceDetails) : NamespaceMap :=
  services.toList.foldl groupByNamespace HashMap.empty

variable (fromServiceBackend : String → IngressServiceBackend → ServiceDetails)

/-- The targets among `webhookServices` that one of the `ingresses` routes to. -/
def exposedByIngresses (ingresses : List Ingress) (webhookServices : HashSet ServiceDetails) :
    HashSet ServiceDetails :=
  let svcsExposedByIngresses := ingresses.foldl (fun svcs ingress =>
    svcs.extend (ingress.getServices fromServiceBackend).toList) HashSet.empty
  svcsExposedByIngresses.intersection webhookServices

/-- The targets among `webhookServices` that one of the NodePort or LoadBalancer
`services` publishes. -/
def exposedByNodeportLoadbalancer (services : List Service)
    (webhookServices : HashSet ServiceDetails) : HashSet ServiceDetails :=
  let svcsExposed := services.foldl (fun svcs service =>
    if let some spec := service.spec then
      if let some type := spec.type then
        if type = "NodePort" ∨ type = "LoadBalancer" then svcs.extend service.getServices.toList
        else svcs
      else svcs
    else svcs) HashSet.empty
  svcsExposed.intersection webhookServices

variable (c : Cluster)

def findWebhookServicesExposedByIngressInsideOfNamespace
    (webhookServices : HashSet ServiceDetails) (ns : String) : HostM (HashSet ServiceDetails) := do
  let ingresses ← listResourcesByNamespace c.listIngresses (ingressListRequest ns)
  return exposedByIngresses fromServiceBackend ingresses webhookServices

def findWebhookServicesExposedByNodeportLoadbalancerInsideOfNamespace
    (webhookServices : HashSet ServiceDetails) (ns : String) : HostM (HashSet ServiceDetails) := do
  let services ← listResourcesByNamespace c.listServices (serviceListRequest ns)
  return exposedByNodeportLoadbalancer services webhookServices

/-- The loop of `find_webhook_services_exposed` over the entries of the namespace map,
gathering into `exposedServicesBeingUsed`; the first failed query ends it. -/
def exposedByNamespaces :
    List (String × HashSet ServiceDetails) → HashSet ServiceDetails → HostM (HashSet ServiceDetails)
  | [], exposedServicesBeingUsed => pure exposedServicesBeingUsed
  | (ns, webhookServicesInsideNamespace) :: rest, exposedServicesBeingUsed => do
    let svcsExposedByIngress ← findWebhookServicesExposedByIngressInsideOfNamespace
      fromServiceBackend c webhookServicesInsideNamespace ns
    let svcsExposedByNodeportLoadbalancer ←
      findWebhookServicesExposedByNodeportLoadbalancerInsideOfNamespace c
        webhookServicesInsideNamespace ns
    exposedByNamespaces rest
      ((exposedServicesBeingUsed.extend svcsExposedByIngress.toList).extend
        svcsExposedByNodeportLoadbalancer.toList)

/-- `find_webhook_services_exposed`. -/
def findWebhookServicesExposed (services : HashSet ServiceDetails) :
    HostM (HashSet ServiceDetails) :=
  exposedByNamespaces fromServiceBackend c (webhookSvcsByNamespace services).entries HashSet.empty

/-- Both list queries for namespace `ns` succeed. -/
def Cluster.Lists (ns : String) : Prop :=
  (∃ ingresses, c.listIngresses (ingressListRequest ns) = .ok ingresses) ∧
    ∃ services, c.listServices (serviceListRequest ns) = .ok services

/-- The requests issued for a namespace whose listing fails: the Ingress request, and the
Service request only when the Ingress one succeeded. -/
def Cluster.issuedUntilFailure (ns : String) : List ListResourcesByNamespaceRequest :=
  match c.listIngresses (ingressListRequest ns) with
  | .ok _ => namespaceRequests ns
  | .error _ => [ingressListRequest ns]

/-- Every Ingress and Service the cluster lists for a namespace carries that namespace. -/
def Cluster.ListsOwnNamespace : Prop :=
  (∀ ns ingresses, c.listIngresses (ingressListRequest ns) = .ok ingresses →
    ∀ i ∈ ingresses, i.metadata.namespace = some ns) ∧
  (∀ ns services, c.listServices (serviceListRequest ns) = .ok services →
    ∀ v ∈ services, v.metadata.namespace = some ns)

def Service.IsNodePortOrLoadBalancer (v : Service) : Prop :=
  ∃ sp, v.spec = some sp ∧ (sp.type = some "NodePort" ∨ sp.type = some "LoadBalancer")

/-- `x` is exposed in namespace `ns`: an Ingress listed for `ns` routes to it, or a
NodePort or LoadBalancer Service listed for `ns` publishes it. -/
def ExposedIn (ns : String) (x : ServiceDetails) : Prop :=
  (∃ ingresses, c.listIngresses (ingressListRequest ns) = .ok ingresses ∧
    ∃ i ∈ ingresses, x ∈ i.getServices fromServiceBackend) ∨
  (∃ services, c.listServices (serviceListRequest ns) = .ok services ∧
    ∃ v ∈ services, v.IsNodePortOrLoadBalancer ∧ x ∈ v.getServices)

/-- `m` groups the targets `l`: it has a key for each of their namespaces and no other,
and under each key exactly the targets of that namespace. -/
structure Groups (l : List ServiceDetails) (m : NamespaceMap) : Prop where
  mem_keys : ∀ ns, ns ∈ m.keys ↔ ∃ s ∈ l, s.namespace = ns
  mem_entry : ∀ e ∈ m.entries, ∀ s, s ∈ e.2 ↔ s ∈ l ∧ s.namespace = e.1

theorem Groups.lists_of {l : List ServiceDetails} {m : NamespaceMap} {c : Cluster}
    (hm : Groups l m) (hlists : ∀ s ∈ l, c.Lists s.namespace) : ∀ e ∈ m.entries, c.Lists e.1 := by
  intro e he
  obtain ⟨s, hs, hns⟩ := (hm.mem_keys e.1).mp (List.mem_map_of_mem _ he)
  exact hns ▸ hlists s hs

/-- Each target sits in the entry of its namespace. -/
theorem Groups.exists_entry {l : List ServiceDetails} {m : NamespaceMap} (hm : Groups l m)
    {s : ServiceDetails} (hs : s ∈ l) : ∃ e ∈ m.entries, e.1 = s.namespace ∧ s ∈ e.2 := by
  obtain ⟨v, hv⟩ := HashMap.mem_keys.mp ((hm.mem_keys _).mpr ⟨s, hs, rfl⟩)
  exact ⟨_, hv, rfl, (hm.mem_entry _ hv s).mpr ⟨hs, rfl⟩⟩

/-- A grouping map's keys are the distinct namespaces of the targets, each once. -/
theorem Groups.keys_perm {l : List ServiceDetails} {m : NamespaceMap} (hm : Groups l m) :
    m.keys.Perm (l.map ServiceDetails.namespace).dedup :=
  (List.perm_ext_iff_of_nodup m.nodupKeys (List.nodup_dedup _)).mpr fun ns => by
    show ns ∈ m.keys ↔ _
    rw [hm.mem_keys, List.mem_dedup, List.mem_map]

theorem groups_empty : Groups [] HashMap.empty :=
  ⟨fun ns => by simp [HashMap.keys, HashMap.empty], fun e he => absurd he (by simp)⟩

theorem groups_groupByNamespace {l : List ServiceDetails} {m : NamespaceMap} (h : Groups l m)
    (svc : ServiceDetails) : Groups (l ++ [svc]) (groupByNamespace m svc) where
  mem_keys ns := by
    rw [groupByNamespace, HashMap.mem_keys_modifyOrInsert, h.mem_keys]
    simp only [List.mem_append, List.mem_singleton, or_and_right, exists_or, exists_eq_left]
    exact or_congr_right eq_comm
  mem_entry e he s := by
    rw [groupByNamespace, HashMap.mem_entries_modifyOrInsert] at he
    rcases he with ⟨hne, he⟩ | ⟨heq, ⟨w, hw, hval⟩ | ⟨hfresh, hval⟩⟩
    · rw [h.mem_entry e he, List.mem_append, List.mem_singleton]
      aesop
    · rw [hval, HashSet.mem_insert, h.mem_entry _ hw, heq, List.mem_append, List.mem_singleton]
      aesop
    · have hnone : ∀ s ∈ l, s.namespace ≠ svc.namespace :=
        fun s hs hns => hfresh ((h.mem_keys _).mpr ⟨s, hs, hns⟩)
      rw [hval, heq, HashSet.mem_ofList, List.mem_singleton, List.mem_append, List.mem_singleton]
      aesop

theorem groups_foldl_groupByNamespace {l : List ServiceDetails} {m : NamespaceMap}
    (h : Groups l m) (l' : List ServiceDetails) : Groups (l ++ l') (l'.foldl groupByNamespace m) := by
  induction l' generalizing l m with
  | nil => simpa using h
  | cons svc l' ih => simpa using ih (groups_groupByNamespace h svc)

/-- The map the grouping loop builds groups the targets. -/
theorem groups_webhookSvcsByNamespace (services : HashSet ServiceDetails) :
    Groups services.toList (webhookSvcsByNamespace services) := by
  simpa using groups_foldl_groupByNamespace groups_empty services.toList

/-- The grouping loop, in whatever order it meets the targets, keys each namespace of the
targets once and files every target under its own namespace and nowhere else. -/
theorem webhookSvcsByNamespace_partitions (services : HashSet ServiceDetails) :
    (webhookSvcsByNamespace services).keys.Perm
        (services.toList.map ServiceDetails.namespace).dedup ∧
      ∀ e ∈ (webhookSvcsByNamespace services).entries, ∀ s,
        s ∈ e.2 ↔ s ∈ services ∧ s.namespace = e.1 :=
  ⟨(groups_webhookSvcsByNamespace services).keys_perm,
    (groups_webhookSvcsByNamespace services).mem_entry⟩

/-- Three sample targets in two namespaces. -/
def sampleTargets : HashSet ServiceDetails :=
  HashSet.ofList [⟨"hook", "system", some 443⟩, ⟨"hook", "system", some 8443⟩,
    ⟨"audit", "tools", some 443⟩]

/-- A cluster that publishes `system/hook` on both its ports through a NodePort Service. -/
def sampleCluster : Cluster where
  listIngresses _ := .ok []
  listServices req := if req.namespace = "system" then
      .ok [⟨⟨some "hook", some "system"⟩, some ⟨some "NodePort", some [⟨443⟩, ⟨8443⟩]⟩⟩]
    else .ok []

/-- A cluster that lists every namespace's Ingresses but fails to list the Services of
`tools`. -/
def failingCluster : Cluster where
  listIngresses _ := .ok []
  listServices req := if req.namespace = "tools" then .error "services of tools unavailable"
    else sampleCluster.listServices req

theorem sampleCluster_lists (ns : String) : sampleCluster.Lists ns := by
  refine ⟨⟨[], rfl⟩, ?_⟩
  by_cases h : ns = "system" <;> simp [sampleCluster, serviceListRequest, h]

theorem sampleCluster_listsOwnNamespace : sampleCluster.ListsOwnNamespace := by
  refine ⟨fun ns ingresses h i hi => ?_, fun ns services h v hv => ?_⟩
  · simp only [sampleCluster, Except.ok.injEq] at h
    simp [← h] at hi
  · by_cases hns : ns = "system"
    · subst hns
      simp only [sampleCluster, serviceListRequest, if_true, Except.ok.injEq] at h
      simp [← h] at hv
      simp [hv]
    · simp only [sampleCluster, serviceListRequest, hns, if_false, Except.ok.injEq] at h
      simp [← h] at hv

section Namespace

variable {fromServiceBackend} {c}

@[simp] theorem mem_exposedByIngresses {ingresses : List Ingress}
    {webhookServices : HashSet ServiceDetails} {x : ServiceDetails} :
    x ∈ exposedByIngresses fromServiceBackend ingresses webhookServices ↔
      x ∈ webhookServices ∧ ∃ i ∈ ingresses, x ∈ i.getServices fromServiceBackend := by
  simp [exposedByIngresses, HashSet.mem_foldl_extend, and_comm]

@[simp] theorem mem_exposedByNodeportLoadbalancer {services : List Service}
    {webhookServices : HashSet ServiceDetails} {x : ServiceDetails} :
    x ∈ exposedByNodeportLoadbalancer services webhookServices ↔
      x ∈ webhookServices ∧ ∃ v ∈ services, v.IsNodePortOrLoadBalancer ∧ x ∈ v.getServices := by
  rw [exposedByNodeportLoadbalancer, HashSet.mem_intersection,
    HashSet.mem_foldl (P := fun v x => v.IsNodePortOrLoadBalancer ∧ x ∈ v.getServices)]
  · simp [and_comm]
  · intro svcs v x
    rcases v with ⟨meta, _ | ⟨_ | type, ports⟩⟩
    · simp [Service.IsNodePortOrLoadBalancer]
    · simp [Service.IsNodePortOrLoadBalancer]
    · by_cases h : type = "NodePort" ∨ type = "LoadBalancer" <;>
        simp [Service.IsNodePortOrLoadBalancer, h]

theorem exposedIn_iff {ns : String} {ingresses : List Ingress} {services : List Service}
    {x : ServiceDetails} (hi : c.listIngresses (ingressListRequest ns) = .ok ingresses)
    (hs : c.listServices (serviceListRequest ns) = .ok services) :
    ExposedIn fromServiceBackend c ns x ↔ (∃ i ∈ ingresses, x ∈ i.getServices fromServiceBackend) ∨
      ∃ v ∈ services, v.IsNodePortOrLoadBalancer ∧ x ∈ v.getServices := by
  simp [ExposedIn, hi, hs]

variable (log : List ListResourcesByNamespaceRequest)

theorem run_findWebhookServicesExposedByIngressInsideOfNamespace
    (webhookServices : HashSet ServiceDetails) (ns : String) :
    (findWebhookServicesExposedByIngressInsideOfNamespace fromServiceBackend c webhookServices
      ns).run log =
      ((c.listIngresses (ingressListRequest ns)).map
        (exposedByIngresses fromServiceBackend · webhookServices),
        log ++ [ingressListRequest ns]) := by
  simp only [findWebhookServicesExposedByIngressInsideOfNamespace, HostM.run_bind,
    HostM.run_listResourcesByNamespace]
  cases c.listIngresses (ingressListRequest ns) <;> rfl

theorem run_findWebhookServicesExposedByNodeportLoadbalancerInsideOfNamespace
    (webhookServices : HashSet ServiceDetails) (ns : String) :
    (findWebhookServicesExposedByNodeportLoadbalancerInsideOfNamespace c webhookServices
      ns).run log =
      ((c.listServices (serviceListRequest ns)).map
        (exposedByNodeportLoadbalancer · webhookServices),
        log ++ [serviceListRequest ns]) := by
  simp only [findWebhookServicesExposedByNodeportLoadbalancerInsideOfNamespace, HostM.run_bind,
    HostM.run_listResourcesByNamespace]
  cases c.listServices (serviceListRequest ns) <;> rfl

/-- One turn of the detector's loop: everything it can do. -/
theorem run_exposedByNamespaces_cons (ns : String) (webhookServices : HashSet ServiceDetails)
    (rest : List (String × HashSet ServiceDetails)) (acc : HashSet ServiceDetails) :
    (exposedByNamespaces fromServiceBackend c ((ns, webhookServices) :: rest) acc).run log =
      match c.listIngresses (ingressListRequest ns), c.listServices (serviceListRequest ns) with
      | .error e, _ => (.error e, log ++ [ingressListRequest ns])
      | .ok _, .error e => (.error e, log ++ namespaceRequests ns)
      | .ok ingresses, .ok services =>
        (exposedByNamespaces fromServiceBackend c rest
          ((acc.extend (exposedByIngresses fromServiceBackend ingresses webhookServices).toList).extend
            (exposedByNodeportLoadbalancer services webhookServices).toList)).run
          (log ++ namespaceRequests ns) := by
  simp only [exposedByNamespaces, HostM.run_bind,
    run_findWebhookServicesExposedByIngressInsideOfNamespace,
    run_findWebhookServicesExposedByNodeportLoadbalancerInsideOfNamespace]
  cases c.listIngresses (ingressListRequest ns) <;> cases c.listServices (serviceListRequest ns) <;>
    simp [namespaceRequests, Except.map]

end Namespace

section Runs

variable {c}

/-- When every namespace visited lists, the loop issues each namespace's two requests in
turn and gathers each target that is exposed in its own namespace. -/
theorem run_exposedByNamespaces_of_lists :
    ∀ (entries : List (String × HashSet ServiceDetails)) (acc : HashSet ServiceDetails)
      (log : List ListResourcesByNamespaceRequest), (∀ e ∈ entries, c.Lists e.1) →
    ∃ R, (exposedByNamespaces fromServiceBackend c entries acc).run log =
        (.ok R, log ++ entries.flatMap fun e => namespaceRequests e.1) ∧
      ∀ x, x ∈ R ↔ x ∈ acc ∨ ∃ e ∈ entries, x ∈ e.2 ∧ ExposedIn fromServiceBackend c e.1 x
  | [], acc, log, _ => ⟨acc, by simp [exposedByNamespaces]⟩
  | (ns, webhookServices) :: rest, acc, log, h => by
    obtain ⟨⟨ingresses, hi⟩, services, hs⟩ : c.Lists ns := h _ (List.mem_cons_self _ _)
    obtain ⟨R, hrun, hR⟩ := run_exposedByNamespaces_of_lists rest _ (log ++ namespaceRequests ns)
      fun e he => h e (List.mem_cons_of_mem _ he)
    refine ⟨R, ?_, fun x => ?_⟩
    · rw [run_exposedByNamespaces_cons, hi, hs]
      simpa using hrun
    · simp only [hR, List.mem_cons, or_and_right, exists_or, exists_eq_left,
        exposedIn_iff hi hs, HashSet.mem_extend, HashSet.mem_toList, mem_exposedByIngresses,
        mem_exposedByNodeportLoadbalancer, and_or_left, or_assoc]

/-- When some namespace visited does not list, the loop fails at the first such namespace,
having issued the requests of the namespaces before it and none after. -/
theorem run_exposedByNamespaces_of_not_lists :
    ∀ (entries : List (String × HashSet ServiceDetails)) (acc : HashSet ServiceDetails)
      (log : List ListResourcesByNamespaceRequest), (∃ e ∈ entries, ¬ c.Lists e.1) →
    ∃ pre e rest err, entries = pre ++ e :: rest ∧ (∀ p ∈ pre, c.Lists p.1) ∧ ¬ c.Lists e.1 ∧
      (exposedByNamespaces fromServiceBackend c entries acc).run log =
        (.error err, log ++ (pre.flatMap fun p => namespaceRequests p.1) ++ c.issuedUntilFailure e.1)
  | [], _, _, h => by simp at h
  | (ns, webhookServices) :: rest, acc, log, h => by
    by_cases hl : c.Lists ns
    · obtain ⟨⟨ingresses, hi⟩, services, hs⟩ := hl
      have hrest : ∃ e ∈ rest, ¬ c.Lists e.1 := by
        obtain ⟨e, he, hne⟩ := h
        rcases List.mem_cons.mp he with rfl | he
        · exact absurd ⟨⟨ingresses, hi⟩, services, hs⟩ hne
        · exact ⟨e, he, hne⟩
      obtain ⟨pre, e, rest', err, rfl, hpre, he, hrun⟩ :=
        run_exposedByNamespaces_of_not_lists rest _ (log ++ namespaceRequests ns) hrest
      refine ⟨(ns, webhookServices) :: pre, e, rest', err, rfl, ?_, he, ?_⟩
      · rintro p (_ | ⟨_, hp⟩)
        · exact ⟨⟨ingresses, hi⟩, services, hs⟩
        · exact hpre p hp
      · rw [run_exposedByNamespaces_cons, hi, hs]
        simpa using hrun
    · refine ⟨[], (ns, webhookServices), rest, ?_⟩
      simp only [Cluster.Lists, not_and, not_exists] at hl
      rw [run_exposedByNamespaces_cons, Cluster.issuedUntilFailure]
      rcases hi : c.listIngresses (ingressListRequest ns) with err | ingresses
      · exact ⟨err, rfl, by simp, by simp [Cluster.Lists, hi], by simp⟩
      · rcases hs : c.listServices (serviceListRequest ns) with err | services
        · exact ⟨err, rfl, by simp, by simp [Cluster.Lists, hs], by simp⟩
        · exact absurd hs (hl ⟨ingresses, hi⟩ services)

theorem mem_flatMap_namespaceRequests {nss : List String}
    {req : ListResourcesByNamespaceRequest} :
    req ∈ nss.flatMap namespaceRequests ↔
      ∃ ns ∈ nss, req = ingressListRequest ns ∨ req = serviceListRequest ns := by
  simp [namespaceRequests]

/-- Distinct namespaces never share a request. -/
theorem nodup_flatMap_namespaceRequests {nss : List String} (h : nss.Nodup) :
    (nss.flatMap namespaceRequests).Nodup :=
  List.nodup_flatMap.mpr ⟨fun ns _ => by simp [namespaceRequests, ingressListRequest,
    serviceListRequest], h.imp fun hne => by
      simp [Function.onFun, namespaceRequests, ingressListRequest, serviceListRequest, hne,
        Ne.symm hne]⟩

/-- Whatever the cluster answers, the loop issues, in order, a prefix of the requests of the
namespaces it visits. -/
theorem log_exposedByNamespaces_prefix :
    ∀ (entries : List (String × HashSet ServiceDetails)) (acc : HashSet ServiceDetails)
      (log : List ListResourcesByNamespaceRequest),
    ∃ issued, ((exposedByNamespaces fromServiceBackend c entries acc).run log).2 = log ++ issued ∧
      issued <+: entries.flatMap fun e => namespaceRequests e.1
  | [], acc, log => ⟨[], by simp [exposedByNamespaces]⟩
  | (ns, webhookServices) :: rest, acc, log => by
    rw [run_exposedByNamespaces_cons]
    rcases hi : c.listIngresses (ingressListRequest ns) with err | ingresses
    · exact ⟨[ingressListRequest ns], rfl, ⟨_, rfl⟩⟩
    · rcases hs : c.listServices (serviceListRequest ns) with err | services
      · exact ⟨namespaceRequests ns, rfl, List.prefix_append _ _⟩
      · obtain ⟨issued, hlog, hpre⟩ :=
          log_exposedByNamespaces_prefix rest _ (log ++ namespaceRequests ns)
        exact ⟨namespaceRequests ns ++ issued, hlog.trans (List.append_assoc _ _ _),
          (List.prefix_append_right_inj _).mpr hpre⟩

variable (services : HashSet ServiceDetails) (m : NamespaceMap)
  (log : List ListResourcesByNamespaceRequest)

theorem run_exposedByNamespaces_of_groups (hm : Groups services.toList m)
    (hlists : ∀ s ∈ services, c.Lists s.namespace) :
    ∃ R log', (exposedByNamespaces fromServiceBackend c m.entries HashSet.empty).run log =
        (.ok R, log') ∧
      ∀ x, x ∈ R ↔ x ∈ services ∧ ExposedIn fromServiceBackend c x.namespace x := by
  obtain ⟨R, hrun, hR⟩ := run_exposedByNamespaces_of_lists fromServiceBackend m.entries
    HashSet.empty log (hm.lists_of hlists)
  refine ⟨R, _, hrun, fun x => ?_⟩
  rw [hR, or_iff_right (HashSet.not_mem_empty x)]
  constructor
  · rintro ⟨e, he, hx, hexp⟩
    obtain ⟨hxs, hns⟩ := (hm.mem_entry e he x).mp hx
    exact ⟨hxs, by rwa [hns]⟩
  · rintro ⟨hxs, hexp⟩
    obtain ⟨e, he, hns, hx⟩ := hm.exists_entry hxs
    exact ⟨e, he, hx, hns ▸ hexp⟩

/-- The detector as the code runs it, on the map its grouping loop builds. -/
theorem run_findWebhookServicesExposed_of_lists (hlists : ∀ s ∈ services, c.Lists s.namespace) :
    ∃ R log', (findWebhookServicesExposed fromServiceBackend c services).run log = (.ok R, log') ∧
      ∀ x, x ∈ R ↔ x ∈ services ∧ ExposedIn fromServiceBackend c x.namespace x :=
  run_exposedByNamespaces_of_groups fromServiceBackend services _ log
    (groups_webhookSvcsByNamespace services) hlists

/-- The namespace-batched detector finds exactly the targets that a resource listed for
their own namespace exposes: run as the code runs it, and over every other map grouping the
targets, so in whatever order the namespace map is visited. -/
theorem findWebhookServicesExposed_eq_per_target
    (hlists : ∀ s ∈ services, c.Lists s.namespace) :
    (∃ R log', (findWebhookServicesExposed fromServiceBackend c services).run log =
        (.ok R, log') ∧
      ∀ x, x ∈ R ↔ x ∈ services ∧ ExposedIn fromServiceBackend c x.namespace x) ∧
    ∀ m : NamespaceMap, Groups services.toList m →
      ∃ R log', (exposedByNamespaces fromServiceBackend c m.entries HashSet.empty).run log =
          (.ok R, log') ∧
        ∀ x, x ∈ R ↔ x ∈ services ∧ ExposedIn fromServiceBackend c x.namespace x :=
  ⟨run_findWebhookServicesExposed_of_lists fromServiceBackend services log hlists,
    fun m hm => run_exposedByNamespaces_of_groups fromServiceBackend services m log hm hlists⟩

theorem findWebhookServicesExposed_eq_per_target_sample :
    (∀ s ∈ sampleTargets, sampleCluster.Lists s.namespace) ∧
    (∃ R log', (findWebhookServicesExposed ServiceDetails.fromServiceBackend sampleCluster
        sampleTargets).run [] = (.ok R, log') ∧
      ∀ x, x ∈ R ↔ x ∈ sampleTargets ∧
        ExposedIn ServiceDetails.fromServiceBackend sampleCluster x.namespace x) ∧
    ∀ m : NamespaceMap, Groups sampleTargets.toList m →
      ∃ R log', (exposedByNamespaces ServiceDetails.fromServiceBackend sampleCluster m.entries
          HashSet.empty).run [] = (.ok R, log') ∧
        ∀ x, x ∈ R ↔ x ∈ sampleTargets ∧
          ExposedIn ServiceDetails.fromServiceBackend sampleCluster x.namespace x :=
  ⟨fun _ _ => sampleCluster_lists _, findWebhookServicesExposed_eq_per_target _ _ []
    fun _ _ => sampleCluster_lists _⟩

/-- A run that succeeds has listed every namespace it visited. -/
theorem lists_of_run_exposedByNamespaces_ok {entries : List (String × HashSet ServiceDetails)}
    {acc R : HashSet ServiceDetails} {log' : List ListResourcesByNamespaceRequest}
    (h : (exposedByNamespaces fromServiceBackend c entries acc).run log = (.ok R, log')) :
    ∀ e ∈ entries, c.Lists e.1 := by
  by_contra hall
  push_neg at hall
  obtain ⟨pre, e, rest, err, -, -, -, hrun⟩ :=
    run_exposedByNamespaces_of_not_lists fromServiceBackend entries acc log hall
  rw [hrun] at h
  cases h

/-- Whatever the cluster answers, a detector run that succeeds has listed every target
namespace and found exactly the targets exposed in their own namespace. -/
theorem run_findWebhookServicesExposed_of_ok {R : HashSet ServiceDetails}
    {log' : List ListResourcesByNamespaceRequest}
    (h : (findWebhookServicesExposed fromServiceBackend c services).run log = (.ok R, log')) :
    (∀ s ∈ services, c.Lists s.namespace) ∧
      ∀ x, x ∈ R ↔ x ∈ services ∧ ExposedIn fromServiceBackend c x.namespace x := by
  have hlists : ∀ s ∈ services, c.Lists s.namespace := fun s hs => by
    obtain ⟨e, he, hns, -⟩ := (groups_webhookSvcsByNamespace services).exists_entry hs
    exact hns ▸ lists_of_run_exposedByNamespaces_ok fromServiceBackend log h e he
  obtain ⟨R', log'', hrun, hR'⟩ :=
    run_findWebhookServicesExposed_of_lists fromServiceBackend services log hlists
  rw [hrun, Prod.mk.injEq, Except.ok.injEq] at h
  exact ⟨hlists, h.1 ▸ hR'⟩

/-- Over a map grouping the targets, the loop fails exactly when the listing of some target
namespace fails, and then it has issued no request after the first failing one. -/
theorem exposedByNamespaces_fails_fast_of_groups (hm : Groups services.toList m) :
    ((∃ err, ((exposedByNamespaces fromServiceBackend c m.entries HashSet.empty).run log).1 =
        .error err) ↔ ∃ s ∈ services, ¬ c.Lists s.namespace) ∧
    ∀ err log', (exposedByNamespaces fromServiceBackend c m.entries HashSet.empty).run log =
        (.error err, log') →
      ∃ pre e rest, m.entries = pre ++ e :: rest ∧ (∀ p ∈ pre, c.Lists p.1) ∧ ¬ c.Lists e.1 ∧
        log' = log ++ (pre.flatMap fun p => namespaceRequests p.1) ++ c.issuedUntilFailure e.1 := by
  have hfails : (∃ s ∈ services, ¬ c.Lists s.namespace) → ∃ e ∈ m.entries, ¬ c.Lists e.1 := by
    rintro ⟨s, hs, hns⟩
    obtain ⟨e, he, heq, -⟩ := hm.exists_entry hs
    exact ⟨e, he, heq ▸ hns⟩
  have hiff : (∃ err, ((exposedByNamespaces fromServiceBackend c m.entries HashSet.empty).run
      log).1 = .error err) ↔ ∃ s ∈ services, ¬ c.Lists s.namespace := by
    refine ⟨fun ⟨err, herr⟩ => ?_, fun h => ?_⟩
    · by_contra hall
      push_neg at hall
      obtain ⟨R, hrun, -⟩ := run_exposedByNamespaces_of_lists fromServiceBackend m.entries
        HashSet.empty log (hm.lists_of hall)
      simp [hrun] at herr
    · obtain ⟨pre, e, rest, err, -, -, -, hrun⟩ :=
        run_exposedByNamespaces_of_not_lists fromServiceBackend m.entries HashSet.empty log
          (hfails h)
      exact ⟨err, by rw [hrun]⟩
  refine ⟨hiff, fun err log' hrun => ?_⟩
  obtain ⟨pre, e, rest, err', hentries, hpre, he, hrun'⟩ :=
    run_exposedByNamespaces_of_not_lists fromServiceBackend m.entries HashSet.empty log
      (hfails (hiff.mp ⟨err, by rw [hrun]⟩))
  rw [hrun] at hrun'
  exact ⟨pre, e, rest, hentries, hpre, he, (Prod.mk.inj hrun').2⟩

/-- Fail-fast: the detector fails exactly when the listing of some target namespace fails,
and then it has issued no request after the first failing one; so as the code runs it, and
over every other map grouping the targets. -/
theorem findWebhookServicesExposed_fail_fast :
    (((∃ err, ((findWebhookServicesExposed fromServiceBackend c services).run log).1 =
        .error err) ↔ ∃ s ∈ services, ¬ c.Lists s.namespace) ∧
      ∀ err log', (findWebhookServicesExposed fromServiceBackend c services).run log =
          (.error err, log') →
        ∃ pre e rest, (webhookSvcsByNamespace services).entries = pre ++ e :: rest ∧
          (∀ p ∈ pre, c.Lists p.1) ∧ ¬ c.Lists e.1 ∧
          log' = log ++ (pre.flatMap fun p => namespaceRequests p.1) ++
            c.issuedUntilFailure e.1) ∧
    ∀ m : NamespaceMap, Groups services.toList m →
      ((∃ err, ((exposedByNamespaces fromServiceBackend c m.entries HashSet.empty).run log).1 =
          .error err) ↔ ∃ s ∈ services, ¬ c.Lists s.namespace) ∧
      ∀ err log', (exposedByNamespaces fromServiceBackend c m.entries HashSet.empty).run log =
          (.error err, log') →
        ∃ pre e rest, m.entries = pre ++ e :: rest ∧ (∀ p ∈ pre, c.Lists p.1) ∧ ¬ c.Lists e.1 ∧
          log' = log ++ (pre.flatMap fun p => namespaceRequests p.1) ++
            c.issuedUntilFailure e.1 :=
  ⟨exposedByNamespaces_fails_fast_of_groups fromServiceBackend services _ log
      (groups_webhookSvcsByNamespace services),
    fun m hm => exposedByNamespaces_fails_fast_of_groups fromServiceBackend services m log hm⟩

/-- When the Service listing of `tools`, the namespace the map visits first, fails, the
detector fails after the two requests of `tools` and never queries `system`; the failure
names a target namespace that does not list. -/
theorem findWebhookServicesExposed_fail_fast_sample :
    (findWebhookServicesExposed ServiceDetails.fromServiceBackend failingCluster
        sampleTargets).run [] =
      (.error "services of tools unavailable", namespaceRequests "tools") ∧
    (∃ s ∈ sampleTargets, ¬ failingCluster.Lists s.namespace) ∧
    ∃ pre e rest, (webhookSvcsByNamespace sampleTargets).entries = pre ++ e :: rest ∧
      (∀ p ∈ pre, failingCluster.Lists p.1) ∧ ¬ failingCluster.Lists e.1 ∧
      namespaceRequests "tools" =
        [] ++ (pre.flatMap fun p => namespaceRequests p.1) ++ failingCluster.issuedUntilFailure e.1 := by
  have hrun : (findWebhookServicesExposed ServiceDetails.fromServiceBackend failingCluster
      sampleTargets).run [] = (.error "services of tools unavailable", namespaceRequests "tools") :=
    rfl
  have h := (findWebhookServicesExposed_fail_fast ServiceDetails.fromServiceBackend
    (c := failingCluster) sampleTargets []).1
  exact ⟨hrun, h.1.mp ⟨_, by rw [hrun]⟩, h.2 _ _ hrun⟩

/-- A successful run issues the two requests of each namespace of the targets once, in the
order the map visits them. -/
theorem log_exposedByNamespaces_of_groups (hm : Groups services.toList m)
    (hlists : ∀ s ∈ services, c.Lists s.namespace) :
    ∃ nss : List String, nss.Perm (services.toList.map ServiceDetails.namespace).dedup ∧
      ((exposedByNamespaces fromServiceBackend c m.entries HashSet.empty).run log).2 =
        log ++ nss.flatMap namespaceRequests := by
  obtain ⟨R, hrun, -⟩ := run_exposedByNamespaces_of_lists fromServiceBackend m.entries
    HashSet.empty log (hm.lists_of hlists)
  exact ⟨m.keys, hm.keys_perm, by rw [hrun, HashMap.keys, List.flatMap_map]⟩

end Runs

end KubewardenPolicies
