import KubewardenPolicies.Check

/-!
`validate` of the policy that keeps admission webhook services unexposed. A request for
one of the two webhook configuration kinds is decoded and the services its webhooks call
are checked; a request of any other kind is accepted at once. No exposed service accepts
the request; otherwise it is rejected with a message naming each exposed service. JSON
decoding is outside the model and enters as the two decoders. The three ways a request can
go are stated first; exposure is then read off a cluster whose listings carry the namespace
they were listed for.
-/
namespace KubewardenPolicies.WebhookPolicy

variable {σ J : Type} (fromReference : ServiceReference → ServiceDetails)
  (fromServiceBackend : String → IngressServiceBackend → ServiceDetails) (c : Cluster)
  (fromValidating fromMutating : J → Except String WebhookConfiguration)

/-- The rejection message: one `namespace/name` entry for each exposed service. -/
def rejectionMessage (exposedServices : HashSet ServiceDetails) : String :=
  "Webhook service(s) exposed by Ingress, NodePort, or LoadBalancer: " ++
    ", ".intercalate (exposedServices.toList.map fun svc => svc.namespace ++ "/" ++ svc.name)

def validate (validationRequest : ValidationRequest σ J) : HostM (ValidationResponse J) := do
  let services ← match validationRequest.request.kind with
    | "ValidatingWebhookConfiguration" => do
      let cfg ← liftExcept (fromValidating validationRequest.request.object)
      pure (cfg.getServices fromReference)
    | "MutatingWebhookConfiguration" => do
      let cfg ← liftExcept (fromMutating validationRequest.request.object)
      pure (cfg.getServices fromReference)
    | _ => return acceptRequest
  let exposedServices ← findWebhookServicesExposed fromServiceBackend c services
  if exposedServices.isEmpty then
    return acceptRequest
  return rejectRequest (rejectionMessage exposedServices)

/-- The object decodes as the webhook configuration `cfg` of the request's kind. -/
def Decodes (validationRequest : ValidationRequest σ J) (cfg : WebhookConfiguration) : Prop :=
  (validationRequest.request.kind = "ValidatingWebhookConfiguration" ∧
    fromValidating validationRequest.request.object = .ok cfg) ∨
  (validationRequest.request.kind = "MutatingWebhookConfiguration" ∧
    fromMutating validationRequest.request.object = .ok cfg)

variable {fromValidating fromMutating} (validationRequest : ValidationRequest σ J)
  (log : List ListResourcesByNamespaceRequest)

theorem run_validate_of_other_kind
    (hv : validationRequest.request.kind ≠ "ValidatingWebhookConfiguration")
    (hm : validationRequest.request.kind ≠ "MutatingWebhookConfiguration") :
    (validate fromReference fromServiceBackend c fromValidating fromMutating
      validationRequest).run log = (.ok acceptRequest, log) := by
  simp only [validate]
  rfl

theorem run_validate_of_decode_error {e : String}
    (h : (validationRequest.request.kind = "ValidatingWebhookConfiguration" ∧
        fromValidating validationRequest.request.object = .error e) ∨
      (validationRequest.request.kind = "MutatingWebhookConfiguration" ∧
        fromMutating validationRequest.request.object = .error e)) :
    (validate fromReference fromServiceBackend c fromValidating fromMutating
      validationRequest).run log = (.error e, log) := by
  rcases h with ⟨hk, hd⟩ | ⟨hk, hd⟩ <;>
    simp [validate, hk, hd, HostM.run_bind]

theorem run_validate_of_decodes {cfg : WebhookConfiguration}
    (h : Decodes fromValidating fromMutating validationRequest cfg) :
    (validate fromReference fromServiceBackend c fromValidating fromMutating
      validationRequest).run log =
      match (findWebhookServicesExposed fromServiceBackend c (cfg.getServices fromReference)).run
          log with
      | (.ok exposed, log') => (.ok (if exposed.isEmpty then acceptRequest
          else rejectRequest (rejectionMessage exposed)), log')
      | (.error e, log') => (.error e, log') := by
  rcases h with ⟨hk, hd⟩ | ⟨hk, hd⟩ <;>
  · simp only [validate, hk, hd, HostM.run_bind, HostM.run_liftExcept, HostM.run_pure]
    rcases (findWebhookServicesExposed fromServiceBackend c (cfg.getServices fromReference)).run
      log with ⟨_ | exposed, _⟩
    · rfl
    · by_cases he : exposed.isEmpty <;> simp [he, HostM.run_bind]

/-- A request is rejected only once its object has decoded. -/
theorem decodes_of_rejected {msg : String}
    (h : ((validate fromReference fromServiceBackend c fromValidating fromMutating
      validationRequest).run log).1 = .ok (rejectRequest msg)) :
    ∃ cfg, Decodes fromValidating fromMutating validationRequest cfg := by
  by_cases hv : validationRequest.request.kind = "ValidatingWebhookConfiguration"
  · rcases hd : fromValidating validationRequest.request.object with e | cfg
    · rw [run_validate_of_decode_error fromReference fromServiceBackend c validationRequest log
        (Or.inl ⟨hv, hd⟩)] at h
      cases h
    · exact ⟨cfg, Or.inl ⟨hv, hd⟩⟩
  by_cases hm : validationRequest.request.kind = "MutatingWebhookConfiguration"
  · rcases hd : fromMutating validationRequest.request.object with e | cfg
    · rw [run_validate_of_decode_error fromReference fromServiceBackend c validationRequest log
        (Or.inr ⟨hm, hd⟩)] at h
      cases h
    · exact ⟨cfg, Or.inr ⟨hm, hd⟩⟩
  rw [run_validate_of_other_kind fromReference fromServiceBackend c validationRequest log hv hm]
    at h
  simp [acceptRequest, rejectRequest] at h

theorem exists_rejectRequest_iff (exposed : HashSet ServiceDetails) :
    (∃ msg, (Except.ok (if exposed.isEmpty then acceptRequest
        else rejectRequest (rejectionMessage exposed)) : Except String (ValidationResponse J)) =
      .ok (rejectRequest msg)) ↔ ∃ x, x ∈ exposed := by
  by_cases he : exposed.isEmpty
  · simp [he, acceptRequest, rejectRequest, HashSet.isEmpty_iff.mp he]
  · simpa [he] using HashSet.isEmpty_iff.not.mp he

/-- A target `d` that the cluster makes reachable from outside: an Ingress listed for its
namespace names a backend whose service is `d`, or a NodePort or LoadBalancer Service
listed there has `d`'s name and declares `d`'s port. -/
def Reachable (d : ServiceDetails) : Prop :=
  (∃ ingresses, c.listIngresses (ingressListRequest d.namespace) = .ok ingresses ∧
    ∃ i ∈ ingresses, ∃ sp, i.spec = some sp ∧ ∃ b, sp.NamesBackend b ∧
      fromServiceBackend d.namespace b = d) ∨
  (∃ services, c.listServices (serviceListRequest d.namespace) = .ok services ∧
    ∃ v ∈ services, ∃ sp, v.spec = some sp ∧
      (sp.type = some "NodePort" ∨ sp.type = some "LoadBalancer") ∧
      v.metadata.name.getD "" = d.name ∧
      ∃ ports, sp.ports = some ports ∧ ∃ p ∈ ports, d.portNumber = some p.port)

section Exposure

variable {fromServiceBackend} {c}

theorem exposedIn_own_namespace_iff (hc : c.ListsOwnNamespace) (d : ServiceDetails) :
    ExposedIn fromServiceBackend c d.namespace d ↔ Reachable fromServiceBackend c d := by
  obtain ⟨hingresses, hservices⟩ := hc
  unfold ExposedIn Reachable
  refine or_congr (exists_congr fun ingresses => and_congr_right fun hl => ?_)
    (exists_congr fun services => and_congr_right fun hl => ?_)
  · refine exists_congr fun i => and_congr_right fun hi => ?_
    cases hsp : i.spec with
    | none => simp [getServices_ingress_of_spec_none _ hsp]
    | some sp =>
      rw [mem_getServices_ingress_of_spec _ hsp, hingresses _ _ hl i hi, Option.getD_some]
      simp only [Option.some.injEq, exists_eq_left']
      exact exists_congr fun _ => and_congr_right fun _ => eq_comm
  · refine exists_congr fun v => and_congr_right fun hv => ?_
    rw [mem_getServices_service, hservices _ _ hl v hv, Option.getD_some]
    rcases hspec : v.spec with _ | sp
    · simp [Service.IsNodePortOrLoadBalancer, hspec]
    · simp only [Service.IsNodePortOrLoadBalancer, hspec, Option.some.injEq, exists_eq_left',
        ServiceDetails.ext_iff, true_and, exists_and_left, eq_comm, and_left_comm]
      aesop

end Exposure

/-- A validating configuration whose two webhooks call `system/hook` on two ports. -/
def sampleConfiguration : WebhookConfiguration :=
  ⟨some [⟨⟨some ⟨"hook", "system", some 443⟩⟩⟩, ⟨⟨some ⟨"hook", "system", some 8443⟩⟩⟩]⟩

def sampleRequest : ValidationRequest Unit Unit := ⟨⟨"ValidatingWebhookConfiguration", ()⟩, ()⟩

/-- End-to-end decision: a webhook configuration request is rejected exactly when one of
its webhooks calls a service that an Ingress of that service's namespace routes to, or
that a NodePort or LoadBalancer Service there publishes under its name and called port. -/
theorem validate_rejects_iff_exposed (cfg : WebhookConfiguration)
    (hdecodes : Decodes fromValidating fromMutating validationRequest cfg)
    (hlists : ∀ ns, c.Lists ns) (hnamespaces : c.ListsOwnNamespace) :
    (∃ msg, ((validate fromReference fromServiceBackend c fromValidating fromMutating
      validationRequest).run log).1 = .ok (rejectRequest msg)) ↔
    ∃ webhooks, cfg.webhooks = some webhooks ∧ ∃ webhook ∈ webhooks, ∃ r,
      webhook.clientConfig.service = some r ∧ Reachable fromServiceBackend c (fromReference r) := by
  obtain ⟨R, log', hrun, hR⟩ := run_findWebhookServicesExposed_of_lists fromServiceBackend
    (cfg.getServices fromReference) log fun _ _ => hlists _
  rw [run_validate_of_decodes fromReference fromServiceBackend c validationRequest log hdecodes,
    hrun, exists_rejectRequest_iff]
  simp only [hR, mem_getServices_webhookConfiguration,
    exposedIn_own_namespace_iff hnamespaces]
  constructor
  · rintro ⟨_, ⟨webhooks, hw, webhook, hmem, r, hr, rfl⟩, hx⟩
    exact ⟨webhooks, hw, webhook, hmem, r, hr, hx⟩
  · rintro ⟨webhooks, hw, webhook, hmem, r, hr, hx⟩
    exact ⟨_, ⟨webhooks, hw, webhook, hmem, r, hr, rfl⟩, hx⟩

theorem validate_rejects_iff_exposed_sample :
    Decodes (fun _ => .ok sampleConfiguration) (fun _ => .ok sampleConfiguration) sampleRequest
      sampleConfiguration ∧
    (∀ ns, sampleCluster.Lists ns) ∧ sampleCluster.ListsOwnNamespace ∧
    ((∃ msg, ((validate ServiceDetails.ofServiceReference ServiceDetails.fromServiceBackend
      sampleCluster (fun _ => .ok sampleConfiguration) (fun _ => .ok sampleConfiguration)
      sampleRequest).run []).1 = .ok (rejectRequest msg)) ↔
    ∃ webhooks, sampleConfiguration.webhooks = some webhooks ∧ ∃ webhook ∈ webhooks, ∃ r,
      webhook.clientConfig.service = some r ∧
      Reachable ServiceDetails.fromServiceBackend sampleCluster (ServiceDetails.ofServiceReference r)) :=
  ⟨Or.inl ⟨rfl, rfl⟩, sampleCluster_lists, sampleCluster_listsOwnNamespace,
    validate_rejects_iff_exposed _ _ _ _ [] _ (Or.inl ⟨rfl, rfl⟩) sampleCluster_lists
      sampleCluster_listsOwnNamespace⟩

/-- Whatever the cluster answers, a webhook configuration request issues each list request
at most once, and only the Ingress and Service list requests of its targets' namespaces; when
those all list, it issues exactly one of each for every distinct namespace. -/
theorem validate_host_requests {cfg : WebhookConfiguration}
    (hdecodes : Decodes fromValidating fromMutating validationRequest cfg) :
    ∃ issued, ((validate fromReference fromServiceBackend c fromValidating fromMutating
        validationRequest).run log).2 = log ++ issued ∧ issued.Nodup ∧
      (∀ req ∈ issued, ∃ d ∈ cfg.getServices fromReference,
        req = ingressListRequest d.namespace ∨ req = serviceListRequest d.namespace) ∧
      ((∀ d ∈ cfg.getServices fromReference, c.Lists d.namespace) →
        ∃ nss : List String,
          nss.Perm ((cfg.getServices fromReference).toList.map ServiceDetails.namespace).dedup ∧
          issued = nss.flatMap namespaceRequests) := by
  have hm := groups_webhookSvcsByNamespace (cfg.getServices fromReference)
  obtain ⟨issued, hlog, hpre⟩ := log_exposedByNamespaces_prefix fromServiceBackend
    (webhookSvcsByNamespace (cfg.getServices fromReference)).entries HashSet.empty log
  rw [← List.flatMap_map (g := namespaceRequests)] at hpre
  have hval : ((validate fromReference fromServiceBackend c fromValidating fromMutating
      validationRequest).run log).2 =
      ((findWebhookServicesExposed fromServiceBackend c (cfg.getServices fromReference)).run
        log).2 := by
    rw [run_validate_of_decodes fromReference fromServiceBackend c validationRequest log hdecodes]
    rcases (findWebhookServicesExposed fromServiceBackend c (cfg.getServices fromReference)).run
      log with ⟨_ | _, _⟩ <;> rfl
  refine ⟨issued, hval.trans hlog,
    List.Nodup.sublist hpre.sublist (nodup_flatMap_namespaceRequests (HashMap.nodupKeys _)),
    fun req hreq => ?_, fun hlists => ?_⟩
  · obtain ⟨ns, hns, hreq⟩ := mem_flatMap_namespaceRequests.mp (hpre.sublist.subset hreq)
    obtain ⟨d, hd, rfl⟩ := (hm.mem_keys ns).mp hns
    exact ⟨d, hd, hreq⟩
  · obtain ⟨nss, hperm, hlog'⟩ :=
      log_exposedByNamespaces_of_groups fromServiceBackend _ _ log hm hlists
    exact ⟨nss, hperm, List.append_cancel_left (hlog.symm.trans hlog')⟩

theorem validate_host_requests_sample :
    Decodes (fun _ => .ok sampleConfiguration) (fun _ => .ok sampleConfiguration) sampleRequest
      sampleConfiguration ∧
    ∃ issued, ((validate ServiceDetails.ofServiceReference ServiceDetails.fromServiceBackend
        sampleCluster (fun _ => .ok sampleConfiguration) (fun _ => .ok sampleConfiguration)
        sampleRequest).run []).2 = [] ++ issued ∧ issued.Nodup ∧
      (∀ req ∈ issued, ∃ d ∈ sampleConfiguration.getServices ServiceDetails.ofServiceReference,
        req = ingressListRequest d.namespace ∨ req = serviceListRequest d.namespace) ∧
      ((∀ d ∈ sampleConfiguration.getServices ServiceDetails.ofServiceReference,
          sampleCluster.Lists d.namespace) →
        ∃ nss : List String,
          nss.Perm ((sampleConfiguration.getServices ServiceDetails.ofServiceReference).toList.map
            ServiceDetails.namespace).dedup ∧
          issued = nss.flatMap namespaceRequests) := by
  have hd : Decodes (fun _ => .ok sampleConfiguration) (fun _ => .ok sampleConfiguration)
      sampleRequest sampleConfiguration := Or.inl ⟨rfl, rfl⟩
  exact ⟨hd, validate_host_requests _ _ _ _ [] hd⟩

/-- Whatever the cluster answers, an answer to a webhook configuration request is right:
every target namespace was listed, and the request is accepted when no target is exposed in
its namespace and rejected when one is. A failed listing never ends in an answer. -/
theorem validate_answer_sound {cfg : WebhookConfiguration}
    (hdecodes : Decodes fromValidating fromMutating validationRequest cfg)
    {response : ValidationResponse J}
    (h : ((validate fromReference fromServiceBackend c fromValidating fromMutating
      validationRequest).run log).1 = .ok response) :
    (∀ d ∈ cfg.getServices fromReference, c.Lists d.namespace) ∧
    ((response = acceptRequest ∧
        ∀ d ∈ cfg.getServices fromReference, ¬ ExposedIn fromServiceBackend c d.namespace d) ∨
      ((∃ msg, response = rejectRequest msg) ∧
        ∃ d ∈ cfg.getServices fromReference, ExposedIn fromServiceBackend c d.namespace d)) := by
  rw [run_validate_of_decodes fromReference fromServiceBackend c validationRequest log hdecodes]
    at h
  rcases hf : (findWebhookServicesExposed fromServiceBackend c
    (cfg.getServices fromReference)).run log with ⟨_ | exposed, log'⟩ <;> rw [hf] at h
  · cases h
  · obtain ⟨hlists, hR⟩ := run_findWebhookServicesExposed_of_ok fromServiceBackend _ log hf
    refine ⟨hlists, ?_⟩
    obtain rfl := Except.ok.inj h
    by_cases he : exposed.isEmpty
    · exact .inl ⟨if_pos he, fun d hd hexp =>
        HashSet.isEmpty_iff.mp he d ((hR d).mpr ⟨hd, hexp⟩)⟩
    · obtain ⟨d, hd⟩ : ∃ d, d ∈ exposed := by simpa using HashSet.isEmpty_iff.not.mp he
      exact .inr ⟨⟨_, if_neg he⟩, d, ((hR d).mp hd)⟩

theorem validate_answer_sound_sample :
    Decodes (fun _ => .ok sampleConfiguration) (fun _ => .ok sampleConfiguration) sampleRequest
      sampleConfiguration ∧
    ((validate ServiceDetails.ofServiceReference ServiceDetails.fromServiceBackend sampleCluster
      (fun _ => .ok sampleConfiguration) (fun _ => .ok sampleConfiguration) sampleRequest).run
        []).1 = .ok (rejectRequest "Webhook service(s) exposed by Ingress, NodePort, or LoadBalancer: system/hook, system/hook") ∧
    (∀ d ∈ sampleConfiguration.getServices ServiceDetails.ofServiceReference,
      sampleCluster.Lists d.namespace) ∧
    (((rejectRequest "Webhook service(s) exposed by Ingress, NodePort, or LoadBalancer: system/hook, system/hook" : ValidationResponse Unit) = acceptRequest ∧
        ∀ d ∈ sampleConfiguration.getServices ServiceDetails.ofServiceReference,
          ¬ ExposedIn ServiceDetails.fromServiceBackend sampleCluster d.namespace d) ∨
      ((∃ msg, (rejectRequest "Webhook service(s) exposed by Ingress, NodePort, or LoadBalancer: system/hook, system/hook" : ValidationResponse Unit) = rejectRequest msg) ∧
        ∃ d ∈ sampleConfiguration.getServices ServiceDetails.ofServiceReference,
          ExposedIn ServiceDetails.fromServiceBackend sampleCluster d.namespace d)) :=
  by
  have hd : Decodes (fun _ => .ok sampleConfiguration) (fun _ => .ok sampleConfiguration)
      sampleRequest sampleConfiguration := Or.inl ⟨rfl, rfl⟩
  exact ⟨hd, rfl, validate_answer_sound _ _ _ _ [] hd rfl⟩

/-- A rejection lists one `namespace/name` entry for each exposed service, so a service
exposed on two of its called ports is named twice. -/
theorem validate_rejection_message {msg : String}
    (h : ((validate fromReference fromServiceBackend c fromValidating fromMutating
      validationRequest).run log).1 = .ok (rejectRequest msg)) :
    ∃ cfg exposed log', Decodes fromValidating fromMutating validationRequest cfg ∧
      (findWebhookServicesExposed fromServiceBackend c (cfg.getServices fromReference)).run log =
        (.ok exposed, log') ∧ exposed.toList ≠ [] ∧
      msg = "Webhook service(s) exposed by Ingress, NodePort, or LoadBalancer: " ++
        ", ".intercalate (exposed.toList.map fun e => e.namespace ++ "/" ++ e.name) := by
  obtain ⟨cfg, hcfg⟩ := decodes_of_rejected fromReference fromServiceBackend c validationRequest log h
  rw [run_validate_of_decodes fromReference fromServiceBackend c validationRequest log hcfg] at h
  rcases hf : (findWebhookServicesExposed fromServiceBackend c
    (cfg.getServices fromReference)).run log with ⟨_ | exposed, log'⟩ <;> rw [hf] at h
  · cases h
  · by_cases he : exposed.isEmpty
    · simp [he, acceptRequest, rejectRequest] at h
    · dsimp only at h
      rw [if_neg he] at h
      have hmsg : rejectionMessage exposed = msg := by simpa [rejectRequest] using h
      refine ⟨cfg, exposed, log', hcfg, hf, fun hnil => he ?_, hmsg ▸ rfl⟩
      simp [HashSet.isEmpty, hnil]

theorem validate_rejection_message_sample :
    ((validate ServiceDetails.ofServiceReference ServiceDetails.fromServiceBackend sampleCluster
      (fun _ => .ok sampleConfiguration) (fun _ => .ok sampleConfiguration) sampleRequest).run
        []).1 =
      .ok (rejectRequest
        "Webhook service(s) exposed by Ingress, NodePort, or LoadBalancer: system/hook, system/hook") ∧
    ∃ cfg exposed log', Decodes (fun _ => .ok sampleConfiguration)
        (fun _ => .ok sampleConfiguration) sampleRequest cfg ∧
      (findWebhookServicesExposed ServiceDetails.fromServiceBackend sampleCluster
        (cfg.getServices ServiceDetails.ofServiceReference)).run [] = (.ok exposed, log') ∧
      exposed.toList ≠ [] ∧
      "Webhook service(s) exposed by Ingress, NodePort, or LoadBalancer: system/hook, system/hook" =
        "Webhook service(s) exposed by Ingress, NodePort, or LoadBalancer: " ++
          ", ".intercalate (exposed.toList.map fun e => e.namespace ++ "/" ++ e.name) :=
  ⟨rfl, validate_rejection_message _ _ _ _ [] rfl⟩

/-- Two webhooks call `system/hook` on two ports that one NodePort Service publishes: the
rejection names `system/hook` twice. -/
theorem validate_repeats_service_per_port :
    ((validate ServiceDetails.ofServiceReference ServiceDetails.fromServiceBackend sampleCluster
      (fun _ => .ok sampleConfiguration) (fun _ => .ok sampleConfiguration) sampleRequest).run
        []).1 =
      .ok (rejectRequest
        "Webhook service(s) exposed by Ingress, NodePort, or LoadBalancer: system/hook, system/hook") :=
  rfl

end KubewardenPolicies.WebhookPolicy
