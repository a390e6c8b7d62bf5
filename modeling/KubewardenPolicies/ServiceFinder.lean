import KubewardenPolicies.Collections
import KubewardenPolicies.Resources

/-!
`ServiceFinder::get_services` for the three kinds of object the webhook policy reads.
A webhook configuration yields the services its webhooks call, an Ingress the backend
services it routes to, and a Service one triple per declared port. The two
constructors of `ServiceDetails` are parameters here: the sources do not hold them.
-/
namespace KubewardenPolicies

variable (fromReference : ServiceReference → ServiceDetails)
  (fromServiceBackend : String → IngressServiceBackend → ServiceDetails)

/-- `get_services` of a webhook configuration: the service of each webhook whose client
config names one; webhooks called by URL are skipped. -/
def WebhookConfiguration.getServices (cfg : WebhookConfiguration) : HashSet ServiceDetails :=
  (cfg.webhooks.map fun webhooks =>
    HashSet.ofList (webhooks.filterMap fun webhook =>
      webhook.clientConfig.service.map fromReference)).getD HashSet.empty

/-- `get_services` of an Ingress: the default backend's service, then the backend
services of the http paths of every rule, all in the Ingress's own namespace. -/
def Ingress.getServices (i : Ingress) : HashSet ServiceDetails :=
  match i.spec with
  | none => HashSet.empty
  | some spec =>
    let ns := i.metadata.namespace.getD ""
    let services :=
      if let some serviceBackend := spec.defaultBackend.bind IngressBackend.service then
        HashSet.empty.insert (fromServiceBackend ns serviceBackend)
      else HashSet.empty
    match spec.rules with
    | none => services
    | some rules =>
      rules.foldl (fun services rule =>
        let ingressSvcs := (rule.http.map fun http =>
          http.paths.filterMap fun path => path.backend.service).getD []
        services.extend (ingressSvcs.map (fromServiceBackend ns))) services

/-- `get_services` of a Service: its name and namespace with each declared port. -/
def Service.getServices (v : Service) : HashSet ServiceDetails :=
  let ns := v.metadata.namespace.getD ""
  if let some spec := v.spec then
    if let some ports := spec.ports then
      ports.foldl (fun services port =>
        services.insert ⟨v.metadata.name.getD "", ns, some port.port⟩) HashSet.empty
    else HashSet.empty
  else HashSet.empty

/-- The backend services an Ingress spec names: the default backend's, and that of every
path of the http value of every rule. -/
def IngressSpec.NamesBackend (sp : IngressSpec) (b : IngressServiceBackend) : Prop :=
  (∃ d, sp.defaultBackend = some d ∧ d.service = some b) ∨
    ∃ rules, sp.rules = some rules ∧ ∃ rule ∈ rules, ∃ http, rule.http = some http ∧
      ∃ path ∈ http.paths, path.backend.service = some b

theorem mem_getServices_webhookConfiguration {cfg : WebhookConfiguration}
    {x : ServiceDetails} :
    x ∈ cfg.getServices fromReference ↔
      ∃ webhooks, cfg.webhooks = some webhooks ∧ ∃ webhook ∈ webhooks,
        ∃ r, webhook.clientConfig.service = some r ∧ fromReference r = x := by
  rcases cfg with ⟨_ | webhooks⟩
  · simp [WebhookConfiguration.getServices]
  · simp [WebhookConfiguration.getServices, List.mem_filterMap]

private theorem mem_ruleBackends {rule : IngressRule} {b : IngressServiceBackend} :
    b ∈ (rule.http.map fun http => http.paths.filterMap fun path => path.backend.service).getD [] ↔
      ∃ http, rule.http = some http ∧ ∃ path ∈ http.paths, path.backend.service = some b := by
  cases rule.http <;> simp [List.mem_filterMap]

@[simp] theorem getServices_ingress_of_spec_none {i : Ingress} (h : i.spec = none) :
    i.getServices fromServiceBackend = HashSet.empty := by
  simp [Ingress.getServices, h]

/-- An Ingress with a spec yields the service of each backend its spec names, in the
Ingress's own namespace. -/
theorem mem_getServices_ingress_of_spec {i : Ingress} {sp : IngressSpec} (h : i.spec = some sp)
    {x : ServiceDetails} :
    x ∈ i.getServices fromServiceBackend ↔
      ∃ b, sp.NamesBackend b ∧ x = fromServiceBackend (i.metadata.namespace.getD "") b := by
  obtain ⟨meta, spec⟩ := i
  obtain rfl : spec = some sp := h
  obtain ⟨defaultBackend, rules⟩ := sp
  simp only [Ingress.getServices, IngressSpec.NamesBackend, ← Option.bind_eq_some]
  generalize defaultBackend.bind IngressBackend.service = d₀
  generalize meta.namespace.getD "" = ns
  cases rules with
  | none => cases d₀ <;> simp [eq_comm]
  | some rules =>
    dsimp only
    rw [HashSet.mem_foldl_extend]
    have hrules : (∃ rule ∈ rules, x ∈ ((rule.http.map fun http =>
          http.paths.filterMap fun path => path.backend.service).getD []).map
            (fromServiceBackend ns)) ↔
        ∃ b, (∃ rule ∈ rules, ∃ http, rule.http = some http ∧
          ∃ path ∈ http.paths, path.backend.service = some b) ∧ x = fromServiceBackend ns b := by
      simp only [List.mem_map, mem_ruleBackends]
      exact ⟨fun ⟨rule, hrule, b, hb, h⟩ => ⟨b, ⟨rule, hrule, hb⟩, h.symm⟩,
        fun ⟨b, ⟨rule, hrule, hb⟩, h⟩ => ⟨rule, hrule, b, hb, h.symm⟩⟩
    rw [hrules]
    cases d₀ <;> simp [or_and_right, exists_or, eq_comm]

/-- Ingress extraction collects the service of every backend the Ingress names, rules
without http contributing nothing and absent rules keeping the default backend. -/
theorem mem_getServices_ingress_iff (i : Ingress) (x : ServiceDetails) :
    x ∈ i.getServices fromServiceBackend ↔
      ∃ sp, i.spec = some sp ∧ ∃ b, sp.NamesBackend b ∧
        x = fromServiceBackend (i.metadata.namespace.getD "") b := by
  cases h : i.spec with
  | none => simp [getServices_ingress_of_spec_none fromServiceBackend h]
  | some sp => simp [mem_getServices_ingress_of_spec fromServiceBackend h]

theorem mem_getServices_service {v : Service} {x : ServiceDetails} :
    x ∈ v.getServices ↔ ∃ sp ports, v.spec = some sp ∧ sp.ports = some ports ∧
      ∃ p ∈ ports, x = ⟨v.metadata.name.getD "", v.metadata.namespace.getD "", some p.port⟩ := by
  rcases v with ⟨meta, _ | ⟨type, _ | ports⟩⟩ <;> simp [Service.getServices, HashSet.mem_foldl_insert]

/-- Service extraction is this service crossed with its ports: one triple per distinct
port number. -/
theorem getServices_service_cross_ports (v : Service) :
    (∀ x, x ∈ v.getServices ↔ ∃ sp ports, v.spec = some sp ∧ sp.ports = some ports ∧
      ∃ p ∈ ports, x = ⟨v.metadata.name.getD "", v.metadata.namespace.getD "", some p.port⟩) ∧
    ∀ sp ports, v.spec = some sp → sp.ports = some ports →
      v.getServices.len = (ports.map ServicePort.port).toFinset.card := by
  refine ⟨fun x => mem_getServices_service, fun sp ports hsp hports => ?_⟩
  let mk : Int → ServiceDetails := fun n =>
    ⟨v.metadata.name.getD "", v.metadata.namespace.getD "", some n⟩
  have hmk : Function.Injective mk := fun a b h => by simpa [mk] using h
  rw [HashSet.len_eq_card (t := (ports.map ServicePort.port).toFinset.image mk),
    Finset.card_image_of_injective _ hmk]
  intro x
  simp only [mem_getServices_service, hsp, hports, Option.some.injEq, exists_and_left,
    exists_eq_left', Finset.mem_image, List.mem_toFinset, List.mem_map, exists_exists_and_eq_and]
  exact exists_congr fun p => and_congr_right fun _ => eq_comm

end KubewardenPolicies
