/-!
The Kubernetes objects the webhook policy reads, with only the fields it reads:
the service references of a webhook configuration's client configs, the default
backend and rule paths of an Ingress, and the type and ports of a Service.
`ServiceDetails`, the triple every comparison is made on, is declared in a file
that is not among the sources; it and its two constructors follow the spec.
-/
namespace KubewardenPolicies

structure ObjectMeta where
  name : Option String
  «namespace» : Option String
deriving DecidableEq, Repr

structure ServiceReference where
  name : String
  «namespace» : String
  port : Option Int
deriving DecidableEq, Repr

structure WebhookClientConfig where
  service : Option ServiceReference
deriving DecidableEq, Repr

/-- A `ValidatingWebhook` or a `MutatingWebhook`: they differ only in fields the policy
does not read. -/
structure Webhook where
  clientConfig : WebhookClientConfig
deriving DecidableEq, Repr

/-- A `ValidatingWebhookConfiguration` or a `MutatingWebhookConfiguration`. -/
structure WebhookConfiguration where
  webhooks : Option (List Webhook)
deriving DecidableEq, Repr

structure ServiceBackendPort where
  number : Option Int
deriving DecidableEq, Repr

structure IngressServiceBackend where
  name : String
  port : Option ServiceBackendPort
deriving DecidableEq, Repr

structure IngressBackend where
  service : Option IngressServiceBackend
deriving DecidableEq, Repr

structure HTTPIngressPath where
  backend : IngressBackend
deriving DecidableEq, Repr

structure HTTPIngressRuleValue where
  paths : List HTTPIngressPath
deriving DecidableEq, Repr

structure IngressRule where
  http : Option HTTPIngressRuleValue
deriving DecidableEq, Repr

structure IngressSpec where
  defaultBackend : Option IngressBackend
  rules : Option (List IngressRule)
deriving DecidableEq, Repr

structure Ingress where
  metadata : ObjectMeta
  spec : Option IngressSpec
deriving DecidableEq, Repr

structure ServicePort where
  port : Int
deriving DecidableEq, Repr

structure ServiceSpec where
  type : Option String
  ports : Option (List ServicePort)
deriving DecidableEq, Repr

structure Service where
  metadata : ObjectMeta
  spec : Option ServiceSpec
deriving DecidableEq, Repr

/-- Modelled from the spec: `service_details.rs` is not among the sources. The unit of
comparison, `{namespace, name, port}`, equal only when all three fields are; an absent
port is a value of its own. -/
@[ext] structure ServiceDetails where
  name : String
  «namespace» : String
  portNumber : Option Int
deriving DecidableEq, Repr

/-- Modelled from the spec: `From<&ServiceReference>` for `ServiceDetails` is not among the
sources. Namespace and name come from the reference and the port is taken verbatim. -/
def ServiceDetails.ofServiceReference (r : ServiceReference) : ServiceDetails :=
  ⟨r.name, r.namespace, r.port⟩

/-- Modelled from the spec: `ServiceDetails::from_service_backend` is not among the sources.
The namespace is the Ingress's own; a port given by name has no number. -/
def ServiceDetails.fromServiceBackend (ns : String) (b : IngressServiceBackend) :
    ServiceDetails :=
  ⟨b.name, ns, b.port.bind ServiceBackendPort.number⟩

end KubewardenPolicies
