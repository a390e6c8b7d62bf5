import KubewardenPolicies.Collections
import KubewardenPolicies.Resources
import KubewardenPolicies.ServiceFinder
import KubewardenPolicies.Sdk
import KubewardenPolicies.Check
import KubewardenPolicies.WebhookPolicy
import KubewardenPolicies.PodNdots
import KubewardenPolicies.CriteriaPolicies
