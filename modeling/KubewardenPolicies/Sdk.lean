/-!
The parts of the policy SDK the policies call: the admission request they are given,
the response they build, and the host capability that lists the resources of one kind
in one namespace. A host call records its request and then returns the host's answer.
A failed call ends the computation, and the requests issued before it stay recorded,
so a run shows both its result and every query it made.
-/
namespace KubewardenPolicies

/-- The admission request as far as the policies read it: `kind.kind` and the object
under review, a JSON value. -/
structure KubernetesAdmissionRequest (J : Type) where
  kind : String
  object : J

/-- `ValidationRequest`: the admission request with the policy's settings. -/
structure ValidationRequest (σ J : Type) where
  request : KubernetesAdmissionRequest J
  settings : σ

/-- `ValidationResponse`, with the fields these policies set. -/
structure ValidationResponse (J : Type) where
  accepted : Bool
  message : Option String
  mutatedObject : Option J
deriving DecidableEq, Repr

section Responses

variable {J : Type}

def acceptRequest : ValidationResponse J := ⟨true, none, none⟩

def rejectRequest (message : String) : ValidationResponse J := ⟨false, some message, none⟩

def mutateRequest (mutatedObject : J) : ValidationResponse J := ⟨true, none, some mutatedObject⟩

end Responses

structure ListResourcesByNamespaceRequest where
  «namespace» : String
  apiVersion : String
  kind : String
  labelSelector : Option String
  fieldSelector : Option String
deriving DecidableEq, Repr

/-- Computations that call the host: the requests issued so far are the state, and an
error aborts what follows. -/
abbrev HostM := ExceptT String (StateM (List ListResourcesByNamespaceRequest))

/-- `list_resources_by_namespace`: record `req`, then return the host's answer `list req`. -/
def listResourcesByNamespace {α : Type}
    (list : ListResourcesByNamespaceRequest → Except String (List α))
    (req : ListResourcesByNamespaceRequest) : HostM (List α) :=
  ExceptT.mk fun log => (list req, log ++ [req])

namespace HostM

variable {α β : Type} (log : List ListResourcesByNamespaceRequest)

theorem run_bind (x : HostM α) (k : α → HostM β) :
    (x >>= k).run log = match x.run log with
      | (.ok a, log') => (k a).run log'
      | (.error e, log') => (.error e, log') := by
  change (match x.run log with | (a, s) => ExceptT.bindCont k a s) = _
  rcases x.run log with ⟨_ | _, _⟩ <;> rfl

@[simp] theorem run_pure (a : α) : (pure a : HostM α).run log = (.ok a, log) := rfl

@[simp] theorem run_map (f : α → β) (x : HostM α) :
    (f <$> x).run log = ((x.run log).1.map f, (x.run log).2) := by
  rw [map_eq_pure_bind, run_bind]
  rcases x.run log with ⟨_ | _, _⟩ <;> rfl

@[simp] theorem run_liftExcept (e : Except String α) :
    (liftExcept e : HostM α).run log = (e, log) := by
  cases e <;> rfl

@[simp] theorem run_listResourcesByNamespace
    (list : ListResourcesByNamespaceRequest → Except String (List α))
    (req : ListResourcesByNamespaceRequest) :
    (listResourcesByNamespace list req).run log = (list req, log ++ [req]) := rfl

end HostM

end KubewardenPolicies
