import KubewardenPolicies.Collections
import KubewardenPolicies.Sdk

/-!
The labels and the annotations policies. Each collects the keys of one map under the
object's `metadata` and hands them to `validate_values` of the shared criteria engine,
which is not among the sources and enters as a parameter. A failed check rejects the
request with the engine's message; the two policies differ only in the field they read.
-/
namespace KubewardenPolicies.CriteriaPolicies

/-- A `serde_json::Value`. The policies read only objects; a number keeps its integer
value, which nothing here inspects. -/
inductive Value where
  | null
  | bool (b : Bool)
  | number (n : Int)
  | string (s : String)
  | array (elems : List Value)
  | object (fields : List (String × Value))

/-- `Value::get` with a key: the field of an object, none for any other value. -/
def Value.get : Value → String → Option Value
  | .object fields, key => fields.lookup key
  | _, _ => none

def Value.asObject : Value → Option (List (String × Value))
  | .object fields => some fields
  | _ => none

@[simp] theorem Value.asObject_eq_some {v : Value} {fields : List (String × Value)} :
    v.asObject = some fields ↔ v = .object fields := by
  cases v <;> simp [Value.asObject]

variable {σ : Type} (validateValues : σ → List String → Except String Unit)

/-- `get_resource_label_keys` and `get_resource_annotation_keys`: the keys of the map
`metadata.<field>`, none when it is absent or not a map. -/
def getResourceKeys (field : String) (validationRequest : ValidationRequest σ Value) :
    HashSet String :=
  ((((validationRequest.request.object.get "metadata").bind (·.get field)).bind
    Value.asObject).map fun fields => HashSet.ofList (fields.map Prod.fst)).getD HashSet.empty

/-- `validate_labels` and `validate_annotations`: the engine's verdict on the keys, in
their iteration order, its error turned into a one-message list. -/
def validateKeys (settings : σ) (resourceKeys : HashSet String) : Except (List String) Unit :=
  (validateValues settings resourceKeys.toList).mapError fun e => [e]

/-- `validate` of either policy. -/
def validate (field : String) (validationRequest : ValidationRequest σ Value) :
    ValidationResponse Value :=
  match validateKeys validateValues validationRequest.settings
      (getResourceKeys field validationRequest) with
  | .error errors => rejectRequest (", ".intercalate errors)
  | .ok () => acceptRequest

namespace LabelsPolicy

def getResourceLabelKeys (validationRequest : ValidationRequest σ Value) : HashSet String :=
  getResourceKeys "labels" validationRequest

def validateLabels (settings : σ) (resourceLabels : HashSet String) :
    Except (List String) Unit :=
  validateKeys validateValues settings resourceLabels

def validate (validationRequest : ValidationRequest σ Value) : ValidationResponse Value :=
  CriteriaPolicies.validate validateValues "labels" validationRequest

end LabelsPolicy

namespace AnnotationsPolicy

def getResourceAnnotationKeys (validationRequest : ValidationRequest σ Value) :
    HashSet String :=
  getResourceKeys "annotations" validationRequest

def validateAnnotations (settings : σ) (resourceAnnots : HashSet String) :
    Except (List String) Unit :=
  validateKeys validateValues settings resourceAnnots

def validate (validationRequest : ValidationRequest σ Value) : ValidationResponse Value :=
  CriteriaPolicies.validate validateValues "annotations" validationRequest

end AnnotationsPolicy

variable {validateValues} {field : String} {validationRequest : ValidationRequest σ Value}

/-- The keys checked are exactly those of the map at `metadata.<field>`. -/
theorem mem_getResourceKeys {k : String} :
    k ∈ getResourceKeys field validationRequest ↔
      ∃ metadata fields, validationRequest.request.object.get "metadata" = some metadata ∧
        metadata.get field = some (.object fields) ∧ k ∈ fields.map Prod.fst := by
  unfold getResourceKeys
  cases hm : validationRequest.request.object.get "metadata" with
  | none => simp
  | some metadata =>
    cases hf : metadata.get field with
    | none => simp [hf]
    | some v => cases v <;> simp [hf, Value.asObject]

/-- A policy accepts exactly when the engine accepts the keys, and otherwise rejects with
the engine's message as it is; it never mutates. -/
theorem validate_eq_iff (response : ValidationResponse Value) :
    validate validateValues field validationRequest = response ↔
      (validateValues validationRequest.settings
          (getResourceKeys field validationRequest).toList = .ok () ∧ response = acceptRequest) ∨
      ∃ msg, validateValues validationRequest.settings
          (getResourceKeys field validationRequest).toList = .error msg ∧
        response = rejectRequest msg := by
  unfold validate validateKeys
  cases validateValues validationRequest.settings
    (getResourceKeys field validationRequest).toList with
  | error msg =>
    have hjoin : ", ".intercalate [msg] = msg := rfl
    simp [Except.mapError, hjoin, eq_comm]
  | ok u => simp [Except.mapError, eq_comm]

end KubewardenPolicies.CriteriaPolicies
