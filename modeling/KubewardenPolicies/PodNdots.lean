import Mathlib.Data.Option.Defs
import KubewardenPolicies.Sdk

/-!
The pod `ndots` policy. `enforce_ndots` sets the value of every `ndots` DNS option of a
pod spec to the configured one, in place, and appends such an option when there is none;
the other options, their order and every other field of the spec are kept. A spec is
left as it is exactly when it is already compliant, and `validate` mutates a pod exactly
when its spec is not. JSON (de)serialization enters as the two conversions.
-/
namespace KubewardenPolicies.PodNdots

/-- The policy settings. `settings.rs` is not among the sources; `lib.rs` reads only
`ndots`, a count it prints in decimal. -/
structure Settings where
  ndots : Nat
deriving DecidableEq, Repr

structure PodDNSConfigOption where
  name : Option String
  value : Option String
deriving DecidableEq, Repr

structure PodDNSConfig where
  nameservers : Option (List String)
  options : Option (List PodDNSConfigOption)
  searches : Option (List String)
deriving DecidableEq, Repr

/-- A `PodSpec`: its DNS config, and in `rest` every other field, which the policy copies. -/
structure PodSpec (ρ : Type) where
  dnsConfig : Option PodDNSConfig
  rest : ρ
deriving DecidableEq, Repr

/-- `PodSpec::default()`: no DNS config. -/
instance {ρ : Type} [Inhabited ρ] : Inhabited (PodSpec ρ) := ⟨⟨none, default⟩⟩

/-- A `Pod`: its spec, and in `rest` its metadata and status. -/
structure Pod (ρ π : Type) where
  spec : Option (PodSpec ρ)
  rest : π

/-- The option `enforce_ndots` writes: `ndots` with the configured value. -/
def ndotsOption (settings : Settings) : PodDNSConfigOption :=
  ⟨some "ndots", some (toString settings.ndots)⟩

/-- The closure `enforce_ndots` maps over the options: an `ndots` option is replaced. -/
def rewriteNdots (settings : Settings) (option : PodDNSConfigOption) : PodDNSConfigOption :=
  if option.name = some "ndots" then ndotsOption settings else option

/-- The DNS options `enforce_ndots` writes, from those it reads: each `ndots` option
rewritten in place, and one appended when there is none. -/
def enforceNdotsOptions (settings : Settings) (options : List PodDNSConfigOption) :
    List PodDNSConfigOption :=
  let dnsOptions := options.map (rewriteNdots settings)
  if dnsOptions.all fun option => option.name ≠ some "ndots" then
    dnsOptions ++ [ndotsOption settings]
  else dnsOptions

variable {ρ : Type}

def enforceNdots (settings : Settings) (podspec : PodSpec ρ) : PodSpec ρ :=
  let dnsOptions :=
    enforceNdotsOptions settings ((podspec.dnsConfig.bind PodDNSConfig.options).getD [])
  { podspec with
    dnsConfig := some ⟨podspec.dnsConfig.bind PodDNSConfig.nameservers, some dnsOptions,
      podspec.dnsConfig.bind PodDNSConfig.searches⟩ }

/-- Every `ndots` option of `options` has `value`, and there is one. -/
def NdotsSet (value : String) (options : List PodDNSConfigOption) : Prop :=
  (∃ o ∈ options, o.name = some "ndots") ∧
    ∀ o ∈ options, o.name = some "ndots" → o.value = some value

instance (value : String) (options : List PodDNSConfigOption) :
    Decidable (NdotsSet value options) :=
  inferInstanceAs (Decidable (_ ∧ _))

/-- A spec the policy accepts as it is: its DNS options set `ndots`, and only to the
configured value. -/
def Compliant (settings : Settings) (podspec : PodSpec ρ) : Prop :=
  ∃ c, podspec.dnsConfig = some c ∧ ∃ options, c.options = some options ∧
    NdotsSet (toString settings.ndots) options

instance (settings : Settings) (podspec : PodSpec ρ) : Decidable (Compliant settings podspec) :=
  inferInstanceAs (Decidable (∃ _, _))

section Options

variable (settings : Settings) {options : List PodDNSConfigOption}

@[simp] theorem name_rewriteNdots (option : PodDNSConfigOption) :
    (rewriteNdots settings option).name = some "ndots" ↔ option.name = some "ndots" := by
  unfold rewriteNdots
  split <;> simp [ndotsOption, *]

theorem rewriteNdots_eq_self {option : PodDNSConfigOption}
    (h : option.name = some "ndots" → option.value = some (toString settings.ndots)) :
    rewriteNdots settings option = option := by
  unfold rewriteNdots
  split
  · rcases option with ⟨name, value⟩
    simp_all [ndotsOption]
  · rfl

/-- After the rewrite, every `ndots` option carries the configured value. -/
theorem value_of_mem_map_rewriteNdots {o : PodDNSConfigOption}
    (ho : o ∈ options.map (rewriteNdots settings)) (hname : o.name = some "ndots") :
    o.value = some (toString settings.ndots) := by
  obtain ⟨option, -, rfl⟩ := List.mem_map.mp ho
  unfold rewriteNdots at hname ⊢
  split
  · rfl
  · simp_all

/-- What `enforce_ndots` does to the options, case by case. -/
theorem enforceNdotsOptions_eq :
    enforceNdotsOptions settings options =
      if ∃ o ∈ options, o.name = some "ndots" then options.map (rewriteNdots settings)
      else options.map (rewriteNdots settings) ++ [ndotsOption settings] := by
  by_cases h : ∃ o ∈ options, o.name = some "ndots" <;>
    simp [enforceNdotsOptions, h]

theorem ndotsSet_enforceNdotsOptions :
    NdotsSet (toString settings.ndots) (enforceNdotsOptions settings options) := by
  rw [enforceNdotsOptions_eq]
  split
  · rename_i h
    obtain ⟨o, ho, hname⟩ := h
    exact ⟨⟨_, List.mem_map_of_mem _ ho, (name_rewriteNdots settings o).mpr hname⟩,
      fun o ho => value_of_mem_map_rewriteNdots settings ho⟩
  · refine ⟨⟨_, List.mem_append_right _ (List.mem_singleton_self _), rfl⟩, fun o ho hname => ?_⟩
    rcases List.mem_append.mp ho with ho | ho
    · exact value_of_mem_map_rewriteNdots settings ho hname
    · rw [List.mem_singleton.mp ho]
      rfl

theorem enforceNdotsOptions_of_ndotsSet (h : NdotsSet (toString settings.ndots) options) :
    enforceNdotsOptions settings options = options := by
  rw [enforceNdotsOptions_eq, if_pos h.1]
  exact (List.map_congr_left fun o ho => rewriteNdots_eq_self settings (h.2 o ho)).trans
    (List.map_id' options)

theorem length_enforceNdotsOptions :
    (enforceNdotsOptions settings options).length =
      options.length + if ∃ o ∈ options, o.name = some "ndots" then 0 else 1 := by
  rw [enforceNdotsOptions_eq]
  split <;> simp

theorem getElem?_enforceNdotsOptions {i : Nat} {o : PodDNSConfigOption}
    (h : options[i]? = some o) :
    (enforceNdotsOptions settings options)[i]? = some (rewriteNdots settings o) := by
  have hi : i < (options.map (rewriteNdots settings)).length := by
    rw [List.length_map]
    exact (List.getElem?_eq_some_iff.mp h).1
  rw [enforceNdotsOptions_eq]
  split <;> simp [List.getElem?_append_left hi, h]

theorem getElem?_length_enforceNdotsOptions (h : ¬ ∃ o ∈ options, o.name = some "ndots") :
    (enforceNdotsOptions settings options)[options.length]? = some (ndotsOption settings) := by
  rw [enforceNdotsOptions_eq, if_neg h]
  simp [List.getElem?_append_right]

end Options

section Enforce

variable (settings : Settings) (podspec : PodSpec ρ)

theorem compliant_enforceNdots : Compliant settings (enforceNdots settings podspec) :=
  ⟨_, rfl, _, rfl, ndotsSet_enforceNdotsOptions settings⟩

theorem enforceNdots_eq_self_iff : enforceNdots settings podspec = podspec ↔ Compliant settings podspec := by
  constructor
  · intro h
    rw [← h]
    exact compliant_enforceNdots settings podspec
  · rintro ⟨c, hc, options, hoptions, hset⟩
    rcases podspec with ⟨_, rest⟩
    rcases c with ⟨nameservers, _, searches⟩
    simp only at hc hoptions
    subst hc hoptions
    simp [enforceNdots, enforceNdotsOptions_of_ndotsSet settings hset]

end Enforce

/-- `enforce_ndots` rewrites only the `ndots` options, in place: every other field of the
spec, the nameservers and searches, and the other options in their order are kept, and an
`ndots` option is appended only when there was none. -/
theorem enforceNdots_rewrites_only_ndots (settings : Settings) (podspec : PodSpec ρ) :
    let options := (podspec.dnsConfig.bind PodDNSConfig.options).getD []
    (enforceNdots settings podspec).rest = podspec.rest ∧
    ∃ c', (enforceNdots settings podspec).dnsConfig = some c' ∧
      c'.nameservers = podspec.dnsConfig.bind PodDNSConfig.nameservers ∧
      c'.searches = podspec.dnsConfig.bind PodDNSConfig.searches ∧
      ∃ options', c'.options = some options' ∧
        options'.length = options.length + (if ∃ o ∈ options, o.name = some "ndots" then 0 else 1) ∧
        (∀ (i : Nat) (o : PodDNSConfigOption), options[i]? = some o → options'[i]? = some (if o.name = some "ndots" then
          { name := some "ndots", value := some (toString settings.ndots) } else o)) ∧
        ((¬ ∃ o ∈ options, o.name = some "ndots") → options'[options.length]? =
          some { name := some "ndots", value := some (toString settings.ndots) }) :=
  ⟨rfl, _, rfl, rfl, rfl, _, rfl, length_enforceNdotsOptions settings,
    fun _ _ h => getElem?_enforceNdotsOptions settings h,
    getElem?_length_enforceNdotsOptions settings⟩

variable {π J : Type} [DecidableEq ρ] [Inhabited ρ]

def validate (fromValue : J → Except String (Pod ρ π)) (toValue : Pod ρ π → J)
    (validationRequest : ValidationRequest Settings J) : Except String (ValidationResponse J) := do
  if validationRequest.request.kind ≠ "Pod" then
    return acceptRequest
  let pod ← fromValue validationRequest.request.object
  let podspec := pod.spec.getD default
  let podspecPatched := enforceNdots validationRequest.settings podspec
  if podspecPatched ≠ podspec then
    let patchedPod := { pod with spec := some podspecPatched }
    return mutateRequest (toValue patchedPod)
  return acceptRequest

/-- A pod request is accepted when its spec is compliant and mutated to the enforced spec
otherwise. -/
theorem validate_pod (fromValue : J → Except String (Pod ρ π)) (toValue : Pod ρ π → J)
    (object : J) (settings : Settings) {pod : Pod ρ π} (hpod : fromValue object = .ok pod) :
    validate fromValue toValue ⟨⟨"Pod", object⟩, settings⟩ =
      .ok (if Compliant settings (pod.spec.getD default) then acceptRequest
        else mutateRequest (toValue
          { pod with spec := some (enforceNdots settings (pod.spec.getD default)) })) := by
  by_cases hc : Compliant settings (pod.spec.getD default)
  · have h := (enforceNdots_eq_self_iff settings _).mpr hc
    simp [validate, hpod, h, hc, bind, Except.bind, pure, Except.pure]
  · have h := mt (enforceNdots_eq_self_iff settings (pod.spec.getD default)).mp hc
    simp [validate, hpod, h, hc, bind, Except.bind, pure, Except.pure]

/-- The mutation converges in one round: when pods survive serialization, resubmitting
the object `validate` returned is accepted as it is. -/
theorem validate_accepts_mutated (fromValue : J → Except String (Pod ρ π))
    (toValue : Pod ρ π → J) (hround : ∀ pod, fromValue (toValue pod) = .ok pod) (object : J)
    (settings : Settings) {mutated : J}
    (h : validate fromValue toValue ⟨⟨"Pod", object⟩, settings⟩ = .ok (mutateRequest mutated)) :
    validate fromValue toValue ⟨⟨"Pod", mutated⟩, settings⟩ = .ok acceptRequest := by
  cases hpod : fromValue object with
  | error e => simp [validate, hpod, bind, Except.bind, pure, Except.pure] at h
  | ok pod =>
    rw [validate_pod fromValue toValue object settings hpod, Except.ok.injEq] at h
    split at h
    · simp [acceptRequest, mutateRequest] at h
    · simp only [mutateRequest, ValidationResponse.mk.injEq, Option.some.injEq, true_and] at h
      subst h
      rw [validate_pod fromValue toValue _ settings (hround _)]
      simp [compliant_enforceNdots]

/-- With pods taken as their own JSON, a pod without a spec is mutated to the enforced
default spec, and the mutated pod is then accepted. -/
theorem validate_accepts_mutated_sample :
    (∀ pod : Pod Unit Unit, (Except.ok pod : Except String (Pod Unit Unit)) = .ok pod) ∧
    validate (fun pod => .ok pod : Pod Unit Unit → Except String (Pod Unit Unit)) id
        ⟨⟨"Pod", ⟨none, ()⟩⟩, ⟨5⟩⟩ =
      .ok (mutateRequest ⟨some (enforceNdots ⟨5⟩ default), ()⟩) ∧
    validate (fun pod => .ok pod : Pod Unit Unit → Except String (Pod Unit Unit)) id
        ⟨⟨"Pod", ⟨some (enforceNdots ⟨5⟩ default), ()⟩⟩, ⟨5⟩⟩ = .ok acceptRequest := by
  have h : validate (fun pod => .ok pod : Pod Unit Unit → Except String (Pod Unit Unit)) id
      ⟨⟨"Pod", ⟨none, ()⟩⟩, ⟨5⟩⟩ = .ok (mutateRequest ⟨some (enforceNdots ⟨5⟩ default), ()⟩) :=
    rfl
  exact ⟨fun _ => rfl, h, validate_accepts_mutated _ id (fun _ => rfl) _ _ h⟩

/-- The mutation is a fixed point exactly on compliant specs, its result is always
compliant, so it is idempotent, and `validate` mutates exactly the pods whose spec (the
default one when absent) is not compliant. -/
theorem enforceNdots_fixed_iff_compliant (settings : Settings) (podspec : PodSpec ρ)
    (fromValue : J → Except String (Pod ρ π)) (toValue : Pod ρ π → J) (object : J)
    (pod : Pod ρ π) (hpod : fromValue object = .ok pod) :
    (enforceNdots settings podspec = podspec ↔ Compliant settings podspec) ∧
    Compliant settings (enforceNdots settings podspec) ∧
    enforceNdots settings (enforceNdots settings podspec) = enforceNdots settings podspec ∧
    validate fromValue toValue ⟨⟨"Pod", object⟩, settings⟩ =
      .ok (if Compliant settings (pod.spec.getD default) then acceptRequest
        else mutateRequest (toValue
          { pod with spec := some (enforceNdots settings (pod.spec.getD default)) })) :=
  ⟨enforceNdots_eq_self_iff settings podspec, compliant_enforceNdots settings podspec,
    (enforceNdots_eq_self_iff settings _).mpr (compliant_enforceNdots settings podspec),
    validate_pod fromValue toValue object settings hpod⟩

/-- A pod without a spec is mutated: the default spec sets no `ndots`. -/
theorem enforceNdots_fixed_iff_compliant_sample :
    (fun _ => .ok ⟨none, ()⟩ : Unit → Except String (Pod Unit Unit)) () = .ok ⟨none, ()⟩ ∧
    validate (fun _ => .ok ⟨none, ()⟩ : Unit → Except String (Pod Unit Unit)) (fun _ => ())
      ⟨⟨"Pod", ()⟩, ⟨5⟩⟩ = .ok (mutateRequest ()) :=
  ⟨rfl, (enforceNdots_fixed_iff_compliant ⟨5⟩ default _ (fun _ => ()) () ⟨none, ()⟩ rfl).2.2.2⟩

end KubewardenPolicies.PodNdots
