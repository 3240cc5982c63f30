import Reconciliation.Labels
import Reconciliation.Mutation.Error
import Reconciliation.Mutation.Fields
import Reconciliation.Objects.Managed

/-!
# What the engine owns of each kind

One function per kind lays the fields which the engine owns over an existing object and leaves all
others to whoever set them. Metadata has been merged before. A field that cannot change once the
API server has persisted the object makes the merge fail (`ImmutableField`); nothing else does.

* `ConfigMap.merge` … `Ingress.merge` -- the kinds that have a structure;
* `StatefulSet.merge` -- the longest: claim templates take the volume mode that the API server
  filled in (`defaultClaims`) before they are compared (`VolumeClaim.shape`);
* `CustomResource.merge` -- the whole specification belongs to the engine.
-/

namespace Reconciliation

/-! ## 1. The core group -/

/-- Configuration maps with this annotation get their data from another controller. -/
def injectAnnotation : String := "service.beta.openshift.io/inject-cabundle"

/-- Data is replaced, unless another controller injects it. -/
def ConfigMap.merge (existing desired : ConfigMap) : ConfigMap :=
  if (existing.metadata.annotations.bind (·.get? injectAnnotation)).isSome then existing
  else { existing with data := desired.data, binaryData := desired.binaryData }

/-- Data is replaced. -/
def Secret.merge (existing desired : Secret) : Secret := { existing with data := desired.data }

/-- Ports are replaced, the selector is laid over. -/
def Service.merge (existing desired : Service) : Service :=
  let want := desired.spec.getD .empty
  let spec := existing.spec.getD .empty
  { existing with
    spec := some
      { spec with ports := want.ports, selector := mergeLabels spec.selector want.selector } }

/-- Nothing: secrets are filled in by the platform. -/
def ServiceAccount.merge (existing _desired : ServiceAccount) : ServiceAccount := existing

/-! ## 2. Workloads -/

/-- The replicas are replaced, template and strategy laid over; the selector counts only until the
object exists. -/
def Deployment.merge (existing desired : Deployment) : Except MutateError Deployment :=
  let want := desired.spec.getD .empty
  let spec := existing.spec.getD .empty
  match PodTemplate.members.codec.merge? spec.template want.template,
      (Codec.option DeploymentStrategy.members.codec).merge? spec.strategy want.strategy with
  | some template, some strategy =>
    .ok { existing with
      spec := some
        { spec with
          selector := if existing.metadata.exists? then spec.selector else want.selector
          replicas := want.replicas
          template
          strategy } }
  | _, _ => .error .unreadable

/-- The volume mode of the first live claim with the same name, where a desired claim has a
specification without one. -/
def VolumeClaim.withDefaults (live : List VolumeClaim) (claim : VolumeClaim) : VolumeClaim :=
  match (live.find? fun c => c.metadata.name == claim.metadata.name).bind (·.spec), claim.spec with
  | some found, some spec =>
    if spec.volumeMode.isNone then
      { claim with spec := some { spec with volumeMode := found.volumeMode } }
    else claim
  | _, _ => claim

/-- Fills in what the API server fills in, taken from the live claim templates. -/
def defaultClaims (live desired : Option (List VolumeClaim)) : Option (List VolumeClaim) :=
  match live with
  | none => desired
  | some live => desired.map (·.map (·.withDefaults live))

/-- What cannot change of a claim template. -/
def VolumeClaim.shape (claim : VolumeClaim) :
    Option String × Option (Dict String String) × Option VolumeClaimSpec :=
  (claim.metadata.name, claim.metadata.annotations, claim.spec)

/-- The shapes of claim templates; an absent list has none. -/
def claimShapes (claims : Option (List VolumeClaim)) :
    List (Option String × Option (Dict String String) × Option VolumeClaimSpec) :=
  (claims.getD []).map (·.shape)

/-- Lays desired claims over live ones position by position; their status is the server's. -/
def mergeClaims : List VolumeClaim → List VolumeClaim → List VolumeClaim
  | live :: lives, want :: wants =>
    { live with metadata := want.metadata, spec := want.spec } :: mergeClaims lives wants
  | lives, _ => lives

/-- The claim templates in wire form, null for an absent list. -/
def claimsJson (claims : Option (List VolumeClaim)) : Json :=
  (Codec.option (.list VolumeClaim.members.codec)).encode claims

/-- The first field of an existing stateful set that differs and cannot change. -/
def StatefulSet.violation? (current want : StatefulSetSpec) : Option ImmutableField :=
  if current.selector ≠ want.selector then
    some ⟨"spec.selector", SelectorSpec.members.codec.encode current.selector,
      SelectorSpec.members.codec.encode want.selector⟩
  else if claimShapes current.volumeClaimTemplates ≠ claimShapes want.volumeClaimTemplates then
    some ⟨"spec.volumeClaimTemplates", claimsJson current.volumeClaimTemplates,
      claimsJson want.volumeClaimTemplates⟩
  else none

/-- The desired specification as it is compared with an existing object. -/
def StatefulSet.wanted (existing desired : StatefulSet) : StatefulSetSpec :=
  let want := desired.spec.getD .empty
  if existing.metadata.exists? then
    { want with
      volumeClaimTemplates :=
        defaultClaims (existing.spec.getD .empty).volumeClaimTemplates want.volumeClaimTemplates }
  else want

/-- Replicas and pod management are replaced, template and strategy laid over, claim templates laid
over position by position; selector and claim templates cannot change once the object exists. -/
def StatefulSet.merge (existing desired : StatefulSet) : Except MutateError StatefulSet :=
  let exists? := existing.metadata.exists?
  let want := existing.wanted desired
  let spec := existing.spec.getD .empty
  match if exists? then StatefulSet.violation? spec want else none with
  | some violation => .error (.immutableField violation)
  | none =>
    match PodTemplate.members.codec.merge? spec.template want.template,
        (Codec.option StatefulSetStrategy.members.codec).merge? spec.updateStrategy
          want.updateStrategy with
    | some template, some updateStrategy =>
      .ok { existing with
        spec := some
          { spec with
            selector := if exists? then spec.selector else want.selector
            replicas := want.replicas
            podManagementPolicy := want.podManagementPolicy
            volumeClaimTemplates :=
              match spec.volumeClaimTemplates, want.volumeClaimTemplates with
              | some live, some claims => some (if exists? then mergeClaims live claims else claims)
              | _, claims => claims
            template
            updateStrategy } }
    | _, _ => .error .unreadable

/-! ## 3. Access and routing -/

/-- The rules are replaced. -/
def Role.merge (existing desired : Role) : Role := { existing with rules := desired.rules }

/-- Rules and aggregation are replaced. -/
def ClusterRole.merge (existing desired : ClusterRole) : ClusterRole :=
  { existing with rules := desired.rules, aggregationRule := desired.aggregationRule }

/-- The violation of a binding whose role changes. -/
def roleRefViolation (existing desired : RoleRef) : ImmutableField :=
  ⟨"roleRef", RoleRef.members.codec.encode existing, RoleRef.members.codec.encode desired⟩

/-- Subjects are replaced; the role cannot change once the object exists. -/
def RoleBinding.merge (existing desired : RoleBinding) : Except MutateError RoleBinding :=
  if existing.metadata.exists? ∧ existing.roleRef ≠ desired.roleRef then
    .error (.immutableField (roleRefViolation existing.roleRef desired.roleRef))
  else .ok { existing with roleRef := desired.roleRef, subjects := desired.subjects }

/-- Subjects are replaced; the role cannot change once the object exists. -/
def ClusterRoleBinding.merge (existing desired : ClusterRoleBinding) :
    Except MutateError ClusterRoleBinding :=
  if existing.metadata.exists? ∧ existing.roleRef ≠ desired.roleRef then
    .error (.immutableField (roleRefViolation existing.roleRef desired.roleRef))
  else .ok { existing with roleRef := desired.roleRef, subjects := desired.subjects }

/-- Everything in the specification is replaced. -/
def Ingress.merge (existing desired : Ingress) : Ingress :=
  { existing with spec := some (desired.spec.getD .empty) }

/-! ## 4. Custom resources -/

/-- The whole specification is replaced, and removed when the desired one is missing or null. Data
that is no object counts as the empty object. -/
def CustomResource.merge (existing desired : CustomResource) : CustomResource :=
  let fields := existing.data.fields
  match desired.data.get? "spec" with
  | none | some .null => { existing with data := .obj (Entries.erase "spec" fields) }
  | some spec => { existing with data := .obj (Entries.insert "spec" spec fields) }

end Reconciliation
