import Reconciliation.Objects.Managed
import Reconciliation.Proofs.Wire.Text

/-!
# Written structures are legible

The types of a structure bound how deep its wire form nests, and all its numbers are integers of at
most 64 bits; so a reader can hold whatever a codec of the library writes. `Json.Legible` counts the
room that is left, so a bound is stated as room for any number of levels and those of the structure.

* `Codec.legible_list`, `Codec.legible_dict`, `Fields.legible_field`, `Member.legible_optional` --
  what is written is legible if its parts are;
* `ObjectMeta.legible` to `Ingress.legible` -- no structure takes more than ten levels.
-/

namespace Reconciliation

/-! ## 1. Codecs -/

namespace Codec

variable {n : Nat}

@[simp] theorem legible_text (s : String) : (text.encode s).Legible n :=
  Json.legible_str _

@[simp] theorem legible_flag (b : Bool) : (flag.encode b).Legible n :=
  Json.legible_bool _

@[simp] theorem legible_int32 (i : Int32) : (int32.encode i).Legible n := by
  have hmin : Int64.minValue.toInt ≤ Int32.minValue.toInt := by decide
  have hmax : Int32.maxValue.toInt < UInt64.size := by decide
  exact Json.legible_int (Int.le_trans hmin i.minValue_le_toInt)
    (Int.lt_of_le_of_lt i.toInt_le hmax)

@[simp] theorem legible_int64 (i : Int64) : (int64.encode i).Legible n := by
  have hmax : Int64.maxValue.toInt < UInt64.size := by decide
  exact Json.legible_int i.minValue_le_toInt (Int.lt_of_le_of_lt i.toInt_le hmax)

@[simp] theorem legible_bytes (b : List UInt8) : (bytes.encode b).Legible n :=
  Json.legible_str _

@[simp] theorem legible_instant (t : Instant) : (instant.encode t).Legible n :=
  Json.legible_str _

@[simp] theorem legible_quantity (q : Quantity) : (Quantity.codec.encode q).Legible n :=
  Json.legible_str _

@[simp] theorem legible_intOrText (a : IntOrText) : (IntOrText.codec.encode a).Legible n := by
  cases a with
  | int i => exact legible_int32 i
  | text s => exact Json.legible_str s

variable {α : Type} {c : Codec α}

@[simp] theorem legible_list {as : List α} :
    (c.list.encode as).Legible (n + 1) ↔ ∀ a ∈ as, (c.encode a).Legible n := by
  show (Json.arr (as.map c.encode)).Legible (n + 1) ↔ _
  simp

@[simp] theorem legible_dict {d : Dict String α} :
    (c.dict.encode d).Legible (n + 1) ↔ ∀ e ∈ d.entries, (c.encode e.2).Legible n := by
  show (Json.obj (d.entries.map fun e => (e.1, c.encode e.2))).Legible (n + 1) ↔ _
  rw [Json.legible_obj, List.forall_mem_map]

@[simp] theorem legible_option {o : Option α} :
    (c.option.encode o).Legible n ↔ ∀ a ∈ o, (c.encode a).Legible n := by
  cases o <;> simp [option, Json.Legible]

@[simp] theorem legible_choice {name : α → String} {ofName? : String → Option α} (a : α)
    (n : Nat) : ((choice name ofName?).encode a).Legible n := Json.legible_str _

end Codec

/-! ## 2. Structures -/

/-- What the member writes is legible. -/
def Member.Legible (m : Member α) (a : α) (n : Nat) : Prop := ∀ j ∈ m.write a, j.Legible n

@[simp] theorem Member.legible_optional {key : String} {c : Codec α} {a : Option α} {n : Nat} :
    (Member.optional key c).Legible a n ↔ ∀ x ∈ a, (c.encode x).Legible n := by
  simp [Legible, optional]

@[simp] theorem Member.legible_required {key : String} {c : Codec α} {a zero : α} {n : Nat} :
    (Member.required key c zero).Legible a n ↔ (c.encode a).Legible n := by
  simp [Legible, required]

@[simp] theorem Member.legible_mandatory {key : String} {c : Codec α} {a : α} {n : Nat} :
    (Member.mandatory key c).Legible a n ↔ (c.encode a).Legible n := by
  simp [Legible, mandatory]

@[simp] theorem Member.legible_defaulted {key : String} {c : Codec α} {a zero : α} {n : Nat} :
    (Member.defaulted key c zero).Legible a n ↔ (c.encode a).Legible n := by
  simp [Legible, defaulted]

namespace Fields

/-- The values of all members are legible. -/
def Legible (f : Fields σ α) (s : σ) (n : Nat) : Prop := ∀ e ∈ f.write s, e.2.Legible n

variable {n : Nat} {s : σ}

@[simp] theorem legible_of (make : α) : (Fields.of make).Legible s n := fun _ he => by cases he

@[simp] theorem legible_field {f : Fields σ (α → β)} {get : σ → α} {m : Member α} :
    (f.field get m).Legible s n ↔ f.Legible s n ∧ m.Legible (get s) n := by
  unfold Legible Member.Legible field
  rw [List.forall_mem_append]
  refine and_congr_right fun _ => ?_
  cases m.write (get s) <;> simp

@[simp] theorem legible_literal {f : Fields σ α} {key value : String} :
    (f.literal key value).Legible s n ↔ f.Legible s n := by
  unfold Legible literal
  rw [List.forall_mem_append]
  simp

theorem legible_codec {f : Fields σ σ} (h : f.Legible s n) :
    (f.codec.encode s).Legible (n + 1) := Json.legible_ofMembers h

end Fields

/-! ## 3. Metadata -/

@[simp] theorem OwnerReference.legible (o : OwnerReference) (n : Nat) :
    (members.codec.encode o).Legible (n + 1) := Fields.legible_codec (by simp [members])

@[simp] theorem ObjectMeta.legible (o : ObjectMeta) (n : Nat) :
    (members.codec.encode o).Legible (n + 3) := Fields.legible_codec (by simp [members])

/-! ## 4. Pods -/

@[simp] theorem EnvironmentVariable.legible (o : EnvironmentVariable) (n : Nat) :
    (members.codec.encode o).Legible (n + 1) := Fields.legible_codec (by simp [members])

@[simp] theorem ContainerPort.legible (o : ContainerPort) (n : Nat) :
    (members.codec.encode o).Legible (n + 1) := Fields.legible_codec (by simp [members])

@[simp] theorem ResourceAmounts.legible (o : ResourceAmounts) (n : Nat) :
    (members.codec.encode o).Legible (n + 2) := Fields.legible_codec (by simp [members])

@[simp] theorem VolumeMount.legible (o : VolumeMount) (n : Nat) :
    (members.codec.encode o).Legible (n + 1) := Fields.legible_codec (by simp [members])

@[simp] theorem Container.legible (o : Container) (n : Nat) :
    (members.codec.encode o).Legible (n + 3) := Fields.legible_codec (by simp [members])

@[simp] theorem EmptyDirectory.legible (o : EmptyDirectory) (n : Nat) :
    (members.codec.encode o).Legible (n + 1) := Fields.legible_codec (by simp [members])

@[simp] theorem ConfigMapVolume.legible (o : ConfigMapVolume) (n : Nat) :
    (members.codec.encode o).Legible (n + 1) := Fields.legible_codec (by simp [members])

@[simp] theorem SecretVolume.legible (o : SecretVolume) (n : Nat) :
    (members.codec.encode o).Legible (n + 1) := Fields.legible_codec (by simp [members])

@[simp] theorem Volume.legible (o : Volume) (n : Nat) :
    (members.codec.encode o).Legible (n + 2) := Fields.legible_codec (by simp [members])

@[simp] theorem Toleration.legible (o : Toleration) (n : Nat) :
    (members.codec.encode o).Legible (n + 1) := Fields.legible_codec (by simp [members])

@[simp] theorem SecurityContext.legible (o : SecurityContext) (n : Nat) :
    (members.codec.encode o).Legible (n + 1) := Fields.legible_codec (by simp [members])

@[simp] theorem PodSpec.legible (o : PodSpec) (n : Nat) :
    (members.codec.encode o).Legible (n + 5) := Fields.legible_codec (by simp [members])

@[simp] theorem PodTemplate.legible (o : PodTemplate) (n : Nat) :
    (members.codec.encode o).Legible (n + 6) := Fields.legible_codec (by simp [members])

/-! ## 5. Configuration, secrets, services and accounts -/

@[simp] theorem ConfigMap.legible (o : ConfigMap) (n : Nat) :
    (members.codec.encode o).Legible (n + 4) :=
  Fields.legible_codec (by simp [members, ObjectMeta.member])

@[simp] theorem Secret.legible (o : Secret) (n : Nat) :
    (members.codec.encode o).Legible (n + 4) :=
  Fields.legible_codec (by simp [members, ObjectMeta.member])

@[simp] theorem ServicePort.legible (o : ServicePort) (n : Nat) :
    (members.codec.encode o).Legible (n + 1) := Fields.legible_codec (by simp [members])

@[simp] theorem ServiceSpec.legible (o : ServiceSpec) (n : Nat) :
    (members.codec.encode o).Legible (n + 3) := Fields.legible_codec (by simp [members])

@[simp] theorem IngressPoint.legible (o : IngressPoint) (n : Nat) :
    (members.codec.encode o).Legible (n + 1) := Fields.legible_codec (by simp [members])

@[simp] theorem LoadBalancer.legible (o : LoadBalancer) (n : Nat) :
    (members.codec.encode o).Legible (n + 3) := Fields.legible_codec (by simp [members])

@[simp] theorem ServiceStatus.legible (o : ServiceStatus) (n : Nat) :
    (members.codec.encode o).Legible (n + 4) := Fields.legible_codec (by simp [members])

@[simp] theorem Service.legible (o : Service) (n : Nat) :
    (members.codec.encode o).Legible (n + 5) :=
  Fields.legible_codec (by simp [members, ObjectMeta.member])

@[simp] theorem ObjectReference.legible (o : ObjectReference) (n : Nat) :
    (members.codec.encode o).Legible (n + 1) := Fields.legible_codec (by simp [members])

@[simp] theorem LocalReference.legible (o : LocalReference) (n : Nat) :
    (members.codec.encode o).Legible (n + 1) := Fields.legible_codec (by simp [members])

@[simp] theorem ServiceAccount.legible (o : ServiceAccount) (n : Nat) :
    (members.codec.encode o).Legible (n + 4) :=
  Fields.legible_codec (by simp [members, ObjectMeta.member])

/-! ## 6. Workloads -/

@[simp] theorem SelectorRequirement.legible (o : SelectorRequirement) (n : Nat) :
    (members.codec.encode o).Legible (n + 2) := Fields.legible_codec (by simp [members])

@[simp] theorem SelectorSpec.legible (o : SelectorSpec) (n : Nat) :
    (members.codec.encode o).Legible (n + 4) := Fields.legible_codec (by simp [members])

@[simp] theorem DeploymentRollout.legible (o : DeploymentRollout) (n : Nat) :
    (members.codec.encode o).Legible (n + 1) := Fields.legible_codec (by simp [members])

@[simp] theorem DeploymentStrategy.legible (o : DeploymentStrategy) (n : Nat) :
    (members.codec.encode o).Legible (n + 2) := Fields.legible_codec (by simp [members])

@[simp] theorem DeploymentSpec.legible (o : DeploymentSpec) (n : Nat) :
    (members.codec.encode o).Legible (n + 7) := Fields.legible_codec (by simp [members])

@[simp] theorem DeploymentStatus.legible (o : DeploymentStatus) (n : Nat) :
    (members.codec.encode o).Legible (n + 1) := Fields.legible_codec (by simp [members])

@[simp] theorem Deployment.legible (o : Deployment) (n : Nat) :
    (members.codec.encode o).Legible (n + 8) :=
  Fields.legible_codec (by simp [members, ObjectMeta.member])

@[simp] theorem VolumeClaimSpec.legible (o : VolumeClaimSpec) (n : Nat) :
    (members.codec.encode o).Legible (n + 3) := Fields.legible_codec (by simp [members])

@[simp] theorem VolumeClaimStatus.legible (o : VolumeClaimStatus) (n : Nat) :
    (members.codec.encode o).Legible (n + 1) := Fields.legible_codec (by simp [members])

@[simp] theorem VolumeClaim.legible (o : VolumeClaim) (n : Nat) :
    (members.codec.encode o).Legible (n + 4) :=
  Fields.legible_codec (by simp [members, ObjectMeta.member])

@[simp] theorem StatefulSetRollout.legible (o : StatefulSetRollout) (n : Nat) :
    (members.codec.encode o).Legible (n + 1) := Fields.legible_codec (by simp [members])

@[simp] theorem StatefulSetStrategy.legible (o : StatefulSetStrategy) (n : Nat) :
    (members.codec.encode o).Legible (n + 2) := Fields.legible_codec (by simp [members])

@[simp] theorem StatefulSetSpec.legible (o : StatefulSetSpec) (n : Nat) :
    (members.codec.encode o).Legible (n + 7) := Fields.legible_codec (by simp [members])

@[simp] theorem StatefulSetStatus.legible (o : StatefulSetStatus) (n : Nat) :
    (members.codec.encode o).Legible (n + 1) := Fields.legible_codec (by simp [members])

@[simp] theorem StatefulSet.legible (o : StatefulSet) (n : Nat) :
    (members.codec.encode o).Legible (n + 8) :=
  Fields.legible_codec (by simp [members, ObjectMeta.member])

/-! ## 7. Access -/

@[simp] theorem PolicyRule.legible (o : PolicyRule) (n : Nat) :
    (members.codec.encode o).Legible (n + 2) := Fields.legible_codec (by simp [members])

@[simp] theorem Role.legible (o : Role) (n : Nat) :
    (members.codec.encode o).Legible (n + 4) :=
  Fields.legible_codec (by simp [members, ObjectMeta.member])

@[simp] theorem AggregationRule.legible (o : AggregationRule) (n : Nat) :
    (members.codec.encode o).Legible (n + 6) := Fields.legible_codec (by simp [members])

@[simp] theorem ClusterRole.legible (o : ClusterRole) (n : Nat) :
    (members.codec.encode o).Legible (n + 7) :=
  Fields.legible_codec (by simp [members, ObjectMeta.member])

@[simp] theorem RoleRef.legible (o : RoleRef) (n : Nat) :
    (members.codec.encode o).Legible (n + 1) := Fields.legible_codec (by simp [members])

@[simp] theorem Subject.legible (o : Subject) (n : Nat) :
    (members.codec.encode o).Legible (n + 1) := Fields.legible_codec (by simp [members])

@[simp] theorem RoleBinding.legible (o : RoleBinding) (n : Nat) :
    (members.codec.encode o).Legible (n + 4) :=
  Fields.legible_codec (by simp [members, ObjectMeta.member])

@[simp] theorem ClusterRoleBinding.legible (o : ClusterRoleBinding) (n : Nat) :
    (members.codec.encode o).Legible (n + 4) :=
  Fields.legible_codec (by simp [members, ObjectMeta.member])

/-! ## 8. Ingresses -/

@[simp] theorem BackendPort.legible (o : BackendPort) (n : Nat) :
    (members.codec.encode o).Legible (n + 1) := Fields.legible_codec (by simp [members])

@[simp] theorem ServiceBackend.legible (o : ServiceBackend) (n : Nat) :
    (members.codec.encode o).Legible (n + 2) := Fields.legible_codec (by simp [members])

@[simp] theorem ResourceBackend.legible (o : ResourceBackend) (n : Nat) :
    (members.codec.encode o).Legible (n + 1) := Fields.legible_codec (by simp [members])

@[simp] theorem IngressBackend.legible (o : IngressBackend) (n : Nat) :
    (members.codec.encode o).Legible (n + 3) := Fields.legible_codec (by simp [members])

@[simp] theorem IngressPath.legible (o : IngressPath) (n : Nat) :
    (members.codec.encode o).Legible (n + 4) := Fields.legible_codec (by simp [members])

@[simp] theorem IngressPaths.legible (o : IngressPaths) (n : Nat) :
    (members.codec.encode o).Legible (n + 6) := Fields.legible_codec (by simp [members])

@[simp] theorem IngressRule.legible (o : IngressRule) (n : Nat) :
    (members.codec.encode o).Legible (n + 7) := Fields.legible_codec (by simp [members])

@[simp] theorem IngressCertificate.legible (o : IngressCertificate) (n : Nat) :
    (members.codec.encode o).Legible (n + 2) := Fields.legible_codec (by simp [members])

@[simp] theorem IngressSpec.legible (o : IngressSpec) (n : Nat) :
    (members.codec.encode o).Legible (n + 9) := Fields.legible_codec (by simp [members])

@[simp] theorem IngressLoadBalancer.legible (o : IngressLoadBalancer) (n : Nat) :
    (members.codec.encode o).Legible (n + 1) := Fields.legible_codec (by simp [members])

@[simp] theorem IngressStatus.legible (o : IngressStatus) (n : Nat) :
    (members.codec.encode o).Legible (n + 2) := Fields.legible_codec (by simp [members])

@[simp] theorem Ingress.legible (o : Ingress) (n : Nat) :
    (members.codec.encode o).Legible (n + 10) :=
  Fields.legible_codec (by simp [members, ObjectMeta.member])

end Reconciliation
