import Reconciliation.Objects.Managed
import Reconciliation.Proofs.Wire.Template

/-!
# The codecs of all kinds

What the eleven kinds with a structure of their own are written as is read back: the codec of each
kind is put together from those of its members, with the two literals that state its type. Nothing
is lost in writing but fractions of a second and instants beyond the calendar.

* `Base64.decode?_encode` -- bytes are read from their text;
* `Fields.Lawful.literal` -- a member that always holds the same text is one that carries nothing;
* `Deployment.lawful`, `StatefulSet.lawful` -- the kinds that hold templates; the other kinds
  survive being written if their metadata does (`ConfigMap.lawful` to `Ingress.lawful`).
-/

namespace Reconciliation

open Codec

/-! ## 1. Bytes -/

namespace Base64

theorem value?_digit {n : Nat} (h : n < 64) : value? (digit n) = some n := by
  have hall : ∀ d < 64, value? (digit d) = some d := by decide
  exact hall n h

theorem digit_ne_pad {n : Nat} (h : n < 64) : digit n ≠ '=' := by
  have hall : ∀ d < 64, digit d ≠ '=' := by decide
  exact hall n h

theorem toUInt8_eq {n : Nat} {b : UInt8} (h : n = b.toNat) : n.toUInt8 = b := by
  rw [h]
  exact UInt8.ofNat_toNat

/-- **Bytes are read from their text.** -/
theorem decode?_encode (bs : List UInt8) : decode? (encode bs) = some bs := by
  induction bs using encode.induct with
  | case1 a b c rest ih =>
    have ha : a.toNat < 256 := a.toNat_lt
    have hb : b.toNat < 256 := b.toNat_lt
    have hc : c.toNat < 256 := c.toNat_lt
    have hpad : digit (c.toNat % 64) ≠ '=' := digit_ne_pad (by omega)
    rw [encode, decode?]
    · simp only [value?_digit (show a.toNat / 4 < 64 by omega),
        value?_digit (show a.toNat % 4 * 16 + b.toNat / 16 < 64 by omega),
        value?_digit (show b.toNat % 16 * 4 + c.toNat / 64 < 64 by omega),
        value?_digit (show c.toNat % 64 < 64 by omega), ih, Option.bind_eq_bind,
        Option.bind_some, Option.some.injEq, List.cons.injEq, and_true]
      exact ⟨toUInt8_eq (by omega), toUInt8_eq (by omega), toUInt8_eq (by omega)⟩
    · exact fun _ h _ => absurd h hpad
    · exact fun h _ => absurd h hpad
  | case2 a b =>
    have ha : a.toNat < 256 := a.toNat_lt
    have hb : b.toNat < 256 := b.toNat_lt
    have hpad : digit (b.toNat % 16 * 4) ≠ '=' := digit_ne_pad (by omega)
    rw [encode, decode?]
    · simp only [value?_digit (show a.toNat / 4 < 64 by omega),
        value?_digit (show a.toNat % 4 * 16 + b.toNat / 16 < 64 by omega),
        value?_digit (show b.toNat % 16 * 4 < 64 by omega), Option.bind_eq_bind,
        Option.bind_some]
      rw [if_pos (by omega), toUInt8_eq (b := a) (by omega), toUInt8_eq (b := b) (by omega)]
    · exact fun h => absurd h hpad
  | case3 a =>
    have ha : a.toNat < 256 := a.toNat_lt
    rw [encode, decode?]
    simp only [value?_digit (show a.toNat / 4 < 64 by omega),
      value?_digit (show a.toNat % 4 * 16 < 64 by omega), Option.bind_eq_bind, Option.bind_some]
    rw [if_pos (by omega), toUInt8_eq (b := a) (by omega)]
  | case4 => rfl

end Base64

theorem Codec.lossless_bytes : bytes.Lossless :=
  lossless_scalar (fun _ => rfl) (fun _ => rfl) fun b => by
    show Base64.decode? (String.ofList (Base64.encode b)).toList = some b
    rw [String.toList_ofList, Base64.decode?_encode]

/-! ## 2. Literals -/

/-- The member that always holds a text and carries nothing; it may be missing. -/
def Member.exactly (key value : String) : Member Unit where
  key
  write _ := some (.str value)
  read r := if r.all (Fields.isText value) then some () else none

theorem Member.reads_exactly_iff (key value : String) (o : Option Json) :
    (exactly key value).Reads o ↔ ∀ j ∈ o, j = .str value := by
  have hread : (exactly key value).Reads o ↔
      (o.map Json.raw).all (Fields.isText value) = true := by
    show (∃ a, (if (o.map Json.raw).all (Fields.isText value) then some () else none) = some a) ↔ _
    split <;> simp_all
  rw [hread]
  cases o with
  | none => simp
  | some j => cases j <;> simp [Json.raw, Fields.isText]

theorem Member.lawful_exactly (key value : String) :
    (exactly key value).Lawful fun _ => True := by
  refine ⟨fun o => o = some (.str value), ?_, ?_, ?_, ?_, ?_, ?_⟩
  · exact fun _ => rfl
  · rintro o p rfl rfl
    rcases Json.override_eq_or (.str value) (.str value) (.inl rfl) with h | h <;>
      exact congrArg some h
  · intro j hj
    obtain rfl := Option.some.inj hj
    trivial
  · exact fun hform _ => hform.symm
  · exact fun _ => iff_of_true (if_pos (by simp [exactly, Json.raw, Fields.isText])) trivial
  · intro o p _ _ hro hrp
    rw [reads_exactly_iff] at hro hrp ⊢
    intro j hj
    cases p with
    | none => exact hro j hj
    | some source =>
      obtain rfl := hrp source rfl
      cases o with
      | none =>
        by_cases he : (Json.str value).isEmpty = true
        · simp [Json.overrideMember, he] at hj
        · simpa [Json.overrideMember, he] using hj.symm
      | some target =>
        obtain rfl := hro target rfl
        obtain rfl := Option.some.inj hj
        exact (Json.override_eq_or _ _ (.inl rfl)).elim id id

namespace Fields

/-- Members that are read before one that carries nothing. -/
def beforeUnit (f : Fields σ α) : Fields σ (Unit → α) where
  keys := f.keys
  write := f.write
  read env := (f.read env).map fun a _ => a

theorem readFrom_literal (f : Fields σ α) (key value : String) (e : String → Option Json) :
    (f.literal key value).readFrom e =
      (f.beforeUnit.field (fun _ => ()) (.exactly key value)).readFrom e := by
  have hall : ((e key).map Json.raw).toList.all (isText value) =
      ((e key).map Json.raw).all (isText value) := by
    cases e key <;> simp
  rw [readFrom_field]
  show (if ((e key).map Json.raw).toList.all (isText value) then f.readFrom e else none) =
    ((f.readFrom e).map fun a _ => a).bind fun make =>
      (if ((e key).map Json.raw).all (isText value) then some () else none).map make
  rw [hall]
  split
  · cases f.readFrom e <;> rfl
  · cases f.readFrom e <;> rfl

namespace Lawful

variable {Γ : Type} {f : Fields σ α} {make : Γ → α} {view : σ → Γ} {whole : σ → Prop}

theorem beforeUnit (h : f.Lawful make view whole) :
    f.beforeUnit.Lawful (fun γ _ => make γ) view whole := by
  intro hkeys
  obtain ⟨form, reads, law⟩ := h hkeys
  have hreads : ∀ e, f.beforeUnit.Reads e ↔ f.Reads e := by
    intro e
    show (∃ a, (f.readFrom e).map (fun a _ => a) = some a) ↔ _
    simp [Reads]
  refine ⟨form, reads, { law with read_iff := fun e a => ?_, mergeable := ?_ }⟩
  · show (f.readFrom e).map (fun a _ => a) = some a ↔ _
    rw [Option.map_eq_some_iff]
    constructor
    · rintro ⟨b, hb, rfl⟩
      obtain ⟨γ, hγ, rfl⟩ := (law.read_iff e b).1 hb
      exact ⟨γ, hγ, rfl⟩
    · rintro ⟨γ, hγ, rfl⟩
      exact ⟨make γ, (law.read_iff e _).2 ⟨γ, hγ, rfl⟩, rfl⟩
  · intro e e' he he' hr hr'
    rw [hreads] at hr hr' ⊢
    exact law.mergeable he he' hr hr'

/-- One more literal: it holds nothing of what is read, but has to be there. -/
theorem literal (h : f.Lawful make view whole) (key value : String) :
    (f.literal key value).Lawful (fun γ : Γ × Unit => make γ.1) (fun s => (view s, ()))
      fun s => whole s ∧ True := by
  intro hkeys
  have hfield : (f.beforeUnit.field (fun _ => ()) (.exactly key value)).Lawful
      (fun γ : Γ × Unit => make γ.1) (fun s => (view s, ())) fun s => whole s ∧ True :=
    h.beforeUnit.field (Member.lawful_exactly key value)
  have hreads : ∀ e, (f.literal key value).Reads e ↔
      (f.beforeUnit.field (fun _ => ()) (.exactly key value)).Reads e := by
    intro e
    unfold Reads
    rw [readFrom_literal]
  obtain ⟨form, reads, law⟩ := hfield hkeys
  refine ⟨form, reads, { law with read_iff := fun e a => ?_, mergeable := ?_ }⟩
  · rw [readFrom_literal]
    exact law.read_iff e a
  · intro e e' he he' hr hr'
    rw [hreads] at hr hr' ⊢
    exact law.mergeable he he' hr hr'

end Lawful

end Fields

/-! ## 3. Configuration, secrets, services and accounts -/

theorem ConfigMap.lawful : members.codec.Lawful fun o => o.metadata.IsWhole :=
  Fields.Lawful.codec
    ((Fields.Lawful.of mk)
      |>.literal "apiVersion" "v1"
      |>.literal "kind" "ConfigMap"
      |>.field (ObjectMeta.lawful.required "metadata" .empty)
      |>.field (lossless_text.dict.optional "data")
      |>.field (lossless_bytes.dict.optional "binaryData")
      |>.field (lossless_flag.optional "immutable"))
    (by simp) (by decide) (fun _ => rfl) fun _ => rfl

theorem Secret.lawful : members.codec.Lawful fun o => o.metadata.IsWhole :=
  Fields.Lawful.codec
    ((Fields.Lawful.of mk)
      |>.literal "apiVersion" "v1"
      |>.literal "kind" "Secret"
      |>.field (ObjectMeta.lawful.required "metadata" .empty)
      |>.field (lossless_bytes.dict.optional "data")
      |>.field (lossless_text.dict.optional "stringData")
      |>.field (lossless_text.optional "type")
      |>.field (lossless_flag.optional "immutable"))
    (by simp) (by decide) (fun _ => rfl) fun _ => rfl

theorem ServicePort.lossless : members.codec.Lossless :=
  Fields.Lawful.codec
    ((Fields.Lawful.of mk)
      |>.field (lossless_int32.required "port" 0)
      |>.field (lossless_text.optional "name")
      |>.field (lossless_text.optional "protocol")
      |>.field (lossless_text.optional "appProtocol")
      |>.field (lossless_int32.optional "nodePort")
      |>.field (IntOrText.lossless.optional "targetPort"))
    (by simp) (by decide) (fun _ => rfl) fun _ => rfl

theorem ServiceSpec.lossless : members.codec.Lossless :=
  Fields.Lawful.codec
    ((Fields.Lawful.of mk)
      |>.field (ServicePort.lossless.list.optional "ports")
      |>.field (lossless_text.dict.optional "selector")
      |>.field (lossless_text.optional "clusterIP")
      |>.field (lossless_text.optional "type")
      |>.field (lossless_text.optional "externalName")
      |>.field (lossless_text.optional "sessionAffinity")
      |>.field (lossless_text.list.optional "clusterIPs"))
    (by simp) (by decide) (fun _ => rfl) fun _ => rfl

theorem IngressPoint.lossless : members.codec.Lossless :=
  Fields.Lawful.codec ((Fields.Lawful.of mk).field (lossless_text.optional "ip"))
    (by simp) (by decide) (fun _ => rfl) fun _ => rfl

theorem LoadBalancer.lossless : members.codec.Lossless :=
  Fields.Lawful.codec ((Fields.Lawful.of mk).field (IngressPoint.lossless.list.optional "ingress"))
    (by simp) (by decide) (fun _ => rfl) fun _ => rfl

theorem ServiceStatus.lossless : members.codec.Lossless :=
  Fields.Lawful.codec ((Fields.Lawful.of mk).field (LoadBalancer.lossless.optional "loadBalancer"))
    (by simp) (by decide) (fun _ => rfl) fun _ => rfl

theorem Service.lawful : members.codec.Lawful fun o => o.metadata.IsWhole :=
  Fields.Lawful.codec
    ((Fields.Lawful.of mk)
      |>.literal "apiVersion" "v1"
      |>.literal "kind" "Service"
      |>.field (ObjectMeta.lawful.required "metadata" .empty)
      |>.field (ServiceSpec.lossless.optional "spec")
      |>.field (ServiceStatus.lossless.optional "status"))
    (by simp) (by decide) (fun _ => rfl) fun _ => rfl

theorem ObjectReference.lossless : members.codec.Lossless :=
  Fields.Lawful.codec
    ((Fields.Lawful.of mk)
      |>.field (lossless_text.optional "name")
      |>.field (lossless_text.optional "namespace"))
    (by simp) (by decide) (fun _ => rfl) fun _ => rfl

theorem LocalReference.lossless : members.codec.Lossless :=
  Fields.Lawful.codec ((Fields.Lawful.of mk).field (lossless_text.required "name" ""))
    (by simp) (by decide) (fun _ => rfl) fun _ => rfl

theorem ServiceAccount.lawful : members.codec.Lawful fun o => o.metadata.IsWhole :=
  Fields.Lawful.codec
    ((Fields.Lawful.of mk)
      |>.literal "apiVersion" "v1"
      |>.literal "kind" "ServiceAccount"
      |>.field (ObjectMeta.lawful.required "metadata" .empty)
      |>.field (ObjectReference.lossless.list.optional "secrets")
      |>.field (LocalReference.lossless.list.optional "imagePullSecrets")
      |>.field (lossless_flag.optional "automountServiceAccountToken"))
    (by simp) (by decide) (fun _ => rfl) fun _ => rfl

/-! ## 4. Workloads -/

theorem SelectorRequirement.lossless : members.codec.Lossless :=
  Fields.Lawful.codec
    ((Fields.Lawful.of mk)
      |>.field (lossless_text.required "key" "")
      |>.field (lossless_text.required "operator" "")
      |>.field (lossless_text.list.optional "values"))
    (by simp) (by decide) (fun _ => rfl) fun _ => rfl

theorem SelectorSpec.lossless : members.codec.Lossless :=
  Fields.Lawful.codec
    ((Fields.Lawful.of mk)
      |>.field (lossless_text.dict.optional "matchLabels")
      |>.field (SelectorRequirement.lossless.list.optional "matchExpressions"))
    (by simp) (by decide) (fun _ => rfl) fun _ => rfl

/-- The template survives being written. -/
def DeploymentSpec.IsWhole (s : DeploymentSpec) : Prop := s.template.IsWhole

theorem DeploymentSpec.lawful : members.codec.Lawful IsWhole :=
  Fields.Lawful.codec
    ((Fields.Lawful.of mk)
      |>.field (SelectorSpec.lossless.required "selector" .empty)
      |>.field (PodTemplate.lawful.required "template" .empty)
      |>.field (lossless_int32.optional "replicas")
      |>.field (lossless_int32.optional "minReadySeconds")
      |>.field (lossless_int32.optional "revisionHistoryLimit")
      |>.field (lossless_int32.optional "progressDeadlineSeconds")
      |>.field (lossless_flag.optional "paused")
      |>.field (DeploymentStrategy.lossless.optional "strategy"))
    (by simp [IsWhole]) (by decide) (fun _ => rfl) fun _ => rfl

theorem DeploymentStatus.lossless : members.codec.Lossless :=
  Fields.Lawful.codec
    ((Fields.Lawful.of mk)
      |>.field (lossless_int32.optional "replicas")
      |>.field (lossless_int32.optional "readyReplicas"))
    (by simp) (by decide) (fun _ => rfl) fun _ => rfl

/-- The instants of the deployment and of its template survive being written. -/
def Deployment.IsWhole (o : Deployment) : Prop :=
  o.metadata.IsWhole ∧ ∀ s ∈ o.spec, s.IsWhole

theorem Deployment.lawful : members.codec.Lawful IsWhole :=
  Fields.Lawful.codec
    ((Fields.Lawful.of mk)
      |>.literal "apiVersion" "apps/v1"
      |>.literal "kind" "Deployment"
      |>.field (ObjectMeta.lawful.required "metadata" .empty)
      |>.field (DeploymentSpec.lawful.optional "spec")
      |>.field (DeploymentStatus.lossless.optional "status"))
    (by simp [IsWhole]) (by decide) (fun _ => rfl) fun _ => rfl

theorem VolumeClaimSpec.lossless : members.codec.Lossless :=
  Fields.Lawful.codec
    ((Fields.Lawful.of mk)
      |>.field (lossless_text.list.optional "accessModes")
      |>.field (lossless_text.optional "storageClassName")
      |>.field (lossless_text.optional "volumeMode")
      |>.field (ResourceAmounts.lossless.optional "resources"))
    (by simp) (by decide) (fun _ => rfl) fun _ => rfl

theorem VolumeClaimStatus.lossless : members.codec.Lossless :=
  Fields.Lawful.codec ((Fields.Lawful.of mk).field (lossless_text.optional "phase"))
    (by simp) (by decide) (fun _ => rfl) fun _ => rfl

theorem VolumeClaim.lawful : members.codec.Lawful fun o => o.metadata.IsWhole :=
  Fields.Lawful.codec
    ((Fields.Lawful.of mk)
      |>.literal "apiVersion" "v1"
      |>.literal "kind" "PersistentVolumeClaim"
      |>.field (ObjectMeta.lawful.required "metadata" .empty)
      |>.field (VolumeClaimSpec.lossless.optional "spec")
      |>.field (VolumeClaimStatus.lossless.optional "status"))
    (by simp) (by decide) (fun _ => rfl) fun _ => rfl

/-- The template and the claims survive being written. -/
def StatefulSetSpec.IsWhole (s : StatefulSetSpec) : Prop :=
  s.template.IsWhole ∧ ∀ claims ∈ s.volumeClaimTemplates, ∀ c ∈ claims, c.metadata.IsWhole

theorem StatefulSetSpec.lawful : members.codec.Lawful IsWhole :=
  Fields.Lawful.codec
    ((Fields.Lawful.of mk)
      |>.field (SelectorSpec.lossless.required "selector" .empty)
      |>.field (PodTemplate.lawful.required "template" .empty)
      |>.field (lossless_text.optional "serviceName")
      |>.field (lossless_text.optional "podManagementPolicy")
      |>.field (lossless_int32.optional "replicas")
      |>.field (lossless_int32.optional "revisionHistoryLimit")
      |>.field (StatefulSetStrategy.lossless.optional "updateStrategy")
      |>.field (VolumeClaim.lawful.list.optional "volumeClaimTemplates"))
    (by simp [IsWhole]) (by decide) (fun _ => rfl) fun _ => rfl

theorem StatefulSetStatus.lossless : members.codec.Lossless :=
  Fields.Lawful.codec
    ((Fields.Lawful.of mk)
      |>.field (lossless_int32.required "replicas" 0)
      |>.field (lossless_int32.optional "readyReplicas"))
    (by simp) (by decide) (fun _ => rfl) fun _ => rfl

/-- The instants of the stateful set, of its template and of its claims survive being written. -/
def StatefulSet.IsWhole (o : StatefulSet) : Prop :=
  o.metadata.IsWhole ∧ ∀ s ∈ o.spec, s.IsWhole

theorem StatefulSet.lawful : members.codec.Lawful IsWhole :=
  Fields.Lawful.codec
    ((Fields.Lawful.of mk)
      |>.literal "apiVersion" "apps/v1"
      |>.literal "kind" "StatefulSet"
      |>.field (ObjectMeta.lawful.required "metadata" .empty)
      |>.field (StatefulSetSpec.lawful.optional "spec")
      |>.field (StatefulSetStatus.lossless.optional "status"))
    (by simp [IsWhole]) (by decide) (fun _ => rfl) fun _ => rfl

/-! ## 5. Access -/

theorem PolicyRule.lossless : members.codec.Lossless :=
  Fields.Lawful.codec
    ((Fields.Lawful.of mk)
      |>.field (lossless_text.list.required "verbs" [])
      |>.field (lossless_text.list.optional "apiGroups")
      |>.field (lossless_text.list.optional "resources")
      |>.field (lossless_text.list.optional "resourceNames")
      |>.field (lossless_text.list.optional "nonResourceURLs"))
    (by simp) (by decide) (fun _ => rfl) fun _ => rfl

theorem Role.lawful : members.codec.Lawful fun o => o.metadata.IsWhole :=
  Fields.Lawful.codec
    ((Fields.Lawful.of mk)
      |>.literal "apiVersion" "rbac.authorization.k8s.io/v1"
      |>.literal "kind" "Role"
      |>.field (ObjectMeta.lawful.required "metadata" .empty)
      |>.field (PolicyRule.lossless.list.optional "rules"))
    (by simp) (by decide) (fun _ => rfl) fun _ => rfl

theorem AggregationRule.lossless : members.codec.Lossless :=
  Fields.Lawful.codec
    ((Fields.Lawful.of mk)
      |>.field (SelectorSpec.lossless.list.optional "clusterRoleSelectors"))
    (by simp) (by decide) (fun _ => rfl) fun _ => rfl

theorem ClusterRole.lawful : members.codec.Lawful fun o => o.metadata.IsWhole :=
  Fields.Lawful.codec
    ((Fields.Lawful.of mk)
      |>.literal "apiVersion" "rbac.authorization.k8s.io/v1"
      |>.literal "kind" "ClusterRole"
      |>.field (ObjectMeta.lawful.required "metadata" .empty)
      |>.field (PolicyRule.lossless.list.optional "rules")
      |>.field (AggregationRule.lossless.optional "aggregationRule"))
    (by simp) (by decide) (fun _ => rfl) fun _ => rfl

theorem RoleRef.lossless : members.codec.Lossless :=
  Fields.Lawful.codec
    ((Fields.Lawful.of mk)
      |>.field (lossless_text.required "apiGroup" "")
      |>.field (lossless_text.required "kind" "")
      |>.field (lossless_text.required "name" ""))
    (by simp) (by decide) (fun _ => rfl) fun _ => rfl

theorem Subject.lossless : members.codec.Lossless :=
  Fields.Lawful.codec
    ((Fields.Lawful.of mk)
      |>.field (lossless_text.required "kind" "")
      |>.field (lossless_text.required "name" "")
      |>.field (lossless_text.optional "namespace")
      |>.field (lossless_text.optional "apiGroup"))
    (by simp) (by decide) (fun _ => rfl) fun _ => rfl

theorem RoleBinding.lawful : members.codec.Lawful fun o => o.metadata.IsWhole :=
  Fields.Lawful.codec
    ((Fields.Lawful.of mk)
      |>.literal "apiVersion" "rbac.authorization.k8s.io/v1"
      |>.literal "kind" "RoleBinding"
      |>.field (ObjectMeta.lawful.required "metadata" .empty)
      |>.field (RoleRef.lossless.required "roleRef" .empty)
      |>.field (Subject.lossless.list.optional "subjects"))
    (by simp) (by decide) (fun _ => rfl) fun _ => rfl

theorem ClusterRoleBinding.lawful : members.codec.Lawful fun o => o.metadata.IsWhole :=
  Fields.Lawful.codec
    ((Fields.Lawful.of mk)
      |>.literal "apiVersion" "rbac.authorization.k8s.io/v1"
      |>.literal "kind" "ClusterRoleBinding"
      |>.field (ObjectMeta.lawful.required "metadata" .empty)
      |>.field (RoleRef.lossless.required "roleRef" .empty)
      |>.field (Subject.lossless.list.optional "subjects"))
    (by simp) (by decide) (fun _ => rfl) fun _ => rfl

/-! ## 6. Ingresses -/

theorem BackendPort.lossless : members.codec.Lossless :=
  Fields.Lawful.codec
    ((Fields.Lawful.of mk)
      |>.field (lossless_text.optional "name")
      |>.field (lossless_int32.optional "number"))
    (by simp) (by decide) (fun _ => rfl) fun _ => rfl

theorem ServiceBackend.lossless : members.codec.Lossless :=
  Fields.Lawful.codec
    ((Fields.Lawful.of mk)
      |>.field (lossless_text.required "name" "")
      |>.field (BackendPort.lossless.optional "port"))
    (by simp) (by decide) (fun _ => rfl) fun _ => rfl

theorem ResourceBackend.lossless : members.codec.Lossless :=
  Fields.Lawful.codec
    ((Fields.Lawful.of mk)
      |>.field (lossless_text.required "kind" "")
      |>.field (lossless_text.required "name" "")
      |>.field (lossless_text.optional "apiGroup"))
    (by simp) (by decide) (fun _ => rfl) fun _ => rfl

theorem IngressBackend.lossless : members.codec.Lossless :=
  Fields.Lawful.codec
    ((Fields.Lawful.of mk)
      |>.field (ServiceBackend.lossless.optional "service")
      |>.field (ResourceBackend.lossless.optional "resource"))
    (by simp) (by decide) (fun _ => rfl) fun _ => rfl

theorem IngressPath.lossless : members.codec.Lossless :=
  Fields.Lawful.codec
    ((Fields.Lawful.of mk)
      |>.field (lossless_text.optional "path")
      |>.field (lossless_text.required "pathType" "")
      |>.field (IngressBackend.lossless.required "backend" .empty))
    (by simp) (by decide) (fun _ => rfl) fun _ => rfl

theorem IngressPaths.lossless : members.codec.Lossless :=
  Fields.Lawful.codec ((Fields.Lawful.of mk).field (IngressPath.lossless.list.required "paths" []))
    (by simp) (by decide) (fun _ => rfl) fun _ => rfl

theorem IngressRule.lossless : members.codec.Lossless :=
  Fields.Lawful.codec
    ((Fields.Lawful.of mk)
      |>.field (lossless_text.optional "host")
      |>.field (IngressPaths.lossless.optional "http"))
    (by simp) (by decide) (fun _ => rfl) fun _ => rfl

theorem IngressCertificate.lossless : members.codec.Lossless :=
  Fields.Lawful.codec
    ((Fields.Lawful.of mk)
      |>.field (lossless_text.list.optional "hosts")
      |>.field (lossless_text.optional "secretName"))
    (by simp) (by decide) (fun _ => rfl) fun _ => rfl

theorem IngressSpec.lossless : members.codec.Lossless :=
  Fields.Lawful.codec
    ((Fields.Lawful.of mk)
      |>.field (IngressBackend.lossless.optional "defaultBackend")
      |>.field (lossless_text.optional "ingressClassName")
      |>.field (IngressCertificate.lossless.list.optional "tls")
      |>.field (IngressRule.lossless.list.optional "rules"))
    (by simp) (by decide) (fun _ => rfl) fun _ => rfl

theorem IngressLoadBalancer.lossless : members.codec.Lossless :=
  Fields.Lawful.codec (Fields.Lawful.of mk) (by simp) (by decide) (fun _ => rfl) fun _ => rfl

theorem IngressStatus.lossless : members.codec.Lossless :=
  Fields.Lawful.codec
    ((Fields.Lawful.of mk)
      |>.field (IngressLoadBalancer.lossless.optional "loadBalancer"))
    (by simp) (by decide) (fun _ => rfl) fun _ => rfl

theorem Ingress.lawful : members.codec.Lawful fun o => o.metadata.IsWhole :=
  Fields.Lawful.codec
    ((Fields.Lawful.of mk)
      |>.literal "apiVersion" "networking.k8s.io/v1"
      |>.literal "kind" "Ingress"
      |>.field (ObjectMeta.lawful.required "metadata" .empty)
      |>.field (IngressSpec.lossless.optional "spec")
      |>.field (IngressStatus.lossless.optional "status"))
    (by simp) (by decide) (fun _ => rfl) fun _ => rfl

end Reconciliation
