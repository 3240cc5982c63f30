import Reconciliation.Objects.Workload
import Reconciliation.Proofs.Wire.Structure
import Reconciliation.Proofs.Wire.Timestamp

/-!
# The codecs of pod templates and strategies

Every structure inside a pod template, and the strategies of the two workloads, have a lawful codec:
each is put together from the laws of its members in declaration order. Nothing is lost in writing
but fractions of a second and instants beyond the calendar.

* **`PodTemplate.lawful`** -- a template survives writing just if the two instants of its metadata
  do (`PodTemplate.IsWhole`);
* `DeploymentStrategy.lossless`, `StatefulSetStrategy.lossless` -- a strategy always does;
* **`PodTemplate.exists_merge?`** -- so merging two templates never fails on instants of the
  calendar, whole seconds or not.
-/

namespace Reconciliation

open Codec

/-! ## 1. Scalars of their own -/

theorem Codec.lawful_instant : instant.Lawful Instant.IsWhole := by
  refine Lawful.scalar (fun _ => rfl) (fun _ => rfl) (fun a b h => ?_)
    fun a => a.ofText?_toText_eq_some_iff
  have hread : Instant.ofText? a.toText = some b := h
  rw [Instant.ofText?_toText] at hread
  split at hread
  · obtain rfl := Option.some.inj hread
    exact congrArg Json.str a.toText_cut
  · cases hread

theorem IntOrText.lossless : codec.Lossless := by
  refine lossless_scalar (fun a => ?_) (fun _ => rfl) fun a => ?_
  · cases a <;> rfl
  · cases a with
    | text s => rfl
    | int n =>
      have hread : codec.ofJson? (codec.encode (.int n)) =
        (int32.ofJson? (int32.encode n)).map IntOrText.int := rfl
      obtain ⟨form, law, -⟩ := lossless_int32
      rw [hread, (law.read_encode n).2 trivial]
      rfl

theorem Quantity.lossless : codec.Lossless :=
  lossless_scalar (fun _ => rfl) (fun _ => rfl) fun _ => rfl

/-! ## 2. Metadata -/

theorem OwnerReference.lossless : members.codec.Lossless :=
  Fields.Lawful.codec
    ((Fields.Lawful.of mk)
      |>.field (lossless_text.required "apiVersion" "")
      |>.field (lossless_text.required "kind" "")
      |>.field (lossless_text.required "name" "")
      |>.field (lossless_text.required "uid" "")
      |>.field (lossless_flag.optional "controller")
      |>.field (lossless_flag.optional "blockOwnerDeletion"))
    (by simp) (by decide) (fun _ => rfl) fun _ => rfl

/-- The instants of the metadata survive being written. -/
def ObjectMeta.IsWhole (m : ObjectMeta) : Prop :=
  (∀ t ∈ m.creationTimestamp, t.IsWhole) ∧ ∀ t ∈ m.deletionTimestamp, t.IsWhole

theorem ObjectMeta.lawful : members.codec.Lawful ObjectMeta.IsWhole :=
  Fields.Lawful.codec
    ((Fields.Lawful.of mk)
      |>.field (lossless_text.optional "name")
      |>.field (lossless_text.optional "namespace")
      |>.field (lossless_text.optional "generateName")
      |>.field (lossless_text.optional "uid")
      |>.field (lossless_text.optional "resourceVersion")
      |>.field (lossless_text.optional "selfLink")
      |>.field (lossless_int64.optional "generation")
      |>.field (lossless_int64.optional "deletionGracePeriodSeconds")
      |>.field (lossless_text.dict.optional "labels")
      |>.field (lossless_text.dict.optional "annotations")
      |>.field (lossless_text.list.optional "finalizers")
      |>.field (lawful_instant.optional "creationTimestamp")
      |>.field (lawful_instant.optional "deletionTimestamp")
      |>.field (OwnerReference.lossless.list.optional "ownerReferences"))
    (by simp [IsWhole]) (by decide) (fun _ => rfl) fun _ => rfl

/-! ## 3. Containers -/

theorem EnvironmentVariable.lossless : members.codec.Lossless :=
  Fields.Lawful.codec
    ((Fields.Lawful.of mk)
      |>.field (lossless_text.required "name" "")
      |>.field (lossless_text.optional "value"))
    (by simp) (by decide) (fun _ => rfl) fun _ => rfl

theorem ContainerPort.lossless : members.codec.Lossless :=
  Fields.Lawful.codec ((Fields.Lawful.of mk).field (lossless_int32.required "containerPort" 0))
    (by simp) (by decide) (fun _ => rfl) fun _ => rfl

theorem ResourceAmounts.lossless : members.codec.Lossless :=
  Fields.Lawful.codec
    ((Fields.Lawful.of mk)
      |>.field (Quantity.lossless.dict.optional "limits")
      |>.field (Quantity.lossless.dict.optional "requests"))
    (by simp) (by decide) (fun _ => rfl) fun _ => rfl

theorem VolumeMount.lossless : members.codec.Lossless :=
  Fields.Lawful.codec
    ((Fields.Lawful.of mk)
      |>.field (lossless_text.required "name" "")
      |>.field (lossless_text.required "mountPath" "")
      |>.field (lossless_flag.optional "readOnly"))
    (by simp) (by decide) (fun _ => rfl) fun _ => rfl

theorem Container.lossless : members.codec.Lossless :=
  Fields.Lawful.codec
    ((Fields.Lawful.of mk)
      |>.field (lossless_text.required "name" "")
      |>.field (lossless_text.optional "image")
      |>.field (lossless_text.list.optional "args")
      |>.field (EnvironmentVariable.lossless.list.optional "env")
      |>.field (ContainerPort.lossless.list.optional "ports")
      |>.field (ResourceAmounts.lossless.optional "resources")
      |>.field (VolumeMount.lossless.list.optional "volumeMounts"))
    (by simp) (by decide) (fun _ => rfl) fun _ => rfl

/-! ## 4. Volumes and placement -/

theorem EmptyDirectory.lossless : members.codec.Lossless :=
  Fields.Lawful.codec (Fields.Lawful.of mk) (by simp) (by decide) (fun _ => rfl) fun _ => rfl

theorem ConfigMapVolume.lossless : members.codec.Lossless :=
  Fields.Lawful.codec
    ((Fields.Lawful.of mk)
      |>.field (lossless_text.required "name" "")
      |>.field (lossless_int32.optional "defaultMode"))
    (by simp) (by decide) (fun _ => rfl) fun _ => rfl

theorem SecretVolume.lossless : members.codec.Lossless :=
  Fields.Lawful.codec ((Fields.Lawful.of mk).field (lossless_text.optional "secretName"))
    (by simp) (by decide) (fun _ => rfl) fun _ => rfl

theorem Volume.lossless : members.codec.Lossless :=
  Fields.Lawful.codec
    ((Fields.Lawful.of mk)
      |>.field (lossless_text.required "name" "")
      |>.field (EmptyDirectory.lossless.optional "emptyDir")
      |>.field (ConfigMapVolume.lossless.optional "configMap")
      |>.field (SecretVolume.lossless.optional "secret"))
    (by simp) (by decide) (fun _ => rfl) fun _ => rfl

theorem Toleration.lossless : members.codec.Lossless :=
  Fields.Lawful.codec
    ((Fields.Lawful.of mk)
      |>.field (lossless_text.optional "key")
      |>.field (lossless_text.optional "operator")
      |>.field (lossless_int64.optional "tolerationSeconds"))
    (by simp) (by decide) (fun _ => rfl) fun _ => rfl

theorem SecurityContext.lossless : members.codec.Lossless :=
  Fields.Lawful.codec
    ((Fields.Lawful.of mk)
      |>.field (lossless_int64.optional "runAsUser")
      |>.field (lossless_int64.optional "fsGroup")
      |>.field (lossless_flag.optional "runAsNonRoot"))
    (by simp) (by decide) (fun _ => rfl) fun _ => rfl

/-! ## 5. Templates -/

theorem PodSpec.lossless : members.codec.Lossless :=
  Fields.Lawful.codec
    ((Fields.Lawful.of mk)
      |>.field (Container.lossless.list.required "containers" [])
      |>.field (Container.lossless.list.optional "initContainers")
      |>.field (lossless_text.dict.optional "nodeSelector")
      |>.field (lossless_text.optional "serviceAccountName")
      |>.field (lossless_text.optional "restartPolicy")
      |>.field (lossless_int64.optional "terminationGracePeriodSeconds")
      |>.field (lossless_flag.optional "hostNetwork")
      |>.field (SecurityContext.lossless.optional "securityContext")
      |>.field (Toleration.lossless.list.optional "tolerations")
      |>.field (Volume.lossless.list.optional "volumes"))
    (by simp) (by decide) (fun _ => rfl) fun _ => rfl

/-- The template survives being written. -/
def PodTemplate.IsWhole (t : PodTemplate) : Prop := ∀ m ∈ t.metadata, m.IsWhole

/-- **The codec of pod templates is lawful.** -/
theorem PodTemplate.lawful : members.codec.Lawful PodTemplate.IsWhole :=
  Fields.Lawful.codec
    ((Fields.Lawful.of mk)
      |>.field (ObjectMeta.lawful.optional "metadata")
      |>.field (PodSpec.lossless.optional "spec"))
    (by simp [IsWhole]) (by decide) (fun _ => rfl) fun _ => rfl

/-! ## 6. Strategies -/

theorem DeploymentRollout.lossless : members.codec.Lossless :=
  Fields.Lawful.codec
    ((Fields.Lawful.of mk)
      |>.field (IntOrText.lossless.optional "maxSurge")
      |>.field (IntOrText.lossless.optional "maxUnavailable"))
    (by simp) (by decide) (fun _ => rfl) fun _ => rfl

theorem DeploymentStrategy.lossless : members.codec.Lossless :=
  Fields.Lawful.codec
    ((Fields.Lawful.of mk)
      |>.field (lossless_text.optional "type")
      |>.field (DeploymentRollout.lossless.optional "rollingUpdate"))
    (by simp) (by decide) (fun _ => rfl) fun _ => rfl

theorem StatefulSetRollout.lossless : members.codec.Lossless :=
  Fields.Lawful.codec
    ((Fields.Lawful.of mk)
      |>.field (lossless_int32.optional "partition")
      |>.field (IntOrText.lossless.optional "maxUnavailable"))
    (by simp) (by decide) (fun _ => rfl) fun _ => rfl

theorem StatefulSetStrategy.lossless : members.codec.Lossless :=
  Fields.Lawful.codec
    ((Fields.Lawful.of mk)
      |>.field (lossless_text.optional "type")
      |>.field (StatefulSetRollout.lossless.optional "rollingUpdate"))
    (by simp) (by decide) (fun _ => rfl) fun _ => rfl

/-! ## 7. Merging -/

/-- The instants of the metadata are of the calendar. -/
def ObjectMeta.IsDated (m : ObjectMeta) : Prop :=
  (∀ t ∈ m.creationTimestamp, t.isDated = true) ∧ ∀ t ∈ m.deletionTimestamp, t.isDated = true

/-- The instants of the template are of the calendar. -/
def PodTemplate.IsDated (t : PodTemplate) : Prop := ∀ m ∈ t.metadata, m.IsDated

/-- The metadata with its instants as they are written. -/
def ObjectMeta.cut (m : ObjectMeta) : ObjectMeta :=
  { m with
    creationTimestamp := m.creationTimestamp.map (·.cut)
    deletionTimestamp := m.deletionTimestamp.map (·.cut) }

theorem ObjectMeta.encode_cut (m : ObjectMeta) :
    members.codec.encode m.cut = members.codec.encode m := by
  have hinstant : ∀ t? : Option Instant,
      (t?.map (·.cut)).map instant.encode = t?.map instant.encode := by
    intro t?
    rw [Option.map_map]
    exact congrArg (t?.map ·) (funext fun t => congrArg Json.str t.toText_cut)
  simp only [Fields.codec, members, Fields.field, Fields.of, Member.optional, cut, hinstant]

theorem ObjectMeta.IsDated.isWhole_cut {m : ObjectMeta} (h : m.IsDated) : m.cut.IsWhole := by
  have hinstant : ∀ {t? : Option Instant}, (∀ t ∈ t?, t.isDated = true) →
      ∀ t ∈ t?.map (·.cut), t.IsWhole := by
    intro t? ht t hmem
    obtain ⟨t', ht', rfl⟩ := Option.map_eq_some_iff.1 hmem
    exact Instant.isWhole_cut (ht t' ht')
  exact ⟨hinstant h.1, hinstant h.2⟩

/-- The written form of a template with instants of the calendar can be read, though not always as
the template itself. -/
theorem PodTemplate.IsDated.reads {t : PodTemplate} (h : t.IsDated) :
    members.codec.Reads (members.codec.encode t) := by
  obtain ⟨_, law, -⟩ := PodTemplate.lawful
  have hcut : members.codec.encode { t with metadata := t.metadata.map (·.cut) } =
      members.codec.encode t := by
    have hmeta : (t.metadata.map (·.cut)).map ObjectMeta.members.codec.encode =
        t.metadata.map ObjectMeta.members.codec.encode := by
      rw [Option.map_map]
      exact congrArg (t.metadata.map ·) (funext ObjectMeta.encode_cut)
    simp only [Fields.codec, members, Fields.field, Fields.of, Member.optional] at hmeta ⊢
    rw [hmeta]
  rw [← hcut]
  refine law.reads_encode fun m hm => ?_
  obtain ⟨m', hm', rfl⟩ := Option.map_eq_some_iff.1 hm
  exact (h m' hm').isWhole_cut

/-- **Merging two templates does not fail.** -/
theorem PodTemplate.exists_merge? {a b : PodTemplate} (ha : a.IsDated) (hb : b.IsDated) :
    ∃ merged, members.codec.merge? a b = some merged := by
  obtain ⟨_, law, -⟩ := PodTemplate.lawful
  exact law.exists_merge? ha.reads hb.reads

/-- Nor does merging two values that may be absent, if their codec loses nothing. -/
theorem Codec.Lawful.exists_merge?_option {c : Codec α} (h : c.Lossless) (a b : Option α) :
    ∃ merged, c.option.merge? a b = some merged := by
  obtain ⟨_, law⟩ := h.option
  exact law.exists_merge? (law.reads_encode fun _ _ => trivial)
    (law.reads_encode fun _ _ => trivial)

end Reconciliation
