import Reconciliation.Identity
import Reconciliation.Objects.Access
import Reconciliation.Objects.Ingress
import Reconciliation.Objects.Untyped

/-!
# Managed objects

An object of any managed kind: one of the eleven structures, or a custom resource whose content is
free JSON.

* `ManagedObject.kind`, `metadata`, `identity` -- what the engine needs to know of every object;
* `ManagedObject.same` -- equality; custom resources are compared by metadata and data alone;
* `ManagedObject.encode?`, `ManagedObject.ofUntyped?` -- the wire form, which states the kind, and
  its reading as a given kind. A structure refuses the type of another kind, a custom resource does
  not look at it.
-/

namespace Reconciliation

/-- An object that belongs to another operator. -/
structure CustomResource where
  metadata : ObjectMeta
  data : Json

/-- A desired or observed object. -/
inductive ManagedObject where
  | configMap (o : ConfigMap)
  | secret (o : Secret)
  | service (o : Service)
  | serviceAccount (o : ServiceAccount)
  | deployment (o : Deployment)
  | statefulSet (o : StatefulSet)
  | role (o : Role)
  | roleBinding (o : RoleBinding)
  | clusterRole (o : ClusterRole)
  | clusterRoleBinding (o : ClusterRoleBinding)
  | ingress (o : Ingress)
  | custom (kind : CustomKind) (o : CustomResource)

namespace ManagedObject

/-! ## 1. What every object has -/

/-- The kind of the object. -/
def kind : ManagedObject → Kind
  | configMap _ => .configMap
  | secret _ => .secret
  | service _ => .service
  | serviceAccount _ => .serviceAccount
  | deployment _ => .deployment
  | statefulSet _ => .statefulSet
  | role _ => .role
  | roleBinding _ => .roleBinding
  | clusterRole _ => .clusterRole
  | clusterRoleBinding _ => .clusterRoleBinding
  | ingress _ => .ingress
  | custom k _ => .custom k

/-- The metadata of the object. -/
def metadata : ManagedObject → ObjectMeta
  | configMap o => o.metadata
  | secret o => o.metadata
  | service o => o.metadata
  | serviceAccount o => o.metadata
  | deployment o => o.metadata
  | statefulSet o => o.metadata
  | role o => o.metadata
  | roleBinding o => o.metadata
  | clusterRole o => o.metadata
  | clusterRoleBinding o => o.metadata
  | ingress o => o.metadata
  | custom _ o => o.metadata

/-- The object with other metadata. -/
def withMetadata (m : ObjectMeta) : ManagedObject → ManagedObject
  | configMap o => configMap { o with metadata := m }
  | secret o => secret { o with metadata := m }
  | service o => service { o with metadata := m }
  | serviceAccount o => serviceAccount { o with metadata := m }
  | deployment o => deployment { o with metadata := m }
  | statefulSet o => statefulSet { o with metadata := m }
  | role o => role { o with metadata := m }
  | roleBinding o => roleBinding { o with metadata := m }
  | clusterRole o => clusterRole { o with metadata := m }
  | clusterRoleBinding o => clusterRoleBinding { o with metadata := m }
  | ingress o => ingress { o with metadata := m }
  | custom k o => custom k { o with metadata := m }

@[simp] theorem metadata_withMetadata (m : ObjectMeta) (o : ManagedObject) :
    (o.withMetadata m).metadata = m := by cases o <;> rfl

@[simp] theorem kind_withMetadata (m : ObjectMeta) (o : ManagedObject) :
    (o.withMetadata m).kind = o.kind := by cases o <;> rfl

@[simp] theorem withMetadata_withMetadata (o : ManagedObject) (m m' : ObjectMeta) :
    (o.withMetadata m).withMetadata m' = o.withMetadata m' := by cases o <;> rfl

/-- The name of the object, empty when it has none. -/
def name (o : ManagedObject) : String := o.metadata.name.getD ""

/-- The identity of the object. -/
def identity (o : ManagedObject) : ObjectIdentity :=
  .of o.kind o.metadata.namespace? o.name

/-- Only name and namespace of the metadata count for the identity. -/
theorem identity_withMetadata {m : ObjectMeta} {o : ManagedObject}
    (hn : m.name = o.metadata.name) (hs : m.namespace? = o.metadata.namespace?) :
    (o.withMetadata m).identity = o.identity := by
  simp [identity, name, hn, hs]

/-- The uid that the API server gave the object. -/
def uid? (o : ManagedObject) : Option String := o.metadata.uid

/-- The uid of the owner that controls the object. -/
def controllerUid? (o : ManagedObject) : Option String := o.metadata.controllerUid?

/-- Whether the API server has persisted the object. -/
def exists? (o : ManagedObject) : Bool := o.metadata.exists?

/-- A custom resource with the given specification. -/
def ofSpec (kind : CustomKind) (metadata : ObjectMeta) (spec : Json) : ManagedObject :=
  custom kind ⟨metadata, .obj [("spec", spec)]⟩

/-- The custom resource inside, if the kind belongs to another operator. -/
def resource? : ManagedObject → Option CustomResource
  | custom _ o => some o
  | _ => none

/-! ## 2. Equality -/

/-- Equality of objects. -/
def same : ManagedObject → ManagedObject → Bool
  | configMap a, configMap b => a = b
  | secret a, secret b => a = b
  | service a, service b => a = b
  | serviceAccount a, serviceAccount b => a = b
  | deployment a, deployment b => a = b
  | statefulSet a, statefulSet b => a = b
  | role a, role b => a = b
  | roleBinding a, roleBinding b => a = b
  | clusterRole a, clusterRole b => a = b
  | clusterRoleBinding a, clusterRoleBinding b => a = b
  | ingress a, ingress b => a = b
  | custom k a, custom l b => k = l && a.metadata = b.metadata && a.data.same b.data
  | _, _ => false

@[simp] theorem same_self (o : ManagedObject) : o.same o = true := by cases o <;> simp [same]

/-! ## 3. Wire form -/

/-- The wire form, with the type of the kind; none for a custom resource whose data is neither null
nor an object. -/
def encode? : ManagedObject → Option Json
  | configMap o => some (ConfigMap.members.codec.encode o)
  | secret o => some (Secret.members.codec.encode o)
  | service o => some (Service.members.codec.encode o)
  | serviceAccount o => some (ServiceAccount.members.codec.encode o)
  | deployment o => some (Deployment.members.codec.encode o)
  | statefulSet o => some (StatefulSet.members.codec.encode o)
  | role o => some (Role.members.codec.encode o)
  | roleBinding o => some (RoleBinding.members.codec.encode o)
  | clusterRole o => some (ClusterRole.members.codec.encode o)
  | clusterRoleBinding o => some (ClusterRoleBinding.members.codec.encode o)
  | ingress o => some (Ingress.members.codec.encode o)
  | custom k o => do
    let data ← UntypedObject.dataMembers? o.data
    some (.ofMembers (("metadata", ObjectMeta.members.codec.encode o.metadata) :: data ++
      UntypedObject.typeMembers (some ⟨(Kind.custom k).apiVersion, (Kind.custom k).name⟩)))

/-- The object as the untyped API takes it. -/
def toUntyped? (o : ManagedObject) : Option UntypedObject := o.encode?.bind UntypedObject.ofJson?

/-- Reads an untyped object as a kind; an object that states no type is taken to be of the kind. -/
def ofUntyped? (kind : Kind) (o : UntypedObject) : Option ManagedObject := do
  let typed := { o with types := some (o.types.getD ⟨kind.apiVersion, kind.name⟩) }
  let j ← typed.encode?
  match kind with
  | .configMap => (ConfigMap.members.codec.ofJson? j).map configMap
  | .secret => (Secret.members.codec.ofJson? j).map secret
  | .service => (Service.members.codec.ofJson? j).map service
  | .serviceAccount => (ServiceAccount.members.codec.ofJson? j).map serviceAccount
  | .deployment => (Deployment.members.codec.ofJson? j).map deployment
  | .statefulSet => (StatefulSet.members.codec.ofJson? j).map statefulSet
  | .role => (Role.members.codec.ofJson? j).map role
  | .roleBinding => (RoleBinding.members.codec.ofJson? j).map roleBinding
  | .clusterRole => (ClusterRole.members.codec.ofJson? j).map clusterRole
  | .clusterRoleBinding => (ClusterRoleBinding.members.codec.ofJson? j).map clusterRoleBinding
  | .ingress => (Ingress.members.codec.ofJson? j).map ingress
  | .custom k => some (custom k ⟨o.metadata, o.data⟩)

/-- Reads JSON as an object of a kind. -/
def ofJson? (kind : Kind) (j : Json) : Option ManagedObject :=
  (UntypedObject.ofJson? j).bind (ofUntyped? kind)

end ManagedObject

end Reconciliation
