import Reconciliation.Mutation.Policies

/-!
# Merge policies

A policy is the merge of one kind, applied to objects of any kind. Registries take policies of any
make; the built-in ones fail on objects which are not of their own kind. The policy that replaces
the specification of a custom resource can be made for every kind, and fails on the objects of a
kind which has a structure.

* `MergePolicy` -- what a registry asks of a policy: its kind and its merge, which leaves nothing
  half done: it returns the merged object or an error;
* `AnyPolicy` -- a policy of any make; `AnyPolicy.typed` -- the one that is made of a merge of the
  objects of one structure;
* `Policy` -- the built-in policies; `Policy.defaults` -- one per kind, in the order of kinds.
-/

namespace Reconciliation

/-! ## 1. Policies of any make -/

/-- What a registry asks of a policy. -/
class MergePolicy (π : Type) where
  /-- The kind that the policy is for. -/
  kind : π → Kind
  /-- Lays the desired object over the existing one. -/
  merge : π → ManagedObject → ManagedObject → Except MutateError ManagedObject

/-- A policy of any make. -/
structure AnyPolicy where
  kind : Kind
  merge : ManagedObject → ManagedObject → Except MutateError ManagedObject

instance : MergePolicy AnyPolicy := ⟨AnyPolicy.kind, AnyPolicy.merge⟩

/-- A structure that the objects of one kind have. -/
class KindObject (α : Type) where
  /-- The kind of the objects. -/
  kind : Kind
  /-- The object, if it is of the kind. -/
  ofObject? : ManagedObject → Option α
  toObject : α → ManagedObject

instance : KindObject ConfigMap :=
  ⟨.configMap, fun | .configMap o => some o | _ => none, .configMap⟩
instance : KindObject Secret := ⟨.secret, fun | .secret o => some o | _ => none, .secret⟩
instance : KindObject Service := ⟨.service, fun | .service o => some o | _ => none, .service⟩
instance : KindObject ServiceAccount :=
  ⟨.serviceAccount, fun | .serviceAccount o => some o | _ => none, .serviceAccount⟩
instance : KindObject Deployment :=
  ⟨.deployment, fun | .deployment o => some o | _ => none, .deployment⟩
instance : KindObject StatefulSet :=
  ⟨.statefulSet, fun | .statefulSet o => some o | _ => none, .statefulSet⟩
instance : KindObject Role := ⟨.role, fun | .role o => some o | _ => none, .role⟩
instance : KindObject RoleBinding :=
  ⟨.roleBinding, fun | .roleBinding o => some o | _ => none, .roleBinding⟩
instance : KindObject ClusterRole :=
  ⟨.clusterRole, fun | .clusterRole o => some o | _ => none, .clusterRole⟩
instance : KindObject ClusterRoleBinding :=
  ⟨.clusterRoleBinding, fun | .clusterRoleBinding o => some o | _ => none, .clusterRoleBinding⟩
instance : KindObject Ingress := ⟨.ingress, fun | .ingress o => some o | _ => none, .ingress⟩

/-- The policy that merges objects of one structure. It fails on all others. -/
def AnyPolicy.typed [KindObject α] (merge : α → α → Except MutateError α) : AnyPolicy where
  kind := KindObject.kind α
  merge existing desired :=
    match KindObject.ofObject? existing, KindObject.ofObject? desired with
    | some e, some d => (merge e d).map KindObject.toObject
    | _, _ => .error (.kindMismatch existing.kind desired.kind)

/-! ## 2. Built-in policies -/

/-- The merge of one kind. -/
inductive Policy where
  | configMap
  | secret
  | service
  | serviceAccount
  | deployment
  | statefulSet
  | role
  | roleBinding
  | clusterRole
  | clusterRoleBinding
  | ingress
  | spec (kind : Kind)
deriving DecidableEq

namespace Policy

/-- The kind that the policy is for. -/
def kind : Policy → Kind
  | configMap => .configMap
  | secret => .secret
  | service => .service
  | serviceAccount => .serviceAccount
  | deployment => .deployment
  | statefulSet => .statefulSet
  | role => .role
  | roleBinding => .roleBinding
  | clusterRole => .clusterRole
  | clusterRoleBinding => .clusterRoleBinding
  | ingress => .ingress
  | spec k => k

/-- The built-in policy of a kind. -/
def ofKind : Kind → Policy
  | .configMap => configMap
  | .secret => secret
  | .service => service
  | .serviceAccount => serviceAccount
  | .deployment => deployment
  | .statefulSet => statefulSet
  | .role => role
  | .roleBinding => roleBinding
  | .clusterRole => clusterRole
  | .clusterRoleBinding => clusterRoleBinding
  | .ingress => ingress
  | .custom k => spec (.custom k)

@[simp] theorem kind_ofKind (k : Kind) : (ofKind k).kind = k := by cases k <;> rfl

/-- The built-in policies. -/
def defaults : List Policy := Kind.all.map ofKind

/-- Lays the desired object over the existing one. -/
def merge (p : Policy) (existing desired : ManagedObject) : Except MutateError ManagedObject :=
  match p, existing, desired with
  | configMap, .configMap e, .configMap d => .ok (.configMap (e.merge d))
  | secret, .secret e, .secret d => .ok (.secret (e.merge d))
  | service, .service e, .service d => .ok (.service (e.merge d))
  | serviceAccount, .serviceAccount e, .serviceAccount d => .ok (.serviceAccount (e.merge d))
  | deployment, .deployment e, .deployment d => (e.merge d).map .deployment
  | statefulSet, .statefulSet e, .statefulSet d => (e.merge d).map .statefulSet
  | role, .role e, .role d => .ok (.role (e.merge d))
  | roleBinding, .roleBinding e, .roleBinding d => (e.merge d).map .roleBinding
  | clusterRole, .clusterRole e, .clusterRole d => .ok (.clusterRole (e.merge d))
  | clusterRoleBinding, .clusterRoleBinding e, .clusterRoleBinding d =>
    (e.merge d).map .clusterRoleBinding
  | ingress, .ingress e, .ingress d => .ok (.ingress (e.merge d))
  | spec k, existing, desired =>
    if existing.kind ≠ k ∨ desired.kind ≠ k then
      .error (.kindMismatch existing.kind desired.kind)
    else
      match existing, desired with
      | .custom c e, .custom _ d => .ok (.custom c (e.merge d))
      | _, _ => .error (.kindMismatch existing.kind k)
  | _, existing, desired => .error (.kindMismatch existing.kind desired.kind)

instance : MergePolicy Policy := ⟨Policy.kind, Policy.merge⟩

end Policy

end Reconciliation
