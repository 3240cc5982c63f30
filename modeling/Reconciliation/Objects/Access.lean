import Reconciliation.Objects.Workload

/-!
# Roles and their bindings

`Role` and `ClusterRole` permit verbs on resources, `RoleBinding` and `ClusterRoleBinding` grant a
role to subjects. What a binding refers to cannot be changed once it exists.
-/

namespace Reconciliation

/-! ## 1. Roles -/

/-- Verbs permitted on resources. -/
structure PolicyRule where
  verbs : List String
  apiGroups : Option (List String)
  resources : Option (List String)
  resourceNames : Option (List String)
  nonResourceURLs : Option (List String)
deriving DecidableEq

/-- The members of a policy rule. -/
def PolicyRule.members : Fields PolicyRule PolicyRule :=
  (Fields.of mk)
    |>.field (·.verbs) (.required "verbs" (.list .text) [])
    |>.field (·.apiGroups) (.optional "apiGroups" (.list .text))
    |>.field (·.resources) (.optional "resources" (.list .text))
    |>.field (·.resourceNames) (.optional "resourceNames" (.list .text))
    |>.field (·.nonResourceURLs) (.optional "nonResourceURLs" (.list .text))

/-- Permissions within a namespace. -/
structure Role where
  metadata : ObjectMeta
  rules : Option (List PolicyRule)
deriving DecidableEq

/-- The members of a role. -/
def Role.members : Fields Role Role :=
  (Fields.of mk)
    |>.literal "apiVersion" "rbac.authorization.k8s.io/v1"
    |>.literal "kind" "Role"
    |>.field (·.metadata) ObjectMeta.member
    |>.field (·.rules) (.optional "rules" (.list PolicyRule.members.codec))

/-- Which other cluster roles a cluster role adds up. -/
structure AggregationRule where
  clusterRoleSelectors : Option (List SelectorSpec)
deriving DecidableEq

/-- The members of an aggregation rule. -/
def AggregationRule.members : Fields AggregationRule AggregationRule :=
  (Fields.of mk).field (·.clusterRoleSelectors)
    (.optional "clusterRoleSelectors" (.list SelectorSpec.members.codec))

/-- Permissions in the whole cluster. -/
structure ClusterRole where
  metadata : ObjectMeta
  rules : Option (List PolicyRule)
  aggregationRule : Option AggregationRule
deriving DecidableEq

/-- The members of a cluster role. -/
def ClusterRole.members : Fields ClusterRole ClusterRole :=
  (Fields.of mk)
    |>.literal "apiVersion" "rbac.authorization.k8s.io/v1"
    |>.literal "kind" "ClusterRole"
    |>.field (·.metadata) ObjectMeta.member
    |>.field (·.rules) (.optional "rules" (.list PolicyRule.members.codec))
    |>.field (·.aggregationRule) (.optional "aggregationRule" AggregationRule.members.codec)

/-! ## 2. Bindings -/

/-- The role that a binding grants. -/
structure RoleRef where
  apiGroup : String
  kind : String
  name : String
deriving DecidableEq

/-- The members of a role reference. -/
def RoleRef.members : Fields RoleRef RoleRef :=
  (Fields.of mk)
    |>.field (·.apiGroup) (.required "apiGroup" .text "")
    |>.field (·.kind) (.required "kind" .text "")
    |>.field (·.name) (.required "name" .text "")

/-- A reference without any name. -/
def RoleRef.empty : RoleRef := ⟨"", "", ""⟩

/-- Who is granted a role. -/
structure Subject where
  kind : String
  name : String
  (namespace? : Option String)
  apiGroup : Option String
deriving DecidableEq

/-- The members of a subject. -/
def Subject.members : Fields Subject Subject :=
  (Fields.of mk)
    |>.field (·.kind) (.required "kind" .text "")
    |>.field (·.name) (.required "name" .text "")
    |>.field (·.namespace?) (.optional "namespace" .text)
    |>.field (·.apiGroup) (.optional "apiGroup" .text)

/-- A grant within a namespace. -/
structure RoleBinding where
  metadata : ObjectMeta
  roleRef : RoleRef
  subjects : Option (List Subject)
deriving DecidableEq

/-- The members of a role binding. -/
def RoleBinding.members : Fields RoleBinding RoleBinding :=
  (Fields.of mk)
    |>.literal "apiVersion" "rbac.authorization.k8s.io/v1"
    |>.literal "kind" "RoleBinding"
    |>.field (·.metadata) ObjectMeta.member
    |>.field (·.roleRef) (.required "roleRef" RoleRef.members.codec .empty)
    |>.field (·.subjects) (.optional "subjects" (.list Subject.members.codec))

/-- A grant in the whole cluster. -/
structure ClusterRoleBinding where
  metadata : ObjectMeta
  roleRef : RoleRef
  subjects : Option (List Subject)
deriving DecidableEq

/-- The members of a cluster role binding. -/
def ClusterRoleBinding.members : Fields ClusterRoleBinding ClusterRoleBinding :=
  (Fields.of mk)
    |>.literal "apiVersion" "rbac.authorization.k8s.io/v1"
    |>.literal "kind" "ClusterRoleBinding"
    |>.field (·.metadata) ObjectMeta.member
    |>.field (·.roleRef) (.required "roleRef" RoleRef.members.codec .empty)
    |>.field (·.subjects) (.optional "subjects" (.list Subject.members.codec))

end Reconciliation
