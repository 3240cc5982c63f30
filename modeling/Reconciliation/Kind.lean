/-!
# Kinds

The closed set of kinds the engine manages. Eleven are built into the API server and have a type of
their own; four belong to other operators and are carried as free JSON (`CustomKind`). A kind has a
name, a place in the API (`Kind.group`, `Kind.version`, `Kind.plural`) and a scope
(`Kind.isNamespaced`). Kinds are ordered as they are declared.
-/

namespace Reconciliation

/-- A kind defined by another operator. -/
inductive CustomKind where
  | serviceMonitor
  | prometheusRule
  | route
  | grafanaDatasource
deriving DecidableEq

/-- The kind of a managed object. -/
inductive Kind where
  | configMap
  | secret
  | service
  | serviceAccount
  | deployment
  | statefulSet
  | role
  | roleBinding
  | clusterRole
  | clusterRoleBinding
  | ingress
  | custom (kind : CustomKind)
deriving DecidableEq

namespace CustomKind

/-- Every custom kind, in order. -/
def all : List CustomKind := [serviceMonitor, prometheusRule, route, grafanaDatasource]

/-- The position in the order of kinds. -/
def rank : CustomKind → Nat
  | serviceMonitor => 11
  | prometheusRule => 12
  | route => 13
  | grafanaDatasource => 14

end CustomKind

namespace Kind

/-- Every kind, in order. -/
def all : List Kind :=
  [configMap, secret, service, serviceAccount, deployment, statefulSet, role, roleBinding,
    clusterRole, clusterRoleBinding, ingress] ++ CustomKind.all.map custom

/-! ## 1. Order -/

/-- The position in the order of kinds. -/
def rank : Kind → Nat
  | configMap => 0
  | secret => 1
  | service => 2
  | serviceAccount => 3
  | deployment => 4
  | statefulSet => 5
  | role => 6
  | roleBinding => 7
  | clusterRole => 8
  | clusterRoleBinding => 9
  | ingress => 10
  | custom k => k.rank

theorem rank_injective {a b : Kind} (h : a.rank = b.rank) : a = b := by
  rcases a with _ | _ | _ | _ | _ | _ | _ | _ | _ | _ | _ | (_ | _ | _ | _) <;>
    rcases b with _ | _ | _ | _ | _ | _ | _ | _ | _ | _ | _ | (_ | _ | _ | _) <;>
    simp_all [rank, CustomKind.rank]

instance : Ord Kind := ⟨compareOn rank⟩

instance : Std.TransOrd Kind := inferInstanceAs (Std.TransCmp (compareOn Kind.rank))

theorem compare_eq_iff {a b : Kind} : compare a b = .eq ↔ a = b :=
  ⟨fun h => rank_injective (Std.LawfulEqOrd.compare_eq_iff_eq.1 h),
    fun h => h ▸ Std.ReflOrd.compare_self⟩

instance : Std.LawfulEqOrd Kind where
  eq_of_compare := compare_eq_iff.1

/-! ## 2. Names and places in the API -/

/-- The name of the kind, as the API server spells it. -/
def name : Kind → String
  | configMap => "ConfigMap"
  | secret => "Secret"
  | service => "Service"
  | serviceAccount => "ServiceAccount"
  | deployment => "Deployment"
  | statefulSet => "StatefulSet"
  | role => "Role"
  | roleBinding => "RoleBinding"
  | clusterRole => "ClusterRole"
  | clusterRoleBinding => "ClusterRoleBinding"
  | ingress => "Ingress"
  | custom .serviceMonitor => "ServiceMonitor"
  | custom .prometheusRule => "PrometheusRule"
  | custom .route => "Route"
  | custom .grafanaDatasource => "GrafanaDatasource"

/-- The API group; the core group has no name. -/
def group : Kind → String
  | configMap | secret | service | serviceAccount => ""
  | deployment | statefulSet => "apps"
  | role | roleBinding | clusterRole | clusterRoleBinding => "rbac.authorization.k8s.io"
  | ingress => "networking.k8s.io"
  | custom .serviceMonitor | custom .prometheusRule => "monitoring.coreos.com"
  | custom .route => "route.openshift.io"
  | custom .grafanaDatasource => "grafana.integreatly.org"

/-- The version within the group. -/
def version : Kind → String
  | custom .grafanaDatasource => "v1beta1"
  | _ => "v1"

/-- Group and version as objects state them. -/
def apiVersion (k : Kind) : String :=
  if k.group.isEmpty then k.version else k.group ++ "/" ++ k.version

/-- The name of the collection in request paths. -/
def plural : Kind → String
  | configMap => "configmaps"
  | secret => "secrets"
  | service => "services"
  | serviceAccount => "serviceaccounts"
  | deployment => "deployments"
  | statefulSet => "statefulsets"
  | role => "roles"
  | roleBinding => "rolebindings"
  | clusterRole => "clusterroles"
  | clusterRoleBinding => "clusterrolebindings"
  | ingress => "ingresses"
  | custom .serviceMonitor => "servicemonitors"
  | custom .prometheusRule => "prometheusrules"
  | custom .route => "routes"
  | custom .grafanaDatasource => "grafanadatasources"

/-- Whether objects of the kind live in a namespace. Objects outside of namespaces cannot carry the
controller reference of an owner inside one. -/
def isNamespaced : Kind → Bool
  | clusterRole | clusterRoleBinding => false
  | _ => true

/-- Whether the kind belongs to another operator. -/
def isCustom : Kind → Bool
  | custom _ => true
  | _ => false

/-- The kind with a name. -/
def ofName? (s : String) : Option Kind := all.find? fun k => k.name == s

/-- The kind with an API version and a name. -/
def ofTypeMeta? (apiVersion name : String) : Option Kind :=
  all.find? fun k => k.name == name && k.apiVersion == apiVersion

end Kind

end Reconciliation
