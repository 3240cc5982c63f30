import Reconciliation.Objects.Metadata

/-!
# Ingresses

Routes from outside the cluster to its services: rules by host and path, each with a backend, and a
backend for all that no rule matches.
-/

namespace Reconciliation

/-- A port by name or number. -/
structure BackendPort where
  name : Option String
  number : Option Int32
deriving DecidableEq

/-- The members of a backend port. -/
def BackendPort.members : Fields BackendPort BackendPort :=
  (Fields.of mk)
    |>.field (·.name) (.optional "name" .text)
    |>.field (·.number) (.optional "number" .int32)

/-- A service as a backend. -/
structure ServiceBackend where
  name : String
  port : Option BackendPort
deriving DecidableEq

/-- The members of a service backend. -/
def ServiceBackend.members : Fields ServiceBackend ServiceBackend :=
  (Fields.of mk)
    |>.field (·.name) (.required "name" .text "")
    |>.field (·.port) (.optional "port" BackendPort.members.codec)

/-- Any object of the namespace as a backend. -/
structure ResourceBackend where
  kind : String
  name : String
  apiGroup : Option String
deriving DecidableEq

/-- The members of a resource backend. -/
def ResourceBackend.members : Fields ResourceBackend ResourceBackend :=
  (Fields.of mk)
    |>.field (·.kind) (.required "kind" .text "")
    |>.field (·.name) (.required "name" .text "")
    |>.field (·.apiGroup) (.optional "apiGroup" .text)

/-- Where requests go. -/
structure IngressBackend where
  service : Option ServiceBackend
  resource : Option ResourceBackend
deriving DecidableEq

/-- The members of a backend. -/
def IngressBackend.members : Fields IngressBackend IngressBackend :=
  (Fields.of mk)
    |>.field (·.service) (.optional "service" ServiceBackend.members.codec)
    |>.field (·.resource) (.optional "resource" ResourceBackend.members.codec)

/-- A backend in which nothing is set. -/
def IngressBackend.empty : IngressBackend := ⟨none, none⟩

/-- A path and where its requests go. -/
structure IngressPath where
  path : Option String
  pathType : String
  backend : IngressBackend
deriving DecidableEq

/-- The members of a path. -/
def IngressPath.members : Fields IngressPath IngressPath :=
  (Fields.of mk)
    |>.field (·.path) (.optional "path" .text)
    |>.field (·.pathType) (.required "pathType" .text "")
    |>.field (·.backend) (.required "backend" IngressBackend.members.codec .empty)

/-- The paths of a host. -/
structure IngressPaths where
  paths : List IngressPath
deriving DecidableEq

/-- The members of the paths of a host. -/
def IngressPaths.members : Fields IngressPaths IngressPaths :=
  (Fields.of mk).field (·.paths) (.required "paths" (.list IngressPath.members.codec) [])

/-- The paths of one host, or of all. -/
structure IngressRule where
  host : Option String
  http : Option IngressPaths
deriving DecidableEq

/-- The members of a rule. -/
def IngressRule.members : Fields IngressRule IngressRule :=
  (Fields.of mk)
    |>.field (·.host) (.optional "host" .text)
    |>.field (·.http) (.optional "http" IngressPaths.members.codec)

/-- The certificate for a set of hosts. -/
structure IngressCertificate where
  hosts : Option (List String)
  secretName : Option String
deriving DecidableEq

/-- The members of a certificate. -/
def IngressCertificate.members : Fields IngressCertificate IngressCertificate :=
  (Fields.of mk)
    |>.field (·.hosts) (.optional "hosts" (.list .text))
    |>.field (·.secretName) (.optional "secretName" .text)

/-- What an ingress routes. -/
structure IngressSpec where
  defaultBackend : Option IngressBackend
  ingressClassName : Option String
  tls : Option (List IngressCertificate)
  rules : Option (List IngressRule)
deriving DecidableEq

/-- The members of an ingress specification. -/
def IngressSpec.members : Fields IngressSpec IngressSpec :=
  (Fields.of mk)
    |>.field (·.defaultBackend) (.optional "defaultBackend" IngressBackend.members.codec)
    |>.field (·.ingressClassName) (.optional "ingressClassName" .text)
    |>.field (·.tls) (.optional "tls" (.list IngressCertificate.members.codec))
    |>.field (·.rules) (.optional "rules" (.list IngressRule.members.codec))

/-- A specification in which nothing is set. -/
def IngressSpec.empty : IngressSpec := ⟨none, none, none, none⟩

/-- The state of the load balancer in front of an ingress; nothing in it is of interest. -/
structure IngressLoadBalancer where
deriving DecidableEq

/-- The members of the load balancer state. -/
def IngressLoadBalancer.members : Fields IngressLoadBalancer IngressLoadBalancer := Fields.of mk

/-- What the API server reports about an ingress. -/
structure IngressStatus where
  loadBalancer : Option IngressLoadBalancer
deriving DecidableEq

/-- The members of an ingress status. -/
def IngressStatus.members : Fields IngressStatus IngressStatus :=
  (Fields.of mk).field (·.loadBalancer)
    (.optional "loadBalancer" IngressLoadBalancer.members.codec)

/-- An ingress. -/
structure Ingress where
  metadata : ObjectMeta
  spec : Option IngressSpec
  status : Option IngressStatus
deriving DecidableEq

/-- The members of an ingress. -/
def Ingress.members : Fields Ingress Ingress :=
  (Fields.of mk)
    |>.literal "apiVersion" "networking.k8s.io/v1"
    |>.literal "kind" "Ingress"
    |>.field (·.metadata) ObjectMeta.member
    |>.field (·.spec) (.optional "spec" IngressSpec.members.codec)
    |>.field (·.status) (.optional "status" IngressStatus.members.codec)

end Reconciliation
