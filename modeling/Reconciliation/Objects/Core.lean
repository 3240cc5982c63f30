import Reconciliation.Objects.Metadata

/-!
# Configuration, secrets, services and accounts

The kinds of the core group: `ConfigMap`, `Secret`, `Service` and `ServiceAccount`, each with the
members it is written with. A port may be named or numbered (`IntOrText`). Specification and status
of a service have more members in the API, which nobody asks for by name: a merge keeps them like
all members that it does not replace.
-/

namespace Reconciliation

/-! ## 1. Configuration and secrets -/

/-- Configuration data, as texts and as bytes. -/
structure ConfigMap where
  metadata : ObjectMeta
  data : Option (Dict String String)
  binaryData : Option (Dict String (List UInt8))
  immutable : Option Bool
deriving DecidableEq

/-- The members of a configuration map. -/
def ConfigMap.members : Fields ConfigMap ConfigMap :=
  (Fields.of mk)
    |>.literal "apiVersion" "v1"
    |>.literal "kind" "ConfigMap"
    |>.field (·.metadata) ObjectMeta.member
    |>.field (·.data) (.optional "data" (.dict .text))
    |>.field (·.binaryData) (.optional "binaryData" (.dict .bytes))
    |>.field (·.immutable) (.optional "immutable" .flag)

/-- Secret data as bytes; `stringData` is a convenience for writers, folded into `data` by the API
server. -/
structure Secret where
  metadata : ObjectMeta
  data : Option (Dict String (List UInt8))
  stringData : Option (Dict String String)
  type : Option String
  immutable : Option Bool
deriving DecidableEq

/-- The members of a secret. -/
def Secret.members : Fields Secret Secret :=
  (Fields.of mk)
    |>.literal "apiVersion" "v1"
    |>.literal "kind" "Secret"
    |>.field (·.metadata) ObjectMeta.member
    |>.field (·.data) (.optional "data" (.dict .bytes))
    |>.field (·.stringData) (.optional "stringData" (.dict .text))
    |>.field (·.type) (.optional "type" .text)
    |>.field (·.immutable) (.optional "immutable" .flag)

/-! ## 2. Services -/

/-- A number, or the name of one: a port by its name, an amount as a percentage. -/
inductive IntOrText where
  | int (n : Int32)
  | text (s : String)
deriving DecidableEq

/-- Written as given. -/
def IntOrText.codec : Codec IntOrText where
  encode
    | int n => Codec.int32.encode n
    | text s => .str s
  decode?
    | .str s => some (text s)
    | r => (Codec.int32.decode? r).map int

/-- A port that a service exposes. -/
structure ServicePort where
  port : Int32
  name : Option String
  protocol : Option String
  appProtocol : Option String
  nodePort : Option Int32
  targetPort : Option IntOrText
deriving DecidableEq

/-- The members of a service port. -/
def ServicePort.members : Fields ServicePort ServicePort :=
  (Fields.of mk)
    |>.field (·.port) (.required "port" .int32 0)
    |>.field (·.name) (.optional "name" .text)
    |>.field (·.protocol) (.optional "protocol" .text)
    |>.field (·.appProtocol) (.optional "appProtocol" .text)
    |>.field (·.nodePort) (.optional "nodePort" .int32)
    |>.field (·.targetPort) (.optional "targetPort" IntOrText.codec)

/-- What a service exposes and which pods it selects. -/
structure ServiceSpec where
  ports : Option (List ServicePort)
  selector : Option (Dict String String)
  clusterIP : Option String
  type : Option String
  externalName : Option String
  sessionAffinity : Option String
  clusterIPs : Option (List String)
deriving DecidableEq

/-- The members of a service specification. -/
def ServiceSpec.members : Fields ServiceSpec ServiceSpec :=
  (Fields.of mk)
    |>.field (·.ports) (.optional "ports" (.list ServicePort.members.codec))
    |>.field (·.selector) (.optional "selector" (.dict .text))
    |>.field (·.clusterIP) (.optional "clusterIP" .text)
    |>.field (·.type) (.optional "type" .text)
    |>.field (·.externalName) (.optional "externalName" .text)
    |>.field (·.sessionAffinity) (.optional "sessionAffinity" .text)
    |>.field (·.clusterIPs) (.optional "clusterIPs" (.list .text))

/-- A specification in which nothing is set. -/
def ServiceSpec.empty : ServiceSpec := ⟨none, none, none, none, none, none, none⟩

/-- An address at which a load balancer is reached. -/
structure IngressPoint where
  ip : Option String
deriving DecidableEq

/-- The state of a load balancer. -/
structure LoadBalancer where
  ingress : Option (List IngressPoint)
deriving DecidableEq

/-- What the API server reports about a service. -/
structure ServiceStatus where
  loadBalancer : Option LoadBalancer
deriving DecidableEq

/-- The members of a load balancer address. -/
def IngressPoint.members : Fields IngressPoint IngressPoint :=
  (Fields.of mk).field (·.ip) (.optional "ip" .text)

/-- The members of a load balancer state. -/
def LoadBalancer.members : Fields LoadBalancer LoadBalancer :=
  (Fields.of mk).field (·.ingress) (.optional "ingress" (.list IngressPoint.members.codec))

/-- The members of a service status. -/
def ServiceStatus.members : Fields ServiceStatus ServiceStatus :=
  (Fields.of mk).field (·.loadBalancer) (.optional "loadBalancer" LoadBalancer.members.codec)

/-- A service. -/
structure Service where
  metadata : ObjectMeta
  spec : Option ServiceSpec
  status : Option ServiceStatus
deriving DecidableEq

/-- The members of a service. -/
def Service.members : Fields Service Service :=
  (Fields.of mk)
    |>.literal "apiVersion" "v1"
    |>.literal "kind" "Service"
    |>.field (·.metadata) ObjectMeta.member
    |>.field (·.spec) (.optional "spec" ServiceSpec.members.codec)
    |>.field (·.status) (.optional "status" ServiceStatus.members.codec)

/-! ## 3. Service accounts -/

/-- A reference to another object. -/
structure ObjectReference where
  name : Option String
  (namespace? : Option String)
deriving DecidableEq

/-- The members of an object reference. -/
def ObjectReference.members : Fields ObjectReference ObjectReference :=
  (Fields.of mk)
    |>.field (·.name) (.optional "name" .text)
    |>.field (·.namespace?) (.optional "namespace" .text)

/-- A reference to an object of the same namespace. -/
structure LocalReference where
  name : String
deriving DecidableEq

/-- The members of a local reference. -/
def LocalReference.members : Fields LocalReference LocalReference :=
  (Fields.of mk).field (·.name) (.required "name" .text "")

/-- The account that pods run as. -/
structure ServiceAccount where
  metadata : ObjectMeta
  secrets : Option (List ObjectReference)
  imagePullSecrets : Option (List LocalReference)
  automountServiceAccountToken : Option Bool
deriving DecidableEq

/-- The members of a service account. -/
def ServiceAccount.members : Fields ServiceAccount ServiceAccount :=
  (Fields.of mk)
    |>.literal "apiVersion" "v1"
    |>.literal "kind" "ServiceAccount"
    |>.field (·.metadata) ObjectMeta.member
    |>.field (·.secrets) (.optional "secrets" (.list ObjectReference.members.codec))
    |>.field (·.imagePullSecrets)
      (.optional "imagePullSecrets" (.list LocalReference.members.codec))
    |>.field (·.automountServiceAccountToken) (.optional "automountServiceAccountToken" .flag)

end Reconciliation
