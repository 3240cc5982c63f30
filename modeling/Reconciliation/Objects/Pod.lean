import Reconciliation.Objects.Core

/-!
# Pod templates

What a workload runs: `PodTemplate` with its containers, volumes and tolerations. Templates are
merged and compared as a whole, by one rule for every member and at every depth, so the members here
stand for all that the API has.
-/

namespace Reconciliation

/-! ## 1. Containers -/

/-- An environment variable of a container. -/
structure EnvironmentVariable where
  name : String
  value : Option String
deriving DecidableEq

/-- The members of an environment variable. -/
def EnvironmentVariable.members : Fields EnvironmentVariable EnvironmentVariable :=
  (Fields.of mk)
    |>.field (·.name) (.required "name" .text "")
    |>.field (·.value) (.optional "value" .text)

/-- A port that a container listens on. -/
structure ContainerPort where
  containerPort : Int32
deriving DecidableEq

/-- The members of a container port. -/
def ContainerPort.members : Fields ContainerPort ContainerPort :=
  (Fields.of mk).field (·.containerPort) (.required "containerPort" .int32 0)

/-- An amount of a resource as it is written, such as `500m` or `2Gi`. -/
structure Quantity where
  text : String
deriving DecidableEq

/-- Written as text; an integer is read as its decimal text. -/
def Quantity.codec : Codec Quantity where
  encode q := .str q.text
  decode?
    | .str s => some ⟨s⟩
    | .num (.int n) => some ⟨toString n⟩
    | _ => none

/-- Requested and permitted amounts, by resource name. -/
structure ResourceAmounts where
  limits : Option (Dict String Quantity)
  requests : Option (Dict String Quantity)
deriving DecidableEq

/-- The members of resource amounts. -/
def ResourceAmounts.members : Fields ResourceAmounts ResourceAmounts :=
  (Fields.of mk)
    |>.field (·.limits) (.optional "limits" (.dict Quantity.codec))
    |>.field (·.requests) (.optional "requests" (.dict Quantity.codec))

/-- Where a container sees a volume. -/
structure VolumeMount where
  name : String
  mountPath : String
  readOnly : Option Bool
deriving DecidableEq

/-- The members of a volume mount. -/
def VolumeMount.members : Fields VolumeMount VolumeMount :=
  (Fields.of mk)
    |>.field (·.name) (.required "name" .text "")
    |>.field (·.mountPath) (.required "mountPath" .text "")
    |>.field (·.readOnly) (.optional "readOnly" .flag)

/-- A container of a pod. -/
structure Container where
  name : String
  image : Option String
  args : Option (List String)
  env : Option (List EnvironmentVariable)
  ports : Option (List ContainerPort)
  resources : Option ResourceAmounts
  volumeMounts : Option (List VolumeMount)
deriving DecidableEq

/-- The members of a container. -/
def Container.members : Fields Container Container :=
  (Fields.of mk)
    |>.field (·.name) (.required "name" .text "")
    |>.field (·.image) (.optional "image" .text)
    |>.field (·.args) (.optional "args" (.list .text))
    |>.field (·.env) (.optional "env" (.list EnvironmentVariable.members.codec))
    |>.field (·.ports) (.optional "ports" (.list ContainerPort.members.codec))
    |>.field (·.resources) (.optional "resources" ResourceAmounts.members.codec)
    |>.field (·.volumeMounts) (.optional "volumeMounts" (.list VolumeMount.members.codec))

/-! ## 2. Volumes and placement -/

/-- An empty directory; it has no settings of interest. -/
structure EmptyDirectory where
deriving DecidableEq

/-- The members of an empty directory. -/
def EmptyDirectory.members : Fields EmptyDirectory EmptyDirectory := Fields.of mk

/-- A configuration map used as a volume. -/
structure ConfigMapVolume where
  name : String
  defaultMode : Option Int32
deriving DecidableEq

/-- The members of a configuration volume. -/
def ConfigMapVolume.members : Fields ConfigMapVolume ConfigMapVolume :=
  (Fields.of mk)
    |>.field (·.name) (.required "name" .text "")
    |>.field (·.defaultMode) (.optional "defaultMode" .int32)

/-- A secret used as a volume. -/
structure SecretVolume where
  secretName : Option String
deriving DecidableEq

/-- The members of a secret volume. -/
def SecretVolume.members : Fields SecretVolume SecretVolume :=
  (Fields.of mk).field (·.secretName) (.optional "secretName" .text)

/-- A volume of a pod. -/
structure Volume where
  name : String
  emptyDir : Option EmptyDirectory
  configMap : Option ConfigMapVolume
  secret : Option SecretVolume
deriving DecidableEq

/-- The members of a volume. -/
def Volume.members : Fields Volume Volume :=
  (Fields.of mk)
    |>.field (·.name) (.required "name" .text "")
    |>.field (·.emptyDir) (.optional "emptyDir" EmptyDirectory.members.codec)
    |>.field (·.configMap) (.optional "configMap" ConfigMapVolume.members.codec)
    |>.field (·.secret) (.optional "secret" SecretVolume.members.codec)

/-- A taint of nodes that the pod tolerates. -/
structure Toleration where
  key : Option String
  operator : Option String
  tolerationSeconds : Option Int64
deriving DecidableEq

/-- The members of a toleration. -/
def Toleration.members : Fields Toleration Toleration :=
  (Fields.of mk)
    |>.field (·.key) (.optional "key" .text)
    |>.field (·.operator) (.optional "operator" .text)
    |>.field (·.tolerationSeconds) (.optional "tolerationSeconds" .int64)

/-- The users and groups that the pod runs as. -/
structure SecurityContext where
  runAsUser : Option Int64
  fsGroup : Option Int64
  runAsNonRoot : Option Bool
deriving DecidableEq

/-- The members of a security context. -/
def SecurityContext.members : Fields SecurityContext SecurityContext :=
  (Fields.of mk)
    |>.field (·.runAsUser) (.optional "runAsUser" .int64)
    |>.field (·.fsGroup) (.optional "fsGroup" .int64)
    |>.field (·.runAsNonRoot) (.optional "runAsNonRoot" .flag)

/-! ## 3. Templates -/

/-- What a pod consists of. -/
structure PodSpec where
  containers : List Container
  initContainers : Option (List Container)
  nodeSelector : Option (Dict String String)
  serviceAccountName : Option String
  restartPolicy : Option String
  terminationGracePeriodSeconds : Option Int64
  hostNetwork : Option Bool
  securityContext : Option SecurityContext
  tolerations : Option (List Toleration)
  volumes : Option (List Volume)
deriving DecidableEq

/-- The members of a pod specification. -/
def PodSpec.members : Fields PodSpec PodSpec :=
  (Fields.of mk)
    |>.field (·.containers) (.required "containers" (.list Container.members.codec) [])
    |>.field (·.initContainers) (.optional "initContainers" (.list Container.members.codec))
    |>.field (·.nodeSelector) (.optional "nodeSelector" (.dict .text))
    |>.field (·.serviceAccountName) (.optional "serviceAccountName" .text)
    |>.field (·.restartPolicy) (.optional "restartPolicy" .text)
    |>.field (·.terminationGracePeriodSeconds) (.optional "terminationGracePeriodSeconds" .int64)
    |>.field (·.hostNetwork) (.optional "hostNetwork" .flag)
    |>.field (·.securityContext) (.optional "securityContext" SecurityContext.members.codec)
    |>.field (·.tolerations) (.optional "tolerations" (.list Toleration.members.codec))
    |>.field (·.volumes) (.optional "volumes" (.list Volume.members.codec))

/-- The pods that a workload creates. -/
structure PodTemplate where
  metadata : Option ObjectMeta
  spec : Option PodSpec
deriving DecidableEq

/-- The members of a pod template. -/
def PodTemplate.members : Fields PodTemplate PodTemplate :=
  (Fields.of mk)
    |>.field (·.metadata) (.optional "metadata" ObjectMeta.members.codec)
    |>.field (·.spec) (.optional "spec" PodSpec.members.codec)

/-- A template in which nothing is set. -/
def PodTemplate.empty : PodTemplate := ⟨none, none⟩

end Reconciliation
