import Reconciliation.Objects.Pod

/-!
# Workloads

`Deployment` and `StatefulSet`: a number of replicas of a pod template, the selector that finds
their pods, and the way in which a changed template is rolled out. A stateful set also has claim
templates, one volume claim per replica; claims state their own kind when written. Of the status
there is what health is sampled from, and of a claim what the API server fills in; their other
members are left out, since nothing reads them.
-/

namespace Reconciliation

/-! ## 1. Selectors -/

/-- A requirement on one label. -/
structure SelectorRequirement where
  key : String
  operator : String
  values : Option (List String)
deriving DecidableEq

/-- The members of a selector requirement. -/
def SelectorRequirement.members : Fields SelectorRequirement SelectorRequirement :=
  (Fields.of mk)
    |>.field (·.key) (.required "key" .text "")
    |>.field (·.operator) (.required "operator" .text "")
    |>.field (·.values) (.optional "values" (.list .text))

/-- The labels that the pods of a workload carry. -/
structure SelectorSpec where
  matchLabels : Option (Dict String String)
  matchExpressions : Option (List SelectorRequirement)
deriving DecidableEq

/-- The members of a selector. -/
def SelectorSpec.members : Fields SelectorSpec SelectorSpec :=
  (Fields.of mk)
    |>.field (·.matchLabels) (.optional "matchLabels" (.dict .text))
    |>.field (·.matchExpressions)
      (.optional "matchExpressions" (.list SelectorRequirement.members.codec))

/-- A selector without requirements. -/
def SelectorSpec.empty : SelectorSpec := ⟨none, none⟩

/-! ## 2. Deployments -/

/-- How many pods a rolling update of a deployment may add or miss. -/
structure DeploymentRollout where
  maxSurge : Option IntOrText
  maxUnavailable : Option IntOrText
deriving DecidableEq

/-- The members of a deployment rollout. -/
def DeploymentRollout.members : Fields DeploymentRollout DeploymentRollout :=
  (Fields.of mk)
    |>.field (·.maxSurge) (.optional "maxSurge" IntOrText.codec)
    |>.field (·.maxUnavailable) (.optional "maxUnavailable" IntOrText.codec)

/-- How a deployment replaces its pods. -/
structure DeploymentStrategy where
  type : Option String
  rollingUpdate : Option DeploymentRollout
deriving DecidableEq

/-- The members of a deployment strategy. -/
def DeploymentStrategy.members : Fields DeploymentStrategy DeploymentStrategy :=
  (Fields.of mk)
    |>.field (·.type) (.optional "type" .text)
    |>.field (·.rollingUpdate) (.optional "rollingUpdate" DeploymentRollout.members.codec)

/-- What a deployment runs. -/
structure DeploymentSpec where
  selector : SelectorSpec
  template : PodTemplate
  replicas : Option Int32
  minReadySeconds : Option Int32
  revisionHistoryLimit : Option Int32
  progressDeadlineSeconds : Option Int32
  paused : Option Bool
  strategy : Option DeploymentStrategy
deriving DecidableEq

/-- The members of a deployment specification. -/
def DeploymentSpec.members : Fields DeploymentSpec DeploymentSpec :=
  (Fields.of mk)
    |>.field (·.selector) (.required "selector" SelectorSpec.members.codec .empty)
    |>.field (·.template) (.required "template" PodTemplate.members.codec .empty)
    |>.field (·.replicas) (.optional "replicas" .int32)
    |>.field (·.minReadySeconds) (.optional "minReadySeconds" .int32)
    |>.field (·.revisionHistoryLimit) (.optional "revisionHistoryLimit" .int32)
    |>.field (·.progressDeadlineSeconds) (.optional "progressDeadlineSeconds" .int32)
    |>.field (·.paused) (.optional "paused" .flag)
    |>.field (·.strategy) (.optional "strategy" DeploymentStrategy.members.codec)

/-- A specification in which nothing is set. -/
def DeploymentSpec.empty : DeploymentSpec := ⟨.empty, .empty, none, none, none, none, none, none⟩

/-- What the API server reports about a deployment. -/
structure DeploymentStatus where
  replicas : Option Int32
  readyReplicas : Option Int32
deriving DecidableEq

/-- The members of a deployment status. -/
def DeploymentStatus.members : Fields DeploymentStatus DeploymentStatus :=
  (Fields.of mk)
    |>.field (·.replicas) (.optional "replicas" .int32)
    |>.field (·.readyReplicas) (.optional "readyReplicas" .int32)

/-- A deployment. -/
structure Deployment where
  metadata : ObjectMeta
  spec : Option DeploymentSpec
  status : Option DeploymentStatus
deriving DecidableEq

/-- The members of a deployment. -/
def Deployment.members : Fields Deployment Deployment :=
  (Fields.of mk)
    |>.literal "apiVersion" "apps/v1"
    |>.literal "kind" "Deployment"
    |>.field (·.metadata) ObjectMeta.member
    |>.field (·.spec) (.optional "spec" DeploymentSpec.members.codec)
    |>.field (·.status) (.optional "status" DeploymentStatus.members.codec)

/-! ## 3. Volume claims -/

/-- What a volume claim asks for. -/
structure VolumeClaimSpec where
  accessModes : Option (List String)
  storageClassName : Option String
  volumeMode : Option String
  resources : Option ResourceAmounts
deriving DecidableEq

/-- The members of a claim specification. -/
def VolumeClaimSpec.members : Fields VolumeClaimSpec VolumeClaimSpec :=
  (Fields.of mk)
    |>.field (·.accessModes) (.optional "accessModes" (.list .text))
    |>.field (·.storageClassName) (.optional "storageClassName" .text)
    |>.field (·.volumeMode) (.optional "volumeMode" .text)
    |>.field (·.resources) (.optional "resources" ResourceAmounts.members.codec)

/-- What the API server reports about a claim. -/
structure VolumeClaimStatus where
  phase : Option String
deriving DecidableEq

/-- The members of a claim status. -/
def VolumeClaimStatus.members : Fields VolumeClaimStatus VolumeClaimStatus :=
  (Fields.of mk).field (·.phase) (.optional "phase" .text)

/-- A claim to a volume. -/
structure VolumeClaim where
  metadata : ObjectMeta
  spec : Option VolumeClaimSpec
  status : Option VolumeClaimStatus
deriving DecidableEq

/-- The members of a claim. -/
def VolumeClaim.members : Fields VolumeClaim VolumeClaim :=
  (Fields.of mk)
    |>.literal "apiVersion" "v1"
    |>.literal "kind" "PersistentVolumeClaim"
    |>.field (·.metadata) ObjectMeta.member
    |>.field (·.spec) (.optional "spec" VolumeClaimSpec.members.codec)
    |>.field (·.status) (.optional "status" VolumeClaimStatus.members.codec)

/-! ## 4. Stateful sets -/

/-- From which replica on, and how many at once, a stateful set is updated. -/
structure StatefulSetRollout where
  firstOrdinal : Option Int32
  maxUnavailable : Option IntOrText
deriving DecidableEq

/-- The members of a stateful set rollout. -/
def StatefulSetRollout.members : Fields StatefulSetRollout StatefulSetRollout :=
  (Fields.of mk)
    |>.field (·.firstOrdinal) (.optional "partition" .int32)
    |>.field (·.maxUnavailable) (.optional "maxUnavailable" IntOrText.codec)

/-- How a stateful set replaces its pods. -/
structure StatefulSetStrategy where
  type : Option String
  rollingUpdate : Option StatefulSetRollout
deriving DecidableEq

/-- The members of a stateful set strategy. -/
def StatefulSetStrategy.members : Fields StatefulSetStrategy StatefulSetStrategy :=
  (Fields.of mk)
    |>.field (·.type) (.optional "type" .text)
    |>.field (·.rollingUpdate) (.optional "rollingUpdate" StatefulSetRollout.members.codec)

/-- What a stateful set runs. -/
structure StatefulSetSpec where
  selector : SelectorSpec
  template : PodTemplate
  serviceName : Option String
  podManagementPolicy : Option String
  replicas : Option Int32
  revisionHistoryLimit : Option Int32
  updateStrategy : Option StatefulSetStrategy
  volumeClaimTemplates : Option (List VolumeClaim)
deriving DecidableEq

/-- The members of a stateful set specification. -/
def StatefulSetSpec.members : Fields StatefulSetSpec StatefulSetSpec :=
  (Fields.of mk)
    |>.field (·.selector) (.required "selector" SelectorSpec.members.codec .empty)
    |>.field (·.template) (.required "template" PodTemplate.members.codec .empty)
    |>.field (·.serviceName) (.optional "serviceName" .text)
    |>.field (·.podManagementPolicy) (.optional "podManagementPolicy" .text)
    |>.field (·.replicas) (.optional "replicas" .int32)
    |>.field (·.revisionHistoryLimit) (.optional "revisionHistoryLimit" .int32)
    |>.field (·.updateStrategy) (.optional "updateStrategy" StatefulSetStrategy.members.codec)
    |>.field (·.volumeClaimTemplates)
      (.optional "volumeClaimTemplates" (.list VolumeClaim.members.codec))

/-- A specification in which nothing is set. -/
def StatefulSetSpec.empty : StatefulSetSpec :=
  ⟨.empty, .empty, none, none, none, none, none, none⟩

/-- What the API server reports about a stateful set. -/
structure StatefulSetStatus where
  replicas : Int32
  readyReplicas : Option Int32
deriving DecidableEq

/-- The members of a stateful set status. -/
def StatefulSetStatus.members : Fields StatefulSetStatus StatefulSetStatus :=
  (Fields.of mk)
    |>.field (·.replicas) (.required "replicas" .int32 0)
    |>.field (·.readyReplicas) (.optional "readyReplicas" .int32)

/-- A stateful set. -/
structure StatefulSet where
  metadata : ObjectMeta
  spec : Option StatefulSetSpec
  status : Option StatefulSetStatus
deriving DecidableEq

/-- The members of a stateful set. -/
def StatefulSet.members : Fields StatefulSet StatefulSet :=
  (Fields.of mk)
    |>.literal "apiVersion" "apps/v1"
    |>.literal "kind" "StatefulSet"
    |>.field (·.metadata) ObjectMeta.member
    |>.field (·.spec) (.optional "spec" StatefulSetSpec.members.codec)
    |>.field (·.status) (.optional "status" StatefulSetStatus.members.codec)

end Reconciliation
