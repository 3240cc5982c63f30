import Reconciliation.Json.Codec

/-!
# Object metadata

What every object carries besides its content: name and namespace, labels and annotations, the
fields that the API server stamps (`uid`, `resourceVersion`, `generation`, `creationTimestamp`) and
the references to its owners. One of these may be marked as the controller; its uid decides which
owner may write and delete the object (`ObjectMeta.controllerUid?`). Which client manages which
field (`managedFields`) is left out, since nothing reads it.
-/

namespace Reconciliation

/-- A reference from an object to one of its owners. -/
structure OwnerReference where
  apiVersion : String
  kind : String
  name : String
  uid : String
  controller : Option Bool
  blockOwnerDeletion : Option Bool
deriving DecidableEq

namespace OwnerReference

/-- The members of an owner reference. -/
def members : Fields OwnerReference OwnerReference :=
  (Fields.of mk)
    |>.field (·.apiVersion) (.required "apiVersion" .text "")
    |>.field (·.kind) (.required "kind" .text "")
    |>.field (·.name) (.required "name" .text "")
    |>.field (·.uid) (.required "uid" .text "")
    |>.field (·.controller) (.optional "controller" .flag)
    |>.field (·.blockOwnerDeletion) (.optional "blockOwnerDeletion" .flag)

/-- Whether the reference marks its owner as the controller. -/
def isController (r : OwnerReference) : Bool := r.controller == some true

end OwnerReference

/-- The metadata of an object. -/
structure ObjectMeta where
  name : Option String
  (namespace? : Option String)
  generateName : Option String
  uid : Option String
  resourceVersion : Option String
  selfLink : Option String
  generation : Option Int64
  deletionGracePeriodSeconds : Option Int64
  labels : Option (Dict String String)
  annotations : Option (Dict String String)
  finalizers : Option (List String)
  creationTimestamp : Option Instant
  deletionTimestamp : Option Instant
  ownerReferences : Option (List OwnerReference)
deriving DecidableEq

namespace ObjectMeta

/-- The members of object metadata. -/
def members : Fields ObjectMeta ObjectMeta :=
  (Fields.of mk)
    |>.field (·.name) (.optional "name" .text)
    |>.field (·.namespace?) (.optional "namespace" .text)
    |>.field (·.generateName) (.optional "generateName" .text)
    |>.field (·.uid) (.optional "uid" .text)
    |>.field (·.resourceVersion) (.optional "resourceVersion" .text)
    |>.field (·.selfLink) (.optional "selfLink" .text)
    |>.field (·.generation) (.optional "generation" .int64)
    |>.field (·.deletionGracePeriodSeconds) (.optional "deletionGracePeriodSeconds" .int64)
    |>.field (·.labels) (.optional "labels" (.dict .text))
    |>.field (·.annotations) (.optional "annotations" (.dict .text))
    |>.field (·.finalizers) (.optional "finalizers" (.list .text))
    |>.field (·.creationTimestamp) (.optional "creationTimestamp" .instant)
    |>.field (·.deletionTimestamp) (.optional "deletionTimestamp" .instant)
    |>.field (·.ownerReferences)
      (.optional "ownerReferences" (.list OwnerReference.members.codec))

/-- Metadata in which nothing is set. -/
def empty : ObjectMeta :=
  ⟨none, none, none, none, none, none, none, none, none, none, none, none, none, none⟩

instance : Inhabited ObjectMeta := ⟨empty⟩

/-- The owner references, none if the field is absent. -/
def references (m : ObjectMeta) : List OwnerReference := m.ownerReferences.getD []

/-- The uid of the first owner marked as controller. -/
def controllerUid? (m : ObjectMeta) : Option String :=
  (m.references.find? (·.isController)).map (·.uid)

/-- Whether the API server has persisted the object: it stamps the creation time. -/
def exists? (m : ObjectMeta) : Bool := m.creationTimestamp.isSome

/-- The value of a label. -/
def label? (m : ObjectMeta) (key : String) : Option String := m.labels.bind (·.get? key)

/-- The member of an object that holds its metadata. -/
def member : Member ObjectMeta := .required "metadata" members.codec empty

end ObjectMeta

end Reconciliation
