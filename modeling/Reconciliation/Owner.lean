import Reconciliation.Condition
import Reconciliation.Labels
import Reconciliation.Objects.Managed

/-!
# Owners

The resources on whose behalf the engine works: a `TempoStack`, which runs tracing as separate
services, and a `TempoMonolithic`, which runs it as one.

* `Owner` -- metadata, specification and status; `Owner.kind` follows the specification;
* `Owner.reference?` -- the controller reference that its objects carry;
* `Owner.selector`, `Owner.controls` -- which objects are looked at on its behalf, and which of
  these no other resource controls.

Specifications and status are also read from bare lists of values (`Fields.positional`).
-/

namespace Reconciliation

/-! ## 1. Kinds of owners -/

/-- The kind of an owner. -/
inductive OwnerKind where
  | tempoStack
  | tempoMonolithic
deriving DecidableEq

namespace OwnerKind

/-- The API group of owners. -/
def group : String := "tempo.grafana.com"

/-- The version of owners. -/
def version : String := "v1alpha1"

/-- Group and version of owners as objects state them. -/
def apiVersion : String := group ++ "/" ++ version

/-- The name of the kind. -/
def name : OwnerKind → String
  | tempoStack => "TempoStack"
  | tempoMonolithic => "TempoMonolithic"

/-- The name of the collection in request paths. -/
def plural : OwnerKind → String
  | tempoStack => "tempostacks"
  | tempoMonolithic => "tempomonolithics"

/-- The application name on the objects of an owner of the kind. -/
def application : OwnerKind → String
  | tempoStack => "tempo"
  | tempoMonolithic => "tempo-monolithic"

/-- Every kind of owners. -/
def all : List OwnerKind := [tempoStack, tempoMonolithic]

/-- The kind with a name. -/
def ofName? (s : String) : Option OwnerKind := all.find? (·.name == s)

end OwnerKind

/-! ## 2. Specifications -/

/-- Whether the engine reconciles an owner at all. -/
inductive ManagementState where
  | managed
  | unmanaged
deriving DecidableEq

namespace ManagementState

/-- The written form. -/
def name : ManagementState → String
  | managed => "Managed"
  | unmanaged => "Unmanaged"

/-- Every state. -/
def all : List ManagementState := [managed, unmanaged]

/-- The state with a name. -/
def ofName? (s : String) : Option ManagementState := all.find? (·.name == s)

/-- The member that holds the state; owners are managed unless they say otherwise. -/
def member : Member ManagementState :=
  .defaulted "managementState" (.choice name ofName?) managed

end ManagementState

/-- The secret with the credentials of an object storage. -/
structure StorageSecret where
  name : String
  type : String
deriving DecidableEq

/-- The members of a storage secret. -/
def StorageSecret.members : Fields StorageSecret StorageSecret :=
  (Fields.of mk)
    |>.field (·.name) (.mandatory "name" .text)
    |>.field (·.type) (.mandatory "type" .text)

/-- The object storage of a stack. -/
structure ObjectStorage where
  secret : StorageSecret
deriving DecidableEq

/-- The members of an object storage. -/
def ObjectStorage.members : Fields ObjectStorage ObjectStorage :=
  (Fields.of mk).field (·.secret) (.mandatory "secret" StorageSecret.members.positional)

/-- What a stack is to be. -/
structure StackSpec where
  managementState : ManagementState
  storage : ObjectStorage
  storageSize : Option String
  replicationFactor : Option Int32
  serviceAccount : Option String
deriving DecidableEq

/-- The members of a stack specification. -/
def StackSpec.members : Fields StackSpec StackSpec :=
  (Fields.of mk)
    |>.field (·.managementState) ManagementState.member
    |>.field (·.storage) (.mandatory "storage" ObjectStorage.members.positional)
    |>.field (·.storageSize) (.defaulted "storageSize" (.option .text) none)
    |>.field (·.replicationFactor) (.defaulted "replicationFactor" (.option .int32) none)
    |>.field (·.serviceAccount) (.defaulted "serviceAccount" (.option .text) none)

/-- Where a monolithic instance keeps its traces. -/
structure TraceStorage where
  backend : String
  size : Option String
deriving DecidableEq

/-- The members of a trace storage. -/
def TraceStorage.members : Fields TraceStorage TraceStorage :=
  (Fields.of mk)
    |>.field (·.backend) (.mandatory "backend" .text)
    |>.field (·.size) (.defaulted "size" (.option .text) none)

/-- The storage of a monolithic instance. -/
structure MonolithicStorage where
  traces : TraceStorage
deriving DecidableEq

/-- The members of a monolithic storage. -/
def MonolithicStorage.members : Fields MonolithicStorage MonolithicStorage :=
  (Fields.of mk).field (·.traces) (.mandatory "traces" TraceStorage.members.positional)

/-- What a monolithic instance is to be. -/
structure MonolithicSpec where
  managementState : ManagementState
  storage : Option MonolithicStorage
deriving DecidableEq

/-- The members of a monolithic specification. -/
def MonolithicSpec.members : Fields MonolithicSpec MonolithicSpec :=
  (Fields.of mk)
    |>.field (·.managementState) ManagementState.member
    |>.field (·.storage)
      (.defaulted "storage" (.option MonolithicStorage.members.positional) none)

/-- The specification of an owner of either kind. -/
inductive OwnerSpec where
  | stack (spec : StackSpec)
  | monolithic (spec : MonolithicSpec)
deriving DecidableEq

/-! ## 3. Owners -/

/-- The status of an owner. -/
structure OwnerStatus where
  conditions : List Condition
  observedGeneration : Option Int64
deriving DecidableEq

/-- The members of an owner status. -/
def OwnerStatus.members : Fields OwnerStatus OwnerStatus :=
  (Fields.of mk)
    |>.field (·.conditions) (.defaulted "conditions" (.list Condition.members.positional) [])
    |>.field (·.observedGeneration) (.defaulted "observedGeneration" (.option .int64) none)

/-- Where a status is written: the owner by kind, namespace and name. -/
structure StatusTarget where
  kind : OwnerKind
  (namespace? : Option String)
  name : String
deriving DecidableEq

/-- The target in words: kind, and name within the namespace if there is one. -/
def StatusTarget.display (t : StatusTarget) : String :=
  match t.namespace? with
  | some ns => t.kind.name ++ " " ++ ns ++ "/" ++ t.name
  | none => t.kind.name ++ " " ++ t.name

/-- A resource on whose behalf objects are kept. -/
structure Owner where
  metadata : ObjectMeta
  spec : OwnerSpec
  status : Option OwnerStatus

namespace Owner

/-- The kind of the owner. -/
def kind (o : Owner) : OwnerKind :=
  match o.spec with
  | .stack _ => .tempoStack
  | .monolithic _ => .tempoMonolithic

/-- Whether the engine reconciles the owner. -/
def managementState (o : Owner) : ManagementState :=
  match o.spec with
  | .stack s => s.managementState
  | .monolithic s => s.managementState

/-- The name of the owner, empty when it has none. -/
def name (o : Owner) : String := o.metadata.name.getD ""

/-- The recorded conditions. -/
def conditions (o : Owner) : List Condition := o.status.elim [] (·.conditions)

/-- The key under which retries of the owner are kept. -/
def key (o : Owner) : String := o.metadata.namespace?.getD "" ++ "/" ++ o.name

/-- Where the status of the owner is written. -/
def target (o : Owner) : StatusTarget := ⟨o.kind, o.metadata.namespace?, o.name⟩

/-- The reference by which the owner controls its objects; it needs a name and a uid. -/
def reference? (o : Owner) : Option OwnerReference :=
  match o.metadata.name, o.metadata.uid with
  | some name, some uid =>
    some ⟨OwnerKind.apiVersion, o.kind.name, name, uid, some true, none⟩
  | _, _ => none

/-- The selector of the objects created for the owner. -/
def selector (o : Owner) : LabelSelector := .forOwner o.kind.application o.name

/-- Whether no other resource controls the object. Objects without controller are judged by their
labels alone. -/
def controls (o : Owner) (object : ManagedObject) : Bool :=
  match object.controllerUid? with
  | some uid => o.metadata.uid == some uid
  | none => true

/-! ## 4. Wire form -/

/-- The wire form of a specification. -/
def specJson : OwnerSpec → Json
  | .stack s => StackSpec.members.codec.encode s
  | .monolithic s => MonolithicSpec.members.codec.encode s

/-- Reads the specification of an owner of a kind. -/
def specOfJson? (kind : OwnerKind) (j : Json) : Option OwnerSpec :=
  match kind with
  | .tempoStack => (StackSpec.members.positional.ofJson? j).map .stack
  | .tempoMonolithic => (MonolithicSpec.members.positional.ofJson? j).map .monolithic

/-- The wire form of the owner. -/
def encode (o : Owner) : Json :=
  .ofMembers ([("apiVersion", .str OwnerKind.apiVersion), ("kind", .str o.kind.name),
    ("metadata", ObjectMeta.members.codec.encode o.metadata), ("spec", specJson o.spec)] ++
    (o.status.map fun s => ("status", OwnerStatus.members.codec.encode s)).toList)

/-- Reads an owner of a kind; metadata and specification are expected. -/
def ofJson? (kind : OwnerKind) (j : Json) : Option Owner := do
  let metadata ← (j.get? "metadata").bind ObjectMeta.members.codec.ofJson?
  let spec ← (j.get? "spec").bind (specOfJson? kind)
  let status ← (Codec.option OwnerStatus.members.positional).ofJson? ((j.get? "status").getD .null)
  some ⟨metadata, spec, status⟩

end Owner

end Reconciliation
