import Reconciliation.Json.Block
import Reconciliation.Owner

/-!
# Definitions of the owner resources

What the API server has to be told before it accepts owners: their names, what a listing of them
shows, and the schema of their content.

* `Schema` -- the shape of a value and what is said about it; a property is required unless it may
  be null or has a default (`Schema.isOptional`);
* `Definition.of` -- the definition of a kind of owners, and `Definition.toJson` its wire form;
* `Definition.manifest` -- the definitions of all kinds as one stream of documents.
-/

namespace Reconciliation

/-! ## 1. Schemas -/

/-- What is said about a value besides its shape. -/
structure Remarks where
  description : Option String := none
  nullable : Bool := false
  default : Option Json := none

/-- The shape of a value. -/
inductive Schema where
  | text (remarks : Remarks)
  | choice (remarks : Remarks) (names : List String)
  | integer (remarks : Remarks) (bits : Nat)
  | list (remarks : Remarks) (items : Schema)
  | object (remarks : Remarks) (properties : List (String × Schema))

namespace Schema

/-- What is said about the value. -/
def remarks : Schema → Remarks
  | text r | choice r _ | integer r _ | list r _ | object r _ => r

/-- Whether an object may do without the property. -/
def isOptional (s : Schema) : Bool := s.remarks.nullable || s.remarks.default.isSome

/-- The members that every schema has: the type, and what is said about the value. -/
def remarkMembers (type : String) (r : Remarks) : List (String × Json) :=
  [("type", .str type)] ++ (r.description.map fun d => ("description", Json.str d)).toList ++
    (if r.nullable then [("nullable", .bool true)] else []) ++
    (r.default.map fun d => ("default", d)).toList

/-- The names of the properties that an object needs. -/
def requiredNames (properties : List (String × Schema)) : List String :=
  (properties.filter fun p => !p.2.isOptional).map (·.1)

/-- The member that lists the required properties, if there are any. -/
def requiredMembers (properties : List (String × Schema)) : List (String × Json) :=
  if (requiredNames properties).isEmpty then []
  else [("required", .arr ((requiredNames properties).map .str))]

mutual

/-- The members of the wire form. -/
def members : Schema → List (String × Json)
  | text r => remarkMembers "string" r
  | choice r names => ("enum", .arr (names.map .str)) :: remarkMembers "string" r
  | integer r bits => ("format", .str ("int" ++ toString bits)) :: remarkMembers "integer" r
  | list r items => ("items", .ofMembers items.members) :: remarkMembers "array" r
  | object r properties =>
    ("properties", .ofMembers (propertyMembers properties)) ::
      (requiredMembers properties ++ remarkMembers "object" r)

/-- The properties in their wire form. -/
def propertyMembers : List (String × Schema) → List (String × Json)
  | [] => []
  | (name, s) :: rest => (name, .ofMembers s.members) :: propertyMembers rest

end

/-- The wire form. -/
def toJson (s : Schema) : Json := .ofMembers s.members

/-! ## 2. The content of owners -/

/-- The management state. -/
def managementState : Schema :=
  .choice
    { description := some "Whether the operator reconciles the owner at all"
      default := some (.str ManagementState.managed.name) }
    (ManagementState.all.map (·.name))

/-- The object storage of a stack. -/
def objectStorage : Schema :=
  .object {}
    [("secret", .object { description := some "Secret holding object storage credentials" }
      [("name", .text {}), ("type", .text { description := some "`s3`, `azure` or `gcs`" })])]

/-- What a stack is described as. -/
def stackDescription : String :=
  "\n".intercalate
    ["TempoStack Custom Resource Definition", "", "# Example", "", "```yaml",
      "apiVersion: tempo.grafana.com/v1alpha1", "kind: TempoStack", "metadata:",
      "  name: simplest", "  namespace: tracing", "spec:", "  storage:", "    secret:",
      "      name: minio", "      type: s3", "  storageSize: 1Gi", "```"]

/-- The specification of a stack. -/
def stackSpec : Schema :=
  .object { description := some stackDescription }
    [("managementState", managementState),
      ("storage", objectStorage),
      ("storageSize", .text
        { description := some "Size of the ingester WAL volume, e.g. `10Gi`", nullable := true }),
      ("replicationFactor", .integer { nullable := true } 32),
      ("serviceAccount", .text
        { description := some "Service account the workloads run as; generated when unset"
          nullable := true })]

/-- The specification of a monolithic instance. -/
def monolithicSpec : Schema :=
  .object {}
    [("managementState", managementState),
      ("storage", .object { nullable := true }
        [("traces", .object {}
          [("backend", .text { description := some "`memory` or `pv`" }),
            ("size", .text
              { description := some "Volume size for the `pv` backend", nullable := true })])])]

/-- A condition. -/
def condition : Schema :=
  .object { description := some "Condition represents one observation about the owner" }
    [("status", .choice { description := some "Status of the condition (True, False, Unknown)" }
        (ConditionStatus.all.map (·.name))),
      ("type", .text { description := some "Type of condition" }),
      ("reason", .text
        { description := some "Machine-readable reason for the last transition"
          default := some (.str "") }),
      ("message", .text
        { description := some "Human-readable details", default := some (.str "") }),
      ("lastTransitionTime", .text
        { description := some "Last time `(status, reason)` changed (RFC3339)", nullable := true })]

/-- The status of an owner. -/
def ownerStatus : Schema :=
  .object { nullable := true }
    [("conditions", .list
        { description := some "Conditions in first-seen order", default := some (.arr []) }
        condition),
      ("observedGeneration", .integer
        { description := some "Generation the conditions were computed for", nullable := true } 64)]

/-- The specification of an owner of a kind. -/
def ownerSpec : OwnerKind → Schema
  | .tempoStack => stackSpec
  | .tempoMonolithic => monolithicSpec

/-- An owner of a kind. -/
def owner (kind : OwnerKind) : Schema :=
  .object
    { description :=
        some ("Auto-generated derived type for " ++ kind.name ++ "Spec via `CustomResource`") }
    [("spec", ownerSpec kind), ("status", ownerStatus)]

end Schema

/-! ## 3. Definitions -/

/-- A column of a listing. -/
structure Column where
  name : String
  path : String

/-- The wire form of a column. -/
def Column.toJson (c : Column) : Json :=
  .ofMembers [("name", .str c.name), ("type", .str "string"), ("jsonPath", .str c.path)]

/-- The definition of a kind of owners. -/
structure Definition where
  kind : OwnerKind
  shortName : String
  columns : List Column

namespace Definition

/-- The column that shows whether an owner is ready. -/
def readyColumn : Column := ⟨"Ready", ".status.conditions[?(@.type==\"Ready\")].status"⟩

/-- The definition of a kind of owners. -/
def of : OwnerKind → Definition
  | .tempoStack =>
    ⟨.tempoStack, "tempo", [readyColumn, ⟨"Management", ".spec.managementState"⟩]⟩
  | .tempoMonolithic => ⟨.tempoMonolithic, "tempomono", [readyColumn]⟩

/-- The names under which owners are addressed. -/
def namesJson (d : Definition) : Json :=
  .ofMembers
    [("categories", .arr []), ("kind", .str d.kind.name), ("plural", .str d.kind.plural),
      ("shortNames", .arr [.str d.shortName]), ("singular", .str (d.kind.name.map Char.toLower))]

/-- The schema of whole owners, which carries the kind as its title. -/
def schemaJson (d : Definition) : Json :=
  .ofMembers (("title", .str d.kind.name) :: (Schema.owner d.kind).members)

/-- The only version. -/
def versionJson (d : Definition) : Json :=
  .ofMembers
    [("additionalPrinterColumns", .arr (d.columns.map (·.toJson))),
      ("name", .str OwnerKind.version),
      ("schema", .obj [("openAPIV3Schema", d.schemaJson)]),
      ("served", .bool true), ("storage", .bool true),
      ("subresources", .obj [("status", .obj [])])]

/-- The wire form. -/
def toJson (d : Definition) : Json :=
  .ofMembers
    [("apiVersion", .str "apiextensions.k8s.io/v1"), ("kind", .str "CustomResourceDefinition"),
      ("metadata", .obj [("name", .str (d.kind.plural ++ "." ++ OwnerKind.group))]),
      ("spec", .ofMembers
        [("group", .str OwnerKind.group), ("names", d.namesJson), ("scope", .str "Namespaced"),
          ("versions", .arr [d.versionJson])])]

/-- The definitions of all kinds of owners, each as a document of its own. -/
def manifest : String :=
  String.join (OwnerKind.all.map fun kind => "---\n" ++ (of kind).toJson.block)

end Definition

end Reconciliation
