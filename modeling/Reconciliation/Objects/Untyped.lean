import Reconciliation.Objects.Metadata

/-!
# Untyped objects

An object as the API serves it, before its kind is looked at: the stated type, the metadata, and
every other member as free JSON.

* `UntypedObject.decode?` -- taking the three parts out of an object;
* `UntypedObject.encode?` -- putting them together again, members of the data winning.

The members of the stated type leave the data as they come, up to the first which is no text or
repeats another; from there on, nothing is taken and the object counts as untyped.
-/

namespace Reconciliation

/-- The type that an object states. -/
structure TypeMeta where
  apiVersion : String
  kind : String
deriving DecidableEq

/-- An object of any kind. -/
structure UntypedObject where
  types : Option TypeMeta
  metadata : ObjectMeta
  data : Json

namespace UntypedObject

/-! ## 1. Taking apart -/

/-- Takes the stated type out of the members, given what was taken before; the other members are
left. Both parts have to be stated. -/
def takeTypes : Option String → Option String → List (String × Json) →
    Option TypeMeta × List (String × Json)
  | some v, some k, [] => (some ⟨v, k⟩, [])
  | _, _, [] => (none, [])
  | apiVersion, kind, (key, j) :: rest =>
    if key = "apiVersion" then
      match apiVersion, j with
      | none, .str v => takeTypes (some v) kind rest
      | _, _ => (none, rest)
    else if key = "kind" then
      match kind, j with
      | none, .str k => takeTypes apiVersion (some k) rest
      | _, _ => (none, rest)
    else
      let (types, rest) := takeTypes apiVersion kind rest
      (types, (key, j) :: rest)

/-- The metadata of an object: it may be missing, but neither null nor repeated. -/
def metadataOf : List RawJson → Option ObjectMeta
  | [] => some .empty
  | [r] => ObjectMeta.members.codec.decode? r
  | _ => none

/-- Takes an object apart. -/
def decode? : RawJson → Option UntypedObject
  | .obj members => do
    let metadata ← metadataOf (RawJson.occurrences members "metadata")
    let others ← RawJson.valueMembers? (members.filter (·.1 != "metadata"))
    let (types, data) := takeTypes none none others
    some ⟨types, metadata, .ofMembers data⟩
  | _ => none

/-- Takes a JSON value apart. -/
def ofJson? (j : Json) : Option UntypedObject := decode? j.raw

/-! ## 2. Putting together -/

/-- The members of free data: none for null, those of an object, and no way to write the rest. -/
def dataMembers? : Json → Option (List (String × Json))
  | .null => some []
  | .obj fields => some fields
  | _ => none

/-- The members of a stated type. -/
def typeMembers (types : Option TypeMeta) : List (String × Json) :=
  match types with
  | some t => [("apiVersion", .str t.apiVersion), ("kind", .str t.kind)]
  | none => []

/-- Puts an object together, members of the data winning over type and metadata. -/
def encode? (o : UntypedObject) : Option Json := do
  let data ← dataMembers? o.data
  some (.ofMembers (typeMembers o.types ++
    ("metadata", ObjectMeta.members.codec.encode o.metadata) :: data))

end UntypedObject

end Reconciliation
