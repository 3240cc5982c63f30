import Reconciliation.Json.Writer
import Reconciliation.Kind

/-!
# Why a mutation fails

Three causes that callers tell apart (`MutateError`): a field which cannot change once the object
exists, a kind without policy, and objects of different kinds. The fourth, fields that do not read
back after an override merge, never arises from values of the library's own types.
-/

namespace Reconciliation

/-- A field that differs although it cannot change. -/
structure ImmutableField where
  /-- The path of the field. -/
  field : String
  existing : Json
  desired : Json

/-- Why a desired object cannot be merged into an existing one. -/
inductive MutateError where
  | immutableField (violation : ImmutableField)
  | missingPolicy (kind : Kind)
  | kindMismatch (existing desired : Kind)
  | unreadable

/-- The violation in words. -/
def ImmutableField.message (v : ImmutableField) : String :=
  "immutable field " ++ v.field ++ " differs (existing: " ++ v.existing.compact ++
    ", desired: " ++ v.desired.compact ++ ")"

/-- The cause in words. -/
def MutateError.message : MutateError → String
  | immutableField v => v.message
  | missingPolicy k => "missing mutate implementation for kind " ++ k.name
  | kindMismatch existing desired => "cannot merge " ++ desired.name ++ " into " ++ existing.name
  | unreadable => "failed to merge object fields: the merged value does not read back"

end Reconciliation
