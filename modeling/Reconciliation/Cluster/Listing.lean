import Reconciliation.Objects.Untyped

/-!
# Listings

The answer of an API server to a request for many objects: metadata of the listing as such, and the
objects as its items. `Listing.decode?` reads one; items are expected, null stands for none, and
neither part may be repeated.
-/

namespace Reconciliation

/-- The metadata of a listing. -/
structure ListMeta where
  continue? : Option String
  remainingItemCount : Option Int64
  resourceVersion : Option String
  selfLink : Option String
deriving DecidableEq

/-- The members of the metadata. -/
def ListMeta.members : Fields ListMeta ListMeta :=
  (Fields.of mk)
    |>.field (·.continue?) (.optional "continue" .text)
    |>.field (·.remainingItemCount) (.optional "remainingItemCount" .int64)
    |>.field (·.resourceVersion) (.optional "resourceVersion" .text)
    |>.field (·.selfLink) (.optional "selfLink" .text)

/-- A listing of objects. -/
structure Listing where
  metadata : ListMeta
  items : List UntypedObject

namespace Listing

/-- The metadata of a listing: it may be missing, but neither null nor repeated. -/
def metadataOf : List RawJson → Option ListMeta
  | [] => some ⟨none, none, none, none⟩
  | [r] => ListMeta.members.codec.decode? r
  | _ => none

/-- The items of a listing. -/
def itemsOf : List RawJson → Option (List UntypedObject)
  | [.null] => some []
  | [.arr items] => items.mapM UntypedObject.decode?
  | _ => none

/-- Reads a listing; whatever else it holds has to be readable as well. -/
def decode? : RawJson → Option Listing
  | .obj members => do
    let metadata ← metadataOf (RawJson.occurrences members "metadata")
    let items ← itemsOf (RawJson.occurrences members "items")
    let _ ← RawJson.valueMembers? (members.filter fun m => m.1 != "metadata" && m.1 != "items")
    some ⟨metadata, items⟩
  | _ => none

end Listing

end Reconciliation
