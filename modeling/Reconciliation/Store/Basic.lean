import Reconciliation.Labels
import Reconciliation.Objects.Managed

/-!
# Object stores

The engine reaches objects only through a store: get, create, update, delete and list. A store acts
on a world `σ` of its own -- a table in memory, a server at the other end of a connection -- and its
calls return what the world answers. Lost races are the store's business and surface as conflicts.

* `ObjectStore` -- the five calls;
* `StoreError` -- why a call fails, with its wording (`StoreError.message`).
-/

namespace Reconciliation

/-! ## 1. Errors -/

/-- Why a call to a store fails. -/
inductive StoreError where
  | alreadyExists (identity : ObjectIdentity)
  | notFound (identity : ObjectIdentity)
  | conflict (identity : ObjectIdentity) (message : String)
  | rejected (identity : ObjectIdentity) (message : String)
  | listFailed (kind : Kind) (message : String)
  /-- The API refused with a status code, or answered something that is no object. -/
  | api (code : Option Nat)
  /-- An object has no wire form, or does not read as its kind. -/
  | serialization
  | unavailable (message : String)

namespace StoreError

/-- The cause in words. -/
def message : StoreError → String
  | alreadyExists id => id.display ++ " already exists"
  | notFound id => id.display ++ " not found"
  | conflict id m => "conflict writing " ++ id.display ++ ": " ++ m
  | rejected id m => id.display ++ " rejected: " ++ m
  | listFailed k m => "failed to list " ++ k.name ++ ": " ++ m
  | api (some code) => "Kubernetes API error: status " ++ toString code
  | api none => "Kubernetes API error: unexpected answer"
  | serialization => "failed to convert object: it does not match its kind"
  | unavailable m => "store unavailable: " ++ m

/-- Whether the write lost a race. -/
def isConflict : StoreError → Bool
  | conflict _ _ => true
  | _ => false

end StoreError

/-! ## 2. Stores -/

/-- An operation of a store. -/
inductive Operation where
  | get
  | create
  | update
  | delete
  | list
deriving DecidableEq

/-- The name of the operation. -/
def Operation.name : Operation → String
  | get => "get"
  | create => "create"
  | update => "update"
  | delete => "delete"
  | list => "list"

/-- A store over a world `σ`. -/
structure ObjectStore (σ : Type) where
  get : ObjectIdentity → StateM σ (Except StoreError (Option ManagedObject))
  create : ManagedObject → StateM σ (Except StoreError ManagedObject)
  update : ManagedObject → StateM σ (Except StoreError ManagedObject)
  delete : ObjectIdentity → StateM σ (Except StoreError Unit)
  list : Kind → Option String → LabelSelector → StateM σ (Except StoreError (List ManagedObject))

end Reconciliation
