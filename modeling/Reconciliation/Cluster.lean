import Reconciliation.Cluster.Listing
import Reconciliation.Cluster.Status
import Reconciliation.Pass.Engine

/-!
# The store behind the cluster API

The five calls and the writing of a status as requests to the API server.

* `ResourcePath` -- where a collection, an object and a status are found;
* `Cluster.send` -- one exchange: what the server refuses comes back as its `Refusal`, and an
  answer that cannot be read as an error without code;
* `Cluster.store` -- the calls. A missing object is recognised by the reason of the refusal when it
  is read, and by its code when it is written or deleted;
* `Cluster.statusWriter` -- the status as a merge patch.

A request that cannot be written down is not sent: an object without name has no path, not every
path is an address, and whoever creates an object has a name of bounded length.
-/

namespace Reconciliation

/-- Why a request brought nothing. -/
inductive ApiError where
  | refused (why : Refusal)
  /-- The request could not be written down, or the answer could not be read. -/
  | unusable

/-- The code of the refusal. -/
def ApiError.code? : ApiError → Option Nat
  | refused why => some why.code
  | unusable => none

/-! ## 1. Paths -/

namespace ResourcePath

/-- The path of a collection: within a namespace, or across all of them. -/
def collection (group version plural : String) (namespace? : Option String) : String :=
  let api := if group.isEmpty then "/api/" ++ version else "/apis/" ++ group ++ "/" ++ version
  let scope := match namespace? with
    | some ns => "/namespaces/" ++ ns
    | none => ""
  api ++ scope ++ "/" ++ plural

/-- The path of the objects of a kind; a namespace counts only for namespaced kinds. -/
def ofKind (kind : Kind) (namespace? : Option String) : String :=
  collection kind.group kind.version kind.plural (if kind.isNamespaced then namespace? else none)

/-- The path of an item in a collection. -/
def item (collection name : String) : Option String :=
  if name.isEmpty then none else some (collection ++ "/" ++ name)

/-- The path of an object. -/
def ofIdentity (id : ObjectIdentity) : Option String := item (ofKind id.kind id.namespace?) id.name

/-- The path of the status of an owner. -/
def ofStatus (target : StatusTarget) : Option String :=
  (item (collection OwnerKind.group OwnerKind.version target.kind.plural target.namespace?)
    target.name).map (· ++ "/status")

end ResourcePath

/-! ## 2. Exchanges -/

/-- A cluster: the way to its API server, and the name under which fields are managed. -/
structure Cluster (σ : Type) where
  transport : Transport σ
  fieldManager : String

namespace Cluster

/-- Makes the exchange of a request, if there is one, and reads the answer. -/
def send (c : Cluster σ) (request : Option HttpRequest) (decode? : RawJson → Option α) :
    StateM σ (Except ApiError α) := do
  match request with
  | none => return .error .unusable
  | some request =>
    let response ← c.transport request
    if response.isRefusal then return .error (.refused (.ofResponse response))
    else return ((RawJson.ofText? response.body).bind decode?).elim (.error .unusable) .ok

/-- Reads an untyped object as a kind. -/
def typed (kind : Kind) (o : UntypedObject) : Except StoreError ManagedObject :=
  (ManagedObject.ofUntyped? kind o).elim (.error .serialization) .ok

/-- What a failed exchange means for the store, unless the call knows better. -/
def failed (e : ApiError) : StoreError := .api e.code?

/-- A path with parameters, as an address. -/
def address (path : String) (parameters : List (String × String)) : String :=
  path ++ "?" ++ Query.encode parameters

/-- The parameter that names the manager of the written fields. -/
def managed (c : Cluster σ) : List (String × String) := [("fieldManager", c.fieldManager)]

/-- The type of content that objects are written as. -/
def contentType : String := "application/json"

/-! ## 3. Calls -/

/-- The request for an object. -/
def getRequest (id : ObjectIdentity) : Option HttpRequest := do
  let path ← ResourcePath.ofIdentity id
  HttpRequest.to? .get path none

/-- The request that stores a new object; the name of the manager has at most 128 bytes. -/
def createRequest (c : Cluster σ) (id : ObjectIdentity) (body : Json) : Option HttpRequest :=
  let path := ResourcePath.ofKind id.kind id.namespace?
  if c.fieldManager.utf8ByteSize ≤ 128 then
    HttpRequest.to? .post (address path c.managed) (some ⟨contentType, body⟩)
  else none

/-- The request that replaces an object. -/
def updateRequest (c : Cluster σ) (id : ObjectIdentity) (body : Json) : Option HttpRequest := do
  let path ← ResourcePath.ofIdentity id
  HttpRequest.to? .put (address path c.managed) (some ⟨contentType, body⟩)

/-- The request that deletes an object; what depends on it is deleted later. -/
def deleteRequest (id : ObjectIdentity) : Option HttpRequest := do
  let path ← ResourcePath.ofIdentity id
  HttpRequest.to? .delete (address path [])
    (some ⟨contentType, .obj [("propagationPolicy", .str "Background")]⟩)

/-- The request for the objects of a kind which a selector selects. -/
def listRequest (kind : Kind) (namespace? : Option String) (selector : LabelSelector) :
    Option HttpRequest :=
  let path := ResourcePath.ofKind kind namespace?
  HttpRequest.to? .get (address path [("labelSelector", selector.toQuery)]) none

/-- Reads an object; a refusal with the reason that it is not found means that there is none. -/
def get (c : Cluster σ) (id : ObjectIdentity) :
    StateM σ (Except StoreError (Option ManagedObject)) := do
  match ← c.send (getRequest id) UntypedObject.decode? with
  | .ok o => return (typed id.kind o).map some
  | .error (.refused why) =>
    if why.reason = "NotFound" then return .ok none else return .error (failed (.refused why))
  | .error e => return .error (failed e)

/-- Writes an object with a request made from its wire form. -/
def write (c : Cluster σ) (o : ManagedObject) (request : Json → Option HttpRequest)
    (refused : Refusal → Option StoreError) : StateM σ (Except StoreError ManagedObject) := do
  match o.toUntyped?.bind (·.encode?) with
  | none => return .error .serialization
  | some body =>
    match ← c.send (request body) UntypedObject.decode? with
    | .ok written => return typed o.kind written
    | .error (.refused why) => return .error ((refused why).getD (failed (.refused why)))
    | .error e => return .error (failed e)

/-- Stores a new object. -/
def create (c : Cluster σ) (o : ManagedObject) : StateM σ (Except StoreError ManagedObject) :=
  c.write o (c.createRequest o.identity) fun why =>
    if why.code = 409 then some (.alreadyExists o.identity) else none

/-- Replaces an object. -/
def update (c : Cluster σ) (o : ManagedObject) : StateM σ (Except StoreError ManagedObject) :=
  c.write o (c.updateRequest o.identity) fun why =>
    if why.code = 409 then some (.conflict o.identity why.message)
    else if why.code = 404 then some (.notFound o.identity)
    else none

/-- Reads the answer to a deletion: a status, or the object that is being deleted. -/
def deleted? (answer : RawJson) : Option Unit := do
  let j ← answer.value?
  match j.get? "kind" with
  | some (.str "Status") => (ApiStatus.members.positional.decode? answer).map fun _ => ()
  | _ => (UntypedObject.decode? answer).map fun _ => ()

/-- Deletes an object; it is no error if there is none. -/
def delete (c : Cluster σ) (id : ObjectIdentity) : StateM σ (Except StoreError Unit) := do
  match ← c.send (deleteRequest id) deleted? with
  | .ok () => return .ok ()
  | .error e => if e.code? = some 404 then return .ok () else return .error (failed e)

/-- Lists the objects of a kind which a selector selects. -/
def list (c : Cluster σ) (kind : Kind) (namespace? : Option String) (selector : LabelSelector) :
    StateM σ (Except StoreError (List ManagedObject)) := do
  match ← c.send (listRequest kind namespace? selector) Listing.decode? with
  | .ok listing => return listing.items.mapM (typed kind)
  | .error e => return .error (failed e)

/-- The calls as a store. -/
def store (c : Cluster σ) : ObjectStore σ := ⟨c.get, c.create, c.update, c.delete, c.list⟩

/-! ## 4. Statuses -/

/-- The request that lays a status over the status of an owner. -/
def statusRequest (target : StatusTarget) (status : OwnerStatus) : Option HttpRequest := do
  let path ← ResourcePath.ofStatus target
  HttpRequest.to? .patch (address path [])
    (some ⟨"application/merge-patch+json",
      .obj [("status", OwnerStatus.members.codec.encode status)]⟩)

/-- Writes the status of an owner. -/
def statusWriter (c : Cluster σ) : StatusWriter σ := fun target status => do
  match ← c.send (statusRequest target status) UntypedObject.decode? with
  | .ok _ => return .ok ()
  | .error e => return .error (.patch target e.code?)

/-- The engine of a cluster. -/
def engine (c : Cluster σ) (cancelled : σ → Bool) (registry : Registry π) (settings : Settings) :
    Engine σ π :=
  ⟨c.store, c.statusWriter, cancelled, registry, settings⟩

end Cluster

end Reconciliation
