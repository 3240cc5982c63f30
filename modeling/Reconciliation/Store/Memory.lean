import Reconciliation.Store.Basic

/-!
# The store in memory

A table of objects that does what the API server does: it stamps new objects with a uid, a version,
a creation time and generation 1, refuses an update that carries a version other than the stored
one, and raises the generation with every update. Every create, update and delete that took place
is journaled. Failures can be injected per operation and object, or per listed kind.

* `Memory` -- the state; versions and uids are numbered from one counter each, so none is given
  out twice, and every object stands under its own identity (`Memory.keyed`);
* `Memory.get` … `Memory.list` -- the calls, each as a function from state to answer and state;
* `Memory.store` -- the calls as an `ObjectStore`.
-/

namespace Reconciliation

/-- A write that took place. -/
structure StoreWrite where
  operation : Operation
  identity : ObjectIdentity
deriving DecidableEq

/-- The state of the store. -/
structure Memory where
  /-- The objects by identity. -/
  objects : Dict ObjectIdentity ManagedObject
  /-- The last version given out. A natural number stands for the 64-bit counter: every write adds
  one, so both are the same until 2⁶⁴ writes. -/
  version : Nat
  /-- How many uids were given out. It stands for the source of random uids, of which no two are the
  same: here each is told by its number. -/
  issued : Nat
  /-- The time stamped on new objects. -/
  clock : Instant
  /-- Injected failures of operations on objects, the latest first. -/
  failures : List ((Operation × ObjectIdentity) × String)
  /-- Injected failures of listing a kind, the latest first. -/
  listFailures : List (Kind × String)
  /-- The writes so far, in order. -/
  journal : List StoreWrite
  /-- Every object stands under its own identity. -/
  keyed : ∀ entry ∈ objects.entries, entry.2.identity = entry.1

namespace Memory

/-- A store without objects. -/
def empty (clock : Instant) : Memory where
  objects := .empty
  version := 0
  issued := 0
  clock
  failures := []
  listFailures := []
  journal := []
  keyed := by simp [Dict.empty]

/-- The uid with a number. -/
def uidText (n : Nat) : String := "uid-" ++ Digits.padded 3 n

/-! ## 1. Injected failures -/

/-- Makes an operation on an object fail. -/
def failOn (m : Memory) (op : Operation) (id : ObjectIdentity) (message : String) : Memory :=
  { m with failures := ((op, id), message) :: m.failures }

/-- Makes listing a kind fail. -/
def failList (m : Memory) (kind : Kind) (message : String) : Memory :=
  { m with listFailures := (kind, message) :: m.listFailures }

/-- Injects no more failures. -/
def clearFailures (m : Memory) : Memory := { m with failures := [], listFailures := [] }

/-- Takes the writes noted so far. -/
def takeJournal (m : Memory) : List StoreWrite × Memory := (m.journal, { m with journal := [] })

/-- Sets the time. -/
def tick (m : Memory) (now : Instant) : Memory := { m with clock := now }

/-- The injected failure of an operation on an object. -/
def failure? (m : Memory) (op : Operation) (id : ObjectIdentity) : Option StoreError :=
  (m.failures.find? fun f => f.1 = (op, id)).map fun f => .rejected id f.2

/-! ## 2. Calls -/

/-- Storing an object under its own identity keeps the table keyed. -/
theorem keyed_insert (m : Memory) {id : ObjectIdentity} {o : ManagedObject}
    (h : o.identity = id) :
    ∀ entry ∈ (m.objects.insert id o).entries, entry.2.identity = entry.1 := by
  intro entry he
  rcases Entries.mem_insert he with rfl | he
  · exact h
  · exact m.keyed entry he

/-- So does removing an object. -/
theorem keyed_erase (m : Memory) (id : ObjectIdentity) :
    ∀ entry ∈ (m.objects.erase id).entries, entry.2.identity = entry.1 :=
  fun entry he => m.keyed entry (List.mem_filter.1 he).1

/-- Notes a write. -/
def record (m : Memory) (op : Operation) (id : ObjectIdentity) : Memory :=
  { m with journal := m.journal ++ [⟨op, id⟩] }

/-- What a new object is stamped with. -/
def stamp (m : Memory) (o : ManagedObject) : ManagedObject :=
  o.withMetadata
    { o.metadata with
      uid := some (uidText (m.issued + 1))
      resourceVersion := some (toString (m.version + 1))
      creationTimestamp := some m.clock
      generation := some 1 }

@[simp] theorem identity_stamp (m : Memory) (o : ManagedObject) :
    (m.stamp o).identity = o.identity := ManagedObject.identity_withMetadata rfl rfl

/-- Stores a stamped object under its identity, whether or not there was one. The journal does not
note it: this is how a store is seeded. -/
def insert (m : Memory) (o : ManagedObject) : ManagedObject × Memory :=
  let stamped := m.stamp o
  (stamped,
    { m with
      objects := m.objects.insert o.identity stamped
      version := m.version + 1
      issued := m.issued + 1
      keyed := m.keyed_insert (m.identity_stamp o) })

/-- The object with an identity. -/
def get (m : Memory) (id : ObjectIdentity) : Except StoreError (Option ManagedObject) :=
  match m.failure? .get id with
  | some e => .error e
  | none => .ok (m.objects.get? id)

/-- Stores a new object. -/
def create (m : Memory) (o : ManagedObject) : Except StoreError ManagedObject × Memory :=
  match m.failure? .create o.identity with
  | some e => (.error e, m)
  | none =>
    if m.objects.contains o.identity then (.error (.alreadyExists o.identity), m)
    else
      let (stamped, m) := m.insert o
      (.ok stamped, m.record .create o.identity)

/-- What an updated object is stamped with: uid and creation time stay, generation and version
advance. -/
def restamp (m : Memory) (stored o : ManagedObject) : ManagedObject :=
  o.withMetadata
    { o.metadata with
      uid := stored.metadata.uid
      creationTimestamp := stored.metadata.creationTimestamp
      generation := some (stored.metadata.generation.getD 0 + 1)
      resourceVersion := some (toString (m.version + 1)) }

@[simp] theorem identity_restamp (m : Memory) (stored o : ManagedObject) :
    (m.restamp stored o).identity = o.identity := ManagedObject.identity_withMetadata rfl rfl

/-- Whether an object carries a version other than that of the stored object. -/
def staleVersion? (stored o : ManagedObject) : Option String :=
  match o.metadata.resourceVersion with
  | some v => if stored.metadata.resourceVersion = some v then none else some v
  | none => none

/-- Replaces a stored object. -/
def update (m : Memory) (o : ManagedObject) : Except StoreError ManagedObject × Memory :=
  match m.failure? .update o.identity with
  | some e => (.error e, m)
  | none =>
    match m.objects.get? o.identity with
    | none => (.error (.notFound o.identity), m)
    | some stored =>
      match staleVersion? stored o with
      | some v =>
        (.error (.conflict o.identity
          ("the object has been modified (resourceVersion " ++ v ++ " is stale)")), m)
      | none =>
        let updated := m.restamp stored o
        (.ok updated,
          { m with
            objects := m.objects.insert o.identity updated
            version := m.version + 1
            keyed := m.keyed_insert (m.identity_restamp stored o)
            }.record .update o.identity)

/-- Removes an object; it is no error if there is none. -/
def delete (m : Memory) (id : ObjectIdentity) : Except StoreError Unit × Memory :=
  match m.failure? .delete id with
  | some e => (.error e, m)
  | none =>
    if m.objects.contains id then
      (.ok (),
        { m with objects := m.objects.erase id, keyed := m.keyed_erase id }.record .delete id)
    else (.ok (), m)

/-- Whether an object is looked at when listing within a namespace: objects without namespace always
are, and so is everything when no namespace is given. -/
def inNamespace (namespace? : Option String) (id : ObjectIdentity) : Bool :=
  match namespace?, id.namespace? with
  | some ns, some objectNs => ns == objectNs
  | _, _ => true

/-- Whether an entry of the table belongs to a listing. -/
def listed (kind : Kind) (namespace? : Option String) (selector : LabelSelector)
    (entry : ObjectIdentity × ManagedObject) : Bool :=
  entry.1.kind == kind && inNamespace namespace? entry.1 &&
    selector.selects entry.2.metadata.labels

/-- The objects of a kind which a selector selects, in identity order. -/
def list (m : Memory) (kind : Kind) (namespace? : Option String) (selector : LabelSelector) :
    Except StoreError (List ManagedObject) :=
  match m.listFailures.find? fun f => f.1 = kind with
  | some f => .error (.listFailed kind f.2)
  | none => .ok ((m.objects.entries.filter (listed kind namespace? selector)).map (·.2))

/-- The calls as a store. -/
def store : ObjectStore Memory where
  get id := fun m => (m.get id, m)
  create o := fun m => m.create o
  update o := fun m => m.update o
  delete id := fun m => m.delete id
  list kind namespace? selector := fun m => (m.list kind namespace? selector, m)

end Memory

end Reconciliation
