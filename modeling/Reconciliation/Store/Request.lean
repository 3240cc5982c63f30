import Reconciliation.Store.Memory

/-!
# Runs of the store in memory

The store does one call after another, so whatever its clients do, the store sees a list of calls.
A call that takes place stores an object or removes one; what the calls of a list did is the history
of the store.

* `StoreRequest` -- a call with its payload; `StoreRequest.apply` is the store after it;
* `StoreRequest.effect` -- what the call does to the objects;
* `Memory.after`, `Memory.effects` -- the store after a list of calls, and what they did.
-/

namespace Reconciliation

/-! ## 1. Calls -/

/-- A call to the store in memory. -/
inductive StoreRequest where
  | insert (object : ManagedObject)
  | get (identity : ObjectIdentity)
  | create (object : ManagedObject)
  | update (object : ManagedObject)
  | delete (identity : ObjectIdentity)
  | list (kind : Kind) (namespace? : Option String) (selector : LabelSelector)
  | failOn (operation : Operation) (identity : ObjectIdentity) (message : String)
  | failList (kind : Kind) (message : String)
  | clearFailures
  | takeJournal
  /-- No call: time passes. -/
  | tick (now : Instant)

/-- What a call did to the objects. -/
inductive StoreEffect where
  | nothing
  /-- The object was stored, stamped as it stands here. -/
  | stored (object : ManagedObject)
  | removed (identity : ObjectIdentity)

namespace StoreEffect

/-- The object that was written or removed. -/
def identity? : StoreEffect → Option ObjectIdentity
  | nothing => none
  | stored o => some o.identity
  | removed id => some id

/-- The version that was given out. -/
def version? : StoreEffect → Option String
  | stored o => o.metadata.resourceVersion
  | _ => none

end StoreEffect

namespace StoreRequest

/-- The store after the call. -/
def apply (m : Memory) : StoreRequest → Memory
  | insert o => (m.insert o).2
  | get _ => m
  | create o => (m.create o).2
  | update o => (m.update o).2
  | delete id => (m.delete id).2
  | list _ _ _ => m
  | failOn op id message => m.failOn op id message
  | failList kind message => m.failList kind message
  | clearFailures => m.clearFailures
  | takeJournal => m.takeJournal.2
  | tick now => m.tick now

/-- What the call does to the objects of a store. -/
def effect (m : Memory) : StoreRequest → StoreEffect
  | insert o => .stored (m.insert o).1
  | create o => (m.create o).1.toOption.elim .nothing .stored
  | update o => (m.update o).1.toOption.elim .nothing .stored
  | delete id =>
    if (m.delete id).1.isOk && m.objects.contains id then .removed id else .nothing
  | _ => .nothing

@[simp] theorem apply_create (m : Memory) (o : ManagedObject) :
    (create o).apply m = (m.create o).2 := rfl

@[simp] theorem apply_update (m : Memory) (o : ManagedObject) :
    (update o).apply m = (m.update o).2 := rfl

@[simp] theorem apply_delete (m : Memory) (id : ObjectIdentity) :
    (delete id).apply m = (m.delete id).2 := rfl

@[simp] theorem effect_create (m : Memory) (o : ManagedObject) :
    (create o).effect m = (m.create o).1.toOption.elim .nothing .stored := rfl

@[simp] theorem effect_update (m : Memory) (o : ManagedObject) :
    (update o).effect m = (m.update o).1.toOption.elim .nothing .stored := rfl

@[simp] theorem effect_delete (m : Memory) (id : ObjectIdentity) :
    (delete id).effect m =
      if (m.delete id).1.isOk && m.objects.contains id then .removed id else .nothing := rfl

/-- The object that the call is to write or remove. -/
def target? : StoreRequest → Option ObjectIdentity
  | insert o => some o.identity
  | create o => some o.identity
  | update o => some o.identity
  | delete id => some id
  | _ => none

/-- Whether the call can make room for another object of the identity, or put one in its place: an
object that is only updated keeps its uid. -/
def Displaces (id : ObjectIdentity) : StoreRequest → Prop
  | insert o => o.identity = id
  | delete other => other = id
  | _ => False

end StoreRequest

/-! ## 2. Lists of calls -/

namespace Memory

/-- The store after calls. -/
def after (m : Memory) (requests : List StoreRequest) : Memory :=
  requests.foldl StoreRequest.apply m

/-- What calls do, in order. -/
def effects (m : Memory) : List StoreRequest → List StoreEffect
  | [] => []
  | request :: rest => request.effect m :: (request.apply m).effects rest

@[simp] theorem after_cons (m : Memory) (request : StoreRequest) (rest : List StoreRequest) :
    m.after (request :: rest) = (request.apply m).after rest := rfl

theorem after_append (m : Memory) (front back : List StoreRequest) :
    m.after (front ++ back) = (m.after front).after back := List.foldl_append

end Memory

end Reconciliation
