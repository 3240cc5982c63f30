import Reconciliation.Pass.Engine
import Reconciliation.Store.Request

/-!
# Contention

An engine's run against a store in memory that other clients use at the same time. The store does
one call after another, so the others can come in between two calls of the engine and nowhere else.
What they ask for there is laid down beforehand and may be anything.

* `SharedStore` -- the world of such a run: the store as it was, and all calls since in one log;
* `SharedStore.call` -- a call of the engine, before which the others have their turn;
* `SharedStore.store` -- the calls as a store.
-/

namespace Reconciliation

/-- Who makes a call. -/
inductive Party where
  | engine
  | other
deriving DecidableEq

/-- A call to a store that several parties use. -/
structure SharedCall where
  party : Party
  request : StoreRequest

/-- The store after the calls of all parties. -/
def Memory.afterCalls (m : Memory) (calls : List SharedCall) : Memory :=
  m.after (calls.map (·.request))

/-- The world of an engine that is not alone. -/
structure SharedStore where
  /-- The store before the first call. -/
  start : Memory
  /-- The calls so far, in order. -/
  log : List SharedCall
  /-- What the others ask for before each of the next calls of the engine. -/
  others : List (List StoreRequest)

namespace SharedStore

/-- The store as it is now. -/
def memory (s : SharedStore) : Memory := s.start.afterCalls s.log

/-- The others make the calls that are due. -/
def yield (s : SharedStore) : SharedStore :=
  { s with
    log := s.log ++ (s.others.headD []).map (⟨.other, ·⟩)
    others := s.others.tail }

/-- The engine makes a call, and gets the answer that the store gives at that moment. -/
def call (request : StoreRequest) (answer : Memory → α) : StateM SharedStore α := fun s =>
  (answer s.yield.memory, { s.yield with log := s.yield.log ++ [⟨.engine, request⟩] })

/-- The calls as a store. -/
def store : ObjectStore SharedStore where
  get id := call (.get id) fun m => m.get id
  create o := call (.create o) fun m => (m.create o).1
  update o := call (.update o) fun m => (m.update o).1
  delete id := call (.delete id) fun m => (m.delete id).1
  list kind namespace? selector :=
    call (.list kind namespace? selector) fun m => m.list kind namespace? selector

/-- The engine over a shared store. Statuses are not kept, and no pass is cancelled. -/
def engine (registry : Registry π) (settings : Settings) : Engine SharedStore π where
  store
  status _ _ s := (.ok (), s)
  cancelled _ := false
  registry
  settings

end SharedStore

end Reconciliation
