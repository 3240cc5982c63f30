import Reconciliation.Pass.Reconcile
import Reconciliation.Proofs.Store.Memory
import Reconciliation.Store.Call

/-!
# Logbooks

Whatever the store and the writer of statuses are, an engine can be made to note down each of its
calls, and whether the call succeeded. The log is all that shows of a pass from the outside, so what
is said about the calls that a pass makes, or does not make, is said about the log.

* `EngineCall` -- a call to the store or to the writer of statuses, with its success;
* `Engine.Logs` -- the world of the engine keeps such a log;
* `Engine.logged`, `Engine.logs_logged` -- every engine can be given one;
* `ObjectStore.AnswersAsked`, `Engine.OnMemory.answersAsked` -- a get answers an object of the
  identity that was asked for.
-/

namespace Reconciliation

/-! ## 1. Calls -/

/-- A call of an engine, and whether it succeeded. -/
inductive EngineCall where
  | store (call : StoreCall) (succeeded : Bool)
  | status (target : StatusTarget) (status : OwnerStatus) (succeeded : Bool)
deriving DecidableEq

/-- The world of the engine keeps the calls that the engine makes, in order. -/
structure Engine.Logs (e : Engine σ) (log : σ → List EngineCall) : Prop where
  get : ∀ id w, log (e.store.get id w).2 =
    log w ++ [.store (.get id) (e.store.get id w).1.isOk]
  create : ∀ o w, log (e.store.create o w).2 =
    log w ++ [.store (.create o.identity) (e.store.create o w).1.isOk]
  update : ∀ o w, log (e.store.update o w).2 =
    log w ++ [.store (.update o.identity) (e.store.update o w).1.isOk]
  delete : ∀ id w, log (e.store.delete id w).2 =
    log w ++ [.store (.delete id) (e.store.delete id w).1.isOk]
  list : ∀ kind namespace? selector w, log (e.store.list kind namespace? selector w).2 =
    log w ++ [.store (.list kind namespace? selector)
      (e.store.list kind namespace? selector w).1.isOk]
  status : ∀ target status w, log (e.status target status w).2 =
    log w ++ [.status target status (e.status target status w).1.isOk]

/-! ## 2. Keeping a log -/

/-- A world, and the calls that an engine has made there, in order. -/
structure Logged (σ : Type) where
  world : σ
  calls : List EngineCall

/-- Makes a call and notes it. -/
def Logged.perform (call : Bool → EngineCall) (act : StateM σ (Except ε α)) :
    StateM (Logged σ) (Except ε α) := fun w =>
  ((act w.world).1, ⟨(act w.world).2, w.calls ++ [call (act w.world).1.isOk]⟩)

/-- The store that notes its calls. -/
def ObjectStore.logged (s : ObjectStore σ) : ObjectStore (Logged σ) where
  get id := Logged.perform (.store (.get id)) (s.get id)
  create o := Logged.perform (.store (.create o.identity)) (s.create o)
  update o := Logged.perform (.store (.update o.identity)) (s.update o)
  delete id := Logged.perform (.store (.delete id)) (s.delete id)
  list kind namespace? selector :=
    Logged.perform (.store (.list kind namespace? selector)) (s.list kind namespace? selector)

namespace Engine

/-- The engine that notes its calls and is otherwise the same. -/
def logged (e : Engine σ) : Engine (Logged σ) where
  store := e.store.logged
  status target status := Logged.perform (.status target status) (e.status target status)
  cancelled w := e.cancelled w.world
  registry := e.registry
  settings := e.settings

theorem logs_logged (e : Engine σ) : e.logged.Logs (·.calls) where
  get _ _ := rfl
  create _ _ := rfl
  update _ _ := rfl
  delete _ _ := rfl
  list _ _ _ _ := rfl
  status _ _ _ := rfl

/-- Noting calls does not change the store in memory. -/
theorem OnMemory.logged {e : Engine σ} {view : σ → Memory} (he : e.OnMemory view) :
    e.logged.OnMemory fun w => view w.world where
  get id w := he.get id w.world
  create o w := he.create o w.world
  update o w := he.update o w.world
  delete id w := he.delete id w.world
  list kind namespace? selector w := he.list kind namespace? selector w.world
  status target status w := he.status target status w.world

end Engine

/-! ## 3. Answers -/

/-- A get answers an object of the identity that was asked for, if it answers one. -/
def ObjectStore.AnswersAsked (s : ObjectStore σ) : Prop :=
  ∀ id w o, (s.get id w).1 = .ok (some o) → o.identity = id

theorem Engine.OnMemory.answersAsked {e : Engine σ} {view : σ → Memory} (he : e.OnMemory view) :
    e.store.AnswersAsked := by
  intro id w o h
  rw [(he.get id w).1] at h
  exact Memory.identity_of_get (Memory.get_eq_ok_iff.1 h).2

end Reconciliation
