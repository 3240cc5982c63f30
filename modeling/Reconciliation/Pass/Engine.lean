import Reconciliation.Backoff
import Reconciliation.Metrics
import Reconciliation.Mutation.Registry
import Reconciliation.Owner
import Reconciliation.Settings
import Reconciliation.Store.Basic

/-!
# The engine and its state

An engine is put together from a store, a writer of owner status and a sign of cancellation, all
over one world `σ`, and from its policies and settings. While it runs it keeps the world, the log
of observations and the retries of every owner (`Run`); a step of a pass is a function on that state
(`Pass`).
-/

namespace Reconciliation

/-! ## 1. Status writers -/

/-- Why a status cannot be written. -/
inductive StatusError where
  /-- The API refused, with a status code if it answered with one. -/
  | patch (target : StatusTarget) (code : Option Nat)
  | unavailable (message : String)

/-- The cause in words. -/
def StatusError.message : StatusError → String
  | patch target (some code) =>
    "failed to patch status of " ++ target.display ++ ": status " ++ toString code
  | patch target none => "failed to patch status of " ++ target.display ++ ": unexpected answer"
  | unavailable m => "status writer unavailable: " ++ m

/-- Writes the status of an owner. -/
abbrev StatusWriter (σ : Type) := StatusTarget → OwnerStatus → StateM σ (Except StatusError Unit)

/-! ## 2. Engines -/

/-- The parts of an engine, whose policies are built-in ones unless said otherwise. -/
structure Engine (σ : Type) (π : Type := Policy) where
  store : ObjectStore σ
  status : StatusWriter σ
  /-- Whether the pass has been cancelled. -/
  cancelled : σ → Bool
  registry : Registry π
  settings : Settings

/-- What an engine keeps while it runs. -/
structure Run (σ : Type) where
  world : σ
  metrics : Metrics
  /-- The retries by owner key. -/
  retries : Dict String Backoff

/-- A step of an engine. -/
abbrev Pass (σ α : Type) := StateM (Run σ) α

namespace Run

/-- The state before the first pass. -/
def start (world : σ) : Run σ := ⟨world, [], .empty⟩

/-- Forgets the failures of an owner, if it had any. -/
def resetBackoff (r : Run σ) (key : String) : Run σ :=
  match r.retries.get? key with
  | some b => { r with retries := r.retries.insert key b.reset }
  | none => r

end Run

namespace Pass

/-- Acts on the world. -/
def onWorld (act : StateM σ α) : Pass σ α := fun r =>
  let (a, world) := act r.world
  (a, { r with world })

/-- Notes an observation. -/
def observe (o : Observation) : Pass σ Unit := fun r => ((), { r with metrics := r.metrics ++ [o] })

end Pass

end Reconciliation
