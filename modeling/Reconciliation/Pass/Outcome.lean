import Reconciliation.Health
import Reconciliation.Pass.Engine
import Reconciliation.Pass.Report

/-!
# From the outcome of a pass to the status of its owner

* `ReconcileError` -- the stage at which a pass failed; only a rejected configuration is terminal;
* `PassOutcome.conditions` -- a clean pass updates Ready and Degraded from live health, a rejected
  configuration its own condition, any other failure the Failed condition;
* `Engine.refreshStatus` -- the status is written only when it differs from the owner's.
-/

namespace Reconciliation

/-! ## 1. Errors -/

/-- Why the objects of an owner cannot be computed. The owner has to be edited. -/
structure ConfigurationError where
  reason : String
  message : String
deriving DecidableEq

/-- The error in words. -/
def ConfigurationError.display (e : ConfigurationError) : String := e.reason ++ ": " ++ e.message

/-- Why a pass failed. -/
inductive ReconcileError where
  | configuration (cause : ConfigurationError)
  | sync (cause : SyncError)
  | prune (cause : PruneError)
  | health (cause : StoreError)
  | status (cause : StatusError)

namespace ReconcileError

/-- The cause in words. -/
def message : ReconcileError → String
  | configuration e => "invalid configuration: " ++ e.display
  | sync e => e.message
  | prune e => e.message
  | health e => "failed to sample component health: " ++ e.message
  | status e => e.message

/-- Whether trying again cannot help. -/
def isTerminal : ReconcileError → Bool
  | configuration _ => true
  | _ => false

end ReconcileError

/-! ## 2. Outcomes -/

/-- What a pass amounted to. -/
inductive PassOutcome where
  | clean (health : StackHealth)
  | configurationError (cause : ConfigurationError)
  | failed (message : String)

namespace PassOutcome

/-- The outcome of a failed pass. -/
def ofError : ReconcileError → PassOutcome
  | .configuration e => configurationError e
  | e => failed e.message

/-- The observations that an outcome makes. -/
def observations : PassOutcome → List Condition
  | clean health => [health.readyCondition, health.degradedCondition]
  | configurationError e => [.observed .configurationError true e.reason e.message]
  | failed message => [.observed .failed true "FailedReconciliation" message]

/-- The conditions after an outcome at a time. -/
def conditions (outcome : PassOutcome) (existing : List Condition) (now : Instant) :
    List Condition :=
  outcome.observations.foldl (fun cs c => updateCondition cs c now) existing

end PassOutcome

/-! ## 3. Writing the status -/

/-- Writes the conditions to the owner's status unless nothing changed; says whether it did. -/
def Engine.refreshStatus (e : Engine σ π) (owner : Owner) (conditions : List Condition) :
    Pass σ (Except StatusError Bool) := do
  let status : OwnerStatus := ⟨conditions, owner.metadata.generation⟩
  if owner.status = some status then return .ok false
  else
    match ← Pass.onWorld (e.status owner.target status) with
    | .error cause => return .error cause
    | .ok () =>
      Pass.observe .statusUpdate
      return .ok true

end Reconciliation
