import Reconciliation.Pass.Outcome
import Reconciliation.Pass.Prune
import Reconciliation.Pass.Sync

/-!
# One pass

Sync, prune, sample health, refresh the status: each stage runs only if the one before succeeded.

* `Engine.converge` -- the stages up to the health of the components;
* `Engine.conclude` -- what comes of them. A clean pass asks to be run again after the resync
  interval and forgets earlier failures; a failed one records its failure on the owner and returns
  it, whether or not the record could be written;
* `Engine.reconcile` -- the whole pass;
* `Engine.retry` -- what to do about a failed pass: wait for a change of the owner if the failure is
  terminal, else try again after the next delay of the owner.
-/

namespace Reconciliation

/-- When to look at an owner again. -/
inductive Action where
  | awaitChange
  | requeue (seconds : Nat)
deriving DecidableEq

/-- The action in words. -/
def Action.display : Action → String
  | awaitChange => "await_change"
  | requeue seconds => "requeue " ++ toString seconds ++ "s"

/-- What the clock says at the end of the stages: the time, and how long they took. -/
structure Clock where
  now : Instant
  elapsedMillis : Int

/-- Lists the owner's workloads and sums their replicas; workloads that another resource controls
are left out. -/
def sampleHealth (store : ObjectStore σ) (owner : Owner) :
    StateM σ (Except StoreError StackHealth) := do
  match ← store.list .deployment owner.metadata.namespace? owner.selector with
  | .error e => return .error e
  | .ok deployments =>
    match ← store.list .statefulSet owner.metadata.namespace? owner.selector with
    | .error e => return .error e
    | .ok statefulSets =>
      let workloads := (deployments ++ statefulSets).filter owner.controls
      return .ok (StackHealth.empty.observeAll workloads)

namespace Engine

variable {σ π : Type}

/-! ## 1. The stages -/

/-- The stages after the sync: deletes what is no longer desired, and samples health. -/
def afterSync (e : Engine σ π) (owner : Owner) (objects : List ManagedObject) :
    Except SyncError SyncReport → Pass σ (Except ReconcileError StackHealth)
  | .error cause => return .error (.sync cause)
  | .ok report => do
    match ← e.prune owner objects e.settings.features.prunableKinds report.uids with
    | .error cause => return .error (.prune cause)
    | .ok _ =>
      match ← Pass.onWorld (sampleHealth e.store owner) with
      | .error cause => return .error (.health cause)
      | .ok health => return .ok health

/-- Brings about the desired objects, deletes what is no longer desired, and samples health. -/
def converge [MergePolicy π] (e : Engine σ π) (owner : Owner) :
    Except ConfigurationError (List ManagedObject) → Pass σ (Except ReconcileError StackHealth)
  | .error cause => return .error (.configuration cause)
  | .ok objects => do e.afterSync owner objects (← e.sync owner objects)

/-! ## 2. The pass -/

/-- Records on the owner what came of the stages. -/
def conclude (e : Engine σ π) (clock : Clock) (owner : Owner) :
    Except ReconcileError StackHealth → Pass σ (Except ReconcileError Action)
  | .ok health => do
    let conditions := (PassOutcome.clean health).conditions owner.conditions clock.now
    match ← e.refreshStatus owner conditions with
    | .error cause => return .error (.status cause)
    | .ok _ =>
      modify (·.resetBackoff owner.key)
      return .ok (.requeue e.settings.resyncSeconds)
  | .error cause => do
    Pass.observe .reconciliationError
    let _ ← e.refreshStatus owner
      ((PassOutcome.ofError cause).conditions owner.conditions clock.now)
    return .error cause

/-- Runs one pass for an owner. -/
def reconcile [MergePolicy π] (e : Engine σ π) (clock : Clock) (owner : Owner)
    (desired : Except ConfigurationError (List ManagedObject)) :
    Pass σ (Except ReconcileError Action) := do
  if owner.managementState = .unmanaged then return .ok .awaitChange
  else
    Pass.observe .reconciliation
    let result ← e.converge owner desired
    Pass.observe (.duration clock.elapsedMillis)
    e.conclude clock owner result

/-! ## 3. Retries -/

/-- Decides when a failed pass is tried again. -/
def retry (e : Engine σ π) (owner : Owner) (cause : ReconcileError) : Pass σ Action := do
  if cause.isTerminal then
    Pass.observe (.requeue "await-change")
    return .awaitChange
  else
    let fresh := Backoff.between e.settings.backoffMinMinutes e.settings.backoffMaxMinutes
    let backoff := ((← get).retries.get? owner.key).getD fresh
    let (seconds, later) := backoff.countError.next
    modify fun r => { r with retries := r.retries.insert owner.key later }
    Pass.observe (.requeue "error-backoff")
    return .requeue seconds

end Engine

end Reconciliation
