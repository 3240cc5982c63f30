import Reconciliation.Pass.Engine
import Reconciliation.Pass.Report

/-!
# Pruning

Deletes the objects of an owner that it no longer wants, among the kinds that are created under
conditions. An object stays if another resource controls it, if it was just synced (by its uid), or
if it is desired (by its identity).

* `Engine.pruneObjects` -- the listed objects of one kind, until the pass is cancelled;
* `Engine.pruneKinds` -- kind after kind; a kind that cannot be listed is passed over;
* `Engine.prune` -- the report of what happened, or the error that carries it.
-/

namespace Reconciliation

/-- One thing that happened while pruning. -/
inductive PruneEvent where
  | kept (identity : ObjectIdentity)
  | deleted (identity : ObjectIdentity)
  | failed (failure : ObjectFailure)
  | listFailed (failure : ListFailure)
  | cancelled

namespace PruneEvent

/-- The identity of a deleted object. -/
def deleted? : PruneEvent → Option ObjectIdentity
  | deleted id => some id
  | _ => none

/-- The failure of an object. -/
def failure? : PruneEvent → Option ObjectFailure
  | failed f => some f
  | _ => none

/-- The failure of a listing. -/
def listFailure? : PruneEvent → Option ListFailure
  | listFailed f => some f
  | _ => none

/-- Whether an object was kept. -/
def isKept : PruneEvent → Bool
  | kept _ => true
  | _ => false

/-- Whether the pass was cancelled. -/
def isCancelled : PruneEvent → Bool
  | cancelled => true
  | _ => false

end PruneEvent

/-- What decides over the objects of a pass. -/
structure PruneScope where
  owner : Owner
  /-- The identities that the owner wants. -/
  wanted : List ObjectIdentity
  /-- The uids of the objects just synced. -/
  keep : List String

/-- Whether an object of the owner stays. -/
def PruneScope.keeps (s : PruneScope) (object : ManagedObject) : Bool :=
  object.uid?.any (s.keep.contains ·) || s.wanted.contains object.identity

namespace Engine

/-- Goes through the objects that were listed as a kind; what happens counts for that kind. -/
def pruneObjects (e : Engine σ π) (scope : PruneScope) (kind : Kind) :
    List ManagedObject → Pass σ (List PruneEvent)
  | [] => return []
  | object :: rest => do
    if !scope.owner.controls object then e.pruneObjects scope kind rest
    else if scope.keeps object then
      return .kept object.identity :: (← e.pruneObjects scope kind rest)
    else if e.cancelled (← get).world then return [.cancelled]
    else
      match ← Pass.onWorld (e.store.delete object.identity) with
      | .ok () =>
        Pass.observe (.pruned kind.name)
        return .deleted object.identity :: (← e.pruneObjects scope kind rest)
      | .error cause =>
        Pass.observe (.objectError kind.name)
        return .failed ⟨object.identity, .store cause⟩ :: (← e.pruneObjects scope kind rest)

/-- Goes through kinds until the pass is cancelled. -/
def pruneKinds (e : Engine σ π) (scope : PruneScope) : List Kind → Pass σ (List PruneEvent)
  | [] => return []
  | kind :: rest => do
    match ← Pass.onWorld
        (e.store.list kind scope.owner.metadata.namespace? scope.owner.selector) with
    | .error cause => return .listFailed ⟨kind, cause⟩ :: (← e.pruneKinds scope rest)
    | .ok owned =>
      let events ← e.pruneObjects scope kind owned
      if events.any (·.isCancelled) then return events
      else return events ++ (← e.pruneKinds scope rest)

end Engine

/-- The report of what happened, or the error that carries it. -/
def pruned (events : List PruneEvent) : Except PruneError PruneReport :=
  let report : PruneReport := ⟨events.filterMap (·.deleted?), events.countP (·.isKept)⟩
  let listFailures := events.filterMap (·.listFailure?)
  let failures := events.filterMap (·.failure?)
  let cancelled := events.any (·.isCancelled)
  if listFailures.isEmpty && failures.isEmpty && !cancelled then .ok report
  else .error ⟨listFailures, failures, cancelled, report⟩

/-- Deletes what the owner no longer wants of the given kinds. -/
def Engine.prune (e : Engine σ π) (owner : Owner) (desired : List ManagedObject)
    (kinds : List Kind) (keep : List String) : Pass σ (Except PruneError PruneReport) := do
  return pruned (← e.pruneKinds ⟨owner, desired.map (·.identity), keep⟩ kinds)

end Reconciliation
