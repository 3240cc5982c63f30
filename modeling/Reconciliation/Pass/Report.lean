import Reconciliation.Mutation.Error
import Reconciliation.Store.Basic

/-!
# What a pass reports

The results of syncing and of pruning, complete and partial, with the wording of their errors.

* `SyncReport`, `SyncError` -- a record per converged object, a failure per object that was not, and
  the objects that cancellation left out;
* `PruneReport`, `PruneError` -- what was deleted and kept, and what could not be listed or deleted.

A failure names one object; the errors of a pass list them separated by semicolons.
-/

namespace Reconciliation

/-! ## 1. Failures -/

/-- Why an object is not as desired. -/
inductive ObjectError where
  | store (cause : StoreError)
  | mutation (cause : MutateError)

/-- The cause in words. -/
def ObjectError.message : ObjectError → String
  | store e => e.message
  | mutation e => e.message

/-- An object that could not be converged. -/
structure ObjectFailure where
  identity : ObjectIdentity
  cause : ObjectError

/-- The failure in words. -/
def ObjectFailure.message (f : ObjectFailure) : String :=
  f.identity.display ++ ": " ++ f.cause.message

/-- The messages of a list, separated by semicolons. -/
def joined (messages : List String) : String := "; ".intercalate messages

/-! ## 2. Syncing -/

/-- What syncing did to an object. -/
inductive SyncOutcome where
  | created
  | updated
  | unchanged
  | recreating
deriving DecidableEq

/-- The written form. -/
def SyncOutcome.name : SyncOutcome → String
  | created => "created"
  | updated => "updated"
  | unchanged => "unchanged"
  | recreating => "recreating"

/-- The outcome with a name. -/
def SyncOutcome.ofName? (s : String) : Option SyncOutcome :=
  [SyncOutcome.created, updated, unchanged, recreating].find? (·.name == s)

/-- An object that was converged, with its uid unless it was deleted. -/
structure ObjectRecord where
  identity : ObjectIdentity
  outcome : SyncOutcome
  uid : Option String
deriving DecidableEq

/-- What syncing did, object by object. -/
structure SyncReport where
  records : List ObjectRecord
  /-- The objects that were not attempted. -/
  skipped : List ObjectIdentity
deriving DecidableEq

namespace SyncReport

/-- The uids of the recorded objects, each once, ascending. -/
def uids (r : SyncReport) : List String :=
  (Dict.ofList ((r.records.filterMap (·.uid)).map fun u => (u, ()))).keys

/-- How many objects had an outcome. -/
def count (r : SyncReport) (outcome : SyncOutcome) : Nat :=
  r.records.countP fun x => x.outcome == outcome

/-- The outcome of an object, the first one if it was recorded twice. -/
def outcome? (r : SyncReport) (id : ObjectIdentity) : Option SyncOutcome :=
  (r.records.find? fun x => x.identity = id).map (·.outcome)

/-- Whether nothing was written. -/
def isNoop (r : SyncReport) : Bool := r.records.all fun x => x.outcome == .unchanged

end SyncReport

/-- Why syncing failed, with what it did nevertheless. -/
structure SyncError where
  failures : List ObjectFailure
  cancelled : Bool
  report : SyncReport

/-- The error in words: first the objects left out by cancellation, then the failures. -/
def SyncError.message (e : SyncError) : String :=
  joined
    ((if e.cancelled then
        ["sync cancelled with " ++ toString e.report.skipped.length ++ " object(s) not attempted"]
      else []) ++
      if e.failures.isEmpty then []
      else
        ["failed to reconcile " ++ toString e.failures.length ++ " object(s): " ++
          joined (e.failures.map (·.message))])

/-! ## 3. Pruning -/

/-- What pruning did. -/
structure PruneReport where
  deleted : List ObjectIdentity
  kept : Nat
deriving DecidableEq

/-- A kind that could not be listed. -/
structure ListFailure where
  kind : Kind
  cause : StoreError

/-- The failure in words. -/
def ListFailure.message (f : ListFailure) : String :=
  "listing " ++ f.kind.name ++ ": " ++ f.cause.message

/-- Why pruning failed, with what it did nevertheless. -/
structure PruneError where
  listFailures : List ListFailure
  failures : List ObjectFailure
  cancelled : Bool
  report : PruneReport

/-- The error in words: cancellation, then the kinds not listed, then the objects not deleted. -/
def PruneError.message (e : PruneError) : String :=
  joined
    ((if e.cancelled then ["prune cancelled"] else []) ++
      (if e.listFailures.isEmpty then [] else [joined (e.listFailures.map (·.message))]) ++
      if e.failures.isEmpty then []
      else
        ["failed to delete " ++ toString e.failures.length ++ " object(s): " ++
          joined (e.failures.map (·.message))])

end Reconciliation
