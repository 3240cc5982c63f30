import Reconciliation.Pass.Engine
import Reconciliation.Pass.Report

/-!
# Syncing

Each desired object is brought about in turn. It gets the controller reference of the owner; if it
is absent it is created as it is; if it is present it is merged into a copy of the live object,
which is written back only when it differs. A field that changed although it cannot makes the live
object be deleted, so that the next pass creates it anew.

* `syncObject` -- one object;
* `Engine.attempts` -- all of them: a failure does not stop the others, cancellation does, between
  two objects;
* `Engine.sync` -- the report of the attempts, or the error that carries it.
-/

namespace Reconciliation

/-! ## 1. One object -/

/-- Makes an owner the controller: its earlier references and those of other controllers go. -/
def ObjectMeta.controlledBy (m : ObjectMeta) (owner : OwnerReference) : ObjectMeta :=
  { m with
    ownerReferences :=
      some ((m.references.filter fun r => r.uid != owner.uid && !r.isController) ++ [owner]) }

/-- The object with the controller reference of an owner. Objects outside of namespaces cannot carry
one. -/
def ManagedObject.attach (o : ManagedObject) (owner? : Option OwnerReference) : ManagedObject :=
  match owner? with
  | some owner =>
    if o.kind.isNamespaced then o.withMetadata (o.metadata.controlledBy owner) else o
  | none => o

/-- Brings one object about: one get, and at most one write. -/
def syncObject [MergePolicy π] (store : ObjectStore σ) (registry : Registry π)
    (owner? : Option OwnerReference) (object : ManagedObject) :
    StateM σ (Except ObjectError ObjectRecord) := do
  let identity := object.identity
  let desired := object.attach owner?
  match ← store.get identity with
  | .error e => return .error (.store e)
  | .ok none =>
    match ← store.create desired with
    | .error e => return .error (.store e)
    | .ok created => return .ok ⟨identity, .created, created.uid?⟩
  | .ok (some existing) =>
    match registry.mutate existing desired with
    | .error (.immutableField _) =>
      match ← store.delete identity with
      | .error e => return .error (.store e)
      | .ok () => return .ok ⟨identity, .recreating, none⟩
    | .error e => return .error (.mutation e)
    | .ok merged =>
      if merged.same existing then return .ok ⟨identity, .unchanged, existing.uid?⟩
      else
        match ← store.update merged with
        | .error e => return .error (.store e)
        | .ok updated => return .ok ⟨identity, .updated, updated.uid?⟩

/-! ## 2. All objects -/

/-- What became of a desired object. -/
inductive Attempt where
  | synced (record : ObjectRecord)
  | failed (failure : ObjectFailure)
  | skipped (identity : ObjectIdentity)

namespace Attempt

/-- The record of a converged object. -/
def record? : Attempt → Option ObjectRecord
  | synced r => some r
  | _ => none

/-- The failure of an object. -/
def failure? : Attempt → Option ObjectFailure
  | failed f => some f
  | _ => none

/-- The identity of an object that was left out. -/
def skipped? : Attempt → Option ObjectIdentity
  | skipped id => some id
  | _ => none

end Attempt

namespace Engine

variable {σ π : Type} [MergePolicy π]

/-- Attempts one object and counts the result. -/
def attempt (e : Engine σ π) (owner? : Option OwnerReference) (object : ManagedObject) :
    Pass σ Attempt := do
  match ← Pass.onWorld (syncObject e.store e.registry owner? object) with
  | .ok record =>
    Pass.observe (.synced object.kind.name record.outcome.name)
    return .synced record
  | .error cause =>
    Pass.observe (.objectError object.kind.name)
    return .failed ⟨object.identity, cause⟩

/-- Attempts the objects in order until the pass is cancelled. -/
def attempts (e : Engine σ π) (owner? : Option OwnerReference) :
    List ManagedObject → Pass σ (List Attempt)
  | [] => return []
  | object :: rest => do
    if e.cancelled (← get).world then
      return (object :: rest).map fun o => .skipped o.identity
    else
      let first ← e.attempt owner? object
      let others ← e.attempts owner? rest
      return first :: others

end Engine

/-- The report of a list of attempts, or the error that carries it. -/
def summarize (attempts : List Attempt) : Except SyncError SyncReport :=
  let report : SyncReport :=
    ⟨attempts.filterMap (·.record?), attempts.filterMap (·.skipped?)⟩
  let failures := attempts.filterMap (·.failure?)
  if failures.isEmpty && report.skipped.isEmpty then .ok report
  else .error ⟨failures, !report.skipped.isEmpty, report⟩

/-- Brings about the desired objects of an owner. -/
def Engine.sync [MergePolicy π] (e : Engine σ π) (owner : Owner) (desired : List ManagedObject) :
    Pass σ (Except SyncError SyncReport) := do
  return summarize (← e.attempts owner.reference? desired)

end Reconciliation
