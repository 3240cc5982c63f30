import Reconciliation.Pass.Reconcile

/-!
# Watching owners

Every owner that shows up gets a pass of its own: its objects are computed from it, and a pass that
failed is scheduled again.

* `Owner.latest` -- the owners as they were seen last, no two with one namespace and name;
* `Engine.visit` -- the pass of one owner and what is to be done after it;
* `Engine.visitAll` -- the owners one after another, in the order in which they show up;
* `Engine.watch` -- the owners of a watch, each as it was seen last.
-/

namespace Reconciliation

/-- Computes the objects that an owner wants. -/
abbrev Blueprint := Owner → Except ConfigurationError (List ManagedObject)

/-- The object in the namespace of an owner. -/
def ManagedObject.inNamespaceOf (owner : Owner) (o : ManagedObject) : ManagedObject :=
  o.withMetadata { o.metadata with namespace? := owner.metadata.namespace? }

/-- The same objects for every owner, each in the namespace of the owner. -/
def Blueprint.fixed (objects : List ManagedObject) : Blueprint := fun owner =>
  .ok (objects.map (·.inNamespaceOf owner))

/-- The owners as they were seen last: one that shows up again takes the place of the one before. -/
def Owner.latest : List Owner → List Owner
  | [] => []
  | o :: rest => if rest.any (·.target = o.target) then latest rest else o :: latest rest

namespace Engine

/-- Runs the pass of an owner. -/
def visit [MergePolicy π] (e : Engine σ π) (clock : Clock) (build : Blueprint) (owner : Owner) :
    Pass σ Action := do
  match ← e.reconcile clock owner (build owner) with
  | .ok action => return action
  | .error cause => e.retry owner cause

/-- Runs the pass of every owner. -/
def visitAll [MergePolicy π] (e : Engine σ π) (clock : Clock) (build : Blueprint) :
    List Owner → Pass σ (List Action)
  | [] => return []
  | owner :: rest => do
    let action ← e.visit clock build owner
    return action :: (← e.visitAll clock build rest)

/-- Runs the passes of the owners that a watch saw before the first pass. -/
def watch [MergePolicy π] (e : Engine σ π) (clock : Clock) (build : Blueprint)
    (owners : List Owner) : Pass σ (List Action) :=
  e.visitAll clock build (Owner.latest owners)

end Engine

end Reconciliation
