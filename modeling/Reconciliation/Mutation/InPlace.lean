import Reconciliation.Mutation.Policy

/-!
# Merging in place

A policy works on the object itself, write after write. When one of its steps fails, nothing takes
back what the steps before it have written.

* `Edit` -- steps that change a value and may fail on the way; `Edit.inPart` works on a part of the
  value, `Edit.refuse` fails on a violation, `Codec.edit` lays a value over the present one in wire
  form;
* `Deployment.edit`, `StatefulSet.edit`, `RoleBinding.edit`, `ClusterRoleBinding.edit` -- the merges
  that have steps which can fail; all others write in one step;
* `Policy.edit` -- the policy on an object of any kind: what becomes of the object, and the failure
  if there is one.
-/

namespace Reconciliation

/-- Steps that change a value. What has been written when one of them fails stays written. -/
abbrev Edit (σ : Type) : Type → Type := EStateM MutateError σ

namespace Edit

/-- Edits a part of a value. The value gets what becomes of the part, even if the edit fails. -/
def inPart (get : σ → τ) (set : σ → τ → σ) (edit : Edit τ Unit) : Edit σ Unit := fun a =>
  match edit.run (get a) with
  | .ok () part => .ok () (set a part)
  | .error cause part => .error cause (set a part)

/-- Edits the value inside an object. -/
def within (wrap : σ → ManagedObject) (edit : Edit σ Unit) (a : σ) :
    EStateM.Result MutateError ManagedObject Unit :=
  match edit.run a with
  | .ok () edited => .ok () (wrap edited)
  | .error cause edited => .error cause (wrap edited)

/-- Fails if there is a violation. -/
def refuse : Option ImmutableField → Edit σ Unit
  | some violation => throw (.immutableField violation)
  | none => pure ()

end Edit

/-- Lays the desired value over the present one in wire form; only what reads back is written. -/
def Codec.edit (c : Codec α) (desired : α) : Edit α Unit := fun existing =>
  (c.merge? existing desired).elim (.error .unreadable existing) (.ok ())

/-! ## 1. Workloads -/

/-- Selector and replicas are written before the template is merged, and the strategy comes last. -/
def DeploymentSpec.edit (exists? : Bool) (want : DeploymentSpec) : Edit DeploymentSpec Unit := do
  unless exists? do
    modify fun spec => { spec with selector := want.selector }
  modify fun spec => { spec with replicas := want.replicas }
  Edit.inPart (·.template) (fun spec template => { spec with template })
    (PodTemplate.members.codec.edit want.template)
  Edit.inPart (·.strategy) (fun spec strategy => { spec with strategy })
    ((Codec.option DeploymentStrategy.members.codec).edit want.strategy)

/-- An object without a specification gets an empty one first. -/
def Deployment.edit (desired : Deployment) : Edit Deployment Unit := do
  let existing ← get
  Edit.inPart (·.spec.getD .empty) (fun o spec => { o with spec := some spec })
    (DeploymentSpec.edit existing.metadata.exists? (desired.spec.getD .empty))

/-- All else is written before the template is merged, and the strategy comes last. -/
def StatefulSetSpec.edit (exists? : Bool) (want : StatefulSetSpec) : Edit StatefulSetSpec Unit := do
  unless exists? do
    modify fun spec => { spec with selector := want.selector }
  modify fun spec => { spec with replicas := want.replicas }
  modify fun spec => { spec with podManagementPolicy := want.podManagementPolicy }
  modify fun spec => { spec with
    volumeClaimTemplates :=
      match spec.volumeClaimTemplates, want.volumeClaimTemplates with
      | some live, some claims => some (if exists? then mergeClaims live claims else claims)
      | _, claims => claims }
  Edit.inPart (·.template) (fun spec template => { spec with template })
    (PodTemplate.members.codec.edit want.template)
  Edit.inPart (·.updateStrategy) (fun spec updateStrategy => { spec with updateStrategy })
    ((Codec.option StatefulSetStrategy.members.codec).edit want.updateStrategy)

/-- What cannot change is compared before anything is written. -/
def StatefulSet.edit (desired : StatefulSet) : Edit StatefulSet Unit := do
  let existing ← get
  let want := existing.wanted desired
  Edit.refuse <|
    if existing.metadata.exists? then violation? (existing.spec.getD .empty) want else none
  Edit.inPart (·.spec.getD .empty) (fun o spec => { o with spec := some spec })
    (StatefulSetSpec.edit existing.metadata.exists? want)

/-! ## 2. Bindings -/

/-- The violation of an object of this metadata, if its role changes. -/
def roleViolation? (metadata : ObjectMeta) (current want : RoleRef) : Option ImmutableField :=
  if metadata.exists? ∧ current ≠ want then some (roleRefViolation current want) else none

/-- The role is compared before anything is written. -/
def RoleBinding.edit (desired : RoleBinding) : Edit RoleBinding Unit := do
  let existing ← get
  Edit.refuse (roleViolation? existing.metadata existing.roleRef desired.roleRef)
  modify fun o => { o with roleRef := desired.roleRef }
  modify fun o => { o with subjects := desired.subjects }

/-- The role is compared before anything is written. -/
def ClusterRoleBinding.edit (desired : ClusterRoleBinding) : Edit ClusterRoleBinding Unit := do
  let existing ← get
  Edit.refuse (roleViolation? existing.metadata existing.roleRef desired.roleRef)
  modify fun o => { o with roleRef := desired.roleRef }
  modify fun o => { o with subjects := desired.subjects }

/-! ## 3. Policies -/

/-- The policy works on the object itself. Objects of another kind are refused before that. -/
def Policy.edit (p : Policy) (desired : ManagedObject) : Edit ManagedObject Unit := fun existing =>
  match p, existing, desired with
  | configMap, .configMap e, .configMap d => Edit.within .configMap (modify (·.merge d)) e
  | secret, .secret e, .secret d => Edit.within .secret (modify (·.merge d)) e
  | service, .service e, .service d => Edit.within .service (modify (·.merge d)) e
  | serviceAccount, .serviceAccount e, .serviceAccount d =>
    Edit.within .serviceAccount (modify (·.merge d)) e
  | deployment, .deployment e, .deployment d => Edit.within .deployment d.edit e
  | statefulSet, .statefulSet e, .statefulSet d => Edit.within .statefulSet d.edit e
  | role, .role e, .role d => Edit.within .role (modify (·.merge d)) e
  | roleBinding, .roleBinding e, .roleBinding d => Edit.within .roleBinding d.edit e
  | clusterRole, .clusterRole e, .clusterRole d => Edit.within .clusterRole (modify (·.merge d)) e
  | clusterRoleBinding, .clusterRoleBinding e, .clusterRoleBinding d =>
    Edit.within .clusterRoleBinding d.edit e
  | ingress, .ingress e, .ingress d => Edit.within .ingress (modify (·.merge d)) e
  | spec k, existing, desired =>
    if existing.kind ≠ k ∨ desired.kind ≠ k then
      .error (.kindMismatch existing.kind desired.kind) existing
    else
      match existing, desired with
      | .custom c e, .custom _ d => Edit.within (.custom c) (modify (·.merge d)) e
      | existing, _ => .error (.kindMismatch existing.kind k) existing
  | _, existing, desired => .error (.kindMismatch existing.kind desired.kind) existing

end Reconciliation
