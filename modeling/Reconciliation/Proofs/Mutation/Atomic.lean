import Reconciliation.Mutation.InPlace
import Reconciliation.Proofs.Mutation.Exact

/-!
# A failed merge leaves the object alone

Merging works on the object itself and writes one field after another. It still is all or nothing,
for two reasons: what cannot change is compared before the first write, and the steps behind the
first write never fail.

* `Edit.outcome` -- how an edit ends, without what is left after a failure;
  `Policy.outcome_edit`: merging in place ends as `Policy.merge` does;
* `Edit.Guarded` -- an edit that writes nothing before it fails, unless something does not read
  back; `Policy.edit_guarded`: every policy is such an edit;
* **`Policy.edit_atomic`** -- how a policy that is applied to the object itself ends.
-/

namespace Reconciliation

/-! ## 1. What an edit ends with -/

namespace Edit

variable {σ τ : Type}

/-- The edited value or the failure, without what is left after the failure. -/
def outcome : EStateM.Result MutateError σ Unit → Except MutateError σ
  | .ok () edited => .ok edited
  | .error cause _ => .error cause

theorem outcome_get (next : σ → Edit σ Unit) (a : σ) :
    outcome ((get >>= next).run a) = outcome ((next a).run a) := rfl

theorem outcome_modify (f : σ → σ) (a : σ) :
    outcome ((modify f : Edit σ Unit).run a) = .ok (f a) := rfl

theorem outcome_bind (first : Edit σ Unit) (next : Unit → Edit σ Unit) (a : σ) :
    outcome ((first >>= next).run a) =
      (outcome (first.run a)).bind fun b => outcome ((next ()).run b) := by
  rw [EStateM.run_bind]
  cases first.run a <;> rfl

theorem outcome_inPart (get : σ → τ) (set : σ → τ → σ) (edit : Edit τ Unit) (a : σ) :
    outcome ((inPart get set edit).run a) = (outcome (edit.run (get a))).map (set a) := by
  show outcome (match edit.run (get a) with | .ok () part => _ | .error cause part => _) = _
  cases edit.run (get a) <;> rfl

theorem outcome_within (wrap : σ → ManagedObject) (edit : Edit σ Unit) (a : σ) :
    outcome (edit.within wrap a) = (outcome (edit.run a)).map wrap := by
  unfold within
  cases edit.run a <;> rfl

theorem outcome_refuse (violation : Option ImmutableField) (a : σ) :
    outcome ((refuse violation).run a) =
      violation.elim (.ok a) fun v => .error (.immutableField v) := by
  cases violation <;> rfl

end Edit

theorem Codec.outcome_edit (c : Codec α) (existing desired : α) :
    Edit.outcome ((c.edit desired).run existing) =
      (c.merge? existing desired).elim (.error .unreadable) .ok := by
  show Edit.outcome ((c.merge? existing desired).elim _ _) = _
  cases c.merge? existing desired <;> rfl

theorem DeploymentSpec.outcome_edit (exists? : Bool) (spec want : DeploymentSpec) :
    Edit.outcome ((edit exists? want).run spec) =
      match PodTemplate.members.codec.merge? spec.template want.template,
          (Codec.option DeploymentStrategy.members.codec).merge? spec.strategy want.strategy with
      | some template, some strategy =>
        .ok
          { spec with
            selector := if exists? then spec.selector else want.selector
            replicas := want.replicas
            template
            strategy }
      | _, _ => .error .unreadable := by
  unfold edit
  cases exists? <;>
    simp only [Edit.outcome_bind, Edit.outcome_modify, Edit.outcome_inPart, Codec.outcome_edit,
      Except.bind, if_true, Bool.false_eq_true, if_false]
  all_goals
    cases PodTemplate.members.codec.merge? spec.template want.template with
    | none => rfl
    | some template =>
      simp only [Option.elim_some, Except.map]
      cases (Codec.option DeploymentStrategy.members.codec).merge? spec.strategy want.strategy <;>
        rfl

theorem Deployment.outcome_edit (existing desired : Deployment) :
    Edit.outcome (desired.edit.run existing) = existing.merge desired := by
  unfold edit merge
  rw [Edit.outcome_get, Edit.outcome_inPart, DeploymentSpec.outcome_edit]
  simp only
  cases PodTemplate.members.codec.merge? (existing.spec.getD .empty).template
      (desired.spec.getD .empty).template <;>
    cases (Codec.option DeploymentStrategy.members.codec).merge?
      (existing.spec.getD .empty).strategy (desired.spec.getD .empty).strategy <;>
    rfl

theorem StatefulSetSpec.outcome_edit (exists? : Bool) (spec want : StatefulSetSpec) :
    Edit.outcome ((edit exists? want).run spec) =
      match PodTemplate.members.codec.merge? spec.template want.template,
          (Codec.option StatefulSetStrategy.members.codec).merge? spec.updateStrategy
            want.updateStrategy with
      | some template, some updateStrategy =>
        .ok
          { spec with
            selector := if exists? then spec.selector else want.selector
            replicas := want.replicas
            podManagementPolicy := want.podManagementPolicy
            volumeClaimTemplates :=
              claimsAfter exists? spec.volumeClaimTemplates want.volumeClaimTemplates
            template
            updateStrategy }
      | _, _ => .error .unreadable := by
  unfold edit
  cases exists? <;>
    simp only [Edit.outcome_bind, Edit.outcome_modify, Edit.outcome_inPart, Codec.outcome_edit,
      Except.bind, if_true, Bool.false_eq_true, if_false]
  all_goals
    cases PodTemplate.members.codec.merge? spec.template want.template with
    | none => rfl
    | some template =>
      simp only [Option.elim_some, Except.map]
      cases (Codec.option StatefulSetStrategy.members.codec).merge? spec.updateStrategy
        want.updateStrategy <;> rfl

theorem StatefulSet.outcome_edit (existing desired : StatefulSet) :
    Edit.outcome (desired.edit.run existing) = existing.merge desired := by
  unfold edit merge
  rw [Edit.outcome_get, Edit.outcome_bind, Edit.outcome_refuse]
  simp only
  generalize (if existing.metadata.exists? = true then _ else _) = violation
  cases violation with
  | some violation => rfl
  | none =>
    show Edit.outcome ((Edit.inPart _ _ _).run existing) = _
    rw [Edit.outcome_inPart, StatefulSetSpec.outcome_edit]
    simp only
    cases PodTemplate.members.codec.merge? (existing.spec.getD .empty).template
        (existing.wanted desired).template <;>
      cases (Codec.option StatefulSetStrategy.members.codec).merge?
        (existing.spec.getD .empty).updateStrategy (existing.wanted desired).updateStrategy <;>
      rfl

theorem roleViolation?_elim {α : Type} (metadata : ObjectMeta) (current want : RoleRef) (a : α)
    (f : ImmutableField → α) :
    (roleViolation? metadata current want).elim a f =
      if metadata.exists? ∧ current ≠ want then f (roleRefViolation current want) else a := by
  unfold roleViolation?
  split <;> rfl

theorem RoleBinding.outcome_edit (existing desired : RoleBinding) :
    Edit.outcome (desired.edit.run existing) = existing.merge desired := by
  unfold edit merge
  rw [Edit.outcome_get, Edit.outcome_bind, Edit.outcome_refuse, roleViolation?_elim]
  split <;> rfl

theorem ClusterRoleBinding.outcome_edit (existing desired : ClusterRoleBinding) :
    Edit.outcome (desired.edit.run existing) = existing.merge desired := by
  unfold edit merge
  rw [Edit.outcome_get, Edit.outcome_bind, Edit.outcome_refuse, roleViolation?_elim]
  split <;> rfl

theorem Policy.outcome_edit_spec (k : Kind) (existing desired : ManagedObject) :
    Edit.outcome (((spec k).edit desired).run existing) = (spec k).merge existing desired := by
  show Edit.outcome (if existing.kind ≠ k ∨ desired.kind ≠ k then _ else _) =
    if existing.kind ≠ k ∨ desired.kind ≠ k then _ else _
  split
  · rfl
  · cases existing <;> cases desired <;> rfl

/-- **Merging in place ends as merging does.** -/
theorem Policy.outcome_edit (p : Policy) (existing desired : ManagedObject) :
    Edit.outcome ((p.edit desired).run existing) = p.merge existing desired := by
  show Edit.outcome (p.edit desired existing) = _
  unfold edit
  split
  case h_5 =>
    rw [Edit.outcome_within, Deployment.outcome_edit]
    rfl
  case h_6 =>
    rw [Edit.outcome_within, StatefulSet.outcome_edit]
    rfl
  case h_8 =>
    rw [Edit.outcome_within, RoleBinding.outcome_edit]
    rfl
  case h_10 =>
    rw [Edit.outcome_within, ClusterRoleBinding.outcome_edit]
    rfl
  case h_12 k => exact outcome_edit_spec k existing desired
  case h_13 =>
    -- no row applies, to neither of the two
    unfold merge
    split
    case h_13 => rfl
    all_goals grind
  all_goals rfl

/-! ## 2. When a failure comes -/

namespace Edit

variable {σ : Type}

/-- If the edit fails for any reason but that something does not read back, it has written nothing
before. -/
def Guarded (edit : Edit σ Unit) (a : σ) : Prop :=
  ∀ cause left, edit.run a = .error cause left → cause = .unreadable ∨ left = a

/-- No writes have to be looked at where there is only the one failure. -/
theorem Guarded.of_outcome {edit : Edit σ Unit} {a : σ}
    (h : ∀ cause, outcome (edit.run a) = .error cause → cause = .unreadable) :
    edit.Guarded a := by
  intro cause left hrun
  exact .inl (h cause (by rw [hrun]; rfl))

theorem Guarded.refuse {next : Edit σ Unit} {a : σ} (h : next.Guarded a)
    (violation : Option ImmutableField) :
    Guarded (do Edit.refuse violation; next) a := by
  intro cause left hrun
  cases violation with
  | some violation =>
    cases hrun
    exact .inr rfl
  | none => exact h cause left hrun

theorem Guarded.within {edit : Edit σ Unit} {a : σ} (h : edit.Guarded a) {wrap : σ → ManagedObject}
    {cause : MutateError} {left : ManagedObject} (hw : edit.within wrap a = .error cause left) :
    cause = .unreadable ∨ left = wrap a := by
  unfold Edit.within at hw
  split at hw
  · cases hw
  · rename_i hrun
    cases hw
    exact (h _ _ hrun).imp_right (congrArg wrap)

end Edit

theorem DeploymentSpec.edit_fails {exists? : Bool} {spec want : DeploymentSpec}
    {cause : MutateError} (h : Edit.outcome ((edit exists? want).run spec) = .error cause) :
    cause = .unreadable := by
  rw [outcome_edit] at h
  split at h
  · cases h
  · exact (Except.error.inj h).symm

theorem StatefulSetSpec.edit_fails {exists? : Bool} {spec want : StatefulSetSpec}
    {cause : MutateError} (h : Edit.outcome ((edit exists? want).run spec) = .error cause) :
    cause = .unreadable := by
  rw [outcome_edit] at h
  split at h
  · cases h
  · exact (Except.error.inj h).symm

theorem Deployment.edit_guarded (existing desired : Deployment) :
    desired.edit.Guarded existing := by
  refine .of_outcome fun cause h => ?_
  unfold edit at h
  rw [Edit.outcome_get, Edit.outcome_inPart] at h
  exact DeploymentSpec.edit_fails (except_map_eq_error h)

theorem StatefulSet.edit_guarded (existing desired : StatefulSet) :
    desired.edit.Guarded existing := by
  -- behind the comparison, only the template and the strategy can fail
  refine Edit.Guarded.refuse (.of_outcome fun cause h => ?_) _
  rw [Edit.outcome_inPart] at h
  exact StatefulSetSpec.edit_fails (except_map_eq_error h)

theorem RoleBinding.edit_guarded (existing desired : RoleBinding) :
    desired.edit.Guarded existing :=
  Edit.Guarded.refuse (.of_outcome fun _ h => by cases h) _

theorem ClusterRoleBinding.edit_guarded (existing desired : ClusterRoleBinding) :
    desired.edit.Guarded existing :=
  Edit.Guarded.refuse (.of_outcome fun _ h => by cases h) _

/-- No policy has written anything when it refuses the objects. -/
theorem Policy.edit_guarded (p : Policy) (existing desired : ManagedObject) :
    (p.edit desired).Guarded existing := by
  intro cause left h
  replace h : p.edit desired existing = .error cause left := h
  unfold edit at h
  split at h
  case h_5 => exact (Deployment.edit_guarded _ _).within h
  case h_6 => exact (StatefulSet.edit_guarded _ _).within h
  case h_8 => exact (RoleBinding.edit_guarded _ _).within h
  case h_10 => exact (ClusterRoleBinding.edit_guarded _ _).within h
  case h_12 =>
    split at h
    · cases h
      exact .inr rfl
    · split at h
      · cases h
      · cases h
        exact .inr rfl
  case h_13 =>
    cases h
    exact .inr rfl
  all_goals cases h

/-! ## 3. All or nothing -/

/-- **A policy that is applied to the object itself is all or nothing.** It succeeds, or it refuses
the kinds or a field that cannot change, and then the object is as it was. It refuses the kinds just
if one of the objects is not of its kind, or if it is for the specification of a kind that has a
structure. -/
theorem Policy.edit_atomic (p : Policy) {existing desired : ManagedObject} (he : existing.IsDated)
    (hd : desired.IsDated) :
    ((∃ merged, (p.edit desired).run existing = .ok () merged) ∨
      ∃ cause, (p.edit desired).run existing = .error cause existing ∧
        ((∃ a b, cause = .kindMismatch a b) ∨ ∃ v, cause = .immutableField v)) ∧
    ((∃ a b left, (p.edit desired).run existing = .error (.kindMismatch a b) left) ↔
      existing.kind ≠ p.kind ∨ desired.kind ≠ p.kind ∨ ∃ k, p = .spec k ∧ k.isCustom = false) := by
  have houtcome := p.outcome_edit existing desired
  have hguarded := p.edit_guarded existing desired
  constructor
  · cases hrun : (p.edit desired).run existing with
    | ok u merged => exact .inl ⟨merged, rfl⟩
    | error cause left =>
      rw [hrun] at houtcome
      have hcause : (∃ a b, cause = .kindMismatch a b) ∨ ∃ v, cause = .immutableField v := by
        rcases p.merge_cases he hd with ⟨merged, hm⟩ | ⟨a, b, hm⟩ | ⟨v, hm⟩
        · cases houtcome.trans hm
        · exact .inl ⟨a, b, Except.error.inj (houtcome.trans hm)⟩
        · exact .inr ⟨v, Except.error.inj (houtcome.trans hm)⟩
      rcases hguarded cause left hrun with rfl | rfl
      · rcases hcause with ⟨_, _, h⟩ | ⟨_, h⟩ <;> cases h
      · exact .inr ⟨cause, rfl, hcause⟩
  · rw [← merge_eq_mismatch_iff, ← houtcome]
    constructor
    · rintro ⟨a, b, left, h⟩
      exact ⟨a, b, by rw [h]; rfl⟩
    · rintro ⟨a, b, h⟩
      cases hrun : (p.edit desired).run existing with
      | ok u merged => rw [hrun] at h; cases h
      | error cause left =>
        rw [hrun] at h
        cases h
        exact ⟨a, b, left, rfl⟩

/-- A stateful set with other claims than the desired ones keeps its replicas too. The policy of
another kind does not touch it either. -/
theorem Policy.edit_atomic_storing :
    let existing : ManagedObject := .statefulSet (.storing (some ⟨0, 0⟩) 1 [("data", none)])
    let desired : ManagedObject := .statefulSet (.storing none 3 [("logs", none)])
    (existing.IsDated ∧ desired.IsDated) ∧
      (∃ v, (statefulSet.edit desired).run existing = .error (.immutableField v) existing) ∧
      ∃ a b, (configMap.edit desired).run existing = .error (.kindMismatch a b) existing := by
  intro existing desired
  have he : existing.IsDated := StatefulSet.isDated_storing _ _ _
  have hd : desired.IsDated := StatefulSet.isDated_storing _ _ _
  refine ⟨⟨he, hd⟩, ?_, ?_⟩
  · obtain ⟨hend, -⟩ := statefulSet.edit_atomic he hd
    obtain ⟨v, hv⟩ : ∃ v, Violates existing desired v := by
      refine ⟨_, .claims rfl rfl fun h => ?_⟩
      cases h with
      | cons h _ => exact absurd (Option.some.inj h.name) (by decide)
    have houtcome := (statefulSet.outcome_edit existing desired).trans
      (merge_eq_violation_iff.2 ⟨rfl, hv⟩)
    rcases hend with ⟨merged, hrun⟩ | ⟨cause, hrun, -⟩
    · rw [hrun] at houtcome
      cases houtcome
    · rw [hrun] at houtcome
      cases houtcome
      exact ⟨v, hrun⟩
  · obtain ⟨hend, hmismatch⟩ := configMap.edit_atomic he hd
    obtain ⟨a, b, left, hrun⟩ := hmismatch.2 (.inl (by decide))
    rcases hend with ⟨merged, hrun'⟩ | ⟨cause, hrun', -⟩
    · cases hrun.symm.trans hrun'
    · cases hrun.symm.trans hrun'
      exact ⟨a, b, hrun⟩

/-- An instant beyond the calendar would be noticed too late: the replicas are written already. -/
example :
    let template : PodTemplate :=
      ⟨some { ObjectMeta.empty with creationTimestamp := some ⟨10 ^ 14, 0⟩ }, none⟩
    let existing : Deployment :=
      ⟨.empty, some { DeploymentSpec.empty with replicas := some 1, template }, none⟩
    let desired : Deployment :=
      ⟨.empty, some { DeploymentSpec.empty with replicas := some 3 }, none⟩
    ∃ left, desired.edit.run existing = .error .unreadable left ∧
      left.spec.bind (·.replicas) = some 3 :=
  ⟨_, rfl, rfl⟩

end Reconciliation
