import Reconciliation.Proofs.Mutation.Immutable

/-!
# Merging loses nothing

Templates and strategies are merged as JSON and read back. That could fail, or lose a field that the
reader does not know; neither happens, because what is merged from two written values is again the
written form of a value.

* `Codec.MergesExactly` -- the merge succeeds, and the result is written as the merge of the written
  values;
* `Policy.merge_eq_mismatch_iff`, **`Policy.merge_cases`** -- how the merge of a policy ends: no
  third failure is left besides a kind that does not fit and a field that cannot change;
* **`merges_exactly`** -- the law for templates and strategies, and what it means for policies and
  mutations: their fourth failure never occurs.
-/

namespace Reconciliation

/-! ## 1. Templates and strategies -/

/-- Merging the two values succeeds, and the result is written as the override merge of what they
are written as. -/
def Codec.MergesExactly (c : Codec α) (existing desired : α) : Prop :=
  ∃ merged, c.merge? existing desired = some merged ∧
    c.encode merged = (c.encode existing).override (c.encode desired)

theorem Codec.Law.mergesExactly {c : Codec α} {whole : α → Prop} {form : Json → Prop}
    (h : c.Law whole form) {existing desired : α}
    (hm : ∃ merged, c.merge? existing desired = some merged) :
    c.MergesExactly existing desired := by
  obtain ⟨merged, hm⟩ := hm
  exact ⟨merged, hm, h.encode_of_merge? hm⟩

/-- Whole seconds or not: what is merged are the texts of the instants. -/
theorem PodTemplate.mergesExactly {existing desired : PodTemplate} (he : existing.IsDated)
    (hd : desired.IsDated) : members.codec.MergesExactly existing desired := by
  obtain ⟨_, law, -⟩ := PodTemplate.lawful
  exact law.mergesExactly (PodTemplate.exists_merge? he hd)

theorem Codec.Lawful.mergesExactly_option {c : Codec α} (h : c.Lossless)
    (existing desired : Option α) : c.option.MergesExactly existing desired := by
  obtain ⟨_, law⟩ := h.option
  exact law.mergesExactly (h.exists_merge?_option existing desired)

/-! ## 2. How a merge ends -/

/-- Every policy but one is the built-in policy of its kind: that for the specification of a kind
which has a structure. -/
theorem Policy.eq_ofKind_iff {p : Policy} :
    p = .ofKind p.kind ↔ ¬∃ k, p = .spec k ∧ k.isCustom = false := by
  cases p with
  | spec k => cases k <;> simp [kind, ofKind, Kind.isCustom]
  | _ => simp [kind, ofKind]

/-- A failure that is about the fields of two objects of one kind. -/
inductive MutateError.OfFields : MutateError → Prop
  | immutableField (violation : ImmutableField) : OfFields (.immutableField violation)
  | unreadable : OfFields .unreadable

section Fields

variable {cause : MutateError}

theorem Deployment.ofFields_of_merge {e d : Deployment} (h : e.merge d = .error cause) :
    cause.OfFields := by
  unfold merge at h
  simp only at h
  split at h <;> cases h
  exact .unreadable

theorem StatefulSet.ofFields_of_merge {e d : StatefulSet} (h : e.merge d = .error cause) :
    cause.OfFields := by
  unfold merge at h
  simp only at h
  split at h
  · cases h
    exact .immutableField _
  · split at h <;> cases h
    exact .unreadable

theorem RoleBinding.ofFields_of_merge {e d : RoleBinding} (h : e.merge d = .error cause) :
    cause.OfFields := by
  unfold merge at h
  split at h <;> cases h
  exact .immutableField _

theorem ClusterRoleBinding.ofFields_of_merge {e d : ClusterRoleBinding}
    (h : e.merge d = .error cause) : cause.OfFields := by
  unfold merge at h
  split at h <;> cases h
  exact .immutableField _

/-- Of the objects of its kind, the built-in policy of the kind reports nothing else. -/
theorem Policy.ofFields_of_merge {existing desired : ManagedObject}
    (hk : existing.kind = desired.kind)
    (h : (Policy.ofKind desired.kind).merge existing desired = .error cause) :
    cause.OfFields := by
  cases desired <;> cases existing <;> cases hk
  case deployment => exact Deployment.ofFields_of_merge (except_map_eq_error h)
  case statefulSet => exact StatefulSet.ofFields_of_merge (except_map_eq_error h)
  case roleBinding => exact RoleBinding.ofFields_of_merge (except_map_eq_error h)
  case clusterRoleBinding => exact ClusterRoleBinding.ofFields_of_merge (except_map_eq_error h)
  case custom => simp [merge, ofKind, ManagedObject.kind] at h
  all_goals cases h

end Fields

/-- The objects fit a policy just if they are of one kind and the policy is the built-in one for
it. -/
theorem Policy.fits_iff {p : Policy} {existing desired : ManagedObject} :
    ¬(existing.kind ≠ p.kind ∨ desired.kind ≠ p.kind ∨ ∃ k, p = .spec k ∧ k.isCustom = false) ↔
      existing.kind = desired.kind ∧ p = .ofKind desired.kind := by
  simp only [not_or, not_not, ← eq_ofKind_iff]
  constructor
  · rintro ⟨hke, hkd, hp⟩
    exact ⟨hke.trans hkd.symm, hkd ▸ hp⟩
  · rintro ⟨hk, rfl⟩
    simp [hk]

/-- **A policy refuses the objects of other kinds**, and those of all kinds if it is for the
specification of a kind that has a structure. -/
theorem Policy.merge_eq_mismatch_iff {p : Policy} {existing desired : ManagedObject} :
    (∃ a b, p.merge existing desired = .error (.kindMismatch a b)) ↔
      existing.kind ≠ p.kind ∨ desired.kind ≠ p.kind ∨ ∃ k, p = .spec k ∧ k.isCustom = false := by
  constructor
  · rintro ⟨a, b, h⟩
    by_contra hfits
    obtain ⟨hk, rfl⟩ := fits_iff.1 hfits
    cases ofFields_of_merge hk h
  · intro h
    unfold merge
    split
    case h_12 k =>
      split
      · exact ⟨_, _, rfl⟩
      · rename_i hk
        obtain ⟨hke, hkd⟩ := not_or.1 hk
        split
        · rename_i c e c' d
          obtain hke' | hkd' | ⟨k', hk', hcustom⟩ := h
          · exact absurd hke' hke
          · exact absurd hkd' hkd
          · cases hk'
            rw [← not_not.1 hke] at hcustom
            cases hcustom
        · exact ⟨_, _, rfl⟩
    case h_13 => exact ⟨_, _, rfl⟩
    all_goals simp [kind, ManagedObject.kind] at h

/-- **The merge of a policy** succeeds, or refuses the kinds, or reports a field that cannot
change. -/
theorem Policy.merge_cases {existing desired : ManagedObject} (p : Policy) (he : existing.IsDated)
    (hd : desired.IsDated) :
    (∃ merged, p.merge existing desired = .ok merged) ∨
      (∃ a b, p.merge existing desired = .error (.kindMismatch a b)) ∨
      ∃ v, p.merge existing desired = .error (.immutableField v) := by
  by_cases hmismatch : ∃ a b, p.merge existing desired = .error (.kindMismatch a b)
  · exact .inr (.inl hmismatch)
  · obtain ⟨hk, hp⟩ := fits_iff.1 (mt merge_eq_mismatch_iff.2 hmismatch)
    by_cases hv : ∃ v, Violates existing desired v
    · obtain ⟨v, hv⟩ := hv
      exact .inr (.inr ⟨v, merge_eq_violation_iff.2 ⟨hp, hv⟩⟩)
    · obtain ⟨merged, hm⟩ := MergesTo.exists_of_not_violates hk he hd (not_exists.1 hv)
      exact .inl ⟨merged, merge_eq_ok_iff.2 ⟨hp, hm⟩⟩

/-- Merged fields always read back. -/
theorem Policy.merge_ne_unreadable {existing desired : ManagedObject} (p : Policy)
    (he : existing.IsDated) (hd : desired.IsDated) :
    p.merge existing desired ≠ .error .unreadable := by
  intro h
  rcases p.merge_cases he hd with ⟨_, h'⟩ | ⟨_, _, h'⟩ | ⟨_, h'⟩ <;> rw [h] at h' <;> cases h'

theorem Registry.mutate_ne_unreadable {existing desired : ManagedObject} (r : Registry)
    (he : existing.IsDated) (hd : desired.IsDated) :
    r.mutate existing desired ≠ .error .unreadable := by
  intro h
  unfold mutate at h
  split at h
  · cases h
  · cases hp : r.policy desired.kind with
    | error cause =>
      rw [hp] at h
      unfold policy at hp
      split at hp <;> cases hp
      cases h
    | ok p =>
      rw [hp] at h
      exact p.merge_ne_unreadable (he.withMetadata _) hd h

/-! ## 3. The law -/

/-- **Merging loses nothing and does not fail**: two templates, or two strategies that may be
absent, are merged, and the result is written as the merge of what they are written as. So no policy
and no mutation ever fails because merged fields do not read back. -/
theorem merges_exactly :
    (∀ existing desired : PodTemplate, existing.IsDated → desired.IsDated →
      PodTemplate.members.codec.MergesExactly existing desired) ∧
    (∀ existing desired : Option DeploymentStrategy,
      (Codec.option DeploymentStrategy.members.codec).MergesExactly existing desired) ∧
    (∀ existing desired : Option StatefulSetStrategy,
      (Codec.option StatefulSetStrategy.members.codec).MergesExactly existing desired) ∧
    ∀ existing desired : ManagedObject, existing.IsDated → desired.IsDated →
      (∀ p : Policy, p.merge existing desired ≠ .error .unreadable) ∧
        ∀ r : Registry, r.mutate existing desired ≠ .error .unreadable :=
  ⟨fun _ _ => PodTemplate.mergesExactly, DeploymentStrategy.lossless.mergesExactly_option,
    StatefulSetStrategy.lossless.mergesExactly_option, fun _ _ he hd =>
      ⟨fun p => p.merge_ne_unreadable he hd, fun r => r.mutate_ne_unreadable he hd⟩⟩

/-- A template that a server has stamped meets one with zero values, and a strategy with a zero in
it is laid over none: the zero is kept. -/
theorem merges_exactly_zeros :
    let existing : PodTemplate :=
      ⟨some { ObjectMeta.empty with creationTimestamp := some ⟨1700000000, 0⟩ }, none⟩
    let desired : PodTemplate :=
      ⟨some { ObjectMeta.empty with labels := some .empty },
        some ⟨[], none, none, some "", none, some 0, some false, none, some [], none⟩⟩
    let strategy : DeploymentStrategy := ⟨some "RollingUpdate", some ⟨some (.int 0), none⟩⟩
    (existing.IsDated ∧ desired.IsDated) ∧
      PodTemplate.members.codec.MergesExactly existing desired ∧
      ∃ merged, (Codec.option DeploymentStrategy.members.codec).merge? none (some strategy) =
          some merged ∧
        (Codec.option DeploymentStrategy.members.codec).encode merged =
          .obj [("rollingUpdate", .obj [("maxSurge", .ofInt 0)]),
            ("type", .str "RollingUpdate")] := by
  intro existing desired strategy
  obtain ⟨htemplates, hstrategies, -, -⟩ := merges_exactly
  have he : existing.IsDated := by
    intro m hm
    obtain rfl := Option.some.inj hm
    exact ⟨fun t ht => Option.some.inj ht ▸ (by decide), fun t ht => (by cases ht)⟩
  have hd : desired.IsDated := by
    intro m hm
    obtain rfl := Option.some.inj hm
    exact ⟨fun t ht => (by cases ht), fun t ht => (by cases ht)⟩
  refine ⟨⟨he, hd⟩, htemplates _ _ he hd, ?_⟩
  obtain ⟨merged, hm, hwritten⟩ := hstrategies none (some strategy)
  exact ⟨merged, hm, hwritten.trans rfl⟩

end Reconciliation
