import Mathlib.Data.List.Forall2
import Reconciliation.Proofs.Mutation.Settled

/-!
# Fields that cannot change

The engine answers an immutable field that differs by deleting the object. So the error has to be
raised just where a difference exists: one that is missed is refused by the API server in every
pass, one that is made up destroys a workload.

* `VolumeClaim.Agrees`, `VolumeClaim.completed` -- what is compared of a claim template;
* `Violates` -- the differences that count, said of the two objects, with the values that are
  reported;
* **`Policy.merge_eq_violation_iff`** -- a policy reports a violation just if there is one;
* **`MergesTo.exists_of_not_violates`** -- and merges objects of its kind in every other case;
* **`Registry.mutate_violates_iff`** -- so a mutation of an object of the same kind reports the
  violation that there is, and succeeds if there is none;
* `StatefulSet.IsDrifted`, **`Registry.mutate_drifted`** -- what the API server and others may
  change of a stateful set is no violation, and its claims keep what the server has filled in.
-/

namespace Reconciliation

/-! ## 1. What is compared -/

namespace StatefulSet

/-- The selector, which requires nothing if there is no specification. -/
def selector (s : StatefulSet) : SelectorSpec := (s.spec.getD .empty).selector

/-- The list of claim templates, if there is one. -/
def claims? (s : StatefulSet) : Option (List VolumeClaim) :=
  (s.spec.getD .empty).volumeClaimTemplates

/-- The claim templates; an absent list has none. -/
def claims (s : StatefulSet) : List VolumeClaim := s.claims?.getD []

end StatefulSet

namespace VolumeClaim

/-- The volume mode that the first claim of a name has. -/
def modeOf? (claims : List VolumeClaim) (name : Option String) : Option String :=
  ((claims.find? fun c => c.metadata.name == name).bind (·.spec)).bind (·.volumeMode)

/-- The claim with the volume mode of the first live claim of its name, where it has a specification
without one. -/
def completed (live : List VolumeClaim) (claim : VolumeClaim) : VolumeClaim :=
  { claim with
    spec := claim.spec.map fun spec =>
      { spec with volumeMode := spec.volumeMode <|> modeOf? live claim.metadata.name } }

/-- Two claims agree in what cannot change: name, annotations and specification. -/
structure Agrees (live want : VolumeClaim) : Prop where
  name : live.metadata.name = want.metadata.name
  annotations : live.metadata.annotations = want.metadata.annotations
  spec : live.spec = want.spec

theorem agrees_iff {live want : VolumeClaim} : live.Agrees want ↔ live.shape = want.shape := by
  simp only [shape, Prod.mk.injEq]
  exact ⟨fun h => ⟨h.name, h.annotations, h.spec⟩, fun h => ⟨h.1, h.2.1, h.2.2⟩⟩

theorem withDefaults_eq_completed (live : List VolumeClaim) (claim : VolumeClaim) :
    claim.withDefaults live = claim.completed live := by
  obtain ⟨metadata, spec?, status⟩ := claim
  unfold withDefaults completed modeOf?
  cases (live.find? fun c => c.metadata.name == metadata.name).bind (·.spec) with
  | none => cases spec? <;> simp
  | some found =>
    cases spec? with
    | none => rfl
    | some spec =>
      obtain ⟨modes, storage, mode, resources⟩ := spec
      cases mode <;> rfl

end VolumeClaim

theorem claimShapes_eq_iff {live want : Option (List VolumeClaim)} :
    claimShapes live = claimShapes want ↔
      List.Forall₂ VolumeClaim.Agrees (live.getD []) (want.getD []) := by
  have hagrees : VolumeClaim.Agrees = fun live want => live.shape = want.shape :=
    funext₂ fun _ _ => propext VolumeClaim.agrees_iff
  unfold claimShapes
  rw [← List.forall₂_eq_eq_eq, List.forall₂_map_left_iff, List.forall₂_map_right_iff, hagrees]

theorem VolumeClaim.completed_nil (claim : VolumeClaim) : claim.completed [] = claim := by
  obtain ⟨metadata, spec?, status⟩ := claim
  cases spec? <;> simp [completed, modeOf?]

theorem defaultClaims_eq (live desired : Option (List VolumeClaim)) :
    defaultClaims live desired = desired.map (·.map (·.completed (live.getD []))) := by
  cases live with
  | some live =>
    have hcompleted : VolumeClaim.withDefaults live = VolumeClaim.completed live :=
      funext (VolumeClaim.withDefaults_eq_completed live)
    simp only [defaultClaims, hcompleted, Option.getD_some]
  | none => simp [defaultClaims, VolumeClaim.completed_nil]

/-! ## 2. Violations -/

/-- The differences that count, and what is reported of them. -/
inductive Violates : ManagedObject → ManagedObject → ImmutableField → Prop
  | selector {e d : StatefulSet} (hx : e.metadata.exists? = true) (h : e.selector ≠ d.selector) :
      Violates (.statefulSet e) (.statefulSet d)
        ⟨"spec.selector", SelectorSpec.members.codec.encode e.selector,
          SelectorSpec.members.codec.encode d.selector⟩
  | claims {e d : StatefulSet} (hx : e.metadata.exists? = true) (hs : e.selector = d.selector)
      (h : ¬List.Forall₂ VolumeClaim.Agrees e.claims (d.claims.map (·.completed e.claims))) :
      Violates (.statefulSet e) (.statefulSet d)
        ⟨"spec.volumeClaimTemplates", claimsJson e.claims?,
          claimsJson (d.claims?.map (·.map (·.completed e.claims)))⟩
  | roleBinding {e d : RoleBinding} (hx : e.metadata.exists? = true) (h : e.roleRef ≠ d.roleRef) :
      Violates (.roleBinding e) (.roleBinding d)
        ⟨"roleRef", RoleRef.members.codec.encode e.roleRef, RoleRef.members.codec.encode d.roleRef⟩
  | clusterRoleBinding {e d : ClusterRoleBinding} (hx : e.metadata.exists? = true)
      (h : e.roleRef ≠ d.roleRef) :
      Violates (.clusterRoleBinding e) (.clusterRoleBinding d)
        ⟨"roleRef", RoleRef.members.codec.encode e.roleRef, RoleRef.members.codec.encode d.roleRef⟩

/-- Of the metadata only the creation time counts. -/
theorem Violates.withMetadata {existing desired : ManagedObject} {v : ImmutableField}
    (h : Violates existing desired v) {m : ObjectMeta}
    (hm : m.exists? = existing.metadata.exists?) :
    Violates (existing.withMetadata m) desired v := by
  cases h with
  | selector hx h => exact .selector (hm.trans hx) h
  | claims hx hs h => exact .claims (hm.trans hx) hs h
  | roleBinding hx h => exact .roleBinding (hm.trans hx) h
  | clusterRoleBinding hx h => exact .clusterRoleBinding (hm.trans hx) h

theorem Violates.exists? {existing desired : ManagedObject} {v : ImmutableField}
    (h : Violates existing desired v) : existing.metadata.exists? = true := by
  cases h <;> assumption

theorem Violates.withMetadata_iff {existing desired : ManagedObject} {v : ImmutableField}
    {m : ObjectMeta} (hm : m.exists? = existing.metadata.exists?) :
    Violates (existing.withMetadata m) desired v ↔ Violates existing desired v := by
  refine ⟨fun h => ?_, fun h => h.withMetadata hm⟩
  have hback := h.withMetadata (m := existing.metadata)
    (by rw [ManagedObject.metadata_withMetadata, hm])
  rwa [ManagedObject.withMetadata_withMetadata, ManagedObject.withMetadata_metadata] at hback

/-! ## 3. What the policies report -/

theorem except_map_eq_error {ε α β : Type} {f : α → β} {x : Except ε α} {e : ε}
    (h : x.map f = .error e) : x = .error e := by
  cases x with
  | error e' => exact congrArg _ (Except.error.inj h)
  | ok a => cases h

/-- A deployment has no field that cannot change. -/
theorem Deployment.merge_ne_violation (e d : Deployment) (v : ImmutableField) :
    e.merge d ≠ .error (.immutableField v) := by
  intro h
  unfold merge at h
  simp only at h
  split at h <;> cases h

namespace StatefulSet

variable {e d : StatefulSet} {v : ImmutableField}

theorem selector_wanted : (e.wanted d).selector = d.selector := by
  unfold wanted
  split <;> rfl

theorem claims_wanted (hx : e.metadata.exists? = true) :
    (e.wanted d).volumeClaimTemplates = d.claims?.map (·.map (·.completed e.claims)) := by
  rw [wanted_of_exists hx]
  exact defaultClaims_eq _ _

theorem claimShapes_wanted_iff (hx : e.metadata.exists? = true) :
    claimShapes (e.spec.getD .empty).volumeClaimTemplates =
        claimShapes (e.wanted d).volumeClaimTemplates ↔
      List.Forall₂ VolumeClaim.Agrees e.claims (d.claims.map (·.completed e.claims)) := by
  have hgetD : (d.claims?.map (·.map (·.completed e.claims))).getD [] =
      d.claims.map (·.completed e.claims) := by
    unfold claims
    cases d.claims? <;> rfl
  rw [claimShapes_eq_iff, claims_wanted hx, hgetD]
  exact Iff.rfl

theorem violation?_wanted_eq_some_iff (hx : e.metadata.exists? = true) :
    violation? (e.spec.getD .empty) (e.wanted d) = some v ↔
      Violates (.statefulSet e) (.statefulSet d) v := by
  have hselector : (e.spec.getD .empty).selector = (e.wanted d).selector ↔
      e.selector = d.selector := by
    rw [selector_wanted]
    exact Iff.rfl
  have hshapes := claimShapes_wanted_iff (d := d) hx
  unfold violation?
  constructor
  · intro h
    split at h
    · rename_i hs
      cases h
      rw [selector_wanted]
      exact .selector hx (mt hselector.2 hs)
    · rename_i hs
      split at h
      · rename_i hc
        cases h
        rw [claims_wanted hx]
        exact .claims hx (hselector.1 (not_not.1 hs)) (mt hshapes.2 hc)
      · cases h
  · intro h
    cases h with
    | selector _ hs =>
      rw [if_pos (mt hselector.1 hs), selector_wanted]
      rfl
    | claims _ hs hc =>
      rw [if_neg (not_not.2 (hselector.2 hs)), if_pos (mt hshapes.1 hc), claims_wanted hx]
      rfl

theorem merge_eq_violation_iff :
    e.merge d = .error (.immutableField v) ↔ Violates (.statefulSet e) (.statefulSet d) v := by
  constructor
  · intro h
    unfold merge at h
    simp only at h
    split at h
    · rename_i violation hv
      split at hv
      · rename_i hx
        cases h
        exact (violation?_wanted_eq_some_iff hx).1 hv
      · cases hv
    · split at h <;> cases h
  · intro h
    have hx : e.metadata.exists? = true := h.exists?
    have hv := (violation?_wanted_eq_some_iff hx).2 h
    unfold merge
    simp only [hx, if_true, hv]

end StatefulSet

theorem RoleBinding.merge_eq_violation_iff {e d : RoleBinding} {v : ImmutableField} :
    e.merge d = .error (.immutableField v) ↔ Violates (.roleBinding e) (.roleBinding d) v := by
  unfold merge
  constructor
  · intro h
    split at h
    · rename_i hr
      cases h
      exact .roleBinding hr.1 hr.2
    · cases h
  · intro h
    cases h with
    | roleBinding hx hr => exact if_pos ⟨hx, hr⟩

theorem ClusterRoleBinding.merge_eq_violation_iff {e d : ClusterRoleBinding}
    {v : ImmutableField} : e.merge d = .error (.immutableField v) ↔
      Violates (.clusterRoleBinding e) (.clusterRoleBinding d) v := by
  unfold merge
  constructor
  · intro h
    split at h
    · rename_i hr
      cases h
      exact .clusterRoleBinding hr.1 hr.2
    · cases h
  · intro h
    cases h with
    | clusterRoleBinding hx hr => exact if_pos ⟨hx, hr⟩

/-- **A policy reports a violation just if there is one.** -/
theorem Policy.merge_eq_violation_iff {p : Policy} {existing desired : ManagedObject}
    {v : ImmutableField} : p.merge existing desired = .error (.immutableField v) ↔
      p = .ofKind desired.kind ∧ Violates existing desired v := by
  constructor
  · intro h
    unfold merge at h
    split at h
    case h_5 e d => exact absurd (except_map_eq_error h) (e.merge_ne_violation d v)
    case h_6 => exact ⟨rfl, StatefulSet.merge_eq_violation_iff.1 (except_map_eq_error h)⟩
    case h_8 => exact ⟨rfl, RoleBinding.merge_eq_violation_iff.1 (except_map_eq_error h)⟩
    case h_10 => exact ⟨rfl, ClusterRoleBinding.merge_eq_violation_iff.1 (except_map_eq_error h)⟩
    case h_12 =>
      split at h
      · cases h
      · split at h <;> cases h
    all_goals cases h
  · intro h
    obtain ⟨rfl, hv⟩ := h
    cases hv with
    | selector hx hs =>
      exact congrArg (Except.map _) (StatefulSet.merge_eq_violation_iff.2 (.selector hx hs))
    | claims hx hs hc =>
      exact congrArg (Except.map _) (StatefulSet.merge_eq_violation_iff.2 (.claims hx hs hc))
    | roleBinding hx hr =>
      exact congrArg (Except.map _) (RoleBinding.merge_eq_violation_iff.2 (.roleBinding hx hr))
    | clusterRoleBinding hx hr =>
      exact congrArg (Except.map _)
        (ClusterRoleBinding.merge_eq_violation_iff.2 (.clusterRoleBinding hx hr))

/-! ## 4. Merges that succeed -/

/-- The instants of the pod template are of the calendar, as every instant is that can be read from
its text. No other instants go through their text when objects are merged. -/
def ManagedObject.IsDated : ManagedObject → Prop
  | deployment o => ∀ spec ∈ o.spec, spec.template.IsDated
  | statefulSet o => ∀ spec ∈ o.spec, spec.template.IsDated
  | _ => True

theorem PodTemplate.isDated_empty : PodTemplate.empty.IsDated := fun _ hm => by cases hm

/-- What holds of every present value and of the default holds of the value with the default. -/
theorem getD_of_forall {α : Type} {p : α → Prop} {o : Option α} {a : α}
    (h : ∀ x ∈ o, p x) (ha : p a) : p (o.getD a) := by
  cases o with
  | none => exact ha
  | some x => exact h x rfl

theorem Deployment.exists_merge {e d : Deployment} (he : (ManagedObject.deployment e).IsDated)
    (hd : (ManagedObject.deployment d).IsDated) : ∃ merged, e.merge d = .ok merged := by
  have hdated : ∀ {o : Deployment}, (ManagedObject.deployment o).IsDated →
      (o.spec.getD .empty).template.IsDated := fun ho =>
    getD_of_forall (p := fun spec : DeploymentSpec => spec.template.IsDated) ho
      PodTemplate.isDated_empty
  obtain ⟨template, ht⟩ := PodTemplate.exists_merge? (hdated he) (hdated hd)
  obtain ⟨strategy, hs⟩ := Codec.Lawful.exists_merge?_option DeploymentStrategy.lossless
    (e.spec.getD .empty).strategy (d.spec.getD .empty).strategy
  exact ⟨_, merge_eq_ok_iff.2 ⟨template, strategy, ht, hs, rfl⟩⟩

theorem StatefulSet.exists_merge {e d : StatefulSet} (he : (ManagedObject.statefulSet e).IsDated)
    (hd : (ManagedObject.statefulSet d).IsDated)
    (h : ∀ v, ¬Violates (.statefulSet e) (.statefulSet d) v) :
    ∃ merged, e.merge d = .ok merged := by
  have hdated : ∀ {o : StatefulSet}, (ManagedObject.statefulSet o).IsDated →
      (o.spec.getD .empty).template.IsDated := fun ho =>
    getD_of_forall (p := fun spec : StatefulSetSpec => spec.template.IsDated) ho
      PodTemplate.isDated_empty
  have hwanted : (e.wanted d).template = (d.spec.getD .empty).template := by
    unfold wanted
    split <;> rfl
  obtain ⟨template, ht⟩ := PodTemplate.exists_merge? (hdated he) (hdated hd)
  obtain ⟨strategy, hs⟩ := Codec.Lawful.exists_merge?_option StatefulSetStrategy.lossless
    (e.spec.getD .empty).updateStrategy (e.wanted d).updateStrategy
  refine ⟨_, merge_eq_ok_iff.2 ⟨fun hx => ?_, template, strategy, hwanted ▸ ht, hs, rfl⟩⟩
  cases hv : violation? (e.spec.getD .empty) (e.wanted d) with
  | none => rfl
  | some v => exact absurd ((violation?_wanted_eq_some_iff hx).1 hv) (h v)

theorem RoleBinding.exists_merge {e d : RoleBinding}
    (h : ∀ v, ¬Violates (.roleBinding e) (.roleBinding d) v) :
    ∃ merged, e.merge d = .ok merged := by
  refine ⟨_, if_neg fun hr => ?_⟩
  exact h _ (.roleBinding hr.1 hr.2)

theorem ClusterRoleBinding.exists_merge {e d : ClusterRoleBinding}
    (h : ∀ v, ¬Violates (.clusterRoleBinding e) (.clusterRoleBinding d) v) :
    ∃ merged, e.merge d = .ok merged := by
  refine ⟨_, if_neg fun hr => ?_⟩
  exact h _ (.clusterRoleBinding hr.1 hr.2)

/-- **Objects of the same kind merge, unless there is a violation.** -/
theorem MergesTo.exists_of_not_violates {existing desired : ManagedObject}
    (hk : existing.kind = desired.kind) (he : existing.IsDated) (hd : desired.IsDated)
    (h : ∀ v, ¬Violates existing desired v) : ∃ merged, MergesTo existing desired merged := by
  cases desired <;> cases existing <;> cases hk
  case deployment d e =>
    obtain ⟨m, hm⟩ := Deployment.exists_merge he hd
    exact ⟨_, .deployment hm⟩
  case statefulSet d e =>
    obtain ⟨m, hm⟩ := StatefulSet.exists_merge he hd h
    exact ⟨_, .statefulSet hm⟩
  case roleBinding d e =>
    obtain ⟨m, hm⟩ := RoleBinding.exists_merge h
    exact ⟨_, .roleBinding hm⟩
  case clusterRoleBinding d e =>
    obtain ⟨m, hm⟩ := ClusterRoleBinding.exists_merge h
    exact ⟨_, .clusterRoleBinding hm⟩
  all_goals exact ⟨_, by constructor⟩

/-! ## 5. Mutation -/

theorem ManagedObject.IsDated.withMetadata {o : ManagedObject} (h : o.IsDated) (m : ObjectMeta) :
    (o.withMetadata m).IsDated := by
  cases o <;> exact h

/-- **A mutation reports an immutable field just if it differs**: for every existing and desired
object of the same kind, a violation is reported if it is the one that there is, and the mutation
succeeds if there is none. -/
theorem Registry.mutate_violates_iff {existing desired : ManagedObject}
    (hk : existing.kind = desired.kind) (he : existing.IsDated) (hd : desired.IsDated) :
    (∀ v, standard.mutate existing desired = .error (.immutableField v) ↔
      Violates existing desired v) ∧
    ((∀ v, ¬Violates existing desired v) →
      ∃ merged, standard.mutate existing desired = .ok merged) := by
  have hviolates : ∀ v, Violates
      (existing.withMetadata (existing.metadata.merge desired.metadata)) desired v ↔
        Violates existing desired v := fun v => Violates.withMetadata_iff rfl
  constructor
  · intro v
    rw [← hviolates v]
    unfold mutate
    rw [if_neg (not_not.2 hk), policy_standard]
    show (Policy.ofKind desired.kind).merge _ desired = _ ↔ _
    rw [Policy.merge_eq_violation_iff]
    exact and_iff_right rfl
  · intro h
    obtain ⟨merged, hm⟩ := MergesTo.exists_of_not_violates
      ((ManagedObject.kind_withMetadata _ _).trans hk) (he.withMetadata _) hd
      fun v hv => h v ((hviolates v).1 hv)
    exact ⟨merged, mutate_eq_ok_iff.2 ⟨hk, policy_standard _, hm⟩⟩

/-- A stateful set of so many replicas with claim templates of these names and volume modes. -/
def StatefulSet.storing (created : Option Instant) (replicas : Int32)
    (claims : List (String × Option String)) : StatefulSet where
  metadata := { ObjectMeta.empty with creationTimestamp := created }
  spec := some
    { StatefulSetSpec.empty with
      replicas := some replicas
      volumeClaimTemplates := some (claims.map fun claim =>
        ⟨{ ObjectMeta.empty with name := some claim.1 }, some ⟨none, none, claim.2, none⟩, none⟩) }
  status := none

theorem StatefulSet.isDated_storing (created : Option Instant) (replicas : Int32)
    (claims : List (String × Option String)) :
    (ManagedObject.statefulSet (.storing created replicas claims)).IsDated := by
  intro spec hs
  cases hs
  exact PodTemplate.isDated_empty

/-- The order of claim templates counts, and a volume mode that is not asked for does not. -/
theorem Registry.mutate_violates_iff_storing :
    (∃ v, standard.mutate
        (.statefulSet (.storing (some ⟨0, 0⟩) 1 [("data", some "Block"), ("logs", none)]))
        (.statefulSet (.storing none 1 [("logs", none), ("data", none)])) =
          .error (.immutableField v) ∧ v.field = "spec.volumeClaimTemplates") ∧
    ∃ merged, standard.mutate
      (.statefulSet (.storing (some ⟨0, 0⟩) 1 [("data", some "Block"), ("logs", none)]))
      (.statefulSet (.storing none 1 [("data", none), ("logs", none)])) = .ok merged := by
  have hdated := StatefulSet.isDated_storing
  have hkind : ∀ live want : StatefulSet,
      (ManagedObject.statefulSet live).kind = (ManagedObject.statefulSet want).kind :=
    fun _ _ => rfl
  constructor
  · obtain ⟨v, hv, hfield⟩ : ∃ v, Violates
        (.statefulSet (.storing (some ⟨0, 0⟩) 1 [("data", some "Block"), ("logs", none)]))
        (.statefulSet (.storing none 1 [("logs", none), ("data", none)])) v ∧
          v.field = "spec.volumeClaimTemplates" := by
      refine ⟨_, .claims rfl rfl fun h => ?_, rfl⟩
      cases h with
      | cons h _ => exact absurd (Option.some.inj h.name) (by decide)
    exact ⟨v, ((mutate_violates_iff (hkind _ _) (hdated _ _ _) (hdated _ _ _)).1 v).2 hv, hfield⟩
  · refine (mutate_violates_iff (hkind _ _) (hdated _ _ _) (hdated _ _ _)).2 fun v hv => ?_
    cases hv with
    | selector _ hs => exact hs rfl
    | claims _ _ hc => exact hc (.cons ⟨rfl, rfl, rfl⟩ (.cons ⟨rfl, rfl, rfl⟩ .nil))

/-! ## 6. Objects that have drifted -/

/-- The live claim is the desired one, except that it may have been given a volume mode where the
desired one has none. Only names, annotations and specifications count. -/
structure VolumeClaim.IsFilled (live want : VolumeClaim) : Prop where
  name : live.metadata.name = want.metadata.name
  annotations : live.metadata.annotations = want.metadata.annotations
  spec : live.spec = want.spec ∨ ∃ spec mode, want.spec = some spec ∧ spec.volumeMode = none ∧
    live.spec = some { spec with volumeMode := some mode }

/-- The live object was created from the desired one. Since then the API server may have filled in
volume modes, and anyone may have changed all that is not compared. -/
structure StatefulSet.IsDrifted (live desired : StatefulSet) : Prop where
  created : live.metadata.exists? = true
  selector : live.selector = desired.selector
  claims : List.Forall₂ VolumeClaim.IsFilled live.claims desired.claims

/-- A claim that was filled in is what the desired claim is completed to, if its name finds it. -/
theorem VolumeClaim.IsFilled.agrees {claims : List VolumeClaim} {live want : VolumeClaim}
    (h : live.IsFilled want)
    (hfind : (claims.find? fun c => c.metadata.name == live.metadata.name) = some live) :
    live.Agrees (want.completed claims) := by
  have hmode : modeOf? claims want.metadata.name = live.spec.bind (·.volumeMode) := by
    unfold modeOf?
    rw [← h.name, hfind]
    rfl
  refine ⟨h.name, h.annotations, ?_⟩
  unfold completed
  rw [hmode]
  rcases h.spec with hs | ⟨spec, mode, hw, hnone, hl⟩
  · rw [hs]
    cases want.spec with
    | none => rfl
    | some spec => simp
  · rw [hl, hw, Option.map_some, hnone]
    rfl

theorem StatefulSet.IsDrifted.agrees {live desired : StatefulSet} (h : live.IsDrifted desired)
    (hn : (desired.claims.map (·.metadata.name)).Nodup) :
    List.Forall₂ VolumeClaim.Agrees live.claims (desired.claims.map (·.completed live.claims)) := by
  have hnames : live.claims.map (·.metadata.name) = desired.claims.map (·.metadata.name) := by
    rw [← List.forall₂_eq_eq_eq, List.forall₂_map_left_iff, List.forall₂_map_right_iff]
    exact h.claims.imp fun _ _ hf => hf.name
  -- volume modes are looked up by name and claims compared by position: as the names differ, the
  -- claim that is found is the one at the same position
  have hfind : ∀ l ∈ live.claims,
      (live.claims.find? fun c => c.metadata.name == l.metadata.name) = some l := by
    intro l hl
    rw [← hnames] at hn
    exact find?_of_nodup_map hn hl
  rw [List.forall₂_map_right_iff]
  exact ((List.forall₂_and_left _ _).2 ⟨hfind, h.claims⟩).imp fun _ _ hf => hf.2.agrees hf.1

theorem StatefulSet.IsDrifted.not_violates {live desired : StatefulSet}
    (h : live.IsDrifted desired) (hn : (desired.claims.map (·.metadata.name)).Nodup)
    (v : ImmutableField) : ¬Violates (.statefulSet live) (.statefulSet desired) v := by
  intro hv
  cases hv with
  | selector _ hs => exact hs h.selector
  | claims _ _ hc => exact hc (h.agrees hn)

/-- What a merge leaves of a live claim: its specification and its status. -/
structure VolumeClaim.Keeps (live merged : VolumeClaim) : Prop where
  spec : merged.spec = live.spec
  status : merged.status = live.status

theorem mergeClaims_keeps {live want : List VolumeClaim}
    (h : List.Forall₂ VolumeClaim.Agrees live want) :
    List.Forall₂ VolumeClaim.Keeps live (mergeClaims live want) := by
  induction h with
  | nil => exact .nil
  | cons ha _ ih => exact .cons ⟨ha.spec.symm, rfl⟩ ih

theorem claimsAfter_keeps {live want : Option (List VolumeClaim)}
    (h : List.Forall₂ VolumeClaim.Agrees (live.getD []) (want.getD [])) :
    List.Forall₂ VolumeClaim.Keeps (live.getD []) ((claimsAfter true live want).getD []) := by
  cases live with
  | none =>
    have hnil : want.getD [] = [] := List.forall₂_nil_left_iff.1 h
    show List.Forall₂ _ [] (want.getD [])
    rw [hnil]
    exact .nil
  | some live =>
    cases want with
    | none =>
      have hnil : live = [] := List.forall₂_nil_right_iff.1 h
      show List.Forall₂ _ live []
      rw [hnil]
      exact .nil
    | some want => exact mergeClaims_keeps h

/-- A merge that succeeds leaves the claims of an object that exists as they are, but for their
metadata. -/
theorem StatefulSet.claims_of_merge {e d m : StatefulSet} (hx : e.metadata.exists? = true)
    (h : e.merge d = .ok m) : List.Forall₂ VolumeClaim.Keeps e.claims m.claims := by
  obtain ⟨hv, template, updateStrategy, -, -, rfl⟩ := merge_eq_ok_iff.1 h
  have hshapes := (violation?_eq_none_iff.1 (hv hx)).2
  have hkeeps := claimsAfter_keeps (claimShapes_eq_iff.1 hshapes)
  rw [← hx] at hkeeps
  exact hkeeps

/-- **What the API server fills in is no reason to delete anything**: if the names of the desired
claim templates differ, mutating a stateful set that has drifted succeeds, and every claim template
keeps its specification, volume mode included, and its status. -/
theorem Registry.mutate_drifted {live desired : StatefulSet}
    (hn : (desired.claims.map (·.metadata.name)).Nodup) (h : live.IsDrifted desired)
    (hl : (ManagedObject.statefulSet live).IsDated)
    (hd : (ManagedObject.statefulSet desired).IsDated) :
    ∃ merged : StatefulSet,
      standard.mutate (.statefulSet live) (.statefulSet desired) = .ok (.statefulSet merged) ∧
      List.Forall₂ VolumeClaim.Keeps live.claims merged.claims := by
  -- the policy is given the live object with merged metadata, which still is that of a created one
  let labelled : StatefulSet := { live with metadata := live.metadata.merge desired.metadata }
  have hdrifted : labelled.IsDrifted desired := ⟨h.created, h.selector, h.claims⟩
  obtain ⟨merged, hm⟩ := StatefulSet.exists_merge (e := labelled) hl hd (hdrifted.not_violates hn)
  refine ⟨merged, mutate_eq_ok_iff.2 ⟨rfl, policy_standard _, .statefulSet hm⟩, ?_⟩
  exact StatefulSet.claims_of_merge (e := labelled) h.created hm

/-- One claim was given a volume mode, another was not, and the replicas were changed. -/
theorem Registry.mutate_drifted_storing :
    (StatefulSet.storing (some ⟨0, 0⟩) 3 [("data", some "Block"), ("logs", none)]).IsDrifted
      (.storing none 1 [("data", none), ("logs", none)]) ∧
    ∃ merged : StatefulSet,
      standard.mutate
        (.statefulSet (.storing (some ⟨0, 0⟩) 3 [("data", some "Block"), ("logs", none)]))
        (.statefulSet (.storing none 1 [("data", none), ("logs", none)])) =
          .ok (.statefulSet merged) ∧
      List.Forall₂ VolumeClaim.Keeps
        (StatefulSet.storing (some ⟨0, 0⟩) 3 [("data", some "Block"), ("logs", none)]).claims
        merged.claims := by
  have hdrifted : (StatefulSet.storing (some ⟨0, 0⟩) 3
      [("data", some "Block"), ("logs", none)]).IsDrifted
        (.storing none 1 [("data", none), ("logs", none)]) :=
    ⟨rfl, rfl, .cons ⟨rfl, rfl, .inr ⟨_, _, rfl, rfl, rfl⟩⟩ (.cons ⟨rfl, rfl, .inl rfl⟩ .nil)⟩
  exact ⟨hdrifted, mutate_drifted (by decide) hdrifted (StatefulSet.isDated_storing _ _ _)
    (StatefulSet.isDated_storing _ _ _)⟩

end Reconciliation
