import Reconciliation.Mutation.Registry
import Reconciliation.Proofs.Wire.Template

/-!
# Mutating twice

The engine lays a desired object over the live one in every pass and writes the result if it
differs. So a second mutation must change nothing: otherwise every pass would write.

* `ObjectMeta.merge_again` -- the metadata alone;
* `Deployment.merge_again`, `StatefulSet.merge_again` -- the workloads, whose templates go through
  their wire form; the claim templates of a stateful set are compared before they are laid over;
* `MergesTo` -- what a policy does when it does not fail, one case per kind;
* **`Registry.mutate_idempotent`** -- whatever a mutation returns, mutating it again with the same
  desired object succeeds and returns an equal object.
-/

namespace Reconciliation

/-! ## 1. Metadata -/

theorem Dict.overlay_overlay (d top : Dict String String) :
    (d.overlay top).overlay top = d.overlay top := by
  refine Dict.ext_get? fun k => ?_
  rw [get?_overlay, get?_overlay, ← Option.or_assoc, Option.or_self]

theorem mergeLabels_again (existing desired : Option (Dict String String)) :
    mergeLabels (mergeLabels existing desired) desired = mergeLabels existing desired := by
  cases desired with
  | none => rfl
  | some d =>
    by_cases hd : d.isEmpty = true
    · simp [mergeLabels, hd]
    · simp [mergeLabels, hd, Dict.overlay_overlay]

theorem ObjectMeta.merge_again (existing desired : ObjectMeta) :
    (existing.merge desired).merge desired = existing.merge desired := by
  unfold merge
  simp only [mergeLabels_again]
  split <;> rfl

/-! ## 2. Deployments -/

theorem Deployment.merge_eq_ok_iff {existing desired merged : Deployment} :
    existing.merge desired = .ok merged ↔
      ∃ template strategy,
        PodTemplate.members.codec.merge? (existing.spec.getD .empty).template
          (desired.spec.getD .empty).template = some template ∧
        (Codec.option DeploymentStrategy.members.codec).merge?
          (existing.spec.getD .empty).strategy (desired.spec.getD .empty).strategy =
            some strategy ∧
        { existing with
          spec := some
            { existing.spec.getD .empty with
              selector := if existing.metadata.exists? then (existing.spec.getD .empty).selector
                else (desired.spec.getD .empty).selector
              replicas := (desired.spec.getD .empty).replicas
              template
              strategy } } = merged := by
  unfold merge
  simp only
  split
  · rename_i template strategy ht hs
    rw [ht, hs]
    simp
  · rename_i hnone
    constructor
    · intro h
      cases h
    · intro h
      obtain ⟨template, strategy, ht, hs, -⟩ := h
      exact absurd hs (hnone template strategy ht)

theorem Deployment.merge_again {existing desired merged : Deployment}
    (h : existing.merge desired = .ok merged) : merged.merge desired = .ok merged := by
  obtain ⟨template, strategy, ht, hs, rfl⟩ := merge_eq_ok_iff.1 h
  obtain ⟨_, templateLaw, -⟩ := PodTemplate.lawful
  obtain ⟨_, strategyLaw⟩ := DeploymentStrategy.lossless.option
  refine merge_eq_ok_iff.2
    ⟨template, strategy, templateLaw.merge?_again ht, strategyLaw.merge?_again hs, ?_⟩
  simp only [Option.getD_some]
  split <;> rfl

/-! ## 3. Claim templates -/

/-- What the defaults of a claim are taken from. -/
def VolumeClaim.source (claim : VolumeClaim) : Option String × Option VolumeClaimSpec :=
  (claim.metadata.name, claim.spec)

theorem VolumeClaim.withDefaults_congr {live live' : List VolumeClaim}
    (h : live.map (·.source) = live'.map (·.source)) (claim : VolumeClaim) :
    claim.withDefaults live = claim.withDefaults live' := by
  have hfind : ∀ claims : List VolumeClaim,
      (claims.find? fun c => c.metadata.name == claim.metadata.name).bind (·.spec) =
        ((claims.map (·.source)).find? fun s => s.1 == claim.metadata.name).bind (·.2) := by
    intro claims
    rw [List.find?_map, Option.bind_map]
    rfl
  unfold withDefaults
  rw [hfind live, hfind live', h]

theorem map_source_of_map_shape {claims claims' : List VolumeClaim}
    (h : claims.map (·.shape) = claims'.map (·.shape)) :
    claims.map (·.source) = claims'.map (·.source) := by
  have hsource : ∀ cs : List VolumeClaim,
      cs.map (·.source) = (cs.map (·.shape)).map fun s => (s.1, s.2.2) := by
    intro cs
    rw [List.map_map]
    rfl
  rw [hsource, hsource, h]

theorem mergeClaims_again (live want : List VolumeClaim) :
    mergeClaims (mergeClaims live want) want = mergeClaims live want := by
  induction live generalizing want with
  | nil => cases want <;> rfl
  | cons l live ih =>
    cases want with
    | nil => rfl
    | cons w want => rw [mergeClaims, mergeClaims, ih]

theorem map_shape_mergeClaims {live want : List VolumeClaim} (h : live.length = want.length) :
    (mergeClaims live want).map (·.shape) = want.map (·.shape) := by
  induction live generalizing want with
  | nil =>
    cases want with
    | nil => rfl
    | cons w want => cases h
  | cons l live ih =>
    cases want with
    | nil => cases h
    | cons w want =>
      rw [mergeClaims, List.map_cons, List.map_cons, ih (Nat.succ.inj h)]
      rfl

/-- The claim templates of a merged stateful set. -/
def claimsAfter (exists? : Bool) (live want : Option (List VolumeClaim)) :
    Option (List VolumeClaim) :=
  match live, want with
  | some live, some claims => some (if exists? then mergeClaims live claims else claims)
  | _, claims => claims

theorem claimsAfter_false (live want : Option (List VolumeClaim)) :
    claimsAfter false live want = want := by
  cases live <;> cases want <;> rfl

/-- Claim templates that passed the comparison take the same defaults when they are merged, still
pass it, and are merged into themselves. -/
theorem claimsAfter_again {live desired : Option (List VolumeClaim)}
    (h : claimShapes live = claimShapes (defaultClaims live desired)) :
    let want := defaultClaims live desired
    let merged := claimsAfter true live want
    defaultClaims merged desired = want ∧ claimShapes merged = claimShapes want ∧
      claimsAfter true merged want = merged := by
  cases live with
  | none =>
    cases desired with
    | none => exact ⟨rfl, rfl, rfl⟩
    | some claims =>
      have hnil : claims = [] := List.map_eq_nil_iff.1 h.symm
      subst hnil
      exact ⟨rfl, rfl, rfl⟩
  | some live =>
    cases desired with
    | none => exact ⟨rfl, rfl, rfl⟩
    | some claims =>
      have hshape : live.map (·.shape) = (claims.map (·.withDefaults live)).map (·.shape) := h
      have hlength : live.length = (claims.map (·.withDefaults live)).length := by
        simpa using congrArg List.length hshape
      have hmerged := map_shape_mergeClaims hlength
      have hsource := map_source_of_map_shape (hmerged.trans hshape.symm)
      refine ⟨?_, hmerged, congrArg some (mergeClaims_again _ _)⟩
      exact congrArg some (List.map_congr_left fun claim _ =>
        claim.withDefaults_congr hsource)

/-! ## 4. Stateful sets -/

theorem StatefulSet.violation?_eq_none_iff {current want : StatefulSetSpec} :
    violation? current want = none ↔ current.selector = want.selector ∧
      claimShapes current.volumeClaimTemplates = claimShapes want.volumeClaimTemplates := by
  unfold violation?
  by_cases hs : current.selector = want.selector
  · by_cases hc : claimShapes current.volumeClaimTemplates = claimShapes want.volumeClaimTemplates
    · simp [hs, hc]
    · simp [hs, hc]
  · simp [hs]

theorem StatefulSet.merge_eq_ok_iff {existing desired merged : StatefulSet} :
    existing.merge desired = .ok merged ↔
      (existing.metadata.exists? = true →
        violation? (existing.spec.getD .empty) (existing.wanted desired) = none) ∧
      ∃ template updateStrategy,
        PodTemplate.members.codec.merge? (existing.spec.getD .empty).template
          (existing.wanted desired).template = some template ∧
        (Codec.option StatefulSetStrategy.members.codec).merge?
          (existing.spec.getD .empty).updateStrategy (existing.wanted desired).updateStrategy =
            some updateStrategy ∧
        { existing with
          spec := some
            { existing.spec.getD .empty with
              selector := if existing.metadata.exists? then (existing.spec.getD .empty).selector
                else (existing.wanted desired).selector
              replicas := (existing.wanted desired).replicas
              podManagementPolicy := (existing.wanted desired).podManagementPolicy
              volumeClaimTemplates := claimsAfter existing.metadata.exists?
                (existing.spec.getD .empty).volumeClaimTemplates
                (existing.wanted desired).volumeClaimTemplates
              template
              updateStrategy } } = merged := by
  unfold merge
  simp only
  split
  · rename_i violation hv
    constructor
    · intro h
      cases h
    · intro h
      split at hv
      · rename_i he
        rw [h.1 he] at hv
        cases hv
      · cases hv
  · rename_i hv
    have hnone : existing.metadata.exists? = true →
        violation? (existing.spec.getD .empty) (existing.wanted desired) = none := by
      intro he
      rwa [if_pos he] at hv
    split
    · rename_i template updateStrategy ht hs
      rw [ht, hs]
      constructor
      · intro h
        refine ⟨hnone, template, updateStrategy, rfl, rfl, ?_⟩
        exact Except.ok.inj h
      · intro h
        obtain ⟨-, template', updateStrategy', ht', hs', hm⟩ := h
        obtain rfl := Option.some.inj ht'
        obtain rfl := Option.some.inj hs'
        exact congrArg Except.ok hm
    · rename_i hfail
      constructor
      · intro h
        cases h
      · intro h
        obtain ⟨-, template, updateStrategy, ht, hs, -⟩ := h
        exact absurd hs (hfail template updateStrategy ht)

theorem StatefulSet.wanted_of_exists {existing : StatefulSet}
    (he : existing.metadata.exists? = true) (desired : StatefulSet) :
    existing.wanted desired =
      { desired.spec.getD .empty with
        volumeClaimTemplates := defaultClaims (existing.spec.getD .empty).volumeClaimTemplates
          (desired.spec.getD .empty).volumeClaimTemplates } := by
  unfold wanted
  rw [if_pos he]

theorem StatefulSet.wanted_of_not_exists {existing : StatefulSet}
    (he : existing.metadata.exists? = false) (desired : StatefulSet) :
    existing.wanted desired = desired.spec.getD .empty := by
  unfold wanted
  rw [he]
  rfl

theorem StatefulSet.merge_again {existing desired merged : StatefulSet}
    (h : existing.merge desired = .ok merged) : merged.merge desired = .ok merged := by
  obtain ⟨hv, template, updateStrategy, ht, hs, hmerged⟩ := merge_eq_ok_iff.1 h
  obtain ⟨_, templateLaw, -⟩ := PodTemplate.lawful
  obtain ⟨_, strategyLaw⟩ := StatefulSetStrategy.lossless.option
  have hexists : merged.metadata.exists? = existing.metadata.exists? := by rw [← hmerged]
  cases he : existing.metadata.exists? with
  | false =>
    have hwanted : merged.wanted desired = existing.wanted desired := by
      rw [wanted_of_not_exists he, wanted_of_not_exists (hexists.trans he)]
    refine merge_eq_ok_iff.2 ⟨fun hm => ?_, template, updateStrategy, ?_⟩
    · rw [hexists, he] at hm
      cases hm
    · rw [hwanted, ← hmerged]
      refine ⟨templateLaw.merge?_again ht, strategyLaw.merge?_again hs, ?_⟩
      simp only [Option.getD_some, he, claimsAfter_false]
      rfl
  | true =>
    obtain ⟨hselector, hshapes⟩ := violation?_eq_none_iff.1 (hv he)
    rw [wanted_of_exists he] at hshapes
    obtain ⟨hdefaults, hshapes', hclaims⟩ := claimsAfter_again hshapes
    have hwanted : merged.wanted desired = existing.wanted desired := by
      rw [wanted_of_exists he, wanted_of_exists (hexists.trans he), ← hmerged]
      simp only [Option.getD_some, he, wanted_of_exists he, hdefaults]
    refine merge_eq_ok_iff.2 ⟨fun _ => ?_, template, updateStrategy, ?_⟩
    · rw [hwanted, ← hmerged]
      refine violation?_eq_none_iff.2 ⟨?_, ?_⟩
      · simpa only [Option.getD_some, he, if_true] using hselector
      · simpa only [Option.getD_some, he, wanted_of_exists he] using hshapes'
    · rw [hwanted, ← hmerged]
      refine ⟨templateLaw.merge?_again ht, strategyLaw.merge?_again hs, ?_⟩
      simp only [Option.getD_some, he, if_true, wanted_of_exists he, hclaims]

/-! ## 5. Policies -/

/-- What a policy does when it does not fail. -/
inductive MergesTo : ManagedObject → ManagedObject → ManagedObject → Prop
  | configMap (e d : ConfigMap) : MergesTo (.configMap e) (.configMap d) (.configMap (e.merge d))
  | secret (e d : Secret) : MergesTo (.secret e) (.secret d) (.secret (e.merge d))
  | service (e d : Service) : MergesTo (.service e) (.service d) (.service (e.merge d))
  | serviceAccount (e d : ServiceAccount) :
      MergesTo (.serviceAccount e) (.serviceAccount d) (.serviceAccount (e.merge d))
  | deployment {e d m : Deployment} (h : e.merge d = .ok m) :
      MergesTo (.deployment e) (.deployment d) (.deployment m)
  | statefulSet {e d m : StatefulSet} (h : e.merge d = .ok m) :
      MergesTo (.statefulSet e) (.statefulSet d) (.statefulSet m)
  | role (e d : Role) : MergesTo (.role e) (.role d) (.role (e.merge d))
  | roleBinding {e d m : RoleBinding} (h : e.merge d = .ok m) :
      MergesTo (.roleBinding e) (.roleBinding d) (.roleBinding m)
  | clusterRole (e d : ClusterRole) :
      MergesTo (.clusterRole e) (.clusterRole d) (.clusterRole (e.merge d))
  | clusterRoleBinding {e d m : ClusterRoleBinding} (h : e.merge d = .ok m) :
      MergesTo (.clusterRoleBinding e) (.clusterRoleBinding d) (.clusterRoleBinding m)
  | ingress (e d : Ingress) : MergesTo (.ingress e) (.ingress d) (.ingress (e.merge d))
  | custom (k : CustomKind) (e d : CustomResource) :
      MergesTo (.custom k e) (.custom k d) (.custom k (e.merge d))

theorem except_map_eq_ok {ε α β : Type} {f : α → β} {x : Except ε α} {b : β}
    (h : x.map f = .ok b) : ∃ a, x = .ok a ∧ f a = b := by
  cases x with
  | error e => cases h
  | ok a => exact ⟨a, rfl, Except.ok.inj h⟩

/-- Only the policy of the kind merges objects, and it merges no others. -/
theorem Policy.merge_eq_ok_iff {p : Policy} {existing desired merged : ManagedObject} :
    p.merge existing desired = .ok merged ↔
      p = .ofKind desired.kind ∧ MergesTo existing desired merged := by
  constructor
  · intro h
    unfold merge at h
    split at h
    case h_5 | h_6 | h_8 | h_10 =>
      obtain ⟨m, hm, rfl⟩ := except_map_eq_ok h
      exact ⟨rfl, by constructor; exact hm⟩
    case h_12 existing desired k =>
      split at h
      · cases h
      · rename_i hk
        split at h
        · rename_i c e c' d
          obtain ⟨hc, hc'⟩ := not_or.1 hk
          have hkc : Kind.custom c = k := not_not.1 hc
          have hkc' : Kind.custom c' = k := not_not.1 hc'
          obtain rfl : c = c' := Kind.custom.inj (hkc.trans hkc'.symm)
          cases h
          subst hkc
          exact ⟨rfl, .custom c e d⟩
        · cases h
    case h_13 => cases h
    all_goals
      cases h
      exact ⟨rfl, by constructor⟩
  · intro h
    obtain ⟨rfl, hm⟩ := h
    cases hm with
    | deployment h => exact congrArg (Except.map ManagedObject.deployment) h
    | statefulSet h => exact congrArg (Except.map ManagedObject.statefulSet) h
    | roleBinding h => exact congrArg (Except.map ManagedObject.roleBinding) h
    | clusterRoleBinding h => exact congrArg (Except.map ManagedObject.clusterRoleBinding) h
    | custom k e d => simp [merge, ofKind, ManagedObject.kind]
    | _ => rfl

theorem ConfigMap.merge_again (existing desired : ConfigMap) :
    (existing.merge desired).merge desired = existing.merge desired := by
  by_cases h : (existing.metadata.annotations.bind (·.get? injectAnnotation)).isSome = true
  · have hm : existing.merge desired = existing := if_pos h
    rw [hm, hm]
  · have hm : existing.merge desired =
        { existing with data := desired.data, binaryData := desired.binaryData } := if_neg h
    rw [hm]
    exact if_neg h

theorem Service.merge_again (existing desired : Service) :
    (existing.merge desired).merge desired = existing.merge desired := by
  unfold merge
  simp only [Option.getD_some, mergeLabels_again]

theorem RoleBinding.merge_again {existing desired merged : RoleBinding}
    (h : existing.merge desired = .ok merged) : merged.merge desired = .ok merged := by
  unfold merge at h
  split at h
  · cases h
  · cases h
    exact if_neg fun hr => hr.2 rfl

theorem ClusterRoleBinding.merge_again {existing desired merged : ClusterRoleBinding}
    (h : existing.merge desired = .ok merged) : merged.merge desired = .ok merged := by
  unfold merge at h
  split at h
  · cases h
  · cases h
    exact if_neg fun hr => hr.2 rfl

/-- The data states a specification that is not null. -/
def CustomResource.HasSpec (o : CustomResource) : Prop :=
  ∃ spec, o.data.get? "spec" = some spec ∧ spec ≠ .null

theorem CustomResource.merge_of_spec (existing : CustomResource) {desired : CustomResource}
    {spec : Json} (h : desired.data.get? "spec" = some spec) (hn : spec ≠ .null) :
    existing.merge desired =
      { existing with data := .obj (Entries.insert "spec" spec existing.data.fields) } := by
  unfold merge
  rw [h]
  cases spec with
  | null => exact absurd rfl hn
  | _ => rfl

theorem CustomResource.merge_of_not_hasSpec (existing : CustomResource)
    {desired : CustomResource} (h : ¬desired.HasSpec) :
    existing.merge desired =
      { existing with data := .obj (Entries.erase "spec" existing.data.fields) } := by
  unfold merge
  cases hs : desired.data.get? "spec" with
  | none => rfl
  | some spec =>
    cases spec with
    | null => rfl
    | _ => exact absurd ⟨_, hs, by simp⟩ h

theorem CustomResource.metadata_merge (existing desired : CustomResource) :
    (existing.merge desired).metadata = existing.metadata := by
  by_cases h : desired.HasSpec
  · obtain ⟨spec, hs, hn⟩ := h
    rw [merge_of_spec existing hs hn]
  · rw [merge_of_not_hasSpec existing h]

theorem CustomResource.merge_again (existing desired : CustomResource) :
    (existing.merge desired).merge desired = existing.merge desired := by
  by_cases h : desired.HasSpec
  · obtain ⟨spec, hs, hn⟩ := h
    simp only [merge_of_spec _ hs hn, Json.fields, Entries.insert_insert]
  · simp only [merge_of_not_hasSpec _ h, Json.fields, Entries.erase_erase]

theorem MergesTo.again {existing desired merged : ManagedObject}
    (h : MergesTo existing desired merged) : MergesTo merged desired merged := by
  cases h with
  | configMap e d =>
    have hm := MergesTo.configMap (e.merge d) d
    rwa [ConfigMap.merge_again] at hm
  | secret e d => exact .secret (e.merge d) d
  | service e d =>
    have hm := MergesTo.service (e.merge d) d
    rwa [Service.merge_again] at hm
  | serviceAccount e d => exact .serviceAccount e d
  | deployment h => exact .deployment (Deployment.merge_again h)
  | statefulSet h => exact .statefulSet (StatefulSet.merge_again h)
  | role e d => exact .role (e.merge d) d
  | roleBinding h => exact .roleBinding (RoleBinding.merge_again h)
  | clusterRole e d => exact .clusterRole (e.merge d) d
  | clusterRoleBinding h => exact .clusterRoleBinding (ClusterRoleBinding.merge_again h)
  | ingress e d => exact .ingress (e.merge d) d
  | custom k e d =>
    have hm := MergesTo.custom k (e.merge d) d
    rwa [CustomResource.merge_again] at hm

theorem MergesTo.kind_desired {existing desired merged : ManagedObject}
    (h : MergesTo existing desired merged) : merged.kind = desired.kind := by
  cases h <;> rfl

/-- Policies leave the metadata to the mutation. -/
theorem MergesTo.metadata {existing desired merged : ManagedObject}
    (h : MergesTo existing desired merged) : merged.metadata = existing.metadata := by
  cases h with
  | configMap e d =>
    show (e.merge d).metadata = e.metadata
    unfold ConfigMap.merge
    split <;> rfl
  | deployment h =>
    obtain ⟨_, _, _, _, rfl⟩ := Deployment.merge_eq_ok_iff.1 h
    rfl
  | statefulSet h =>
    obtain ⟨_, _, _, _, _, rfl⟩ := StatefulSet.merge_eq_ok_iff.1 h
    rfl
  | roleBinding h =>
    unfold RoleBinding.merge at h
    split at h <;> cases h
    rfl
  | clusterRoleBinding h =>
    unfold ClusterRoleBinding.merge at h
    split at h <;> cases h
    rfl
  | custom k e d => exact e.metadata_merge d
  | _ => rfl

/-! ## 6. Mutation -/

theorem ManagedObject.withMetadata_metadata (o : ManagedObject) :
    o.withMetadata o.metadata = o := by cases o <;> rfl

/-- What a mutation does when it does not fail. -/
theorem Registry.mutate_eq_ok_iff {r : Registry} {existing desired merged : ManagedObject} :
    r.mutate existing desired = .ok merged ↔
      existing.kind = desired.kind ∧ r.policy desired.kind = .ok (.ofKind desired.kind) ∧
      MergesTo (existing.withMetadata (existing.metadata.merge desired.metadata)) desired
        merged := by
  unfold mutate
  by_cases hk : existing.kind = desired.kind
  · rw [if_neg (not_not.2 hk)]
    cases hp : r.policy desired.kind with
    | error e =>
      constructor
      · intro h
        cases h
      · intro h
        cases h.2.1
    | ok p =>
      show p.merge _ desired = .ok merged ↔ _
      rw [Policy.merge_eq_ok_iff]
      constructor
      · intro h
        exact ⟨hk, congrArg Except.ok h.1, h.2⟩
      · intro h
        exact ⟨Except.ok.inj h.2.1, h.2.2⟩
  · rw [if_pos hk]
    constructor
    · intro h
      cases h
    · intro h
      exact absurd h.1 hk

theorem Registry.metadata_mutate {r : Registry} {existing desired merged : ManagedObject}
    (h : r.mutate existing desired = .ok merged) :
    merged.metadata = existing.metadata.merge desired.metadata := by
  obtain ⟨-, -, hm⟩ := mutate_eq_ok_iff.1 h
  rw [hm.metadata, ManagedObject.metadata_withMetadata]

/-- A mutation leaves the identity as it is. -/
theorem Registry.identity_mutate {r : Registry} {existing desired merged : ManagedObject}
    (h : r.mutate existing desired = .ok merged) : merged.identity = existing.identity := by
  obtain ⟨hkind, -, hm⟩ := mutate_eq_ok_iff.1 h
  unfold ManagedObject.identity ManagedObject.name
  rw [metadata_mutate h, hm.kind_desired, hkind]
  rfl

/-- A mutated object is a fixed point. -/
theorem Registry.mutate_again {r : Registry} {existing desired merged : ManagedObject}
    (h : r.mutate existing desired = .ok merged) : r.mutate merged desired = .ok merged := by
  obtain ⟨hkind, hpolicy, hm⟩ := mutate_eq_ok_iff.1 h
  have hmeta := metadata_mutate h
  have hsame : merged.withMetadata (merged.metadata.merge desired.metadata) = merged := by
    rw [hmeta, ObjectMeta.merge_again, ← hmeta, ManagedObject.withMetadata_metadata]
  refine mutate_eq_ok_iff.2 ⟨hm.kind_desired, hpolicy, ?_⟩
  rw [hsame]
  exact hm.again

/-- **Mutation is idempotent**: whatever registry, existing and desired object, if the mutation
succeeds then mutating its result with the same desired object succeeds as well and returns an equal
object. -/
theorem Registry.mutate_idempotent (r : Registry) (existing desired merged : ManagedObject)
    (h : r.mutate existing desired = .ok merged) :
    ∃ again, r.mutate merged desired = .ok again ∧ again.same merged = true :=
  ⟨merged, mutate_again h, merged.same_self⟩

/-- A stateful set of so many replicas with one claim template of a volume mode. -/
def StatefulSet.claiming (created : Option Instant) (replicas : Int32) (mode : Option String) :
    StatefulSet where
  metadata := { ObjectMeta.empty with creationTimestamp := created }
  spec := some
    { StatefulSetSpec.empty with
      replicas := some replicas
      volumeClaimTemplates := some
        [⟨{ ObjectMeta.empty with name := some "data" }, some ⟨none, none, mode, none⟩, none⟩] }
  status := none

/-- A claim template that takes its volume mode from the live object keeps it. -/
theorem Registry.mutate_idempotent_claiming :
    Registry.standard.mutate (.statefulSet (.claiming (some ⟨0, 0⟩) 1 (some "Block")))
        (.statefulSet (.claiming none 2 none)) =
      .ok (.statefulSet (.claiming (some ⟨0, 0⟩) 2 (some "Block"))) ∧
    ∃ again, Registry.standard.mutate (.statefulSet (.claiming (some ⟨0, 0⟩) 2 (some "Block")))
        (.statefulSet (.claiming none 2 none)) = .ok again ∧
      again.same (.statefulSet (.claiming (some ⟨0, 0⟩) 2 (some "Block"))) = true :=
  ⟨rfl, mutate_idempotent standard (.statefulSet (.claiming (some ⟨0, 0⟩) 1 (some "Block"))) _ _
    rfl⟩

end Reconciliation
