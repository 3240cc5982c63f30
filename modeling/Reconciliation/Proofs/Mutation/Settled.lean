import Reconciliation.Proofs.Mutation.Idempotence
import Reconciliation.Store.Memory

/-!
# Mutating an object that was just created

Creating stores the desired object as it is, while a mutation normalizes what it lays over the live
object. So the first mutation after a creation is not a repetition of anything, and some objects
change in it.

* `VolumeClaim.TakesNoMode`, `ManagedObject.IsSettled` -- the objects that normalizing leaves alone:
  a missing specification stays missing only where no policy fills it in, times in a template are
  written to the second, and a claim template without volume mode takes the one of an earlier claim
  template of its name;
* `Service.merge_created_iff` … `CustomResource.merge_created_iff` -- the kinds with a condition;
* **`Registry.mutate_created_iff`** -- the mutation of a created object returns it just if it is
  settled.
-/

namespace Reconciliation

/-! ## 1. Settled objects -/

/-- The first claim of the same name has no volume mode that the claim lacks. -/
def VolumeClaim.TakesNoMode (claims : List VolumeClaim) (claim : VolumeClaim) : Prop :=
  ∀ found ∈ (claims.find? fun c => c.metadata.name == claim.metadata.name).bind (·.spec),
    ∀ spec ∈ claim.spec, spec.volumeMode = none → found.volumeMode = none

/-- The object is in the form that a mutation would give it. -/
def ManagedObject.IsSettled : ManagedObject → Prop
  | service o => o.spec.isSome = true
  | ingress o => o.spec.isSome = true
  | deployment o => ∃ spec ∈ o.spec, spec.template.IsWhole
  | statefulSet o => ∃ spec ∈ o.spec, spec.template.IsWhole ∧
      ∀ claims ∈ spec.volumeClaimTemplates, ∀ claim ∈ claims, claim.TakesNoMode claims
  | custom _ o => o.data.isObject = true ∧ o.data.get? "spec" ≠ some .null
  | _ => True

/-- The members of free data stand in key order, as they do in everything that is read. -/
def ManagedObject.InKeyOrder (o : ManagedObject) : Prop :=
  ∀ c ∈ o.resource?, Entries.Ascending c.data.fields

/-! ## 2. Metadata -/

theorem Dict.overlay_self (d : Dict String String) : d.overlay d = d := by
  refine Dict.ext_get? fun k => ?_
  rw [get?_overlay, Option.or_self]

theorem mergeLabels_self (labels : Option (Dict String String)) :
    mergeLabels labels labels = labels := by
  cases labels with
  | none => rfl
  | some d =>
    by_cases hd : d.isEmpty = true
    · simp [mergeLabels, hd]
    · simp [mergeLabels, hd, Dict.overlay_self]

/-- Metadata whose mergeable parts agree is merged into itself. -/
theorem ObjectMeta.merge_eq_self {m d : ObjectMeta} (hl : m.labels = d.labels)
    (ha : m.annotations = d.annotations) (ho : m.ownerReferences = d.ownerReferences) :
    m.merge d = m := by
  unfold merge
  rw [← hl, ← ha, ← ho, mergeLabels_self, mergeLabels_self, ite_self]

/-! ## 3. Services, ingresses and deployments -/

section

variable (stamped : ObjectMeta)

theorem ConfigMap.merge_created (o : ConfigMap) :
    { o with metadata := stamped }.merge o = { o with metadata := stamped } := by
  unfold merge
  split <;> rfl

theorem Service.merge_created_iff (o : Service) :
    { o with metadata := stamped }.merge o = { o with metadata := stamped } ↔
      o.spec.isSome = true := by
  unfold merge
  cases hs : o.spec with
  | none => simp
  | some spec => simp [mergeLabels_self]

theorem Ingress.merge_created_iff (o : Ingress) :
    { o with metadata := stamped }.merge o = { o with metadata := stamped } ↔
      o.spec.isSome = true := by
  unfold merge
  cases hs : o.spec <;> simp

theorem Deployment.merge_created_iff (hx : stamped.exists? = true) (o : Deployment) :
    { o with metadata := stamped }.merge o = .ok { o with metadata := stamped } ↔
      ∃ spec ∈ o.spec, spec.template.IsWhole := by
  obtain ⟨_, templateLaw, -⟩ := PodTemplate.lawful
  obtain ⟨_, strategyLaw⟩ := DeploymentStrategy.lossless.option
  obtain ⟨metadata, spec?, status⟩ := o
  rw [merge_eq_ok_iff]
  constructor
  · intro h
    obtain ⟨template, strategy, ht, -, hm⟩ := h
    have hspec := congrArg Deployment.spec hm
    cases spec? with
    | none => cases hspec
    | some spec =>
      obtain rfl : template = spec.template :=
        congrArg DeploymentSpec.template (Option.some.inj hspec)
      exact ⟨spec, rfl, (templateLaw.merge?_self _).1 ht⟩
  · intro h
    obtain ⟨spec, hs, hw⟩ := h
    obtain rfl : spec? = some spec := hs
    refine ⟨spec.template, spec.strategy, (templateLaw.merge?_self _).2 hw,
      (strategyLaw.merge?_self _).2 fun _ _ => trivial, ?_⟩
    simp only [Option.getD_some, hx, if_true]

/-! ## 4. Stateful sets -/

theorem VolumeClaim.withDefaults_eq_self_iff {claims : List VolumeClaim} {claim : VolumeClaim} :
    claim.withDefaults claims = claim ↔ claim.TakesNoMode claims := by
  unfold withDefaults TakesNoMode
  cases (claims.find? fun c => c.metadata.name == claim.metadata.name).bind (·.spec) with
  | none => simp
  | some found =>
    obtain ⟨metadata, spec?, status⟩ := claim
    cases spec? with
    | none => simp
    | some spec =>
      obtain ⟨modes, storage, mode, resources⟩ := spec
      cases mode <;> simp

theorem VolumeClaim.withDefaults_eq (live : List VolumeClaim) (claim : VolumeClaim) :
    claim.withDefaults live = { claim with spec := (claim.withDefaults live).spec } := by
  unfold withDefaults
  split
  · split <;> rfl
  · rfl

theorem mergeClaims_self (claims : List VolumeClaim) : mergeClaims claims claims = claims := by
  induction claims with
  | nil => rfl
  | cons claim rest ih => rw [mergeClaims, ih]

theorem VolumeClaim.map_withDefaults_eq_self_iff (live claims : List VolumeClaim) :
    claims.map (·.shape) = (claims.map (·.withDefaults live)).map (·.shape) ↔
      ∀ claim ∈ claims, claim.withDefaults live = claim := by
  rw [List.map_map, List.map_inj_left]
  refine forall₂_congr fun claim _ => ⟨fun h => ?_, fun h => (congrArg shape h).symm⟩
  have hspec : claim.spec = (claim.withDefaults live).spec := congrArg (·.2.2) h
  rw [withDefaults_eq, ← hspec]

theorem claimsAfter_self (claims : Option (List VolumeClaim)) :
    claimsAfter true claims claims = claims := by
  cases claims with
  | none => rfl
  | some claims => exact congrArg some (mergeClaims_self claims)

theorem defaultClaims_eq_self_iff {claims : Option (List VolumeClaim)} :
    claimShapes claims = claimShapes (defaultClaims claims claims) ↔
      ∀ cs ∈ claims, ∀ claim ∈ cs, claim.TakesNoMode cs := by
  cases claims with
  | none => simp [defaultClaims]
  | some claims =>
    have hiff := VolumeClaim.map_withDefaults_eq_self_iff claims claims
    simp only [VolumeClaim.withDefaults_eq_self_iff] at hiff
    refine hiff.trans ⟨fun h cs hcs => ?_, fun h => h claims rfl⟩
    obtain rfl := Option.some.inj hcs
    exact h

theorem defaultClaims_self {claims : Option (List VolumeClaim)}
    (h : ∀ cs ∈ claims, ∀ claim ∈ cs, claim.TakesNoMode cs) :
    defaultClaims claims claims = claims := by
  cases claims with
  | none => rfl
  | some claims =>
    have hmap : claims.map (·.withDefaults claims) = claims.map id :=
      List.map_congr_left fun claim hc =>
        VolumeClaim.withDefaults_eq_self_iff.2 (h claims rfl claim hc)
    rw [List.map_id] at hmap
    exact congrArg some hmap

theorem StatefulSet.merge_created_iff (hx : stamped.exists? = true) (o : StatefulSet) :
    { o with metadata := stamped }.merge o = .ok { o with metadata := stamped } ↔
      ∃ spec ∈ o.spec, spec.template.IsWhole ∧
        ∀ claims ∈ spec.volumeClaimTemplates, ∀ claim ∈ claims, claim.TakesNoMode claims := by
  obtain ⟨_, templateLaw, -⟩ := PodTemplate.lawful
  obtain ⟨_, strategyLaw⟩ := StatefulSetStrategy.lossless.option
  obtain ⟨metadata, spec?, status⟩ := o
  rw [merge_eq_ok_iff, wanted_of_exists hx]
  constructor
  · intro h
    obtain ⟨hv, template, updateStrategy, ht, -, hm⟩ := h
    have hspec := congrArg StatefulSet.spec hm
    cases spec? with
    | none => cases hspec
    | some spec =>
      obtain ⟨-, hshapes⟩ := violation?_eq_none_iff.1 (hv hx)
      obtain rfl : template = spec.template :=
        congrArg StatefulSetSpec.template (Option.some.inj hspec)
      exact ⟨spec, rfl, (templateLaw.merge?_self _).1 ht, defaultClaims_eq_self_iff.1 hshapes⟩
  · intro h
    obtain ⟨spec, hs, hw, hc⟩ := h
    obtain rfl : spec? = some spec := hs
    have hdefaults := defaultClaims_self hc
    refine ⟨fun _ => violation?_eq_none_iff.2 ⟨rfl, ?_⟩, spec.template, spec.updateStrategy,
      (templateLaw.merge?_self _).2 hw, (strategyLaw.merge?_self _).2 fun _ _ => trivial, ?_⟩
    · simp only [Option.getD_some, hdefaults]
    · simp only [Option.getD_some, hx, if_true, hdefaults, claimsAfter_self]

end

/-! ## 5. Custom resources -/

/-- Data that is laid over itself stays the same just if it is an object without null
specification. -/
theorem CustomResource.merge_created_iff (stamped : ObjectMeta) {o : CustomResource}
    (hk : Entries.Ascending o.data.fields) :
    ({ o with metadata := stamped }.merge o).data.same o.data = true ↔
      o.data.isObject = true ∧ o.data.get? "spec" ≠ some .null := by
  obtain ⟨metadata, data⟩ := o
  by_cases hspec : HasSpec ⟨metadata, data⟩
  · obtain ⟨spec, hs, hn⟩ := hspec
    have hget : data.get? "spec" = some spec := hs
    have hobj : data.isObject = true := by
      cases data with
      | obj fields => rfl
      | _ => cases hget
    obtain ⟨fields, rfl⟩ := Json.exists_of_isObject hobj
    rw [merge_of_spec _ hs hn]
    have hascending : Entries.Ascending fields := hk
    show Json.same (.obj (Entries.insert "spec" spec fields)) (.obj fields) = true ↔
      _ ∧ (Json.obj fields).get? "spec" ≠ _
    rw [hascending.insert_of_lookup hget, hget]
    simp [hn, Json.isObject]
  · rw [merge_of_not_hasSpec _ hspec]
    show Json.same (.obj (Entries.erase "spec" data.fields)) data = true ↔ _
    constructor
    · intro h
      have hobj : data.isObject = true := by
        cases data with
        | obj fields => rfl
        | _ => cases h
      obtain ⟨fields, rfl⟩ := Json.exists_of_isObject hobj
      refine ⟨rfl, fun hnull => ?_⟩
      have hkeys := Json.map_fst_of_sameFields h
      have hmem : "spec" ∈ fields.map (·.1) :=
        List.mem_map.2 ⟨_, Entries.mem_of_lookup hnull, rfl⟩
      rw [← hkeys] at hmem
      obtain ⟨entry, hentry, hkey⟩ := List.mem_map.1 hmem
      have hne := (List.mem_filter.1 hentry).2
      simp [hkey] at hne
    · intro h
      obtain ⟨fields, rfl⟩ := Json.exists_of_isObject h.1
      have hnone : Entries.lookup "spec" fields = none := by
        cases hl : Entries.lookup "spec" fields with
        | none => rfl
        | some spec => exact absurd ⟨spec, hl, fun hn => h.2 (hn ▸ hl)⟩ hspec
      rw [Json.fields, Entries.erase_of_lookup_eq_none hnone, Json.same_self]

/-! ## 6. Mutation -/

/-- What a policy makes of a created object is the object just if it is settled. -/
theorem ManagedObject.isSettled_iff {stamped : ObjectMeta} (hx : stamped.exists? = true)
    {o : ManagedObject} (hk : o.InKeyOrder) :
    (∃ merged, MergesTo (o.withMetadata stamped) o merged ∧
      merged.same (o.withMetadata stamped) = true) ↔ o.IsSettled := by
  constructor
  · intro h
    obtain ⟨merged, hm, hs⟩ := h
    cases o with
    | service o =>
      cases hm
      exact (Service.merge_created_iff stamped o).1 (of_decide_eq_true hs)
    | ingress o =>
      cases hm
      exact (Ingress.merge_created_iff stamped o).1 (of_decide_eq_true hs)
    | deployment o =>
      cases hm with
      | deployment hm =>
        rw [of_decide_eq_true hs] at hm
        exact (Deployment.merge_created_iff stamped hx o).1 hm
    | statefulSet o =>
      cases hm with
      | statefulSet hm =>
        rw [of_decide_eq_true hs] at hm
        exact (StatefulSet.merge_created_iff stamped hx o).1 hm
    | custom k o =>
      cases hm
      exact (CustomResource.merge_created_iff stamped (hk o rfl)).1 (Bool.and_eq_true_iff.1 hs).2
    | _ => trivial
  · intro h
    cases o with
    | configMap o =>
      refine ⟨_, .configMap _ _, ?_⟩
      rw [ConfigMap.merge_created]
      exact same_self _
    | secret o => exact ⟨_, .secret _ _, same_self _⟩
    | service o =>
      refine ⟨_, .service _ _, ?_⟩
      rw [(Service.merge_created_iff stamped o).2 h]
      exact same_self _
    | serviceAccount o => exact ⟨_, .serviceAccount _ _, same_self _⟩
    | deployment o =>
      exact ⟨_, .deployment ((Deployment.merge_created_iff stamped hx o).2 h), same_self _⟩
    | statefulSet o =>
      exact ⟨_, .statefulSet ((StatefulSet.merge_created_iff stamped hx o).2 h), same_self _⟩
    | role o => exact ⟨_, .role _ _, same_self _⟩
    | roleBinding o => exact ⟨_, .roleBinding (if_neg fun hr => hr.2 rfl), same_self _⟩
    | clusterRole o => exact ⟨_, .clusterRole _ _, same_self _⟩
    | clusterRoleBinding o =>
      exact ⟨_, .clusterRoleBinding (if_neg fun hr => hr.2 rfl), same_self _⟩
    | ingress o =>
      refine ⟨_, .ingress _ _, ?_⟩
      rw [(Ingress.merge_created_iff stamped o).2 h]
      exact same_self _
    | custom k o =>
      refine ⟨_, .custom k _ _, ?_⟩
      have hdata := (CustomResource.merge_created_iff stamped (hk o rfl)).2 h
      simp [same, withMetadata, CustomResource.metadata_merge, hdata]

/-- The built-in policies cover every kind. -/
theorem Registry.policy_standard (k : Kind) : standard.policy k = .ok (.ofKind k) := by
  cases k with
  | custom k => cases k <;> rfl
  | _ => rfl

theorem ManagedObject.isSettled_withMetadata (m : ObjectMeta) (o : ManagedObject) :
    (o.withMetadata m).IsSettled ↔ o.IsSettled := by
  cases o <;> exact Iff.rfl

theorem ManagedObject.InKeyOrder.withMetadata {o : ManagedObject} (h : o.InKeyOrder)
    (m : ObjectMeta) : (o.withMetadata m).InKeyOrder := by
  cases o with
  | custom k o =>
    intro c hc
    obtain rfl := Option.some.inj hc
    exact h o rfl
  | _ => exact fun c hc => by cases hc

/-- **Mutating an object that was just created returns it just if the desired object is
settled.** -/
theorem Registry.mutate_created_iff {r : Registry} {desired : ManagedObject}
    (hp : r.policy desired.kind = .ok (.ofKind desired.kind)) (hk : desired.InKeyOrder)
    (m : Memory) :
    (∃ merged, r.mutate (m.stamp desired) desired = .ok merged ∧
      merged.same (m.stamp desired) = true) ↔ desired.IsSettled := by
  have hstamp : m.stamp desired = desired.withMetadata (m.stamp desired).metadata := by
    rw [Memory.stamp, ManagedObject.metadata_withMetadata]
  have hx : (m.stamp desired).metadata.exists? = true := by
    rw [Memory.stamp, ManagedObject.metadata_withMetadata]
    rfl
  have hkind : (m.stamp desired).kind = desired.kind := ManagedObject.kind_withMetadata _ _
  have hmerge : (m.stamp desired).metadata.merge desired.metadata = (m.stamp desired).metadata := by
    rw [Memory.stamp, ManagedObject.metadata_withMetadata]
    exact ObjectMeta.merge_eq_self rfl rfl rfl
  rw [← ManagedObject.isSettled_iff hx hk, ← hstamp]
  refine exists_congr fun merged => and_congr_left' ?_
  rw [mutate_eq_ok_iff, hmerge, ManagedObject.withMetadata_metadata]
  constructor
  · intro h
    exact h.2.2
  · intro h
    exact ⟨hkind, hp, h⟩

end Reconciliation
