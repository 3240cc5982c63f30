import Reconciliation.Proofs.Mutation.Immutable
import Reconciliation.Proofs.Mutation.Metadata

/-!
# What a mutation repairs

Every field of an object outside of its metadata belongs either to the engine or to others: to the
API server, to the platform, to people. A mutation brings the fields of the engine to what is
desired and leaves all others alone; one field too few would never be repaired, one too many would
be fought over in every pass.

* `ManagedObject.foreign` -- the object without metadata and without what the engine owns: objects
  that are equal in it differ in owned fields only;
* `ManagedObject.replaced` -- what the engine replaces as a whole;
* `ManagedObject.Overlaid` -- what it lays over: selectors, templates, strategies, claim templates,
  specifications of custom resources;
* **`Registry.mutate_repairs`** -- every mutation that succeeds keeps the first, takes the second
  from the desired object, and lays the third over;
* `Secret.content` -- what a secret holds, whichever way it is given;
  **`Registry.mutate_content_iff`** -- when a mutation brings that about, and when it does not.
-/

namespace Reconciliation

/-! ## 1. The parts of an object -/

namespace ManagedObject

/-- What others own of an object: the metadata and the fields of the engine are blank. An absent
specification counts as the empty one, and data that is no object as the empty object. The selector
of a workload belongs to the engine until the object exists. -/
def foreign (o : ManagedObject) : ManagedObject :=
  let rest :=
    match o with
    | configMap o => configMap { o with data := none, binaryData := none }
    | secret o => secret { o with data := none }
    | service o =>
      service { o with spec := some { o.spec.getD .empty with ports := none, selector := none } }
    | serviceAccount o => serviceAccount o
    | deployment o =>
      let spec := o.spec.getD .empty
      deployment
        { o with
          spec := some
            { spec with
              selector := if o.metadata.exists? then spec.selector else .empty
              replicas := none
              template := .empty
              strategy := none } }
    | statefulSet o =>
      let spec := o.spec.getD .empty
      statefulSet
        { o with
          spec := some
            { spec with
              selector := if o.metadata.exists? then spec.selector else .empty
              replicas := none
              podManagementPolicy := none
              template := .empty
              updateStrategy := none
              volumeClaimTemplates := none } }
    | role o => role { o with rules := none }
    | roleBinding o => roleBinding { o with roleRef := .empty, subjects := none }
    | clusterRole o => clusterRole { o with rules := none, aggregationRule := none }
    | clusterRoleBinding o => clusterRoleBinding { o with roleRef := .empty, subjects := none }
    | ingress o =>
      ingress
        { o with
          spec := some
            { o.spec.getD .empty with
              defaultBackend := none, ingressClassName := none, rules := none, tls := none } }
    | custom k o => custom k { o with data := .obj (Entries.erase "spec" o.data.fields) }
  rest.withMetadata .empty

/-- What the engine replaces of an object; all else is blank. A custom resource without
specification counts as one whose specification is null: which of the two is left after a merge is
not decided by what is desired (`ManagedObject.Overlaid`). -/
def replaced : ManagedObject → ManagedObject
  | configMap o => configMap ⟨.empty, o.data, o.binaryData, none⟩
  | secret o => secret ⟨.empty, o.data, none, none, none⟩
  | service o =>
    service ⟨.empty, some { ServiceSpec.empty with ports := (o.spec.getD .empty).ports }, none⟩
  | serviceAccount _ => serviceAccount ⟨.empty, none, none, none⟩
  | deployment o =>
    deployment
      ⟨.empty, some { DeploymentSpec.empty with replicas := (o.spec.getD .empty).replicas }, none⟩
  | statefulSet o =>
    let spec := o.spec.getD .empty
    statefulSet
      ⟨.empty,
        some
          { StatefulSetSpec.empty with
            replicas := spec.replicas, podManagementPolicy := spec.podManagementPolicy },
        none⟩
  | role o => role ⟨.empty, o.rules⟩
  | roleBinding o => roleBinding ⟨.empty, o.roleRef, o.subjects⟩
  | clusterRole o => clusterRole ⟨.empty, o.rules, o.aggregationRule⟩
  | clusterRoleBinding o => clusterRoleBinding ⟨.empty, o.roleRef, o.subjects⟩
  | ingress o => ingress ⟨.empty, some (o.spec.getD .empty), none⟩
  | custom k o => ofSpec k .empty ((o.data.get? "spec").getD .null)

/-- Whether another controller fills in the data of the object. -/
def isInjected : ManagedObject → Bool
  | configMap o => (o.metadata.annotations.bind (·.get? injectAnnotation)).isSome
  | _ => false

end ManagedObject

/-! ## 2. What is laid over -/

/-- The written form of a value is that of a desired value laid over that of an existing one. -/
def Codec.Overlaid (c : Codec α) (existing desired merged : α) : Prop :=
  c.encode merged = (c.encode existing).override (c.encode desired)

/-- Template and strategy are laid over; the selector is the desired one until the object exists. -/
structure Deployment.Overlaid (existing desired merged : Deployment) : Prop where
  template : PodTemplate.members.codec.Overlaid (existing.spec.getD .empty).template
    (desired.spec.getD .empty).template (merged.spec.getD .empty).template
  strategy : (Codec.option DeploymentStrategy.members.codec).Overlaid
    (existing.spec.getD .empty).strategy (desired.spec.getD .empty).strategy
    (merged.spec.getD .empty).strategy
  selector : existing.metadata.exists? = false →
    (merged.spec.getD .empty).selector = (desired.spec.getD .empty).selector

/-- A claim template of an object that exists has the desired metadata and the desired
specification, completed by the volume mode of the live claim of its name. -/
structure VolumeClaim.Renewed (live : List VolumeClaim) (want merged : VolumeClaim) : Prop where
  metadata : merged.metadata = want.metadata
  spec : merged.spec = (want.completed live).spec

/-- Template and strategy are laid over; selector and claim templates are the desired ones until the
object exists. From then on each claim template is renewed, and its status stays. -/
structure StatefulSet.Overlaid (existing desired merged : StatefulSet) : Prop where
  template : PodTemplate.members.codec.Overlaid (existing.spec.getD .empty).template
    (desired.spec.getD .empty).template (merged.spec.getD .empty).template
  updateStrategy : (Codec.option StatefulSetStrategy.members.codec).Overlaid
    (existing.spec.getD .empty).updateStrategy (desired.spec.getD .empty).updateStrategy
    (merged.spec.getD .empty).updateStrategy
  selector : existing.metadata.exists? = false → merged.selector = desired.selector
  claims : existing.metadata.exists? = false → merged.claims? = desired.claims?
  renewed : existing.metadata.exists? = true →
    List.Forall₂ (VolumeClaim.Renewed existing.claims) desired.claims merged.claims
  kept : existing.metadata.exists? = true →
    List.Forall₂ VolumeClaim.Keeps existing.claims merged.claims

/-- What is laid over an existing object, by kind. A custom resource has the desired specification,
but has none if null is desired. -/
def ManagedObject.Overlaid : (existing desired merged : ManagedObject) → Prop
  | service e, service d, service m =>
    LabelsOverlaid (e.spec.getD .empty).selector (d.spec.getD .empty).selector
      (m.spec.getD .empty).selector
  | deployment e, deployment d, deployment m => e.Overlaid d m
  | statefulSet e, statefulSet d, statefulSet m => e.Overlaid d m
  | custom _ _, custom _ d, custom _ m =>
    m.data.get? "spec" = (d.data.get? "spec").filter (!·.isNull)
  | _, _, _ => True

/-! ## 3. Workloads -/

/-- A merge that succeeds is written as the one form laid over the other. -/
theorem Codec.Law.overlaid {c : Codec α} {whole : α → Prop} {form : Json → Prop}
    (h : c.Law whole form) {a b merged : α} (hm : c.merge? a b = some merged) :
    c.Overlaid a b merged := h.encode_of_read (h.override (h.encode a) (h.encode b)) hm

theorem PodTemplate.overlaid {a b merged : PodTemplate}
    (h : members.codec.merge? a b = some merged) : members.codec.Overlaid a b merged := by
  obtain ⟨_, law, -⟩ := PodTemplate.lawful
  exact law.overlaid h

theorem Codec.Lawful.overlaid_option {c : Codec α} (hc : c.Lossless) {a b merged : Option α}
    (h : c.option.merge? a b = some merged) : c.option.Overlaid a b merged := by
  obtain ⟨_, law⟩ := hc.option
  exact law.overlaid h

theorem Deployment.overlaid_of_merge {e d m : Deployment} (h : e.merge d = .ok m) :
    e.Overlaid d m := by
  obtain ⟨template, strategy, ht, hs, rfl⟩ := merge_eq_ok_iff.1 h
  exact ⟨PodTemplate.overlaid ht, DeploymentStrategy.lossless.overlaid_option hs,
    fun hx => by rw [Option.getD_some, hx]; rfl⟩

theorem mergeClaims_renewed {claims live want : List VolumeClaim}
    (h : live.length = (want.map (·.completed claims)).length) :
    List.Forall₂ (VolumeClaim.Renewed claims) want
      (mergeClaims live (want.map (·.completed claims))) := by
  induction live generalizing want with
  | nil =>
    cases want with
    | nil => exact .nil
    | cons w want => cases h
  | cons l live ih =>
    cases want with
    | nil => cases h
    | cons w want => exact .cons ⟨rfl, rfl⟩ (ih (Nat.succ.inj h))

theorem claimsAfter_renewed {live desired : Option (List VolumeClaim)}
    (h : claimShapes live = claimShapes (defaultClaims live desired)) :
    List.Forall₂ (VolumeClaim.Renewed (live.getD [])) (desired.getD [])
      ((claimsAfter true live (defaultClaims live desired)).getD []) := by
  have hlength := (claimShapes_eq_iff.1 h).length_eq
  rw [defaultClaims_eq] at hlength ⊢
  cases desired with
  | none => cases live <;> exact .nil
  | some claims =>
    cases live with
    | none =>
      -- without live claims there are no desired ones either, and nothing is completed
      obtain rfl : claims = [] := by simpa using hlength.symm
      exact .nil
    | some live => exact mergeClaims_renewed hlength

/-- Only the claim templates are wanted otherwise than desired. -/
theorem StatefulSet.exists_wanted (e d : StatefulSet) :
    ∃ claims, e.wanted d = { d.spec.getD .empty with volumeClaimTemplates := claims } := by
  unfold wanted
  split <;> exact ⟨_, rfl⟩

theorem StatefulSet.overlaid_of_merge {e d m : StatefulSet} (h : e.merge d = .ok m) :
    e.Overlaid d m := by
  have hkept : e.metadata.exists? = true → List.Forall₂ VolumeClaim.Keeps e.claims m.claims :=
    fun hx => claims_of_merge hx h
  obtain ⟨claims, hwanted⟩ := e.exists_wanted d
  obtain ⟨hv, template, updateStrategy, ht, hs, rfl⟩ := merge_eq_ok_iff.1 h
  rw [hwanted] at ht hs
  refine ⟨PodTemplate.overlaid ht, StatefulSetStrategy.lossless.overlaid_option hs, fun hx => ?_,
    fun hx => ?_, fun hx => ?_, hkept⟩
  · show (if e.metadata.exists? then _ else _ : SelectorSpec) = _
    rw [hx]
    exact selector_wanted
  · show claimsAfter e.metadata.exists? _ _ = _
    rw [hx, claimsAfter_false, wanted_of_not_exists hx]
    rfl
  · obtain ⟨-, hshapes⟩ := violation?_eq_none_iff.1 (hv hx)
    rw [wanted_of_exists hx] at hshapes
    show List.Forall₂ _ _ ((claimsAfter e.metadata.exists? _ _).getD [])
    rw [hx, wanted_of_exists hx]
    exact claimsAfter_renewed hshapes

/-! ## 4. Custom resources -/

theorem Entries.erase_insert (k : String) (v : Json) (entries : List (String × Json)) :
    Entries.erase k (Entries.insert k v entries) = Entries.erase k entries := by
  induction entries with
  | nil => simp [Entries.insert, Entries.erase]
  | cons e rest ih =>
    obtain ⟨k', v'⟩ := e
    simp only [Entries.insert]
    split
    · simp [Entries.erase]
    · rename_i heq
      simp [Entries.erase, heq]
    · rename_i hgt
      simpa [Entries.erase, hgt] using ih

theorem CustomResource.foreign_merge (k : CustomKind) (e d : CustomResource) :
    (ManagedObject.custom k (e.merge d)).foreign = (ManagedObject.custom k e).foreign := by
  by_cases h : d.HasSpec
  · obtain ⟨spec, hs, hn⟩ := h
    rw [merge_of_spec e hs hn]
    simp only [ManagedObject.foreign, Json.fields, Entries.erase_insert]
  · rw [merge_of_not_hasSpec e h]
    simp only [ManagedObject.foreign, Json.fields, Entries.erase_erase]

/-- A null specification is not written. -/
theorem CustomResource.spec_merge (e d : CustomResource) :
    (e.merge d).data.get? "spec" = (d.data.get? "spec").filter (!·.isNull) := by
  by_cases h : d.HasSpec
  · obtain ⟨spec, hs, hn⟩ := h
    have hfilter : (some spec).filter (!·.isNull) = some spec := by
      cases spec with
      | null => exact absurd rfl hn
      | _ => rfl
    rw [merge_of_spec e hs hn, hs, hfilter]
    simp only [Json.get?, Json.fields, Entries.lookup_insert_self]
  · rw [merge_of_not_hasSpec e h]
    cases hs : d.data.get? "spec" with
    | none => simp only [Json.get?, Json.fields, Entries.lookup_erase_self, Option.filter_none]
    | some spec =>
      obtain rfl : spec = .null := not_not.1 fun hn => h ⟨spec, hs, hn⟩
      simp only [Json.get?, Json.fields, Entries.lookup_erase_self]
      rfl

theorem CustomResource.replaced_merge (k : CustomKind) (e d : CustomResource) :
    (ManagedObject.custom k (e.merge d)).replaced = (ManagedObject.custom k d).replaced := by
  refine congrArg (ManagedObject.ofSpec k .empty) ?_
  rw [spec_merge]
  cases d.data.get? "spec" with
  | none => rfl
  | some spec => cases spec <;> rfl

/-! ## 5. Policies -/

/-- What becomes of an existing object into which a desired one is merged. -/
structure Repairs (existing desired merged : ManagedObject) : Prop where
  /-- What belongs to others stays. -/
  foreign : merged.foreign = existing.foreign
  /-- What is replaced is as desired, -/
  replaced : merged.isInjected = false → merged.replaced = desired.replaced
  /-- unless another controller fills it in; then it stays. -/
  injected : merged.isInjected = true → merged.replaced = existing.replaced
  /-- All else that the engine owns is laid over. -/
  overlaid : existing.Overlaid desired merged

/-- Where nothing is filled in by others, everything that is replaced is as desired. -/
theorem Repairs.of_replaced {existing desired merged : ManagedObject}
    (hf : merged.foreign = existing.foreign) (hi : merged.isInjected = false)
    (hr : merged.replaced = desired.replaced) (ho : existing.Overlaid desired merged) :
    Repairs existing desired merged :=
  ⟨hf, fun _ => hr, fun h => absurd (hi.symm.trans h) Bool.false_ne_true, ho⟩

theorem ConfigMap.repairs (e d : ConfigMap) :
    Repairs (.configMap e) (.configMap d) (.configMap (e.merge d)) := by
  unfold merge
  split
  · rename_i hi
    exact ⟨rfl, fun hn => absurd (hi.symm.trans hn) (by simp), fun _ => rfl, trivial⟩
  · rename_i hi
    exact .of_replaced rfl (Bool.eq_false_iff.2 hi) rfl trivial

theorem Deployment.repairs {e d m : Deployment} (h : e.merge d = .ok m) :
    Repairs (.deployment e) (.deployment d) (.deployment m) := by
  have ho := overlaid_of_merge h
  obtain ⟨template, strategy, -, -, rfl⟩ := merge_eq_ok_iff.1 h
  refine .of_replaced ?_ rfl rfl ho
  simp only [ManagedObject.foreign, Option.getD_some]
  split <;> rfl

theorem StatefulSet.repairs {e d m : StatefulSet} (h : e.merge d = .ok m) :
    Repairs (.statefulSet e) (.statefulSet d) (.statefulSet m) := by
  have ho := overlaid_of_merge h
  obtain ⟨claims, hwanted⟩ := e.exists_wanted d
  obtain ⟨-, template, updateStrategy, -, -, rfl⟩ := merge_eq_ok_iff.1 h
  refine .of_replaced ?_ rfl ?_ ho
  · simp only [ManagedObject.foreign, Option.getD_some]
    split <;> rfl
  · simp only [ManagedObject.replaced, Option.getD_some, hwanted]

theorem RoleBinding.repairs {e d m : RoleBinding} (h : e.merge d = .ok m) :
    Repairs (.roleBinding e) (.roleBinding d) (.roleBinding m) := by
  unfold merge at h
  split at h <;> cases h
  exact .of_replaced rfl rfl rfl trivial

theorem ClusterRoleBinding.repairs {e d m : ClusterRoleBinding} (h : e.merge d = .ok m) :
    Repairs (.clusterRoleBinding e) (.clusterRoleBinding d) (.clusterRoleBinding m) := by
  unfold merge at h
  split at h <;> cases h
  exact .of_replaced rfl rfl rfl trivial

/-- **Policies repair what they merge.** -/
theorem MergesTo.repairs {existing desired merged : ManagedObject}
    (h : MergesTo existing desired merged) : Repairs existing desired merged := by
  cases h with
  | configMap e d => exact e.repairs d
  | service e d => exact .of_replaced rfl rfl rfl (mergeLabels_overlaid _ _)
  | deployment h => exact Deployment.repairs h
  | statefulSet h => exact StatefulSet.repairs h
  | roleBinding h => exact RoleBinding.repairs h
  | clusterRoleBinding h => exact ClusterRoleBinding.repairs h
  | custom k e d =>
    exact .of_replaced (e.foreign_merge k d) rfl (e.replaced_merge k d) (e.spec_merge d)
  -- all that these kinds own is replaced, so equality of the parts is by definition
  | secret | serviceAccount | role | clusterRole | ingress =>
    exact .of_replaced rfl rfl rfl trivial

/-! ## 6. Mutation -/

namespace ManagedObject

variable {m : ObjectMeta} {o desired merged : ManagedObject}

/-- Metadata counts for the rest of an object only by saying whether the object exists. -/
theorem foreign_withMetadata (h : m.exists? = o.metadata.exists?) :
    (o.withMetadata m).foreign = o.foreign := by
  cases o with
  | deployment o =>
    have hx : m.exists? = o.metadata.exists? := h
    simp only [foreign, withMetadata, hx]
  | statefulSet o =>
    have hx : m.exists? = o.metadata.exists? := h
    simp only [foreign, withMetadata, hx]
  | _ => rfl

theorem replaced_withMetadata : (o.withMetadata m).replaced = o.replaced := by cases o <;> rfl

theorem Overlaid.of_withMetadata (hm : m.exists? = o.metadata.exists?)
    (hmerge : MergesTo (o.withMetadata m) desired merged)
    (h : (o.withMetadata m).Overlaid desired merged) : o.Overlaid desired merged := by
  cases o with
  | service e =>
    cases hmerge
    exact h
  | deployment e =>
    cases hmerge
    exact ⟨h.template, h.strategy, fun hx => h.selector (hm.trans hx)⟩
  | statefulSet e =>
    cases hmerge
    exact ⟨h.template, h.updateStrategy, fun hx => h.selector (hm.trans hx),
      fun hx => h.claims (hm.trans hx), fun hx => h.renewed (hm.trans hx),
      fun hx => h.kept (hm.trans hx)⟩
  | custom k e =>
    cases hmerge
    exact h
  | _ => trivial

end ManagedObject

/-- **A mutation changes what the engine owns and nothing else.** If it succeeds, the result equals
the existing object in all that belongs to others and the desired one in all that is replaced; the
rest is the desired laid over the existing. A configuration map that another controller fills in
keeps its data. -/
theorem Registry.mutate_repairs {r : Registry} {existing desired merged : ManagedObject}
    (h : r.mutate existing desired = .ok merged) : Repairs existing desired merged := by
  obtain ⟨-, -, hm⟩ := mutate_eq_ok_iff.1 h
  have hexists : (existing.metadata.merge desired.metadata).exists? = existing.metadata.exists? :=
    rfl
  have hr := hm.repairs
  exact ⟨hr.foreign.trans (ManagedObject.foreign_withMetadata hexists), hr.replaced,
    fun hi => (hr.injected hi).trans ManagedObject.replaced_withMetadata,
    hr.overlaid.of_withMetadata hexists hm⟩

/-- A service on one port, with an address if it has one. -/
def Service.on (port : Int32) (address : Option String) : Service where
  metadata := .empty
  spec := some
    { ServiceSpec.empty with
      ports := some [⟨port, none, none, none, none, none⟩], clusterIP := address }
  status := none

/-- A route with data besides its specification. -/
def CustomResource.on (spec : Json) : CustomResource :=
  ⟨.empty, .obj [("note", .str "kept"), ("spec", spec)]⟩

/-- The port of a service is as desired; the address that the API server assigned stays. A stateful
set gets its replicas back, while the volume mode that its claim was given stays. A specification
that is desired to be null goes, and nothing else of the data. -/
theorem Registry.mutate_repairs_kinds :
    (∃ merged, standard.mutate (.service (.on 80 (some "10.0.0.1"))) (.service (.on 8080 none)) =
        .ok (.service merged) ∧
      (merged.spec.getD .empty).clusterIP = some "10.0.0.1" ∧
      (merged.spec.getD .empty).ports.map (·.map (·.port)) = some [8080]) ∧
    (∃ merged : StatefulSet,
      standard.mutate (.statefulSet (.storing (some ⟨0, 0⟩) 3 [("data", some "Block")]))
        (.statefulSet (.storing none 1 [("data", none)])) = .ok (.statefulSet merged) ∧
      (merged.spec.getD .empty).replicas = some 1 ∧
      List.Forall₂ VolumeClaim.Keeps
        (StatefulSet.storing (some ⟨0, 0⟩) 3 [("data", some "Block")]).claims merged.claims) ∧
    ∃ merged : CustomResource,
      standard.mutate (.custom .route (.on (.str "old"))) (.custom .route (.on .null)) =
        .ok (.custom .route merged) ∧
      merged.data.get? "spec" = none ∧
      Entries.erase "spec" merged.data.fields = [("note", .str "kept")] := by
  refine ⟨?service, ?statefulSet, ?custom⟩
  case service =>
    obtain ⟨merged, hm⟩ : ∃ merged, standard.mutate (.service (.on 80 (some "10.0.0.1")))
        (.service (.on 8080 none)) = .ok (.service merged) := ⟨_, rfl⟩
    have h := mutate_repairs hm
    have hforeign := ManagedObject.service.inj h.foreign
    have hreplaced := ManagedObject.service.inj (h.replaced rfl)
    exact ⟨merged, hm, congrArg (fun o : Service => (o.spec.getD .empty).clusterIP) hforeign,
      congrArg (fun o : Service => (o.spec.getD .empty).ports.map (·.map (·.port))) hreplaced⟩
  case statefulSet =>
    have hdrifted : (StatefulSet.storing (some ⟨0, 0⟩) 3 [("data", some "Block")]).IsDrifted
        (.storing none 1 [("data", none)]) :=
      ⟨rfl, rfl, .cons ⟨rfl, rfl, .inr ⟨_, _, rfl, rfl, rfl⟩⟩ .nil⟩
    obtain ⟨merged, hmerge⟩ := StatefulSet.exists_merge (StatefulSet.isDated_storing _ _ _)
      (StatefulSet.isDated_storing _ _ _) (hdrifted.not_violates (by decide))
    have hm : standard.mutate (.statefulSet (.storing (some ⟨0, 0⟩) 3 [("data", some "Block")]))
        (.statefulSet (.storing none 1 [("data", none)])) = .ok (.statefulSet merged) :=
      mutate_eq_ok_iff.2 ⟨rfl, policy_standard _, .statefulSet hmerge⟩
    have h := mutate_repairs hm
    have hreplaced := ManagedObject.statefulSet.inj (h.replaced rfl)
    exact ⟨merged, hm, congrArg (fun o : StatefulSet => (o.spec.getD .empty).replicas) hreplaced,
      h.overlaid.kept rfl⟩
  case custom =>
    obtain ⟨merged, hm⟩ : ∃ merged : CustomResource,
        standard.mutate (.custom .route (.on (.str "old"))) (.custom .route (.on .null)) =
          .ok (.custom .route merged) := ⟨_, rfl⟩
    have h := mutate_repairs hm
    have hforeign := (ManagedObject.custom.inj h.foreign).2
    exact ⟨merged, hm, h.overlaid, congrArg (fun o : CustomResource => o.data.fields) hforeign⟩

/-! ## 7. Secrets -/

theorem Entries.lookup_map {κ α β : Type} [Ord κ] (f : α → β) (k : κ) (entries : List (κ × α)) :
    lookup k (entries.map fun e => (e.1, f e.2)) = (lookup k entries).map f := by
  induction entries with
  | nil => rfl
  | cons e rest ih =>
    rw [List.map_cons, lookup, lookup, ih]
    split <;> rfl

namespace Secret

/-- The bytes of a text. -/
def bytes (text : String) : List UInt8 := text.toList.flatMap String.utf8EncodeChar

/-- The texts of a secret as data. -/
def texts (s : Secret) : Dict String (List UInt8) :=
  .ofList ((s.stringData.getD .empty).entries.map fun e => (e.1, bytes e.2))

/-- What a secret holds: its texts laid over its data, as the API server folds them. -/
def content (s : Secret) : Dict String (List UInt8) := (s.data.getD .empty).overlay s.texts

/-- The secret as the API server returns it. -/
def folded (s : Secret) : Secret := { s with data := some s.content, stringData := none }

/-- Every text of the secret is among its data already. -/
def IsFolded (s : Secret) : Prop :=
  ∀ e ∈ (s.stringData.getD .empty).entries, (s.data.getD .empty).get? e.1 = some (bytes e.2)

instance (s : Secret) : Decidable s.IsFolded := inferInstanceAs (Decidable (∀ e ∈ _, _))

theorem get?_texts (s : Secret) (key : String) :
    s.texts.get? key = ((s.stringData.getD .empty).get? key).map bytes := by
  have hascending : Entries.Ascending
      ((s.stringData.getD .empty).entries.map fun e => (e.1, bytes e.2)) :=
    List.pairwise_map.2 (s.stringData.getD .empty).ascending
  rw [texts, Dict.get?, Dict.entries_ofList hascending, Entries.lookup_map]
  rfl

theorem get?_content (s : Secret) (key : String) :
    s.content.get? key =
      (((s.stringData.getD .empty).get? key).map bytes).or ((s.data.getD .empty).get? key) := by
  rw [content, Dict.get?_overlay, get?_texts]

theorem content_of_stringData {s : Secret} (h : s.stringData = none) :
    s.content = s.data.getD .empty := by
  refine Dict.ext_get? fun key => ?_
  rw [get?_content, h]
  rfl

/-- The data alone is the content exactly if it has the texts already. -/
theorem data_eq_content_iff (s : Secret) : s.data.getD .empty = s.content ↔ s.IsFolded := by
  constructor
  · intro h e he
    have htext : (s.stringData.getD .empty).get? e.1 = some e.2 :=
      (s.stringData.getD .empty).ascending.lookup_of_mem he
    rw [h, get?_content, htext]
    rfl
  · intro h
    refine Dict.ext_get? fun key => ?_
    rw [get?_content]
    cases htext : (s.stringData.getD .empty).get? key with
    | none => rfl
    | some text => exact h _ (Entries.mem_of_lookup htext)

end Secret

/-- **What a mutated secret holds** is the data of the desired one, without its texts: the API
server has folded those of the existing secret, and the mutation does not lay the desired ones over
again. So it holds what is desired exactly if the desired data has every desired text already. -/
theorem Registry.mutate_content_iff {live : Secret} (desired : Secret)
    (h : live.stringData = none) :
    ∃ merged : Secret, standard.mutate (.secret live) (.secret desired) = .ok (.secret merged) ∧
      merged.content = desired.data.getD .empty ∧
      (merged.content = desired.content ↔ desired.IsFolded) := by
  obtain ⟨merged, hm, hdata, htexts⟩ : ∃ merged : Secret,
      standard.mutate (.secret live) (.secret desired) = .ok (.secret merged) ∧
        merged.data = desired.data ∧ merged.stringData = none := ⟨_, rfl, rfl, h⟩
  have hcontent : merged.content = desired.data.getD .empty := by
    rw [Secret.content_of_stringData htexts, hdata]
  refine ⟨merged, hm, hcontent, ?_⟩
  rw [hcontent]
  exact desired.data_eq_content_iff

/-- A secret that gives these texts as data and those as texts. -/
def Secret.given (data : Option (List (String × String))) (texts : List (String × String)) :
    Secret where
  metadata := { ObjectMeta.empty with name := some "credentials", namespace? := some "tracing" }
  data := data.map fun data => .ofList (data.map fun e => (e.1, bytes e.2))
  stringData := some (.ofList texts)
  type := none
  immutable := none

/-- A password that the desired data has as well replaces what there was. -/
theorem Registry.mutate_content_given :
    ∃ merged : Secret, standard.mutate (.secret (Secret.given (some [("user", "root")]) []).folded)
        (.secret (.given (some [("password", "hunter2")]) [("password", "hunter2")])) =
          .ok (.secret merged) ∧
      merged.content.get? "password" = some (Secret.bytes "hunter2") ∧
      merged.content.get? "user" = none := by
  let desired : Secret := .given (some [("password", "hunter2")]) [("password", "hunter2")]
  have hfolded : (Secret.given (some [("user", "root")]) []).folded.stringData = none := rfl
  obtain ⟨merged, hm, -, hiff⟩ := mutate_content_iff desired hfolded
  have hcontent : merged.content = desired.content := hiff.2 (by decide)
  refine ⟨merged, hm, ?_, ?_⟩
  · rw [hcontent]
    decide
  · rw [hcontent]
    decide

/-- A password that the desired secret gives as a text only is lost, even though the API server had
made the existing secret of the same desired one. -/
theorem Registry.mutate_loses_text :
    ∃ merged : Secret, standard.mutate
        (.secret (Secret.given none [("password", "hunter2")]).folded)
        (.secret (.given none [("password", "hunter2")])) = .ok (.secret merged) ∧
      (Secret.given none [("password", "hunter2")]).folded.content =
        (Secret.given none [("password", "hunter2")]).content ∧
      merged.content ≠ (Secret.given none [("password", "hunter2")]).content ∧
      merged.content.get? "password" = none :=
  ⟨_, rfl, by decide, by decide, by decide⟩

end Reconciliation
