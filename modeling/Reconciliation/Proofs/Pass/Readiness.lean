import Reconciliation.Proofs.Health
import Reconciliation.Proofs.Pass.Ownership

/-!
# What Ready says about the desired workloads

Health is sampled from the workloads that are listed after sync and prune, and summed by component.
So Ready says of a desired workload that its component has as many replicas ready as are wanted of
the workloads found in it -- if the workload is there at all: one that the pass has deleted to make
it anew is not found, and does not count. And sums say nothing once they have wrapped around.

* `Engine.computed` -- the conditions that a pass computes, and `Engine.reconcile_refreshes`: they
  are what it writes to the status of its owner;
* `SyncStepOk.establishes` -- the step on a workload leaves it as it was desired, with the labels
  and the controller by which it is found again, unless it is deleted;
* `Engine.health_of_reconcile` -- the sample is that of the store as the pass leaves it;
* **`Engine.ready_sound`** -- the law;
* `Engine.ready_without` -- the three ways in which a desired workload can fail to be ready.
-/

namespace Reconciliation

/-! ## 1. The conditions of a pass -/

/-- What the stages of a pass amounted to. -/
def PassOutcome.ofResult : Except ReconcileError StackHealth → PassOutcome
  | .ok health => clean health
  | .error cause => ofError cause

/-- The conditions that a pass computes for its owner. -/
def Engine.computed (e : Engine σ) (clock : Clock) (owner : Owner)
    (desired : Except ConfigurationError (List ManagedObject)) (r : Run σ) : List Condition :=
  (PassOutcome.ofResult (e.converge owner desired (Pass.observe .reconciliation r).2).1).conditions
    owner.conditions clock.now

namespace Engine

variable {σ : Type} {e : Engine σ} {view : σ → Memory}

/-- The world of a pass ends as the refresh of the status leaves it, which is given the computed
conditions; if the pass succeeds, so did the refresh. -/
theorem reconcile_refreshes (e : Engine σ) (clock : Clock) {owner : Owner}
    (hmanaged : owner.managementState ≠ .unmanaged)
    (desired : Except ConfigurationError (List ManagedObject)) (r : Run σ) :
    ∃ r', let refreshed := e.refreshStatus owner (e.computed clock owner desired r) r'
      (e.reconcile clock owner desired r).2.world = refreshed.2.world ∧
        ∀ action, (e.reconcile clock owner desired r).1 = .ok action →
          ∃ written, refreshed.1 = .ok written := by
  rw [e.reconcile_managed clock hmanaged]
  unfold computed
  generalize e.converge owner desired (Pass.observe .reconciliation r).2 = converged
  obtain ⟨result, after⟩ := converged
  cases result with
  | error cause => exact ⟨_, rfl, fun action h => by cases h⟩
  | ok health =>
    refine ⟨(Pass.observe (.duration clock.elapsedMillis) after).2, ?_⟩
    dsimp only [PassOutcome.ofResult]
    rcases e.conclude_cases clock owner health
        (Pass.observe (.duration clock.elapsedMillis) after).2 with
      ⟨cause, last, hrefreshed, h⟩ | ⟨written, last, hrefreshed, h⟩ <;> rw [hrefreshed, h]
    · exact ⟨rfl, fun action h => by cases h⟩
    · exact ⟨last.world_resetBackoff owner.key, fun _ _ => ⟨written, rfl⟩⟩

end Engine

/-! ## 2. What is sampled -/

/-- The workloads of an owner, from which health is sampled. -/
def Memory.workloads (m : Memory) (owner : Owner) : List ManagedObject :=
  ((m.objects.entries.filter (listed .deployment owner.metadata.namespace? owner.selector)).map
      (·.2) ++
    (m.objects.entries.filter (listed .statefulSet owner.metadata.namespace? owner.selector)).map
      (·.2)).filter owner.controls

theorem Memory.mem_workloads {m : Memory} {owner : Owner} {w : ManagedObject} :
    w ∈ m.workloads owner ↔ m.objects.get? w.identity = some w ∧
      (w.kind = .deployment ∨ w.kind = .statefulSet) ∧
      inNamespace owner.metadata.namespace? w.identity = true ∧
      owner.selector.selects w.metadata.labels = true ∧ owner.controls w = true := by
  have hlisted : ∀ kind, w ∈ (m.objects.entries.filter
      (listed kind owner.metadata.namespace? owner.selector)).map (·.2) ↔
      m.objects.get? w.identity = some w ∧ w.kind = kind ∧
        inNamespace owner.metadata.namespace? w.identity = true ∧
        owner.selector.selects w.metadata.labels = true := by
    intro kind
    constructor
    · intro h
      obtain ⟨entry, hentry, rfl⟩ := List.mem_map.1 h
      obtain ⟨hmem, hl⟩ := List.mem_filter.1 hentry
      have hkey := m.keyed entry hmem
      simp only [listed, Bool.and_eq_true, beq_iff_eq, ← hkey] at hl
      exact ⟨hkey ▸ m.objects.ascending.lookup_of_mem hmem, hl.1.1, hl.1.2, hl.2⟩
    · intro h
      obtain ⟨hget, hkind, hns, hselects⟩ := h
      refine List.mem_map.2 ⟨(w.identity, w), List.mem_filter.2 ⟨Entries.mem_of_lookup hget, ?_⟩,
        rfl⟩
      have hkind' : w.identity.kind = kind := hkind
      simp [listed, hkind', hns, hselects]
  unfold workloads
  rw [List.mem_filter, List.mem_append, hlisted, hlisted]
  tauto

section Sample

variable {σ : Type} {e : Engine σ} {view : σ → Memory} {owner : Owner}

theorem sampleHealth_run (he : e.OnMemory view) {w : σ} {health : StackHealth}
    (h : (sampleHealth e.store owner w).1 = .ok health) :
    health = StackHealth.empty.observeAll ((view w).workloads owner) := by
  obtain ⟨hdeployments, hview⟩ :=
    he.list .deployment owner.metadata.namespace? owner.selector w
  unfold sampleHealth at h
  rw [run_bind, hdeployments] at h
  generalize (e.store.list .deployment owner.metadata.namespace? owner.selector w).2 = w' at h hview
  obtain ⟨hsets, -⟩ := he.list .statefulSet owner.metadata.namespace? owner.selector w'
  rw [hview] at hsets
  rw [Memory.list_eq] at h hsets
  cases hf : (view w).listFailure? .deployment with
  | some cause =>
    rw [hf] at h
    cases h
  | none =>
    rw [hf] at h
    dsimp only at h
    rw [run_bind, hsets] at h
    cases hf' : (view w).listFailure? .statefulSet with
    | some cause =>
      rw [hf'] at h
      cases h
    | none =>
      rw [hf'] at h
      exact (Except.ok.inj h).symm

namespace Engine

/-- What is sampled after a sync is the store as it then stays. -/
theorem afterSync_eq_ok (he : e.OnMemory view) {objects : List ManagedObject}
    {result : Except SyncError SyncReport} {r : Run σ} {health : StackHealth}
    (h : (e.afterSync owner objects result r).1 = .ok health) :
    (∃ report, result = .ok report) ∧ health = StackHealth.empty.observeAll
      ((view (e.afterSync owner objects result r).2.world).workloads owner) := by
  cases result with
  | error cause => cases h
  | ok report =>
    refine ⟨⟨report, rfl⟩, ?_⟩
    dsimp only [afterSync] at h ⊢
    rw [run_bind] at h ⊢
    generalize e.prune owner objects e.settings.features.prunableKinds report.uids r = pruned
      at h ⊢
    obtain ⟨result, r'⟩ := pruned
    cases result with
    | error cause => cases h
    | ok _ =>
      dsimp only at h ⊢
      rw [run_bind, Pass.run_onWorld] at h ⊢
      have hkept := keeps_sampleHealth (P := (· = view r'.world)) he owner r'.world rfl
      generalize hs : sampleHealth e.store owner r'.world = sampled at h hkept ⊢
      obtain ⟨result, w⟩ := sampled
      cases result with
      | error cause => cases h
      | ok health' =>
        obtain rfl : health' = health := Except.ok.inj h
        show health' = StackHealth.empty.observeAll ((view w).workloads owner)
        rw [show view w = view r'.world from hkept]
        exact sampleHealth_run he (congrArg Prod.fst hs)

/-- **The sample is that of the store as the pass leaves it**, if the pass succeeds. -/
theorem health_of_reconcile (he : e.OnMemory view) {clock : Clock}
    (hmanaged : owner.managementState ≠ .unmanaged) {objects : List ManagedObject} {r : Run σ}
    {action : Action} (h : (e.reconcile clock owner (.ok objects) r).1 = .ok action) :
    (∃ report, (e.sync owner objects (Pass.observe .reconciliation r).2).1 = .ok report) ∧
      (e.converge owner (.ok objects) (Pass.observe .reconciliation r).2).1 =
        .ok (StackHealth.empty.observeAll
          ((view (e.reconcile clock owner (.ok objects) r).2.world).workloads owner)) := by
  have hsampled : ∀ health,
      (e.converge owner (.ok objects) (Pass.observe .reconciliation r).2).1 = .ok health →
      (∃ report, (e.sync owner objects (Pass.observe .reconciliation r).2).1 = .ok report) ∧
        health = StackHealth.empty.observeAll ((view (e.converge owner (.ok objects)
          (Pass.observe .reconciliation r).2).2.world).workloads owner) :=
    fun health hhealth => afterSync_eq_ok he hhealth
  unfold reconcile at h ⊢
  rw [if_neg hmanaged, run_bind, run_bind, run_bind] at h ⊢
  generalize e.converge owner (.ok objects) (Pass.observe .reconciliation r).2 = converged
    at h hsampled ⊢
  obtain ⟨result, r'⟩ := converged
  cases result with
  | error cause => cases h
  | ok health =>
    obtain ⟨hreport, hhealth⟩ := hsampled health rfl
    have hkept : view (e.conclude clock owner (.ok health)
        (Pass.observe (.duration clock.elapsedMillis) r').2).2.world = view r'.world :=
      keeps_conclude (P := (· = view r'.world)) he owner clock (.ok health) _ rfl
    refine ⟨hreport, ?_⟩
    rw [hkept, ← hhealth]

end Engine

end Sample

/-! ## 3. What the sync leaves behind -/

/-- The object has all labels of a desired one, and wants as many replicas. -/
structure ManagedObject.Carries (o desired : ManagedObject) : Prop where
  labelled : ∀ selector : LabelSelector, selector.selects desired.metadata.labels = true →
    selector.selects o.metadata.labels = true
  wanted : o.wanted = desired.wanted

theorem ManagedObject.wanted_withMetadata (m : ObjectMeta) (o : ManagedObject) :
    (o.withMetadata m).wanted = o.wanted := by cases o <;> rfl

/-- Only the labels of the metadata count. -/
theorem ManagedObject.Carries.withMetadata {o desired : ManagedObject} (h : o.Carries desired)
    {m : ObjectMeta} (hm : m.labels = o.metadata.labels) : (o.withMetadata m).Carries desired := by
  refine ⟨fun selector hs => ?_, ?_⟩
  · rw [metadata_withMetadata, hm]
    exact h.labelled selector hs
  · rw [wanted_withMetadata]
    exact h.wanted

theorem ManagedObject.carries_attach (o : ManagedObject) (owner? : Option OwnerReference) :
    (o.attach owner?).Carries o := by
  have hself : o.Carries o := ⟨fun _ h => h, rfl⟩
  unfold attach
  cases owner? with
  | none => exact hself
  | some owner =>
    dsimp only
    split
    · exact hself.withMetadata rfl
    · exact hself

/-- A merged object wants the desired number of replicas. -/
theorem MergesTo.wanted {existing desired merged : ManagedObject}
    (h : MergesTo existing desired merged) : merged.wanted = desired.wanted := by
  cases h with
  | @deployment e d m h =>
    obtain ⟨_, _, _, _, rfl⟩ := Deployment.merge_eq_ok_iff.1 h
    cases hs : d.spec <;> simp [ManagedObject.wanted, hs, DeploymentSpec.empty]
  | @statefulSet e d m h =>
    obtain ⟨_, _, _, _, _, rfl⟩ := StatefulSet.merge_eq_ok_iff.1 h
    have hreplicas : (e.wanted d).replicas = (d.spec.getD .empty).replicas := by
      unfold StatefulSet.wanted
      dsimp only
      split <;> rfl
    cases hs : d.spec <;>
      simp [ManagedObject.wanted, hreplicas, hs, StatefulSetSpec.empty]
  | _ => rfl

theorem Registry.carries_mutate {r : Registry} {existing desired merged : ManagedObject}
    (h : r.mutate existing desired = .ok merged) : merged.Carries desired := by
  obtain ⟨-, -, hm⟩ := mutate_eq_ok_iff.1 h
  refine ⟨fun selector hs => ?_, hm.wanted⟩
  rw [metadata_mutate h]
  exact LabelSelector.selects_mergeLabels hs

theorem ManagedObject.Carries.trans {a b c : ManagedObject} (h : a.Carries b) (h' : b.Carries c) :
    a.Carries c :=
  ⟨fun selector hs => h.labelled selector (h'.labelled selector hs), h.wanted.trans h'.wanted⟩

theorem ManagedObject.carries_of_same {a b : ManagedObject} (h : a.same b = true) :
    b.Carries a := by
  refine ⟨fun selector hs => metadata_of_same h ▸ hs, ?_⟩
  unfold same at h
  split at h
  case h_12 => rfl
  case h_13 => cases h
  all_goals rw [of_decide_eq_true h]

/-- **A step that succeeds leaves the object as it was desired**, unless it deletes it. -/
theorem SyncStepOk.establishes {registry : Registry} {owner? : Option OwnerReference}
    {object : ManagedObject} {m m' : Memory} {record : ObjectRecord}
    (h : SyncStepOk registry owner? object m record m') :
    record.outcome = .recreating ∨
      ∃ stored, m'.objects.get? object.identity = some stored ∧ stored.Carries object := by
  have hattached := object.carries_attach owner?
  cases h with
  | created =>
    exact .inr ⟨_, m.get?_created (object.identity_attach owner?), hattached.withMetadata rfl⟩
  | recreating => exact .inl rfl
  | unchanged hg hm hs =>
    exact .inr ⟨_, hg, (ManagedObject.carries_of_same hs).trans
      ((Registry.carries_mutate hm).trans hattached)⟩
  | updated _ hm _ hid =>
    exact .inr ⟨_, m.get?_updated _ hid,
      ((Registry.carries_mutate hm).trans hattached).withMetadata rfl⟩

/-! ## 4. The law -/

/-- A pass that computes Ready has sampled health that is ready. -/
theorem PassOutcome.ready_of_clean {health : StackHealth} {existing : List Condition}
    {now : Instant} {c : Condition}
    (h : findCondition ((clean health).conditions existing now) .ready = some c)
    (ht : c.isTrue = true) : health.readyCondition.isTrue = true := by
  have hdegraded : health.degradedCondition.type ≠ ConditionType.ready.name := by
    rw [health.type_degradedCondition]
    decide
  obtain ⟨c', hc', hstatus⟩ :=
    findCondition_updateCondition_self existing now health.type_readyCondition
  have hfound : findCondition ((clean health).conditions existing now) .ready = some c' :=
    (findCondition_updateCondition_of_ne _ now hdegraded).trans hc'
  obtain rfl : c' = c := Option.some.inj (hfound.symm.trans h)
  unfold Condition.isTrue at ht ⊢
  rwa [← hstatus]

/-- Pruning leaves workloads alone. -/
theorem FeatureGates.not_workload_of_mem_prunableKinds {g : FeatureGates} {kind : Kind}
    (h : kind ∈ g.prunableKinds) : kind ≠ .deployment ∧ kind ≠ .statefulSet := by
  have hall : g.prunableKinds.all (fun k => k ≠ .deployment ∧ k ≠ .statefulSet) = true := by
    obtain ⟨prometheus, routes, grafana⟩ := g
    cases prometheus <;> cases routes <;> cases grafana <;> decide
  exact of_decide_eq_true (List.all_eq_true.1 hall kind h)

/-- A workload is there as it was desired. If the sums of its component fit, the component has as
many replicas ready as are wanted of the workloads in it; so the workload is ready itself, or
another one has replicas to spare. -/
structure Memory.RunsReady (m : Memory) (owner : Owner) (desired stored : ManagedObject) : Prop
    where
  found : m.objects.get? desired.identity = some stored
  sampled : stored ∈ m.workloads owner
  wanted : stored.wanted = desired.wanted
  component : StackHealth.Fits (m.workloads owner) stored.component →
    StackHealth.wantedIn (m.workloads owner) stored.component ≤
      StackHealth.runningIn (m.workloads owner) stored.component
  ready : StackHealth.Fits (m.workloads owner) stored.component →
    desired.wanted ≤ stored.running ∨
      ∃ other ∈ m.workloads owner, other.identity ≠ desired.identity ∧
        other.component = stored.component ∧ other.wanted < other.running

/-- A workload that is sampled as it was desired is in a component that is ready. -/
theorem Memory.RunsReady.of_ready {m : Memory} {owner : Owner} {desired stored : ManagedObject}
    (hready : (StackHealth.empty.observeAll (m.workloads owner)).readyCondition.isTrue = true)
    (hg : m.objects.get? desired.identity = some stored) (hs : stored ∈ m.workloads owner)
    (hc : stored.Carries desired) : m.RunsReady owner desired stored := by
  have hsum : StackHealth.Fits (m.workloads owner) stored.component →
      StackHealth.wantedIn (m.workloads owner) stored.component ≤
        StackHealth.runningIn (m.workloads owner) stored.component :=
    fun hf => (StackHealth.sums_observeAll (m.workloads owner)).wantedIn_le_runningIn hready hf
  refine ⟨hg, hs, hc.wanted, hsum, fun hf => ?_⟩
  rw [← hc.wanted]
  by_cases hle : stored.wanted ≤ stored.running
  · exact .inl hle
  · have hmember : stored ∈ StackHealth.members (m.workloads owner) stored.component :=
      StackHealth.mem_members.2 ⟨hs, (mem_workloads.1 hs).2.1, rfl⟩
    obtain ⟨other, hother, hspare⟩ :=
      StackHealth.exists_surplus (hsum hf) hmember (Int.not_le.1 hle)
    obtain ⟨hfound, -, hcomponent⟩ := StackHealth.mem_members.1 hother
    refine .inr ⟨other, hfound, fun hid => ?_, hcomponent, hspare⟩
    -- an identity stands for one object, which cannot both lack and spare replicas
    have hget := (mem_workloads.1 hfound).1
    rw [hid, hg] at hget
    obtain rfl := Option.some.inj hget
    omega

/-- A workload that carries what was desired in the namespace of an owner is among its workloads, if
no other resource controls it. -/
theorem ManagedObject.Carries.mem_workloads {m : Memory} {owner : Owner}
    {stored desired : ManagedObject} (hc : stored.Carries desired)
    (hg : m.objects.get? desired.identity = some stored) (hworkload : desired.IsWorkload)
    (hlabels : owner.selector.selects desired.metadata.labels = true)
    (hns : desired.metadata.namespace? = owner.metadata.namespace?)
    (hcontrols : owner.controls stored = true) : stored ∈ m.workloads owner := by
  have hid : stored.identity = desired.identity := Memory.identity_of_get hg
  have hkind : stored.kind = desired.kind := congrArg ObjectIdentity.kind hid
  refine Memory.mem_workloads.2 ⟨hid ▸ hg, hkind ▸ hworkload, ?_, hc.labelled _ hlabels, hcontrols⟩
  rw [hid, Memory.inNamespace_iff]
  intro n hn n' hn'
  have hids : desired.identity.namespace? = owner.metadata.namespace? := by
    show (if desired.kind.isNamespaced then desired.metadata.namespace? else none) = _
    rw [if_pos hworkload.isNamespaced, hns]
  rw [hids, hn] at hn'
  exact Option.some.inj hn'

/-- Nothing in a pass writes a workload after the sync. -/
theorem Engine.workload_of_sync {σ : Type} {e : Engine σ} {view : σ → Memory} (he : e.OnMemory view)
    (clock : Clock) {owner : Owner} (hmanaged : owner.managementState ≠ .unmanaged)
    {desired : List ManagedObject} {r : Run σ} {o stored : ManagedObject} (hworkload : o.IsWorkload)
    (h : (view (e.sync owner desired (Pass.observe .reconciliation r).2).2.world).objects.get?
      o.identity = some stored) :
    (view (e.reconcile clock owner (.ok desired) r).2.world).objects.get? o.identity =
      some stored := by
  refine reconcile_of_sync (P := fun m => m.objects.get? o.identity = some stored) he owner
    (fun _ x _ _ hkind _ m hm => ?_) clock hmanaged h
  have hne : x.identity ≠ o.identity := by
    intro heq
    obtain ⟨hd, hs⟩ := FeatureGates.not_workload_of_mem_prunableKinds hkind
    have hkinds : x.kind = o.kind := congrArg ObjectIdentity.kind heq
    rcases hworkload with h | h
    · exact hd (hkinds.trans h)
    · exact hs (hkinds.trans h)
  exact (Memory.Spares.delete m hne).object.trans hm

/-- A step that succeeds on a namespaced object leaves no other resource in control of it. -/
theorem SyncStepOk.controls {owner : Owner} {reference : OwnerReference}
    (hreference : owner.reference? = some reference) {registry : Registry} {object : ManagedObject}
    {m m' : Memory} {record : ObjectRecord}
    (h : SyncStepOk registry owner.reference? object m record m')
    (hnamespaced : object.kind.isNamespaced = true) {stored : ManagedObject}
    (hg : m'.objects.get? object.identity = some stored) : owner.controls stored = true := by
  obtain ⟨hcontroller, huid⟩ := Owner.reference?_eq_some hreference
  rw [hreference] at h
  refine Owner.controls_iff.2 fun uid hu => ?_
  obtain rfl := Option.some.inj ((h.protects hcontroller hnamespaced stored hg).symm.trans hu)
  exact huid

/-- **Ready is sound.** For every store, every managed owner with a name, a uid and a namespace, and
every list of desired objects of which no two have one identity, whose workloads carry the owner's
labels and namespace: if the pass succeeds and the conditions it computes say Ready, then the status
of the owner was refreshed with these conditions, and every desired workload that the pass has not
just deleted to make it anew is in the store at the end and wants the desired number of replicas. If
the replicas of its component add up to numbers of 32 bits, the component has as many ready as are
wanted of the owner's workloads in it, and the workload is ready itself, unless another one of the
component has replicas to spare. -/
theorem Engine.ready_sound {σ : Type} {e : Engine σ} {view : σ → Memory} (he : e.OnMemory view)
    (clock : Clock) {owner : Owner} (hmanaged : owner.managementState ≠ .unmanaged)
    {reference : OwnerReference} (hreference : owner.reference? = some reference) {ns : String}
    (hns : owner.metadata.namespace? = some ns) {desired : List ManagedObject}
    (hn : (desired.map (·.identity)).Nodup)
    (hl : ∀ o ∈ desired, o.IsWorkload →
      owner.selector.selects o.metadata.labels = true ∧ o.metadata.namespace? = some ns)
    {r : Run σ} {action : Action}
    (hok : (e.reconcile clock owner (.ok desired) r).1 = .ok action) {c : Condition}
    (hc : findCondition (e.computed clock owner (.ok desired) r) .ready = some c)
    (ht : c.isTrue = true) :
    (∃ before written, let refreshed :=
        e.refreshStatus owner (e.computed clock owner (.ok desired) r) before
      refreshed.1 = .ok written ∧
        (e.reconcile clock owner (.ok desired) r).2.world = refreshed.2.world) ∧
    ∃ report, (e.sync owner desired (Pass.observe .reconciliation r).2).1 = .ok report ∧
      ∀ o ∈ desired, o.IsWorkload →
        (∃ record ∈ report.records, record.identity = o.identity ∧
          record.outcome = .recreating) ∨
        ∃ stored, (view (e.reconcile clock owner (.ok desired) r).2.world).RunsReady owner o
          stored := by
  obtain ⟨⟨report, hreport⟩, hhealth⟩ := health_of_reconcile he hmanaged hok
  obtain ⟨before, hworld, hwritten⟩ := e.reconcile_refreshes clock hmanaged (.ok desired) r
  obtain ⟨written, hwritten⟩ := hwritten action hok
  refine ⟨⟨before, written, hwritten, hworld⟩, report, hreport, fun o ho hworkload => ?_⟩
  unfold computed at hc
  rw [hhealth] at hc
  have hready := PassOutcome.ready_of_clean hc ht
  obtain ⟨hlabels, hnamespace⟩ := hl o ho hworkload
  obtain ⟨record, hrecord⟩ := (sync_steps he hreport).records_of_mem hn ho
  obtain ⟨before, after, hstep, -, hspared⟩ := hrecord.isolated
  rcases hstep.of_ok.establishes with hremade | ⟨stored, hstored, hcarries⟩
  · exact .inl ⟨record, hrecord.recorded, hstep.identity_of_ok, hremade⟩
  · have hcontrols := hstep.of_ok.controls hreference hworkload.isNamespaced hstored
    have hend := workload_of_sync he clock hmanaged hworkload (hspared.object.trans hstored)
    have hsampled := hcarries.mem_workloads hend hworkload hlabels (hnamespace.trans hns.symm)
      hcontrols
    exact .inr ⟨stored, Memory.RunsReady.of_ready hready hend hsampled hcarries⟩

/-! ## 5. Two passes -/

/-- A deployment of the queriers of a stack, with so many replicas ready. -/
def ManagedObject.querier (name : String) (ready : Option Int32) : ManagedObject :=
  .deployment
    { metadata :=
        { (sample (.sample "one" "a") name).metadata with
          labels := (sample (.sample "one" "a") name).metadata.labels.map
            (·.insert Label.component "querier") }
      spec := none
      status := some ⟨none, ready⟩ }

/-- A stateful set of a stack that selects pods of a name. -/
def ManagedObject.ingester (pods : String) : ManagedObject :=
  .statefulSet
    { metadata := (sample (.sample "one" "a") "ingester").metadata
      spec := some
        { StatefulSetSpec.empty with selector := ⟨some (.ofList [("name", pods)]), none⟩ }
      status := none }

/-- A pass of the stack. -/
def Engine.passOfSample (desired : List ManagedObject) :
    Pass Memory (Except ReconcileError Action) :=
  (overMemory .standard .default).reconcile ⟨⟨0, 0⟩, 0⟩ (.sample "one" "a") (.ok desired)

/-- The conditions that the pass computes. -/
def Engine.computedOfSample (desired : List ManagedObject) (m : Memory) : List Condition :=
  (overMemory .standard .default).computed ⟨⟨0, 0⟩, 0⟩ (.sample "one" "a") (.ok desired) (.start m)

/-- A deployment of the queriers of a stack that wants so many replicas, of which none is ready. -/
def ManagedObject.crowd (name : String) (replicas : Int32) : ManagedObject :=
  .deployment
    { metadata := (querier name none).metadata
      spec := some { DeploymentSpec.empty with replicas := some replicas }
      status := none }

/-- A deployment with its replica ready makes a stack ready. -/
theorem Engine.ready_sound_querier :
    let desired := [ManagedObject.querier "web" (some 1)]
    let after := (passOfSample desired (.start (.empty ⟨0, 0⟩))).2.world
    (Owner.sample "one" "a").managementState ≠ .unmanaged ∧
      (Owner.sample "one" "a").reference?.isSome = true ∧
      (desired.map (·.identity)).Nodup ∧
      (∀ o ∈ desired, (Owner.sample "one" "a").selector.selects o.metadata.labels = true ∧
        o.metadata.namespace? = some "tracing") ∧
      (passOfSample desired (.start (.empty ⟨0, 0⟩))).1.toOption.isSome = true ∧
      ((findCondition (computedOfSample desired (.empty ⟨0, 0⟩)) .ready).any (·.isTrue)) = true ∧
      ∃ stored, after.RunsReady (.sample "one" "a") (.querier "web" (some 1)) stored ∧
        StackHealth.Fits (after.workloads (.sample "one" "a")) stored.component := by
  intro desired after
  have hmanaged : (Owner.sample "one" "a").managementState ≠ .unmanaged := by decide
  have hn : (desired.map (·.identity)).Nodup := by decide
  have hl : ∀ o ∈ desired, (Owner.sample "one" "a").selector.selects o.metadata.labels = true ∧
      o.metadata.namespace? = some "tracing" := by
    intro o ho
    rw [List.mem_singleton.1 ho]
    decide
  have hpass : (passOfSample desired (.start (.empty ⟨0, 0⟩))).1.toOption.isSome = true := by
    decide
  have hready : ((findCondition (computedOfSample desired (.empty ⟨0, 0⟩)) .ready).any
      (·.isTrue)) = true := by decide
  have houtcomes : ((overMemory .standard .default).sync (.sample "one" "a") desired
      (Pass.observe .reconciliation (.start (.empty ⟨0, 0⟩))).2).1.toOption.map
        (fun report => report.records.map (·.outcome)) = some [.created] := by decide
  have hcomponent : (after.objects.get? (ManagedObject.querier "web" (some 1)).identity).map
      (·.component) = some "querier" := by decide
  refine ⟨hmanaged, by decide, hn, hl, hpass, hready, ?_⟩
  obtain ⟨action, hok⟩ : ∃ action,
      (passOfSample desired (.start (.empty ⟨0, 0⟩))).1 = .ok action := ⟨_, by rfl⟩
  obtain ⟨c, hc, ht⟩ := (Option.any_eq_true _ _).1 hready
  obtain ⟨-, report, hreport, hall⟩ := ready_sound (onMemory_overMemory .standard .default)
    ⟨⟨0, 0⟩, 0⟩ hmanaged rfl rfl hn (fun o ho _ => hl o ho) hok hc ht
  rcases hall _ List.mem_cons_self (.inl rfl) with ⟨record, hrecord, -, hremade⟩ | ⟨stored, hruns⟩
  · rw [hreport] at houtcomes
    have hcreated : report.records.map (·.outcome) = [.created] := Option.some.inj houtcomes
    have hmem : record.outcome ∈ report.records.map (·.outcome) := List.mem_map_of_mem hrecord
    rw [hcreated, hremade] at hmem
    cases List.mem_singleton.1 hmem
  · have hfound : after.objects.get? (ManagedObject.querier "web" (some 1)).identity =
        some stored := hruns.found
    rw [hfound] at hcomponent
    refine ⟨stored, hruns, ?_⟩
    rw [show stored.component = "querier" from Option.some.inj hcomponent]
    decide

/-- A stack is ready although one of its workloads was just deleted and of another no replica is
ready; and although none is ready of three whose replicas add up to 2³². -/
theorem Engine.ready_without :
    let desired := [ManagedObject.ingester "new", .querier "idle" none]
    let before :=
      (((Memory.empty ⟨0, 0⟩).insert (.querier "old" (some 2))).2.insert (.ingester "old")).2
    let after := (passOfSample desired (.start before)).2.world
    let crowds := [ManagedObject.crowd "one" 2147483647, .crowd "two" 2147483647, .crowd "three" 2]
    let crowded := (passOfSample crowds (.start (.empty ⟨0, 0⟩))).2.world
    (Owner.sample "one" "a").managementState ≠ .unmanaged ∧
      (Owner.sample "one" "a").reference?.isSome = true ∧
      (desired.map (·.identity)).Nodup ∧ (crowds.map (·.identity)).Nodup ∧
      (∀ o ∈ desired ++ crowds,
        (Owner.sample "one" "a").selector.selects o.metadata.labels = true ∧
          o.metadata.namespace? = some "tracing") ∧
      (passOfSample desired (.start before)).1.toOption.isSome = true ∧
      ((findCondition (computedOfSample desired before) .ready).any (·.isTrue)) = true ∧
      (after.objects.get? (ManagedObject.ingester "new").identity).isNone = true ∧
      ((after.objects.get? (ManagedObject.querier "idle" none).identity).map
        fun o => (o.wanted, o.running)) = some (1, 0) ∧
      (passOfSample crowds (.start (.empty ⟨0, 0⟩))).1.toOption.isSome = true ∧
      ((findCondition (computedOfSample crowds (.empty ⟨0, 0⟩)) .ready).any (·.isTrue)) = true ∧
      ((crowded.objects.get? (ManagedObject.crowd "one" 2147483647).identity).map
        fun o => (o.wanted, o.running)) = some (2147483647, 0) := by
  decide

end Reconciliation
