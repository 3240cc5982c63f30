import Mathlib.Algebra.BigOperators.Group.List.Basic
import Mathlib.Algebra.Ring.Int.Defs
import Mathlib.Data.String.Basic
import Reconciliation.Proofs.Pass.Readiness

/-!
# Health, sampled exactly

Health is sampled from two listings, of deployments and of stateful sets, and every workload found
is added to its component. So the sample depends on neither the order of the listings nor the way in
which the workloads are spread over them, and what it says depends on the sums alone.

* `StackHealth.observeAll_perm` -- the order in which workloads are observed does not matter;
* `StackHealth.Names` -- the names of the components with a property;
* `StackHealth.Judged` -- what the two conditions say; `StackHealth.judged` -- and they do;
* `Owner.Counts` -- the objects that count for an owner; `Memory.workloads_perm` -- they are what is
  listed;
* **`sampleHealth_exact`** -- the sample of a store and what its conditions say.
-/

namespace Reconciliation

/-! ## 1. Order -/

namespace StackHealth

theorem members_perm {objects others : List ManagedObject} (h : objects.Perm others)
    (component : String) : (members objects component).Perm (members others component) :=
  h.filter _

theorem wantedIn_perm {objects others : List ManagedObject} (h : objects.Perm others)
    (component : String) : wantedIn objects component = wantedIn others component :=
  ((members_perm h component).map _).sum_eq

theorem runningIn_perm {objects others : List ManagedObject} (h : objects.Perm others)
    (component : String) : runningIn objects component = runningIn others component :=
  ((members_perm h component).map _).sum_eq

theorem Sums.perm {h : StackHealth} {objects others : List ManagedObject}
    (hs : h.Sums objects) (hp : objects.Perm others) : h.Sums others := by
  intro component
  rw [hs component, wantedIn_perm hp, runningIn_perm hp]
  refine if_congr ?_ rfl rfl
  rw [← List.length_eq_zero_iff, ← List.length_eq_zero_iff, (members_perm hp component).length_eq]

theorem Sums.unique {h h' : StackHealth} {objects : List ManagedObject} (hs : h.Sums objects)
    (hs' : h'.Sums objects) : h = h' := by
  cases h
  cases h'
  exact congrArg mk (Dict.ext_get? fun component => (hs component).trans (hs' component).symm)

/-- **Objects may be observed in any order.** -/
theorem observeAll_perm {objects others : List ManagedObject} (h : objects.Perm others) :
    empty.observeAll objects = empty.observeAll others :=
  ((sums_observeAll objects).perm h).unique (sums_observeAll others)

/-! ## 2. Conditions -/

/-- The names are those of the components with a property, ascending. -/
structure Names (h : StackHealth) (p : ComponentHealth → Prop) (names : List String) : Prop where
  mem_iff : ∀ name, name ∈ names ↔ ∃ c, h.components.get? name = some c ∧ p c
  ascending : names.Pairwise (· < ·)

theorem names_named (h : StackHealth) {p : ComponentHealth → Prop}
    {decided : ComponentHealth → Bool} (hp : ∀ c, decided c = true ↔ p c) :
    h.Names p (h.named decided) := by
  refine ⟨fun name => ?_, ?_⟩
  · unfold named
    constructor
    · intro hname
      obtain ⟨entry, hentry, rfl⟩ := List.mem_map.1 hname
      obtain ⟨hmem, hdecided⟩ := List.mem_filter.1 hentry
      exact ⟨entry.2, h.components.ascending.lookup_of_mem hmem, (hp _).1 hdecided⟩
    · intro hname
      obtain ⟨c, hc, hpc⟩ := hname
      exact List.mem_map.2
        ⟨(name, c), List.mem_filter.2 ⟨Entries.mem_of_lookup hc, (hp c).2 hpc⟩, rfl⟩
  · have hentries : (h.components.entries.filter fun e => decided e.2).Pairwise
        fun a b => compare a.1 b.1 = .lt := h.components.ascending.sublist List.filter_sublist
    exact List.pairwise_map.2 (hentries.imp fun hlt => compare_lt_iff_lt.1 hlt)

theorem Names.eq_nil_iff {h : StackHealth} {p : ComponentHealth → Prop} {names : List String}
    (hn : h.Names p names) :
    names = [] ↔ ∀ name c, h.components.get? name = some c → ¬ p c := by
  rw [List.eq_nil_iff_forall_not_mem]
  constructor
  · intro hnone name c hc hpc
    exact hnone name ((hn.mem_iff name).2 ⟨c, hc, hpc⟩)
  · intro hnone name hname
    obtain ⟨c, hc, hpc⟩ := (hn.mem_iff name).1 hname
    exact hnone name c hc hpc

/-- What the conditions of a health say: Ready if there are components and all have as many replicas
ready as desired, Degraded if one has some but fewer, and never both; the messages name the
components in question. -/
structure Judged (h : StackHealth) : Prop where
  ready_iff : h.readyCondition.isTrue = true ↔
    (∃ name c, h.components.get? name = some c) ∧
      ∀ name c, h.components.get? name = some c → c.desired ≤ c.ready
  degraded_iff : h.degradedCondition.isTrue = true ↔
    ∃ name c, h.components.get? name = some c ∧ 0 < c.ready ∧ c.ready < c.desired
  exclusive : ¬ (h.readyCondition.isTrue = true ∧ h.degradedCondition.isTrue = true)
  pending : ∃ names, h.Names (fun c => c.ready < c.desired) names ∧ h.readyCondition =
    if h.components = .empty then
      .observed .ready false "PendingComponents" "no components found"
    else if names = [] then .observed .ready true "Ready" "All components are operational"
    else
      .observed .ready false "PendingComponents"
        ("components not ready: " ++ ", ".intercalate names)
  degraded : ∃ names, h.Names (fun c => 0 < c.ready ∧ c.ready < c.desired) names ∧
    h.degradedCondition =
      if names = [] then .observed .degraded false "NoDegradedComponents" ""
      else
        .observed .degraded true "Degraded"
          ("components running below desired replicas: " ++ ", ".intercalate names)

theorem names_pending (h : StackHealth) :
    h.Names (fun c => c.ready < c.desired) h.pending :=
  h.names_named fun c => by simp [ComponentHealth.isReady]

theorem names_degraded (h : StackHealth) :
    h.Names (fun c => 0 < c.ready ∧ c.ready < c.desired) h.degraded :=
  h.names_named fun c => by simp [ComponentHealth.isDegraded]

theorem components_isEmpty_iff (h : StackHealth) :
    h.components.isEmpty = true ↔ h.components = .empty := by
  unfold Dict.isEmpty
  rw [List.isEmpty_iff]
  exact ⟨fun h => Dict.ext h, congrArg Dict.entries⟩

theorem components_ne_empty_iff (h : StackHealth) :
    h.components ≠ .empty ↔ ∃ name c, h.components.get? name = some c := by
  constructor
  · intro hne
    obtain ⟨entry, hmem⟩ := List.exists_mem_of_ne_nil _ fun hnil => hne (Dict.ext hnil)
    exact ⟨entry.1, entry.2, h.components.ascending.lookup_of_mem hmem⟩
  · rintro ⟨name, c, hc⟩ hempty
    rw [hempty] at hc
    cases hc

theorem readyCondition_eq (h : StackHealth) : h.readyCondition =
    if h.components = .empty then
      .observed .ready false "PendingComponents" "no components found"
    else if h.pending = [] then .observed .ready true "Ready" "All components are operational"
    else
      .observed .ready false "PendingComponents"
        ("components not ready: " ++ ", ".intercalate h.pending) := by
  unfold readyCondition
  simp only [components_isEmpty_iff, List.isEmpty_iff]

theorem degradedCondition_eq (h : StackHealth) : h.degradedCondition =
    if h.degraded = [] then .observed .degraded false "NoDegradedComponents" ""
    else
      .observed .degraded true "Degraded"
        ("components running below desired replicas: " ++ ", ".intercalate h.degraded) := by
  unfold degradedCondition
  simp only [List.isEmpty_iff]

theorem readyCondition_isTrue_iff (h : StackHealth) :
    h.readyCondition.isTrue = true ↔ h.components ≠ .empty ∧ h.pending = [] := by
  rw [readyCondition_eq]
  split
  · simp [*, Condition.isTrue, Condition.observed, ConditionStatus.ofBool]
  · split <;> simp [*, Condition.isTrue, Condition.observed, ConditionStatus.ofBool]

theorem degradedCondition_isTrue_iff (h : StackHealth) :
    h.degradedCondition.isTrue = true ↔ h.degraded ≠ [] := by
  rw [degradedCondition_eq]
  split <;> simp [*, Condition.isTrue, Condition.observed, ConditionStatus.ofBool]

/-- **The conditions are judged by the sums alone.** -/
theorem judged (h : StackHealth) : h.Judged := by
  have hready : h.readyCondition.isTrue = true ↔
      (∃ name c, h.components.get? name = some c) ∧
        ∀ name c, h.components.get? name = some c → c.desired ≤ c.ready := by
    rw [readyCondition_isTrue_iff, components_ne_empty_iff, h.names_pending.eq_nil_iff]
    simp only [Int32.not_lt]
  have hdegraded : h.degradedCondition.isTrue = true ↔
      ∃ name c, h.components.get? name = some c ∧ 0 < c.ready ∧ c.ready < c.desired := by
    rw [degradedCondition_isTrue_iff, ne_eq, h.names_degraded.eq_nil_iff]
    simp only [not_forall, not_not, exists_prop]
  refine ⟨hready, hdegraded, fun both => ?_, ⟨_, h.names_pending, h.readyCondition_eq⟩,
    ⟨_, h.names_degraded, h.degradedCondition_eq⟩⟩
  obtain ⟨name, c, hc, -, hlack⟩ := hdegraded.1 both.2
  exact absurd ((hready.1 both.1).2 name c hc) (Int32.not_le.2 hlack)

end StackHealth

/-! ## 3. Stores -/

/-- The object counts for an owner: it runs replicas, carries the labels of the owner and lives in
its namespace, unless one of the two names none, and no other resource controls it. -/
structure Owner.Counts (owner : Owner) (o : ManagedObject) : Prop where
  workload : o.IsWorkload
  application : o.metadata.label? Label.application = some owner.kind.application
  instanceOf : o.metadata.label? Label.owner = some owner.name
  manager : o.metadata.label? Label.managedBy = some Label.manager
  sameNamespace : ∀ ns ∈ owner.metadata.namespace?, ∀ ns' ∈ o.metadata.namespace?, ns = ns'
  controller : ∀ uid ∈ o.controllerUid?, owner.metadata.uid = some uid

theorem ManagedObject.IsWorkload.namespace?_identity {o : ManagedObject} (h : o.IsWorkload) :
    o.identity.namespace? = o.metadata.namespace? := if_pos h.isNamespaced

theorem Owner.counts_iff {owner : Owner} {o : ManagedObject} :
    owner.Counts o ↔ (o.kind = .deployment ∨ o.kind = .statefulSet) ∧
      Memory.inNamespace owner.metadata.namespace? o.identity = true ∧
      owner.selector.selects o.metadata.labels = true ∧ owner.controls o = true := by
  rw [Owner.controls_iff, Memory.inNamespace_iff]
  show _ ↔ _ ∧ _ ∧ (LabelSelector.forOwner _ _).selects _ = true ∧ _
  rw [LabelSelector.selects_forOwner_iff]
  constructor
  · intro h
    have hns := h.sameNamespace
    rw [← h.workload.namespace?_identity] at hns
    exact ⟨h.workload, hns, ⟨h.application, h.instanceOf, h.manager⟩, h.controller⟩
  · intro h
    obtain ⟨hworkload, hns, ⟨ha, ho, hm⟩, hc⟩ := h
    rw [ManagedObject.IsWorkload.namespace?_identity hworkload] at hns
    exact ⟨hworkload, ha, ho, hm, hns, hc⟩

instance (owner : Owner) (o : ManagedObject) : Decidable (owner.Counts o) :=
  decidable_of_iff _ Owner.counts_iff.symm

namespace Memory

/-- The objects of the store that count for an owner. -/
def counted (m : Memory) (owner : Owner) : List ManagedObject :=
  m.objects.values.filter fun o => owner.Counts o

theorem mem_values {m : Memory} {o : ManagedObject} :
    o ∈ m.objects.values ↔ m.objects.get? o.identity = some o := by
  constructor
  · intro h
    obtain ⟨entry, hentry, rfl⟩ := List.mem_map.1 h
    rw [m.keyed entry hentry]
    exact m.objects.ascending.lookup_of_mem hentry
  · intro h
    exact List.mem_map.2 ⟨_, Entries.mem_of_lookup h, rfl⟩

/-- No two objects of a store are the same. -/
theorem nodup_values (m : Memory) : m.objects.values.Nodup := by
  refine List.Nodup.of_map ManagedObject.identity ?_
  have hkeys : m.objects.values.map (·.identity) = m.objects.keys := by
    unfold Dict.values Dict.keys
    rw [List.map_map]
    exact List.map_congr_left m.keyed
  rw [hkeys]
  exact m.objects.ascending.nodup_keys

theorem nodup_workloads (m : Memory) (owner : Owner) : (m.workloads owner).Nodup := by
  have hlisting : ∀ kind, ((m.objects.entries.filter
      (listed kind owner.metadata.namespace? owner.selector)).map (·.2)).Nodup := fun kind =>
    m.nodup_values.sublist (List.filter_sublist.map _)
  refine (List.Nodup.append (hlisting _) (hlisting _) fun o ho ho' => ?_).filter _
  have hkind : ∀ kind, o ∈ (m.objects.entries.filter
      (listed kind owner.metadata.namespace? owner.selector)).map (·.2) → o.kind = kind := by
    intro kind h
    obtain ⟨entry, hentry, rfl⟩ := List.mem_map.1 h
    obtain ⟨hmem, hl⟩ := List.mem_filter.1 hentry
    simp only [listed, Bool.and_eq_true, beq_iff_eq, ← m.keyed entry hmem] at hl
    exact hl.1.1
  exact absurd ((hkind _ ho).symm.trans (hkind _ ho')) (by decide)

/-- The two listings together find each of them once. -/
theorem workloads_perm (m : Memory) (owner : Owner) :
    (m.workloads owner).Perm (m.counted owner) := by
  refine (List.perm_ext_iff_of_nodup (m.nodup_workloads owner) (m.nodup_values.filter _)).2
    fun o => ?_
  rw [mem_workloads, List.mem_filter, mem_values, decide_eq_true_iff, Owner.counts_iff]

end Memory

theorem sampleHealth_memory {m : Memory} (hd : m.listFailure? .deployment = none)
    (hs : m.listFailure? .statefulSet = none) (owner : Owner) :
    sampleHealth Memory.store owner m =
      (.ok (StackHealth.empty.observeAll (m.workloads owner)), m) := by
  have hlist : ∀ kind, m.listFailure? kind = none →
      Memory.store.list kind owner.metadata.namespace? owner.selector m =
        (.ok ((m.objects.entries.filter
          (Memory.listed kind owner.metadata.namespace? owner.selector)).map (·.2)), m) := by
    intro kind h
    show (m.list kind _ _, m) = _
    rw [Memory.list_eq, h]
  unfold sampleHealth
  rw [run_bind, hlist _ hd]
  dsimp only
  rw [run_bind, hlist _ hs]
  rfl

/-- **A sample is exact.** For every store and every owner, if listing deployments and stateful sets
does not fail: the sample has, for every component, the sums of the replicas wanted and ready over
exactly the objects of the store that count for the owner, a workload without component label being
a component of its own name; the sums wrap around, and are the exact ones if these are numbers of 32
bits; the sample changes nothing; and these objects give the same sample in any order. And of every
health, sampled or not, the two conditions say what the sums say. -/
theorem sampleHealth_exact :
    (∀ (m : Memory) (owner : Owner), m.listFailure? .deployment = none →
      m.listFailure? .statefulSet = none →
      ∃ health : StackHealth, sampleHealth Memory.store owner m = (.ok health, m) ∧
        health.Sums (m.counted owner) ∧
        (∀ component c, health.components.get? component = some c →
          StackHealth.Fits (m.counted owner) component →
          c.desired.toInt = StackHealth.wantedIn (m.counted owner) component ∧
            c.ready.toInt = StackHealth.runningIn (m.counted owner) component) ∧
        ∀ workloads, workloads.Perm (m.counted owner) →
          StackHealth.empty.observeAll workloads = health) ∧
      ∀ health : StackHealth, health.Judged := by
  refine ⟨fun m owner hd hs => ?_, StackHealth.judged⟩
  have hsums := (StackHealth.sums_observeAll _).perm (m.workloads_perm owner)
  refine ⟨_, sampleHealth_memory hd hs owner, hsums, fun component c hc hf => hsums.exact hc hf,
    fun workloads h => ?_⟩
  exact StackHealth.observeAll_perm (h.trans (m.workloads_perm owner).symm)

/-- Two deployments of one component and a stateful set without component label: replicas to spare
in one deployment make up for the other, and the stateful set is pending under its own name. -/
theorem sampleHealth_exact_sample :
    let m := ((((Memory.empty ⟨0, 0⟩).insert (.querier "web" (some 2))).2.insert
      (.querier "idle" none)).2.insert (.ingester "pods")).2
    m.listFailure? .deployment = none ∧ m.listFailure? .statefulSet = none ∧
      ∃ health : StackHealth, sampleHealth Memory.store (.sample "one" "a") m = (.ok health, m) ∧
        health.components.get? "querier" = some ⟨2, 2⟩ ∧
        health.components.get? "ingester" = some ⟨1, 0⟩ ∧
        StackHealth.Fits (m.counted (.sample "one" "a")) "querier" ∧
        StackHealth.wantedIn (m.counted (.sample "one" "a")) "querier" = 2 ∧
        ¬ health.readyCondition.isTrue = true ∧
        StackHealth.empty.observeAll
          (m.counted (.sample "one" "a")).reverse = health := by
  intro m
  have hd : m.listFailure? .deployment = none := by decide
  have hs : m.listFailure? .statefulSet = none := by decide
  obtain ⟨health, hhealth, hsums, hexact, hperm⟩ :=
    sampleHealth_exact.1 m (.sample "one" "a") hd hs
  have hingester : health.components.get? "ingester" = some ⟨1, 0⟩ :=
    (hsums "ingester").trans (by decide)
  have hquerier : health.components.get? "querier" = some ⟨2, 2⟩ :=
    (hsums "querier").trans (by decide)
  have hfits : StackHealth.Fits (m.counted (.sample "one" "a")) "querier" := by decide
  refine ⟨hd, hs, health, hhealth, hquerier, hingester, hfits, (hexact _ _ hquerier hfits).1.symm,
    fun hready => ?_, hperm _ (List.reverse_perm _)⟩
  have hle := ((sampleHealth_exact.2 health).ready_iff.1 hready).2 _ _ hingester
  exact absurd hle (by decide)

end Reconciliation
