import Mathlib.Algebra.Order.BigOperators.Group.List
import Mathlib.Algebra.Order.Ring.Int
import Mathlib.Data.List.Induction
import Reconciliation.Health

/-!
# What a sample of health says

A sample adds up 32-bit words. It says something about replicas as long as the sums it stands for
are numbers of 32 bits.

* `ManagedObject.wanted`, `ManagedObject.running` -- the replicas of a workload, as integers;
* `StackHealth.wantedIn`, `StackHealth.runningIn` -- the sums over the workloads of a component;
  `StackHealth.Fits` -- when both are numbers of 32 bits;
* **`StackHealth.sums_observeAll`** -- a sample holds these sums, wrapped around; if they fit, it
  holds them as they are (`StackHealth.Sums.exact`);
* `StackHealth.Sums.wantedIn_le_runningIn` -- a sample that is ready has as many replicas ready as
  desired, in every component whose sums fit;
* `StackHealth.exists_surplus` -- a workload that is not ready in such a component is made up for by
  another;
* `findCondition_updateCondition_self`, `findCondition_updateCondition_of_ne` -- what an observation
  does to the conditions.
-/

namespace Reconciliation

/-! ## 1. Workloads -/

namespace ManagedObject

/-- The object runs replicas. -/
def IsWorkload (o : ManagedObject) : Prop := o.kind = .deployment ∨ o.kind = .statefulSet

instance (o : ManagedObject) : Decidable o.IsWorkload := inferInstanceAs (Decidable (_ ∨ _))

theorem IsWorkload.isNamespaced {o : ManagedObject} (h : o.IsWorkload) :
    o.kind.isNamespaced = true := by
  rcases h with h | h <;> rw [h] <;> rfl

/-- The replicas that a workload is meant to run, one unless it says otherwise. -/
def wanted : ManagedObject → Int
  | deployment o => (o.spec.bind (·.replicas)).elim 1 (·.toInt)
  | statefulSet o => (o.spec.bind (·.replicas)).elim 1 (·.toInt)
  | _ => 0

/-- The replicas of a workload that are ready, none unless its status says otherwise. -/
def running : ManagedObject → Int
  | deployment o => (o.status.bind (·.readyReplicas)).elim 0 (·.toInt)
  | statefulSet o => (o.status.bind (·.readyReplicas)).elim 0 (·.toInt)
  | _ => 0

theorem replicas?_eq (o : ManagedObject) :
    o.replicas? = if o.IsWorkload then some ⟨.ofInt o.wanted, .ofInt o.running⟩ else none := by
  have hword : ∀ (n : Option Int32) (d : Int), Int32.ofInt (n.elim d (·.toInt)) =
      n.getD (.ofInt d) := by
    intro n d
    cases n with
    | none => rfl
    | some n => exact Int32.ofInt_toInt n
  cases o with
  | deployment o =>
    rw [if_pos (.inl rfl), wanted, running, hword, hword]
    rfl
  | statefulSet o =>
    rw [if_pos (.inr rfl), wanted, running, hword, hword]
    rfl
  | custom k o => exact (if_neg fun h => by rcases h with h | h <;> cases h).symm
  | _ => rfl

end ManagedObject

/-! ## 2. Sums -/

namespace StackHealth

/-- The workloads of a component. -/
def members (objects : List ManagedObject) (component : String) : List ManagedObject :=
  objects.filter fun o => o.IsWorkload ∧ o.component = component

theorem mem_members {objects : List ManagedObject} {component : String} {o : ManagedObject} :
    o ∈ members objects component ↔ o ∈ objects ∧ o.IsWorkload ∧ o.component = component := by
  simp [members]

/-- The replicas that the workloads of a component are meant to run. -/
def wantedIn (objects : List ManagedObject) (component : String) : Int :=
  ((members objects component).map (·.wanted)).sum

/-- The replicas of the workloads of a component that are ready. -/
def runningIn (objects : List ManagedObject) (component : String) : Int :=
  ((members objects component).map (·.running)).sum

/-- Both sums of a component are numbers of 32 bits. -/
structure Fits (objects : List ManagedObject) (component : String) : Prop where
  wanted : -2 ^ 31 ≤ wantedIn objects component ∧ wantedIn objects component < 2 ^ 31
  running : -2 ^ 31 ≤ runningIn objects component ∧ runningIn objects component < 2 ^ 31

theorem fits_iff {objects : List ManagedObject} {component : String} :
    Fits objects component ↔
      (-2 ^ 31 ≤ wantedIn objects component ∧ wantedIn objects component < 2 ^ 31) ∧
        -2 ^ 31 ≤ runningIn objects component ∧ runningIn objects component < 2 ^ 31 :=
  ⟨fun h => ⟨h.wanted, h.running⟩, fun h => ⟨h.1, h.2⟩⟩

instance (objects : List ManagedObject) (component : String) :
    Decidable (Fits objects component) := decidable_of_iff _ fits_iff.symm

/-- The health holds a component exactly if one of the workloads belongs to it, with the replicas
that its workloads want and have ready in sum, as far as 32 bits can tell. -/
def Sums (h : StackHealth) (objects : List ManagedObject) : Prop :=
  ∀ component, h.components.get? component =
    if members objects component = [] then none
    else some ⟨.ofInt (wantedIn objects component), .ofInt (runningIn objects component)⟩

theorem members_concat_of (objects : List ManagedObject) {o : ManagedObject}
    (hw : o.IsWorkload) :
    members (objects ++ [o]) o.component = members objects o.component ++ [o] := by
  simp [members, hw]

theorem members_concat_of_not (objects : List ManagedObject) {o : ManagedObject}
    {component : String} (h : ¬(o.IsWorkload ∧ o.component = component)) :
    members (objects ++ [o]) component = members objects component := by
  simp [members, h]

/-- **One more workload**: if the sums were held before, they are held after it. -/
theorem Sums.observe {h : StackHealth} {objects : List ManagedObject} (hs : h.Sums objects)
    (o : ManagedObject) : (h.observe o).Sums (objects ++ [o]) := by
  intro component
  have hbefore := hs component
  unfold wantedIn runningIn at hbefore ⊢
  unfold StackHealth.observe
  rw [o.replicas?_eq]
  by_cases hw : o.IsWorkload
  · rw [if_pos hw]
    dsimp only
    rw [Dict.get?_insert]
    by_cases hc : component = o.component
    · -- a component that no workload belonged to begins at zero, which is its sum so far
      subst hc
      rw [if_pos rfl, hbefore, members_concat_of objects hw]
      by_cases hnone : members objects o.component = []
      · simp [hnone, ComponentHealth.add]
      · simp [hnone, ComponentHealth.add, Int32.ofInt_add]
    · rw [if_neg hc, members_concat_of_not objects fun hboth => hc hboth.2.symm]
      exact hbefore
  · rw [if_neg hw, members_concat_of_not objects fun hboth => hw hboth.1]
    exact hbefore

/-- **A sample holds the sums of its workloads**, component by component. -/
theorem sums_observeAll (objects : List ManagedObject) :
    (empty.observeAll objects).Sums objects := by
  induction objects using List.reverseRecOn with
  | nil => exact fun _ => rfl
  | append_singleton objects o ih =>
    unfold observeAll at ih ⊢
    rw [List.foldl_append]
    exact ih.observe o

/-- Sums that fit are held as they are. -/
theorem Sums.exact {h : StackHealth} {objects : List ManagedObject} (hs : h.Sums objects)
    {component : String} {c : ComponentHealth} (hc : h.components.get? component = some c)
    (hf : Fits objects component) :
    c.desired.toInt = wantedIn objects component ∧ c.ready.toInt = runningIn objects component := by
  rw [hs component] at hc
  split at hc
  · cases hc
  · obtain rfl := Option.some.inj hc
    exact ⟨Int32.toInt_ofInt_of_le hf.wanted.1 hf.wanted.2,
      Int32.toInt_ofInt_of_le hf.running.1 hf.running.2⟩

/-- A sample is ready only if all of its components are. -/
theorem isReady_of_ready {h : StackHealth} (hr : h.readyCondition.isTrue = true)
    {component : String} {counts : ComponentHealth}
    (hc : h.components.get? component = some counts) : counts.desired ≤ counts.ready := by
  have hpending : h.pending = [] := by
    unfold readyCondition at hr
    split at hr
    · cases hr
    · split at hr
      · exact List.isEmpty_iff.1 ‹_›
      · cases hr
  unfold pending named at hpending
  have hnot := List.filter_eq_nil_iff.1 (List.map_eq_nil_iff.1 hpending) _
    (Entries.mem_of_lookup hc)
  simpa [ComponentHealth.isReady] using hnot

/-- **A sample that is ready has as many replicas ready as desired**, in every component whose sums
fit. -/
theorem Sums.wantedIn_le_runningIn {h : StackHealth} {objects : List ManagedObject}
    (hs : h.Sums objects) (hr : h.readyCondition.isTrue = true) {component : String}
    (hf : Fits objects component) :
    wantedIn objects component ≤ runningIn objects component := by
  have hget := hs component
  split at hget
  · rename_i hnone
    unfold wantedIn runningIn
    rw [hnone]
    exact Int.le_refl 0
  · obtain ⟨hwanted, hrunning⟩ := hs.exact hget hf
    rw [← hwanted, ← hrunning]
    exact Int32.le_iff_toInt_le.1 (isReady_of_ready hr hget)

/-- Where as many replicas are ready as are wanted, what one workload lacks another has to
spare. -/
theorem exists_surplus {objects : List ManagedObject} {component : String}
    (h : wantedIn objects component ≤ runningIn objects component) {o : ManagedObject}
    (ho : o ∈ members objects component) (hlack : o.running < o.wanted) :
    ∃ other ∈ members objects component, other.wanted < other.running := by
  by_contra hnone
  have hall : ∀ other ∈ members objects component, other.running ≤ other.wanted :=
    fun other hother => Int.not_lt.1 fun hlt => hnone ⟨other, hother, hlt⟩
  exact absurd h (Int.not_le.2 (List.sum_lt_sum _ _ hall ⟨o, ho, hlack⟩))

end StackHealth

/-! ## 3. Conditions -/

theorem StackHealth.type_readyCondition (health : StackHealth) :
    health.readyCondition.type = ConditionType.ready.name := by
  unfold readyCondition
  split
  · rfl
  · split <;> rfl

theorem StackHealth.type_degradedCondition (health : StackHealth) :
    health.degradedCondition.type = ConditionType.degraded.name := by
  unfold degradedCondition
  split <;> rfl

theorem Condition.type_refresh (current observation : Condition) (stamp : String) :
    (current.refresh observation stamp).type = current.type := by
  unfold refresh
  split <;> rfl

theorem Condition.status_refresh (current observation : Condition) (stamp : String) :
    (current.refresh observation stamp).status = observation.status := by
  unfold refresh
  split
  · exact ‹current.status = _ ∧ _›.1
  · rfl

/-- An observation decides the status of the condition of its type. -/
theorem findCondition_updateCondition_self (conditions : List Condition) {observation : Condition}
    (now : Instant) {type : ConditionType} (h : observation.type = type.name) :
    ∃ c, findCondition (updateCondition conditions observation now) type = some c ∧
      c.status = observation.status := by
  induction conditions with
  | nil =>
    refine ⟨{ observation with lastTransitionTime := some now.toText }, ?_, rfl⟩
    simp [updateCondition, findCondition, h]
  | cons current rest ih =>
    rw [updateCondition]
    split
    · rename_i htype
      refine ⟨_, ?_, current.status_refresh observation now.toText⟩
      rw [findCondition, List.find?_cons_of_pos]
      rw [Condition.type_refresh, htype, h]
      exact beq_self_eq_true _
    · rename_i htype
      obtain ⟨c, hc, hstatus⟩ := ih
      refine ⟨c, ?_, hstatus⟩
      rw [findCondition, List.find?_cons_of_neg]
      · exact hc
      · rw [← h, beq_iff_eq]
        exact htype

/-- An observation leaves the conditions of other types as they are. -/
theorem findCondition_updateCondition_of_ne (conditions : List Condition)
    {observation : Condition} (now : Instant) {type : ConditionType}
    (h : observation.type ≠ type.name) :
    findCondition (updateCondition conditions observation now) type =
      findCondition conditions type := by
  induction conditions with
  | nil => simp [updateCondition, findCondition, h]
  | cons current rest ih =>
    unfold findCondition at ih ⊢
    rw [updateCondition]
    split
    · rename_i htype
      have hother : (current.type == type.name) = false := by
        rw [htype]
        exact beq_false_of_ne h
      rw [List.find?_cons, List.find?_cons, Condition.type_refresh, hother]
    · rw [List.find?_cons, List.find?_cons, ih]

end Reconciliation
