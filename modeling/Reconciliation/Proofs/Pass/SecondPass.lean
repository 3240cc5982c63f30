import Reconciliation.Proofs.Mutation.Immutable
import Reconciliation.Proofs.Pass.Prune
import Reconciliation.Proofs.Pass.Sync

/-!
# The second pass

A pass over objects that are not in the store creates them all. The next pass over the same objects
writes nothing just if each is settled: an object that is not is written by it again.

* `Engine.attempts_create` -- the first pass;
* `SyncStep.unchanged_of_isSettled`, `SyncStep.isSettled_of_unchanged` -- one object of the second;
* `SyncReport.Records` -- a report which has one record for each object, all of one outcome;
* **`Engine.second_sync_quiet_iff`** -- both passes together.
-/

namespace Reconciliation

/-! ## 1. Reports -/

/-- Every object is recorded, in order and with the same outcome. -/
def SyncReport.Records (r : SyncReport) (objects : List ManagedObject) (outcome : SyncOutcome) :
    Prop :=
  r.records.map (fun x => (x.identity, x.outcome)) = objects.map fun o => (o.identity, outcome)

/-- The record of an object by its entry in a store. -/
def Memory.recorded (m : Memory) (outcome : SyncOutcome) (object : ManagedObject) : ObjectRecord :=
  ⟨object.identity, outcome, (m.objects.get? object.identity).bind (·.uid?)⟩

theorem Memory.recorded_of_get {m : Memory} (outcome : SyncOutcome) {object stored : ManagedObject}
    (h : m.objects.get? object.identity = some stored) :
    m.recorded outcome object = ⟨object.identity, outcome, stored.uid?⟩ := by
  unfold recorded
  rw [h]
  rfl

theorem Memory.records_map_recorded (m : Memory) (objects : List ManagedObject)
    (outcome : SyncOutcome) (skipped : List ObjectIdentity) :
    (SyncReport.mk (objects.map (m.recorded outcome)) skipped).Records objects outcome := by
  unfold SyncReport.Records
  rw [List.map_map]
  rfl

/-! ## 2. The first pass -/

/-- The store holds an object as it was created. -/
def Memory.Holds (m : Memory) (desired : ManagedObject) (object : ManagedObject) : Prop :=
  ∃ m₀ : Memory, m.get object.identity = .ok (some (m₀.stamp desired))

theorem Memory.failure?_of_failures_eq_nil {m : Memory} (h : m.failures = []) (op : Operation)
    (id : ObjectIdentity) : m.failure? op id = none := by
  unfold failure?
  rw [h]
  rfl

/-- A step on an absent object creates it. -/
theorem SyncStep.created_of_absent {registry : Registry} {owner? : Option OwnerReference}
    {object : ManagedObject} {m m' : Memory} {result : Except ObjectError ObjectRecord}
    (h : SyncStep registry owner? object m result m') (hf : m.failures = [])
    (ha : m.objects.get? object.identity = none) :
    result = .ok ⟨object.identity, .created, (m.stamp (object.attach owner?)).uid?⟩ ∧
      m' = m.created (object.attach owner?) := by
  have hget : m.get object.identity = .ok none :=
    Memory.get_eq_ok_iff.2 ⟨Memory.failure?_of_failures_eq_nil hf _ _, ha⟩
  cases h with
  | unread hg => cases hget.symm.trans hg
  | delete hg | unmerged hg | unchanged hg | update hg => cases hget.symm.trans hg
  | create =>
    have hcreate : m.create (object.attach owner?) =
        (.ok (m.stamp (object.attach owner?)), m.created (object.attach owner?)) :=
      Memory.create_eq (Memory.failure?_of_failures_eq_nil hf _ _)
        (by rwa [ManagedObject.identity_attach])
    rw [hcreate]
    exact ⟨rfl, rfl⟩

namespace Engine

variable {σ : Type} {e : Engine σ} {view : σ → Memory} (owner? : Option OwnerReference)

/-- **The first pass creates every object**, and the store holds what was created. -/
theorem attempts_create (he : e.OnMemory view) (hc : ∀ w, e.cancelled w = false)
    {objects : List ManagedObject} {r : Run σ} (hf : (view r.world).failures = [])
    (hn : (objects.map (·.identity)).Nodup)
    (ha : ∀ o ∈ objects, (view r.world).objects.get? o.identity = none) :
    let after := view (e.attempts owner? objects r).2.world
    (e.attempts owner? objects r).1 = objects.map (fun o => .synced (after.recorded .created o)) ∧
      after.failures = [] ∧ ∀ o ∈ objects, after.Holds (o.attach owner?) o := by
  induction objects generalizing r with
  | nil => exact ⟨rfl, hf, by simp⟩
  | cons object rest ih =>
    obtain ⟨result, hattempt, hstep⟩ := attempt_step owner? he object r
    obtain ⟨rfl, hview⟩ := hstep.created_of_absent hf (ha object List.mem_cons_self)
    obtain ⟨hnot, hrest⟩ := List.nodup_cons.1 hn
    have hother : ∀ o ∈ rest, o.identity ≠ object.identity :=
      fun o ho heq => hnot (List.mem_map.2 ⟨o, ho, heq⟩)
    rw [attempts_cons owner? (hc r.world), hattempt]
    generalize (e.attempt owner? object r).2 = r' at hview ⊢
    have habsent : ∀ o ∈ rest, (view r'.world).objects.get? o.identity = none := by
      intro o ho
      rw [hview]
      show ((view r.world).objects.insert _ _).get? o.identity = none
      rw [Dict.get?_insert, ManagedObject.identity_attach, if_neg (hother o ho)]
      exact ha o (List.mem_cons_of_mem _ ho)
    have hstored : (view r'.world).objects.get? object.identity =
        some ((view r.world).stamp (object.attach owner?)) := by
      rw [hview]
      show ((view r.world).objects.insert _ _).get? object.identity = _
      rw [ManagedObject.identity_attach, Dict.get?_insert_self]
    obtain ⟨hattempts, hfailures, hholds⟩ := ih (r := r') (by rw [hview]; exact hf) hrest habsent
    have hspared := (attempts_spares owner? he hother r').object.trans hstored
    refine ⟨?_, hfailures, fun o ho => ?_⟩
    · have hrecord := Memory.recorded_of_get .created hspared
      exact congrArg₂ List.cons (congrArg Attempt.synced hrecord.symm) hattempts
    · rcases List.mem_cons.1 ho with rfl | ho
      · exact ⟨view r.world, Memory.get_eq_ok_iff.2
          ⟨Memory.failure?_of_failures_eq_nil hfailures _ _, hspared⟩⟩
      · exact hholds o ho

end Engine

/-! ## 3. The second pass -/

theorem ManagedObject.isSettled_attach (o : ManagedObject) (owner? : Option OwnerReference) :
    (o.attach owner?).IsSettled ↔ o.IsSettled := by
  obtain ⟨m, -, -, hm⟩ := o.exists_attach owner?
  rw [hm]
  exact isSettled_withMetadata m o

theorem ManagedObject.InKeyOrder.attach {o : ManagedObject} (h : o.InKeyOrder)
    (owner? : Option OwnerReference) : (o.attach owner?).InKeyOrder := by
  obtain ⟨m, -, -, hm⟩ := o.exists_attach owner?
  rw [hm]
  exact h.withMetadata m

/-- The store holds an object in a state that a mutation leaves alone just if the object is
settled. -/
def Memory.Settles (m : Memory) (registry : Registry) (owner? : Option OwnerReference)
    (object : ManagedObject) : Prop :=
  ∃ stored, m.get object.identity = .ok (some stored) ∧
    ((∃ merged, registry.mutate stored (object.attach owner?) = .ok merged ∧
      merged.same stored = true) ↔ object.IsSettled)

theorem Memory.Holds.settles {m : Memory} {registry : Registry} {owner? : Option OwnerReference}
    {object : ManagedObject} (h : m.Holds (object.attach owner?) object)
    (hp : registry.policy object.kind = .ok (.ofKind object.kind)) (hk : object.InKeyOrder) :
    m.Settles registry owner? object := by
  obtain ⟨m₀, hstored⟩ := h
  have hiff := Registry.mutate_created_iff (r := registry) (by rwa [ManagedObject.kind_attach])
    (hk.attach owner?) m₀
  exact ⟨_, hstored, hiff.trans (object.isSettled_attach owner?)⟩

section Step

variable {registry : Registry} {owner? : Option OwnerReference} {object : ManagedObject}
  {m m' : Memory} {result : Except ObjectError ObjectRecord}

theorem SyncStep.unchanged_of_isSettled (h : SyncStep registry owner? object m result m')
    (hm : m.Settles registry owner? object) (hs : object.IsSettled) :
    result = .ok (m.recorded .unchanged object) ∧ m' = m := by
  obtain ⟨stored, hstored, hiff⟩ := hm
  obtain ⟨merged, hmerged, hsame⟩ := hiff.2 hs
  rw [Memory.recorded_of_get .unchanged (Memory.get_eq_ok_iff.1 hstored).2]
  exact h.unchanged_of_mutate hstored hmerged hsame

theorem SyncStep.isSettled_of_unchanged (h : SyncStep registry owner? object m result m')
    (hm : m.Settles registry owner? object) {record : ObjectRecord} (hr : result = .ok record)
    (hu : record.outcome = .unchanged) : object.IsSettled ∧ m' = m := by
  obtain ⟨stored, hstored, hiff⟩ := hm
  cases h with
  | unread => cases hr
  | unmerged => cases hr
  | create | delete | update =>
    obtain ⟨_, -, rfl⟩ := recordOf_eq_ok hr
    cases hu
  | unchanged hg hm hs =>
    cases hstored.symm.trans hg
    exact ⟨hiff.1 ⟨_, hm, hs⟩, rfl⟩

end Step

/-- An ingress that states no specification. -/
def Ingress.bare : Ingress where
  metadata := { ObjectMeta.empty with name := some "web", namespace? := some "tracing" }
  spec := none
  status := none

/-- Objects of several kinds, among them a stateful set with two claim templates. -/
def ManagedObject.assorted : List ManagedObject :=
  [.sample (.sample "one" "a") "settings",
    (statefulSet (.storing none 1 [("data", some "Filesystem"), ("logs", none)])).withMetadata
      { ObjectMeta.empty with name := some "ingester", namespace? := some "tracing" },
    .ingress { Ingress.bare with spec := some .empty },
    .ofSpec .serviceMonitor Ingress.bare.metadata (.obj [("jobLabel", .str "app")])]

theorem ManagedObject.inKeyOrder_assorted : ∀ o ∈ assorted, o.InKeyOrder := by
  intro o ho c hc
  simp only [assorted, List.mem_cons, List.not_mem_nil, or_false] at ho
  rcases ho with rfl | rfl | rfl | rfl
  case inr.inr.inr =>
    obtain rfl := Option.mem_some.1 hc
    exact List.pairwise_singleton _ _
  all_goals cases hc

theorem ManagedObject.isSettled_assorted : ∀ o ∈ assorted, o.IsSettled := by
  intro o ho
  simp only [assorted, List.mem_cons, List.not_mem_nil, or_false] at ho
  rcases ho with rfl | rfl | rfl | rfl
  · trivial
  · have hwhole : PodTemplate.empty.IsWhole := fun _ hm => by cases hm
    refine ⟨_, rfl, hwhole, fun claims hclaims claim hclaim => ?_⟩
    obtain rfl := Option.mem_some.1 hclaims
    simp only [List.map_cons, List.map_nil, List.mem_cons, List.not_mem_nil, or_false] at hclaim
    rcases hclaim with rfl | rfl
    · rintro found - spec hspec hnone
      obtain rfl := Option.mem_some.1 hspec
      cases hnone
    · intro found hfound spec hspec hnone
      obtain rfl := Option.mem_some.1 hfound
      rfl
  · rfl
  · refine ⟨rfl, fun h => ?_⟩
    cases Option.some.inj h

namespace Engine

variable {σ : Type} {e : Engine σ} {view : σ → Memory} (owner? : Option OwnerReference)

theorem attempts_of_isSettled (he : e.OnMemory view) (hc : ∀ w, e.cancelled w = false)
    {objects : List ManagedObject} {r : Run σ}
    (hm : ∀ o ∈ objects, (view r.world).Settles e.registry owner? o)
    (hs : ∀ o ∈ objects, o.IsSettled) :
    (e.attempts owner? objects r).1 =
        objects.map (fun o => .synced ((view r.world).recorded .unchanged o)) ∧
      view (e.attempts owner? objects r).2.world = view r.world := by
  induction objects generalizing r with
  | nil => exact ⟨rfl, rfl⟩
  | cons object rest ih =>
    obtain ⟨result, hattempt, hstep⟩ := attempt_step owner? he object r
    obtain ⟨rfl, hview⟩ := hstep.unchanged_of_isSettled (hm object List.mem_cons_self)
      (hs object List.mem_cons_self)
    rw [attempts_cons owner? (hc r.world), hattempt]
    generalize (e.attempt owner? object r).2 = r' at hview ⊢
    obtain ⟨hattempts, hafter⟩ := ih (r := r')
      (fun o ho => hview ▸ hm o (List.mem_cons_of_mem _ ho))
      fun o ho => hs o (List.mem_cons_of_mem _ ho)
    rw [hview] at hattempts hafter
    exact ⟨congrArg (_ :: ·) hattempts, hafter⟩

theorem isSettled_of_attempts (he : e.OnMemory view) (hc : ∀ w, e.cancelled w = false)
    {objects : List ManagedObject} {r : Run σ} {report : SyncReport}
    (hm : ∀ o ∈ objects, (view r.world).Settles e.registry owner? o)
    (ha : (e.attempts owner? objects r).1 = report.records.map .synced)
    (hr : report.Records objects .unchanged) : ∀ o ∈ objects, o.IsSettled := by
  obtain ⟨records, skipped⟩ := report
  induction objects generalizing r records with
  | nil => exact fun o ho => absurd ho List.not_mem_nil
  | cons object rest ih =>
    obtain ⟨result, hattempt, hstep⟩ := attempt_step owner? he object r
    rw [attempts_cons owner? (hc r.world), hattempt] at ha
    cases records with
    | nil => cases ha
    | cons record records =>
      obtain ⟨hfirst, hothers⟩ := List.cons_eq_cons.1 ha
      obtain ⟨houtcome, hrecords⟩ := List.cons_eq_cons.1 hr
      cases result with
      | error cause => cases hfirst
      | ok record' =>
        obtain rfl : record' = record := Attempt.synced.inj hfirst
        obtain ⟨hsettled, hview⟩ := hstep.isSettled_of_unchanged (hm object List.mem_cons_self)
          rfl (congrArg Prod.snd houtcome)
        have hrest := ih (fun o ho => hview ▸ hm o (List.mem_cons_of_mem _ ho)) records hothers
          hrecords
        intro o ho
        rcases List.mem_cons.1 ho with rfl | ho
        · exact hsettled
        · exact hrest o ho

/-- **The second pass is quiet just if every object is settled.** Whatever else the store holds, if
no failures are injected and none of the desired objects is there yet, the first sync creates them
all. The next one records each as unchanged, journals no write and reports the same uids, if the
objects are settled; if one of them is not, it does something else. -/
theorem second_sync_quiet_iff (he : e.OnMemory view) (hc : ∀ w, e.cancelled w = false)
    (owner : Owner) {desired : List ManagedObject} {r : Run σ}
    (hp : ∀ o ∈ desired, e.registry.policy o.kind = .ok (.ofKind o.kind))
    (hk : ∀ o ∈ desired, o.InKeyOrder) (hf : (view r.world).failures = [])
    (hn : (desired.map (·.identity)).Nodup)
    (ha : ∀ o ∈ desired, (view r.world).objects.get? o.identity = none) :
    let first := e.sync owner desired r
    let second := e.sync owner desired first.2
    ∃ report, first.1 = .ok report ∧ report.Records desired .created ∧
      ((∃ again, second.1 = .ok again ∧ again.Records desired .unchanged ∧
          (view second.2.world).journal = (view first.2.world).journal ∧
          again.uids = report.uids) ↔
        ∀ o ∈ desired, o.IsSettled) := by
  intro first second
  obtain ⟨hcreated, -, hholds⟩ := attempts_create owner.reference? he hc hf hn ha
  have hsettles : ∀ o ∈ desired, (view first.2.world).Settles e.registry owner.reference? o :=
    fun o ho => (hholds o ho).settles (hp o ho) (hk o ho)
  refine ⟨⟨desired.map ((view first.2.world).recorded .created), []⟩, ?_,
    Memory.records_map_recorded _ _ _ _, ?_⟩
  · refine summarize_eq_ok_iff.2 ⟨rfl, hcreated.trans ?_⟩
    rw [List.map_map]
    rfl
  · constructor
    · intro h
      obtain ⟨again, hagain, hrecords, -, -⟩ := h
      exact isSettled_of_attempts owner.reference? he hc hsettles
        (summarize_eq_ok_iff.1 hagain).2 hrecords
    · intro hs
      obtain ⟨hunchanged, hview⟩ := attempts_of_isSettled owner.reference? he hc hsettles hs
      refine ⟨⟨desired.map ((view first.2.world).recorded .unchanged), []⟩,
        summarize_eq_ok_iff.2 ⟨rfl, hunchanged.trans ?_⟩, Memory.records_map_recorded _ _ _ _,
        congrArg Memory.journal hview, ?_⟩
      · rw [List.map_map]
        rfl
      · unfold SyncReport.uids
        simp only [List.filterMap_map]
        rfl

/-- Four objects of several kinds that were created stay as they are: one of the claim templates of
the stateful set has a volume mode, the other one has none. Other objects are in the store. -/
theorem second_sync_quiet_sample :
    let e := overMemory .standard .default
    let owner := Owner.sample "one" "a"
    let desired := ManagedObject.assorted
    let first := e.sync owner desired (.start .sample)
    let second := e.sync owner desired first.2
    (∀ m, e.cancelled m = false) ∧
      (∀ o ∈ desired, e.registry.policy o.kind = .ok (.ofKind o.kind)) ∧
      (∀ o ∈ desired, o.InKeyOrder) ∧ (desired.map (·.identity)).Nodup ∧
      ∃ again, second.1 = .ok again ∧ again.Records desired .unchanged ∧
        second.2.world.journal = first.2.world.journal := by
  intro e owner desired first second
  have hp : ∀ o ∈ desired, e.registry.policy o.kind = .ok (.ofKind o.kind) :=
    fun o _ => Registry.policy_standard o.kind
  have hk : ∀ o ∈ desired, o.InKeyOrder := ManagedObject.inKeyOrder_assorted
  have hn : (desired.map (·.identity)).Nodup := by decide
  have habsent : ∀ o ∈ desired, Memory.sample.objects.get? o.identity = none := by decide
  obtain ⟨report, -, -, hiff⟩ := second_sync_quiet_iff (onMemory_overMemory .standard .default)
    (fun _ => rfl) owner hp hk (r := .start .sample) rfl hn habsent
  obtain ⟨again, hok, hrecords, hjournal, -⟩ := hiff.2 ManagedObject.isSettled_assorted
  refine ⟨fun _ => rfl, hp, hk, hn, again, hok, hrecords, ?_⟩
  simpa only [second, first, e, id_eq] using hjournal

/-- An ingress without specification gets an empty one from the second pass. -/
theorem second_sync_updates_bare_ingress :
    let e := overMemory .standard .default
    let owner := Owner.sample "one" "a"
    let first := e.sync owner [.ingress .bare] (.start (.empty ⟨0, 0⟩))
    let second := e.sync owner [.ingress .bare] first.2
    (first.1.toOption.map fun report => report.records.map (·.outcome)) = some [.created] ∧
      (second.1.toOption.map fun report => report.records.map (·.outcome)) = some [.updated] ∧
      second.2.world.journal.map (·.operation) = [.create, .update] := by
  decide

end Engine

end Reconciliation
