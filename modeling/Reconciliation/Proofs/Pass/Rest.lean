import Reconciliation.Proofs.Pass.Calls
import Reconciliation.Proofs.Pass.SecondPass

/-!
# Stores at rest

For an owner and its desired objects, a store is at rest if a pass finds nothing to do in it: the
mutation leaves every desired object as it is, whatever else the pass lists of the owner is to stay,
and the workloads can be sampled. Whether a store is at rest is decided by the objects it holds and
by the failures injected into it; its counters, its clock and its journal play no part.

* `Memory.AtRest` -- the condition, and `Memory.AtRest.congr`: what it depends on;
* `Memory.Later` -- a pass leaves the store as it was, or the journal has grown;
* `Engine.converge_of_atRest` -- at rest, the stages read the store and do nothing else;
* **`Engine.atRest_of_converge`** -- a pass whose stages succeed and write nothing has found the
  store at rest.
-/

namespace Reconciliation

namespace Memory

/-! ## 1. Rest -/

/-- The store holds the object, and the mutation towards what is desired leaves it as it is. -/
def Steady (m : Memory) (registry : Registry) (owner? : Option OwnerReference)
    (object : ManagedObject) : Prop :=
  ∃ stored merged, m.get object.identity = .ok (some stored) ∧
    registry.mutate stored (object.attach owner?) = .ok merged ∧ merged.same stored = true

/-- What a sync reports that has left all objects as they are. -/
def unchangedReport (m : Memory) (objects : List ManagedObject) : SyncReport :=
  ⟨objects.map (m.recorded .unchanged), []⟩

/-- The scope of the prune after such a sync. -/
def unchangedScope (m : Memory) (owner : Owner) (objects : List ManagedObject) : PruneScope :=
  ⟨owner, objects.map (·.identity), (m.unchangedReport objects).uids⟩

/-- A kind can be listed, and every listed object that is in scope stays. -/
def Keeps (m : Memory) (scope : PruneScope) (kind : Kind) : Prop :=
  ∃ owned, m.list kind scope.owner.metadata.namespace? scope.owner.selector = .ok owned ∧
    ∀ o ∈ owned, scope.owner.controls o = true → scope.keeps o = true

/-- A pass of the owner finds nothing to do. -/
structure AtRest (m : Memory) (registry : Registry) (kinds : List Kind) (owner : Owner)
    (objects : List ManagedObject) : Prop where
  steady : ∀ o ∈ objects, m.Steady registry owner.reference? o
  kept : ∀ kind ∈ kinds, m.Keeps (m.unchangedScope owner objects) kind
  sampled : ∀ kind ∈ [Kind.deployment, .statefulSet],
    ∃ workloads, m.list kind owner.metadata.namespace? owner.selector = .ok workloads

/-- The stores hold the same objects, and the same failures are injected into them. -/
structure SameContent (m m' : Memory) : Prop where
  objects : m'.objects = m.objects
  failures : m'.failures = m.failures
  listFailures : m'.listFailures = m.listFailures

namespace SameContent

variable {m m' : Memory} (h : m.SameContent m')

include h

theorem get (id : ObjectIdentity) : m'.get id = m.get id := by
  unfold Memory.get failure?
  rw [h.failures, h.objects]

theorem list (kind : Kind) (ns? : Option String) (selector : LabelSelector) :
    m'.list kind ns? selector = m.list kind ns? selector := by
  unfold Memory.list
  rw [h.listFailures, h.objects]

theorem recorded (outcome : SyncOutcome) : m'.recorded outcome = m.recorded outcome := by
  funext object
  unfold Memory.recorded
  rw [h.objects]

theorem workloads (owner : Owner) : m'.workloads owner = m.workloads owner := by
  unfold Memory.workloads
  rw [h.objects]

end SameContent

/-- **Only objects and injected failures count.** -/
theorem AtRest.congr {m m' : Memory} {registry : Registry} {kinds : List Kind} {owner : Owner}
    {objects : List ManagedObject} (h : m.AtRest registry kinds owner objects)
    (hm : m.SameContent m') : m'.AtRest registry kinds owner objects := by
  refine ⟨fun o ho => ?_, fun kind hkind => ?_, fun kind hkind => ?_⟩
  · obtain ⟨stored, merged, hget, hmerged⟩ := h.steady o ho
    exact ⟨stored, merged, (hm.get _).trans hget, hmerged⟩
  · obtain ⟨owned, hlist, hkeeps⟩ := h.kept kind hkind
    refine ⟨owned, (hm.list ..).trans hlist, ?_⟩
    unfold unchangedScope unchangedReport
    rw [hm.recorded]
    exact hkeeps
  · obtain ⟨workloads, hlist⟩ := h.sampled kind hkind
    exact ⟨workloads, (hm.list ..).trans hlist⟩

/-! ## 2. Writes show in the journal -/

/-- The store is the same, or its journal has grown. -/
def Later (m m' : Memory) : Prop := m' = m ∨ m.journal.length < m'.journal.length

namespace Later

variable {m m' m'' : Memory}

theorem refl (m : Memory) : Later m m := .inl rfl

theorem length_le (h : Later m m') : m.journal.length ≤ m'.journal.length := by
  rcases h with rfl | h
  · exact Nat.le_refl _
  · exact Nat.le_of_lt h

theorem trans (h : Later m m') (h' : Later m' m'') : Later m m'' := by
  rcases h with rfl | hlt
  · exact h'
  · exact .inr (Nat.lt_of_lt_of_le hlt h'.length_le)

/-- If the journal is the same at the end, nothing was written up to any time in between. -/
theorem pinch (h : Later m m') (h' : Later m' m'') (hj : m''.journal = m.journal) :
    m' = m ∧ m'' = m' := by
  have hle := h.length_le
  have hle' := h'.length_le
  rw [hj] at hle'
  refine ⟨h.resolve_right (by omega), h'.resolve_right ?_⟩
  rw [hj]
  omega

theorem recorded {op : Operation} {id : ObjectIdentity} (h : m'.journal = m.journal) :
    Later m (m'.record op id) := by
  refine .inr ?_
  show _ < (m'.journal ++ [_]).length
  rw [h, List.length_append]
  exact Nat.lt_succ_self _

theorem delete (m : Memory) (id : ObjectIdentity) : Later m (m.delete id).2 := by
  rcases m.delete_cases id with ⟨e, -, he⟩ | ⟨-, ⟨-, he⟩ | ⟨-, he⟩⟩
  · rw [he]
    exact refl m
  · rw [he]
    exact refl m
  · rw [he]
    exact recorded rfl

end Later

/-- A deletion that succeeds on what is there is noted in the journal. -/
theorem lt_delete {m : Memory} {id : ObjectIdentity}
    (hpresent : (m.objects.get? id).isSome = true) (hok : (m.delete id).1 = .ok ()) :
    m.journal.length < (m.delete id).2.journal.length := by
  rcases m.delete_cases id with ⟨e, -, he⟩ | ⟨-, ⟨hnone, -⟩ | ⟨-, he⟩⟩
  · rw [he] at hok
    cases hok
  · rw [hnone] at hpresent
    cases hpresent
  · rw [he]
    show _ < (m.journal ++ [_]).length
    rw [List.length_append]
    exact Nat.lt_succ_self _

end Memory

variable {registry : Registry} {owner? : Option OwnerReference} {object : ManagedObject}
  {m m' : Memory}

/-- A step that succeeds has left the object as it was, or it is noted in the journal. -/
theorem SyncStepOk.steady_or_lt {record : ObjectRecord}
    (h : SyncStepOk registry owner? object m record m')
    (hg : m.get object.identity = .ok (m.objects.get? object.identity)) :
    (m' = m ∧ m.Steady registry owner? object ∧ record = m.recorded .unchanged object) ∨
      m.journal.length < m'.journal.length := by
  cases h with
  | created | recreating | updated =>
    refine .inr ?_
    show _ < (m.journal ++ [_]).length
    rw [List.length_append]
    exact Nat.lt_succ_self _
  | unchanged hget hm hs =>
    refine .inl ⟨rfl, ⟨_, _, hg.trans (congrArg _ hget), hm, hs⟩, ?_⟩
    exact (Memory.recorded_of_get .unchanged hget).symm

/-- What a step does to the store shows in the journal. -/
theorem SyncStep.later {result : Except ObjectError ObjectRecord}
    (h : SyncStep registry owner? object m result m') : Memory.Later m m' := by
  cases result with
  | error cause => exact .inl h.of_error
  | ok record =>
    rcases h.of_ok.steady_or_lt h.get_of_ok with ⟨hsame, -⟩ | hlt
    · exact .inl hsame
    · exact .inr hlt

theorem SyncSteps.later {objects : List ManagedObject} {records : List ObjectRecord}
    (h : SyncSteps registry owner? objects m records m') : Memory.Later m m' := by
  induction h with
  | nil => exact .refl _
  | cons first _ ih => exact first.later.trans ih

/-- Steps that write nothing have found every object steady. -/
theorem SyncSteps.steady {objects : List ManagedObject} {records : List ObjectRecord}
    (h : SyncSteps registry owner? objects m records m') (hj : m'.journal = m.journal) :
    (∀ o ∈ objects, m.Steady registry owner? o) ∧
      records = objects.map (m.recorded .unchanged) := by
  induction h with
  | nil => exact ⟨fun o ho => absurd ho List.not_mem_nil, rfl⟩
  | cons first others ih =>
    obtain ⟨rfl, rfl⟩ := first.later.pinch others.later hj
    obtain ⟨hrest, hrecords⟩ := ih rfl
    rcases first.of_ok.steady_or_lt first.get_of_ok with ⟨-, hfirst, hrecord⟩ | hlt
    · exact ⟨List.forall_mem_cons.2 ⟨hfirst, hrest⟩, by rw [hrecord, hrecords, List.map_cons]⟩
    · exact absurd hlt (Nat.lt_irrefl _)

/-- What did not go wrong is none of the ways to go wrong. -/
theorem PruneEvent.clean {event : PruneEvent} (h : event.isFailure = false) :
    event.listFailure? = none ∧ event.failure? = none ∧ event.isCancelled = false := by
  cases event with
  | kept id => exact ⟨rfl, rfl, rfl⟩
  | deleted id => exact ⟨rfl, rfl, rfl⟩
  | failed failure => cases h
  | listFailed failure => cases h
  | cancelled => cases h

namespace Engine

variable {σ : Type} {e : Engine σ} {view : σ → Memory} {log : σ → List EngineCall}

/-! ## 3. Passes at rest -/

/-- Between two worlds, the store was read and stayed as it was. -/
structure Reads (view : σ → Memory) (log : σ → List EngineCall) (w w' : σ) : Prop where
  store : view w' = view w
  calls : CallsOnly log EngineCall.isRead w w'

namespace Reads

variable {w w' w'' : σ}

theorem refl (w : σ) : Reads view log w w := ⟨rfl, .refl w⟩

theorem trans (h : Reads view log w w') (h' : Reads view log w' w'') : Reads view log w w'' :=
  ⟨h'.store.trans h.store, h.calls.trans h'.calls⟩

theorem get (he : e.OnMemory view) (hl : e.Logs log) (id : ObjectIdentity) (w : σ) :
    Reads view log w (e.store.get id w).2 := ⟨(he.get id w).2, .single (hl.get id w) rfl⟩

theorem list (he : e.OnMemory view) (hl : e.Logs log) (kind : Kind) (ns? : Option String)
    (selector : LabelSelector) (w : σ) :
    Reads view log w (e.store.list kind ns? selector w).2 :=
  ⟨(he.list kind ns? selector w).2, .single (hl.list kind ns? selector w) rfl⟩

end Reads

/-- A steady object is read and no more. -/
theorem syncObject_steady (he : e.OnMemory view) (hl : e.Logs log)
    {owner? : Option OwnerReference} {object : ManagedObject} {w : σ}
    (h : (view w).Steady e.registry owner? object) :
    (syncObject e.store e.registry owner? object w).1 =
        .ok ((view w).recorded .unchanged object) ∧
      Reads view log w (syncObject e.store e.registry owner? object w).2 := by
  obtain ⟨stored, merged, hget, hmerged, hsame⟩ := h
  have hstep := (syncObject_step he owner? object w).unchanged_of_mutate hget hmerged hsame
  have hreads := Reads.get he hl object.identity w
  have hfound := (he.get object.identity w).1.trans hget
  rw [Memory.recorded_of_get .unchanged (Memory.get_eq_ok_iff.1 hget).2]
  refine ⟨hstep.1, ?_⟩
  unfold syncObject
  rw [run_bind, hfound]
  dsimp only
  rw [hmerged]
  dsimp only
  rw [if_pos hsame]
  exact hreads

theorem attempts_steady (he : e.OnMemory view) (hl : e.Logs log)
    (hc : ∀ w, e.cancelled w = false) {owner? : Option OwnerReference}
    {objects : List ManagedObject} {r : Run σ}
    (h : ∀ o ∈ objects, (view r.world).Steady e.registry owner? o) :
    (e.attempts owner? objects r).1 =
        objects.map (fun o => .synced ((view r.world).recorded .unchanged o)) ∧
      Reads view log r.world (e.attempts owner? objects r).2.world := by
  induction objects generalizing r with
  | nil => exact ⟨rfl, .refl _⟩
  | cons object rest ih =>
    obtain ⟨hfirst, hrest⟩ := List.forall_mem_cons.1 h
    obtain ⟨hresult, hreads⟩ := syncObject_steady he hl hfirst
    obtain ⟨hattempt, hworld⟩ := attempt_run owner? e object r
    rw [attempts_cons owner? (hc r.world), hattempt, hresult]
    rw [← hworld] at hreads
    generalize (e.attempt owner? object r).2 = r' at hreads ⊢
    obtain ⟨hattempts, hothers⟩ := ih (r := r') (hreads.store ▸ hrest)
    rw [hreads.store] at hattempts
    exact ⟨congrArg (_ :: ·) hattempts, hreads.trans hothers⟩

theorem sync_steady (he : e.OnMemory view) (hl : e.Logs log) (hc : ∀ w, e.cancelled w = false)
    {owner : Owner} {objects : List ManagedObject} {r : Run σ}
    (h : ∀ o ∈ objects, (view r.world).Steady e.registry owner.reference? o) :
    (e.sync owner objects r).1 = .ok ((view r.world).unchangedReport objects) ∧
      Reads view log r.world (e.sync owner objects r).2.world := by
  obtain ⟨hattempts, hreads⟩ := attempts_steady he hl hc h
  refine ⟨summarize_eq_ok_iff.2 ⟨rfl, hattempts.trans ?_⟩, hreads⟩
  rw [Memory.unchangedReport, List.map_map]
  rfl

/-- Objects that are to stay are gone through without a call. -/
theorem pruneObjects_kept {scope : PruneScope} {kind : Kind} {owned : List ManagedObject}
    (r : Run σ)
    (h : ∀ o ∈ owned, scope.owner.controls o = true → scope.keeps o = true) :
    e.pruneObjects scope kind owned r =
      ((owned.filter scope.owner.controls).map (.kept ·.identity), r) := by
  induction owned with
  | nil => rfl
  | cons o rest ih =>
    obtain ⟨hfirst, hrest⟩ := List.forall_mem_cons.1 h
    cases hcontrols : scope.owner.controls o with
    | false =>
      rw [e.pruneObjects_skip scope hcontrols, ih hrest,
        List.filter_cons_of_neg (by simp [hcontrols])]
    | true =>
      rw [e.pruneObjects_keep scope hcontrols (hfirst hcontrols), ih hrest,
        List.filter_cons_of_pos hcontrols, List.map_cons]

/-- If nothing has gone wrong, the prune succeeds. -/
theorem pruned_of_clean {events : List PruneEvent} (h : ∀ event ∈ events, event.isFailure = false) :
    ∃ report, pruned events = .ok report := by
  have hlisted : events.filterMap (·.listFailure?) = [] :=
    List.filterMap_eq_nil_iff.2 fun event he => (PruneEvent.clean (h event he)).1
  have hdeleted : events.filterMap (·.failure?) = [] :=
    List.filterMap_eq_nil_iff.2 fun event he => (PruneEvent.clean (h event he)).2.1
  have hcancelled : events.any (·.isCancelled) = false :=
    List.any_eq_false.2 fun event he => by simp [(PruneEvent.clean (h event he)).2.2]
  unfold pruned
  dsimp only
  rw [hlisted, hdeleted, hcancelled]
  exact ⟨_, rfl⟩

theorem pruneKinds_kept (he : e.OnMemory view) (hl : e.Logs log) {scope : PruneScope}
    {kinds : List Kind} {r : Run σ} (h : ∀ kind ∈ kinds, (view r.world).Keeps scope kind) :
    (∀ event ∈ (e.pruneKinds scope kinds r).1, event.isFailure = false) ∧
      Reads view log r.world (e.pruneKinds scope kinds r).2.world := by
  induction kinds generalizing r with
  | nil => exact ⟨fun _ hevent => absurd hevent List.not_mem_nil, .refl _⟩
  | cons kind rest ih =>
    obtain ⟨⟨owned, hlist, hkeeps⟩, hrest⟩ := List.forall_mem_cons.1 h
    have hanswer := (he.list kind scope.owner.metadata.namespace? scope.owner.selector
      r.world).1.trans hlist
    have hreads : Reads view log r.world (e.afterList scope kind r).world :=
      .list he hl kind _ _ r.world
    obtain ⟨hothers, hread⟩ := ih (r := e.afterList scope kind r) (hreads.store ▸ hrest)
    have hnone : ((owned.filter scope.owner.controls).map
        (PruneEvent.kept ·.identity)).any (·.isCancelled) = false := by
      simp [PruneEvent.isCancelled]
    rw [e.pruneKinds_listed scope hanswer, pruneObjects_kept _ hkeeps]
    dsimp only
    rw [hnone, if_neg Bool.false_ne_true]
    refine ⟨fun event hevent => ?_, hreads.trans hread⟩
    rcases List.mem_append.1 hevent with hevent | hevent
    · obtain ⟨o, -, rfl⟩ := List.mem_map.1 hevent
      rfl
    · exact hothers event hevent

theorem sampleHealth_listed (he : e.OnMemory view) (hl : e.Logs log) {owner : Owner} {w : σ}
    (h : ∀ kind ∈ [Kind.deployment, .statefulSet],
      ∃ workloads, (view w).list kind owner.metadata.namespace? owner.selector = .ok workloads) :
    (sampleHealth e.store owner w).1 =
        .ok (StackHealth.empty.observeAll ((view w).workloads owner)) ∧
      Reads view log w (sampleHealth e.store owner w).2 := by
  obtain ⟨deployments, hdeployments⟩ := h .deployment (by simp)
  obtain ⟨sets, hsets⟩ := h .statefulSet (by simp)
  have hreads := Reads.list he hl .deployment owner.metadata.namespace? owner.selector w
  have hreads' := Reads.list he hl .statefulSet owner.metadata.namespace? owner.selector
    (e.store.list .deployment owner.metadata.namespace? owner.selector w).2
  have hanswer := (he.list .deployment owner.metadata.namespace? owner.selector w).1.trans
    hdeployments
  have hanswer' := (he.list .statefulSet owner.metadata.namespace? owner.selector
    (e.store.list .deployment owner.metadata.namespace? owner.selector w).2).1
  rw [hreads.store, hsets] at hanswer'
  have hrun : sampleHealth e.store owner w =
      (.ok (StackHealth.empty.observeAll ((deployments ++ sets).filter owner.controls)),
        (e.store.list .statefulSet owner.metadata.namespace? owner.selector
          (e.store.list .deployment owner.metadata.namespace? owner.selector w).2).2) := by
    unfold sampleHealth
    rw [run_bind, hanswer]
    dsimp only
    rw [run_bind, hanswer']
    rfl
  rw [hrun]
  refine ⟨congrArg Except.ok (sampleHealth_run he (congrArg Prod.fst hrun)), hreads.trans hreads'⟩

/-- **At rest, the stages of a pass read the store** and do nothing else. -/
theorem converge_of_atRest (he : e.OnMemory view) (hl : e.Logs log)
    (hc : ∀ w, e.cancelled w = false) {owner : Owner} {objects : List ManagedObject} {r : Run σ}
    (h : (view r.world).AtRest e.registry e.settings.features.prunableKinds owner objects) :
    (e.converge owner (.ok objects) r).1 =
        .ok (StackHealth.empty.observeAll ((view r.world).workloads owner)) ∧
      Reads view log r.world (e.converge owner (.ok objects) r).2.world := by
  obtain ⟨hsync, hsynced⟩ := sync_steady he hl hc h.steady
  let kinds := e.settings.features.prunableKinds
  let keep := ((view r.world).unchangedReport objects).uids
  let r₁ := (e.sync owner objects r).2
  let r₂ := (e.prune owner objects kinds keep r₁).2
  obtain ⟨hevents, hpruned⟩ :
      (∀ event ∈ (e.pruneKinds ((view r.world).unchangedScope owner objects) kinds r₁).1,
        event.isFailure = false) ∧ Reads view log r₁.world r₂.world :=
    pruneKinds_kept he hl (hsynced.store ▸ h.kept)
  obtain ⟨report, hreport⟩ := pruned_of_clean hevents
  have hview : view r₂.world = view r.world := hpruned.store.trans hsynced.store
  obtain ⟨hhealth, hsampled⟩ := sampleHealth_listed he hl (w := r₂.world) (hview ▸ h.sampled)
  rw [hview] at hhealth
  have hconverges : e.Converges owner (.ok objects) r _
      { r₂ with world := (sampleHealth e.store owner r₂.world).2 } :=
    .intro (Prod.ext hsync rfl) (Prod.ext hreport rfl) (Prod.ext hhealth rfl)
  rw [hconverges.converge]
  exact ⟨rfl, (hsynced.trans hpruned).trans hsampled⟩

/-! ## 4. Passes that write nothing -/

theorem later_pruneObjects (he : e.OnMemory view) (scope : PruneScope) (kind : Kind)
    (owned : List ManagedObject) (r : Run σ) :
    Memory.Later (view r.world) (view (e.pruneObjects scope kind owned r).2.world) :=
  keeps_pruneObjects he (P := Memory.Later (view r.world))
    (fun _ _ _ _ h => h.trans (.delete _ _)) r (.refl _)

theorem later_pruneKinds (he : e.OnMemory view) (scope : PruneScope) (kinds : List Kind)
    (r : Run σ) : Memory.Later (view r.world) (view (e.pruneKinds scope kinds r).2.world) :=
  keeps_pruneKinds he (P := Memory.Later (view r.world))
    (fun _ _ _ _ _ _ _ h => h.trans (.delete _ _)) r (.refl _)

/-- Of present objects that were gone through without failure and without writing, each is to
stay: the first that is not would have been deleted. -/
theorem kept_of_pruneObjects (he : e.OnMemory view) {scope : PruneScope} (kind : Kind)
    {owned : List ManagedObject} {r : Run σ}
    (hpresent : ∀ o ∈ owned, ((view r.world).objects.get? o.identity).isSome = true)
    (hevents : ∀ event ∈ (e.pruneObjects scope kind owned r).1, event.isFailure = false)
    (hj : (view (e.pruneObjects scope kind owned r).2.world).journal = (view r.world).journal) :
    ∀ o ∈ owned, scope.owner.controls o = true → scope.keeps o = true := by
  induction owned generalizing r with
  | nil => exact fun o ho => absurd ho List.not_mem_nil
  | cons o rest ih =>
    obtain ⟨hfirst, hrest⟩ := List.forall_mem_cons.1 hpresent
    cases hcontrols : scope.owner.controls o with
    | false =>
      rw [e.pruneObjects_skip scope hcontrols] at hevents hj
      refine List.forall_mem_cons.2 ⟨fun h => ?_, ih hrest hevents hj⟩
      cases hcontrols.symm.trans h
    | true =>
      cases hkeeps : scope.keeps o with
      | true =>
        rw [e.pruneObjects_keep scope hcontrols hkeeps] at hevents hj
        exact List.forall_mem_cons.2
          ⟨fun _ => hkeeps, ih hrest (List.forall_mem_cons.1 hevents).2 hj⟩
      | false =>
        exfalso
        cases hc : e.cancelled r.world with
        | true =>
          rw [e.pruneObjects_cancel scope hcontrols hkeeps hc] at hevents
          cases hevents _ List.mem_cons_self
        | false =>
          obtain ⟨r', hworld, hrun⟩ := e.pruneObjects_delete scope rest hcontrols hkeeps hc
          obtain ⟨hresult, hview⟩ := he.delete o.identity r.world
          have hlength := (later_pruneObjects he scope kind rest r').length_le
          rw [hrun] at hevents hj
          have hevent := hevents _ List.mem_cons_self
          have hdeleted : ((view r.world).delete o.identity).1 = .ok () := by
            rw [hresult] at hevent
            cases hd : ((view r.world).delete o.identity).1 with
            | error cause =>
              rw [hd] at hevent
              cases hevent
            | ok _ => rfl
          have hgrown := Memory.lt_delete hfirst hdeleted
          dsimp only at hj
          rw [hj, hworld, hview] at hlength
          omega

theorem keeps_of_pruneKinds (he : e.OnMemory view) {scope : PruneScope} {kinds : List Kind}
    {r : Run σ}
    (hevents : ∀ event ∈ (e.pruneKinds scope kinds r).1, event.isFailure = false)
    (hj : (view (e.pruneKinds scope kinds r).2.world).journal = (view r.world).journal) :
    ∀ kind ∈ kinds, (view r.world).Keeps scope kind := by
  induction kinds generalizing r with
  | nil => exact fun kind hkind => absurd hkind List.not_mem_nil
  | cons kind rest ih =>
    obtain ⟨hanswer, hview⟩ :=
      he.list kind scope.owner.metadata.namespace? scope.owner.selector r.world
    have hafter : view (e.afterList scope kind r).world = view r.world := hview
    cases hlist : (view r.world).list kind scope.owner.metadata.namespace? scope.owner.selector with
    | error cause =>
      rw [e.pruneKinds_failed scope (hanswer.trans hlist)] at hevents
      cases hevents _ List.mem_cons_self
    | ok owned =>
      rw [e.pruneKinds_listed scope (hanswer.trans hlist)] at hevents hj
      have hobjects := later_pruneObjects he scope kind owned (e.afterList scope kind r)
      generalize hpruned : e.pruneObjects scope kind owned (e.afterList scope kind r) = done
        at hevents hj hobjects
      obtain ⟨events, r'⟩ := done
      dsimp only at hevents hj hobjects
      cases hcancelled : events.any (·.isCancelled) with
      | true =>
        rw [hcancelled, if_pos rfl] at hevents
        obtain ⟨event, hmem, hc⟩ := List.any_eq_true.1 hcancelled
        cases (PruneEvent.clean (hevents event hmem)).2.2.symm.trans hc
      | false =>
        rw [hcancelled, if_neg Bool.false_ne_true] at hevents hj
        rw [hafter] at hobjects
        obtain ⟨hsame, hrest⟩ := hobjects.pinch (later_pruneKinds he scope rest r') hj
        have hevents' := List.forall_mem_append.1 hevents
        refine List.forall_mem_cons.2 ⟨⟨owned, hlist, ?_⟩, ?_⟩
        · refine kept_of_pruneObjects he kind (r := e.afterList scope kind r)
            (fun o ho => ?_) ?_ ?_
          · rw [hafter, (Memory.get?_of_mem_list hlist ho).1]
            rfl
          · rw [hpruned]
            exact hevents'.1
          · rw [hpruned, hafter, hsame]
        · rw [← hsame]
          exact ih hevents'.2 (congrArg Memory.journal hrest)

/-- A sample that was taken has listed the workloads. -/
theorem listed_of_sampleHealth (he : e.OnMemory view) {owner : Owner} {w : σ}
    {health : StackHealth} (h : (sampleHealth e.store owner w).1 = .ok health) :
    ∀ kind ∈ [Kind.deployment, .statefulSet],
      ∃ workloads, (view w).list kind owner.metadata.namespace? owner.selector = .ok workloads := by
  obtain ⟨hdeployments, hview⟩ :=
    he.list .deployment owner.metadata.namespace? owner.selector w
  unfold sampleHealth at h
  rw [run_bind] at h
  generalize e.store.list .deployment owner.metadata.namespace? owner.selector w = listed
    at h hdeployments hview
  obtain ⟨answer, w'⟩ := listed
  obtain ⟨hsets, -⟩ := he.list .statefulSet owner.metadata.namespace? owner.selector w'
  dsimp only at h hdeployments hview
  rw [hview] at hsets
  cases answer with
  | error cause => cases h
  | ok deployments =>
    dsimp only at h
    rw [run_bind] at h
    generalize e.store.list .statefulSet owner.metadata.namespace? owner.selector w' = listed
      at h hsets
    obtain ⟨answer, w''⟩ := listed
    cases answer with
    | error cause => cases h
    | ok sets =>
      intro kind hkind
      simp only [List.mem_cons, List.not_mem_nil, or_false] at hkind
      rcases hkind with rfl | rfl
      · exact ⟨deployments, hdeployments.symm⟩
      · exact ⟨sets, hsets.symm⟩

/-- **A pass whose stages succeed and write nothing has found the store at rest.** -/
theorem atRest_of_converge (he : e.OnMemory view) {owner : Owner} {objects : List ManagedObject}
    {r r' : Run σ} {health : StackHealth} (h : e.Converges owner (.ok objects) r health r')
    (hj : (view r'.world).journal = (view r.world).journal) :
    (view r.world).AtRest e.registry e.settings.features.prunableKinds owner objects ∧
      view r'.world = view r.world ∧
      health = StackHealth.empty.observeAll ((view r.world).workloads owner) := by
  cases h with
  | intro hsync hprune hhealth =>
    rename_i r₁ r₂ report pruned w
    have hsampled : view w = view r₂.world := by
      have hkept := keeps_sampleHealth (P := (· = view r₂.world)) he owner r₂.world rfl
      rw [hhealth] at hkept
      exact hkept
    have hsteps := sync_steps he (congrArg Prod.fst hsync)
    rw [hsync] at hsteps
    dsimp only at hsteps
    have hevents : ∀ event ∈ (e.pruneKinds ⟨owner, objects.map (·.identity), report.uids⟩
        e.settings.features.prunableKinds r₁).1, event.isFailure = false :=
      fun event hevent => pruned_eq_ok (congrArg Prod.fst hprune) hevent
    have hpruned : (e.pruneKinds ⟨owner, objects.map (·.identity), report.uids⟩
        e.settings.features.prunableKinds r₁).2 = r₂ := congrArg Prod.snd hprune
    have hlater := later_pruneKinds he ⟨owner, objects.map (·.identity), report.uids⟩
      e.settings.features.prunableKinds r₁
    rw [hpruned] at hlater
    dsimp only at hj
    rw [hsampled] at hj
    obtain ⟨hsame, hsame'⟩ := hsteps.later.pinch hlater hj
    obtain ⟨hsteady, hrecords⟩ := hsteps.steady (congrArg Memory.journal hsame)
    have hreport : report = (view r.world).unchangedReport objects := by
      obtain ⟨hskipped, -⟩ := summarize_eq_ok_iff.1 (congrArg Prod.fst hsync)
      obtain ⟨records, skipped⟩ := report
      obtain rfl : skipped = [] := hskipped
      rw [Memory.unchangedReport, ← hrecords]
    have hkept := keeps_of_pruneKinds he hevents (by rw [hpruned, hsame'])
    have hview : view r₂.world = view r.world := hsame'.trans hsame
    rw [hsame, hreport] at hkept
    have hlisted := listed_of_sampleHealth he (congrArg Prod.fst hhealth)
    rw [hview] at hlisted
    refine ⟨⟨hsteady, hkept, hlisted⟩, hsampled.trans hview, ?_⟩
    rw [← hview]
    exact sampleHealth_run he (congrArg Prod.fst hhealth)

end Engine

end Reconciliation
