import Reconciliation.Cluster
import Reconciliation.Proofs.Counters
import Reconciliation.Proofs.Pass.Independence
import Reconciliation.Proofs.Pass.Logbook

/-!
# What the stages of a pass note

Syncing and pruning note what they do one by one, and report it all at the end. Nothing is noted
that is not reported, and nothing reported that was not noted: the two are the same up to order,
whether the stage succeeds, fails, or is cancelled halfway.

* `Pass.Notes` -- the steps whose notes fit their results, and how they compose;
* `StageReport` -- the result of a stage, with the observations that it tells of;
* `ObjectStore.ListsAsked` -- a listing of a kind has objects of that kind, as those of both stores
  do;
* **`Engine.notes_sync`**, **`Engine.notes_prune`** -- the notes of the two stages are their
  reports.
-/

namespace Reconciliation

/-! ## 1. Steps that note -/

/-- The step adds to the log, and what it adds fits its result. -/
def Pass.Notes (act : Pass σ α) (fits : α → Metrics → Prop) : Prop :=
  ∀ r, ∃ noted, (act r).2.metrics = r.metrics ++ noted ∧ fits (act r).1 noted

namespace Pass.Notes

variable {σ α β : Type} {fits : α → Metrics → Prop} {fits' : β → Metrics → Prop}

theorem pure {a : α} (h : fits a []) : Notes (Pure.pure a : Pass σ α) fits := fun _ =>
  ⟨[], (List.append_nil _).symm, h⟩

/-- First the notes of the one step, then those of the other. -/
theorem bind {act : Pass σ α} {next : α → Pass σ β} (h : Notes act fits)
    (hnext : ∀ a noted, fits a noted → Notes (next a) fun b later => fits' b (noted ++ later)) :
    Notes (act >>= next) fits' := by
  intro r
  obtain ⟨noted, hact, ha⟩ := h r
  obtain ⟨later, hlater, hb⟩ := hnext _ noted ha (act r).2
  refine ⟨noted ++ later, ?_, hb⟩
  rw [run_bind, hlater, hact, List.append_assoc]

/-- A step that depends on the state. -/
theorem ofState {next : Run σ → Pass σ β} (h : ∀ s, Notes (next s) fits') :
    Notes (MonadState.get >>= next) fits' := fun r => h r r

/-- A call notes nothing. -/
theorem onWorld_bind {act : StateM σ α} {next : α → Pass σ β}
    (h : ∀ w, Notes (next (act w).1) fits') : Notes (Pass.onWorld act >>= next) fits' :=
  fun r => h r.world { r with world := (act r.world).2 }

theorem observe_bind {o : Observation} {next : Unit → Pass σ β}
    (h : Notes (next ()) fun b later => fits' b (o :: later)) :
    Notes (Pass.observe o >>= next) fits' := by
  intro r
  obtain ⟨later, hlater, hb⟩ := h (Pass.observe o r).2
  refine ⟨o :: later, ?_, hb⟩
  rw [run_bind, hlater]
  exact List.append_assoc _ _ _

/-- What is made of the result of a step. -/
theorem map {act : Pass σ α} {f : α → β} (h : Notes act fits)
    (hf : ∀ a noted, fits a noted → fits' (f a) noted) :
    Notes (act >>= fun a => Pure.pure (f a)) fits' := by
  intro r
  obtain ⟨noted, hact, ha⟩ := h r
  exact ⟨noted, hact, hf _ noted ha⟩

end Pass.Notes

/-! ## 2. Reports -/

/-- What a stage of a pass reports, as a result or within its error. -/
inductive StageReport where
  | sync (result : Except SyncError SyncReport)
  | prune (result : Except PruneError PruneReport)

/-- The failures of a prune. -/
def PruneError.failuresOf : Except PruneError PruneReport → List ObjectFailure
  | .ok _ => []
  | .error failure => failure.failures

/-- The report of a prune, complete or partial. -/
def PruneReport.ofResult : Except PruneError PruneReport → PruneReport
  | .ok report => report
  | .error failure => failure.report

namespace StageReport

/-- The records of synced objects. -/
def records : StageReport → List ObjectRecord
  | sync result => (SyncReport.ofResult result).records
  | prune _ => []

/-- The objects that could not be synced or deleted. -/
def failures : StageReport → List ObjectFailure
  | sync result => SyncError.failuresOf result
  | prune result => PruneError.failuresOf result

/-- The identities of pruned objects. -/
def deleted : StageReport → List ObjectIdentity
  | sync _ => []
  | prune result => (PruneReport.ofResult result).deleted

/-- The observations that a report tells of. -/
def observations (s : StageReport) : Metrics :=
  s.records.map (fun record => .synced record.identity.kind.name record.outcome.name) ++
    s.failures.map (fun failure => .objectError failure.identity.kind.name) ++
    s.deleted.map fun id => .pruned id.kind.name

/-- A report tells of objects only, and of nothing that an engine does not observe. -/
theorem of_mem_observations {s : StageReport} {o : Observation} (h : o ∈ s.observations) :
    o.OfEngine ∧ o.isOfObject = true := by
  rcases List.mem_append.1 h with h | h
  · rcases List.mem_append.1 h with h | h
    · obtain ⟨record, -, rfl⟩ := List.mem_map.1 h
      exact ⟨.synced _ _, rfl⟩
    · obtain ⟨failure, -, rfl⟩ := List.mem_map.1 h
      exact ⟨.objectError _, rfl⟩
  · obtain ⟨id, -, rfl⟩ := List.mem_map.1 h
    exact ⟨.pruned _, rfl⟩

/-- What is told of by one part of the reports only can be counted there. -/
theorem count_observations {x : Observation} {α : Type} {part : StageReport → List α}
    {p : α → Bool} (h : ∀ s : StageReport, s.observations.count x = (part s).countP p)
    (reports : List StageReport) :
    (reports.flatMap (·.observations)).count x = (reports.flatMap part).countP p := by
  rw [List.count_flatMap, List.countP_flatMap]
  exact congrArg List.sum (List.map_congr_left fun s _ => h s)

theorem count_synced (s : StageReport) (kind : Kind) (outcome : SyncOutcome) :
    s.observations.count (.synced kind.name outcome.name) =
      s.records.countP fun record => record.identity.kind = kind ∧ record.outcome = outcome := by
  simp [observations, List.count_eq_countP, List.countP_map, Function.comp_def, beq_eq_decide]

theorem count_objectError (s : StageReport) (kind : Kind) :
    s.observations.count (.objectError kind.name) =
      s.failures.countP fun failure => failure.identity.kind = kind := by
  simp [observations, List.count_eq_countP, List.countP_map, Function.comp_def, beq_eq_decide]

theorem count_pruned (s : StageReport) (kind : Kind) :
    s.observations.count (.pruned kind.name) = s.deleted.countP fun id => id.kind = kind := by
  simp [observations, List.count_eq_countP, List.countP_map, Function.comp_def, beq_eq_decide]

/-- Reports say nothing about the passes themselves. -/
theorem count_of_not_object {x : Observation} (h : x.isOfObject = false)
    (reports : List StageReport) : (reports.flatMap (·.observations)).count x = 0 := by
  refine List.count_eq_zero.2 fun hx => ?_
  obtain ⟨s, -, hs⟩ := List.mem_flatMap.1 hx
  exact Bool.false_ne_true (h.symm.trans (of_mem_observations hs).2)

end StageReport

/-! ## 3. Syncing -/

/-- What is noted of an attempt. -/
def Attempt.observation? : Attempt → Option Observation
  | synced record => some (.synced record.identity.kind.name record.outcome.name)
  | failed failure => some (.objectError failure.identity.kind.name)
  | skipped _ => none

/-- The attempts as they are noted, one by one, and as they are reported, sorted. -/
theorem Attempt.perm_observations (attempts : List Attempt) :
    (attempts.filterMap (·.observation?)).Perm
      (StageReport.sync (summarize attempts)).observations := by
  unfold StageReport.observations StageReport.records StageReport.failures StageReport.deleted
  dsimp only
  rw [SyncReport.records_ofResult, SyncError.failuresOf_summarize, List.map_nil, List.append_nil]
  induction attempts with
  | nil => exact .nil
  | cons first rest ih =>
    cases first with
    | synced record => exact ih.cons _
    | failed failure => exact (ih.cons _).trans List.perm_middle.symm
    | skipped id => exact ih

/-- A record is that of the object which was attempted. -/
theorem identity_syncObject (store : ObjectStore σ) (registry : Registry)
    (owner? : Option OwnerReference) (object : ManagedObject) (w : σ) (record : ObjectRecord)
    (h : (syncObject store registry owner? object w).1 = .ok record) :
    record.identity = object.identity := by
  have hrun := Engine.syncObject_run store registry owner? object w
  rw [h] at hrun
  generalize hresult : Except.ok record = result at hrun
  generalize (syncObject store registry owner? object w).2 = after at hrun
  cases hrun with
  | unread | unmerged => cases hresult
  | unchanged =>
    cases hresult
    rfl
  | create | delete | update =>
    obtain ⟨-, -, rfl⟩ := recordOf_eq_ok hresult.symm
    rfl

namespace Engine

variable {σ : Type} {e : Engine σ}

theorem notes_attempt (owner? : Option OwnerReference) (object : ManagedObject) :
    (e.attempt owner? object).Notes fun entry noted => noted = entry.observation?.toList := by
  refine .onWorld_bind fun w => ?_
  cases hsync : (syncObject e.store e.registry owner? object w).1 with
  | error cause => exact .observe_bind (.pure rfl)
  | ok record =>
    refine .observe_bind (.pure ?_)
    show [Observation.synced object.kind.name record.outcome.name] =
      [.synced record.identity.kind.name record.outcome.name]
    rw [identity_syncObject _ _ _ _ _ _ hsync]
    rfl

theorem notes_attempts (owner? : Option OwnerReference) (objects : List ManagedObject) :
    (e.attempts owner? objects).Notes fun entries noted =>
      noted = entries.filterMap (·.observation?) := by
  induction objects with
  | nil => exact .pure rfl
  | cons object rest ih =>
    refine .ofState fun s => ?_
    split
    · refine .pure (Eq.symm (List.filterMap_eq_nil_iff.2 fun entry hentry => ?_))
      obtain ⟨skipped, -, rfl⟩ := List.mem_map.1 hentry
      rfl
    · refine .bind (notes_attempt owner? object) fun first noted hfirst => ?_
      refine .map ih fun others later hlater => ?_
      rw [hfirst, hlater, List.filterMap_cons]
      cases first.observation? <;> rfl

/-- **A sync notes what it reports**, whatever it comes to. -/
theorem notes_sync (owner : Owner) (objects : List ManagedObject) :
    (e.sync owner objects).Notes fun result noted =>
      noted.Perm (StageReport.sync result).observations :=
  .map (notes_attempts owner.reference? objects) fun entries _ hnoted =>
    hnoted ▸ Attempt.perm_observations entries

end Engine

/-! ## 4. Pruning -/

/-- A listing of a kind has objects of that kind. -/
def ObjectStore.ListsAsked (s : ObjectStore σ) : Prop :=
  ∀ kind namespace? selector w owned, (s.list kind namespace? selector w).1 = .ok owned →
    ∀ o ∈ owned, o.kind = kind

theorem Engine.OnMemory.listsAsked {e : Engine σ} {view : σ → Memory} (he : e.OnMemory view) :
    e.store.ListsAsked := by
  intro kind namespace? selector w owned h o ho
  rw [(he.list kind namespace? selector w).1] at h
  exact (Memory.get?_of_mem_list h ho).2

theorem ManagedObject.kind_of_ofUntyped? {kind : Kind} {u : UntypedObject} {o : ManagedObject}
    (h : ofUntyped? kind u = some o) : o.kind = kind := by
  obtain ⟨j, -, h⟩ := Option.bind_eq_some_iff.1 h
  cases kind with
  | custom k =>
    obtain rfl := Option.some.inj h
    rfl
  | _ =>
    obtain ⟨a, -, rfl⟩ := Option.map_eq_some_iff.1 h
    rfl

theorem Cluster.kind_of_typed {kind : Kind} {u : UntypedObject} {o : ManagedObject}
    (h : typed kind u = .ok o) : o.kind = kind := by
  unfold typed at h
  cases hread : ManagedObject.ofUntyped? kind u with
  | none =>
    rw [hread] at h
    cases h
  | some read =>
    rw [hread] at h
    obtain rfl := Except.ok.inj h
    exact ManagedObject.kind_of_ofUntyped? hread

/-- Whatever the items of a listing are, they are read as the kind that was asked for. -/
theorem Cluster.kind_of_mem_typed {kind : Kind} {items : List UntypedObject}
    {owned : List ManagedObject} (h : items.mapM (typed kind) = .ok owned) :
    ∀ o ∈ owned, o.kind = kind := by
  induction items generalizing owned with
  | nil =>
    obtain rfl := Except.ok.inj h
    exact fun o ho => by cases ho
  | cons u rest ih =>
    rw [List.mapM_cons] at h
    cases hu : typed kind u with
    | error cause =>
      rw [hu] at h
      cases h
    | ok first =>
      cases hrest : rest.mapM (typed kind) with
      | error cause =>
        rw [hu, hrest] at h
        cases h
      | ok others =>
        rw [hu, hrest] at h
        obtain rfl := Except.ok.inj h
        exact List.forall_mem_cons.2 ⟨kind_of_typed hu, ih hrest⟩

/-- The store behind a connection lists what it is asked for, whatever the server answers. -/
theorem Cluster.listsAsked (c : Cluster σ) : c.store.ListsAsked := by
  intro kind namespace? selector w owned h
  have hlist : c.store.list kind namespace? selector w = c.list kind namespace? selector w := rfl
  rw [hlist, list, run_bind] at h
  generalize c.send (listRequest kind namespace? selector) Listing.decode? w = answer at h
  obtain ⟨result, w'⟩ := answer
  cases result with
  | error cause => cases h
  | ok listing => exact kind_of_mem_typed h

/-- What is noted of a prune. -/
def PruneEvent.observation? : PruneEvent → Option Observation
  | deleted id => some (.pruned id.kind.name)
  | failed failure => some (.objectError failure.identity.kind.name)
  | _ => none

/-- The events as they are noted, one by one, and as they are reported, sorted. -/
theorem PruneEvent.perm_observations (events : List PruneEvent) :
    (events.filterMap (·.observation?)).Perm
      (StageReport.prune (Reconciliation.pruned events)).observations := by
  have hfailures : PruneError.failuresOf (Reconciliation.pruned events) =
      events.filterMap (·.failure?) := by
    unfold Reconciliation.pruned
    dsimp only
    split
    · rename_i hclean
      simp only [Bool.and_eq_true, List.isEmpty_iff] at hclean
      exact hclean.1.2.symm
    · rfl
  have hdeleted : (PruneReport.ofResult (Reconciliation.pruned events)).deleted =
      events.filterMap (·.deleted?) := by
    unfold Reconciliation.pruned
    dsimp only
    split <;> rfl
  unfold StageReport.observations StageReport.records StageReport.failures StageReport.deleted
  dsimp only
  rw [hfailures, hdeleted, List.map_nil, List.nil_append]
  -- the facts about the results hold of the whole list only
  clear hfailures hdeleted
  induction events with
  | nil => exact .nil
  | cons first rest ih =>
    cases first with
    | deleted id => exact (ih.cons _).trans List.perm_middle.symm
    | failed failure => exact ih.cons _
    | _ => exact ih

namespace Engine

variable {σ : Type} {e : Engine σ}

theorem notes_pruneObjects (scope : PruneScope) {kind : Kind} {owned : List ManagedObject}
    (hkind : ∀ o ∈ owned, o.kind = kind) :
    (e.pruneObjects scope kind owned).Notes fun events noted =>
      noted = events.filterMap (·.observation?) := by
  induction owned with
  | nil => exact .pure rfl
  | cons object rest ih =>
    have ih := ih fun o ho => hkind o (List.mem_cons_of_mem _ ho)
    obtain rfl := hkind object List.mem_cons_self
    unfold pruneObjects
    split
    · exact ih
    · split
      · exact .map ih fun events noted hnoted => hnoted
      · refine .ofState fun s => ?_
        split
        · exact .pure rfl
        · refine .onWorld_bind fun w => ?_
          cases (e.store.delete object.identity w).1 <;>
            exact .observe_bind (.map ih fun events noted hnoted => congrArg (List.cons _) hnoted)

theorem notes_pruneKinds (hlists : e.store.ListsAsked) (scope : PruneScope) (kinds : List Kind) :
    (e.pruneKinds scope kinds).Notes fun events noted =>
      noted = events.filterMap (·.observation?) := by
  induction kinds with
  | nil => exact .pure rfl
  | cons kind rest ih =>
    refine .onWorld_bind fun w => ?_
    cases hlist : (e.store.list kind scope.owner.metadata.namespace? scope.owner.selector w).1 with
    | error cause => exact .map ih fun events noted hnoted => hnoted
    | ok owned =>
      have hkind := hlists _ _ _ w owned hlist
      refine .bind (notes_pruneObjects scope hkind) fun events noted hnoted => ?_
      split
      · exact .pure ((List.append_nil _).trans hnoted)
      · refine .map ih fun others later hlater => ?_
        rw [hnoted, hlater, List.filterMap_append]

/-- **A prune notes what it reports**, whatever it comes to. -/
theorem notes_prune (hlists : e.store.ListsAsked) (owner : Owner) (objects : List ManagedObject)
    (kinds : List Kind) (keep : List String) :
    (e.prune owner objects kinds keep).Notes fun result noted =>
      noted.Perm (StageReport.prune result).observations :=
  .map (notes_pruneKinds hlists _ kinds) fun events _ hnoted =>
    hnoted ▸ PruneEvent.perm_observations events

end Engine

end Reconciliation
