import Reconciliation.Pass.Reconcile
import Reconciliation.Proofs.Pass.Prune
import Reconciliation.Proofs.Pass.Sync

/-!
# What a pass does to the store

A pass writes the store in two ways only: it syncs a desired object, or it deletes an object of a
prunable kind that it listed and that no other resource controls. Everything else it does -- listing
workloads, writing the status, counting -- leaves the store alone.

* `Engine.keeps_pruneObjects`, `Engine.keeps_pruneKinds` -- the loops of pruning;
* `Engine.reconcile_unmanaged`, `Engine.reconcile_managed` -- what a pass comes to;
* `Engine.refreshStatus_cases`, `Engine.conclude_cases` -- how it ends;
* **`Engine.keeps_reconcile`** -- what both ways preserve, a pass preserves;
* `Engine.Respects`, `Engine.Respects.converge` -- what every call to the store and every
  observation about an object respects, the stages of a pass respect.
-/

namespace Reconciliation

/-- Listed objects are in the store, and of the listed kind. -/
theorem Memory.get?_of_mem_list {m : Memory} {kind : Kind} {ns? : Option String}
    {selector : LabelSelector} {owned : List ManagedObject}
    (h : m.list kind ns? selector = .ok owned) {o : ManagedObject} (ho : o ∈ owned) :
    m.objects.get? o.identity = some o ∧ o.kind = kind := by
  rw [list_eq] at h
  cases hf : m.listFailure? kind with
  | some cause =>
    rw [hf] at h
    cases h
  | none =>
    rw [hf] at h
    obtain rfl := Except.ok.inj h
    obtain ⟨entry, hentry, rfl⟩ := List.mem_map.1 ho
    obtain ⟨hmem, hlisted⟩ := List.mem_filter.1 hentry
    have hkey := m.keyed entry hmem
    have hget := m.objects.ascending.lookup_of_mem hmem
    rw [← hkey] at hget
    refine ⟨hget, ?_⟩
    simp only [listed, Bool.and_eq_true, beq_iff_eq] at hlisted
    rw [← hlisted.1.1, ← hkey]
    rfl

/-- Forgetting failures does not touch the world. -/
theorem Run.world_resetBackoff (r : Run σ) (key : String) :
    (r.resetBackoff key).world = r.world := by
  unfold resetBackoff
  split <;> rfl

namespace Engine

variable {σ : Type} {e : Engine σ} {view : σ → Memory} {P : Memory → Prop}

/-! ## 1. Pruning -/

theorem keeps_pruneObjects (he : e.OnMemory view) {scope : PruneScope} {kind : Kind}
    {owned : List ManagedObject}
    (hdelete : ∀ o ∈ owned, scope.owner.controls o = true →
      ∀ m, P m → P (m.delete o.identity).2) :
    Pass.Keeps view P (e.pruneObjects scope kind owned) := by
  intro r h
  induction owned generalizing r with
  | nil => exact h
  | cons o rest ih =>
    have hrest := ih fun o ho => hdelete o (List.mem_cons_of_mem _ ho)
    cases hcontrols : scope.owner.controls o with
    | false =>
      rw [e.pruneObjects_skip scope hcontrols]
      exact hrest r h
    | true =>
      cases hkeeps : scope.keeps o with
      | true =>
        rw [e.pruneObjects_keep scope hcontrols hkeeps]
        exact hrest r h
      | false =>
        cases hc : e.cancelled r.world with
        | true =>
          rw [e.pruneObjects_cancel scope hcontrols hkeeps hc]
          exact h
        | false =>
          obtain ⟨r', hworld, hrun⟩ := e.pruneObjects_delete scope rest hcontrols hkeeps hc
          rw [hrun]
          refine hrest _ ?_
          show P (view r'.world)
          rw [hworld, (he.delete o.identity r.world).2]
          exact hdelete o List.mem_cons_self hcontrols _ h

/-- An object is deleted some time after it was listed; the property holds at both times. -/
theorem keeps_pruneKinds (he : e.OnMemory view) {scope : PruneScope} {kinds : List Kind}
    (hdelete : ∀ m o, P m → m.objects.get? o.identity = some o → o.kind ∈ kinds →
      scope.owner.controls o = true → ∀ m', P m' → P (m'.delete o.identity).2) :
    Pass.Keeps view P (e.pruneKinds scope kinds) := by
  intro r h
  induction kinds generalizing r with
  | nil => exact h
  | cons kind rest ih =>
    have hrest := ih fun m o hm hg hk => hdelete m o hm hg (List.mem_cons_of_mem _ hk)
    obtain ⟨hresult, hview⟩ :=
      he.list kind scope.owner.metadata.namespace? scope.owner.selector r.world
    have hlist : P (view (e.afterList scope kind r).world) := by
      show P (view (e.store.list kind _ _ r.world).2)
      rw [hview]
      exact h
    cases hl : (view r.world).list kind scope.owner.metadata.namespace? scope.owner.selector with
    | error cause =>
      rw [e.pruneKinds_failed scope (hresult.trans hl)]
      exact hrest _ hlist
    | ok owned =>
      have howned :
          P (view (e.pruneObjects scope kind owned (e.afterList scope kind r)).2.world) := by
        refine keeps_pruneObjects he (fun o ho hcontrols => ?_) _ hlist
        obtain ⟨hg, hk⟩ := Memory.get?_of_mem_list hl ho
        exact hdelete (view r.world) o h hg (hk ▸ List.mem_cons_self) hcontrols
      rw [e.pruneKinds_listed scope (hresult.trans hl)]
      dsimp only
      split
      · exact howned
      · exact hrest _ howned

/-! ## 2. The pass -/

theorem reconcile_unmanaged (e : Engine σ) (clock : Clock) {owner : Owner}
    (h : owner.managementState = .unmanaged)
    (desired : Except ConfigurationError (List ManagedObject)) (r : Run σ) :
    e.reconcile clock owner desired r = (.ok .awaitChange, r) := by
  unfold reconcile
  rw [if_pos h]
  rfl

/-- The last of the stages of a pass: what comes of them is recorded. -/
theorem reconcile_managed (e : Engine σ) (clock : Clock) {owner : Owner}
    (h : owner.managementState ≠ .unmanaged)
    (desired : Except ConfigurationError (List ManagedObject)) (r : Run σ) :
    let converged := e.converge owner desired (Pass.observe .reconciliation r).2
    e.reconcile clock owner desired r =
      e.conclude clock owner converged.1
        (Pass.observe (.duration clock.elapsedMillis) converged.2).2 := by
  unfold reconcile
  rw [if_neg h]
  rfl

/-- A refresh of the status: it is carried already, or it cannot be written, or it is written and
that is noted. -/
theorem refreshStatus_cases (e : Engine σ) (owner : Owner) (conditions : List Condition)
    (r : Run σ) :
    let status : OwnerStatus := ⟨conditions, owner.metadata.generation⟩
    (owner.status = some status ∧ e.refreshStatus owner conditions r = (.ok false, r)) ∨
      owner.status ≠ some status ∧
        ((∃ cause w, e.status owner.target status r.world = (.error cause, w) ∧
            e.refreshStatus owner conditions r = (.error cause, { r with world := w })) ∨
          ∃ w, e.status owner.target status r.world = (.ok (), w) ∧
            e.refreshStatus owner conditions r =
              (.ok true, ⟨w, r.metrics ++ [.statusUpdate], r.retries⟩)) := by
  intro status
  unfold refreshStatus
  by_cases hcarried : owner.status = some status
  · rw [if_pos hcarried]
    exact .inl ⟨hcarried, rfl⟩
  · rw [if_neg hcarried, run_bind, Pass.run_onWorld]
    refine .inr ⟨hcarried, ?_⟩
    cases hwritten : e.status owner.target status r.world with
    | mk result w =>
      cases result with
      | error cause => exact .inl ⟨cause, w, rfl, rfl⟩
      | ok _ => exact .inr ⟨w, rfl, rfl⟩

/-- The last stage of a pass whose other stages succeeded: the refresh of the status decides, and
earlier failures are forgotten just if it succeeds. -/
theorem conclude_cases (e : Engine σ) (clock : Clock) (owner : Owner) (health : StackHealth)
    (r : Run σ) :
    let refreshed := e.refreshStatus owner
      ((PassOutcome.clean health).conditions owner.conditions clock.now) r
    (∃ cause last, refreshed = (.error cause, last) ∧
        e.conclude clock owner (.ok health) r = (.error (.status cause), last)) ∨
      ∃ written last, refreshed = (.ok written, last) ∧
        e.conclude clock owner (.ok health) r =
          (.ok (.requeue e.settings.resyncSeconds), last.resetBackoff owner.key) := by
  intro refreshed
  unfold conclude
  dsimp only
  rw [run_bind]
  cases hrefreshed : e.refreshStatus owner
      ((PassOutcome.clean health).conditions owner.conditions clock.now) r with
  | mk result last =>
    cases result with
    | error cause => exact .inl ⟨cause, last, hrefreshed, rfl⟩
    | ok written => exact .inr ⟨written, last, hrefreshed, rfl⟩

/-- Writing the status leaves the store alone. -/
theorem keeps_refreshStatus (he : e.OnMemory view) (owner : Owner) (conditions : List Condition) :
    Pass.Keeps view P (e.refreshStatus owner conditions) := by
  unfold refreshStatus
  extract_lets status
  split
  · exact .pure _
  · have hwrite : Keeps view P (e.status owner.target status) := .of_view_eq (he.status _ _)
    refine .bind (.onWorld hwrite) fun result => ?_
    cases result with
    | error cause => exact .pure _
    | ok _ => exact .bind (.observe _) fun _ => .pure _

/-- Sampling health leaves the store alone. -/
theorem keeps_sampleHealth (he : e.OnMemory view) (owner : Owner) :
    Keeps view P (sampleHealth e.store owner) := by
  have hlist : ∀ kind, Keeps view P
      (e.store.list kind owner.metadata.namespace? owner.selector) :=
    fun kind => .of_view_eq fun w => (he.list kind _ _ w).2
  unfold sampleHealth
  refine .bind (hlist .deployment) fun result => ?_
  cases result with
  | error cause => exact .pure _
  | ok deployments =>
    refine .bind (hlist .statefulSet) fun result => ?_
    cases result <;> exact .pure _

section Stages

variable (he : e.OnMemory view) (owner : Owner)
  (hdelete : ∀ m o, P m → m.objects.get? o.identity = some o →
    o.kind ∈ e.settings.features.prunableKinds → owner.controls o = true →
    ∀ m', P m' → P (m'.delete o.identity).2)

include he

include hdelete in
theorem keeps_afterSync (objects : List ManagedObject) (result : Except SyncError SyncReport) :
    Pass.Keeps view P (e.afterSync owner objects result) := by
  cases result with
  | error cause => exact .pure _
  | ok report =>
    have hpruned : Pass.Keeps view P
        (e.prune owner objects e.settings.features.prunableKinds report.uids) :=
      .bind (keeps_pruneKinds he hdelete) fun _ => .pure _
    refine .bind hpruned fun result => ?_
    cases result with
    | error cause => exact .pure _
    | ok _ =>
      refine .bind (.onWorld (keeps_sampleHealth he owner)) fun result => ?_
      cases result <;> exact .pure _

/-- Recording what came of the stages leaves the store alone. -/
theorem keeps_conclude (clock : Clock) (result : Except ReconcileError StackHealth) :
    Pass.Keeps view P (e.conclude clock owner result) := by
  cases result with
  | error cause =>
    exact .bind (.observe _) fun _ => .bind (keeps_refreshStatus he owner _) fun _ => .pure _
  | ok health =>
    refine .bind (keeps_refreshStatus he owner _) fun result => ?_
    cases result with
    | error cause => exact .pure _
    | ok _ =>
      have hreset : Pass.Keeps view P (modify (·.resetBackoff owner.key)) := by
        intro r h
        show P (view (r.resetBackoff owner.key).world)
        rw [Run.world_resetBackoff]
        exact h
      exact .bind hreset fun _ => .pure _

include hdelete

/-- **What a step on a desired object and the deletion of a listed one preserve, a pass
preserves.** -/
theorem keeps_reconcile (clock : Clock) {desired : Except ConfigurationError (List ManagedObject)}
    (hsync : ∀ objects, desired = .ok objects → ∀ o ∈ objects, ∀ m result m', P m →
      SyncStep e.registry owner.reference? o m result m' → P m') :
    Pass.Keeps view P (e.reconcile clock owner desired) := by
  have hconverge : Pass.Keeps view P (e.converge owner desired) := by
    cases desired with
    | error cause => exact .pure _
    | ok objects =>
      have hsynced : Pass.Keeps view P (e.sync owner objects) :=
        .bind (keeps_attempts _ he (hsync objects rfl)) fun _ => .pure _
      exact .bind hsynced fun result => keeps_afterSync he owner hdelete objects result
  unfold reconcile
  split
  · exact .pure _
  · exact .bind (.observe _) fun _ => .bind hconverge fun _ => .bind (.observe _) fun _ =>
      keeps_conclude he owner clock _

/-- What holds after the sync of a pass holds after the pass, if deletions of listed objects
preserve it. -/
theorem reconcile_of_sync (clock : Clock) {objects : List ManagedObject} {r : Run σ}
    (hmanaged : owner.managementState ≠ .unmanaged)
    (h : P (view (e.sync owner objects (Pass.observe .reconciliation r).2).2.world)) :
    P (view (e.reconcile clock owner (.ok objects) r).2.world) := by
  have hrest : ∀ result, Pass.Keeps view P (do
      let health ← e.afterSync owner objects result
      Pass.observe (.duration clock.elapsedMillis)
      e.conclude clock owner health) :=
    fun result => .bind (keeps_afterSync he owner hdelete objects result) fun _ =>
      .bind (.observe _) fun _ => keeps_conclude he owner clock _
  unfold reconcile
  rw [if_neg hmanaged]
  exact hrest _ _ h

end Stages

end Engine

/-! ## 3. What every step respects -/

/-- The observation is about an object: it was synced or deleted, or that failed. -/
def Observation.isOfObject : Observation → Bool
  | synced _ _ | objectError _ | pruned _ => true
  | _ => false

/-- A relation between the states before and after that every call to the store and every
observation about an object respects, one after another. -/
structure Engine.Respects (e : Engine σ) (R : Run σ → Run σ → Prop) : Prop where
  refl : ∀ r, R r r
  trans : ∀ r r' r'', R r r' → R r' r'' → R r r''
  observe : ∀ o r, o.isOfObject = true → R r (Pass.observe o r).2
  get : ∀ id r, R r (Pass.onWorld (e.store.get id) r).2
  create : ∀ o r, R r (Pass.onWorld (e.store.create o) r).2
  update : ∀ o r, R r (Pass.onWorld (e.store.update o) r).2
  delete : ∀ id r, R r (Pass.onWorld (e.store.delete id) r).2
  list : ∀ kind namespace? selector r,
    R r (Pass.onWorld (e.store.list kind namespace? selector) r).2

namespace Engine.Respects

variable {σ : Type} {e : Engine σ} {R : Run σ → Run σ → Prop} (h : e.Respects R)

include h

theorem bind {act : Pass σ α} {next : α → Pass σ β} (hact : ∀ r, R r (act r).2)
    (hnext : ∀ a r, R r (next a r).2) (r : Run σ) : R r ((act >>= next) r).2 :=
  h.trans _ _ _ (hact r) (hnext _ _)

theorem onWorld_bind {act : StateM σ α} {next : α → StateM σ β}
    (hact : ∀ r, R r (Pass.onWorld act r).2) (hnext : ∀ a r, R r (Pass.onWorld (next a) r).2)
    (r : Run σ) : R r (Pass.onWorld (act >>= next) r).2 := h.trans _ _ _ (hact r) (hnext _ _)

theorem syncObject (owner? : Option OwnerReference) (object : ManagedObject) (r : Run σ) :
    R r (Pass.onWorld (syncObject e.store e.registry owner? object) r).2 := by
  unfold Reconciliation.syncObject
  refine h.onWorld_bind (h.get _) (fun answer => ?_) r
  cases answer with
  | error cause => exact h.refl
  | ok found? =>
    cases found? with
    | none =>
      refine h.onWorld_bind (h.create _) fun answer => ?_
      cases answer <;> exact h.refl
    | some existing =>
      dsimp only
      cases e.registry.mutate existing (object.attach owner?) with
      | error cause =>
        cases cause with
        | immutableField violation =>
          refine h.onWorld_bind (h.delete _) fun answer => ?_
          cases answer <;> exact h.refl
        | _ => exact h.refl
      | ok merged =>
        dsimp only
        split
        · exact h.refl
        · refine h.onWorld_bind (h.update _) fun answer => ?_
          cases answer <;> exact h.refl

theorem attempts (owner? : Option OwnerReference) (objects : List ManagedObject) (r : Run σ) :
    R r (e.attempts owner? objects r).2 := by
  induction objects generalizing r with
  | nil => exact h.refl r
  | cons object rest ih =>
    have hattempt : ∀ r, R r (e.attempt owner? object r).2 := by
      refine h.bind (h.syncObject owner? object) fun result => ?_
      cases result <;> exact h.bind (fun r => h.observe _ r rfl) fun _ => h.refl
    refine h.bind h.refl (fun s => ?_) r
    split
    · exact h.refl
    · exact h.bind hattempt fun _ => h.bind ih fun _ => h.refl

theorem pruneObjects (scope : PruneScope) (kind : Kind) (owned : List ManagedObject) (r : Run σ) :
    R r (e.pruneObjects scope kind owned r).2 := by
  induction owned generalizing r with
  | nil => exact h.refl r
  | cons object rest ih =>
    unfold Engine.pruneObjects
    split
    · exact ih r
    · split
      · exact h.bind ih (fun _ => h.refl) r
      · refine h.bind h.refl (fun s => ?_) r
        split
        · exact h.refl
        · refine h.bind (h.delete _) fun answer => ?_
          cases answer <;>
            exact h.bind (fun r => h.observe _ r rfl) fun _ => h.bind ih fun _ => h.refl

theorem pruneKinds (scope : PruneScope) (kinds : List Kind) (r : Run σ) :
    R r (e.pruneKinds scope kinds r).2 := by
  induction kinds generalizing r with
  | nil => exact h.refl r
  | cons kind rest ih =>
    refine h.bind (h.list _ _ _) (fun answer => ?_) r
    cases answer with
    | error cause => exact h.bind ih fun _ => h.refl
    | ok owned =>
      refine h.bind (h.pruneObjects scope kind owned) fun events => ?_
      split
      · exact h.refl
      · exact h.bind ih fun _ => h.refl

theorem sampleHealth (owner : Owner) (r : Run σ) :
    R r (Pass.onWorld (sampleHealth e.store owner) r).2 := by
  refine h.onWorld_bind (h.list _ _ _) (fun answer => ?_) r
  cases answer with
  | error cause => exact h.refl
  | ok deployments =>
    refine h.onWorld_bind (h.list _ _ _) fun answer => ?_
    cases answer <;> exact h.refl

/-- **The stages of a pass** respect what calls to the store and observations about objects
respect. -/
theorem converge (owner : Owner) (desired : Except ConfigurationError (List ManagedObject))
    (r : Run σ) : R r (e.converge owner desired r).2 := by
  cases desired with
  | error cause => exact h.refl r
  | ok objects =>
    have hsync : ∀ r, R r (e.sync owner objects r).2 :=
      h.bind (h.attempts _ objects) fun _ => h.refl
    refine h.bind hsync (fun result => ?_) r
    cases result with
    | error cause => exact h.refl
    | ok report =>
      have hprune : ∀ r, R r
          (e.prune owner objects e.settings.features.prunableKinds report.uids r).2 :=
        h.bind (h.pruneKinds _ _) fun _ => h.refl
      refine h.bind hprune fun result => ?_
      cases result with
      | error cause => exact h.refl
      | ok _ =>
        refine h.bind (h.sampleHealth owner) fun result => ?_
        cases result <;> exact h.refl

end Engine.Respects

end Reconciliation
