import Reconciliation.Proofs.Health
import Reconciliation.Proofs.Pass.Logbook
import Reconciliation.Proofs.Pass.Retries

/-!
# Stages gate each other

A pass builds the objects, syncs them, prunes, samples health and writes the status. A stage that
fails ends the pass, but for one thing: the failure is written to the status of the owner, whether
or not that succeeds. So what is left of a failed pass is what its stages have done up to the
failure.

* `Engine.FailsAt`, `Engine.Converges` -- the first stage that fails, or the stages of a pass in
  which none does; `Engine.failsAt_or_converges`: there is no third way;
* `ChangedIn` -- conditions that differ in one of them at most;
* `FailedPass` -- a pass that fails at a stage: nothing but the failure is written afterwards;
* **`Engine.stages_gate`** -- the law.
-/

namespace Reconciliation

/-! ## 1. Stages -/

namespace Engine

variable {σ : Type}

/-- Of building, sync, prune and health sampling, the first to fail fails with this error and leaves
the world like this. -/
inductive FailsAt (e : Engine σ) (owner : Owner) :
    Except ConfigurationError (List ManagedObject) → Run σ → ReconcileError → σ → Prop
  | building {r : Run σ} (cause : ConfigurationError) :
      FailsAt e owner (.error cause) r (.configuration cause) r.world
  | sync {objects : List ManagedObject} {r r₁ : Run σ} {cause : SyncError}
      (hsync : e.sync owner objects r = (.error cause, r₁)) :
      FailsAt e owner (.ok objects) r (.sync cause) r₁.world
  | prune {objects : List ManagedObject} {r r₁ r₂ : Run σ} {report : SyncReport}
      {cause : PruneError} (hsync : e.sync owner objects r = (.ok report, r₁))
      (hprune : e.prune owner objects e.settings.features.prunableKinds report.uids r₁ =
        (.error cause, r₂)) :
      FailsAt e owner (.ok objects) r (.prune cause) r₂.world
  | health {objects : List ManagedObject} {r r₁ r₂ : Run σ} {report : SyncReport}
      {pruned : PruneReport} {cause : StoreError} {w : σ}
      (hsync : e.sync owner objects r = (.ok report, r₁))
      (hprune : e.prune owner objects e.settings.features.prunableKinds report.uids r₁ =
        (.ok pruned, r₂))
      (hhealth : sampleHealth e.store owner r₂.world = (.error cause, w)) :
      FailsAt e owner (.ok objects) r (.health cause) w

/-- None of these stages fails, and they leave this state. -/
inductive Converges (e : Engine σ) (owner : Owner) :
    Except ConfigurationError (List ManagedObject) → Run σ → StackHealth → Run σ → Prop
  | intro {objects : List ManagedObject} {r r₁ r₂ : Run σ} {report : SyncReport}
      {pruned : PruneReport} {health : StackHealth} {w : σ}
      (hsync : e.sync owner objects r = (.ok report, r₁))
      (hprune : e.prune owner objects e.settings.features.prunableKinds report.uids r₁ =
        (.ok pruned, r₂))
      (hhealth : sampleHealth e.store owner r₂.world = (.ok health, w)) :
      Converges e owner (.ok objects) r health { r₂ with world := w }

variable {e : Engine σ} {owner : Owner} {desired : Except ConfigurationError (List ManagedObject)}
  {r : Run σ}

theorem converge_synced {objects : List ManagedObject} {r₁ : Run σ}
    {result : Except SyncError SyncReport} (h : e.sync owner objects r = (result, r₁)) :
    e.converge owner (.ok objects) r = e.afterSync owner objects result r₁ := by
  unfold converge
  dsimp only
  rw [run_bind, h]

theorem afterSync_unpruned {objects : List ManagedObject} {report : SyncReport} {r' : Run σ}
    {cause : PruneError}
    (h : e.prune owner objects e.settings.features.prunableKinds report.uids r =
      (.error cause, r')) :
    e.afterSync owner objects (.ok report) r = (.error (.prune cause), r') := by
  unfold afterSync
  dsimp only
  rw [run_bind, h]
  rfl

theorem afterSync_pruned {objects : List ManagedObject} {report : SyncReport} {r' : Run σ}
    {pruned : PruneReport} {sampled : Except StoreError StackHealth} {w : σ}
    (h : e.prune owner objects e.settings.features.prunableKinds report.uids r = (.ok pruned, r'))
    (hhealth : sampleHealth e.store owner r'.world = (sampled, w)) :
    e.afterSync owner objects (.ok report) r =
      (sampled.mapError .health, { r' with world := w }) := by
  unfold afterSync
  dsimp only
  rw [run_bind, h]
  dsimp only
  rw [run_bind, Pass.run_onWorld, hhealth]
  cases sampled <;> rfl

theorem FailsAt.converge {cause : ReconcileError} {w : σ} (h : e.FailsAt owner desired r cause w) :
    (e.converge owner desired r).1 = .error cause ∧ (e.converge owner desired r).2.world = w := by
  cases h with
  | building cause => exact ⟨rfl, rfl⟩
  | sync hsync =>
    rw [converge_synced hsync]
    exact ⟨rfl, rfl⟩
  | prune hsync hprune =>
    rw [converge_synced hsync, afterSync_unpruned hprune]
    exact ⟨rfl, rfl⟩
  | health hsync hprune hhealth =>
    rw [converge_synced hsync, afterSync_pruned hprune hhealth]
    exact ⟨rfl, rfl⟩

theorem Converges.converge {health : StackHealth} {r' : Run σ}
    (h : e.Converges owner desired r health r') :
    e.converge owner desired r = (.ok health, r') := by
  cases h with
  | intro hsync hprune hhealth =>
    rw [converge_synced hsync, afterSync_pruned hprune hhealth]
    rfl

/-- **One of the stages is the first to fail, or none fails.** -/
theorem failsAt_or_converges (e : Engine σ) (owner : Owner)
    (desired : Except ConfigurationError (List ManagedObject)) (r : Run σ) :
    (∃ cause w, e.FailsAt owner desired r cause w) ∨
      ∃ health r', e.Converges owner desired r health r' := by
  cases desired with
  | error cause => exact .inl ⟨_, _, .building cause⟩
  | ok objects =>
    cases hsync : e.sync owner objects r with
    | mk synced r₁ =>
      cases synced with
      | error cause => exact .inl ⟨_, _, .sync hsync⟩
      | ok report =>
        cases hprune : e.prune owner objects e.settings.features.prunableKinds report.uids r₁ with
        | mk pruned r₂ =>
          cases pruned with
          | error cause => exact .inl ⟨_, _, .prune hsync hprune⟩
          | ok pruned =>
            cases hhealth : sampleHealth e.store owner r₂.world with
            | mk sampled w =>
              cases sampled with
              | error cause => exact .inl ⟨_, _, .health hsync hprune hhealth⟩
              | ok health => exact .inr ⟨_, _, .intro hsync hprune hhealth⟩

end Engine

/-! ## 2. Conditions -/

/-- The conditions differ in one of them at most: a condition of the type, which is replaced in its
place, or appended if there is none. -/
inductive ChangedIn (type : ConditionType) : List Condition → List Condition → Prop
  | appended (conditions : List Condition) {added : Condition} (ht : added.type = type.name)
      (hnone : ∀ c ∈ conditions, c.type ≠ type.name) :
      ChangedIn type conditions (conditions ++ [added])
  | replaced (front : List Condition) {current later : Condition} (back : List Condition)
      (ht : current.type = type.name) (ht' : later.type = type.name) :
      ChangedIn type (front ++ current :: back) (front ++ later :: back)

theorem ChangedIn.cons {type : ConditionType} {conditions later : List Condition}
    (h : ChangedIn type conditions later) {first : Condition} (hne : first.type ≠ type.name) :
    ChangedIn type (first :: conditions) (first :: later) := by
  cases h with
  | appended conditions ht hnone =>
    refine .appended (first :: conditions) ht fun c hc => ?_
    rcases List.mem_cons.1 hc with rfl | hc
    · exact hne
    · exact hnone c hc
  | replaced front back ht ht' => exact .replaced (first :: front) back ht ht'

/-- An observation changes the conditions in the one of its type. -/
theorem changedIn_updateCondition (conditions : List Condition) {observation : Condition}
    {type : ConditionType} (h : observation.type = type.name) (now : Instant) :
    ChangedIn type conditions (updateCondition conditions observation now) := by
  induction conditions with
  | nil => exact .appended [] h fun c hc => absurd hc List.not_mem_nil
  | cons current rest ih =>
    rw [updateCondition]
    split
    · rename_i heq
      have htype := heq.trans h
      exact .replaced [] rest htype
        ((current.type_refresh observation now.toText).trans htype)
    · rename_i hne
      exact ih.cons (h ▸ hne)

/-- The condition that tells of a failure. -/
def ReconcileError.conditionType : ReconcileError → ConditionType
  | configuration _ => .configurationError
  | _ => .failed

theorem PassOutcome.changedIn_ofError (cause : ReconcileError) (conditions : List Condition)
    (now : Instant) :
    ChangedIn cause.conditionType conditions ((ofError cause).conditions conditions now) := by
  cases cause <;> exact changedIn_updateCondition conditions rfl now

/-! ## 3. Failed passes -/

/-- The call writes a status of the owner whose conditions differ from the owner's in the one that
tells of the failure, whether or not the call succeeds. -/
inductive RecordsFailure (owner : Owner) (cause : ReconcileError) : EngineCall → Prop
  | status {conditions : List Condition} (succeeded : Bool)
      (hc : ChangedIn cause.conditionType owner.conditions conditions) :
      RecordsFailure owner cause
        (.status owner.target ⟨conditions, owner.metadata.generation⟩ succeeded)

variable {σ : Type} {e : Engine σ} {view : σ → Memory} {log : σ → List EngineCall}

/-- What a failed pass has done after the stage that failed: it returns the error of that stage,
whatever becomes of the status. Its only further call, if any, writes the failure to the status; the
store is as the stage has left it, and the retries are as they were before the pass. -/
structure FailedPass (view : σ → Memory) (log : σ → List EngineCall) (owner : Owner)
    (cause : ReconcileError) (before : Run σ) (stage : σ)
    (pass : Except ReconcileError Action × Run σ) : Prop where
  result : pass.1 = .error cause
  calls : ∃ call? : Option EngineCall, log pass.2.world = log stage ++ call?.toList ∧
    ∀ call ∈ call?, RecordsFailure owner cause call
  store : view pass.2.world = view stage
  retries : pass.2.retries = before.retries

namespace Engine

/-- A status that the owner carries already is not written. -/
theorem refreshStatus_carried {owner : Owner} {conditions : List Condition}
    (h : owner.status = some ⟨conditions, owner.metadata.generation⟩) (r : Run σ) :
    e.refreshStatus owner conditions r = (.ok false, r) :=
  (e.refreshStatus_cases owner conditions r).elim (·.2) fun hother => absurd h hother.1

/-- Any other status is, and the refresh succeeds just if the write does. -/
theorem refreshStatus_written (hl : e.Logs log) {owner : Owner} {conditions : List Condition}
    (h : owner.status ≠ some ⟨conditions, owner.metadata.generation⟩) (r : Run σ) :
    log (e.refreshStatus owner conditions r).2.world = log r.world ++
      [.status owner.target ⟨conditions, owner.metadata.generation⟩
        (e.refreshStatus owner conditions r).1.isOk] := by
  have hcall := hl.status owner.target ⟨conditions, owner.metadata.generation⟩ r.world
  rcases e.refreshStatus_cases owner conditions r with
    ⟨hcarried, -⟩ | ⟨-, ⟨cause, w, hwritten, hrefresh⟩ | ⟨w, hwritten, hrefresh⟩⟩
  · exact absurd hcarried h
  · rw [hwritten] at hcall
    rw [hrefresh]
    exact hcall
  · rw [hwritten] at hcall
    rw [hrefresh]
    exact hcall

/-- A refresh writes the status, or there is nothing to write. -/
theorem refreshStatus_calls (hl : e.Logs log) (owner : Owner) (conditions : List Condition)
    (r : Run σ) :
    ∃ call? : Option EngineCall,
      log (e.refreshStatus owner conditions r).2.world = log r.world ++ call?.toList ∧
        ∀ call ∈ call?, ∃ succeeded,
          call = .status owner.target ⟨conditions, owner.metadata.generation⟩ succeeded := by
  by_cases hcarried : owner.status = some ⟨conditions, owner.metadata.generation⟩
  · rw [refreshStatus_carried hcarried]
    exact ⟨none, (List.append_nil _).symm, fun call h => by cases h⟩
  · exact ⟨some _, refreshStatus_written hl hcarried r,
      fun call h => ⟨_, (Option.mem_some.1 h).symm⟩⟩

/-- **A stage that fails** ends the pass. -/
theorem FailsAt.failedPass (he : e.OnMemory view) (hl : e.Logs log) (clock : Clock) {owner : Owner}
    (hmanaged : owner.managementState ≠ .unmanaged)
    {desired : Except ConfigurationError (List ManagedObject)} {r : Run σ} {cause : ReconcileError}
    {stage : σ}
    (h : e.FailsAt owner desired (Pass.observe .reconciliation r).2 cause stage) :
    FailedPass view log owner cause r stage (e.reconcile clock owner desired r) := by
  obtain ⟨hresult, hstage⟩ := h.converge
  have hretries := e.retries_reconcile clock hmanaged desired r
  rw [e.reconcile_managed clock hmanaged] at hretries ⊢
  generalize e.converge owner desired (Pass.observe .reconciliation r).2 = converged at *
  obtain ⟨result, after⟩ := converged
  dsimp only at hresult hstage
  subst hresult hstage
  -- what is left of the pass is one refresh of the status
  let recorded := (PassOutcome.ofError cause).conditions owner.conditions clock.now
  let last := (Pass.observe .reconciliationError
    (Pass.observe (.duration clock.elapsedMillis) after).2).2
  have hkept := keeps_refreshStatus he owner recorded (P := (· = view after.world)) last rfl
  obtain ⟨call?, hlog, hcall⟩ := refreshStatus_calls hl owner recorded last
  refine ⟨rfl, ⟨call?, hlog, fun call hmem => ?_⟩, hkept, hretries⟩
  obtain ⟨succeeded, rfl⟩ := hcall call hmem
  exact .status succeeded (PassOutcome.changedIn_ofError cause owner.conditions clock.now)

/-! ## 4. What makes a stage fail -/

/-- An object that was not brought about, or left out, makes the sync fail. -/
theorem sync_fails {owner : Owner} {objects : List ManagedObject} {r : Run σ} {a : Attempt}
    (ha : a ∈ (e.attempts owner.reference? objects r).1) (hr : a.record? = none) :
    ∃ cause, e.sync owner objects r = (.error cause, (e.sync owner objects r).2) := by
  cases hsync : (e.sync owner objects r).1 with
  | error cause => exact ⟨cause, Prod.ext hsync rfl⟩
  | ok report =>
    rw [(summarize_eq_ok_iff.1 hsync).2] at ha
    obtain ⟨record, -, rfl⟩ := List.mem_map.1 ha
    cases hr

end Engine

/-- Whether what happened makes the prune fail: something was not deleted or not listed, or the pass
was cancelled. -/
def PruneEvent.isFailure : PruneEvent → Bool
  | kept _ | deleted _ => false
  | failed _ | listFailed _ | cancelled => true

theorem pruned_eq_ok {events : List PruneEvent} {report : PruneReport}
    (h : pruned events = .ok report) {event : PruneEvent} (he : event ∈ events) :
    event.isFailure = false := by
  unfold pruned at h
  dsimp only at h
  split at h
  · rename_i hclean
    simp only [Bool.and_eq_true, List.isEmpty_iff, Bool.not_eq_true', List.any_eq_false] at hclean
    obtain ⟨⟨hlisted, hdeleted⟩, hcancelled⟩ := hclean
    cases event with
    | kept id => rfl
    | deleted id => rfl
    | failed failure => cases List.filterMap_eq_nil_iff.1 hdeleted _ he
    | listFailed failure => cases List.filterMap_eq_nil_iff.1 hlisted _ he
    | cancelled => exact absurd rfl (hcancelled _ he)
  · cases h

namespace Engine

/-- Anything that went wrong while pruning makes the prune fail. -/
theorem prune_fails {owner : Owner} {objects : List ManagedObject} {kinds : List Kind}
    {keep : List String} {r : Run σ} {event : PruneEvent}
    (hmem : event ∈ (e.pruneKinds ⟨owner, objects.map (·.identity), keep⟩ kinds r).1)
    (hf : event.isFailure = true) :
    ∃ cause, e.prune owner objects kinds keep r =
      (.error cause, (e.prune owner objects kinds keep r).2) := by
  cases hprune : (e.prune owner objects kinds keep r).1 with
  | error cause => exact ⟨cause, Prod.ext hprune rfl⟩
  | ok report =>
    rw [pruned_eq_ok hprune hmem] at hf
    cases hf

/-! ## 5. The pass -/

/-- All stages succeed: building, sync, prune and health sampling, and then the status is written,
or needs not be. -/
def Completes (e : Engine σ) (clock : Clock) (owner : Owner)
    (desired : Except ConfigurationError (List ManagedObject)) (r : Run σ) : Prop :=
  ∃ health r', e.Converges owner desired r health r' ∧
    ∃ written, (e.refreshStatus owner
      ((PassOutcome.clean health).conditions owner.conditions clock.now)
      (Pass.observe (.duration clock.elapsedMillis) r').2).1 = .ok written

/-- How the stages of a pass of a managed owner gate each other. They begin in the state `start`,
which is the state `r` before the pass but for its metrics. -/
structure Gated (e : Engine σ) (view : σ → Memory) (log : σ → List EngineCall) (clock : Clock)
    (owner : Owner) (desired : Except ConfigurationError (List ManagedObject)) (start r : Run σ)
    (pass : Except ReconcileError Action × Run σ) : Prop where
  /-- The first stage that fails ends the pass with its error, but for a record of the failure. -/
  failed : ∀ cause stage, e.FailsAt owner desired start cause stage →
    FailedPass view log owner cause r stage pass
  /-- Any object that is not brought about makes the sync the last stage. -/
  sync : ∀ objects, desired = .ok objects →
    (∃ a ∈ (e.attempts owner.reference? objects start).1, a.record? = none) →
      (∃ cause, e.FailsAt owner desired start (.sync cause)
        (e.sync owner objects start).2.world) ∧
      ∀ id, (∀ o ∈ objects, o.identity ≠ id) →
        Memory.Spares id (view r.world) (view pass.2.world)
  /-- Anything that goes wrong while pruning makes the prune the last stage. -/
  prune : ∀ objects report synced, desired = .ok objects →
    e.sync owner objects start = (.ok report, synced) →
      let kinds := e.settings.features.prunableKinds
      (∃ event ∈ (e.pruneKinds ⟨owner, objects.map (·.identity), report.uids⟩ kinds synced).1,
        event.isFailure = true) →
      ∃ cause, e.FailsAt owner desired start (.prune cause)
        (e.prune owner objects kinds report.uids synced).2.world
  completed : e.Completes clock owner desired start →
    pass.1 = .ok (.requeue e.settings.resyncSeconds) ∧
      pass.2.retries = (r.resetBackoff owner.key).retries ∧
      Forgotten owner.key r.retries pass.2.retries
  incomplete : ¬ e.Completes clock owner desired start →
    pass.1.isOk = false ∧ pass.2.retries = r.retries

/-- A pass that converges succeeds just if the status can be written. -/
theorem Converges.reconcile (clock : Clock) {owner : Owner}
    (hmanaged : owner.managementState ≠ .unmanaged)
    {desired : Except ConfigurationError (List ManagedObject)} {r r' : Run σ}
    {health : StackHealth}
    (h : e.Converges owner desired (Pass.observe .reconciliation r).2 health r') :
    (e.reconcile clock owner desired r).1 =
      match (e.refreshStatus owner
        ((PassOutcome.clean health).conditions owner.conditions clock.now)
        (Pass.observe (.duration clock.elapsedMillis) r').2).1 with
      | .ok _ => .ok (.requeue e.settings.resyncSeconds)
      | .error cause => .error (.status cause) := by
  rw [e.reconcile_managed clock hmanaged, h.converge]
  rcases e.conclude_cases clock owner health
      (Pass.observe (.duration clock.elapsedMillis) r').2 with
    ⟨cause, last, hrefreshed, hconclude⟩ | ⟨written, last, hrefreshed, hconclude⟩ <;>
    rw [hrefreshed, hconclude]

/-- **The stages of a pass gate each other.** -/
theorem stages_gate (he : e.OnMemory view) (hl : e.Logs log) (clock : Clock) (owner : Owner)
    (desired : Except ConfigurationError (List ManagedObject)) (r : Run σ) :
    (owner.managementState = .unmanaged →
      e.reconcile clock owner desired r = (.ok .awaitChange, r)) ∧
    (owner.managementState ≠ .unmanaged →
      e.Gated view log clock owner desired (Pass.observe .reconciliation r).2 r
        (e.reconcile clock owner desired r)) := by
  refine ⟨fun h => e.reconcile_unmanaged clock h desired r, fun hmanaged => ?_⟩
  have hretries := e.retries_reconcile clock hmanaged desired r
  have hfailed : ∀ cause stage,
      e.FailsAt owner desired (Pass.observe .reconciliation r).2 cause stage →
      FailedPass view log owner cause r stage (e.reconcile clock owner desired r) :=
    fun cause stage h => h.failedPass he hl clock hmanaged
  constructor
  case failed => exact hfailed
  case sync =>
    rintro objects rfl ⟨a, ha, hr⟩
    obtain ⟨cause, hsync⟩ := sync_fails ha hr
    refine ⟨⟨cause, .sync hsync⟩, fun id hid => ?_⟩
    rw [(hfailed _ _ (.sync hsync)).store]
    exact attempts_spares owner.reference? he hid (Pass.observe .reconciliation r).2
  case prune =>
    rintro objects report synced rfl hsync kinds ⟨event, hmem, hf⟩
    obtain ⟨cause, hprune⟩ := prune_fails hmem hf
    exact ⟨cause, .prune hsync hprune⟩
  case completed =>
    rintro ⟨health, r', hconverges, written, hwritten⟩
    have hresult := hconverges.reconcile clock hmanaged
    rw [hwritten] at hresult
    have hreset : (e.reconcile clock owner desired r).2.retries =
        (r.resetBackoff owner.key).retries := by
      rw [hretries, hresult]
      rfl
    exact ⟨hresult, hreset, hreset ▸ r.forgotten_resetBackoff owner.key⟩
  case incomplete =>
    intro hnot
    have hresult : (e.reconcile clock owner desired r).1.isOk = false := by
      rcases e.failsAt_or_converges owner desired (Pass.observe .reconciliation r).2 with
        ⟨cause, stage, h⟩ | ⟨health, r', h⟩
      · rw [(hfailed cause stage h).result]
        rfl
      · have hresult := h.reconcile clock hmanaged
        split at hresult
        · rename_i written hwritten
          exact absurd ⟨health, r', h, written, hwritten⟩ hnot
        · rw [hresult]
          rfl
    refine ⟨hresult, ?_⟩
    rw [hretries, hresult]
    rfl

/-- The only object that a stack desires cannot be created: the pass has looked for it, tried to
create it and recorded the failure, and an object that is no longer desired is still there. Once
there is room, all stages succeed: the failures of the stack are forgotten, those of another one are
not. -/
theorem stages_gate_sample :
    let engine := (overMemory .standard .default).logged
    let owner := Owner.sample "one" "a"
    let desired := [ManagedObject.sample owner "first"]
    let start : Run (Logged Memory) :=
      .start ⟨.failOn .sample .create ⟨.configMap, some "tracing", "first"⟩ "no room", []⟩
    let pass := engine.reconcile ⟨⟨0, 0⟩, 0⟩ owner (.ok desired) start
    let failed : Backoff := ⟨⟨1, 2, 3, 10⟩, 3⟩
    let later : Run (Logged Memory) :=
      ⟨⟨.sample, []⟩, [], (Dict.empty.insert owner.key failed).insert "tracing/two" failed⟩
    let clean := engine.reconcile ⟨⟨0, 0⟩, 0⟩ owner (.ok desired) later
    engine.OnMemory (·.world) ∧ engine.Logs (·.calls) ∧ owner.managementState ≠ .unmanaged ∧
      pass.1.isOk = false ∧ pass.2.world.calls.length = 3 ∧
      Memory.Spares ⟨.configMap, some "tracing", "old"⟩ start.world.world pass.2.world.world ∧
      clean.1 = .ok (.requeue engine.settings.resyncSeconds) ∧
      clean.2.retries.get? owner.key = some ⟨⟨1, 0, 1, 10⟩, 0⟩ ∧
      clean.2.retries.get? "tracing/two" = some failed := by
  intro engine owner desired start pass failed later clean
  have he : engine.OnMemory (·.world) := (onMemory_overMemory .standard .default).logged
  have hl : engine.Logs (·.calls) := logs_logged _
  have hmanaged : owner.managementState ≠ .unmanaged := by decide
  have hgated := (stages_gate he hl ⟨⟨0, 0⟩, 0⟩ owner (.ok desired) start).2 hmanaged
  have hfailed : ((engine.attempts owner.reference? desired
      (Pass.observe .reconciliation start).2).1.any (·.record?.isNone)) = true := by decide
  obtain ⟨a, ha, hr⟩ := List.any_eq_true.1 hfailed
  obtain ⟨-, hspared⟩ := hgated.sync desired rfl ⟨a, ha, Option.isNone_iff_eq_none.1 hr⟩
  have hgated' := (stages_gate he hl ⟨⟨0, 0⟩, 0⟩ owner (.ok desired) later).2 hmanaged
  have hcompletes : engine.Completes ⟨⟨0, 0⟩, 0⟩ owner (.ok desired)
      (Pass.observe .reconciliation later).2 := by
    by_contra hnot
    have hclean : clean.1.isOk = true := by decide
    exact absurd ((hgated'.incomplete hnot).1.symm.trans hclean) (by decide)
  obtain ⟨hresult, -, hforgotten⟩ := hgated'.completed hcompletes
  have hown : later.retries.get? owner.key = some failed := by decide
  have hother : later.retries.get? "tracing/two" = some failed := by decide
  refine ⟨he, hl, hmanaged, by decide, by decide, hspared _ (by decide), hresult, ?_, ?_⟩
  · show (engine.reconcile _ owner (.ok desired) later).2.retries.get? _ = _
    rw [hforgotten.own, hown]
    rfl
  · show (engine.reconcile _ owner (.ok desired) later).2.retries.get? _ = _
    rw [hforgotten.others _ (by decide), hother]

end Engine

end Reconciliation
