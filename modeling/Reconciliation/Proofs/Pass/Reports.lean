import Reconciliation.Proofs.Pass.Failures
import Reconciliation.Proofs.Pass.Notes

/-!
# What is reported is noted

A pass reports its sync, and its prune if it comes to that, in its result or within its error. What
it notes besides is that it began, how long it took, that it failed, and that a status was written.
So over a run, the log grows by the reports of all passes and by the events themselves, up to order
and to what is said about those last three.

* `Engine.reports` -- what the stages of a pass report, also of one that fails;
* `Engine.perm_converge`, `Engine.perm_react`, **`Run.perm_play`** -- what is noted during the
  stages, an event, and a run.
-/

namespace Reconciliation

/-! ## 1. The reports of an event -/

namespace Engine

variable {σ : Type} (e : Engine σ)

/-- What the stages of a pass report. There is no report if the objects cannot be computed, and none
of a prune if the sync fails. -/
def stageReports (owner : Owner) :
    Except ConfigurationError (List ManagedObject) → Run σ → List StageReport
  | .error _, _ => []
  | .ok objects, r =>
    match e.sync owner objects r with
    | (.error cause, _) => [.sync (.error cause)]
    | (.ok report, synced) =>
      [.sync (.ok report),
        .prune (e.prune owner objects e.settings.features.prunableKinds report.uids synced).1]

/-- What the stages report when something happens. -/
def reports : Occurrence σ → Run σ → List StageReport
  | .pass _ owner desired, r =>
    if owner.managementState = .unmanaged then []
    else e.stageReports owner desired (Pass.observe .reconciliation r).2
  | .failure _ _, _ | .change _, _ => []

end Engine

namespace Engine

variable {σ : Type} {e : Engine σ} {owner : Owner}
  {desired : Except ConfigurationError (List ManagedObject)} {r : Run σ}

theorem stageReports_unsynced {objects : List ManagedObject} {r₁ : Run σ} {cause : SyncError}
    (h : e.sync owner objects r = (.error cause, r₁)) :
    e.stageReports owner (.ok objects) r = [.sync (.error cause)] := by
  simp only [stageReports, h]

theorem stageReports_synced {objects : List ManagedObject} {r₁ : Run σ} {report : SyncReport}
    (h : e.sync owner objects r = (.ok report, r₁)) :
    e.stageReports owner (.ok objects) r = [.sync (.ok report),
      .prune (e.prune owner objects e.settings.features.prunableKinds report.uids r₁).1] := by
  simp only [stageReports, h]

/-! ## 2. What an event notes -/

/-- After the prune nothing is noted of the stages. -/
theorem metrics_afterSync (owner : Owner) (objects : List ManagedObject) (report : SyncReport)
    (r : Run σ) :
    (e.afterSync owner objects (.ok report) r).2.metrics =
      (e.prune owner objects e.settings.features.prunableKinds report.uids r).2.metrics := by
  cases hprune : e.prune owner objects e.settings.features.prunableKinds report.uids r with
  | mk result r' =>
    cases result with
    | error cause => rw [afterSync_unpruned hprune]
    | ok pruned => rw [afterSync_pruned hprune rfl]

/-- **The stages of a pass** note what they report. -/
theorem perm_converge (hlists : e.store.ListsAsked) (owner : Owner)
    (desired : Except ConfigurationError (List ManagedObject)) (r : Run σ) :
    (e.converge owner desired r).2.metrics.Perm
      (r.metrics ++ (e.stageReports owner desired r).flatMap (·.observations)) := by
  cases desired with
  | error cause => exact .of_eq (List.append_nil _).symm
  | ok objects =>
    obtain ⟨noted, hnoted, hsynced⟩ := notes_sync (e := e) owner objects r
    cases hsync : e.sync owner objects r with
    | mk result r₁ =>
      rw [hsync] at hnoted hsynced
      rw [converge_synced hsync]
      cases result with
      | error cause =>
        have hmetrics : (e.afterSync owner objects (.error cause) r₁).2.metrics =
            r.metrics ++ noted := hnoted
        rw [stageReports_unsynced hsync, hmetrics, List.flatMap_singleton]
        exact hsynced.append_left _
      | ok report =>
        obtain ⟨noted', hnoted', hpruned⟩ := notes_prune hlists owner objects
          e.settings.features.prunableKinds report.uids r₁
        dsimp only at hnoted
        rw [stageReports_synced hsync, metrics_afterSync, hnoted', hnoted, List.append_assoc,
          List.flatMap_cons, List.flatMap_singleton]
        exact (hsynced.append hpruned).append_left _

end Engine

/-- Whether an observation says how a pass went on the whole: that it failed, how long it took, or
that it wrote a status. -/
def Observation.isIncidental : Observation → Bool
  | reconciliationError | duration _ | statusUpdate => true
  | _ => false

theorem Observation.ofEngine_of_isIncidental {o : Observation} (h : o.isIncidental = true) :
    o.OfEngine := by
  cases o with
  | reconciliationError => exact .reconciliationError
  | duration millis => exact .duration millis
  | statusUpdate => exact .statusUpdate
  | _ => cases h

/-- What is noted of an event besides the reports. -/
def Occurrence.noted : Occurrence σ → Metrics
  | pass _ owner _ => if owner.managementState = .unmanaged then [] else [.reconciliation]
  | failure _ cause => [.requeue (if cause.isTerminal then "await-change" else "error-backoff")]
  | change _ => []

namespace Engine

variable {σ : Type} {e : Engine σ}

theorem notes_refreshStatus (owner : Owner) (conditions : List Condition) :
    (e.refreshStatus owner conditions).Notes fun _ noted => ∀ o ∈ noted, o.isIncidental = true := by
  intro r
  rcases e.refreshStatus_cases owner conditions r with
    ⟨-, h⟩ | ⟨-, ⟨_, _, -, h⟩ | ⟨_, -, h⟩⟩ <;> rw [h]
  · exact ⟨[], (List.append_nil _).symm, by simp⟩
  · exact ⟨[], (List.append_nil _).symm, by simp⟩
  · exact ⟨[.statusUpdate], rfl, by simp [Observation.isIncidental]⟩

theorem notes_conclude (clock : Clock) (owner : Owner)
    (result : Except ReconcileError StackHealth) :
    (e.conclude clock owner result).Notes fun _ noted => ∀ o ∈ noted, o.isIncidental = true := by
  cases result with
  | error cause =>
    refine .observe_bind (.map (notes_refreshStatus owner _) fun _ noted hnoted => ?_)
    exact List.forall_mem_cons.2 ⟨rfl, hnoted⟩
  | ok health =>
    refine .bind (notes_refreshStatus owner _) fun written noted hnoted => ?_
    cases written with
    | error cause => exact .pure (by simpa using hnoted)
    | ok written =>
      intro r
      refine ⟨[], ?_, by simpa using hnoted⟩
      show (r.resetBackoff owner.key).metrics = _
      rw [Run.metrics_resetBackoff, List.append_nil]

/-- **An event** notes what is reported, and itself. -/
theorem perm_react (hlists : e.store.ListsAsked) (o : Occurrence σ) (r : Run σ) :
    ∃ rest, (e.react o r).2.metrics.Perm
        (r.metrics ++ (e.reports o r).flatMap (·.observations) ++ o.noted ++ rest) ∧
      ∀ x ∈ rest, x.isIncidental = true := by
  cases o with
  | change f => exact ⟨[], .of_eq (by simp [reports, Occurrence.noted, react]), by simp⟩
  | failure owner cause =>
    refine ⟨[], .of_eq ?_, by simp⟩
    have hretry : (e.retry owner cause r).2.metrics = r.metrics ++
        [.requeue (if cause.isTerminal then "await-change" else "error-backoff")] := by
      unfold retry
      split <;> rfl
    simpa [reports, Occurrence.noted, react] using hretry
  | pass clock owner desired =>
    show ∃ rest, (e.reconcile clock owner desired r).2.metrics.Perm _ ∧ _
    unfold reports Occurrence.noted
    dsimp only
    by_cases hmanaged : owner.managementState = .unmanaged
    · rw [e.reconcile_unmanaged clock hmanaged, if_pos hmanaged, if_pos hmanaged]
      exact ⟨[], .of_eq (by simp), by simp⟩
    · rw [e.reconcile_managed clock hmanaged, if_neg hmanaged, if_neg hmanaged]
      -- of the stages only what they note and their result matter from here on
      have hstages := perm_converge hlists owner desired (Pass.observe .reconciliation r).2
      generalize e.converge owner desired _ = converged at *
      obtain ⟨later, hlater, hincidental⟩ := notes_conclude (e := e) clock owner converged.1
        (Pass.observe (.duration clock.elapsedMillis) converged.2).2
      refine ⟨.duration clock.elapsedMillis :: later, ?_,
        List.forall_mem_cons.2 ⟨rfl, hincidental⟩⟩
      rw [hlater]
      refine List.perm_iff_count.2 fun x => ?_
      have hcount := hstages.count_eq x
      simp only [Pass.observe, List.count_append, List.count_cons, List.count_nil] at hcount ⊢
      omega

end Engine

/-! ## 3. Runs -/

/-- What the stages report in a run, pass by pass. -/
def Run.reports (r : Run σ) : List (Engine σ × Occurrence σ) → List StageReport
  | [] => []
  | (e, o) :: rest => e.reports o r ++ (e.react o r).2.reports rest

/-- **A run** notes what is reported, and its events. -/
theorem Run.perm_play (r : Run σ) {history : List (Engine σ × Occurrence σ)}
    (hlists : ∀ event ∈ history, event.1.store.ListsAsked) :
    ∃ rest, (r.play history).2.metrics.Perm (r.metrics ++
        (r.reports history).flatMap (·.observations) ++ history.flatMap (·.2.noted) ++ rest) ∧
      ∀ x ∈ rest, x.isIncidental = true := by
  induction history generalizing r with
  | nil => exact ⟨[], .of_eq (by simp [play, reports]), by simp⟩
  | cons event history ih =>
    obtain ⟨e, o⟩ := event
    obtain ⟨first, hfirst, hincidental⟩ := e.perm_react (hlists _ List.mem_cons_self) o r
    obtain ⟨rest, hrest, hincidental'⟩ :=
      ih (e.react o r).2 fun event hevent => hlists event (List.mem_cons_of_mem _ hevent)
    refine ⟨first ++ rest, ?_, fun x hx => ?_⟩
    · refine List.perm_iff_count.2 fun x => ?_
      have hcount := hfirst.count_eq x
      have hcount' := hrest.count_eq x
      simp only [play, reports, List.flatMap_append, List.flatMap_cons,
        List.count_append] at hcount hcount' ⊢
      omega
    · exact (List.mem_append.1 hx).elim (hincidental x) (hincidental' x)

end Reconciliation
