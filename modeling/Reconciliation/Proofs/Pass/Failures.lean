import Reconciliation.Proofs.Metrics
import Reconciliation.Proofs.Pass.Stages
import Reconciliation.Rehearsal

/-!
# Which failures are counted

A pass can fail while it builds the objects, syncs, prunes, samples health or writes the status. All
but the last of these leave through the same exit, where the failure is counted. A clean pass whose
status cannot be written leaves earlier: it fails and is not counted.

* `Engine.respects_failures` -- the stages of a pass leave the counter of failed passes alone;
* `Engine.failures_reconcile` -- a pass counts the failure of its stages;
* `Engine.FailsAt.reconcile`, `Engine.FailsAt.ne_status` -- how a pass ends with a failed stage;
* `Engine.failures_react`, **`Run.failures_play`** -- the balance of one event, and of a run: what
  is shown and what was not counted are together the passes that failed;
* `Run.failures_play_unwritten` -- a failure that is not shown.
-/

namespace Reconciliation

/-! ## 1. The counter in a pass -/

/-- Forgetting failures does not touch the log. -/
theorem Run.metrics_resetBackoff (r : Run σ) (key : String) :
    (r.resetBackoff key).metrics = r.metrics := by
  unfold resetBackoff
  split <;> rfl

/-- An observation raises the counter if it is that of a failed pass. -/
theorem Pass.failures_observe (o : Observation) (r : Run σ) :
    (Pass.observe o r).2.metrics.failures =
      r.metrics.failures + if o = .reconciliationError then 1 else 0 := by
  show Metrics.failures (r.metrics ++ [o]) = _
  rw [Metrics.failures_eq_count, Metrics.failures_eq_count, List.count_append, List.count_singleton]
  simp

namespace Engine

variable {σ : Type} (e : Engine σ)

/-- Calls to the store and observations about objects leave the counter alone. -/
theorem respects_failures : e.Respects fun r r' => r'.metrics.failures = r.metrics.failures where
  refl _ := rfl
  trans _ _ _ h h' := h'.trans h
  observe o r ho := by
    have hne : o ≠ .reconciliationError := by
      rintro rfl
      cases ho
    rw [Pass.failures_observe, if_neg hne, Nat.add_zero]
  get _ _ := rfl
  create _ _ := rfl
  update _ _ := rfl
  delete _ _ := rfl
  list _ _ _ _ := rfl

theorem failures_refreshStatus (owner : Owner) (conditions : List Condition) (r : Run σ) :
    (e.refreshStatus owner conditions r).2.metrics.failures = r.metrics.failures := by
  rcases e.refreshStatus_cases owner conditions r with
    ⟨-, h⟩ | ⟨-, ⟨_, w, -, h⟩ | ⟨w, -, h⟩⟩ <;> rw [h]
  exact Pass.failures_observe .statusUpdate { r with world := w }

/-- The last stage counts the failure of an earlier one, and no failure of its own. -/
theorem failures_conclude (clock : Clock) (owner : Owner)
    (result : Except ReconcileError StackHealth) (r : Run σ) :
    (e.conclude clock owner result r).2.metrics.failures =
      r.metrics.failures + if result.isOk then 0 else 1 := by
  cases result with
  | error cause =>
    exact (e.failures_refreshStatus owner _ _).trans (Pass.failures_observe .reconciliationError r)
  | ok health =>
    have hkept := e.failures_refreshStatus owner
      ((PassOutcome.clean health).conditions owner.conditions clock.now) r
    rcases e.conclude_cases clock owner health r with
      ⟨cause, last, hrefreshed, h⟩ | ⟨written, last, hrefreshed, h⟩ <;>
      rw [hrefreshed] at hkept <;> rw [h]
    · exact hkept
    · dsimp only
      rw [Run.metrics_resetBackoff]
      exact hkept

/-- A pass of a managed owner counts a failure just if a stage before the last one fails. -/
theorem failures_reconcile (clock : Clock) {owner : Owner}
    (hmanaged : owner.managementState ≠ .unmanaged)
    (desired : Except ConfigurationError (List ManagedObject)) (r : Run σ) :
    (e.reconcile clock owner desired r).2.metrics.failures =
      r.metrics.failures +
        if (e.converge owner desired (Pass.observe .reconciliation r).2).1.isOk then 0 else 1 := by
  rw [e.reconcile_managed clock hmanaged, failures_conclude, Pass.failures_observe,
    e.respects_failures.converge, Pass.failures_observe]
  rfl

/-! ## 2. How a pass ends -/

variable {e}

theorem FailsAt.reconcile (clock : Clock) {owner : Owner}
    (hmanaged : owner.managementState ≠ .unmanaged)
    {desired : Except ConfigurationError (List ManagedObject)} {r : Run σ} {cause : ReconcileError}
    {stage : σ} (h : e.FailsAt owner desired (Pass.observe .reconciliation r).2 cause stage) :
    (e.reconcile clock owner desired r).1 = .error cause := by
  rw [e.reconcile_managed clock hmanaged, h.converge.1]
  rfl

theorem FailsAt.ne_status {owner : Owner}
    {desired : Except ConfigurationError (List ManagedObject)} {r : Run σ} {cause : ReconcileError}
    {stage : σ} (h : e.FailsAt owner desired r cause stage) (unwritten : StatusError) :
    cause ≠ .status unwritten := by
  rintro rfl
  cases h

end Engine

/-! ## 3. The balance -/

namespace Reply

/-- Whether a pass failed. -/
def isFailure : Reply → Bool
  | passed result => !result.isOk
  | _ => false

/-- Whether a pass failed because the status of its owner could not be written. -/
def isUnwritten : Reply → Bool
  | passed (.error (.status _)) => true
  | _ => false

end Reply

theorem Engine.failures_retry (e : Engine σ) (owner : Owner) (cause : ReconcileError) (r : Run σ) :
    (e.retry owner cause r).2.metrics.failures = r.metrics.failures := by
  unfold retry
  split
  · exact Pass.failures_observe _ r
  · exact Pass.failures_observe (.requeue "error-backoff") { r with retries := _ }

/-- **The balance of one event**: a failed pass is counted, unless it failed at the status. -/
theorem Engine.failures_react (e : Engine σ) (o : Occurrence σ) (r : Run σ) :
    (e.react o r).2.metrics.failures + (e.react o r).1.isUnwritten.toNat =
      r.metrics.failures + (e.react o r).1.isFailure.toNat := by
  cases o with
  | failure owner cause => exact e.failures_retry owner cause r
  | change f => rfl
  | pass clock owner desired =>
    unfold react
    dsimp only
    by_cases hmanaged : owner.managementState = .unmanaged
    · rw [e.reconcile_unmanaged clock hmanaged]
      rfl
    · rw [e.failures_reconcile clock hmanaged]
      rcases e.failsAt_or_converges owner desired (Pass.observe .reconciliation r).2 with
        ⟨cause, stage, h⟩ | ⟨health, r', h⟩
      · rw [h.reconcile clock hmanaged, h.converge.1]
        cases cause with
        | status unwritten => exact absurd rfl (h.ne_status unwritten)
        | _ => rfl
      · rw [h.reconcile clock hmanaged, h.converge]
        generalize (e.refreshStatus owner _ _).1 = written
        cases written <;> rfl

/-- Lets things happen to engines that share their world and their log, one after another: the
replies, and the state afterwards. -/
def Run.play (r : Run σ) : List (Engine σ × Occurrence σ) → List Reply × Run σ
  | [] => ([], r)
  | (e, o) :: rest =>
    let played := (e.react o r).2.play rest
    ((e.react o r).1 :: played.1, played.2)

/-- **The balance of a run.** Let anything happen to any engines: passes of any owners with any
stores and status writers, decisions about failed ones, other changes. The counter of failed passes
grows by the number of passes that failed, but for those whose stages were clean and whose status
could not be written. So it shows all of them just if there are none of these. -/
theorem Run.failures_play (r : Run σ) (history : List (Engine σ × Occurrence σ)) :
    let played := r.play history
    played.2.metrics.failures + played.1.countP (·.isUnwritten) =
        r.metrics.failures + played.1.countP (·.isFailure) ∧
      (played.2.metrics.failures = r.metrics.failures + played.1.countP (·.isFailure) ↔
        ∀ reply ∈ played.1, reply.isUnwritten = false) := by
  intro played
  have hbalance : played.2.metrics.failures + played.1.countP (·.isUnwritten) =
      r.metrics.failures + played.1.countP (·.isFailure) := by
    induction history generalizing r with
    | nil => rfl
    | cons event rest ih =>
      obtain ⟨e, o⟩ := event
      have htoNat : ∀ b : Bool, b.toNat = if b = true then 1 else 0 := by decide
      have hfirst := e.failures_react o r
      have hrest := ih (e.react o r).2
      rw [htoNat, htoNat] at hfirst
      simp only [play, List.countP_cons, played] at hrest ⊢
      omega
  refine ⟨hbalance, ?_⟩
  have hnone : (∀ reply ∈ played.1, reply.isUnwritten = false) ↔
      played.1.countP (·.isUnwritten) = 0 := by
    rw [List.countP_eq_zero]
    simp
  rw [hnone]
  omega

/-- A stack desires nothing, and so nothing is wrong but that its status cannot be written: the pass
fails, and no failure is shown. -/
theorem Run.failures_play_unwritten :
    let engine := Rehearsal.engine .standard .default
    let r := Run.start { Rehearsal.start ⟨0, 0⟩ with statusFailure := some "no route" }
    let played := r.play [(engine, .pass ⟨⟨0, 0⟩, 0⟩ (.sample "one" "a") (.ok []))]
    played.1.countP (·.isFailure) = 1 ∧ played.2.metrics.failures = r.metrics.failures := by
  intro engine r played
  rw [Metrics.failures_eq_count, Metrics.failures_eq_count]
  decide

end Reconciliation
