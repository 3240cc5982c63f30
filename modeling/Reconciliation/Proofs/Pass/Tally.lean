import Reconciliation.Proofs.Pass.Attempts
import Reconciliation.Proofs.Pass.Deletion
import Reconciliation.Proofs.Pass.Reports

/-!
# The counters agree with what happened

Engines that share a log take turns: passes that succeed, fail or are cancelled, decisions about
failed ones, and changes that others make. The counters are raised on the way, each in a place of
its own; afterwards they have grown by what the stages reported, by the statuses that the log of
calls has as written, and by the passes and decisions themselves.

* `StatusesCounted`, `Engine.statusesCounted_react` -- as many statuses are counted as written;
* `Occurrence.count_noted` -- events of a sort;
* `Run.value_play` -- how a counter grows in a run;
* `Run.Tally`, **`Run.counters_agree`** -- the agreement, counter by counter.

The failed passes among these are the subject of `Run.failures_play`.
-/

namespace Reconciliation

/-! ## 1. Statuses -/

/-- Whether a call wrote a status. -/
def EngineCall.isStatusWrite : EngineCall → Bool
  | status _ _ succeeded => succeeded
  | store _ _ => false

/-- Between the two states, as many statuses were counted as the calls have as written. -/
def StatusesCounted (log : σ → List EngineCall) (r r' : Run σ) : Prop :=
  r'.metrics.count .statusUpdate + (log r.world).countP (·.isStatusWrite) =
    r.metrics.count .statusUpdate + (log r'.world).countP (·.isStatusWrite)

namespace StatusesCounted

variable {σ : Type} {log : σ → List EngineCall} {r r' r'' : Run σ}

theorem refl (r : Run σ) : StatusesCounted log r r := rfl

theorem trans (h : StatusesCounted log r r') (h' : StatusesCounted log r' r'') :
    StatusesCounted log r r'' := by
  unfold StatusesCounted at *
  omega

/-- Nothing else that is noted is about statuses. -/
theorem observe {o : Observation} (h : o ≠ .statusUpdate) (r : Run σ) :
    StatusesCounted log r (Pass.observe o r).2 := by
  have hcount : (r.metrics ++ [o]).count .statusUpdate = r.metrics.count .statusUpdate := by
    simp [List.count_append, h]
  exact congrArg (· + _) hcount

/-- A call to the store writes no status. -/
theorem call {act : StateM σ α} {call : StoreCall} {succeeded : σ → Bool}
    (h : ∀ w, log (act w).2 = log w ++ [.store call (succeeded w)]) (r : Run σ) :
    StatusesCounted log r (Pass.onWorld act r).2 := by
  show r.metrics.count _ + _ = r.metrics.count _ + (log (act r.world).2).countP _
  simp [h r.world, EngineCall.isStatusWrite]

end StatusesCounted

namespace Engine

variable {σ : Type} {e : Engine σ} {log : σ → List EngineCall}

theorem respects_statusesCounted (hl : e.Logs log) : e.Respects (StatusesCounted log) where
  refl := .refl
  trans _ _ _ := .trans
  observe o r ho := .observe (by rintro rfl; cases ho) r
  get id := .call (hl.get id)
  create o := .call (hl.create o)
  update o := .call (hl.update o)
  delete id := .call (hl.delete id)
  list kind namespace? selector := .call (hl.list kind namespace? selector)

/-- A status is counted just if it was written. -/
theorem statusesCounted_refreshStatus (hl : e.Logs log) (owner : Owner)
    (conditions : List Condition) (r : Run σ) :
    StatusesCounted log r (e.refreshStatus owner conditions r).2 := by
  have hcall := hl.status owner.target ⟨conditions, owner.metadata.generation⟩ r.world
  rcases e.refreshStatus_cases owner conditions r with
    ⟨-, h⟩ | ⟨-, ⟨cause, w, hwritten, h⟩ | ⟨w, hwritten, h⟩⟩
  · exact h ▸ .refl r
  · rw [hwritten] at hcall
    rw [h]
    show r.metrics.count _ + _ = r.metrics.count _ + (log w).countP _
    rw [hcall, List.countP_append]
    rfl
  · rw [hwritten] at hcall
    rw [h]
    show (r.metrics ++ [Observation.statusUpdate]).count _ + _ =
      r.metrics.count _ + (log w).countP _
    rw [hcall, List.countP_append, List.count_append, Nat.add_right_comm, Nat.add_assoc]
    rfl

theorem statusesCounted_conclude (hl : e.Logs log) (clock : Clock) (owner : Owner)
    (result : Except ReconcileError StackHealth) (r : Run σ) :
    StatusesCounted log r (e.conclude clock owner result r).2 := by
  cases result with
  | error cause =>
    exact (StatusesCounted.observe (by simp) r).trans
      (statusesCounted_refreshStatus hl owner _ (Pass.observe .reconciliationError r).2)
  | ok health =>
    have hcounted := statusesCounted_refreshStatus hl owner
      ((PassOutcome.clean health).conditions owner.conditions clock.now) r
    rcases e.conclude_cases clock owner health r with
      ⟨cause, last, hrefreshed, h⟩ | ⟨written, last, hrefreshed, h⟩ <;>
      rw [hrefreshed] at hcounted <;> rw [h]
    · exact hcounted
    · unfold StatusesCounted
      rw [Run.metrics_resetBackoff, Run.world_resetBackoff]
      exact hcounted

/-- **An event** counts the statuses that it writes. -/
theorem statusesCounted_react (hl : e.Logs log) {o : Occurrence σ}
    (ho : ∀ f, o = .change f → ∀ w, log (f w) = log w) (r : Run σ) :
    StatusesCounted log r (e.react o r).2 := by
  cases o with
  | change f => exact congrArg (_ + List.countP _ ·) (ho f rfl r.world).symm
  | failure owner cause =>
    show StatusesCounted log r (e.retry owner cause r).2
    unfold retry
    split
    · exact .observe (by simp) r
    · exact .observe (o := .requeue "error-backoff") (by simp) { r with retries := _ }
  | pass clock owner desired =>
    show StatusesCounted log r (e.reconcile clock owner desired r).2
    by_cases hmanaged : owner.managementState = .unmanaged
    · rw [e.reconcile_unmanaged clock hmanaged]
      exact .refl r
    · rw [e.reconcile_managed clock hmanaged]
      -- the pass begins, goes through its stages, takes the time, and concludes
      have hbegun : StatusesCounted log r (Pass.observe .reconciliation r).2 :=
        .observe (by simp) r
      have hstages := (respects_statusesCounted hl).converge owner desired
        (Pass.observe .reconciliation r).2
      generalize e.converge owner desired _ = converged at *
      have htimed : StatusesCounted log converged.2
        (Pass.observe (.duration clock.elapsedMillis) converged.2).2 := .observe (by simp) _
      exact ((hbegun.trans hstages).trans htimed).trans
        (statusesCounted_conclude hl clock owner converged.1 _)

end Engine

/-! ## 2. Events -/

namespace Occurrence

/-- Whether it is a pass of a managed owner. -/
def isManagedPass : Occurrence σ → Bool
  | pass _ owner _ => owner.managementState ≠ .unmanaged
  | _ => false

/-- Whether it is the decision about a failure that is terminal, or that is not. -/
def isFailure (terminal : Bool) : Occurrence σ → Bool
  | failure _ cause => cause.isTerminal == terminal
  | _ => false

/-- What is noted of an event besides is not about objects. -/
theorem of_mem_noted {o : Occurrence σ} {x : Observation} (h : x ∈ o.noted) :
    x.OfEngine ∧ x.isOfObject = false := by
  cases o with
  | pass clock owner desired =>
    unfold noted at h
    dsimp only at h
    split at h
    · cases h
    · obtain rfl := List.mem_singleton.1 h
      exact ⟨.reconciliation, rfl⟩
  | failure owner cause =>
    obtain rfl := List.mem_singleton.1 h
    split
    · exact ⟨.awaitChange, rfl⟩
    · exact ⟨.errorBackoff, rfl⟩
  | change f => cases h

/-- An event is noted once if it is of a sort. -/
theorem count_noted {x : Observation} {p : Occurrence σ → Bool}
    (h : ∀ o : Occurrence σ, o.noted.count x = if p o then 1 else 0)
    (history : List (Engine σ × Occurrence σ)) :
    (history.flatMap (·.2.noted)).count x = history.countP fun event => p event.2 := by
  induction history with
  | nil => rfl
  | cons event rest ih =>
    rw [List.flatMap_cons, List.count_append, h, ih, List.countP_cons, Nat.add_comm]

theorem count_reconciliation (o : Occurrence σ) :
    o.noted.count .reconciliation = if o.isManagedPass then 1 else 0 := by
  cases o with
  | pass clock owner desired =>
    unfold noted isManagedPass
    dsimp only
    by_cases hmanaged : owner.managementState = .unmanaged <;> simp [hmanaged]
  | failure owner cause => simp [noted, isManagedPass]
  | change f => rfl

/-- A decision is noted under one of two reasons. -/
theorem count_requeue (o : Occurrence σ) (terminal : Bool) :
    o.noted.count (.requeue (if terminal then "await-change" else "error-backoff")) =
      if o.isFailure terminal then 1 else 0 := by
  cases o with
  | pass clock owner desired =>
    unfold noted isFailure
    dsimp only
    by_cases hmanaged : owner.managementState = .unmanaged <;> simp [hmanaged]
  | failure owner cause =>
    show [Observation.requeue
      (if cause.isTerminal then "await-change" else "error-backoff")].count _ =
      if cause.isTerminal == terminal then 1 else 0
    generalize cause.isTerminal = terminal'
    cases terminal <;> cases terminal' <;> decide
  | change f => rfl

theorem count_of_object {x : Observation} (h : x.isOfObject = true)
    (history : List (Engine σ × Occurrence σ)) :
    (history.flatMap (·.2.noted)).count x = 0 := by
  refine List.count_eq_zero.2 fun hx => ?_
  obtain ⟨event, -, hevent⟩ := List.mem_flatMap.1 hx
  exact Bool.false_ne_true ((of_mem_noted hevent).2.symm.trans h)

end Occurrence

/-! ## 3. The agreement -/

/-- What is assumed of an event: the world of the engine keeps a log of its calls, which the changes
by others leave alone, and its store lists objects of the kind that it is asked for, as the store in
memory and the one behind a connection do. -/
structure Watched (log : σ → List EngineCall) (event : Engine σ × Occurrence σ) : Prop where
  logs : event.1.Logs log
  lists : event.1.store.ListsAsked
  unlogged : ∀ f, event.2 = .change f → ∀ w, log (f w) = log w

/-- In a run the counters have grown by what has happened. -/
structure Run.Tally (log : σ → List EngineCall) (r : Run σ)
    (history : List (Engine σ × Occurrence σ)) : Prop where
  /-- By the records of the syncs, also of failed ones. -/
  synced : ∀ kind outcome, (r.play history).2.metrics.synced kind outcome =
    r.metrics.synced kind outcome + ((r.reports history).flatMap (·.records)).countP fun record =>
      record.identity.kind = kind ∧ record.outcome = outcome
  /-- By the objects that could not be synced or deleted. -/
  errors : ∀ kind, (r.play history).2.metrics.objectErrors kind =
    r.metrics.objectErrors kind +
      ((r.reports history).flatMap (·.failures)).countP (·.identity.kind = kind)
  /-- By the identities of pruned objects. -/
  pruned : ∀ kind, (r.play history).2.metrics.pruned kind =
    r.metrics.pruned kind + ((r.reports history).flatMap (·.deleted)).countP (·.kind = kind)
  /-- By the statuses that the log has as written. -/
  statuses : (r.play history).2.metrics.statusUpdates +
      (log r.world).countP (·.isStatusWrite) =
    r.metrics.statusUpdates + (log (r.play history).2.world).countP (·.isStatusWrite)
  /-- By the passes of managed owners. -/
  passes : (r.play history).2.metrics.reconciliations =
    r.metrics.reconciliations + history.countP (·.2.isManagedPass)
  /-- By the failures for which trying again cannot help. -/
  terminal : (r.play history).2.metrics.requeues "await-change" =
    r.metrics.requeues "await-change" + history.countP (·.2.isFailure true)
  /-- By the other failures. -/
  transient : (r.play history).2.metrics.requeues "error-backoff" =
    r.metrics.requeues "error-backoff" + history.countP (·.2.isFailure false)

namespace Run

variable {σ : Type} {log : σ → List EngineCall} {r : Run σ}
  {history : List (Engine σ × Occurrence σ)}

theorem statusesCounted_play (r : Run σ) (hw : ∀ event ∈ history, Watched log event) :
    StatusesCounted log r (r.play history).2 := by
  induction history generalizing r with
  | nil => exact .refl r
  | cons event history ih =>
    obtain ⟨e, o⟩ := event
    have hfirst := hw _ List.mem_cons_self
    exact (Engine.statusesCounted_react hfirst.logs hfirst.unlogged r).trans
      (ih (e.react o r).2 fun event hevent => hw event (List.mem_cons_of_mem _ hevent))

/-- What is noted in a run is what an engine observes. -/
theorem ofEngine_play (hm : ∀ o ∈ r.metrics, o.OfEngine)
    (hlists : ∀ event ∈ history, event.1.store.ListsAsked) :
    ∀ o ∈ (r.play history).2.metrics, o.OfEngine := by
  obtain ⟨rest, hperm, hincidental⟩ := r.perm_play hlists
  intro o ho
  simp only [hperm.mem_iff, List.mem_append, List.mem_flatMap] at ho
  rcases ho with ((ho | ⟨report, -, ho⟩) | ⟨event, -, ho⟩) | ho
  · exact hm o ho
  · exact (StageReport.of_mem_observations ho).1
  · exact (Occurrence.of_mem_noted ho).1
  · exact Observation.ofEngine_of_isIncidental (hincidental o ho)

section Growth

variable (hm : ∀ o ∈ r.metrics, o.OfEngine)
  (hlists : ∀ event ∈ history, event.1.store.ListsAsked) {x : Observation} {s : Metrics.Series}
  (h : x.OfEngine) (hx : Metrics.seriesOf x = [s])

include hm hlists h hx

/-- A counter grows by what is reported and by the events. -/
theorem value_play (hx' : x.isIncidental = false) :
    (r.play history).2.metrics.value s.name = r.metrics.value s.name +
      ((r.reports history).flatMap (·.observations)).count x +
        (history.flatMap (·.2.noted)).count x := by
  rw [Metrics.value_name_of_engine (ofEngine_play hm hlists) h hx,
    Metrics.value_name_of_engine hm h hx]
  obtain ⟨rest, hperm, hincidental⟩ := r.perm_play hlists
  -- what is noted besides reports and events belongs to other counters
  have hrest : rest.count x = 0 :=
    List.count_eq_zero.2 fun hmem => Bool.false_ne_true (hx'.symm.trans (hincidental x hmem))
  simp only [hperm.count_eq x, List.count_append, hrest, Nat.add_zero]

/-- A counter of objects grows by a part of the reports. -/
theorem value_play_object (ho : x.isOfObject = true) {α : Type} {part : StageReport → List α}
    {p : α → Bool} (hpart : ∀ s : StageReport, s.observations.count x = (part s).countP p) :
    (r.play history).2.metrics.value s.name =
      r.metrics.value s.name + ((r.reports history).flatMap part).countP p := by
  have hx' : x.isIncidental = false := by cases x <;> first | rfl | cases ho
  rw [value_play hm hlists h hx hx', Occurrence.count_of_object ho,
    StageReport.count_observations hpart, Nat.add_zero]

/-- A counter of passes or decisions grows by events of a sort. -/
theorem value_play_event (hx' : x.isIncidental = false) (ho : x.isOfObject = false)
    {p : Occurrence σ → Bool}
    (hsort : ∀ o : Occurrence σ, o.noted.count x = if p o then 1 else 0) :
    (r.play history).2.metrics.value s.name =
      r.metrics.value s.name + history.countP fun event => p event.2 := by
  rw [value_play hm hlists h hx hx', StageReport.count_of_not_object ho,
    Occurrence.count_noted hsort, Nat.add_zero]

end Growth

/-- **The counters agree with what happened.** Let engines share a log and take turns, over any
stores with any failures and cancellations: passes of any owners, decisions about failed ones, and
changes by others. Then each counter has grown by exactly what it is about: the records, failures
and deletions that the syncs and prunes of all passes report, in their results or in their errors;
the statuses that were written; the passes of managed owners; and the decisions, by their
reason. -/
theorem counters_agree (hm : ∀ o ∈ r.metrics, o.OfEngine)
    (hw : ∀ event ∈ history, Watched log event) : Tally log r history := by
  have hlists : ∀ event ∈ history, event.1.store.ListsAsked := fun event h => (hw event h).lists
  constructor
  case synced =>
    exact fun kind outcome => value_play_object hm hlists (.synced kind outcome) rfl rfl
      (·.count_synced kind outcome)
  case errors =>
    exact fun kind => value_play_object hm hlists (.objectError kind) rfl rfl
      (·.count_objectError kind)
  case pruned =>
    exact fun kind => value_play_object hm hlists (.pruned kind) rfl rfl (·.count_pruned kind)
  case statuses =>
    unfold Metrics.statusUpdates
    rw [Metrics.value_eq_count (x := .statusUpdate) (by decide) rfl,
      Metrics.value_eq_count (x := .statusUpdate) (by decide) rfl]
    exact statusesCounted_play r hw
  case passes =>
    exact value_play_event (s := ⟨_, []⟩) hm hlists .reconciliation rfl rfl rfl
      (·.count_reconciliation)
  case terminal =>
    exact value_play_event hm hlists .awaitChange rfl rfl rfl (·.count_requeue true)
  case transient =>
    exact value_play_event hm hlists .errorBackoff rfl rfl rfl (·.count_requeue false)

/-- The first of two objects cannot be created; a pass of an engine that is cancelled by then
attempts nothing; a pass that desires the second object only finds it and prunes an ingress. -/
theorem counters_agree_sample :
    let owner := Owner.sample "one" "a"
    let object := ManagedObject.sample owner
    let pass : List ManagedObject → Occurrence (Logged Memory) :=
      fun objects => .pass ⟨⟨0, 0⟩, 0⟩ owner (.ok objects)
    let engine := (Engine.overMemory .standard .default).logged
    let history : List (Engine (Logged Memory) × Occurrence (Logged Memory)) :=
      [(engine, pass [object "first", object "second"]),
        (engine, .failure owner (.health (.unavailable "no route"))),
        (Engine.interrupted.logged, pass [object "second", object "third"]),
        (engine, .failure owner (.configuration ⟨"Invalid", "no storage"⟩)),
        (engine, .change fun w => { w with world := (w.world.insert .stale).2 }),
        (engine, pass [object "second"])]
    let r : Run (Logged Memory) := .start ⟨.refusing, []⟩
    let after := (r.play history).2.metrics
    (∀ o ∈ r.metrics, o.OfEngine) ∧ (∀ event ∈ history, Watched (·.calls) event) ∧
      after.synced .configMap .created = 1 ∧ after.synced .configMap .unchanged = 1 ∧
      after.objectErrors .configMap = 1 ∧ after.pruned .ingress = 1 ∧
      after.statusUpdates = 3 ∧ after.reconciliations = 3 ∧
      after.requeues "await-change" = 1 ∧ after.requeues "error-backoff" = 1 := by
  intro owner object pass engine history r after
  have hm : ∀ o ∈ r.metrics, o.OfEngine := fun o ho => by cases ho
  have hmemory : engine.OnMemory (·.world) :=
    (Engine.onMemory_overMemory .standard .default).logged
  have hpass : ∀ objects, Watched (·.calls) (engine, pass objects) := fun objects =>
    ⟨Engine.logs_logged _, hmemory.listsAsked, fun f hf => by cases hf⟩
  have hfailure : ∀ cause, Watched (·.calls) (engine, .failure owner cause) := fun cause =>
    ⟨Engine.logs_logged _, hmemory.listsAsked, fun f hf => by cases hf⟩
  have hw : ∀ event ∈ history, Watched (·.calls) event := by
    simp only [history, List.forall_mem_cons]
    refine ⟨hpass _, hfailure _, ⟨Engine.logs_logged _,
      Engine.onMemory_interrupted.logged.listsAsked, fun f hf => by cases hf⟩, hfailure _,
      ⟨Engine.logs_logged _, hmemory.listsAsked, ?_⟩, hpass _, by simp⟩
    intro f hf w
    cases hf
    rfl
  have htally := counters_agree hm hw
  have hwritten : (r.play history).2.world.calls.countP (·.isStatusWrite) = 3 := by
    decide +kernel
  have hstatuses : (r.play history).2.metrics.statusUpdates = 3 := by
    have hbefore : r.metrics.statusUpdates = 0 := rfl
    have hnone : r.world.calls.countP (·.isStatusWrite) = 0 := rfl
    have h := htally.statuses
    rwa [hwritten, hbefore, hnone, Nat.add_zero, Nat.zero_add] at h
  refine ⟨hm, hw, (htally.synced _ _).trans (by decide), (htally.synced _ _).trans (by decide),
    (htally.errors _).trans (by decide), (htally.pruned _).trans (by decide), hstatuses,
    htally.passes.trans (by decide), htally.terminal.trans (by decide),
    htally.transient.trans (by decide)⟩

end Run

end Reconciliation
