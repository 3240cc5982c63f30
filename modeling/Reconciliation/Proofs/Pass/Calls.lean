import Reconciliation.Proofs.Conditions
import Reconciliation.Proofs.Pass.Readiness
import Reconciliation.Proofs.Pass.Stages

/-!
# The calls of a pass

The stages of a pass call the store and nothing else. What comes of them is written to the status of
the owner by at most one call, the last one. So an owner that carries the status it was written last
carries the conditions that the pass has computed.

* `CallsOnly`, `Engine.respects_isStore` -- the stages of a pass call the store and nothing else;
* `PassCalls`, `Engine.Ends`, **`Engine.reconcile_calls`** -- the calls of a pass, and how it ends;
* `Owner.statusAfter`, `PassCalls.statusAfter` -- the status that the owner carries then.
-/

namespace Reconciliation

/-! ## 1. Calls to the store -/

/-- Whether the call is one to the store. -/
def EngineCall.isStore : EngineCall → Bool
  | store _ _ => true
  | status _ _ _ => false

/-- Whether the call reads the store. -/
def EngineCall.isRead : EngineCall → Bool
  | store (.get _) _ | store (.list _ _ _) _ => true
  | _ => false

/-- Between two worlds, calls were made of which each has the property. -/
def CallsOnly (log : σ → List EngineCall) (p : EngineCall → Bool) (w w' : σ) : Prop :=
  ∃ calls, log w' = log w ++ calls ∧ ∀ call ∈ calls, p call = true

namespace CallsOnly

variable {σ : Type} {log : σ → List EngineCall} {p : EngineCall → Bool} {w w' w'' : σ}

theorem refl (w : σ) : CallsOnly log p w w :=
  ⟨[], (List.append_nil _).symm, fun _ h => absurd h List.not_mem_nil⟩

theorem trans (h : CallsOnly log p w w') (h' : CallsOnly log p w' w'') : CallsOnly log p w w'' := by
  obtain ⟨calls, hcalls, hp⟩ := h
  obtain ⟨calls', hcalls', hp'⟩ := h'
  refine ⟨calls ++ calls', by rw [hcalls', hcalls, List.append_assoc], fun call hmem => ?_⟩
  exact (List.mem_append.1 hmem).elim (hp call) (hp' call)

theorem single {call : EngineCall} (h : log w' = log w ++ [call]) (hp : p call = true) :
    CallsOnly log p w w' := by
  refine ⟨[call], h, fun other hmem => ?_⟩
  rw [List.mem_singleton.1 hmem]
  exact hp

end CallsOnly

namespace Engine

variable {σ : Type} {e : Engine σ} {log : σ → List EngineCall}

/-- An engine with a log notes nothing but calls to the store while it converges. -/
theorem respects_isStore (hl : e.Logs log) :
    e.Respects fun r r' => CallsOnly log EngineCall.isStore r.world r'.world where
  refl _ := .refl _
  trans _ _ _ h h' := h.trans h'
  observe _ _ _ := .refl _
  get id r := .single (hl.get id r.world) rfl
  create o r := .single (hl.create o r.world) rfl
  update o r := .single (hl.update o r.world) rfl
  delete id r := .single (hl.delete id r.world) rfl
  list kind ns? selector r := .single (hl.list kind ns? selector r.world) rfl

end Engine

/-! ## 2. The status -/

/-- The calls of a pass that computes a status for its owner: calls to the store, and then the write
of the status, unless the owner carries it. The write is told with its success. -/
inductive PassCalls (owner : Owner) (status : OwnerStatus) :
    (written? : Option Bool) → List EngineCall → Prop
  | carried {stores : List EngineCall} (hs : ∀ call ∈ stores, call.isStore = true)
      (h : owner.status = some status) : PassCalls owner status none stores
  | written {stores : List EngineCall} (hs : ∀ call ∈ stores, call.isStore = true)
      (h : owner.status ≠ some status) (succeeded : Bool) : PassCalls owner status (some succeeded)
        (stores ++ [.status owner.target status succeeded])

/-- The status that a pass computes for its owner. -/
def Engine.computedStatus (e : Engine σ) (clock : Clock) (owner : Owner)
    (desired : Except ConfigurationError (List ManagedObject)) (r : Run σ) : OwnerStatus :=
  ⟨e.computed clock owner desired r, owner.metadata.generation⟩

namespace Engine

variable {σ : Type} {e : Engine σ} {log : σ → List EngineCall}

/-- The calls of a refresh that follows calls to the store. -/
theorem refreshStatus_passCalls (hl : e.Logs log) (owner : Owner) (conditions : List Condition)
    {w : σ} (start : Run σ) (h : CallsOnly log EngineCall.isStore w start.world) :
    let refreshed := e.refreshStatus owner conditions start
    ∃ written? calls, log refreshed.2.world = log w ++ calls ∧
      PassCalls owner ⟨conditions, owner.metadata.generation⟩ written? calls ∧
      (written? = some false ↔ refreshed.1.isOk = false) := by
  intro refreshed
  obtain ⟨stores, hstores, hs⟩ := h
  by_cases hcarried : owner.status = some ⟨conditions, owner.metadata.generation⟩
  · have hrefreshed : refreshed = (.ok false, start) := refreshStatus_carried hcarried start
    rw [hrefreshed]
    exact ⟨none, stores, hstores, .carried hs hcarried, by simp [Except.isOk, Except.toBool]⟩
  · have hwritten := refreshStatus_written hl hcarried start
    refine ⟨some refreshed.1.isOk, _, ?_,
      .written hs hcarried refreshed.1.isOk, by simp⟩
    rw [hwritten, hstores, List.append_assoc]

/-- A pass whose stages succeeded turns out as the refresh of the status does. -/
theorem conclude_ok (e : Engine σ) (clock : Clock) (owner : Owner) (health : StackHealth)
    (r : Run σ) :
    let refreshed := e.refreshStatus owner
      ((PassOutcome.clean health).conditions owner.conditions clock.now) r
    (e.conclude clock owner (.ok health) r).2.world = refreshed.2.world ∧
      (e.conclude clock owner (.ok health) r).1 =
        match refreshed.1 with
        | .ok _ => .ok (.requeue e.settings.resyncSeconds)
        | .error cause => .error (.status cause) := by
  rcases e.conclude_cases clock owner health r with
    ⟨cause, last, hrefreshed, h⟩ | ⟨written, last, hrefreshed, h⟩ <;> rw [hrefreshed, h]
  · exact ⟨rfl, rfl⟩
  · exact ⟨last.world_resetBackoff owner.key, rfl⟩

/-- How a pass ends that begins like this and writes its status so: a stage that fails decides the
result whether or not the status can be written; if none does, the write decides. -/
inductive Ends (e : Engine σ) (owner : Owner)
    (desired : Except ConfigurationError (List ManagedObject)) (start : Run σ)
    (written? : Option Bool) : Except ReconcileError Action → Prop
  | failed {cause : ReconcileError} {w : σ} (h : e.FailsAt owner desired start cause w) :
      Ends e owner desired start written? (.error cause)
  | unrecorded {health : StackHealth} {after : Run σ}
      (h : e.Converges owner desired start health after) (hw : written? = some false)
      (failure : StatusError) : Ends e owner desired start written? (.error (.status failure))
  | done {health : StackHealth} {after : Run σ}
      (h : e.Converges owner desired start health after) (hw : written? ≠ some false) :
      Ends e owner desired start written? (.ok (.requeue e.settings.resyncSeconds))

/-- **The calls of a pass**, and how it ends. -/
theorem reconcile_calls (hl : e.Logs log) (clock : Clock) {owner : Owner}
    (hmanaged : owner.managementState ≠ .unmanaged)
    (desired : Except ConfigurationError (List ManagedObject)) (r : Run σ) :
    let start := (Pass.observe .reconciliation r).2
    let pass := e.reconcile clock owner desired r
    ∃ written? calls, log pass.2.world = log r.world ++ calls ∧
      PassCalls owner (e.computedStatus clock owner desired r) written? calls ∧
      e.Ends owner desired start written? pass.1 := by
  intro start pass
  have hstores : CallsOnly log EngineCall.isStore r.world
      (e.converge owner desired start).2.world :=
    (respects_isStore hl).converge owner desired start
  have hpass : pass = e.conclude clock owner (e.converge owner desired start).1
      (Pass.observe (.duration clock.elapsedMillis) (e.converge owner desired start).2).2 :=
    e.reconcile_managed clock hmanaged desired r
  have hcomputed : e.computedStatus clock owner desired r =
      ⟨(PassOutcome.ofResult (e.converge owner desired start).1).conditions owner.conditions
        clock.now, owner.metadata.generation⟩ := rfl
  rw [hpass, hcomputed]
  rcases e.failsAt_or_converges owner desired start with
    ⟨cause, w, hfails⟩ | ⟨health, after, hconverges⟩
  · rw [hfails.converge.1]
    obtain ⟨written?, calls, hcalls, hpassCalls, -⟩ := refreshStatus_passCalls hl owner
      ((PassOutcome.ofError cause).conditions owner.conditions clock.now)
      (Pass.observe .reconciliationError (Pass.observe (.duration clock.elapsedMillis)
        (e.converge owner desired start).2).2).2 hstores
    exact ⟨written?, calls, hcalls, hpassCalls, .failed hfails⟩
  · rw [hconverges.converge] at hstores ⊢
    obtain ⟨hworld, hconclude⟩ := e.conclude_ok clock owner health
      (Pass.observe (.duration clock.elapsedMillis) after).2
    obtain ⟨written?, calls, hcalls, hpassCalls, hfailed⟩ := refreshStatus_passCalls hl owner
      ((PassOutcome.clean health).conditions owner.conditions clock.now)
      (Pass.observe (.duration clock.elapsedMillis) after).2 hstores
    refine ⟨written?, calls, by rw [hworld, hcalls], hpassCalls, ?_⟩
    rw [hconclude]
    generalize (e.refreshStatus owner _ _).1 = refreshed at hfailed
    cases refreshed with
    | error failure => exact .unrecorded hconverges (hfailed.2 rfl) failure
    | ok _ => exact .done hconverges fun h => by cases hfailed.1 h

end Engine

/-! ## 3. The owner afterwards -/

/-- The status that the call has written to the owner. -/
def EngineCall.statusOf? (owner : Owner) : EngineCall → Option OwnerStatus
  | status target written true => if target = owner.target then some written else none
  | _ => none

/-- The status of the owner after calls: the one that was written last, or the one that it had. -/
def Owner.statusAfter (owner : Owner) (calls : List EngineCall) : Option OwnerStatus :=
  (calls.filterMap (·.statusOf? owner)).getLast?.or owner.status

/-- The owner after calls, under whatever version. -/
def Owner.after (owner : Owner) (calls : List EngineCall) (version? : Option String) : Owner :=
  { owner with
    metadata := { owner.metadata with resourceVersion := version? }
    status := owner.statusAfter calls }

namespace PassCalls

variable {owner : Owner} {status : OwnerStatus} {written? : Option Bool} {calls : List EngineCall}

theorem statusOf?_of_isStore {stores : List EngineCall}
    (hs : ∀ call ∈ stores, call.isStore = true) : stores.filterMap (·.statusOf? owner) = [] := by
  refine List.filterMap_eq_nil_iff.2 fun call hcall => ?_
  cases call with
  | store call succeeded => rfl
  | status target status succeeded => cases hs _ hcall

/-- Unless the write fails, the owner carries the computed status afterwards. -/
theorem statusAfter (h : PassCalls owner status written? calls) (hw : written? ≠ some false) :
    owner.statusAfter calls = some status := by
  unfold Owner.statusAfter
  cases h with
  | carried hs h =>
    rw [statusOf?_of_isStore hs, h]
    rfl
  | written hs _ succeeded =>
    cases succeeded with
    | false => exact absurd rfl hw
    | true =>
      rw [List.filterMap_append, statusOf?_of_isStore hs]
      simp [EngineCall.statusOf?]

/-- Only the last call can write a status. -/
theorem written_of_mem (h : PassCalls owner status written? calls) {target : StatusTarget}
    {other : OwnerStatus} {succeeded : Bool} (hmem : .status target other succeeded ∈ calls) :
    written? = some succeeded ∧ other = status := by
  cases h with
  | carried hs => cases hs _ hmem
  | written hs =>
    rcases List.mem_append.1 hmem with hmem | hmem
    · cases hs _ hmem
    · cases List.mem_singleton.1 hmem
      exact ⟨rfl, rfl⟩

/-- A status that the owner carries is not written. -/
theorem isStore_of_carried (h : PassCalls owner status written? calls)
    (hc : owner.status = some status) : ∀ call ∈ calls, call.isStore = true := by
  cases h with
  | carried hs => exact hs
  | written _ hne => exact absurd hc hne

end PassCalls

end Reconciliation
