import Reconciliation.Proofs.Pass.Rest

/-!
# Settled owners are left in peace

Every write of a status wakes the watch on the owner, and so does every write of one of its objects:
a pass that writes what the pass before has written would run forever. A pass that writes no object
has found the store at rest, so the next one finds the same health, makes the same observations of
an owner that shows them already, and has nothing to write. A failure that is recorded once is not
recorded again.

* `Engine.reconcile_of_carried` -- a status that the owner carries ends the pass without a call;
* `Engine.quiet_again` -- the pass after one that wrote no object;
* `stageOpenings`, `Engine.ofError_eq` -- errors of the stages and of the status writer are told
  apart by how their texts begin, so failures of one text are recorded alike;
* `Engine.failure_again` -- the pass after one that failed and could record it;
* **`Engine.left_in_peace`** -- both together.
-/

namespace Reconciliation

/-- Neither the status of the owner nor its version matters to the store. -/
theorem Memory.AtRest.after {m : Memory} {registry : Registry} {kinds : List Kind} {owner : Owner}
    {objects : List ManagedObject} (h : m.AtRest registry kinds owner objects)
    (calls : List EngineCall) (version? : Option String) :
    m.AtRest registry kinds (owner.after calls version?) objects := ⟨h.steady, h.kept, h.sampled⟩

/-- The engine, when nobody cancels its passes. -/
def Engine.uncancelled (e : Engine σ) : Engine σ := { e with cancelled := fun _ => false }

namespace Engine

variable {σ : Type} {e : Engine σ} {view : σ → Memory} {log : σ → List EngineCall}

theorem OnMemory.uncancelled (he : e.OnMemory view) : e.uncancelled.OnMemory view :=
  ⟨he.get, he.create, he.update, he.delete, he.list, he.status⟩

theorem Logs.uncancelled (hl : e.Logs log) : e.uncancelled.Logs log :=
  ⟨hl.get, hl.create, hl.update, hl.delete, hl.list, hl.status⟩

/-! ## 1. A pass that writes no object -/

/-- If the owner carries the status that a pass computes, the pass ends as its stages do. -/
theorem reconcile_of_carried (clock : Clock) {owner : Owner}
    (hmanaged : owner.managementState ≠ .unmanaged)
    {desired : Except ConfigurationError (List ManagedObject)} {r : Run σ} {health : StackHealth}
    (hresult : (e.converge owner desired (Pass.observe .reconciliation r).2).1 = .ok health)
    (hcarried : owner.status = some (e.computedStatus clock owner desired r)) :
    (e.reconcile clock owner desired r).1 = .ok (.requeue e.settings.resyncSeconds) ∧
      (e.reconcile clock owner desired r).2.world =
        (e.converge owner desired (Pass.observe .reconciliation r).2).2.world := by
  unfold computedStatus computed at hcarried
  rw [hresult] at hcarried
  rw [e.reconcile_managed clock hmanaged, hresult]
  generalize (e.converge owner desired (Pass.observe .reconciliation r).2).2 = after
  let start := (Pass.observe (.duration clock.elapsedMillis) after).2
  have hrefresh : e.refreshStatus owner
      ((PassOutcome.clean health).conditions owner.conditions clock.now) start =
      (.ok false, start) := refreshStatus_carried hcarried start
  obtain ⟨hworld, hconclude⟩ := e.conclude_ok clock owner health start
  rw [hrefresh] at hworld hconclude
  exact ⟨hconclude, hworld⟩

/-- The owner that a pass leaves carries the computed status, unless it could not be written. -/
theorem status_after {owner : Owner} {status : OwnerStatus} {written? : Option Bool}
    {calls : List EngineCall} (h : PassCalls owner status written? calls)
    (hw : written? ≠ some false) (version? : Option String) :
    (owner.after calls version?).status = some status ∧
      (owner.after calls version?).conditions = status.conditions := by
  have hstatus : (owner.after calls version?).status = some status := h.statusAfter hw
  refine ⟨hstatus, ?_⟩
  unfold Owner.conditions
  rw [hstatus]
  rfl

/-- A later pass with the same outcome computes the status again that the owner carries then. -/
theorem carried_again {e' : Engine σ} {clock : Clock} (later : Clock) {owner : Owner}
    {desired desired' : Except ConfigurationError (List ManagedObject)} {r r' : Run σ}
    {written? : Option Bool} {calls : List EngineCall}
    (hpass : PassCalls owner (e.computedStatus clock owner desired r) written? calls)
    (hw : written? ≠ some false) (version? : Option String)
    (houtcome : PassOutcome.ofResult (e'.converge (owner.after calls version?) desired'
        (Pass.observe .reconciliation r').2).1 =
      PassOutcome.ofResult (e.converge owner desired (Pass.observe .reconciliation r).2).1) :
    (owner.after calls version?).status =
      some (e'.computedStatus later (owner.after calls version?) desired' r') := by
  obtain ⟨hstatus, hconditions⟩ := status_after hpass hw version?
  rw [hstatus]
  unfold computedStatus computed
  rw [houtcome, hconditions]
  exact congrArg (fun c => some (OwnerStatus.mk c owner.metadata.generation))
    (PassOutcome.conditions_again _ owner.conditions clock.now later.now).symm

/-- **After a pass that wrote no object**, the next one does not either, nor does it write the
status. -/
theorem quiet_again (he : e.OnMemory view) (hl : e.Logs log) (clock later : Clock) {owner : Owner}
    (hmanaged : owner.managementState ≠ .unmanaged)
    {desired : Except ConfigurationError (List ManagedObject)} {r r' : Run σ} {action : Action}
    {calls : List EngineCall} (version? : Option String)
    (hok : (e.reconcile clock owner desired r).1 = .ok action)
    (hcalls : log (e.reconcile clock owner desired r).2.world = log r.world ++ calls)
    (hj : (view (e.reconcile clock owner desired r).2.world).journal = (view r.world).journal)
    (hm : (view (e.reconcile clock owner desired r).2.world).SameContent (view r'.world)) :
    let second := e.uncancelled.reconcile later (owner.after calls version?) desired r'
    second.1 = .ok action ∧ Reads view log r'.world second.2.world := by
  intro second
  let next := owner.after calls version?
  obtain ⟨written?, calls', hlog, hpass, hend⟩ := reconcile_calls hl clock hmanaged desired r
  obtain rfl : calls = calls' := List.append_cancel_left (hcalls.symm.trans hlog)
  rw [hok] at hend
  cases hend with
  | @done health after hconverges hw =>
    -- what comes after the stages leaves the store alone
    have hview : view (e.reconcile clock owner desired r).2.world = view after.world := by
      rw [e.reconcile_managed clock hmanaged, hconverges.converge]
      exact keeps_conclude (P := (· = view after.world)) he owner clock (.ok health) _ rfl
    rw [hview] at hj hm
    obtain ⟨objects, rfl⟩ : ∃ objects, desired = .ok objects := by
      cases hconverges
      exact ⟨_, rfl⟩
    obtain ⟨hrest, hsame, rfl⟩ := atRest_of_converge he hconverges hj
    rw [hsame] at hm
    have hrest' : (view r'.world).AtRest e.registry e.settings.features.prunableKinds next
        objects := (hrest.congr hm).after calls version?
    obtain ⟨hagain, hreads⟩ := converge_of_atRest he.uncancelled hl.uncancelled (fun _ => rfl)
      (r := (Pass.observe .reconciliation r').2) hrest'
    have hcarried : next.status =
        some (e.uncancelled.computedStatus later next (.ok objects) r') := by
      refine carried_again later hpass hw version? ?_
      rw [hagain, hconverges.converge]
      show PassOutcome.clean (StackHealth.empty.observeAll ((view r'.world).workloads next)) = _
      rw [hm.workloads]
      rfl
    have hmanaged' : next.managementState ≠ .unmanaged := hmanaged
    obtain ⟨hresult, hworld⟩ := reconcile_of_carried later hmanaged' hagain hcarried
    refine ⟨hresult, ?_⟩
    show Reads view log r'.world second.2.world
    rw [hworld]
    exact ⟨hreads.store, hreads.calls⟩

end Engine

/-! ## 2. Texts of errors -/

/-- The text begins like this. -/
def Begins (opening text : String) : Prop := opening.toList <+: text.toList

theorem begins_append (opening rest : String) : Begins opening (opening ++ rest) := by
  unfold Begins
  rw [String.toList_append]
  exact List.prefix_append _ _

theorem Begins.append {opening text : String} (h : Begins opening text) (rest : String) :
    Begins opening (text ++ rest) := by
  unfold Begins at h ⊢
  rw [String.toList_append]
  exact h.trans (List.prefix_append _ _)

/-- Joined messages begin with the first. -/
theorem begins_joined {opening message : String} (h : Begins opening message)
    (messages : List String) : Begins opening (joined (message :: messages)) := by
  unfold joined
  cases messages with
  | nil =>
    rw [String.intercalate_singleton]
    exact h
  | cons next rest =>
    rw [String.intercalate_cons_cons, String.append_assoc]
    exact h.append _

/-- How the errors of the stages after building begin. -/
def stageOpenings : List String :=
  ["sync cancelled with ", "failed to reconcile ", "prune cancelled", "listing ",
    "failed to delete ", "failed to sample component health: "]

/-- How the errors of the writer of statuses begin. -/
def statusOpenings : List String := ["failed to patch status of ", "status writer unavailable: "]

/-- How a rejected configuration begins. -/
def configurationOpening : String := "invalid configuration: "

/-- A sync that fails has left objects out or failed on some, and says so first. -/
theorem SyncError.begins {attempts : List Attempt} {cause : SyncError}
    (h : summarize attempts = .error cause) :
    ∃ opening ∈ stageOpenings, Begins opening cause.message := by
  unfold summarize at h
  dsimp only at h
  split at h
  · cases h
  rename_i hfails
  obtain rfl := Except.error.inj h
  unfold SyncError.message
  dsimp only
  cases hskipped : (attempts.filterMap (·.skipped?)).isEmpty with
  | false =>
    rw [Bool.not_false, if_pos rfl]
    exact ⟨"sync cancelled with ", by simp [stageOpenings],
      begins_joined ((begins_append _ _).append _) _⟩
  | true =>
    have hfailed : (attempts.filterMap (·.failure?)).isEmpty = false := by
      simpa [hskipped] using hfails
    rw [Bool.not_true, if_neg Bool.false_ne_true, hfailed, if_neg Bool.false_ne_true]
    refine ⟨"failed to reconcile ", by simp [stageOpenings], begins_joined ?_ _⟩
    exact ((begins_append _ _).append _).append _

/-- A prune that fails was cancelled, or could not list or not delete, and says so first. -/
theorem PruneError.begins {events : List PruneEvent} {cause : PruneError}
    (h : pruned events = .error cause) :
    ∃ opening ∈ stageOpenings, Begins opening cause.message := by
  unfold pruned at h
  dsimp only at h
  split at h
  · cases h
  rename_i hfails
  obtain rfl := Except.error.inj h
  unfold PruneError.message
  dsimp only
  cases hcancelled : events.any (·.isCancelled) with
  | true =>
    rw [if_pos rfl]
    refine ⟨"prune cancelled", by simp [stageOpenings], begins_joined ?_ _⟩
    exact List.prefix_refl _
  | false =>
    rw [if_neg Bool.false_ne_true, List.nil_append]
    cases hlisted : events.filterMap (·.listFailure?) with
    | cons failure rest =>
      rw [List.isEmpty_cons, if_neg Bool.false_ne_true, List.map_cons]
      refine ⟨"listing ", by simp [stageOpenings], begins_joined (begins_joined ?_ _) _⟩
      exact ((begins_append _ _).append _).append _
    | nil =>
      have hfailed : (events.filterMap (·.failure?)).isEmpty = false := by
        simpa [hcancelled, hlisted] using hfails
      rw [List.isEmpty_nil, if_pos rfl, List.nil_append, hfailed, if_neg Bool.false_ne_true]
      refine ⟨"failed to delete ", by simp [stageOpenings], begins_joined ?_ _⟩
      exact ((begins_append _ _).append _).append _

theorem StatusError.begins (cause : StatusError) :
    ∃ opening ∈ statusOpenings, Begins opening cause.message := by
  cases cause with
  | patch target code =>
    refine ⟨"failed to patch status of ", by simp [statusOpenings], ?_⟩
    cases code with
    | some code => exact ((begins_append _ _).append _).append _
    | none => exact (begins_append _ _).append _
  | unavailable message =>
    exact ⟨"status writer unavailable: ", by simp [statusOpenings], begins_append _ _⟩

variable {σ : Type} {e : Engine σ}

/-- The stages fail with a rejected configuration, or with an error of their own. -/
theorem Engine.FailsAt.begins {owner : Owner}
    {desired : Except ConfigurationError (List ManagedObject)} {r : Run σ} {cause : ReconcileError}
    {w : σ} (h : e.FailsAt owner desired r cause w) :
    (∃ c, cause = .configuration c ∧ Begins configurationOpening cause.message) ∨
      (PassOutcome.ofError cause = .failed cause.message ∧
        ∃ opening ∈ stageOpenings, Begins opening cause.message) := by
  cases h with
  | building c => exact .inl ⟨c, rfl, begins_append _ _⟩
  | sync hsync => exact .inr ⟨rfl, SyncError.begins (congrArg Prod.fst hsync)⟩
  | prune _ hprune => exact .inr ⟨rfl, PruneError.begins (congrArg Prod.fst hprune)⟩
  | health => exact .inr ⟨rfl, "failed to sample component health: ", by simp [stageOpenings],
      begins_append _ _⟩

/-- No text begins in two of these ways. -/
theorem not_begins_both {opening other text : String}
    (h : ¬(opening.toList <+: other.toList) ∧ ¬(other.toList <+: opening.toList))
    (ho : Begins opening text) (ho' : Begins other text) : False :=
  (List.prefix_or_prefix_of_prefix ho ho').elim h.1 h.2

theorem openings_apart : ∀ opening ∈ stageOpenings,
    ∀ other ∈ configurationOpening :: statusOpenings,
      ¬(opening.toList <+: other.toList) ∧ ¬(other.toList <+: opening.toList) := by
  decide

theorem configurationOpening_apart : ∀ other ∈ statusOpenings,
    ¬(configurationOpening.toList <+: other.toList) ∧
      ¬(other.toList <+: configurationOpening.toList) := by
  decide

/-! ## 3. A pass that fails -/

namespace Engine

variable {log : σ → List EngineCall} {owner : Owner}
  {desired desired' : Except ConfigurationError (List ManagedObject)} {r r' : Run σ}
  {cause cause' : ReconcileError}

/-- Failures of the stages with one text are recorded alike, if they do not reject different
configurations. -/
theorem ofError_eq {owner' : Owner} {w w' : σ} (h : e.FailsAt owner desired r cause w)
    (h' : e.FailsAt owner' desired' r' cause' w') (htext : cause'.message = cause.message)
    (hconf : ∀ c c', cause = .configuration c → cause' = .configuration c' → c' = c) :
    PassOutcome.ofError cause' = PassOutcome.ofError cause := by
  rcases h.begins with ⟨c, rfl, hc⟩ | ⟨hfailed, opening, hopening, hbegins⟩
  · rcases h'.begins with ⟨c', rfl, -⟩ | ⟨-, opening', hopening', hbegins'⟩
    · rw [hconf c c' rfl rfl]
    · rw [htext] at hbegins'
      exact (not_begins_both (openings_apart _ hopening' _ List.mem_cons_self) hbegins' hc).elim
  · rcases h'.begins with ⟨c', rfl, hc'⟩ | ⟨hfailed', -⟩
    · rw [htext] at hc'
      exact (not_begins_both (openings_apart _ hopening _ List.mem_cons_self) hbegins hc').elim
    · rw [hfailed, hfailed', htext]

/-- The text of a failed stage is not one of the writer of statuses. -/
theorem FailsAt.message_ne {w : σ} (h : e.FailsAt owner desired r cause w) (failure : StatusError) :
    (ReconcileError.status failure).message ≠ cause.message := by
  intro htext
  obtain ⟨other, hother, hbegins⟩ := failure.begins
  have hbegins' : Begins other cause.message := htext ▸ hbegins
  rcases h.begins with ⟨c, -, hc⟩ | ⟨-, opening, hopening, hc⟩
  · exact not_begins_both (configurationOpening_apart other hother) hc hbegins'
  · exact not_begins_both (openings_apart opening hopening other (List.mem_cons_of_mem _ hother))
      hc hbegins'

/-- **After a pass that failed and recorded it**, the next one with the same failure does not write
the status again. -/
theorem failure_again (hl : e.Logs log) (clock later : Clock)
    (hmanaged : owner.managementState ≠ .unmanaged) {calls : List EngineCall}
    (version? : Option String) (hfails : (e.reconcile clock owner desired r).1 = .error cause)
    (hcalls : log (e.reconcile clock owner desired r).2.world = log r.world ++ calls)
    {status : OwnerStatus} (hwritten : .status owner.target status true ∈ calls)
    (hfails' : (e.reconcile later (owner.after calls version?) desired' r').1 = .error cause')
    (htext : cause'.message = cause.message)
    (hconf : ∀ c c', cause = .configuration c → cause' = .configuration c' → c' = c) :
    CallsOnly log EngineCall.isStore r'.world
      (e.reconcile later (owner.after calls version?) desired' r').2.world := by
  have hmanaged' : (owner.after calls version?).managementState ≠ .unmanaged := hmanaged
  obtain ⟨written?, calls', hlog, hpass, hend⟩ := reconcile_calls hl clock hmanaged desired r
  obtain rfl : calls = calls' := List.append_cancel_left (hcalls.symm.trans hlog)
  obtain ⟨rfl, -⟩ := hpass.written_of_mem hwritten
  obtain ⟨written'?, later', hlog', hpass', hend'⟩ :=
    reconcile_calls hl later hmanaged' desired' r'
  refine ⟨later', hlog', hpass'.isStore_of_carried ?_⟩
  rw [hfails] at hend
  rw [hfails'] at hend'
  cases hend with
  | unrecorded _ hw => cases hw
  | failed hstage =>
    cases hend' with
    | unrecorded _ _ failure => exact absurd htext (hstage.message_ne failure)
    | failed hstage' =>
      refine carried_again later hpass (by simp) version? ?_
      rw [hstage'.converge.1, hstage.converge.1]
      exact ofError_eq hstage hstage' htext hconf

/-! ## 4. The law -/

/-- **A settled owner is left in peace.** A pass that succeeds and writes no object is followed by
one with the same result which only reads the store -- at whatever later time, as long as the
objects and the injected failures are the same, and the owner carries the status that was written
last. A pass that fails and records it is followed by no other record of the same failure: failures
are the same if their texts are, but for rejected configurations, which have to be the same. -/
theorem left_in_peace {view : σ → Memory} (he : e.OnMemory view) (hl : e.Logs log)
    (clock later : Clock) (hmanaged : owner.managementState ≠ .unmanaged) {calls : List EngineCall}
    (hcalls : log (e.reconcile clock owner desired r).2.world = log r.world ++ calls)
    (version? : Option String) :
    let first := e.reconcile clock owner desired r
    let next := owner.after calls version?
    (∀ action, first.1 = .ok action → (view first.2.world).journal = (view r.world).journal →
      ∀ r', (view first.2.world).SameContent (view r'.world) →
        let second := e.uncancelled.reconcile later next desired r'
        second.1 = .ok action ∧ view second.2.world = view r'.world ∧
          ∃ again, log second.2.world = log r'.world ++ again ∧
            ∀ call ∈ again, call.isRead = true) ∧
    ∀ cause status, first.1 = .error cause → .status owner.target status true ∈ calls →
      ∀ desired' r' cause',
        let second := e.reconcile later next desired' r'
        second.1 = .error cause' → cause'.message = cause.message →
        (∀ c c', cause = .configuration c → cause' = .configuration c' → c' = c) →
        ∃ again, log second.2.world = log r'.world ++ again ∧
          ∀ call ∈ again, call.isStore = true := by
  intro first next
  refine ⟨fun action hok hj r' hm => ?_, fun cause status hfails hwritten desired' r' cause' => ?_⟩
  · obtain ⟨hresult, hreads⟩ := quiet_again he hl clock later hmanaged version? hok hcalls hj hm
    exact ⟨hresult, hreads.store, hreads.calls⟩
  · intro second hfails' htext hconf
    exact failure_again hl clock later hmanaged version? hfails hcalls hwritten hfails' htext hconf

theorem exists_of_isOk {α β : Type} {result : Except α β} (h : result.isOk = true) :
    ∃ b, result = .ok b := by
  cases result with
  | error a => cases h
  | ok b => exact ⟨b, rfl⟩

/-- The text of a failure, and whether it is terminal. -/
def shown (result : Except ReconcileError Action) : Except (String × Bool) Action :=
  result.mapError fun cause => (cause.message, cause.isTerminal)

theorem exists_of_shown {result : Except ReconcileError Action} {text : String}
    (h : shown result = .error (text, false)) :
    ∃ cause, result = .error cause ∧ cause.message = text ∧ ∀ c, cause ≠ .configuration c := by
  cases result with
  | ok action => cases h
  | error cause =>
    obtain ⟨hmessage, hterminal⟩ := Prod.mk.inj (Except.error.inj h)
    refine ⟨cause, rfl, hmessage, ?_⟩
    rintro c rfl
    cases hterminal

/-- A store in which the configuration map of a stack is as it is desired. The stack does not carry
a status yet. -/
def tidy : Run (Logged Memory) :=
  ((overMemory .standard .default).logged.reconcile ⟨⟨0, 0⟩, 0⟩ (.sample "one" "a")
    (.ok [.sample (.sample "one" "a") "kept"]) (.start ⟨.empty ⟨0, 0⟩, []⟩)).2

/-- A store in which the configuration map cannot be created. -/
def refused : Run (Logged Memory) :=
  .start ⟨.failOn .sample .create ⟨.configMap, some "tracing", "first"⟩ "no room", []⟩

/-- A pass over the tidy store writes the status only, and an hour later there is nothing to write.
Nor is there, an hour after a failed pass, if the object still cannot be created. -/
theorem left_in_peace_sample :
    let engine := (overMemory .standard .default).logged
    let owner := Owner.sample "one" "a"
    let clock : Clock := ⟨⟨0, 0⟩, 0⟩
    let later : Clock := ⟨⟨3600, 0⟩, 0⟩
    let kept : Except ConfigurationError (List ManagedObject) := .ok [.sample owner "kept"]
    let first : Except ConfigurationError (List ManagedObject) := .ok [.sample owner "first"]
    let written := (engine.reconcile clock owner kept tidy).2
    let calls := written.world.calls.drop tidy.world.calls.length
    let failed := (engine.reconcile clock owner first refused).2
    engine.OnMemory (·.world) ∧ engine.Logs (·.calls) ∧ owner.managementState ≠ .unmanaged ∧
      calls.length = 5 ∧
      (∃ again, (engine.uncancelled.reconcile later (owner.after calls none) kept
          written).2.world.calls = written.world.calls ++ again ∧
        ∀ call ∈ again, call.isRead = true) ∧
      ∃ again, (engine.reconcile later (owner.after failed.world.calls none) first
          failed).2.world.calls = failed.world.calls ++ again ∧
        ∀ call ∈ again, call.isStore = true := by
  intro engine owner clock later kept first written calls failed
  have he : engine.OnMemory (·.world) := (onMemory_overMemory .standard .default).logged
  have hl : engine.Logs (·.calls) := logs_logged _
  have hmanaged : owner.managementState ≠ .unmanaged := by decide
  have hcalls : written.world.calls = tidy.world.calls ++ calls := by decide
  have hj : written.world.world.journal = tidy.world.world.journal := by decide
  have hok : (engine.reconcile clock owner kept tidy).1.isOk = true := by decide
  obtain ⟨action, hok⟩ := exists_of_isOk hok
  obtain ⟨hquiet, -⟩ := left_in_peace he hl clock later hmanaged hcalls none
  have hsame : written.world.world.SameContent written.world.world := ⟨rfl, rfl, rfl⟩
  obtain ⟨-, -, hreads⟩ := hquiet action hok hj written hsame
  let text := "failed to reconcile 1 object(s): ConfigMap tracing/first: " ++
    "ConfigMap tracing/first rejected: no room"
  have hcalls' : failed.world.calls = refused.world.calls ++ failed.world.calls := by decide
  have hfails : shown (engine.reconcile clock owner first refused).1 = .error (text, false) := by
    decide
  obtain ⟨cause, hfails, hmessage, hstage⟩ := exists_of_shown hfails
  have hagain : shown (engine.reconcile later (owner.after failed.world.calls none) first
      failed).1 = .error (text, false) := by decide
  obtain ⟨cause', hagain, hmessage', -⟩ := exists_of_shown hagain
  have hwritten : .status owner.target
      ⟨[⟨"Failed", .true, "FailedReconciliation", text, some "1970-01-01T00:00:00Z"⟩], none⟩ true ∈
        failed.world.calls := by decide
  obtain ⟨-, hsilent⟩ := left_in_peace he hl clock later hmanaged hcalls' none
  have hnext := hsilent cause _ hfails hwritten first failed cause' hagain
    (hmessage'.trans hmessage.symm) fun c _ h => absurd h (hstage c)
  exact ⟨he, hl, hmanaged, by decide, hreads, hnext⟩

end Engine

end Reconciliation
