import Reconciliation.Proofs.Pass.Logbook
import Reconciliation.Proofs.Pass.Ownership

/-!
# Every desired object is accounted for

A sync goes through the desired objects until it is cancelled. Whatever the store answers, each
object that it comes to has one entry, a record or a failure, and the calls made for the object are
told by the entry; the others are reported as left out, and no call is made for them.

* `Attempt.Made` -- an entry for an object, with the calls made for it;
* `syncObject_made` -- one object;
* **`Engine.attempts_each`**, `Engine.attempts_made` -- all of them, up to a cancellation;
* **`Engine.sync_accounted`** -- the report of a sync, or its error, and the log.
-/

namespace Reconciliation

/-! ## 1. Entries -/

/-- The write that brings an outcome about. -/
def SyncOutcome.write? (id : ObjectIdentity) : SyncOutcome → Option StoreCall
  | created => some (.create id)
  | updated => some (.update id)
  | recreating => some (.delete id)
  | unchanged => none

/-- The entry for an object, and the calls made for it: one get, and at most one write, which the
get has to precede. -/
inductive Attempt.Made (id : ObjectIdentity) : Attempt → List EngineCall → Prop
  | unread (cause : StoreError) :
      Made id (.failed ⟨id, .store cause⟩) [.store (.get id) false]
  | unmerged (cause : MutateError) :
      Made id (.failed ⟨id, .mutation cause⟩) [.store (.get id) true]
  | unchanged (uid : Option String) :
      Made id (.synced ⟨id, .unchanged, uid⟩) [.store (.get id) true]
  | unwritten {outcome : SyncOutcome} {call : StoreCall} (hw : outcome.write? id = some call)
      (cause : StoreError) :
      Made id (.failed ⟨id, .store cause⟩) [.store (.get id) true, .store call false]
  | written {outcome : SyncOutcome} {call : StoreCall} (hw : outcome.write? id = some call)
      (uid : Option String) :
      Made id (.synced ⟨id, outcome, uid⟩) [.store (.get id) true, .store call true]

/-- An object that was attempted is not reported as left out. -/
theorem Attempt.Made.skipped? {id : ObjectIdentity} {attempt : Attempt} {calls : List EngineCall}
    (h : Made id attempt calls) : attempt.skipped? = none := by
  cases h <;> rfl

/-- The entry of a write, by its result. -/
theorem Attempt.Made.ofWrite {id : ObjectIdentity} {outcome : SyncOutcome} {call : StoreCall}
    (hw : outcome.write? id = some call) {α : Type} (result : Except StoreError α)
    (uid? : α → Option String) :
    Made id (.ofResult id (recordOf id outcome result uid?))
      [.store (.get id) true, .store call result.isOk] := by
  cases result with
  | error cause => exact .unwritten hw cause
  | ok a => exact .written hw (uid? a)

variable {σ : Type} {e : Engine σ} {log : σ → List EngineCall}

/-! ## 2. One object -/

/-- A write that ends the attempt at an object which was found out about. -/
theorem write_made {id : ObjectIdentity} (outcome : SyncOutcome) {call : StoreCall}
    (hw : outcome.write? id = some call) {α : Type} (uid? : α → Option String)
    {act : StateM σ (Except StoreError α)} {before w : σ}
    (hget : log w = log before ++ [.store (.get id) true])
    (hact : log (act w).2 = log w ++ [.store call (act w).1.isOk]) :
    ∃ calls, log (act w).2 = log before ++ calls ∧
      Attempt.Made id (.ofResult id (recordOf id outcome (act w).1 uid?)) calls := by
  refine ⟨_, ?_, .ofWrite hw (act w).1 uid?⟩
  rw [hact, hget, List.append_assoc]
  rfl

/-- **One object**: whatever the store answers, the attempt has an entry that tells its calls. -/
theorem syncObject_made (hl : e.Logs log) (hg : e.store.AnswersAsked)
    (owner? : Option OwnerReference) (object : ManagedObject) (w : σ) :
    ∃ calls, log (syncObject e.store e.registry owner? object w).2 = log w ++ calls ∧
      Attempt.Made object.identity
        (.ofResult object.identity (syncObject e.store e.registry owner? object w).1) calls := by
  have hget := hl.get object.identity w
  have hasked := hg object.identity w
  have hrun := Engine.syncObject_run e.store e.registry owner? object w
  generalize (syncObject e.store e.registry owner? object w).1 = result at hrun ⊢
  generalize (syncObject e.store e.registry owner? object w).2 = after at hrun ⊢
  cases hrun with
  | unread hanswer =>
    rw [hanswer] at hget
    exact ⟨_, hget, .unread _⟩
  | @create w' hanswer =>
    rw [hanswer] at hget
    have hcreate := hl.create (object.attach owner?) w'
    rw [ManagedObject.identity_attach] at hcreate
    exact write_made .created rfl (·.uid?) hget hcreate
  | @delete _ _ w' hanswer hm =>
    rw [hanswer] at hget
    exact write_made .recreating rfl (fun _ => none) hget (hl.delete object.identity w')
  | unmerged hanswer hm hkept =>
    rw [hanswer] at hget
    exact ⟨_, hget, .unmerged _⟩
  | unchanged hanswer hm hs =>
    rw [hanswer] at hget
    exact ⟨_, hget, .unchanged _⟩
  | @update existing merged w' hanswer hm hs =>
    rw [hanswer] at hget hasked
    have hid : merged.identity = object.identity :=
      (Registry.identity_mutate hm).trans (hasked existing rfl)
    have hupdate := hl.update merged w'
    rw [hid] at hupdate
    exact write_made .updated rfl (·.uid?) hget hupdate

/-! ## 3. All objects -/

/-- The attempts at a list of objects: those that the sync came to, and those that it did not. -/
structure Accounted (e : Engine σ) (log : σ → List EngineCall) (objects : List ManagedObject)
    (before after : σ) (attempted left : List ManagedObject)
    (made : List (Attempt × List EngineCall)) : Prop where
  split : objects = attempted ++ left
  /-- One entry for each object that the sync came to, in order. -/
  entries : List.Forall₂ (fun o m => Attempt.Made o.identity m.1 m.2) attempted made
  /-- The calls made are those of the entries. -/
  calls : log after = log before ++ made.flatMap (·.2)
  /-- Only cancellation leaves objects out. -/
  cancelled : left ≠ [] → e.cancelled after = true

/-- **What every attempt adds to a log, all of them add together**, up to a cancellation. -/
theorem Engine.attempts_each (e : Engine σ) (owner? : Option OwnerReference) {ι : Type}
    {log : σ → List ι} {P : ManagedObject → Attempt → List ι → Prop}
    {objects : List ManagedObject}
    (hstep : ∀ o ∈ objects, ∀ w, ∃ part,
      log (syncObject e.store e.registry owner? o w).2 = log w ++ part ∧
      P o (.ofResult o.identity (syncObject e.store e.registry owner? o w).1) part) (r : Run σ) :
    ∃ (attempted left : List ManagedObject) (made : List (Attempt × List ι)),
      objects = attempted ++ left ∧
      List.Forall₂ (fun o m => P o m.1 m.2) attempted made ∧
      log (e.attempts owner? objects r).2.world = log r.world ++ made.flatMap (·.2) ∧
      (left ≠ [] → e.cancelled (e.attempts owner? objects r).2.world = true) ∧
      (e.attempts owner? objects r).1 =
        made.map (·.1) ++ left.map fun o => .skipped o.identity := by
  induction objects generalizing r with
  | nil => exact ⟨[], [], [], rfl, .nil, (List.append_nil _).symm, fun h => absurd rfl h, rfl⟩
  | cons object rest ih =>
    cases hc : e.cancelled r.world with
    | true =>
      rw [attempts_cancelled owner? hc]
      exact ⟨[], object :: rest, [], rfl, .nil, (List.append_nil _).symm, fun _ => hc, rfl⟩
    | false =>
      obtain ⟨hattempt, hworld⟩ := attempt_run owner? e object r
      obtain ⟨part, hpart, hmade⟩ := hstep object List.mem_cons_self r.world
      rw [← hworld] at hpart
      rw [← hattempt] at hmade
      obtain ⟨attempted, left, made, hsplit, hentries, hlog, hcancelled, hresult⟩ :=
        ih (fun o ho => hstep o (List.mem_cons_of_mem _ ho)) (e.attempt owner? object r).2
      rw [attempts_cons owner? hc]
      refine ⟨object :: attempted, left, (_, part) :: made, congrArg _ hsplit,
        .cons hmade hentries, ?_, hcancelled, congrArg _ hresult⟩
      rw [hlog, hpart, List.append_assoc]
      rfl

/-- **All objects**, whenever the sync is cancelled. -/
theorem Engine.attempts_made (hl : e.Logs log) (hg : e.store.AnswersAsked)
    (owner? : Option OwnerReference) (objects : List ManagedObject) (r : Run σ) :
    ∃ attempted left made,
      Accounted e log objects r.world (e.attempts owner? objects r).2.world attempted left made ∧
      (e.attempts owner? objects r).1 =
        made.map (·.1) ++ left.map fun o => .skipped o.identity := by
  obtain ⟨attempted, left, made, hsplit, hentries, hcalls, hcancelled, hresult⟩ :=
    attempts_each e owner? (fun o _ w => syncObject_made hl hg owner? o w) r
  exact ⟨attempted, left, made, ⟨hsplit, hentries, hcalls, hcancelled⟩, hresult⟩

/-- What is left out of a list of attempts counts for the report as skipped only. -/
theorem summarize_append_skipped {attempts : List Attempt} (left : List ObjectIdentity)
    (h : ∀ a ∈ attempts, a.skipped? = none) :
    summarize (attempts ++ left.map .skipped) =
      let report : SyncReport := ⟨attempts.filterMap (·.record?), left⟩
      let failures := attempts.filterMap (·.failure?)
      if left = [] ∧ failures = [] then .ok report
      else .error ⟨failures, !left.isEmpty, report⟩ := by
  have hrecords : (left.map Attempt.skipped).filterMap (·.record?) = [] := by
    rw [List.filterMap_map]
    exact List.filterMap_eq_nil_iff.2 fun _ _ => rfl
  have hfailures : (left.map Attempt.skipped).filterMap (·.failure?) = [] := by
    rw [List.filterMap_map]
    exact List.filterMap_eq_nil_iff.2 fun _ _ => rfl
  have hskipped : (left.map Attempt.skipped).filterMap (·.skipped?) = left := by
    rw [List.filterMap_map]
    exact List.filterMap_some
  unfold summarize
  simp only [List.filterMap_append, hrecords, hfailures, hskipped, List.append_nil,
    List.filterMap_eq_nil_iff.2 h, List.nil_append, Bool.and_eq_true, List.isEmpty_iff,
    and_comm]

/-- **Every desired object is accounted for.** Whatever the store does -- each call may answer
anything, but a get answers an object of the identity that was asked for, if any -- and whenever the
sync is cancelled, it attempts the objects of a first part of the list. Each of them has one entry,
in order: a record or a failure under its own identity, with one get in the log, and at most one
write, of the same identity, if the get succeeded. The objects of the other part are reported as
left out, and the log has no other call. The sync succeeds just if there is no other part and no
failure; its error carries the same report, and says that the sync was cancelled just if there is
one. -/
theorem Engine.sync_accounted (hl : e.Logs log) (hg : e.store.AnswersAsked) (owner : Owner)
    (desired : List ManagedObject) (r : Run σ) :
    ∃ attempted left made,
      Accounted e log desired r.world (e.sync owner desired r).2.world attempted left made ∧
      let report : SyncReport := ⟨made.filterMap (·.1.record?), left.map (·.identity)⟩
      let failures := made.filterMap (·.1.failure?)
      (e.sync owner desired r).1 =
        if left = [] ∧ failures = [] then .ok report
        else .error ⟨failures, !report.skipped.isEmpty, report⟩ := by
  obtain ⟨attempted, left, made, haccounted, hentries⟩ :=
    attempts_made hl hg owner.reference? desired r
  refine ⟨attempted, left, made, haccounted, ?_⟩
  have hmade : ∀ a ∈ made.map (·.1), a.skipped? = none := by
    intro a ha
    obtain ⟨m, hm, rfl⟩ := List.mem_map.1 ha
    obtain ⟨o, ho⟩ := SyncSteps.exists_of_forall₂ haccounted.entries.flip hm
    exact ho.skipped?
  have hleft : left.map (fun o => Attempt.skipped o.identity) =
      (left.map (·.identity)).map .skipped := by
    rw [List.map_map]
    rfl
  have hresult : (e.sync owner desired r).1 =
      summarize (e.attempts owner.reference? desired r).1 := rfl
  rw [hresult, hentries, hleft, summarize_append_skipped _ hmade, List.filterMap_map,
    List.filterMap_map]
  simp only [List.map_eq_nil_iff]
  rfl

/-- An engine over a store in memory that is cancelled by the first write. -/
def Engine.interrupted : Engine Memory :=
  { overMemory .standard .default with cancelled := fun m => !m.journal.isEmpty }

theorem Engine.onMemory_interrupted : interrupted.OnMemory id := by
  have h := onMemory_overMemory .standard .default
  exact ⟨h.get, h.create, h.update, h.delete, h.list, h.status⟩

/-- A store in which the first of the objects cannot be created. -/
def Memory.refusing : Memory :=
  (empty ⟨0, 0⟩).failOn .create ⟨.configMap, some "tracing", "first"⟩ "no room"

/-- Of three objects, the first fails, the second is created, and the third is left out. -/
theorem Engine.sync_accounted_interrupted :
    let id : String → ObjectIdentity := fun name => ⟨.configMap, some "tracing", name⟩
    let desired := ["first", "second", "third"].map (ManagedObject.sample (.sample "one" "a"))
    let start : Run (Logged Memory) := .start ⟨.refusing, []⟩
    let synced := interrupted.logged.sync (.sample "one" "a") desired start
    interrupted.logged.Logs (·.calls) ∧ interrupted.logged.store.AnswersAsked ∧
      synced.2.world.calls =
        [.store (.get (id "first")) true, .store (.create (id "first")) false,
          .store (.get (id "second")) true, .store (.create (id "second")) true] ∧
      ∃ attempted left made, Accounted interrupted.logged (·.calls) desired ⟨.refusing, []⟩
          synced.2.world attempted left made ∧
        left.map (·.identity) = [id "third"] := by
  intro id desired start synced
  have hlogs := logs_logged interrupted
  have hasked := onMemory_interrupted.logged.answersAsked
  obtain ⟨attempted, left, made, haccounted, hresult⟩ :=
    sync_accounted hlogs hasked (.sample "one" "a") desired start
  have hleft : (SyncReport.ofResult synced.1).skipped = left.map (·.identity) := by
    rw [hresult]
    split <;> rfl
  have hskipped : (SyncReport.ofResult synced.1).skipped = [id "third"] := by decide
  exact ⟨hlogs, hasked, by decide, attempted, left, made, haccounted, hleft.symm.trans hskipped⟩

end Reconciliation
