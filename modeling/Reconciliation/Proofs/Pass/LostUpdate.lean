import Reconciliation.Proofs.Pass.Ownership
import Reconciliation.Proofs.Pass.SharedCalls

/-!
# No update is lost

An update is refused unless the version that it carries is the one of the stored object, and a
version is never given out twice. Merging leaves the version alone. So a sync writes onto the very
object that it has merged into, or not at all, whatever others do meanwhile.

* `LastWrite` -- the last effect on an identity, and the version that it alone was given;
* `Memory.lastWrite_of_update` -- an update that carries a version and succeeds carries that one;
* `JustRead.update_cases` -- the update of a merged object, with the others in between;
* **`Engine.no_lost_update`** -- both, over all runs.
-/

namespace Reconciliation

/-! ## 1. Updates that carry a version -/

/-- The last of the effects on an identity stored an object, and none but it was given the
version. -/
def LastWrite (effects : List StoreEffect) (id : ObjectIdentity) (written : ManagedObject)
    (version : String) : Prop :=
  ∃ before since, effects = before ++ .stored written :: since ∧ written.identity = id ∧
    written.metadata.resourceVersion = some version ∧ (∀ e ∈ since, e.identity? ≠ some id) ∧
    ∀ e ∈ before ++ since, e.version? ≠ some version

/-- In every run from the empty store, an update that carries a version and succeeds carries the one
of the last write to the object. -/
theorem Memory.lastWrite_of_update {clock : Instant} {requests : List StoreRequest}
    {o updated : ManagedObject} {version : String}
    (hv : o.metadata.resourceVersion = some version)
    (hu : (((empty clock).after requests).update o).1 = .ok updated) :
    ∃ written, ((empty clock).after requests).objects.get? o.identity = some written ∧
      LastWrite ((empty clock).effects requests) o.identity written version := by
  obtain ⟨written, hg, -, -, hcarried⟩ := update_eq_ok hu
  have hversion := hcarried version hv
  rcases since_after hg with ⟨hbefore, -⟩ | ⟨before, since, hsplit, hsince⟩
  · cases hbefore
  · refine ⟨written, hg, before, since, hsplit, identity_of_get hg, hversion, hsince,
      fun e he heq => ?_⟩
    have hnodup := (empty clock).nodup_version?_effects requests
    have hgiven : (StoreEffect.stored written).version? = some version := hversion
    rw [hsplit, List.filterMap_append, List.filterMap_cons_some hgiven, List.nodup_middle,
      ← List.filterMap_append] at hnodup
    exact (List.nodup_cons.1 hnodup).1 (List.mem_filterMap.2 ⟨e, he, heq⟩)

/-! ## 2. Updates of a sync -/

/-- Merging keeps the version of the live object. -/
theorem Registry.resourceVersion_mutate {r : Registry} {existing desired merged : ManagedObject}
    (h : r.mutate existing desired = .ok merged) :
    merged.metadata.resourceVersion = existing.metadata.resourceVersion := by
  rw [metadata_mutate h]
  rfl

/-- **An update of what was merged into an object that was just read**: it meets this object, or it
fails and changes nothing. -/
theorem JustRead.update_cases {start : Memory} (hs : start.Versioned) {before : List SharedCall}
    {id : ObjectIdentity} {read : ManagedObject} (h : JustRead start before id (some read))
    {registry : Registry} {desired merged : ManagedObject}
    (hm : registry.mutate read desired = .ok merged) :
    let m := start.afterCalls before
    (m.objects.get? id = some read ∧
        m.update merged = (.ok (m.restamp read merged), m.updated read merged)) ∨
      ∃ cause, m.update merged = (.error cause, m) := by
  intro m
  obtain ⟨seen, since, hbefore, -, hget⟩ := h
  have hread := (Memory.get_eq_ok_iff.1 hget).2
  have hid : merged.identity = id :=
    (Registry.identity_mutate hm).trans (Memory.identity_of_get hread)
  rcases m.update_cases merged with ⟨cause, hfailed⟩ | ⟨stored, hg, hupdate⟩
  · exact .inr ⟨cause, hfailed⟩
  · obtain ⟨stored', hg', -, -, hcarried⟩ :=
      Memory.update_eq_ok (m := m) (congrArg Prod.fst hupdate)
    obtain rfl : stored' = stored := Option.some.inj (hg'.symm.trans hg)
    rw [hid] at hg
    have hversioned : (start.afterCalls seen).Versioned := hs.after _
    obtain ⟨v, -, hv⟩ := hversioned id read hread
    have hversion : stored'.metadata.resourceVersion = read.metadata.resourceVersion :=
      (hcarried _ ((Registry.resourceVersion_mutate hm).trans hv)).trans hv.symm
    have hg'' := hg
    rw [show m = _ from congrArg start.afterCalls hbefore, SharedStore.afterCalls_append] at hg''
    obtain rfl := Memory.eq_of_version hversioned hread hg'' hversion
    exact .inl ⟨hg, hupdate⟩

/-- What comes of the update of an object that a sync has merged. -/
inductive UpdateOutcome (m : Memory) (id : ObjectIdentity) (read merged : ManagedObject)
    (result : Except SyncError SyncReport) : Prop
  /-- It replaces the object that it was merged into, and is recorded. -/
  | written (hg : m.objects.get? id = some read)
      (hu : m.update merged = (.ok (m.restamp read merged), m.updated read merged))
      (hr : ⟨id, .updated, read.uid?⟩ ∈ (SyncReport.ofResult result).records)
  /-- The store stays as it is, and its failure is recorded. -/
  | failed {cause : StoreError} {failure : SyncError} (hu : m.update merged = (.error cause, m))
      (hr : result = .error failure) (hf : ⟨id, .store cause⟩ ∈ failure.failures)

theorem summarize_of_failed {attempts : List Attempt} {failure : ObjectFailure}
    (h : .failed failure ∈ attempts) :
    ∃ error, summarize attempts = .error error ∧ failure ∈ error.failures := by
  have hmem : failure ∈ attempts.filterMap (·.failure?) := List.mem_filterMap.2 ⟨_, h, rfl⟩
  unfold summarize
  dsimp only
  rw [if_neg]
  · exact ⟨_, rfl, hmem⟩
  · rw [Bool.and_eq_true, List.isEmpty_iff]
    intro hempty
    rw [hempty.1] at hmem
    cases hmem

/-- **No update is lost.** In every run of a store, whichever clients make the calls and however
they interleave, an update that carries a version and succeeds carries the version that the last
write to the object was given and no other write was, and the object has neither been written nor
removed since. And when a sync shares its store, then whatever the others do between its calls,
every update it makes is merged into what it has just read, and replaces exactly that; or the store
refuses it, stays as the others left it, and the sync reports the failure. -/
theorem Engine.no_lost_update {e : Engine SharedStore} (he : e.store = SharedStore.store)
    (clock : Instant) :
    (∀ requests (o updated : ManagedObject) version,
      o.metadata.resourceVersion = some version →
      (((Memory.empty clock).after requests).update o).1 = .ok updated →
      ∃ written, ((Memory.empty clock).after requests).objects.get? o.identity = some written ∧
        LastWrite ((Memory.empty clock).effects requests) o.identity written version) ∧
    ∀ (earlier : List StoreRequest) (others : List (List StoreRequest)) (r : Run SharedStore)
      (owner : Owner) (desired : List ManagedObject),
      let start := (Memory.empty clock).after earlier
      let run := e.sync owner desired { r with world := ⟨start, [], others⟩ }
      ∀ before merged rest, run.2.world.log = before ++ ⟨.engine, .update merged⟩ :: rest →
        ∃ object ∈ desired, ∃ read,
          JustRead start before object.identity (some read) ∧
          e.registry.mutate read (object.attach owner.reference?) = .ok merged ∧
          UpdateOutcome (start.afterCalls before) object.identity read merged run.1 := by
  refine ⟨fun requests o updated version => Memory.lastWrite_of_update, ?_⟩
  intro earlier others r owner desired start run before merged rest hlog
  have hversioned : start.Versioned := (Memory.versioned_empty clock).after earlier
  cases sync_accounts he start others r owner desired before _ rest hlog with
  | @update object read _ ho hread hm ha =>
    refine ⟨object, ho, read, hread, hm, ?_⟩
    rcases hread.update_cases hversioned hm with ⟨hg, hu⟩ | ⟨cause, hu⟩
    · rw [hu] at ha
      refine .written hg hu (SyncReport.mem_records_ofResult.2 ?_)
      rw [← (start.afterCalls before).uid?_restamp read merged]
      exact ha
    · rw [hu] at ha
      obtain ⟨failure, hr, hf⟩ := summarize_of_failed ha
      exact .failed hu hr hf

/-- The configuration map of a stack. -/
def ManagedObject.contended : ManagedObject := .sample (.sample "one" "a") "kept"

/-- A store that holds the configuration map. Another client updates it after the next call but
one. -/
def SharedStore.contended : SharedStore where
  start := (Memory.empty ⟨0, 0⟩).after [.insert .contended]
  log := []
  others := [[], [.update .contended]]

/-- The sync of the stack there. -/
def Engine.contended : Except SyncError SyncReport × Run SharedStore :=
  (SharedStore.engine .standard .default).sync (.sample "one" "a") [.contended]
    (.start .contended)

/-- An object that was stored under version 1 can be updated by who has seen this version. A sync
that lost the race for it does not overwrite the other's update. -/
theorem Engine.no_lost_update_contended :
    let start := SharedStore.contended.start
    let seen := (Memory.empty ⟨0, 0⟩).stamp .contended
    (SharedStore.engine .standard .default).store = SharedStore.store ∧
      (seen.metadata.resourceVersion = some "1" ∧
        (start.update seen).1 = .ok (start.restamp seen seen) ∧
        ∃ written, start.objects.get? seen.identity = some written ∧
          LastWrite ((Memory.empty ⟨0, 0⟩).effects [.insert .contended]) seen.identity written
            "1") ∧
      ∃ before merged, before =
          [⟨.engine, .get ManagedObject.contended.identity⟩, ⟨.other, .update .contended⟩] ∧
        Engine.contended.2.world.log = before ++ [⟨.engine, .update merged⟩] ∧
        ∃ o ∈ [ManagedObject.contended], ∃ read, JustRead start before o.identity (some read) ∧
          UpdateOutcome (start.afterCalls before) o.identity read merged Engine.contended.1 := by
  have hcarried : ((Memory.empty ⟨0, 0⟩).stamp .contended).metadata.resourceVersion = some "1" := by
    decide
  have hupdate : (SharedStore.contended.start.update ((Memory.empty ⟨0, 0⟩).stamp .contended)).1 =
      .ok (SharedStore.contended.start.restamp ((Memory.empty ⟨0, 0⟩).stamp .contended)
        ((Memory.empty ⟨0, 0⟩).stamp .contended)) := by
    rfl
  obtain ⟨hstore, hsync⟩ :=
    no_lost_update (e := SharedStore.engine .standard .default) rfl ⟨0, 0⟩
  obtain ⟨merged, hlog⟩ : ∃ merged, Engine.contended.2.world.log =
      [⟨.engine, .get ManagedObject.contended.identity⟩, ⟨.other, .update .contended⟩] ++
        [⟨.engine, .update merged⟩] := ⟨_, by rfl⟩
  obtain ⟨o, ho, read, hread, -, houtcome⟩ := hsync [.insert .contended]
    SharedStore.contended.others (.start .contended) (.sample "one" "a") [.contended] _ _ _ hlog
  exact ⟨rfl, ⟨hcarried, hupdate, hstore [.insert .contended] _ _ "1" hcarried hupdate⟩,
    _, merged, rfl, hlog, o, ho, read, hread, houtcome⟩

end Reconciliation
