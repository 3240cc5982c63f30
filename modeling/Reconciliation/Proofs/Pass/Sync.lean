import Reconciliation.Pass.Sync
import Reconciliation.Proofs.Mutation.Idempotence
import Reconciliation.Proofs.Store.Memory

/-!
# What syncing an object does

* `SyncRun`, **`Engine.syncObject_run`** -- one object, with one rule per path through the store and
  the mutation, and `SyncStep` -- the same for the store in memory;
* `SyncStepOk`, `SyncStep.of_ok` -- the paths on which nothing fails, with what they record;
* `Engine.attempt_step` -- every attempt of an engine on the store in memory is one of these steps;
* `Engine.attempts_cons` -- an uncancelled engine attempts the objects in order;
* `summarize_eq_ok_iff`, `SyncSteps`, `Engine.sync_steps` -- a sync that succeeds is one step after
  another, and `SyncSteps.isolate`: each of them has its object to itself.
-/

namespace Reconciliation

/-! ## 1. One object -/

/-- The record of a write, or why it failed. -/
def recordOf (id : ObjectIdentity) (outcome : SyncOutcome) (result : Except StoreError α)
    (uid? : α → Option String) : Except ObjectError ObjectRecord :=
  match result with
  | .error cause => .error (.store cause)
  | .ok a => .ok ⟨id, outcome, uid? a⟩

theorem recordOf_eq_ok {id : ObjectIdentity} {outcome : SyncOutcome}
    {result : Except StoreError α} {uid? : α → Option String} {record : ObjectRecord}
    (h : recordOf id outcome result uid? = .ok record) :
    ∃ a, result = .ok a ∧ record = ⟨id, outcome, uid? a⟩ := by
  cases result with
  | error cause => cases h
  | ok a => exact ⟨a, rfl, (Except.ok.inj h).symm⟩

/-- The ways in which the attempt at an object goes, whatever the store and the policies: what the
get answers, and which write there is for it. -/
inductive SyncRun [MergePolicy π] (store : ObjectStore σ) (registry : Registry π)
    (owner? : Option OwnerReference) (object : ManagedObject) (w : σ) :
    Except ObjectError ObjectRecord → σ → Prop
  | unread {cause : StoreError} {w' : σ}
      (hg : store.get object.identity w = (.error cause, w')) :
      SyncRun store registry owner? object w (.error (.store cause)) w'
  | create {w' : σ} (hg : store.get object.identity w = (.ok none, w')) :
      SyncRun store registry owner? object w
        (recordOf object.identity .created (store.create (object.attach owner?) w').1 (·.uid?))
        (store.create (object.attach owner?) w').2
  | delete {existing : ManagedObject} {violation : ImmutableField} {w' : σ}
      (hg : store.get object.identity w = (.ok (some existing), w'))
      (hm : registry.mutate existing (object.attach owner?) = .error (.immutableField violation)) :
      SyncRun store registry owner? object w
        (recordOf object.identity .recreating (store.delete object.identity w').1 fun _ => none)
        (store.delete object.identity w').2
  | unmerged {existing : ManagedObject} {cause : MutateError} {w' : σ}
      (hg : store.get object.identity w = (.ok (some existing), w'))
      (hm : registry.mutate existing (object.attach owner?) = .error cause)
      (hkept : ∀ violation, cause ≠ .immutableField violation) :
      SyncRun store registry owner? object w (.error (.mutation cause)) w'
  | unchanged {existing merged : ManagedObject} {w' : σ}
      (hg : store.get object.identity w = (.ok (some existing), w'))
      (hm : registry.mutate existing (object.attach owner?) = .ok merged)
      (hs : merged.same existing = true) :
      SyncRun store registry owner? object w (.ok ⟨object.identity, .unchanged, existing.uid?⟩) w'
  | update {existing merged : ManagedObject} {w' : σ}
      (hg : store.get object.identity w = (.ok (some existing), w'))
      (hm : registry.mutate existing (object.attach owner?) = .ok merged)
      (hs : merged.same existing = false) :
      SyncRun store registry owner? object w
        (recordOf object.identity .updated (store.update merged w').1 (·.uid?))
        (store.update merged w').2

/-- What syncing a desired object does to the store, and what comes of it. -/
inductive SyncStep (registry : Registry) (owner? : Option OwnerReference) (object : ManagedObject)
    (m : Memory) : Except ObjectError ObjectRecord → Memory → Prop
  | unread {cause : StoreError} (hg : m.get object.identity = .error cause) :
      SyncStep registry owner? object m (.error (.store cause)) m
  | create (hg : m.get object.identity = .ok none) :
      SyncStep registry owner? object m
        (recordOf object.identity .created (m.create (object.attach owner?)).1 (·.uid?))
        (m.create (object.attach owner?)).2
  | delete {existing : ManagedObject} {violation : ImmutableField}
      (hg : m.get object.identity = .ok (some existing))
      (hm : registry.mutate existing (object.attach owner?) = .error (.immutableField violation)) :
      SyncStep registry owner? object m
        (recordOf object.identity .recreating (m.delete object.identity).1 fun _ => none)
        (m.delete object.identity).2
  | unmerged {existing : ManagedObject} {cause : MutateError}
      (hg : m.get object.identity = .ok (some existing))
      (hm : registry.mutate existing (object.attach owner?) = .error cause) :
      SyncStep registry owner? object m (.error (.mutation cause)) m
  | unchanged {existing merged : ManagedObject}
      (hg : m.get object.identity = .ok (some existing))
      (hm : registry.mutate existing (object.attach owner?) = .ok merged)
      (hs : merged.same existing = true) :
      SyncStep registry owner? object m (.ok ⟨object.identity, .unchanged, existing.uid?⟩) m
  | update {existing merged : ManagedObject}
      (hg : m.get object.identity = .ok (some existing))
      (hm : registry.mutate existing (object.attach owner?) = .ok merged)
      (hs : merged.same existing = false) :
      SyncStep registry owner? object m
        (recordOf object.identity .updated (m.update merged).1 (·.uid?)) (m.update merged).2

/-- What a step that succeeds does, and what it records. -/
inductive SyncStepOk (registry : Registry) (owner? : Option OwnerReference)
    (object : ManagedObject) (m : Memory) : ObjectRecord → Memory → Prop
  | created (hg : m.objects.get? object.identity = none) :
      SyncStepOk registry owner? object m
        ⟨object.identity, .created, (m.stamp (object.attach owner?)).uid?⟩
        (m.created (object.attach owner?))
  | recreating {existing : ManagedObject} {violation : ImmutableField}
      (hg : m.objects.get? object.identity = some existing)
      (hm : registry.mutate existing (object.attach owner?) = .error (.immutableField violation)) :
      SyncStepOk registry owner? object m ⟨object.identity, .recreating, none⟩
        (m.deleted object.identity)
  | unchanged {existing merged : ManagedObject}
      (hg : m.objects.get? object.identity = some existing)
      (hm : registry.mutate existing (object.attach owner?) = .ok merged)
      (hs : merged.same existing = true) :
      SyncStepOk registry owner? object m ⟨object.identity, .unchanged, existing.uid?⟩ m
  | updated {existing merged : ManagedObject}
      (hg : m.objects.get? object.identity = some existing)
      (hm : registry.mutate existing (object.attach owner?) = .ok merged)
      (hs : merged.same existing = false) (hid : merged.identity = object.identity) :
      SyncStepOk registry owner? object m
        ⟨object.identity, .updated, (m.restamp existing merged).uid?⟩ (m.updated existing merged)

/-- Attaching a reference changes the metadata and nothing else. -/
theorem ManagedObject.exists_attach (o : ManagedObject) (owner? : Option OwnerReference) :
    ∃ m : ObjectMeta, m.name = o.metadata.name ∧ m.namespace? = o.metadata.namespace? ∧
      o.attach owner? = o.withMetadata m := by
  unfold attach
  cases owner? with
  | none => exact ⟨o.metadata, rfl, rfl, o.withMetadata_metadata.symm⟩
  | some owner =>
    dsimp only
    split
    · exact ⟨o.metadata.controlledBy owner, rfl, rfl, rfl⟩
    · exact ⟨o.metadata, rfl, rfl, o.withMetadata_metadata.symm⟩

@[simp] theorem ManagedObject.identity_attach (o : ManagedObject)
    (owner? : Option OwnerReference) : (o.attach owner?).identity = o.identity := by
  obtain ⟨m, hname, hnamespace, hm⟩ := o.exists_attach owner?
  rw [hm]
  exact identity_withMetadata hname hnamespace

@[simp] theorem ManagedObject.kind_attach (o : ManagedObject) (owner? : Option OwnerReference) :
    (o.attach owner?).kind = o.kind := congrArg ObjectIdentity.kind (o.identity_attach owner?)

namespace SyncStep

variable {registry : Registry} {owner? : Option OwnerReference} {object : ManagedObject}
  {m m' : Memory} {result : Except ObjectError ObjectRecord}

/-- A step writes the object that it is about and no other. -/
theorem spares (h : SyncStep registry owner? object m result m') {id : ObjectIdentity}
    (hne : object.identity ≠ id) : Memory.Spares id m m' := by
  cases h with
  | unread | unmerged | unchanged => exact .refl m
  | create => exact .create m (by rwa [ManagedObject.identity_attach])
  | delete => exact .delete m hne
  | update hg hm =>
    refine .update m ?_
    rw [Registry.identity_mutate hm, Memory.identity_of_get (Memory.get_eq_ok_iff.1 hg).2]
    exact hne

/-- A step leaves an object alone that the mutation leaves as it is. -/
theorem unchanged_of_mutate (h : SyncStep registry owner? object m result m')
    {stored merged : ManagedObject} (hget : m.get object.identity = .ok (some stored))
    (hmerged : registry.mutate stored (object.attach owner?) = .ok merged)
    (hsame : merged.same stored = true) :
    result = .ok ⟨object.identity, .unchanged, stored.uid?⟩ ∧ m' = m := by
  cases h with
  | unread hg => cases hget.symm.trans hg
  | create hg => cases hget.symm.trans hg
  | delete hg hm | unmerged hg hm =>
    cases hget.symm.trans hg
    cases hmerged.symm.trans hm
  | unchanged hg =>
    cases hget.symm.trans hg
    exact ⟨rfl, rfl⟩
  | update hg hm hs =>
    cases hget.symm.trans hg
    cases hmerged.symm.trans hm
    rw [hsame] at hs
    cases hs

/-- A step that succeeds has read the object. -/
theorem get_of_ok {record : ObjectRecord}
    (h : SyncStep registry owner? object m (.ok record) m') :
    m.get object.identity = .ok (m.objects.get? object.identity) := by
  generalize hr : (Except.ok record : Except ObjectError ObjectRecord) = result at h
  cases h with
  | unread => cases hr
  | create hg | delete hg | unmerged hg | unchanged hg | update hg =>
    rw [hg, (Memory.get_eq_ok_iff.1 hg).2]

/-- **The steps that succeed.** -/
theorem of_ok {record : ObjectRecord}
    (h : SyncStep registry owner? object m (.ok record) m') :
    SyncStepOk registry owner? object m record m' := by
  generalize hr : (Except.ok record : Except ObjectError ObjectRecord) = result at h
  cases h with
  | unread => cases hr
  | unmerged => cases hr
  | create hg =>
    obtain ⟨created, hok, rfl⟩ := recordOf_eq_ok hr.symm
    rcases m.create_cases (object.attach owner?) with ⟨e, he⟩ | ⟨-, he⟩
    · rw [he] at hok
      cases hok
    · rw [he] at hok ⊢
      obtain rfl := Except.ok.inj hok
      exact .created (Memory.get_eq_ok_iff.1 hg).2
  | delete hg hm =>
    obtain ⟨_, hok, rfl⟩ := recordOf_eq_ok hr.symm
    have hfound := (Memory.get_eq_ok_iff.1 hg).2
    rcases m.delete_cases object.identity with ⟨e, -, he⟩ | ⟨-, ⟨hn, -⟩ | ⟨-, he⟩⟩
    · rw [he] at hok
      cases hok
    · cases hn.symm.trans hfound
    · rw [he]
      exact .recreating hfound hm
  | unchanged hg hm hs =>
    obtain rfl := Except.ok.inj hr
    exact .unchanged (Memory.get_eq_ok_iff.1 hg).2 hm hs
  | @update existing merged hg hm hs =>
    obtain ⟨updated, hok, rfl⟩ := recordOf_eq_ok hr.symm
    have hfound := (Memory.get_eq_ok_iff.1 hg).2
    have hid : merged.identity = object.identity :=
      (Registry.identity_mutate hm).trans (Memory.identity_of_get hfound)
    rcases m.update_cases merged with ⟨e, he⟩ | ⟨stored, hstored, he⟩
    · rw [he] at hok
      cases hok
    · rw [hid, hfound] at hstored
      obtain rfl := Option.some.inj hstored
      rw [he] at hok ⊢
      obtain rfl := Except.ok.inj hok
      exact .updated hfound hm hs hid

/-- A step that fails leaves the store as it was. -/
theorem of_error {cause : ObjectError}
    (h : SyncStep registry owner? object m (.error cause) m') : m' = m := by
  generalize hr : (Except.error cause : Except ObjectError ObjectRecord) = result at h
  cases h with
  | unread | unmerged | unchanged => rfl
  | create =>
    rcases m.create_cases (object.attach owner?) with ⟨e, he⟩ | ⟨-, he⟩
    · rw [he]
    · rw [he] at hr
      cases hr
  | delete =>
    rcases m.delete_cases object.identity with ⟨e, -, he⟩ | ⟨-, ⟨-, he⟩ | ⟨-, he⟩⟩
    · rw [he]
    · rw [he]
    · rw [he] at hr
      cases hr
  | @update existing merged =>
    rcases m.update_cases merged with ⟨e, he⟩ | ⟨stored, -, he⟩
    · rw [he]
    · rw [he] at hr
      cases hr

/-- A step that succeeds records the object that it is about. -/
theorem identity_of_ok {record : ObjectRecord}
    (h : SyncStep registry owner? object m (.ok record) m') :
    record.identity = object.identity := by
  cases h.of_ok <;> rfl

end SyncStep

/-- What became of an object, by the result of its step. -/
def Attempt.ofResult (id : ObjectIdentity) : Except ObjectError ObjectRecord → Attempt
  | .ok record => synced record
  | .error cause => failed ⟨id, cause⟩

namespace Engine

variable {σ π : Type} [MergePolicy π] {e : Engine σ} {view : σ → Memory}

/-- A write whose answer becomes a record. -/
theorem write_run {α : Type} (id : ObjectIdentity) (outcome : SyncOutcome)
    (uid? : α → Option String) {act : StateM σ (Except StoreError α)}
    {answer : Except StoreError α → StateM σ (Except ObjectError ObjectRecord)}
    (ha : ∀ result w, answer result w = (recordOf id outcome result uid?, w)) (w : σ) :
    (act >>= answer) w = (recordOf id outcome (act w).1 uid?, (act w).2) :=
  ha (act w).1 (act w).2

/-- **One object, with any store and any policies.** -/
theorem syncObject_run (store : ObjectStore σ) (registry : Registry π)
    (owner? : Option OwnerReference) (object : ManagedObject) (w : σ) :
    SyncRun store registry owner? object w (syncObject store registry owner? object w).1
      (syncObject store registry owner? object w).2 := by
  unfold syncObject
  rw [run_bind]
  cases hg : store.get object.identity w with
  | mk answer w' =>
    cases answer with
    | error cause => exact .unread hg
    | ok found? =>
      cases found? with
      | none =>
        dsimp only
        rw [write_run object.identity .created (·.uid?)]
        · exact .create hg
        · intro result w
          cases result <;> rfl
      | some existing =>
        dsimp only
        cases hm : registry.mutate existing (object.attach owner?) with
        | error cause =>
          cases cause with
          | immutableField violation =>
            dsimp only
            rw [write_run object.identity .recreating (fun _ => none)]
            · exact .delete hg hm
            · intro result w
              cases result <;> rfl
          | _ => exact .unmerged hg hm fun _ => MutateError.noConfusion
        | ok merged =>
          dsimp only
          cases hs : merged.same existing with
          | true => exact .unchanged hg hm hs
          | false =>
            rw [if_neg Bool.false_ne_true, write_run object.identity .updated (·.uid?)]
            · exact .update hg hm hs
            · intro result w
              cases result <;> rfl

/-- With a store in memory, the attempt is a step of that store. -/
theorem syncObject_step (he : e.OnMemory view) (owner? : Option OwnerReference)
    (object : ManagedObject) (w : σ) :
    SyncStep e.registry owner? object (view w)
      (syncObject e.store e.registry owner? object w).1
      (view (syncObject e.store e.registry owner? object w).2) := by
  obtain ⟨hget, hview⟩ := he.get object.identity w
  have hrun := syncObject_run e.store e.registry owner? object w
  generalize (syncObject e.store e.registry owner? object w).1 = result at hrun ⊢
  generalize (syncObject e.store e.registry owner? object w).2 = after at hrun ⊢
  cases hrun with
  | unread hg =>
    rw [hg] at hget hview
    rw [hview]
    exact .unread hget.symm
  | @create w' hg =>
    rw [hg] at hget hview
    obtain ⟨hresult, hcreated⟩ := he.create (object.attach owner?) w'
    rw [hresult, hcreated, hview]
    exact .create hget.symm
  | @delete _ _ w' hg hm =>
    rw [hg] at hget hview
    obtain ⟨hresult, hdeleted⟩ := he.delete object.identity w'
    rw [hresult, hdeleted, hview]
    exact .delete hget.symm hm
  | unmerged hg hm hkept =>
    rw [hg] at hget hview
    rw [hview]
    exact .unmerged hget.symm hm
  | unchanged hg hm hs =>
    rw [hg] at hget hview
    rw [hview]
    exact .unchanged hget.symm hm hs
  | @update _ merged w' hg hm hs =>
    rw [hg] at hget hview
    obtain ⟨hresult, hupdated⟩ := he.update merged w'
    rw [hresult, hupdated, hview]
    exact .update hget.symm hm hs

/-! ## 2. All objects -/

variable (owner? : Option OwnerReference)

/-- What an attempt observes does not touch the world. -/
theorem attempt_run (e : Engine σ π) (object : ManagedObject) (r : Run σ) :
    (e.attempt owner? object r).1 =
        .ofResult object.identity (syncObject e.store e.registry owner? object r.world).1 ∧
      (e.attempt owner? object r).2.world =
        (syncObject e.store e.registry owner? object r.world).2 := by
  unfold attempt
  rw [run_bind, Pass.run_onWorld]
  cases (syncObject e.store e.registry owner? object r.world).1 <;> exact ⟨rfl, rfl⟩

/-- An attempt is a step. -/
theorem attempt_step (he : e.OnMemory view) (object : ManagedObject) (r : Run σ) :
    ∃ result, (e.attempt owner? object r).1 = .ofResult object.identity result ∧
      SyncStep e.registry owner? object (view r.world) result
        (view (e.attempt owner? object r).2.world) := by
  obtain ⟨hattempt, hworld⟩ := attempt_run owner? e object r
  refine ⟨_, hattempt, ?_⟩
  rw [hworld]
  exact syncObject_step he owner? object r.world

theorem attempts_cancelled {e : Engine σ π} {objects : List ManagedObject} {r : Run σ}
    (hc : e.cancelled r.world = true) :
    e.attempts owner? objects r = (objects.map fun o => .skipped o.identity, r) := by
  cases objects with
  | nil => rfl
  | cons object rest =>
    rw [attempts]
    show (if e.cancelled r.world = true then _ else _ : Pass σ (List Attempt)) r = _
    rw [if_pos hc]
    rfl

theorem attempts_cons {e : Engine σ π} {object : ManagedObject} {rest : List ManagedObject}
    {r : Run σ}
    (hc : e.cancelled r.world = false) :
    e.attempts owner? (object :: rest) r =
      ((e.attempt owner? object r).1 ::
        (e.attempts owner? rest (e.attempt owner? object r).2).1,
        (e.attempts owner? rest (e.attempt owner? object r).2).2) := by
  rw [attempts]
  show (if e.cancelled r.world = true then _ else _ : Pass σ (List Attempt)) r = _
  rw [hc]
  rfl

/-- **What every step on a desired object preserves, all attempts together preserve**, however many
of them cancellation leaves out. -/
theorem keeps_attempts (he : e.OnMemory view) {P : Memory → Prop} {objects : List ManagedObject}
    (hstep : ∀ o ∈ objects, ∀ m result m', P m → SyncStep e.registry owner? o m result m' → P m') :
    Pass.Keeps view P (e.attempts owner? objects) := by
  intro r h
  induction objects generalizing r with
  | nil => exact h
  | cons object rest ih =>
    cases hc : e.cancelled r.world with
    | true =>
      rw [attempts_cancelled owner? hc]
      exact h
    | false =>
      obtain ⟨result, -, hfirst⟩ := attempt_step owner? he object r
      have hnext := hstep object List.mem_cons_self _ _ _ h hfirst
      rw [attempts_cons owner? hc]
      exact ih (fun o ho => hstep o (List.mem_cons_of_mem _ ho)) _ hnext

/-- Objects that are not desired are left alone. -/
theorem attempts_spares (he : e.OnMemory view) {id : ObjectIdentity} {objects : List ManagedObject}
    (hid : ∀ o ∈ objects, o.identity ≠ id) (r : Run σ) :
    Memory.Spares id (view r.world) (view (e.attempts owner? objects r).2.world) :=
  keeps_attempts owner? he (P := Memory.Spares id (view r.world))
    (fun o ho _ _ _ h hstep => h.trans (hstep.spares (hid o ho))) r (.refl _)

end Engine

/-! ## 3. Reports -/

/-- Syncing succeeds just if every attempt did. -/
theorem summarize_eq_ok_iff {attempts : List Attempt} {report : SyncReport} :
    summarize attempts = .ok report ↔
      report.skipped = [] ∧ attempts = report.records.map .synced := by
  have hall : ∀ as : List Attempt, as.filterMap (·.failure?) = [] →
      as.filterMap (·.skipped?) = [] → as = (as.filterMap (·.record?)).map .synced := by
    intro as
    induction as with
    | nil => exact fun _ _ => rfl
    | cons a rest ih =>
      intro hfailed hskipped
      cases a with
      | synced record => exact congrArg (Attempt.synced record :: ·) (ih hfailed hskipped)
      | failed failure => cases hfailed
      | skipped id => cases hskipped
  unfold summarize
  constructor
  · intro h
    dsimp only at h
    split at h
    · rename_i hempty
      obtain ⟨hfailed, hskipped⟩ := Bool.and_eq_true_iff.1 hempty
      obtain rfl := Except.ok.inj h
      rw [List.isEmpty_iff] at hfailed hskipped
      exact ⟨hskipped, hall attempts hfailed hskipped⟩
    · cases h
  · intro h
    obtain ⟨records, skipped⟩ := report
    obtain ⟨hskipped, hattempts⟩ := h
    obtain rfl : skipped = [] := hskipped
    have hfailed : (records.map Attempt.synced).filterMap (·.failure?) = [] := by
      rw [List.filterMap_map]
      exact List.filterMap_eq_nil_iff.2 fun _ _ => rfl
    have hnot : (records.map Attempt.synced).filterMap (·.skipped?) = [] := by
      rw [List.filterMap_map]
      exact List.filterMap_eq_nil_iff.2 fun _ _ => rfl
    have hrecords : (records.map Attempt.synced).filterMap (·.record?) = records := by
      rw [List.filterMap_map]
      exact List.filterMap_some
    rw [hattempts]
    dsimp only
    rw [hfailed, hnot, hrecords]
    rfl

/-! ## 4. A sync that succeeds -/

/-- A step on each of the objects in order, all of which succeed. -/
inductive SyncSteps (registry : Registry) (owner? : Option OwnerReference) :
    List ManagedObject → Memory → List ObjectRecord → Memory → Prop
  | nil {m : Memory} : SyncSteps registry owner? [] m [] m
  | cons {object : ManagedObject} {rest : List ManagedObject} {m m' m'' : Memory}
      {record : ObjectRecord} {records : List ObjectRecord}
      (first : SyncStep registry owner? object m (.ok record) m')
      (others : SyncSteps registry owner? rest m' records m'') :
      SyncSteps registry owner? (object :: rest) m (record :: records) m''

namespace SyncSteps

variable {registry : Registry} {owner? : Option OwnerReference} {objects : List ManagedObject}
  {m m' : Memory} {records : List ObjectRecord}

theorem spares (h : SyncSteps registry owner? objects m records m') {id : ObjectIdentity}
    (hid : ∀ o ∈ objects, o.identity ≠ id) : Memory.Spares id m m' := by
  induction h with
  | nil => exact .refl _
  | cons first _ ih =>
    exact (first.spares (hid _ List.mem_cons_self)).trans
      (ih fun o ho => hid o (List.mem_cons_of_mem _ ho))

/-- What is recorded of one of the objects is what its own step did: the others leave the object
alone. -/
structure Records (registry : Registry) (owner? : Option OwnerReference)
    (objects : List ManagedObject) (records : List ObjectRecord) (m m' : Memory)
    (object : ManagedObject) (record : ObjectRecord) : Prop where
  desired : object ∈ objects
  recorded : record ∈ records
  isolated : ∃ before after, SyncStep registry owner? object before (.ok record) after ∧
    Memory.Spares object.identity m before ∧ Memory.Spares object.identity after m'

/-- **Every object has its step to itself**, if no two have the same identity. -/
theorem isolate (h : SyncSteps registry owner? objects m records m')
    (hn : (objects.map (·.identity)).Nodup) :
    List.Forall₂ (Records registry owner? objects records m m') objects records := by
  induction h with
  | nil => exact .nil
  | @cons object rest m m' m'' record records first others ih =>
    obtain ⟨hnot, hrest⟩ := List.nodup_cons.1 hn
    have hother : ∀ o ∈ rest, o.identity ≠ object.identity :=
      fun o ho heq => hnot (List.mem_map.2 ⟨o, ho, heq⟩)
    refine .cons ⟨List.mem_cons_self, List.mem_cons_self, m, m', first, .refl m,
      others.spares hother⟩ ((ih hrest).imp fun o record' h => ?_)
    obtain ⟨before, after, hstep, hbefore, hafter⟩ := h.isolated
    have hspared := first.spares (hother o h.desired).symm
    exact ⟨List.mem_cons_of_mem _ h.desired, List.mem_cons_of_mem _ h.recorded, before, after,
      hstep, hspared.trans hbefore, hafter⟩

theorem exists_of_forall₂ {α β : Type} {R : α → β → Prop} {as : List α} {bs : List β}
    (h : List.Forall₂ R as bs) {a : α} (ha : a ∈ as) : ∃ b, R a b := by
  induction h with
  | nil => cases ha
  | cons hfirst _ ih =>
    rcases List.mem_cons.1 ha with rfl | ha
    · exact ⟨_, hfirst⟩
    · exact ih ha

/-- The step on one of the objects. -/
theorem records_of_mem (h : SyncSteps registry owner? objects m records m')
    (hn : (objects.map (·.identity)).Nodup) {object : ManagedObject} (ho : object ∈ objects) :
    ∃ record, Records registry owner? objects records m m' object record :=
  exists_of_forall₂ (h.isolate hn) ho

end SyncSteps

namespace Engine

variable {σ : Type} {e : Engine σ} {view : σ → Memory}

theorem attempts_steps (he : e.OnMemory view) (owner? : Option OwnerReference)
    {objects : List ManagedObject} {r : Run σ} {records : List ObjectRecord}
    (h : (e.attempts owner? objects r).1 = records.map .synced) :
    SyncSteps e.registry owner? objects (view r.world) records
      (view (e.attempts owner? objects r).2.world) := by
  induction objects generalizing r records with
  | nil =>
    obtain rfl := List.map_eq_nil_iff.1 h.symm
    exact .nil
  | cons object rest ih =>
    cases hc : e.cancelled r.world with
    | true =>
      rw [attempts_cancelled owner? hc] at h
      cases records with
      | nil => cases h
      | cons record records => cases (List.cons_eq_cons.1 h).1
    | false =>
      obtain ⟨result, hattempt, hstep⟩ := attempt_step owner? he object r
      rw [attempts_cons owner? hc] at h ⊢
      cases records with
      | nil => cases h
      | cons record records =>
        obtain ⟨hfirst, hothers⟩ := List.cons_eq_cons.1 h
        rw [hattempt] at hfirst
        cases result with
        | error cause => cases hfirst
        | ok record' =>
          obtain rfl : record' = record := Attempt.synced.inj hfirst
          exact .cons hstep (ih hothers)

/-- **A sync that succeeds is one step after another.** -/
theorem sync_steps (he : e.OnMemory view) {owner : Owner} {objects : List ManagedObject}
    {r : Run σ} {report : SyncReport} (h : (e.sync owner objects r).1 = .ok report) :
    SyncSteps e.registry owner.reference? objects (view r.world) report.records
      (view (e.sync owner objects r).2.world) :=
  attempts_steps he owner.reference? (summarize_eq_ok_iff.1 h).2

end Engine

end Reconciliation
