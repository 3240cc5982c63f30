import Mathlib.Data.List.Perm.Subperm
import Reconciliation.Proofs.Pass.Ownership

/-!
# The objects of a sync are independent

The objects of a sync share a store, with its version counter and its journal. What one of them sees
of the others is nothing: the store answers for an object by its entry and by the failures injected
for it, and no step on another object touches either. So it does not matter in which order the
objects stand, nor which others are there.

* `Memory.Agrees` -- two states of the store show the same of an object;
* `SyncStep.agrees` -- a step on another object;
* `Engine.syncObject_alike` -- one object, brought about from two states that show the same of it;
* `Engine.attempts_isolated` -- in a sync, every object has a step to itself;
* **`Engine.sync_independent`** -- two syncs, one over some of the objects of the other, in any
  order.
-/

namespace Reconciliation

/-! ## 1. What a state shows of an object -/

/-- Two states of the store show the same of an object: its entry, and which calls fail. -/
structure Memory.Agrees (id : ObjectIdentity) (m m' : Memory) : Prop where
  object : m.objects.get? id = m'.objects.get? id
  failures : m.failures = m'.failures

namespace Memory.Agrees

variable {id : ObjectIdentity} {m m' m'' : Memory}

theorem refl (id : ObjectIdentity) (m : Memory) : m.Agrees id m := ⟨rfl, rfl⟩

theorem symm (h : m.Agrees id m') : m'.Agrees id m := ⟨h.object.symm, h.failures.symm⟩

theorem trans (h : m.Agrees id m') (h' : m'.Agrees id m'') : m.Agrees id m'' :=
  ⟨h.object.trans h'.object, h.failures.trans h'.failures⟩

theorem failure? (h : m.Agrees id m') (op : Operation) (other : ObjectIdentity) :
    m.failure? op other = m'.failure? op other := by
  unfold Memory.failure?
  rw [h.failures]

theorem get (h : m.Agrees id m') : m.get id = m'.get id := by
  unfold Memory.get
  rw [h.failure?, h.object]

end Memory.Agrees

namespace Memory

/-! ## 2. What a write leaves -/

theorem failures_create (m : Memory) (o : ManagedObject) :
    (m.create o).2.failures = m.failures := by
  rcases m.create_cases o with ⟨e, he⟩ | ⟨-, he⟩
  · rw [he]
  · rw [he]
    rfl

theorem failures_update (m : Memory) (o : ManagedObject) :
    (m.update o).2.failures = m.failures := by
  rcases m.update_cases o with ⟨e, he⟩ | ⟨stored, -, he⟩
  · rw [he]
  · rw [he]
    rfl

end Memory

/-- The object without its version. -/
def ManagedObject.unversioned (o : ManagedObject) : ManagedObject :=
  o.withMetadata { o.metadata with resourceVersion := none }

/-- The object without what is given to it when it is created. -/
def ManagedObject.unstamped (o : ManagedObject) : ManagedObject :=
  o.withMetadata { o.metadata with uid := none, resourceVersion := none, creationTimestamp := none }

theorem Memory.unstamped_stamp (m m' : Memory) (o : ManagedObject) :
    (m.stamp o).unstamped = (m'.stamp o).unstamped := by
  unfold ManagedObject.unstamped stamp
  simp only [ManagedObject.metadata_withMetadata, ManagedObject.withMetadata_withMetadata]

theorem Memory.unversioned_restamp (m m' : Memory) (stored o : ManagedObject) :
    (m.restamp stored o).unversioned = (m'.restamp stored o).unversioned := by
  unfold ManagedObject.unversioned restamp
  simp only [ManagedObject.metadata_withMetadata, ManagedObject.withMetadata_withMetadata]

/-- What is left of an object is alike in two runs in which the same came of it: the same, but for
the version that an update has assigned, and for the uid, the version and the time that a creation
has assigned. -/
def LeftAlike : Except ObjectError SyncOutcome → Option ManagedObject → Option ManagedObject → Prop
  | .ok .created, o?, o?' => o?.map (·.unstamped) = o?'.map (·.unstamped)
  | .ok .updated, o?, o?' => o?.map (·.unversioned) = o?'.map (·.unversioned)
  | _, o?, o?' => o? = o?'

theorem LeftAlike.of_eq (outcome : Except ObjectError SyncOutcome) {o? o?' : Option ManagedObject}
    (h : o? = o?') : LeftAlike outcome o? o?' := by
  subst h
  cases outcome with
  | error cause => rfl
  | ok outcome => cases outcome <;> rfl

/-! ## 3. Steps -/

/-- What came of an object. -/
def outcomeOf (result : Except ObjectError ObjectRecord) : Except ObjectError SyncOutcome :=
  result.map (·.outcome)

/-- Two results of a step on one object, with the states that it leaves, are alike. -/
structure StepAlike (id : ObjectIdentity) (result result' : Except ObjectError ObjectRecord)
    (m m' : Memory) : Prop where
  outcome : outcomeOf result = outcomeOf result'
  left : LeftAlike (outcomeOf result) (m.objects.get? id) (m'.objects.get? id)

/-- Nothing was written in either run. -/
theorem StepAlike.of_agrees {id : ObjectIdentity} {m m' : Memory}
    {result result' : Except ObjectError ObjectRecord} (h : m.Agrees id m')
    (hr : outcomeOf result = outcomeOf result') : StepAlike id result result' m m' :=
  ⟨hr, .of_eq _ h.object⟩

theorem StepAlike.created {id : ObjectIdentity} {m m' : Memory} {uid? uid?' : Option String}
    (h : (m.objects.get? id).map (·.unstamped) = (m'.objects.get? id).map (·.unstamped)) :
    StepAlike id (.ok ⟨id, .created, uid?⟩) (.ok ⟨id, .created, uid?'⟩) m m' := ⟨rfl, h⟩

theorem StepAlike.updated {id : ObjectIdentity} {m m' : Memory} {uid? uid?' : Option String}
    (h : (m.objects.get? id).map (·.unversioned) = (m'.objects.get? id).map (·.unversioned)) :
    StepAlike id (.ok ⟨id, .updated, uid?⟩) (.ok ⟨id, .updated, uid?'⟩) m m' := ⟨rfl, h⟩

namespace Memory.Agrees

variable {id : ObjectIdentity} {m m' : Memory}

/-- Creating an object fails in both, for the same reason, or in neither. -/
theorem create_cases {o : ManagedObject} (h : m.Agrees o.identity m') :
    (∃ e, m.create o = (.error e, m) ∧ m'.create o = (.error e, m')) ∨
      m.create o = (.ok (m.stamp o), m.created o) ∧
        m'.create o = (.ok (m'.stamp o), m'.created o) := by
  unfold Memory.create
  rw [h.failure?]
  cases m'.failure? .create o.identity with
  | some e => exact .inl ⟨e, rfl, rfl⟩
  | none =>
    have hsame : m.objects.contains o.identity = m'.objects.contains o.identity :=
      congrArg Option.isSome h.object
    by_cases hc : m'.objects.contains o.identity = true
    · exact .inl ⟨_, if_pos (hsame.trans hc), if_pos hc⟩
    · exact .inr ⟨if_neg (hsame ▸ hc), if_neg hc⟩

/-- Updating an object fails in both, for the same reason, or in neither. -/
theorem update_cases {o : ManagedObject} (h : m.Agrees o.identity m') :
    (∃ e, m.update o = (.error e, m) ∧ m'.update o = (.error e, m')) ∨
      ∃ stored, m.update o = (.ok (m.restamp stored o), m.updated stored o) ∧
        m'.update o = (.ok (m'.restamp stored o), m'.updated stored o) := by
  unfold Memory.update
  rw [h.failure?, h.object]
  cases m'.failure? .update o.identity with
  | some e => exact .inl ⟨e, rfl, rfl⟩
  | none =>
    cases m'.objects.get? o.identity with
    | none => exact .inl ⟨_, rfl, rfl⟩
    | some stored =>
      dsimp only
      cases staleVersion? stored o with
      | some version => exact .inl ⟨_, rfl, rfl⟩
      | none => exact .inr ⟨stored, rfl, rfl⟩

/-- Deleting an object fails in both, for the same reason, or in neither. -/
theorem delete_cases (h : m.Agrees id m') :
    (∃ result, m.delete id = (result, m) ∧ m'.delete id = (result, m')) ∨
      m.delete id = (.ok (), m.deleted id) ∧ m'.delete id = (.ok (), m'.deleted id) := by
  unfold Memory.delete
  rw [h.failure?]
  cases m'.failure? .delete id with
  | some e => exact .inl ⟨_, rfl, rfl⟩
  | none =>
    have hsame : m.objects.contains id = m'.objects.contains id :=
      congrArg Option.isSome h.object
    by_cases hc : m'.objects.contains id = true
    · exact .inr ⟨if_pos (hsame.trans hc), if_pos hc⟩
    · exact .inl ⟨_, if_neg (hsame ▸ hc), if_neg hc⟩

/-- Creating the object in both. -/
theorem create (h : m.Agrees id m') {o : ManagedObject} (ho : o.identity = id) :
    StepAlike id (recordOf id .created (m.create o).1 (·.uid?))
      (recordOf id .created (m'.create o).1 (·.uid?)) (m.create o).2 (m'.create o).2 := by
  subst ho
  rcases h.create_cases with ⟨e, he, he'⟩ | ⟨he, he'⟩
  · rw [he, he']
    exact .of_agrees h rfl
  · rw [he, he']
    refine .created ?_
    rw [m.get?_created rfl, m'.get?_created rfl]
    exact congrArg some (m.unstamped_stamp m' o)

/-- Updating the object in both. -/
theorem update (h : m.Agrees id m') {o : ManagedObject} (ho : o.identity = id) :
    StepAlike id (recordOf id .updated (m.update o).1 (·.uid?))
      (recordOf id .updated (m'.update o).1 (·.uid?)) (m.update o).2 (m'.update o).2 := by
  subst ho
  rcases h.update_cases with ⟨e, he, he'⟩ | ⟨stored, he, he'⟩
  · rw [he, he']
    exact .of_agrees h rfl
  · rw [he, he']
    refine .updated ?_
    rw [m.get?_updated stored rfl, m'.get?_updated stored rfl]
    exact congrArg some (m.unversioned_restamp m' stored o)

/-- Deleting the object from both. -/
theorem delete (h : m.Agrees id m') :
    StepAlike id (recordOf id .recreating (m.delete id).1 fun _ => none)
      (recordOf id .recreating (m'.delete id).1 fun _ => none) (m.delete id).2
      (m'.delete id).2 := by
  rcases h.delete_cases with ⟨result, he, he'⟩ | ⟨he, he'⟩
  · rw [he, he']
    exact .of_agrees h rfl
  · rw [he, he']
    refine ⟨rfl, .of_eq _ ?_⟩
    rw [m.get?_deleted, m'.get?_deleted]

end Memory.Agrees

/-- **A step on another object.** -/
theorem SyncStep.agrees {registry : Registry} {owner? : Option OwnerReference}
    {object : ManagedObject} {m m' : Memory} {result : Except ObjectError ObjectRecord}
    (h : SyncStep registry owner? object m result m') {id : ObjectIdentity}
    (hne : object.identity ≠ id) : m.Agrees id m' := by
  refine ⟨(h.spares hne).object.symm, ?_⟩
  cases h with
  | unread | unmerged | unchanged => rfl
  | create => exact (m.failures_create _).symm
  | delete => exact (m.failures_delete _).1.symm
  | update => exact (m.failures_update _).symm

namespace Engine

variable {σ : Type} {e : Engine σ} {view : σ → Memory}

/-- A write whose answer becomes a record, in two worlds. -/
theorem write_alike {α : Type} {id : ObjectIdentity} {outcome : SyncOutcome}
    {uid? : α → Option String} {act : StateM σ (Except StoreError α)}
    {answer : Except StoreError α → StateM σ (Except ObjectError ObjectRecord)}
    (call : Memory → Except StoreError α × Memory) {w w' : σ}
    (hact : ∀ w, (act w).1 = (call (view w)).1 ∧ view (act w).2 = (call (view w)).2)
    (ha : ∀ result w, answer result w = (recordOf id outcome result uid?, w))
    (h : StepAlike id (recordOf id outcome (call (view w)).1 uid?)
      (recordOf id outcome (call (view w')).1 uid?) (call (view w)).2 (call (view w')).2) :
    StepAlike id ((act >>= answer) w).1 ((act >>= answer) w').1 (view ((act >>= answer) w).2)
      (view ((act >>= answer) w').2) := by
  rw [write_run id outcome uid? ha, write_run id outcome uid? ha, (hact w).1, (hact w').1,
    (hact w).2, (hact w').2]
  exact h

/-- **One object in two worlds** whose stores show the same of it. -/
theorem syncObject_alike (he : e.OnMemory view) (owner? : Option OwnerReference)
    (object : ManagedObject) {w w' : σ} (h : (view w).Agrees object.identity (view w')) :
    StepAlike object.identity (syncObject e.store e.registry owner? object w).1
      (syncObject e.store e.registry owner? object w').1
      (view (syncObject e.store e.registry owner? object w).2)
      (view (syncObject e.store e.registry owner? object w').2) := by
  obtain ⟨hanswer, hview⟩ := he.get object.identity w
  obtain ⟨hanswer', hview'⟩ := he.get object.identity w'
  unfold syncObject
  rw [run_bind, run_bind, hanswer, hanswer', h.get]
  generalize (e.store.get object.identity w).2 = v at hview
  generalize (e.store.get object.identity w').2 = v' at hview'
  rw [← hview, ← hview'] at h
  rw [← hview']
  cases hg : (view v').get object.identity with
  | error cause => exact .of_agrees h rfl
  | ok found? =>
    cases found? with
    | none =>
      exact write_alike (·.create (object.attach owner?)) (he.create (object.attach owner?))
        (by intro result w; cases result <;> rfl) (h.create (object.identity_attach owner?))
    | some existing =>
      have hexisting := Memory.identity_of_get (Memory.get_eq_ok_iff.1 hg).2
      dsimp only
      cases hm : e.registry.mutate existing (object.attach owner?) with
      | error cause =>
        cases cause with
        | immutableField violation =>
          exact write_alike (·.delete object.identity) (he.delete object.identity)
            (by intro result w; cases result <;> rfl) h.delete
        | _ => exact .of_agrees h rfl
      | ok merged =>
        dsimp only
        cases hs : merged.same existing with
        | true => exact .of_agrees h rfl
        | false =>
          rw [if_neg Bool.false_ne_true]
          exact write_alike (·.update merged) (he.update merged)
            (by intro result w; cases result <;> rfl)
            (h.update ((Registry.identity_mutate hm).trans hexisting))

end Engine

/-! ## 4. All objects -/

/-- The object that an attempt is about. -/
def Attempt.identity : Attempt → ObjectIdentity
  | synced record => record.identity
  | failed failure => failure.identity
  | skipped id => id

namespace Engine

variable {σ : Type} {e : Engine σ} {view : σ → Memory}

theorem identity_attempt (he : e.OnMemory view) (owner? : Option OwnerReference)
    (object : ManagedObject) (r : Run σ) :
    (e.attempt owner? object r).1.identity = object.identity := by
  obtain ⟨result, hattempt, hstep⟩ := attempt_step owner? he object r
  rw [hattempt]
  cases result with
  | error cause => rfl
  | ok record => exact hstep.identity_of_ok

/-- The attempts are about the objects, in order. -/
theorem identities_attempts (he : e.OnMemory view) (owner? : Option OwnerReference)
    (objects : List ManagedObject) (r : Run σ) :
    (e.attempts owner? objects r).1.map (·.identity) = objects.map (·.identity) := by
  induction objects generalizing r with
  | nil => rfl
  | cons object rest ih =>
    cases hc : e.cancelled r.world with
    | true =>
      rw [attempts_cancelled owner? hc, List.map_map]
      rfl
    | false =>
      rw [attempts_cons owner? hc]
      exact congr (congrArg List.cons (identity_attempt he owner? object r)) (ih _)

/-- The other objects of a sync leave what the store shows of an object. -/
theorem attempts_agrees (he : e.OnMemory view) (owner? : Option OwnerReference)
    {objects : List ManagedObject} {id : ObjectIdentity} (hid : ∀ o ∈ objects, o.identity ≠ id)
    (r : Run σ) :
    (view r.world).Agrees id (view (e.attempts owner? objects r).2.world) :=
  keeps_attempts owner? he (P := (view r.world).Agrees id)
    (fun o ho _ _ _ h hstep => h.trans (hstep.agrees (hid o ho))) r (.refl id _)

/-- What a sync of many objects does about one of them: a step of its own, between others that leave
what the store shows of the object. -/
structure Isolated (e : Engine σ) (view : σ → Memory) (owner? : Option OwnerReference)
    (object : ManagedObject) (attempts : List Attempt) (start final : Run σ) (w : σ)
    (front back : List Attempt) : Prop where
  attempts_eq : attempts = front ++
    .ofResult object.identity (syncObject e.store e.registry owner? object w).1 :: back
  own : (Attempt.ofResult object.identity
    (syncObject e.store e.registry owner? object w).1).identity = object.identity
  others : ∀ a ∈ front ++ back, a.identity ≠ object.identity
  before : (view start.world).Agrees object.identity (view w)
  after : (view (syncObject e.store e.registry owner? object w).2).Agrees object.identity
    (view final.world)

/-- **Every object has a step to itself**, whether or not it succeeds. -/
theorem attempts_isolated (he : e.OnMemory view) (owner? : Option OwnerReference)
    {objects : List ManagedObject} (hn : (objects.map (·.identity)).Nodup) {object : ManagedObject}
    (ho : object ∈ objects) {r : Run σ}
    (hc : ∀ a ∈ (e.attempts owner? objects r).1, a.skipped? = none) :
    ∃ w front back, Isolated e view owner? object (e.attempts owner? objects r).1 r
      (e.attempts owner? objects r).2 w front back := by
  induction objects generalizing r with
  | nil => cases ho
  | cons first rest ih =>
    obtain ⟨hnot, hrest⟩ := List.nodup_cons.1 hn
    have hother : ∀ o ∈ rest, o.identity ≠ first.identity :=
      fun o ho heq => hnot (List.mem_map.2 ⟨o, ho, heq⟩)
    cases hcancelled : e.cancelled r.world with
    | true =>
      rw [attempts_cancelled owner? hcancelled] at hc
      cases hc _ List.mem_cons_self
    | false =>
      rw [attempts_cons owner? hcancelled] at hc ⊢
      obtain ⟨hattempt, hworld⟩ := attempt_run owner? e first r
      rcases List.mem_cons.1 ho with rfl | ho
      -- the object comes first: all others come later
      · refine ⟨r.world, [], (e.attempts owner? rest (e.attempt owner? object r).2).1, ?_,
          ?_, fun a ha heq => hnot ?_, .refl _ _, ?_⟩
        · rw [hattempt]
          rfl
        · rw [← hattempt]
          exact identity_attempt he owner? object r
        · rw [← identities_attempts he owner? rest (e.attempt owner? object r).2]
          exact List.mem_map.2 ⟨a, ha, heq⟩
        · rw [← hworld]
          exact attempts_agrees he owner? hother _
      -- it comes later: the first one leaves it as it is
      · obtain ⟨w, front, back, h⟩ := ih hrest ho fun a ha => hc a (List.mem_cons_of_mem _ ha)
        obtain ⟨result, -, hstep⟩ := attempt_step owner? he first r
        refine ⟨w, _ :: front, back, congrArg _ h.attempts_eq, h.own, fun a ha => ?_,
          (hstep.agrees (hother object ho).symm).trans h.before, h.after⟩
        rcases List.mem_cons.1 ha with rfl | ha
        · rw [identity_attempt he owner? first r]
          exact (hother object ho).symm
        · exact h.others a ha

end Engine

/-! ## 5. Reports -/

/-- The failures of a sync. -/
def SyncError.failuresOf : Except SyncError SyncReport → List ObjectFailure
  | .ok _ => []
  | .error failure => failure.failures

/-- What a sync tells about an object: the outcomes recorded for it, and why it failed. -/
def SyncReport.told (id : ObjectIdentity) (result : Except SyncError SyncReport) :
    List (Except ObjectError SyncOutcome) :=
  ((ofResult result).records.filter (·.identity = id)).map (.ok ·.outcome) ++
    ((SyncError.failuresOf result).filter (·.identity = id)).map (.error ·.cause)

theorem SyncError.failuresOf_summarize (attempts : List Attempt) :
    failuresOf (summarize attempts) = attempts.filterMap (·.failure?) := by
  unfold summarize
  dsimp only
  split
  · rename_i hempty
    obtain ⟨hfailed, -⟩ := Bool.and_eq_true_iff.1 hempty
    exact (List.isEmpty_iff.1 hfailed).symm
  · rfl

theorem SyncReport.skipped_ofResult (attempts : List Attempt) :
    (ofResult (summarize attempts)).skipped = attempts.filterMap (·.skipped?) := by
  unfold summarize
  dsimp only
  split <;> rfl

/-- Attempts at other objects leave no record of an object. -/
theorem Attempt.records_of_others {id : ObjectIdentity} {attempts : List Attempt}
    (h : ∀ a ∈ attempts, a.identity ≠ id) :
    (attempts.filterMap (·.record?)).filter (·.identity = id) = [] := by
  refine List.filter_eq_nil_iff.2 fun record hrecord => ?_
  obtain ⟨a, ha, hr⟩ := List.mem_filterMap.1 hrecord
  cases a with
  | synced record' =>
    obtain rfl := Option.some.inj hr
    have hne : record'.identity ≠ id := h _ ha
    simpa using hne
  | failed failure => cases hr
  | skipped id => cases hr

/-- Attempts at other objects leave no failure of an object. -/
theorem Attempt.failures_of_others {id : ObjectIdentity} {attempts : List Attempt}
    (h : ∀ a ∈ attempts, a.identity ≠ id) :
    (attempts.filterMap (·.failure?)).filter (·.identity = id) = [] := by
  refine List.filter_eq_nil_iff.2 fun failure hfailure => ?_
  obtain ⟨a, ha, hf⟩ := List.mem_filterMap.1 hfailure
  cases a with
  | synced record => cases hf
  | failed failure' =>
    obtain rfl := Option.some.inj hf
    have hne : failure'.identity ≠ id := h _ ha
    simpa using hne
  | skipped id => cases hf

/-- A sync tells of an object what its only attempt came to. -/
theorem SyncReport.told_summarize {id : ObjectIdentity} {front back : List Attempt}
    (hother : ∀ a ∈ front ++ back, a.identity ≠ id) {result : Except ObjectError ObjectRecord}
    (hid : (Attempt.ofResult id result).identity = id) :
    told id (summarize (front ++ .ofResult id result :: back)) = [outcomeOf result] := by
  have hfront : ∀ a ∈ front, a.identity ≠ id := fun a ha => hother a (List.mem_append_left _ ha)
  have hback : ∀ a ∈ back, a.identity ≠ id := fun a ha => hother a (List.mem_append_right _ ha)
  unfold told
  rw [records_ofResult, SyncError.failuresOf_summarize]
  simp only [List.filterMap_append, List.filter_append, Attempt.records_of_others hfront,
    Attempt.failures_of_others hfront, List.nil_append]
  cases result with
  | error cause =>
    show (((back.filterMap (·.record?)).filter (·.identity = id)).map _) ++
      (((⟨id, cause⟩ :: back.filterMap (·.failure?)).filter (·.identity = id)).map _) = _
    rw [Attempt.records_of_others hback, List.filter_cons_of_pos (by simp),
      Attempt.failures_of_others hback]
    rfl
  | ok record =>
    have hrecord : record.identity = id := hid
    show (((record :: back.filterMap (·.record?)).filter (·.identity = id)).map _) ++
      (((back.filterMap (·.failure?)).filter (·.identity = id)).map _) = _
    rw [Attempt.failures_of_others hback, List.filter_cons_of_pos (by simpa using hrecord),
      Attempt.records_of_others hback]
    rfl

/-! ## 6. Two syncs -/

namespace Engine

variable {σ : Type} {e : Engine σ} {view : σ → Memory}

/-- The one attempt at an object is what a sync tells of it. -/
theorem Isolated.told {owner : Owner} {objects : List ManagedObject} {object : ManagedObject}
    {r : Run σ} {w : σ} {front back : List Attempt}
    (h : Isolated e view owner.reference? object (e.attempts owner.reference? objects r).1 r
      (e.attempts owner.reference? objects r).2 w front back) :
    SyncReport.told object.identity (e.sync owner objects r).1 =
      [outcomeOf (syncObject e.store e.registry owner.reference? object w).1] := by
  have hresult : (e.sync owner objects r).1 =
      summarize (e.attempts owner.reference? objects r).1 := rfl
  rw [hresult, h.attempts_eq]
  exact SyncReport.told_summarize h.others h.own

/-- A sync that was not cancelled has attempted every object. -/
theorem attempted_of_sync {owner : Owner} {objects : List ManagedObject} {r : Run σ}
    (h : (SyncReport.ofResult (e.sync owner objects r).1).skipped = []) :
    ∀ a ∈ (e.attempts owner.reference? objects r).1, a.skipped? = none := by
  have hskipped : (e.attempts owner.reference? objects r).1.filterMap (·.skipped?) = [] :=
    (SyncReport.skipped_ofResult _).symm.trans h
  exact List.filterMap_eq_nil_iff.1 hskipped

/-- **The objects of a sync are independent.** Of a list of desired objects with distinct
identities, let some be synced, in any order, from the same state as all of them, where neither sync
is cancelled. Both tell the same of each of these objects, an outcome or the cause of a failure, and
they leave the same object under its identity, or none, but for what the writes have stamped. Every
other object is left alone. -/
theorem sync_independent (he : e.OnMemory view) (owner : Owner) {desired part : List ManagedObject}
    (hn : (desired.map (·.identity)).Nodup) (hpart : part.Subperm desired) {r : Run σ}
    (hc : (SyncReport.ofResult (e.sync owner desired r).1).skipped = [])
    (hc' : (SyncReport.ofResult (e.sync owner part r).1).skipped = []) :
    (∀ o ∈ part, ∃ outcome,
      SyncReport.told o.identity (e.sync owner desired r).1 = [outcome] ∧
      SyncReport.told o.identity (e.sync owner part r).1 = [outcome] ∧
      LeftAlike outcome
        ((view (e.sync owner desired r).2.world).objects.get? o.identity)
        ((view (e.sync owner part r).2.world).objects.get? o.identity)) ∧
      ∀ id, (∀ o ∈ part, o.identity ≠ id) →
        Memory.Spares id (view r.world) (view (e.sync owner part r).2.world) := by
  have hn' : (part.map (·.identity)).Nodup := by
    obtain ⟨same, hperm, hsub⟩ := hpart
    exact (hperm.map _).nodup_iff.1 (hn.sublist (hsub.map _))
  refine ⟨fun o ho => ?_, fun id hid => attempts_spares owner.reference? he hid r⟩
  obtain ⟨w, front, back, h⟩ :=
    attempts_isolated he owner.reference? hn (hpart.subset ho) (attempted_of_sync hc)
  obtain ⟨w', front', back', h'⟩ :=
    attempts_isolated he owner.reference? hn' ho (attempted_of_sync hc')
  have halike := syncObject_alike he owner.reference? o (h.before.symm.trans h'.before)
  refine ⟨_, h.told, ?_, ?_⟩
  · rw [h'.told, halike.outcome]
  · have hleft := halike.left
    rw [h.after.object, h'.after.object] at hleft
    exact hleft

/-- Two of three objects in the other order, where the first of the three cannot be created and the
second exists. -/
theorem sync_independent_sample :
    let owner := Owner.sample "one" "a"
    let desired := ["first", "kept", "third"].map (ManagedObject.sample owner)
    let part := ["third", "first"].map (ManagedObject.sample owner)
    let engine := overMemory .standard .default
    let start : Run Memory :=
      .start (.failOn .sample .create ⟨.configMap, some "tracing", "first"⟩ "no room")
    (desired.map (·.identity)).Nodup ∧ part.Subperm desired ∧
      (SyncReport.ofResult (engine.sync owner desired start).1).skipped = [] ∧
      (SyncReport.ofResult (engine.sync owner part start).1).skipped = [] ∧
      (SyncReport.ofResult (engine.sync owner desired start).1).records.map (·.outcome) =
        [.updated, .created] ∧
      (∀ o ∈ part, SyncReport.told o.identity (engine.sync owner desired start).1 =
        SyncReport.told o.identity (engine.sync owner part start).1) ∧
      Memory.Spares ⟨.configMap, some "tracing", "kept"⟩ start.world
        (engine.sync owner part start).2.world := by
  intro owner desired part engine start
  have he : engine.OnMemory id := onMemory_overMemory .standard .default
  have hn : (desired.map (·.identity)).Nodup := by decide
  have hpart : part.Subperm desired :=
    ⟨["first", "third"].map (ManagedObject.sample owner), .swap ..,
      .cons_cons _ (.cons _ (.refl _))⟩
  have hc : (SyncReport.ofResult (engine.sync owner desired start).1).skipped = [] := by decide
  have hc' : (SyncReport.ofResult (engine.sync owner part start).1).skipped = [] := by decide
  obtain ⟨htold, hspared⟩ := sync_independent he owner hn hpart hc hc'
  have houtcomes : (SyncReport.ofResult (engine.sync owner desired start).1).records.map
      (·.outcome) = [.updated, .created] := by decide
  have hother : ∀ o ∈ part, o.identity ≠ ⟨.configMap, some "tracing", "kept"⟩ := by decide
  have hkept := hspared _ hother
  rw [id_eq, id_eq] at hkept
  refine ⟨hn, hpart, hc, hc', houtcomes, fun o ho => ?_, hkept⟩
  obtain ⟨outcome, hwhole, hsome, -⟩ := htold o ho
  exact hwhole.trans hsome.symm

end Engine

end Reconciliation
