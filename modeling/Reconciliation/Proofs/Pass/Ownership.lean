import Reconciliation.Proofs.Mutation.Metadata
import Reconciliation.Proofs.Pass.Reconcile

/-!
# Owners do not disturb each other

Several owners share a store, and with it names, labels and namespaces. What keeps them apart is the
uid of the controller, which every sync that succeeds leaves on an object within a namespace; the
kinds that are pruned are all of that sort.

* `ObjectMeta.references_controlledBy`, `ObjectMeta.controllers_others` -- which owner references an
  attached object has, and that the new controller is the only one;
* `Memory.Protects` -- the invariant: if the object is there, a given owner controls it;
* `SyncStepOk.protects` -- one step for the owner establishes it, if it succeeds;
* `Turn` -- a pass of some owner within a run of passes;
* `Turn.protects_run`, `Turn.protects_of_record` -- turns of the owner preserve the invariant, and a
  recorded object has it;
* `Turn.spares_run` -- turns of any other owner leave a protected object alone;
* **`Turn.owners_undisturbed`** -- both over a whole run.
-/

namespace Reconciliation

/-! ## 1. The controller reference -/

/-- The owner references that stay when an owner takes over: those of other owners which are not
controllers. -/
def ObjectMeta.others (m : ObjectMeta) (owner : OwnerReference) : List OwnerReference :=
  m.references.filter fun r => r.uid ≠ owner.uid ∧ r.isController = false

theorem ObjectMeta.references_controlledBy (m : ObjectMeta) (owner : OwnerReference) :
    (m.controlledBy owner).references = m.others owner ++ [owner] := by
  refine congrArg (· ++ [owner]) (List.filter_congr fun r _ => ?_)
  rw [Bool.eq_iff_iff]
  simp

theorem ObjectMeta.controllers_others (m : ObjectMeta) {owner : OwnerReference}
    (h : owner.isController = true) :
    (m.others owner ++ [owner]).filter (·.isController) = [owner] := by
  have hothers : (m.others owner).filter (·.isController) = [] := by
    refine List.filter_eq_nil_iff.2 fun r hr => ?_
    have hkept := of_decide_eq_true (List.mem_filter.1 hr).2
    simp [hkept.2]
  rw [List.filter_append, hothers, List.filter_cons_of_pos h]
  rfl

theorem ObjectMeta.controllerUid?_of_controllers {m : ObjectMeta} {owner : OwnerReference}
    (h : m.references.filter (·.isController) = [owner]) : m.controllerUid? = some owner.uid := by
  unfold controllerUid?
  rw [← List.head?_filter, h]
  rfl

theorem ObjectMeta.controllerUid?_controlledBy (m : ObjectMeta) {owner : OwnerReference}
    (h : owner.isController = true) : (m.controlledBy owner).controllerUid? = some owner.uid := by
  refine controllerUid?_of_controllers ?_
  rw [references_controlledBy]
  exact m.controllers_others h

/-- Merging takes over the owner references of a desired object that has some. -/
theorem ObjectMeta.controllerUid?_merge {existing desired : ObjectMeta} {uid : String}
    (h : desired.controllerUid? = some uid) :
    (existing.merge desired).controllerUid? = some uid := by
  have hne : desired.references ≠ [] := by
    intro hr
    unfold controllerUid? at h
    rw [hr] at h
    cases h
  unfold controllerUid?
  rw [references_merge, if_neg hne]
  exact h

/-- Only the owner references of the metadata count for the controller. -/
theorem ManagedObject.controllerUid?_withMetadata {m : ObjectMeta} {o : ManagedObject}
    (h : m.ownerReferences = o.metadata.ownerReferences) :
    (o.withMetadata m).controllerUid? = o.controllerUid? := by
  unfold controllerUid? ObjectMeta.controllerUid? ObjectMeta.references
  rw [metadata_withMetadata, h]

theorem Memory.controllerUid?_stamp (m : Memory) (o : ManagedObject) :
    (m.stamp o).controllerUid? = o.controllerUid? := ManagedObject.controllerUid?_withMetadata rfl

theorem Memory.controllerUid?_restamp (m : Memory) (stored o : ManagedObject) :
    (m.restamp stored o).controllerUid? = o.controllerUid? :=
  ManagedObject.controllerUid?_withMetadata rfl

theorem ManagedObject.controllerUid?_attach {o : ManagedObject} {owner : OwnerReference}
    (hk : o.kind.isNamespaced = true) (h : owner.isController = true) :
    (o.attach (some owner)).controllerUid? = some owner.uid := by
  unfold attach
  dsimp only
  rw [if_pos hk, controllerUid?, metadata_withMetadata]
  exact o.metadata.controllerUid?_controlledBy h

theorem Registry.controllerUid?_mutate {r : Registry} {existing desired merged : ManagedObject}
    {uid : String} (h : r.mutate existing desired = .ok merged)
    (hd : desired.controllerUid? = some uid) : merged.controllerUid? = some uid := by
  unfold ManagedObject.controllerUid?
  rw [metadata_mutate h]
  exact ObjectMeta.controllerUid?_merge hd

theorem ManagedObject.metadata_of_same {a b : ManagedObject} (h : a.same b = true) :
    a.metadata = b.metadata := by
  unfold same at h
  split at h
  case h_12 =>
    simp only [Bool.and_eq_true, decide_eq_true_eq] at h
    exact h.1.2
  case h_13 => cases h
  all_goals rw [of_decide_eq_true h]

theorem FeatureGates.isNamespaced_of_mem_prunableKinds {g : FeatureGates} {kind : Kind}
    (h : kind ∈ g.prunableKinds) : kind.isNamespaced = true := by
  have hall : g.prunableKinds.all (·.isNamespaced) = true := by
    obtain ⟨prometheus, routes, grafana⟩ := g
    cases prometheus <;> cases routes <;> cases grafana <;> rfl
  exact List.all_eq_true.1 hall kind h

theorem Owner.reference?_eq_some {owner : Owner} {reference : OwnerReference}
    (h : owner.reference? = some reference) :
    reference.isController = true ∧ owner.metadata.uid = some reference.uid := by
  unfold reference? at h
  split at h
  · rename_i name uid _ huid
    obtain rfl := Option.some.inj h
    exact ⟨rfl, huid⟩
  · cases h

/-! ## 2. The invariant -/

/-- If the object is in the store, the owner with a uid controls it. Objects outside of namespaces
have no controller. -/
def Memory.Protects (uid : String) (id : ObjectIdentity) (m : Memory) : Prop :=
  id.kind.isNamespaced = true → ∀ o, m.objects.get? id = some o → o.controllerUid? = some uid

namespace Memory.Protects

variable {uid : String} {id : ObjectIdentity} {m m' : Memory}

theorem congr (h : m.Protects uid id) (ho : m'.objects.get? id = m.objects.get? id) :
    m'.Protects uid id := by
  intro hk o hg
  rw [ho] at hg
  exact h hk o hg

theorem of_absent (h : m.objects.get? id = none) : m.Protects uid id := by
  intro hk o hg
  rw [h] at hg
  cases hg

theorem of_stored {o : ManagedObject} (h : m.objects.get? id = some o)
    (hc : id.kind.isNamespaced = true → o.controllerUid? = some uid) : m.Protects uid id := by
  intro hk o' hg
  rw [h] at hg
  cases hg
  exact hc hk

theorem delete (h : m.Protects uid id) (other : ObjectIdentity) :
    (m.delete other).2.Protects uid id := by
  by_cases hid : other = id
  · rcases m.delete_cases other with ⟨e, -, he⟩ | ⟨-, ⟨-, he⟩ | ⟨-, he⟩⟩
    · rw [he]
      exact h
    · rw [he]
      exact h
    · rw [he]
      exact of_absent (hid ▸ Dict.get?_erase_self m.objects other)
  · exact h.congr (Spares.delete m hid).object

end Memory.Protects

section Step

variable {registry : Registry} {owner : OwnerReference} {object : ManagedObject} {m m' : Memory}
  {result : Except ObjectError ObjectRecord}

/-- A step for an owner that succeeds protects the object. -/
theorem SyncStepOk.protects {record : ObjectRecord}
    (h : SyncStepOk registry (some owner) object m record m') (hc : owner.isController = true) :
    m'.Protects owner.uid object.identity := by
  have hattached : object.identity.kind.isNamespaced = true →
      (object.attach (some owner)).controllerUid? = some owner.uid :=
    fun hk => ManagedObject.controllerUid?_attach hk hc
  cases h with
  | created =>
    exact .of_stored (m.get?_created (object.identity_attach _)) fun hk =>
      (m.controllerUid?_stamp _).trans (hattached hk)
  | recreating => exact .of_absent (m.get?_deleted _)
  | unchanged hg hm hs =>
    refine .of_stored hg fun hk => ?_
    have hmerged := Registry.controllerUid?_mutate hm (hattached hk)
    unfold ManagedObject.controllerUid? at hmerged ⊢
    rw [← ManagedObject.metadata_of_same hs]
    exact hmerged
  | updated _ hm _ hid =>
    exact .of_stored (m.get?_updated _ hid) fun hk =>
      (m.controllerUid?_restamp _ _).trans (Registry.controllerUid?_mutate hm (hattached hk))

theorem SyncStep.keeps_protects {uid : String} {id : ObjectIdentity}
    (h : SyncStep registry (some owner) object m result m') (hc : owner.isController = true)
    (hu : owner.uid = uid) (hp : m.Protects uid id) : m'.Protects uid id := by
  subst hu
  by_cases hid : object.identity = id
  · subst hid
    cases result with
    | ok record => exact h.of_ok.protects hc
    | error cause =>
      rw [h.of_error]
      exact hp
  · exact hp.congr (h.spares hid).object

end Step

/-- The report of a sync, which its error carries when it fails. -/
def SyncReport.ofResult : Except SyncError SyncReport → SyncReport
  | .ok report => report
  | .error failure => failure.report

theorem SyncReport.records_ofResult (attempts : List Attempt) :
    (ofResult (summarize attempts)).records = attempts.filterMap (·.record?) := by
  unfold summarize
  dsimp only
  split <;> rfl

theorem SyncReport.mem_records_ofResult {attempts : List Attempt} {record : ObjectRecord} :
    record ∈ (ofResult (summarize attempts)).records ↔ .synced record ∈ attempts := by
  rw [records_ofResult, List.mem_filterMap]
  constructor
  · intro h
    obtain ⟨attempt, ha, hr⟩ := h
    cases attempt with
    | synced record' =>
      obtain rfl := Option.some.inj hr
      exact ha
    | failed failure => cases hr
    | skipped id => cases hr
  · intro h
    exact ⟨_, h, rfl⟩

/-- An object recorded by a sync of an owner is protected from then on. -/
theorem Engine.protects_of_record {σ : Type} {e : Engine σ} {view : σ → Memory}
    (he : e.OnMemory view) {owner : OwnerReference} (hc : owner.isController = true)
    {objects : List ManagedObject} {r : Run σ} {record : ObjectRecord}
    (hr : .synced record ∈ (e.attempts (some owner) objects r).1) :
    (∃ o ∈ objects, o.identity = record.identity) ∧
      (view (e.attempts (some owner) objects r).2.world).Protects owner.uid record.identity := by
  induction objects generalizing r with
  | nil => cases hr
  | cons object rest ih =>
    cases hcancelled : e.cancelled r.world with
    | true =>
      rw [attempts_cancelled _ hcancelled] at hr
      obtain ⟨o, -, ho⟩ := List.mem_map.1 hr
      cases ho
    | false =>
      rw [attempts_cons _ hcancelled] at hr ⊢
      rcases List.mem_cons.1 hr with hfirst | hlater
      · obtain ⟨result, hattempt, hstep⟩ := attempt_step (some owner) he object r
        rw [← hfirst] at hattempt
        cases result with
        | error cause => cases hattempt
        | ok first =>
          obtain rfl := Attempt.synced.inj hattempt
          have hid := hstep.identity_of_ok
          refine ⟨⟨object, List.mem_cons_self, hid.symm⟩, ?_⟩
          rw [hid]
          exact keeps_attempts (some owner) he
            (fun o _ _ _ _ hm h => h.keeps_protects hc rfl hm) _ (hstep.of_ok.protects hc)
      · obtain ⟨⟨o, ho, hid⟩, hp⟩ := ih hlater
        exact ⟨⟨o, List.mem_cons_of_mem _ ho, hid⟩, hp⟩

/-! ## 3. Turns -/

/-- A pass of an owner on the store in memory, with everything that may differ from pass to pass:
the engine and so its feature gates, the clock, the owner and what it desires, and what happens
before the pass to anything but the stored objects, such as an injected failure or a decision to
retry. -/
structure Turn {σ : Type} (view : σ → Memory) where
  engine : Engine σ
  onMemory : engine.OnMemory view
  clock : Clock
  owner : Owner
  /-- The owner has a name and a uid. -/
  reference : OwnerReference
  referenced : owner.reference? = some reference
  desired : Except ConfigurationError (List ManagedObject)
  prepare : Run σ → Run σ
  prepared : ∀ r, (view (prepare r).world).objects = (view r.world).objects

namespace Turn

variable {σ : Type} {view : σ → Memory}

/-- The uid of the owner, which tells owners apart. -/
def uid (t : Turn view) : String := t.reference.uid

/-- The objects that the owner desires. -/
def objects (t : Turn view) : List ManagedObject := t.desired.toOption.getD []

/-- The state after the turn. -/
def run (t : Turn view) (r : Run σ) : Run σ :=
  (t.engine.reconcile t.clock t.owner t.desired (t.prepare r)).2

/-- The state after turns, one after another. -/
def runAll (turns : List (Turn view)) (r : Run σ) : Run σ := turns.foldl (fun r t => t.run r) r

/-- What the sync of the turn records, whether or not it succeeds as a whole. -/
def records (t : Turn view) (r : Run σ) : List ObjectRecord :=
  if t.owner.managementState = .unmanaged then []
  else
    match t.desired with
    | .error _ => []
    | .ok objects =>
      (SyncReport.ofResult
        (t.engine.sync t.owner objects (Pass.observe .reconciliation (t.prepare r)).2).1).records

/-- No object is desired by two owners. -/
def Disjoint (turns : List (Turn view)) : Prop :=
  ∀ t ∈ turns, ∀ t' ∈ turns, t.uid ≠ t'.uid →
    ∀ o ∈ t.objects, ∀ o' ∈ t'.objects, o.identity ≠ o'.identity

section Run

variable {t : Turn view} {uid : String} {id : ObjectIdentity} {r : Run σ}

theorem mem_objects {objects : List ManagedObject} (h : t.desired = .ok objects)
    {o : ManagedObject} (ho : o ∈ objects) : o ∈ t.objects := by
  unfold Turn.objects
  rw [h]
  exact ho

/-- A turn of the owner preserves the invariant. -/
theorem protects_run (hu : t.uid = uid) (h : (view r.world).Protects uid id) :
    (view (t.run r).world).Protects uid id := by
  obtain ⟨hcontroller, -⟩ := Owner.reference?_eq_some t.referenced
  refine Engine.keeps_reconcile t.onMemory t.owner (fun _ o _ _ _ _ m' hm' => hm'.delete _) t.clock
    (fun objects _ o _ m result m' hm hstep => ?_) (t.prepare r)
    (h.congr (congrArg (·.get? id) (t.prepared r)))
  rw [t.referenced] at hstep
  exact hstep.keeps_protects hcontroller hu hm

/-- **A turn of another owner leaves a protected object alone**, if it does not desire it. -/
theorem spares_run (hu : t.uid ≠ uid) (hid : ∀ o ∈ t.objects, o.identity ≠ id)
    (h : (view r.world).Protects uid id) :
    Memory.Spares id (view (t.prepare r).world) (view (t.run r).world) := by
  obtain ⟨-, howner⟩ := Owner.reference?_eq_some t.referenced
  refine Engine.keeps_reconcile t.onMemory t.owner (P := Memory.Spares id _) ?_ t.clock
    (fun objects hd o ho m result m' hm hstep =>
      hm.trans (hstep.spares (hid o (mem_objects hd ho)))) (t.prepare r) (.refl _)
  intro m o hm hg hk hcontrols m' hm'
  refine hm'.trans (.delete m' fun heq => ?_)
  subst heq
  -- the object was stored when the turn began, so the invariant says who controls it
  rw [hm.object, t.prepared r] at hg
  have hcontroller := h (FeatureGates.isNamespaced_of_mem_prunableKinds hk) o hg
  have huid := Owner.controls_iff.1 hcontrols uid hcontroller
  exact hu (Option.some.inj (howner.symm.trans huid))

/-- **An object that a turn records is protected after the turn.** -/
theorem protects_of_record {record : ObjectRecord} (hr : record ∈ t.records r) :
    (∃ o ∈ t.objects, o.identity = record.identity) ∧
      (view (t.run r).world).Protects t.uid record.identity := by
  obtain ⟨hcontroller, -⟩ := Owner.reference?_eq_some t.referenced
  unfold records at hr
  split at hr
  · cases hr
  · rename_i hmanaged
    split at hr
    · cases hr
    · rename_i objects hd
      have hsynced := SyncReport.mem_records_ofResult.1 hr
      rw [t.referenced] at hsynced
      obtain ⟨⟨o, ho, hid⟩, hp⟩ := Engine.protects_of_record t.onMemory hcontroller hsynced
      refine ⟨⟨o, mem_objects hd ho, hid⟩, ?_⟩
      unfold run
      rw [hd]
      refine Engine.reconcile_of_sync t.onMemory t.owner (fun _ _ _ _ _ _ m' hm' => hm'.delete _)
        t.clock hmanaged ?_
      rw [← t.referenced] at hp
      exact hp

/-! ## 4. Runs -/

/-- Turns of the owner preserve the invariant, and so do turns of others which do not desire the
object. -/
theorem protects_runAll {turns : List (Turn view)}
    (hforeign : ∀ t ∈ turns, t.uid ≠ uid → ∀ o ∈ t.objects, o.identity ≠ id)
    (h : (view r.world).Protects uid id) : (view (runAll turns r).world).Protects uid id := by
  induction turns generalizing r with
  | nil => exact h
  | cons t rest ih =>
    refine ih (fun t' ht' => hforeign t' (List.mem_cons_of_mem _ ht')) (r := t.run r) ?_
    by_cases hu : t.uid = uid
    · exact protects_run hu h
    · have hprepared : (view (t.prepare r).world).Protects uid id :=
        h.congr (congrArg (·.get? id) (t.prepared r))
      exact hprepared.congr (spares_run hu (hforeign t List.mem_cons_self hu) h).object

/-- **Owners do not disturb each other.** In a run of turns of any owners in any order, where no
object is desired by two owners: once a turn has recorded an object, a later turn of another owner
leaves it alone, in its sync and in its prune. The object stays as it is, and no write to it is
journaled. -/
theorem owners_undisturbed {before between : List (Turn view)} {t t' : Turn view}
    (hd : Disjoint (before ++ t :: (between ++ [t']))) (hne : t'.uid ≠ t.uid) (r : Run σ)
    {record : ObjectRecord} (hr : record ∈ t.records (runAll before r)) :
    let start := runAll (before ++ t :: between) r
    Memory.Spares record.identity (view (t'.prepare start).world) (view (t'.run start).world) := by
  intro start
  obtain ⟨⟨o, ho, hid⟩, hp⟩ := protects_of_record hr
  have hforeign : ∀ s ∈ before ++ t :: (between ++ [t']), s.uid ≠ t.uid →
      ∀ o' ∈ s.objects, o'.identity ≠ record.identity :=
    fun s hs hu o' ho' => hid ▸ hd s hs t (by simp) hu o' ho' o ho
  have hstart : start = runAll between (t.run (runAll before r)) := by
    show List.foldl _ r (before ++ t :: between) = _
    rw [List.foldl_append]
    rfl
  refine spares_run hne (hforeign t' (by simp) hne) ?_
  rw [hstart]
  exact protects_runAll (fun s hs => hforeign s (by simp [hs])) hp

end Run

/-! ## 5. Two owners of one name -/

/-- A turn on a store in memory and nothing else. -/
def sample (owner : Owner) (reference : OwnerReference)
    (referenced : owner.reference? = some reference) (desired : List ManagedObject) :
    Turn (id : Memory → Memory) where
  engine := .overMemory .standard .default
  onMemory := Engine.onMemory_overMemory .standard .default
  clock := ⟨⟨0, 0⟩, 0⟩
  owner
  reference
  referenced
  desired := .ok desired
  prepare := id
  prepared _ := rfl

/-- The turn of a stack that desires one ingress with its labels. -/
def one : Turn (id : Memory → Memory) :=
  sample (.sample "one" "a") _ rfl
    [.ingress ⟨(ManagedObject.sample (.sample "one" "a") "web").metadata, none, none⟩]

/-- The turn of a stack of the same name that desires nothing. -/
def other : Turn (id : Memory → Memory) := sample (.sample "one" "b") _ rfl []

/-- A stack does not prune what another one of the same name has created. -/
theorem owners_undisturbed_sample :
    Disjoint ([] ++ one :: ([] ++ [other])) ∧ other.uid ≠ one.uid ∧
      ⟨⟨.ingress, some "tracing", "web"⟩, .created, some "uid-001"⟩ ∈
        one.records (.start (.empty ⟨0, 0⟩)) ∧
      Memory.Spares ⟨.ingress, some "tracing", "web"⟩ (one.run (.start (.empty ⟨0, 0⟩))).world
        (other.run (one.run (.start (.empty ⟨0, 0⟩)))).world := by
  have hmem : ∀ t ∈ [one, other], t = one ∨ t.objects = [] := by
    intro t ht
    rcases List.mem_pair.1 ht with rfl | rfl
    · exact .inl rfl
    · exact .inr rfl
  have hd : Disjoint ([] ++ one :: ([] ++ [other])) := by
    intro t ht t' ht' hu o ho o' ho'
    rcases hmem t ht with rfl | hnone
    · rcases hmem t' ht' with rfl | hnone
      · exact absurd rfl hu
      · rw [hnone] at ho'
        cases ho'
    · rw [hnone] at ho
      cases ho
  have hne : other.uid ≠ one.uid := by decide
  have hr : ⟨⟨.ingress, some "tracing", "web"⟩, .created, some "uid-001"⟩ ∈
      one.records (runAll ([] : List (Turn (id : Memory → Memory))) (.start (.empty ⟨0, 0⟩))) := by
    decide
  exact ⟨hd, hne, hr, owners_undisturbed hd hne (.start (.empty ⟨0, 0⟩)) hr⟩

end Turn

end Reconciliation
