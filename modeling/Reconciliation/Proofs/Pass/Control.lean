import Reconciliation.Proofs.Pass.Independence
import Reconciliation.Proofs.Pass.Readiness

/-!
# A sync takes control

Pruning and health look at the objects that an owner controls and that its selector finds. An object
gets there on three paths: it is created with the reference of the owner, or the reference is merged
into a live object that may name other owners, or that object has it already and is not written. All
three end alike.

* `ManagedObject.TakenBy` -- the owner references of an object that an owner has taken over;
* `SyncStepOk.references` -- those which one step leaves, whichever path it takes;
* `ManagedObject.Established` -- what is true of an object once it is recorded, and
  `SyncStepOk.established` for one step;
* `Engine.step_of_record` -- a record of a sync is that of a step which has its object to itself;
* **`Engine.sync_takes_control`** -- every object that a sync records, and does not delete.
-/

namespace Reconciliation

/-! ## 1. Owner references -/

/-- Within a namespace an attached object has all other owners that it had, and the new one. -/
theorem ManagedObject.references_attach {o : ManagedObject} (hk : o.kind.isNamespaced = true)
    (reference : OwnerReference) :
    (o.attach (some reference)).metadata.references =
      o.metadata.others reference ++ [reference] := by
  unfold attach
  dsimp only
  rw [if_pos hk, metadata_withMetadata, ObjectMeta.references_controlledBy]

theorem ManagedObject.attach_of_not_isNamespaced {o : ManagedObject}
    (hk : o.kind.isNamespaced = false) (owner? : Option OwnerReference) : o.attach owner? = o := by
  unfold attach
  rw [hk]
  cases owner? <;> rfl

/-- What a write stamps on the metadata leaves the owner references alone. -/
theorem ManagedObject.references_withMetadata {o : ManagedObject} {m : ObjectMeta}
    (h : m.ownerReferences = o.metadata.ownerReferences) :
    (o.withMetadata m).metadata.references = o.metadata.references := by
  unfold ObjectMeta.references
  rw [metadata_withMetadata, h]

/-- An owner has taken over a desired object: it is the only controller, and of the desired owners
those stay that are neither controllers nor the owner itself. No other owner controls the object. -/
structure ManagedObject.TakenBy (stored : ManagedObject) (owner : Owner)
    (reference : OwnerReference) (desired : ManagedObject) : Prop where
  references : stored.metadata.references = desired.metadata.others reference ++ [reference]
  controllers : stored.metadata.references.filter (·.isController) = [reference]
  controls : owner.controls stored = true
  excludes : ∀ other : Owner, other.metadata.uid ≠ owner.metadata.uid →
    other.controls stored = false

theorem ManagedObject.takenBy_of_references {owner : Owner} {reference : OwnerReference}
    (ho : owner.reference? = some reference) {stored desired : ManagedObject}
    (h : stored.metadata.references = desired.metadata.others reference ++ [reference]) :
    stored.TakenBy owner reference desired := by
  obtain ⟨hcontroller, huid⟩ := Owner.reference?_eq_some ho
  have hsole : stored.metadata.references.filter (·.isController) = [reference] := by
    rw [h]
    exact desired.metadata.controllers_others hcontroller
  have hstored : stored.controllerUid? = some reference.uid :=
    ObjectMeta.controllerUid?_of_controllers hsole
  refine ⟨h, hsole, Owner.controls_iff.2 fun uid hu => ?_, fun other hne => ?_⟩
  · obtain rfl := Option.some.inj (hstored.symm.trans hu)
    exact huid
  · refine Bool.eq_false_iff.2 fun hcontrols => hne ?_
    exact (Owner.controls_iff.1 hcontrols reference.uid hstored).trans huid.symm

/-! ## 2. One step -/

section Step

variable {registry : Registry} {object stored : ManagedObject} {m m' : Memory}
  {record : ObjectRecord}

/-- **A step that succeeds leaves the owner references of the desired object**, with that of the
owner attached, or the live ones if there are none. -/
theorem SyncStepOk.references {owner? : Option OwnerReference}
    (h : SyncStepOk registry owner? object m record m')
    (hg : m'.objects.get? object.identity = some stored) :
    stored.metadata.references =
      if (object.attach owner?).metadata.references = [] then
        (m.objects.get? object.identity).elim [] (·.metadata.references)
      else (object.attach owner?).metadata.references := by
  cases h with
  | created habsent =>
    rw [m.get?_created (object.identity_attach owner?)] at hg
    obtain rfl := Option.some.inj hg
    have hstamped : (m.stamp (object.attach owner?)).metadata.references =
        (object.attach owner?).metadata.references := ManagedObject.references_withMetadata rfl
    rw [hstamped, habsent]
    split
    · assumption
    · rfl
  | recreating =>
    rw [m.get?_deleted] at hg
    cases hg
  | @unchanged existing merged hfound hm hs =>
    rw [hfound] at hg ⊢
    obtain rfl := Option.some.inj hg
    rw [← ManagedObject.metadata_of_same hs, Registry.metadata_mutate hm,
      ObjectMeta.references_merge]
    rfl
  | @updated existing merged hfound hm _ hid =>
    rw [m.get?_updated existing hid] at hg
    obtain rfl := Option.some.inj hg
    have hstamped : (m.restamp existing merged).metadata.references =
        merged.metadata.references := ManagedObject.references_withMetadata rfl
    rw [hstamped, Registry.metadata_mutate hm, ObjectMeta.references_merge, hfound]
    rfl

/-- The object carries all labels of an owner. -/
def ManagedObject.IsLabelled (o : ManagedObject) (owner : Owner) : Prop :=
  ∀ pair ∈ (ownerLabels owner.kind.application owner.name).entries,
    o.metadata.label? pair.1 = some pair.2

/-- What an owner has made of a desired object, where another one may have been live before: within
a namespace it has taken the object over; outside of one the desired references stay if there are
any, and else the live ones. If the desired object carries the owner's labels, its selector finds
it. -/
structure ManagedObject.Established (stored : ManagedObject) (owner : Owner)
    (reference : OwnerReference) (live? : Option ManagedObject) (desired : ManagedObject) :
    Prop where
  taken : desired.kind.isNamespaced = true → stored.TakenBy owner reference desired
  kept : desired.kind.isNamespaced = false →
    stored.metadata.references =
      if desired.metadata.references = [] then live?.elim [] (·.metadata.references)
      else desired.metadata.references
  selected : desired.IsLabelled owner → owner.selector.selects stored.metadata.labels = true

theorem SyncStepOk.established {owner : Owner} {reference : OwnerReference}
    (ho : owner.reference? = some reference)
    (h : SyncStepOk registry owner.reference? object m record m')
    (hr : record.outcome ≠ .recreating) :
    ∃ stored, m'.objects.get? object.identity = some stored ∧
      stored.Established owner reference (m.objects.get? object.identity) object := by
  obtain ⟨stored, hg, hcarries⟩ := h.establishes.resolve_left hr
  have hreferences := h.references hg
  rw [ho] at hreferences
  refine ⟨stored, hg, fun hk => ?_, fun hk => ?_, fun hl => ?_⟩
  · rw [ManagedObject.references_attach hk, if_neg (by simp)] at hreferences
    exact ManagedObject.takenBy_of_references ho hreferences
  · rw [ManagedObject.attach_of_not_isNamespaced hk] at hreferences
    exact hreferences
  · exact hcarries.labelled _ (LabelSelector.selects_iff.2 hl)

end Step

/-! ## 3. A sync -/

namespace Engine

variable {σ : Type} {e : Engine σ} {view : σ → Memory}

/-- **A record is that of a step** on a desired object, from a state and to a state that hold the
object as it was at the start and is at the end. -/
theorem step_of_record (he : e.OnMemory view) (owner? : Option OwnerReference)
    {objects : List ManagedObject} (hn : (objects.map (·.identity)).Nodup) {r : Run σ}
    (hc : ∀ a ∈ (e.attempts owner? objects r).1, a.skipped? = none) {record : ObjectRecord}
    (hr : .synced record ∈ (e.attempts owner? objects r).1) :
    ∃ object ∈ objects, ∃ before after, object.identity = record.identity ∧
      SyncStepOk e.registry owner? object before record after ∧
      (view r.world).objects.get? object.identity = before.objects.get? object.identity ∧
      after.objects.get? object.identity =
        (view (e.attempts owner? objects r).2.world).objects.get? object.identity := by
  obtain ⟨object, ho, hid⟩ : ∃ o ∈ objects, o.identity = record.identity := by
    rw [← List.mem_map, ← identities_attempts he owner? objects r]
    exact List.mem_map.2 ⟨_, hr, rfl⟩
  obtain ⟨w, front, back, h⟩ := attempts_isolated he owner? hn ho hc
  rw [h.attempts_eq] at hr
  have hown : .synced record =
      Attempt.ofResult object.identity (syncObject e.store e.registry owner? object w).1 := by
    rcases List.mem_append.1 hr with hr | hr
    · exact absurd hid.symm (h.others _ (List.mem_append_left _ hr))
    · rcases List.mem_cons.1 hr with hr | hr
      · exact hr
      · exact absurd hid.symm (h.others _ (List.mem_append_right _ hr))
  have hstep := syncObject_step he owner? object w
  cases hresult : (syncObject e.store e.registry owner? object w).1 with
  | error cause =>
    rw [hresult] at hown
    cases hown
  | ok record' =>
    rw [hresult] at hown hstep
    obtain rfl := Attempt.synced.inj hown
    exact ⟨object, ho, _, _, hid, hstep.of_ok, h.before.object, h.after.object⟩

/-- **A sync takes control.** For every store, every owner with a name and a uid and every list of
desired objects of which no two have one identity: every object that a sync records, unless as
deleted to be made anew, is in the store afterwards and is established for the owner, with a
reference that has the owner's uid and is that of a controller. The sync need not succeed as a
whole. -/
theorem sync_takes_control (he : e.OnMemory view) {owner : Owner} {name uid : String}
    (hname : owner.metadata.name = some name) (huid : owner.metadata.uid = some uid)
    {desired : List ManagedObject} (hn : (desired.map (·.identity)).Nodup) {r : Run σ}
    (hc : (SyncReport.ofResult (e.sync owner desired r).1).skipped = []) :
    ∃ reference, owner.reference? = some reference ∧ reference.uid = uid ∧
      reference.isController = true ∧
      ∀ record ∈ (SyncReport.ofResult (e.sync owner desired r).1).records,
        record.outcome ≠ .recreating →
        ∃ object ∈ desired, object.identity = record.identity ∧ ∃ stored,
          (view (e.sync owner desired r).2.world).objects.get? object.identity = some stored ∧
          stored.Established owner reference ((view r.world).objects.get? object.identity)
            object := by
  obtain ⟨reference, ho⟩ : ∃ reference, owner.reference? = some reference := by
    unfold Owner.reference?
    rw [hname, huid]
    exact ⟨_, rfl⟩
  obtain ⟨hcontroller, hreference⟩ := Owner.reference?_eq_some ho
  refine ⟨reference, ho, Option.some.inj (hreference.symm.trans huid), hcontroller,
    fun record hrecord hnot => ?_⟩
  obtain ⟨object, hobject, before, after, hid, hstep, hbefore, hafter⟩ := step_of_record he
    owner.reference? hn (attempted_of_sync hc) (SyncReport.mem_records_ofResult.1 hrecord)
  obtain ⟨stored, hg, hestablished⟩ := hstep.established ho hnot
  rw [← hbefore] at hestablished
  exact ⟨object, hobject, hid, stored, hafter.symm.trans hg, hestablished⟩

/-- A live object that another stack controls is taken over by the one that desires it. -/
theorem sync_takes_control_sample :
    let owner := Owner.sample "one" "a"
    let other := Owner.sample "two" "b"
    let object := ManagedObject.sample owner "kept"
    let start : Run Memory :=
      .start ((Memory.empty ⟨0, 0⟩).insert (object.attach other.reference?)).2
    let engine := overMemory .standard .default
    (SyncReport.ofResult (engine.sync owner [object] start).1).records.map (·.outcome) =
        [.updated] ∧
      ∃ stored,
        (engine.sync owner [object] start).2.world.objects.get? object.identity = some stored ∧
        stored.metadata.references.map (·.uid) = ["a"] ∧
        owner.controls stored = true ∧ other.controls stored = false ∧
        owner.selector.selects stored.metadata.labels = true := by
  intro owner other object start engine
  have he : engine.OnMemory id := onMemory_overMemory .standard .default
  have hc : (SyncReport.ofResult (engine.sync owner [object] start).1).skipped = [] := by decide
  have hrecord : ⟨object.identity, .updated, some "uid-001"⟩ ∈
      (SyncReport.ofResult (engine.sync owner [object] start).1).records := by decide
  have hname : owner.metadata.name = some "one" := rfl
  have huid : owner.metadata.uid = some "a" := rfl
  have hn : ([object].map (·.identity)).Nodup := List.nodup_singleton _
  obtain ⟨reference, ho, hreference, -, hall⟩ := sync_takes_control he hname huid hn hc
  obtain ⟨desired, hdesired, -, stored, hg, h⟩ := hall _ hrecord (by decide)
  obtain rfl := List.mem_singleton.1 hdesired
  obtain ⟨hreferences, -, hcontrols, hexcludes⟩ := h.taken rfl
  refine ⟨by decide, stored, hg, ?_, hcontrols, hexcludes other (by decide), h.selected ?_⟩
  · rw [hreferences]
    exact congrArg (fun uid => [uid]) hreference
  · unfold ManagedObject.IsLabelled
    decide

end Engine

end Reconciliation
