import Reconciliation.Proofs.Pass.Reconcile
import Reconciliation.Proofs.Pass.SharedCalls

/-!
# What a deletion hits

A pass decides to delete when it looks at an object, and deletes by identity later. In between the
others have their turn, and a deletion states no condition. So it hits what the others have left
there: the object that was looked at, if they did not touch it; one of the same uid, if they did not
displace it; whatever took its place, if they did.

* `Hits` -- what is under an identity when the deletion is made;
* `Hits.of_read` -- it depends on what the others asked for since the object was read;
* **`Engine.deletions_hit`** -- every deletion of a sync and of a prune;
* `Engine.deletions_hit_others` -- an object that another controller took over in between is
  deleted, and so is one that took the place of the object.
-/

namespace Reconciliation

/-! ## 1. What is there -/

/-- What a deletion meets, by what the others asked for since the object was read. -/
structure Hits (start : Memory) (before since : List SharedCall) (read : ManagedObject) : Prop where
  /-- Nobody displaced the object: what is there has its uid. -/
  sameUid : (∀ c ∈ since, c.party = .other → ¬c.request.Displaces read.identity) →
    ∃ o, (start.afterCalls before).objects.get? read.identity = some o ∧ o.uid? = read.uid?
  /-- Nobody was to write the object: it is there as it was read. -/
  sameObject : (∀ c ∈ since, c.party = .other → c.request.target? ≠ some read.identity) →
    (start.afterCalls before).objects.get? read.identity = some read

/-- A call that displaces an object is to write or remove it. -/
theorem StoreRequest.Displaces.target? {request : StoreRequest} {id : ObjectIdentity}
    (h : request.Displaces id) : request.target? = some id := by
  cases request with
  | insert o => exact congrArg some h
  | delete other => exact congrArg some h
  | _ => cases h

/-- An object was read, and the engine has not written it since. -/
theorem Hits.of_read {start : Memory} {seen since : List SharedCall} {c : SharedCall}
    {read : ManagedObject} (hread : (start.afterCalls seen).objects.get? read.identity = some read)
    (hc : c.request.target? = none)
    (hengine : ∀ c ∈ since, c.party = .engine → c.request.target? ≠ some read.identity) :
    Hits start (seen ++ c :: since) since read := by
  have hcalls : ∀ {P : StoreRequest → Prop}, P c.request → (∀ c ∈ since, P c.request) →
      ∀ request ∈ (c :: since).map (·.request), P request := by
    intro P hfirst hrest request hmem
    obtain ⟨c', hc', rfl⟩ := List.mem_map.1 hmem
    rcases List.mem_cons.1 hc' with rfl | hc'
    · exact hfirst
    · exact hrest c' hc'
  have hneither : ∀ c' : SharedCall, c'.party = .engine ∨ c'.party = .other :=
    fun c' => by cases c'.party <;> simp
  constructor
  · intro hothers
    rw [SharedStore.afterCalls_append]
    refine Memory.uid?_after hread (hcalls (fun hd => ?_) fun c' hmem hd => ?_)
    · cases hc.symm.trans hd.target?
    · rcases hneither c' with hp | hp
      · exact hengine c' hmem hp hd.target?
      · exact hothers c' hmem hp hd
  · intro hothers
    rw [SharedStore.afterCalls_append]
    refine (Memory.get?_after (hcalls (fun ht => ?_) fun c' hmem => ?_)).trans hread
    · cases hc.symm.trans ht
    · rcases hneither c' with hp | hp
      · exact hengine c' hmem hp
      · exact hothers c' hmem hp

/-! ## 2. Deletions -/

/-- **What the deletions of a pass hit.** However the others interleave with a sync or a prune on
the same store, every deletion goes back to a call that returned an object of the identity: in a
sync to the get just before, of an object with a field that changed although it cannot; in a prune
to the listing of its kind, of an object that no other resource controlled and that nothing kept.
The engine itself has not written the object since. If no other client displaced it since, the
deletion meets an object of its uid, and if no other client wrote it at all, the object as it was
read; so what a prune deletes then is not controlled by another resource. -/
theorem Engine.deletions_hit {e : Engine SharedStore} (he : e.store = SharedStore.store)
    (start : Memory) (others : List (List StoreRequest)) (r : Run SharedStore) (owner : Owner)
    (desired : List ManagedObject) :
    (∀ before id rest,
      (e.sync owner desired { r with world := ⟨start, [], others⟩ }).2.world.log =
        before ++ ⟨.engine, .delete id⟩ :: rest →
      ∃ seen since read, before = seen ++ ⟨.engine, .get id⟩ :: since ∧ OthersOnly since ∧
        (start.afterCalls seen).get id = .ok (some read) ∧ read.identity = id ∧
        (∃ object ∈ desired, ∃ violation, object.identity = id ∧
          e.registry.mutate read (object.attach owner.reference?) =
            .error (.immutableField violation)) ∧
        Hits start before since read) ∧
    ∀ kinds keep before id rest,
      (e.prune owner desired kinds keep { r with world := ⟨start, [], others⟩ }).2.world.log =
        before ++ ⟨.engine, .delete id⟩ :: rest →
      ∃ seen since read listed, ∃ kind ∈ kinds,
        before = seen ++
          ⟨.engine, .list kind owner.metadata.namespace? owner.selector⟩ :: since ∧
        (start.afterCalls seen).list kind owner.metadata.namespace? owner.selector = .ok listed ∧
        read ∈ listed ∧ read.identity = id ∧ owner.controls read = true ∧
        (PruneScope.mk owner (desired.map (·.identity)) keep).keeps read = false ∧
        (∀ c ∈ since, c.party = .engine → c.request.target? ≠ some id) ∧
        Hits start before since read := by
  constructor
  · intro before id rest hlog
    cases sync_accounts he start others r owner desired before _ rest hlog with
    | delete ho hread hm _ =>
      obtain ⟨seen, since, rfl, hsince, hget⟩ := hread
      have hread := (Memory.get_eq_ok_iff.1 hget).2
      have hid := Memory.identity_of_get hread
      refine ⟨seen, since, _, rfl, hsince, hget, hid, ⟨_, ho, _, rfl, hm⟩, ?_⟩
      exact .of_read (hid.symm ▸ hread) rfl fun c hc hp => by cases hp.symm.trans (hsince c hc)
  · intro kinds keep before id rest hlog
    cases prune_accounts he start others r owner desired kinds keep before _ rest hlog with
    | delete hk hlist ho hcontrols hkeeps hu =>
      obtain ⟨since, rfl, hsince⟩ := hu
      have hunwritten := fun c hc hp => hsince c hc hp _ List.mem_cons_self
      exact ⟨_, since, _, _, _, hk, rfl, hlist, ho, rfl, hcontrols, hkeeps, hunwritten,
        .of_read (Memory.get?_of_mem_list hlist ho).1 rfl hunwritten⟩

/-! ## 3. Lost races -/

/-- An ingress with the labels of a stack, which does not desire it. -/
def ManagedObject.stale : ManagedObject :=
  .ingress ⟨(sample (.sample "one" "a") "web").metadata, none, none⟩

/-- Another stack takes the ingress over after the next call but one. -/
def SharedStore.takenOver : SharedStore where
  start := (Memory.empty ⟨0, 0⟩).after [.insert .stale]
  log := []
  others := [[], [.update (ManagedObject.stale.attach (Owner.sample "two" "b").reference?)]]

/-- The prune of the first stack there. -/
def Engine.pruneTakenOver : Except PruneError PruneReport × Run SharedStore :=
  (SharedStore.engine .standard .default).prune (.sample "one" "a") [] [.ingress] []
    (.start .takenOver)

/-- A binding of another stack is deleted and made anew after the next call but one. -/
def SharedStore.succeeded : SharedStore where
  start := (Memory.empty ⟨0, 0⟩).after
    [.insert ((ManagedObject.granting "reader").attach (Owner.sample "two" "b").reference?)]
  log := []
  others := [[], [.delete (ManagedObject.granting "reader").identity,
    .create ((ManagedObject.granting "reader").attach (Owner.sample "two" "b").reference?)]]

/-- The sync of the first stack there, which is to grant another role. -/
def Engine.syncSucceeded : Except SyncError SyncReport × Run SharedStore :=
  (SharedStore.engine .standard .default).sync (.sample "one" "a") [.granting "writer"]
    (.start .succeeded)

/-- The ingress was updated in between: what is deleted has the uid that was listed. -/
theorem Engine.deletions_hit_takenOver :
    let before := [⟨.engine, .list .ingress (some "tracing") (Owner.sample "one" "a").selector⟩,
      ⟨.other, .update (ManagedObject.stale.attach (Owner.sample "two" "b").reference?)⟩]
    (SharedStore.engine .standard .default).store = SharedStore.store ∧
      Engine.pruneTakenOver.2.world.log =
        before ++ [⟨.engine, .delete ManagedObject.stale.identity⟩] ∧
      ∃ seen since read listed, ∃ kind ∈ [Kind.ingress],
        before = seen ++ ⟨.engine, .list kind (some "tracing")
          (Owner.sample "one" "a").selector⟩ :: since ∧
        (SharedStore.takenOver.start.afterCalls seen).list kind (some "tracing")
          (Owner.sample "one" "a").selector = .ok listed ∧
        read ∈ listed ∧ read.identity = ManagedObject.stale.identity ∧
        Hits SharedStore.takenOver.start before since read := by
  intro before
  have hlog : Engine.pruneTakenOver.2.world.log =
      before ++ [⟨.engine, .delete ManagedObject.stale.identity⟩] := by rfl
  obtain ⟨-, hprune⟩ := deletions_hit (e := SharedStore.engine .standard .default) rfl
    SharedStore.takenOver.start SharedStore.takenOver.others (.start .takenOver)
    (.sample "one" "a") []
  obtain ⟨seen, since, read, listed, kind, hk, hbefore, hlist, hread, hid, -, -, -, hhits⟩ :=
    hprune [.ingress] [] before _ [] hlog
  exact ⟨rfl, hlog, seen, since, read, listed, kind, hk, hbefore, hlist, hread, hid, hhits⟩

/-- A prune deletes an ingress that another stack controls by then. A sync deletes a binding that
another stack controls, and one that was made after the sync has looked. -/
theorem Engine.deletions_hit_others :
    let taken := SharedStore.takenOver.start.afterCalls
      [⟨.engine, .list .ingress (some "tracing") (Owner.sample "one" "a").selector⟩,
        ⟨.other, .update (ManagedObject.stale.attach (Owner.sample "two" "b").reference?)⟩]
    let id := (ManagedObject.granting "writer").identity
    let remade := SharedStore.succeeded.start.afterCalls
      [⟨.engine, .get id⟩, ⟨.other, .delete id⟩,
        ⟨.other, .create
          ((ManagedObject.granting "reader").attach (Owner.sample "two" "b").reference?)⟩]
    (Engine.pruneTakenOver.2.world.memory = (taken.delete ManagedObject.stale.identity).2 ∧
      ((taken.objects.get? ManagedObject.stale.identity).bind (·.controllerUid?)) = some "b" ∧
      (Engine.pruneTakenOver.2.world.memory.objects.get? ManagedObject.stale.identity).isNone) ∧
    Engine.syncSucceeded.2.world.memory = (remade.delete id).2 ∧
      (SharedStore.succeeded.start.objects.get? id).bind (·.uid?) = some "uid-001" ∧
      ((remade.objects.get? id).map fun o => (o.uid?, o.controllerUid?)) =
        some (some "uid-002", some "b") ∧
      (Engine.syncSucceeded.2.world.memory.objects.get? id).isNone := by
  refine ⟨⟨by rfl, by decide, by decide⟩, by rfl, by decide, by decide, by decide⟩

end Reconciliation
