import Mathlib.Data.List.Nodup
import Reconciliation.Pass.Prune
import Reconciliation.Proofs.Store.Memory

/-!
# Pruning deletes exactly the stale objects

Five conditions keep an object of the owner: it lacks a label, lives in another namespace, is
controlled by another resource, was just synced, or is desired. They are checked in three places,
the listing, the scope and the engine's loop.

* `PruneScope.IsStale`, `Memory.IsCandidate` -- the conditions in one place;
* `PruneScope.filterMap_events` -- what becomes of the objects of a kind is decided by them;
* `Engine.pruneObjects_run`, `Engine.pruneKinds_run` -- the loops go through the candidates one by
  one, and no failure stops them;
* **`Engine.prune_exact`** -- the store, the report and the failures afterwards.
-/

namespace Reconciliation

/-! ## 1. The steps of the loops -/

/-- What is reported of a deletion. -/
def PruneEvent.ofDelete (id : ObjectIdentity) : Except StoreError Unit → PruneEvent
  | .ok () => deleted id
  | .error cause => failed ⟨id, .store cause⟩

namespace Engine

variable {σ : Type} (e : Engine σ) (scope : PruneScope)

section Objects

variable {kind : Kind} {o : ManagedObject} {rest : List ManagedObject} {r : Run σ}

theorem pruneObjects_skip (h : scope.owner.controls o = false) :
    e.pruneObjects scope kind (o :: rest) = e.pruneObjects scope kind rest := by
  rw [pruneObjects, h]
  rfl

theorem pruneObjects_keep (h : scope.owner.controls o = true) (hk : scope.keeps o = true) :
    e.pruneObjects scope kind (o :: rest) r =
      (.kept o.identity :: (e.pruneObjects scope kind rest r).1,
        (e.pruneObjects scope kind rest r).2) := by
  rw [pruneObjects, h, hk]
  rfl

theorem pruneObjects_cancel (h : scope.owner.controls o = true) (hk : scope.keeps o = false)
    (hc : e.cancelled r.world = true) :
    e.pruneObjects scope kind (o :: rest) r = ([.cancelled], r) := by
  rw [pruneObjects, h, hk]
  show (if e.cancelled r.world = true then _ else _ : Pass σ (List PruneEvent)) r = _
  rw [hc]
  rfl

theorem pruneObjects_delete (rest : List ManagedObject) (h : scope.owner.controls o = true)
    (hk : scope.keeps o = false) (hc : e.cancelled r.world = false) :
    ∃ r' : Run σ, r'.world = (e.store.delete o.identity r.world).2 ∧
      e.pruneObjects scope kind (o :: rest) r =
        (.ofDelete o.identity (e.store.delete o.identity r.world).1 ::
          (e.pruneObjects scope kind rest r').1, (e.pruneObjects scope kind rest r').2) := by
  rw [pruneObjects, h, hk]
  show ∃ r' : Run σ, _ ∧ (if e.cancelled r.world = true then _ else _ :
    Pass σ (List PruneEvent)) r = _
  rw [hc, if_neg Bool.false_ne_true, run_bind, Pass.run_onWorld]
  cases (e.store.delete o.identity r.world).1 with
  | ok u => exact ⟨⟨_, r.metrics ++ [.pruned kind.name], r.retries⟩, rfl, rfl⟩
  | error cause => exact ⟨⟨_, r.metrics ++ [.objectError kind.name], r.retries⟩, rfl, rfl⟩

end Objects

section Kinds

variable {kind : Kind} {rest : List Kind} {r : Run σ}

/-- The state after listing a kind on behalf of the owner. -/
def afterList (kind : Kind) (r : Run σ) : Run σ :=
  { r with
    world := (e.store.list kind scope.owner.metadata.namespace? scope.owner.selector r.world).2 }

theorem pruneKinds_failed {cause : StoreError}
    (h : (e.store.list kind scope.owner.metadata.namespace? scope.owner.selector r.world).1 =
      .error cause) :
    e.pruneKinds scope (kind :: rest) r =
      (.listFailed ⟨kind, cause⟩ :: (e.pruneKinds scope rest (e.afterList scope kind r)).1,
        (e.pruneKinds scope rest (e.afterList scope kind r)).2) := by
  rw [pruneKinds, run_bind, Pass.run_onWorld, h]
  rfl

theorem pruneKinds_listed {owned : List ManagedObject}
    (h : (e.store.list kind scope.owner.metadata.namespace? scope.owner.selector r.world).1 =
      .ok owned) :
    e.pruneKinds scope (kind :: rest) r =
      let pruned := e.pruneObjects scope kind owned (e.afterList scope kind r)
      if pruned.1.any (·.isCancelled) then pruned
      else (pruned.1 ++ (e.pruneKinds scope rest pruned.2).1, (e.pruneKinds scope rest pruned.2).2)
    := by
  rw [pruneKinds, run_bind, Pass.run_onWorld, h]
  show (if (e.pruneObjects scope kind owned (e.afterList scope kind r)).1.any (·.isCancelled) = true
    then _ else _ : Pass σ (List PruneEvent)) _ = _
  dsimp only
  split <;> rfl

end Kinds

end Engine

/-! ## 2. Stale objects -/

/-- The object belongs to the owner, which neither synced nor desires it. -/
structure PruneScope.IsStale (s : PruneScope) (o : ManagedObject) : Prop where
  application : o.metadata.label? Label.application = some s.owner.kind.application
  instanceOf : o.metadata.label? Label.owner = some s.owner.name
  manager : o.metadata.label? Label.managedBy = some Label.manager
  /-- The namespaces agree unless one of the two is absent. -/
  sameNamespace : ∀ ns ∈ s.owner.metadata.namespace?, ∀ ns' ∈ o.identity.namespace?, ns = ns'
  /-- There is no controller, or it is the owner. -/
  controller : ∀ uid ∈ o.controllerUid?, s.owner.metadata.uid = some uid
  uid : ∀ uid ∈ o.uid?, uid ∉ s.keep
  identity : o.identity ∉ s.wanted

theorem LabelSelector.selects_forOwner_iff {application owner : String}
    {labels : Option (Dict String String)} :
    (forOwner application owner).selects labels = true ↔
      labels.bind (·.get? Label.application) = some application ∧
      labels.bind (·.get? Label.owner) = some owner ∧
      labels.bind (·.get? Label.managedBy) = some Label.manager := by
  have hentries : (ownerLabels application owner).entries =
      [(Label.owner, owner), (Label.managedBy, Label.manager),
        (Label.application, application)] := by
    have h₁ : compare Label.owner Label.application = .lt := by decide
    have h₂ : compare Label.managedBy Label.owner = .gt := by decide
    have h₃ : compare Label.managedBy Label.application = .lt := by decide
    simp [ownerLabels, Dict.ofList, Dict.insertAll, Dict.empty, Entries.insertAll, Entries.insert,
      h₁, h₂, h₃]
  show (ownerLabels application owner).entries.all _ = true ↔ _
  rw [hentries]
  simp only [List.all_cons, List.all_nil, Bool.and_true, Bool.and_eq_true, beq_iff_eq]
  constructor
  · intro h
    exact ⟨h.2.2, h.1, h.2.1⟩
  · intro h
    exact ⟨h.2.1, h.2.2, h.1⟩

theorem Owner.controls_iff {owner : Owner} {o : ManagedObject} :
    owner.controls o = true ↔ ∀ uid ∈ o.controllerUid?, owner.metadata.uid = some uid := by
  unfold controls
  cases o.controllerUid? with
  | none => simp
  | some uid => simp

theorem PruneScope.keeps_eq_false_iff {s : PruneScope} {o : ManagedObject} :
    s.keeps o = false ↔ (∀ uid ∈ o.uid?, uid ∉ s.keep) ∧ o.identity ∉ s.wanted := by
  unfold keeps
  cases o.uid? with
  | none => simp
  | some uid => simp

theorem Memory.inNamespace_iff {ns? : Option String} {id : ObjectIdentity} :
    inNamespace ns? id = true ↔ ∀ ns ∈ ns?, ∀ ns' ∈ id.namespace?, ns = ns' := by
  unfold inNamespace
  cases ns? with
  | none => simp
  | some ns =>
    cases id.namespace? with
    | none => simp
    | some ns' => simp

/-- The three places where the conditions are checked: listing, control and keeping. -/
theorem PruneScope.isStale_iff {s : PruneScope} {o : ManagedObject} :
    s.IsStale o ↔
      (s.owner.selector.selects o.metadata.labels = true ∧
        Memory.inNamespace s.owner.metadata.namespace? o.identity = true) ∧
      s.owner.controls o = true ∧ s.keeps o = false := by
  rw [Owner.controls_iff, keeps_eq_false_iff, Memory.inNamespace_iff]
  show _ ↔ ((LabelSelector.forOwner _ _).selects _ = true ∧ _) ∧ _
  rw [LabelSelector.selects_forOwner_iff]
  constructor
  · intro h
    exact ⟨⟨⟨h.application, h.instanceOf, h.manager⟩, h.sameNamespace⟩, h.controller, h.uid,
      h.identity⟩
  · intro h
    obtain ⟨⟨⟨ha, ho, hm⟩, hn⟩, hc, hu, hi⟩ := h
    exact ⟨ha, ho, hm, hn, hc, hu, hi⟩

instance (s : PruneScope) (o : ManagedObject) : Decidable (s.IsStale o) :=
  decidable_of_iff _ PruneScope.isStale_iff.symm

namespace Memory

/-- The injected failure of listing a kind. -/
def listFailure? (m : Memory) (kind : Kind) : Option StoreError :=
  (m.listFailures.find? fun f => f.1 = kind).map fun f => .listFailed kind f.2

theorem list_eq (m : Memory) (kind : Kind) (ns? : Option String) (selector : LabelSelector) :
    m.list kind ns? selector =
      match m.listFailure? kind with
      | some cause => .error cause
      | none => .ok ((m.objects.entries.filter (listed kind ns? selector)).map (·.2)) := by
  unfold list listFailure?
  cases m.listFailures.find? fun f => f.1 = kind <;> rfl

/-- The object is stale, and pruning the kinds finds it. -/
structure IsCandidate (m : Memory) (s : PruneScope) (kinds : List Kind) (o : ManagedObject) :
    Prop where
  kind : o.kind ∈ kinds
  listed : m.listFailure? o.kind = none
  stale : s.IsStale o

instance (m : Memory) (s : PruneScope) (kinds : List Kind) (o : ManagedObject) :
    Decidable (m.IsCandidate s kinds o) :=
  decidable_of_iff (o.kind ∈ kinds ∧ (m.listFailure? o.kind).isNone = true ∧ s.IsStale o)
    ⟨fun h => ⟨h.1, Option.isNone_iff_eq_none.1 h.2.1, h.2.2⟩,
      fun h => ⟨h.kind, Option.isNone_iff_eq_none.2 h.listed, h.stale⟩⟩

end Memory

/-! ## 3. The loops -/

/-- What happens to a listed object. -/
def PruneScope.event (s : PruneScope) (m : Memory) (o : ManagedObject) : Option PruneEvent :=
  if s.owner.controls o = false then none
  else if s.keeps o = true then some (.kept o.identity)
  else some (.ofDelete o.identity (m.delete o.identity).1)

/-- What happens to the objects of a kind. -/
def PruneScope.events (s : PruneScope) (m : Memory) (kind : Kind) : List PruneEvent :=
  match m.list kind s.owner.metadata.namespace? s.owner.selector with
  | .error cause => [.listFailed ⟨kind, cause⟩]
  | .ok owned => owned.filterMap (s.event m)

theorem Memory.delete_fst (m : Memory) (id : ObjectIdentity) :
    (m.delete id).1 = match m.failure? .delete id with | some e => .error e | none => .ok () := by
  rcases m.delete_cases id with ⟨e, hf, he⟩ | ⟨hf, ⟨-, he⟩ | ⟨-, he⟩⟩ <;> rw [hf, he]

theorem Memory.failures_delete (m : Memory) (id : ObjectIdentity) :
    (m.delete id).2.failures = m.failures ∧ (m.delete id).2.listFailures = m.listFailures := by
  rcases m.delete_cases id with ⟨e, -, he⟩ | ⟨-, ⟨-, he⟩ | ⟨-, he⟩⟩ <;> rw [he] <;> exact ⟨rfl, rfl⟩

theorem PruneScope.event_cases {s : PruneScope} {m : Memory} {o : ManagedObject}
    {happened : PruneEvent} (h : s.event m o = some happened) :
    happened = .kept o.identity ∨ happened = .ofDelete o.identity (m.delete o.identity).1 := by
  unfold event at h
  split at h
  · cases h
  · split at h
    · exact .inl (Option.some.inj h).symm
    · exact .inr (Option.some.inj h).symm

/-- Deletions do not change what happens to other listed objects. -/
theorem PruneScope.event_congr (s : PruneScope) {m m' : Memory} (h : m'.failures = m.failures) :
    s.event m' = s.event m := by
  funext o
  unfold event
  rw [Memory.delete_fst, Memory.delete_fst]
  unfold Memory.failure?
  rw [h]

namespace Memory

theorem list_delete (m : Memory) {id : ObjectIdentity} {kind : Kind} (h : id.kind ≠ kind)
    (ns? : Option String) (selector : LabelSelector) :
    (m.delete id).2.list kind ns? selector = m.list kind ns? selector := by
  have herase : (m.objects.erase id).entries.filter (listed kind ns? selector) =
      m.objects.entries.filter (listed kind ns? selector) := by
    show (Entries.erase id m.objects.entries).filter _ = _
    unfold Entries.erase
    rw [List.filter_filter]
    refine List.filter_congr fun entry _ => ?_
    by_cases hid : id = entry.1
    · have hkind : entry.1.kind ≠ kind := hid ▸ h
      simp [listed, hkind]
    · simp [hid]
  rcases m.delete_cases id with ⟨e, -, he⟩ | ⟨-, ⟨-, he⟩ | ⟨-, he⟩⟩
  · rw [he]
  · rw [he]
  · have hfails : (m.deleted id).listFailure? kind = m.listFailure? kind := rfl
    rw [he, list_eq, list_eq, hfails]
    cases m.listFailure? kind with
    | some cause => rfl
    | none =>
      exact congrArg (fun entries => Except.ok (entries.map fun entry => entry.2)) herase

theorem deleteAll_cons (m : Memory) (id : ObjectIdentity) (rest : List ObjectIdentity) :
    m.deleteAll (id :: rest) = (m.delete id).2.deleteAll rest := rfl

theorem deleteAll_append (m : Memory) (ids rest : List ObjectIdentity) :
    m.deleteAll (ids ++ rest) = (m.deleteAll ids).deleteAll rest := List.foldl_append

theorem failures_deleteAll (m : Memory) (ids : List ObjectIdentity) :
    (m.deleteAll ids).failures = m.failures := by
  induction ids generalizing m with
  | nil => rfl
  | cons id rest ih => rw [deleteAll_cons, ih, (m.failures_delete id).1]

theorem list_deleteAll (m : Memory) {ids : List ObjectIdentity} {kind : Kind}
    (h : ∀ id ∈ ids, id.kind ≠ kind) (ns? : Option String) (selector : LabelSelector) :
    (m.deleteAll ids).list kind ns? selector = m.list kind ns? selector := by
  induction ids generalizing m with
  | nil => rfl
  | cons id rest ih =>
    rw [deleteAll_cons, ih _ fun j hj => h j (List.mem_cons_of_mem _ hj),
      m.list_delete (h id List.mem_cons_self)]

end Memory

theorem PruneScope.events_deleteAll (s : PruneScope) (m : Memory) {ids : List ObjectIdentity}
    {kind : Kind} (h : ∀ id ∈ ids, id.kind ≠ kind) :
    s.events (m.deleteAll ids) kind = s.events m kind := by
  unfold events
  rw [m.list_deleteAll h, s.event_congr (m.failures_deleteAll ids)]

/-- The candidates of a kind in identity order. -/
def Memory.candidates (m : Memory) (s : PruneScope) (kinds : List Kind) (kind : Kind) :
    List ObjectIdentity :=
  (m.objects.entries.filter fun entry =>
    entry.1.kind = kind ∧ m.IsCandidate s kinds entry.2).map (·.1)

/-- **What happens to the objects of a kind happens to its candidates**, apart from objects that
are kept. -/
theorem PruneScope.filterMap_events (s : PruneScope) (m : Memory) {β : Type}
    (f : PruneEvent → Option β) (hkept : ∀ id, f (.kept id) = none)
    (hlist : ∀ failure, f (.listFailed failure) = none) {kinds : List Kind} {kind : Kind}
    (hkind : kind ∈ kinds) :
    (s.events m kind).filterMap f =
      (m.candidates s kinds kind).filterMap fun id => f (.ofDelete id (m.delete id).1) := by
  unfold events Memory.candidates
  rw [Memory.list_eq, List.filterMap_map, List.filterMap_filter]
  cases hfails : m.listFailure? kind with
  | some cause =>
    have hnone : m.objects.entries.filterMap (fun entry =>
        if decide (entry.1.kind = kind ∧ m.IsCandidate s kinds entry.2) = true then
          ((fun id => f (.ofDelete id (m.delete id).1)) ∘ fun entry => entry.1) entry
        else none) = [] := by
      refine List.filterMap_eq_nil_iff.2 fun entry hentry => if_neg fun h => ?_
      obtain ⟨hk, hcand⟩ := of_decide_eq_true h
      have hlisted := hcand.listed
      rw [← hk, ← m.keyed entry hentry] at hfails
      rw [show entry.2.kind = entry.2.identity.kind from rfl, hfails] at hlisted
      cases hlisted
    rw [hnone]
    exact List.filterMap_cons_none (hlist _)
  | none =>
    dsimp only
    rw [List.filterMap_filterMap, List.filterMap_map, List.filterMap_filter]
    refine List.filterMap_congr fun entry hentry => ?_
    have hid := m.keyed entry hentry
    have hiff : entry.1.kind = kind ∧ m.IsCandidate s kinds entry.2 ↔
        Memory.listed kind s.owner.metadata.namespace? s.owner.selector entry = true ∧
          s.owner.controls entry.2 = true ∧ s.keeps entry.2 = false := by
      unfold Memory.listed
      rw [← hid, Bool.and_eq_true, Bool.and_eq_true, beq_iff_eq]
      constructor
      · intro h
        obtain ⟨⟨hselects, hns⟩, hcontrols, hkeeps⟩ := PruneScope.isStale_iff.1 h.2.stale
        exact ⟨⟨⟨h.1, hns⟩, hselects⟩, hcontrols, hkeeps⟩
      · intro h
        obtain ⟨⟨⟨hk, hns⟩, hselects⟩, hcontrols, hkeeps⟩ := h
        have hk' : entry.2.kind = kind := hk
        exact ⟨hk, hk' ▸ hkind, hk' ▸ hfails,
          PruneScope.isStale_iff.2 ⟨⟨hselects, hns⟩, hcontrols, hkeeps⟩⟩
    simp only [hiff, Function.comp, PruneScope.event]
    cases hlisted : Memory.listed kind s.owner.metadata.namespace? s.owner.selector entry with
    | false => simp
    | true =>
      cases hcontrols : s.owner.controls entry.2 with
      | false => simp
      | true =>
        cases hkeeps : s.keeps entry.2 with
        | true => simp [hkept]
        | false => simp [hid]

namespace Engine

variable {σ : Type} {e : Engine σ} {view : σ → Memory} (scope : PruneScope)

/-- **The loop over objects**: every object has its event, and the reported deletions are those that
took place. -/
theorem pruneObjects_run (he : e.OnMemory view) (hc : ∀ w, e.cancelled w = false)
    (kind : Kind) (objects : List ManagedObject) (r : Run σ) :
    (e.pruneObjects scope kind objects r).1 = objects.filterMap (scope.event (view r.world)) ∧
      view (e.pruneObjects scope kind objects r).2.world = (view r.world).deleteAll
        ((objects.filterMap (scope.event (view r.world))).filterMap (·.deleted?)) := by
  induction objects generalizing r with
  | nil => exact ⟨rfl, rfl⟩
  | cons o rest ih =>
    cases hcontrols : scope.owner.controls o with
    | false =>
      have hevent : scope.event (view r.world) o = none := if_pos hcontrols
      rw [pruneObjects_skip e scope hcontrols, List.filterMap_cons_none hevent]
      exact ih r
    | true =>
      cases hkeeps : scope.keeps o with
      | true =>
        have hevent : scope.event (view r.world) o = some (.kept o.identity) := by
          simp [PruneScope.event, hcontrols, hkeeps]
        rw [pruneObjects_keep e scope hcontrols hkeeps, List.filterMap_cons_some hevent]
        exact ⟨congrArg _ (ih r).1, (ih r).2⟩
      | false =>
        obtain ⟨r', hr', hstep⟩ := pruneObjects_delete e scope rest hcontrols hkeeps
          (hc r.world)
        obtain ⟨hresult, hview⟩ := he.delete o.identity r.world
        have hevent : scope.event (view r.world) o =
            some (.ofDelete o.identity ((view r.world).delete o.identity).1) := by
          simp [PruneScope.event, hcontrols, hkeeps]
        have hnext : view r'.world = ((view r.world).delete o.identity).2 := by rw [hr', hview]
        have hsame : scope.event (view r'.world) = scope.event (view r.world) :=
          scope.event_congr (by rw [hnext]; exact (Memory.failures_delete _ _).1)
        obtain ⟨ih₁, ih₂⟩ := ih r'
        rw [hsame] at ih₁ ih₂
        rw [hstep, List.filterMap_cons_some hevent, hresult]
        refine ⟨congrArg _ ih₁, ih₂.trans ?_⟩
        rw [hnext]
        rcases (view r.world).delete_cases o.identity with ⟨cause, -, hd⟩ | ⟨-, ⟨-, hd⟩ | ⟨-, hd⟩⟩
        · rw [hd]
          rfl
        · rw [hd]
          show _ = ((view r.world).delete o.identity).2.deleteAll _
          rw [hd]
        · rw [hd]
          show _ = ((view r.world).delete o.identity).2.deleteAll _
          rw [hd]

theorem not_cancelled_filterMap_event (s : PruneScope) (m : Memory)
    (objects : List ManagedObject) :
    (objects.filterMap (s.event m)).any (·.isCancelled) = false := by
  refine List.any_eq_false.2 fun event hevent => ?_
  obtain ⟨o, -, ho⟩ := List.mem_filterMap.1 hevent
  rcases PruneScope.event_cases ho with rfl | rfl
  · exact Bool.false_ne_true
  · cases (m.delete o.identity).1 <;> exact Bool.false_ne_true

theorem kind_of_mem_candidates {s : PruneScope} {m : Memory} {kinds : List Kind} {kind : Kind}
    {id : ObjectIdentity} (h : id ∈ m.candidates s kinds kind) : id.kind = kind := by
  obtain ⟨entry, hentry, rfl⟩ := List.mem_map.1 h
  exact (of_decide_eq_true (List.mem_filter.1 hentry).2).1

/-- What is deleted while a kind is gone through is of that kind. -/
theorem kind_of_mem_deleted {s : PruneScope} {m : Memory} {kind : Kind} {id : ObjectIdentity}
    (h : id ∈ (s.events m kind).filterMap (·.deleted?)) : id.kind = kind := by
  rw [s.filterMap_events m _ (fun _ => rfl) (fun _ => rfl) (List.mem_singleton_self kind)] at h
  obtain ⟨other, hother, hid⟩ := List.mem_filterMap.1 h
  have hsame : other = id := by
    cases hd : (m.delete other).1 with
    | ok u =>
      rw [hd] at hid
      exact Option.some.inj hid
    | error cause =>
      rw [hd] at hid
      cases hid
  exact hsame ▸ kind_of_mem_candidates hother

/-- **The loop over kinds**, given each kind once: what happens to a kind does not depend on what
happened to the others. -/
theorem pruneKinds_run (he : e.OnMemory view) (hc : ∀ w, e.cancelled w = false)
    {kinds : List Kind} (hn : kinds.Nodup) (r : Run σ) :
    (e.pruneKinds scope kinds r).1 = kinds.flatMap (scope.events (view r.world)) ∧
      view (e.pruneKinds scope kinds r).2.world = (view r.world).deleteAll
        ((kinds.flatMap (scope.events (view r.world))).filterMap (·.deleted?)) := by
  induction kinds generalizing r with
  | nil => exact ⟨rfl, rfl⟩
  | cons kind rest ih =>
    obtain ⟨hnot, hrest⟩ := List.nodup_cons.1 hn
    obtain ⟨hresult, hview⟩ :=
      he.list kind scope.owner.metadata.namespace? scope.owner.selector r.world
    have hafter : view (e.afterList scope kind r).world = view r.world := hview
    rw [List.flatMap_cons, List.filterMap_append, Memory.deleteAll_append]
    cases hl : (view r.world).list kind scope.owner.metadata.namespace? scope.owner.selector with
    | error cause =>
      have hevents : scope.events (view r.world) kind = [.listFailed ⟨kind, cause⟩] := by
        unfold PruneScope.events
        rw [hl]
      obtain ⟨ih₁, ih₂⟩ := ih hrest (e.afterList scope kind r)
      rw [hafter] at ih₁ ih₂
      rw [pruneKinds_failed e scope (hresult.trans hl), hevents]
      exact ⟨congrArg _ ih₁, ih₂⟩
    | ok owned =>
      have hevents : scope.events (view r.world) kind =
          owned.filterMap (scope.event (view r.world)) := by
        unfold PruneScope.events
        rw [hl]
      obtain ⟨hobjects, hworld⟩ :=
        pruneObjects_run scope he hc kind owned (e.afterList scope kind r)
      rw [hafter, ← hevents] at hobjects hworld
      have hcancel : (scope.events (view r.world) kind).any (·.isCancelled) = false :=
        hevents ▸ not_cancelled_filterMap_event scope (view r.world) owned
      obtain ⟨ih₁, ih₂⟩ := ih hrest (e.pruneObjects scope kind owned (e.afterList scope kind r)).2
      have hothers : rest.flatMap (scope.events ((view r.world).deleteAll
          ((scope.events (view r.world) kind).filterMap (·.deleted?)))) =
          rest.flatMap (scope.events (view r.world)) := by
        refine List.flatMap_congr fun other hother => ?_
        refine scope.events_deleteAll _ fun id hid hk => hnot ?_
        rw [← kind_of_mem_deleted hid, hk]
        exact hother
      rw [hworld, hothers] at ih₁ ih₂
      rw [pruneKinds_listed e scope (hresult.trans hl)]
      simp only [hobjects, hcancel, Bool.false_eq_true, if_false]
      exact ⟨congrArg _ ih₁, ih₂⟩

end Engine

/-! ## 4. The whole pass -/

/-- The candidates in the order of kinds, then of identities. -/
def Memory.allCandidates (m : Memory) (s : PruneScope) (kinds : List Kind) : List ObjectIdentity :=
  kinds.flatMap (m.candidates s kinds)

section Lists

variable {s : PruneScope} {m : Memory} {kinds : List Kind}

theorem Memory.mem_allCandidates_iff {id : ObjectIdentity} :
    id ∈ m.allCandidates s kinds ↔
      ∃ o, (id, o) ∈ m.objects.entries ∧ m.IsCandidate s kinds o := by
  unfold allCandidates candidates
  rw [List.mem_flatMap]
  constructor
  · intro h
    obtain ⟨kind, -, hid⟩ := h
    obtain ⟨entry, hentry, rfl⟩ := List.mem_map.1 hid
    obtain ⟨hmem, hp⟩ := List.mem_filter.1 hentry
    exact ⟨entry.2, hmem, (of_decide_eq_true hp).2⟩
  · intro h
    obtain ⟨o, hmem, hcand⟩ := h
    have hkind : o.kind = id.kind := congrArg ObjectIdentity.kind (m.keyed _ hmem)
    refine ⟨id.kind, hkind ▸ hcand.kind, List.mem_map.2 ⟨(id, o), ?_, rfl⟩⟩
    exact List.mem_filter.2 ⟨hmem, decide_eq_true ⟨rfl, hcand⟩⟩

theorem Memory.nodup_allCandidates (hn : kinds.Nodup) : (m.allCandidates s kinds).Nodup := by
  refine List.nodup_flatMap.2 ⟨fun kind _ => ?_, hn.imp fun {a b} hne id ha hb => ?_⟩
  · exact List.Nodup.sublist (List.filter_sublist.map _) m.objects.ascending.nodup_keys
  · exact hne ((Engine.kind_of_mem_candidates ha).symm.trans (Engine.kind_of_mem_candidates hb))

/-- What is reported of all kinds, for reports that pass over kept objects and failed listings. -/
theorem PruneScope.filterMap_flatMap_events {β : Type} (f : PruneEvent → Option β)
    (hkept : ∀ id, f (.kept id) = none) (hlist : ∀ failure, f (.listFailed failure) = none) :
    (kinds.flatMap (s.events m)).filterMap f =
      (m.allCandidates s kinds).filterMap fun id => f (.ofDelete id (m.delete id).1) := by
  unfold Memory.allCandidates
  rw [List.filterMap_flatMap, List.filterMap_flatMap]
  exact List.flatMap_congr fun kind hkind => s.filterMap_events m f hkept hlist hkind

theorem PruneScope.deleted?_flatMap_events :
    (kinds.flatMap (s.events m)).filterMap (·.deleted?) =
      (m.allCandidates s kinds).filter fun id => (m.failure? .delete id).isNone := by
  rw [filterMap_flatMap_events _ (fun _ => rfl) fun _ => rfl, ← List.filterMap_eq_filter]
  refine List.filterMap_congr fun id _ => ?_
  rw [Memory.delete_fst]
  cases hf : m.failure? .delete id <;>
    simp [Option.guard, hf, PruneEvent.ofDelete, PruneEvent.deleted?]

theorem PruneScope.failure?_flatMap_events :
    (kinds.flatMap (s.events m)).filterMap (·.failure?) =
      (m.allCandidates s kinds).filterMap fun id =>
        (m.failure? .delete id).map fun cause => ⟨id, .store cause⟩ := by
  rw [filterMap_flatMap_events _ (fun _ => rfl) fun _ => rfl]
  refine List.filterMap_congr fun id _ => ?_
  rw [Memory.delete_fst]
  cases m.failure? .delete id <;> rfl

theorem PruneScope.listFailure?_flatMap_events :
    (kinds.flatMap (s.events m)).filterMap (·.listFailure?) =
      kinds.filterMap fun kind => (m.listFailure? kind).map fun cause => ⟨kind, cause⟩ := by
  rw [List.filterMap_flatMap, List.filterMap_eq_flatMap_toList]
  refine List.flatMap_congr fun kind _ => ?_
  unfold events
  rw [Memory.list_eq]
  cases m.listFailure? kind with
  | some cause => rfl
  | none =>
    refine List.filterMap_eq_nil_iff.2 fun happened hmem => ?_
    obtain ⟨o, -, ho⟩ := List.mem_filterMap.1 hmem
    rcases event_cases ho with rfl | rfl
    · rfl
    · cases (m.delete o.identity).1 <;> rfl

theorem PruneScope.not_cancelled_flatMap_events :
    (kinds.flatMap (s.events m)).any (·.isCancelled) = false := by
  rw [List.any_flatMap]
  refine List.any_eq_false.2 fun kind _ => Bool.eq_false_iff.1 ?_
  unfold events
  rw [Memory.list_eq]
  cases m.listFailure? kind with
  | some cause => rfl
  | none => exact Engine.not_cancelled_filterMap_event s m _

end Lists

/-- **Pruning deletes exactly the stale objects.** For every store with any injected failures, every
owner, desired list and keep set, every list of kinds without repetition, and an engine which is not
cancelled: afterwards the table is the old one without the candidates whose deletion does not fail,
and nothing else of the store changed but the journal; the report lists these candidates in the
order of kinds, then of identities; every failed deletion and every failed listing is reported, and
the pass succeeds just if there is none. -/
theorem Engine.prune_exact {σ : Type} {e : Engine σ} {view : σ → Memory} (he : e.OnMemory view)
    (hc : ∀ w, e.cancelled w = false) (owner : Owner) (desired : List ManagedObject)
    {kinds : List Kind} (hn : kinds.Nodup) (keep : List String) (r : Run σ) :
    let m := view r.world
    let scope : PruneScope := ⟨owner, desired.map (·.identity), keep⟩
    let after := view (e.prune owner desired kinds keep r).2.world
    let deleted := (m.allCandidates scope kinds).filter fun id => (m.failure? .delete id).isNone
    let failures : List ObjectFailure := (m.allCandidates scope kinds).filterMap fun id =>
      (m.failure? .delete id).map fun cause => ⟨id, .store cause⟩
    let listFailures : List ListFailure := kinds.filterMap fun kind =>
      (m.listFailure? kind).map fun cause => ⟨kind, cause⟩
    after.objects.entries = m.objects.entries.filter (fun entry =>
        !decide (m.IsCandidate scope kinds entry.2 ∧ m.failure? .delete entry.1 = none)) ∧
      after = { m with
        objects := after.objects
        journal := m.journal ++ deleted.map (⟨.delete, ·⟩)
        keyed := after.keyed } ∧
      ∃ kept, (e.prune owner desired kinds keep r).1 =
        if listFailures = [] ∧ failures = [] then .ok ⟨deleted, kept⟩
        else .error ⟨listFailures, failures, false, ⟨deleted, kept⟩⟩ := by
  intro m scope after deleted failures listFailures
  obtain ⟨hevents, hworld⟩ := pruneKinds_run scope he hc hn r
  have hdeleted : (kinds.flatMap (scope.events m)).filterMap (·.deleted?) = deleted :=
    PruneScope.deleted?_flatMap_events
  have hstored : ∀ id ∈ deleted, (m.objects.get? id).isSome = true := by
    intro id hid
    obtain ⟨o, ho, -⟩ := Memory.mem_allCandidates_iff.1 (List.mem_filter.1 hid).1
    have hget : m.objects.get? id = some o := m.objects.ascending.lookup_of_mem ho
    rw [hget]
    rfl
  have hafter : after = m.deleteAll deleted := by
    rw [← hdeleted]
    exact hworld
  rw [Memory.deleteAll_eq ((Memory.nodup_allCandidates hn).filter _)
    (fun id hid => Option.isNone_iff_eq_none.1 (List.mem_filter.1 hid).2) hstored] at hafter
  refine ⟨?_, ?_, (kinds.flatMap (scope.events m)).countP (·.isKept), ?_⟩
  · rw [hafter]
    show (m.objects.eraseAll deleted).entries = _
    rw [Dict.entries_eraseAll]
    refine List.filter_congr fun entry hentry => ?_
    have hiff : entry.1 ∈ deleted ↔
        m.IsCandidate scope kinds entry.2 ∧ m.failure? .delete entry.1 = none := by
      rw [List.mem_filter, Memory.mem_allCandidates_iff, Option.isNone_iff_eq_none]
      refine and_congr_left fun _ => ⟨fun h => ?_, fun h => ⟨entry.2, hentry, h⟩⟩
      obtain ⟨o, ho, hcand⟩ := h
      -- a key stands for one object only
      have hfound : m.objects.get? entry.1 = some o := m.objects.ascending.lookup_of_mem ho
      have hfound' : m.objects.get? entry.1 = some entry.2 :=
        m.objects.ascending.lookup_of_mem hentry
      have hsame : o = entry.2 := Option.some.inj (hfound.symm.trans hfound')
      exact hsame ▸ hcand
    simp only [hiff, decide_not]
  · rw [hafter]
  · have hfailures : (kinds.flatMap (scope.events m)).filterMap (·.failure?) = failures :=
      PruneScope.failure?_flatMap_events
    have hlist : (kinds.flatMap (scope.events m)).filterMap (·.listFailure?) = listFailures :=
      PruneScope.listFailure?_flatMap_events
    have hresult : (e.prune owner desired kinds keep r).1 =
        pruned (kinds.flatMap (scope.events m)) := congrArg pruned hevents
    rw [hresult]
    unfold pruned
    simp only [hdeleted, hfailures, hlist, PruneScope.not_cancelled_flatMap_events,
      Bool.not_false, Bool.and_true, Bool.and_eq_true, List.isEmpty_iff]

/-- A stack with a uid in a namespace. -/
def Owner.sample (name uid : String) : Owner where
  metadata :=
    { ObjectMeta.empty with
      name := some name, namespace? := some "tracing", uid := some uid }
  spec := .stack ⟨.managed, ⟨⟨"storage", "s3"⟩⟩, none, none, none⟩
  status := none

/-- A configuration map of an owner. -/
def ManagedObject.sample (owner : Owner) (name : String) : ManagedObject :=
  .configMap
    { metadata :=
        { ObjectMeta.empty with
          name := some name, namespace? := owner.metadata.namespace?
          labels := some (ownerLabels owner.kind.application owner.name) }
      data := none
      binaryData := none
      immutable := none }

/-- A binding that grants a role in a stack. -/
def ManagedObject.granting (role : String) : ManagedObject :=
  .roleBinding ⟨(sample (.sample "one" "a") "grant").metadata, ⟨"", "Role", role⟩, none⟩

/-- A store with two objects of one owner and one of another. -/
def Memory.sample : Memory :=
  (((Memory.empty ⟨0, 0⟩).insert (.sample (.sample "one" "a") "kept")).2.insert
    (.sample (.sample "one" "a") "old")).2.insert (.sample (.sample "two" "b") "other") |>.2

/-- Of two objects of an owner, the one that is no longer desired goes. -/
theorem Engine.prune_exact_sample :
    [Kind.configMap].Nodup ∧
    (∀ m, (overMemory .standard .default).cancelled m = false) ∧
    ((overMemory .standard .default).prune (.sample "one" "a") [.sample (.sample "one" "a") "kept"]
      [.configMap] [] (.start .sample)).2.world.objects.entries.map (·.1.name) =
        ["kept", "other"] :=
  ⟨by decide, fun _ => rfl,
    (congrArg (List.map (·.1.name))
      (prune_exact (onMemory_overMemory .standard .default) (fun _ => rfl) (.sample "one" "a")
        [.sample (.sample "one" "a") "kept"] (by decide) [] (.start .sample)).1).trans
      (by decide)⟩

end Reconciliation
