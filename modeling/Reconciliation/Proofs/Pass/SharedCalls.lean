import Reconciliation.Contention
import Reconciliation.Proofs.Pass.Prune
import Reconciliation.Proofs.Pass.Sync
import Reconciliation.Proofs.Store.History

/-!
# The calls of a pass on a shared store

A pass that shares its store can rely on what it has read only as long as the others left it alone.
The log of a run says what every call of the pass was based on, and who called in between.

* `Accounts` -- every call of the engine is accounted for by the calls before it;
* `JustRead`, `UnwrittenSince` -- what the log says of an object that the engine has looked at;
* `SyncCall` -- the calls that a sync makes, with what it read before each write and what it reports
  of it, and `Engine.sync_accounts`: it makes no others;
* `PruneCall`, `Engine.prune_accounts` -- the same for pruning.
-/

namespace Reconciliation

/-! ## 1. Logs -/

/-- Calls in which the engine has no part. -/
def OthersOnly (calls : List SharedCall) : Prop := ∀ c ∈ calls, c.party = .other

/-- Every call of the engine is accounted for by the calls before it. -/
def Accounts (P : List SharedCall → StoreRequest → Prop) (log : List SharedCall) : Prop :=
  ∀ before request rest, log = before ++ ⟨.engine, request⟩ :: rest → P before request

namespace Accounts

variable {P : List SharedCall → StoreRequest → Prop} {log : List SharedCall}

theorem nil : Accounts P [] := fun before request rest h => by
  have hlength := congrArg List.length h
  simp at hlength

/-- One more call at the end. -/
theorem concat (h : Accounts P log) {c : SharedCall} (hc : c.party = .engine → P log c.request) :
    Accounts P (log ++ [c]) := by
  intro before request rest hsplit
  rcases List.eq_nil_or_concat rest with rfl | ⟨rest', last, rfl⟩
  · obtain ⟨rfl, hlast⟩ := List.append_inj' hsplit rfl
    obtain rfl := List.singleton_inj.1 hlast
    exact hc rfl
  · have hsplit' : log ++ [c] = (before ++ ⟨.engine, request⟩ :: rest') ++ [last] := by
      rw [hsplit]
      simp
    exact h _ _ _ (List.append_inj' hsplit' rfl).1

theorem others (h : Accounts P log) {calls : List SharedCall} (ho : OthersOnly calls) :
    Accounts P (log ++ calls) := by
  induction calls generalizing log with
  | nil => rwa [List.append_nil]
  | cons c rest ih =>
    have hfirst : Accounts P (log ++ [c]) :=
      h.concat fun hc => by cases hc.symm.trans (ho c List.mem_cons_self)
    have hrest := ih hfirst fun c' hc' => ho c' (List.mem_cons_of_mem _ hc')
    rwa [List.append_assoc] at hrest

end Accounts

/-- Since a call of the engine, it has not been to write any of some objects. -/
def UnwrittenSince (seen : List SharedCall) (request : StoreRequest) (ids : List ObjectIdentity)
    (log : List SharedCall) : Prop :=
  ∃ since, log = seen ++ ⟨.engine, request⟩ :: since ∧
    ∀ c ∈ since, c.party = .engine → ∀ id ∈ ids, c.request.target? ≠ some id

namespace UnwrittenSince

variable {seen log : List SharedCall} {request : StoreRequest} {ids : List ObjectIdentity}

theorem of_subset (h : UnwrittenSince seen request ids log) {left : List ObjectIdentity}
    (hs : left ⊆ ids) : UnwrittenSince seen request left log := by
  obtain ⟨since, hlog, hsince⟩ := h
  exact ⟨since, hlog, fun c hc hp id hid => hsince c hc hp id (hs hid)⟩

theorem others (h : UnwrittenSince seen request ids log) {calls : List SharedCall}
    (ho : OthersOnly calls) : UnwrittenSince seen request ids (log ++ calls) := by
  obtain ⟨since, rfl, hsince⟩ := h
  refine ⟨since ++ calls, by simp, fun c hc hp => ?_⟩
  rcases List.mem_append.1 hc with hc | hc
  · exact hsince c hc hp
  · cases hp.symm.trans (ho c hc)

/-- One more call at the end. -/
theorem concat (h : UnwrittenSince seen request ids log) {c : SharedCall}
    (hc : ∀ id ∈ ids, c.request.target? ≠ some id) :
    UnwrittenSince seen request ids (log ++ [c]) := by
  obtain ⟨since, rfl, hsince⟩ := h
  refine ⟨since ++ [c], by simp, fun c' hc' hp => ?_⟩
  rcases List.mem_append.1 hc' with hc' | hc'
  · exact hsince c' hc' hp
  · rw [List.mem_singleton.1 hc']
    exact hc

end UnwrittenSince

namespace SharedStore

theorem afterCalls_append (m : Memory) (front back : List SharedCall) :
    m.afterCalls (front ++ back) = (m.afterCalls front).afterCalls back := by
  unfold Memory.afterCalls
  rw [List.map_append, Memory.after_append]

/-- **A call of the engine**: the others have their turn, and what the store answers then is what
the engine gets. -/
theorem call_run {α : Type} (request : StoreRequest) (answer : Memory → α) (s : SharedStore) :
    ∃ between, OthersOnly between ∧
      (call request answer s).1 = answer (s.start.afterCalls (s.log ++ between)) ∧
      (call request answer s).2.start = s.start ∧
      (call request answer s).2.log = s.log ++ between ++ [⟨.engine, request⟩] := by
  refine ⟨(s.others.headD []).map (⟨.other, ·⟩), fun c hc => ?_, rfl, rfl, rfl⟩
  obtain ⟨request, -, rfl⟩ := List.mem_map.1 hc
  rfl

/-- A call that is accounted for by what it is answered. -/
theorem call_accounts {P : List SharedCall → StoreRequest → Prop} {α : Type}
    (request : StoreRequest) (answer : Memory → α) {s : SharedStore} {start : Memory}
    (hs : s.start = start) (h : Accounts P s.log)
    (hp : ∀ since, OthersOnly since →
      (call request answer s).1 = answer (start.afterCalls (s.log ++ since)) →
      P (s.log ++ since) request) :
    (call request answer s).2.start = start ∧ Accounts P (call request answer s).2.log := by
  obtain ⟨since, hsince, hanswer, hstart, hlog⟩ := call_run request answer s
  refine ⟨hstart.trans hs, ?_⟩
  rw [hlog]
  exact (h.others hsince).concat fun _ => hp since hsince (hs ▸ hanswer)

end SharedStore

/-! ## 2. Syncing -/

/-- The engine got an object, and since then only others made calls. -/
def JustRead (start : Memory) (before : List SharedCall) (id : ObjectIdentity)
    (found? : Option ManagedObject) : Prop :=
  ∃ seen since, before = seen ++ ⟨.engine, .get id⟩ :: since ∧ OthersOnly since ∧
    (start.afterCalls seen).get id = .ok found?

/-- The calls that a sync of some objects makes, where it is to report the attempts. -/
inductive SyncCall (registry : Registry) (owner? : Option OwnerReference)
    (objects : List ManagedObject) (start : Memory) (attempts : List Attempt)
    (before : List SharedCall) : StoreRequest → Prop
  | get {object : ManagedObject} (ho : object ∈ objects) :
      SyncCall registry owner? objects start attempts before (.get object.identity)
  | create {object : ManagedObject} (ho : object ∈ objects)
      (hread : JustRead start before object.identity none)
      (ha : .ofResult object.identity (recordOf object.identity .created
        ((start.afterCalls before).create (object.attach owner?)).1 (·.uid?)) ∈ attempts) :
      SyncCall registry owner? objects start attempts before (.create (object.attach owner?))
  | update {object read merged : ManagedObject} (ho : object ∈ objects)
      (hread : JustRead start before object.identity (some read))
      (hm : registry.mutate read (object.attach owner?) = .ok merged)
      (ha : .ofResult object.identity (recordOf object.identity .updated
        ((start.afterCalls before).update merged).1 (·.uid?)) ∈ attempts) :
      SyncCall registry owner? objects start attempts before (.update merged)
  | delete {object read : ManagedObject} {violation : ImmutableField} (ho : object ∈ objects)
      (hread : JustRead start before object.identity (some read))
      (hm : registry.mutate read (object.attach owner?) = .error (.immutableField violation))
      (ha : .ofResult object.identity (recordOf object.identity .recreating
        ((start.afterCalls before).delete object.identity).1 fun _ => none) ∈ attempts) :
      SyncCall registry owner? objects start attempts before (.delete object.identity)

section Sync

variable {registry : Registry} {owner? : Option OwnerReference} {objects : List ManagedObject}
  {start : Memory} {attempts : List Attempt}

/-- The get of an object. -/
theorem get_accounts {object : ManagedObject} (ho : object ∈ objects) {s : SharedStore}
    (hs : s.start = start)
    (h : Accounts (SyncCall registry owner? objects start attempts) s.log) :
    let got := SharedStore.store.get object.identity s
    got.2.start = start ∧ Accounts (SyncCall registry owner? objects start attempts) got.2.log ∧
      ∀ found?, got.1 = .ok found? → ∀ since, OthersOnly since →
        JustRead start (got.2.log ++ since) object.identity found? := by
  obtain ⟨between, hbetween, hget, hstart, hlog⟩ :=
    SharedStore.call_run (.get object.identity) (fun m => m.get object.identity) s
  intro got
  refine ⟨hstart.trans hs, ?_, fun found? hfound since hsince => ?_⟩
  · show Accounts _ (SharedStore.call _ _ s).2.log
    rw [hlog]
    exact (h.others hbetween).concat fun _ => .get ho
  · refine ⟨s.log ++ between, since, ?_, hsince, ?_⟩
    · show (SharedStore.call _ _ s).2.log ++ since = _
      rw [hlog, List.append_assoc]
      rfl
    · rw [← hs]
      exact hget.symm.trans hfound

/-- A write that ends the attempt at an object. -/
theorem write_accounts {P : List SharedCall → StoreRequest → Prop} {α : Type}
    {id : ObjectIdentity} {outcome : SyncOutcome} {uid? : α → Option String}
    (request : StoreRequest) (answer : Memory → Except StoreError α) {s : SharedStore}
    (hs : s.start = start) (h : Accounts P s.log)
    (ha : .ofResult id (recordOf id outcome (SharedStore.call request answer s).1 uid?) ∈ attempts)
    (hp : ∀ since, OthersOnly since →
      .ofResult id (recordOf id outcome (answer (start.afterCalls (s.log ++ since))) uid?) ∈
        attempts → P (s.log ++ since) request) :
    let s' := (SharedStore.call request answer s).2
    s'.start = start ∧ Accounts P s'.log := by
  refine SharedStore.call_accounts request answer hs h fun since hsince hanswer =>
    hp since hsince ?_
  rw [← hanswer]
  exact ha

/-- **One object**: a get, and at most one write that it accounts for. -/
theorem syncObject_accounts {object : ManagedObject} (ho : object ∈ objects) {s : SharedStore}
    (hs : s.start = start)
    (h : Accounts (SyncCall registry owner? objects start attempts) s.log)
    (ha : .ofResult object.identity (syncObject SharedStore.store registry owner? object s).1 ∈
      attempts) :
    let s' := (syncObject SharedStore.store registry owner? object s).2
    s'.start = start ∧ Accounts (SyncCall registry owner? objects start attempts) s'.log := by
  obtain ⟨hstart, hlog, hread⟩ := get_accounts ho hs h
  have hrun := Engine.syncObject_run SharedStore.store registry owner? object s
  generalize (syncObject SharedStore.store registry owner? object s).1 = result at ha hrun
  generalize (syncObject SharedStore.store registry owner? object s).2 = after at hrun ⊢
  cases hrun with
  | unread hg | unmerged hg | unchanged hg =>
    rw [hg] at hstart hlog
    exact ⟨hstart, hlog⟩
  | create hg =>
    rw [hg] at hstart hlog hread
    exact write_accounts (.create (object.attach owner?))
      (fun m => (m.create (object.attach owner?)).1) hstart hlog ha
      fun since hsince ha' => .create ho (hread _ rfl since hsince) ha'
  | delete hg hm =>
    rw [hg] at hstart hlog hread
    exact write_accounts (.delete object.identity) (fun m => (m.delete object.identity).1)
      hstart hlog ha fun since hsince ha' => .delete ho (hread _ rfl since hsince) hm ha'
  | @update _ merged _ hg hm =>
    rw [hg] at hstart hlog hread
    exact write_accounts (.update merged) (fun m => (m.update merged).1) hstart hlog ha
      fun since hsince ha' => .update ho (hread _ rfl since hsince) hm ha'

/-- **All objects**: a sync makes no calls but those. -/
theorem Engine.attempts_accounts {e : Engine SharedStore} (he : e.store = SharedStore.store)
    {rest : List ManagedObject} (ho : ∀ o ∈ rest, o ∈ objects) {r : Run SharedStore}
    (hs : r.world.start = start)
    (h : Accounts (SyncCall e.registry owner? objects start attempts) r.world.log)
    (ha : ∀ a ∈ (e.attempts owner? rest r).1, a ∈ attempts) :
    Accounts (SyncCall e.registry owner? objects start attempts)
      (e.attempts owner? rest r).2.world.log := by
  induction rest generalizing r with
  | nil => exact h
  | cons object rest ih =>
    cases hc : e.cancelled r.world with
    | true =>
      rw [attempts_cancelled owner? hc]
      exact h
    | false =>
      rw [attempts_cons owner? hc] at ha ⊢
      obtain ⟨hattempt, hworld⟩ := attempt_run owner? e object r
      have hfirst := ha _ List.mem_cons_self
      rw [hattempt, he] at hfirst
      obtain ⟨hstart, hlog⟩ := syncObject_accounts (ho object List.mem_cons_self) hs h hfirst
      rw [he] at hworld
      refine ih (fun o hmem => ho o (List.mem_cons_of_mem _ hmem)) ?_ ?_
        fun a hmem => ha a (List.mem_cons_of_mem _ hmem)
      · rw [hworld]
        exact hstart
      · rw [hworld]
        exact hlog

/-- A sync that begins with an empty log. -/
theorem Engine.sync_accounts {e : Engine SharedStore} (he : e.store = SharedStore.store)
    (start : Memory) (others : List (List StoreRequest)) (r : Run SharedStore) (owner : Owner)
    (desired : List ManagedObject) :
    let r' : Run SharedStore := { r with world := ⟨start, [], others⟩ }
    Accounts (SyncCall e.registry owner.reference? desired start
      (e.attempts owner.reference? desired r').1) (e.sync owner desired r').2.world.log := by
  intro r'
  exact attempts_accounts he (fun _ ho => ho) (r := r') rfl .nil fun _ ha => ha

end Sync

/-! ## 3. Pruning -/

/-- The calls that pruning makes: a deletion goes back to the listing in which the object stood, and
between the two the engine left the object alone. -/
inductive PruneCall (scope : PruneScope) (kinds : List Kind) (start : Memory)
    (before : List SharedCall) : StoreRequest → Prop
  | list {kind : Kind} (hk : kind ∈ kinds) :
      PruneCall scope kinds start before
        (.list kind scope.owner.metadata.namespace? scope.owner.selector)
  | delete {kind : Kind} {seen : List SharedCall} {owned : List ManagedObject}
      {object : ManagedObject} (hk : kind ∈ kinds)
      (hlist : (start.afterCalls seen).list kind scope.owner.metadata.namespace?
        scope.owner.selector = .ok owned)
      (ho : object ∈ owned) (hcontrols : scope.owner.controls object = true)
      (hkeeps : scope.keeps object = false)
      (hu : UnwrittenSince seen (.list kind scope.owner.metadata.namespace? scope.owner.selector)
        [object.identity] before) :
      PruneCall scope kinds start before (.delete object.identity)

/-- Listed objects have identities of their own. -/
theorem Memory.nodup_identity_list {m : Memory} {kind : Kind} {ns? : Option String}
    {selector : LabelSelector} {owned : List ManagedObject}
    (h : m.list kind ns? selector = .ok owned) : (owned.map (·.identity)).Nodup := by
  rw [list_eq] at h
  cases hf : m.listFailure? kind with
  | some cause =>
    rw [hf] at h
    cases h
  | none =>
    rw [hf] at h
    obtain rfl := Except.ok.inj h
    have hkeys : ((m.objects.entries.filter (listed kind ns? selector)).map (·.2)).map
        (·.identity) = (m.objects.entries.filter (listed kind ns? selector)).map (·.1) := by
      rw [List.map_map]
      exact List.map_congr_left fun entry hentry =>
        m.keyed entry (List.mem_filter.1 hentry).1
    rw [hkeys]
    exact m.objects.ascending.nodup_keys.sublist (List.filter_sublist.map _)

section Prune

variable {scope : PruneScope} {kinds : List Kind} {start : Memory} {e : Engine SharedStore}

/-- **The objects of a listing**: those that go were listed, and are deleted once. -/
theorem Engine.pruneObjects_accounts (he : e.store = SharedStore.store) {kind : Kind}
    (hk : kind ∈ kinds) {seen : List SharedCall} {owned : List ManagedObject}
    (hlist : (start.afterCalls seen).list kind scope.owner.metadata.namespace?
      scope.owner.selector = .ok owned)
    {rest : List ManagedObject} (hrest : ∀ o ∈ rest, o ∈ owned)
    (hn : (rest.map (·.identity)).Nodup) {r : Run SharedStore} (hs : r.world.start = start)
    (hu : UnwrittenSince seen (.list kind scope.owner.metadata.namespace? scope.owner.selector)
      (rest.map (·.identity)) r.world.log)
    (h : Accounts (PruneCall scope kinds start) r.world.log) :
    (e.pruneObjects scope kind rest r).2.world.start = start ∧
      Accounts (PruneCall scope kinds start) (e.pruneObjects scope kind rest r).2.world.log := by
  induction rest generalizing r with
  | nil => exact ⟨hs, h⟩
  | cons object rest ih =>
    obtain ⟨hnot, hnodup⟩ := List.nodup_cons.1 hn
    have hothers : ∀ o ∈ rest, o ∈ owned := fun o ho => hrest o (List.mem_cons_of_mem _ ho)
    have hlater := hu.of_subset (List.subset_cons_self object.identity (rest.map (·.identity)))
    cases hcontrols : scope.owner.controls object with
    | false =>
      rw [e.pruneObjects_skip scope hcontrols]
      exact ih hothers hnodup hs hlater h
    | true =>
      cases hkeeps : scope.keeps object with
      | true =>
        rw [e.pruneObjects_keep scope hcontrols hkeeps]
        exact ih hothers hnodup hs hlater h
      | false =>
        cases hc : e.cancelled r.world with
        | true =>
          rw [e.pruneObjects_cancel scope hcontrols hkeeps hc]
          exact ⟨hs, h⟩
        | false =>
          obtain ⟨r', hworld, hrun⟩ := e.pruneObjects_delete scope rest hcontrols hkeeps hc
          rw [hrun]
          rw [he] at hworld
          obtain ⟨between, hbetween, -, hstart, hlog⟩ := SharedStore.call_run
            (.delete object.identity) (fun m => (m.delete object.identity).1) r.world
          rw [← show r'.world = (SharedStore.call _ _ r.world).2 from hworld] at hstart hlog
          have hdelete : PruneCall scope kinds start (r.world.log ++ between)
              (.delete object.identity) :=
            .delete hk hlist (hrest object List.mem_cons_self) hcontrols hkeeps
              ((hu.others hbetween).of_subset (List.cons_subset_cons _ (List.nil_subset _)))
          -- the object just deleted is not among those that are left
          have hleft : ∀ id ∈ rest.map (·.identity),
              (StoreRequest.delete object.identity).target? ≠ some id := by
            intro id hid heq
            obtain rfl := Option.some.inj heq
            exact hnot hid
          refine ih hothers hnodup (hstart.trans hs) ?_ ?_
          · rw [hlog]
            exact (hlater.others hbetween).concat hleft
          · rw [hlog]
            exact (h.others hbetween).concat fun _ => hdelete

/-- **All kinds**: pruning makes no calls but those. -/
theorem Engine.pruneKinds_accounts (he : e.store = SharedStore.store) {rest : List Kind}
    (hk : ∀ kind ∈ rest, kind ∈ kinds) {r : Run SharedStore} (hs : r.world.start = start)
    (h : Accounts (PruneCall scope kinds start) r.world.log) :
    Accounts (PruneCall scope kinds start) (e.pruneKinds scope rest r).2.world.log := by
  induction rest generalizing r with
  | nil => exact h
  | cons kind rest ih =>
    have hothers : ∀ k ∈ rest, k ∈ kinds := fun k hmem => hk k (List.mem_cons_of_mem _ hmem)
    obtain ⟨seen, hseen, hanswer, hstart, hlog⟩ := SharedStore.call_run
      (.list kind scope.owner.metadata.namespace? scope.owner.selector)
      (fun m => m.list kind scope.owner.metadata.namespace? scope.owner.selector) r.world
    have hworld : (e.afterList scope kind r).world = (SharedStore.store.list kind
        scope.owner.metadata.namespace? scope.owner.selector r.world).2 := by
      rw [← he]
      rfl
    have hafter : Accounts (PruneCall scope kinds start) (e.afterList scope kind r).world.log := by
      rw [hworld]
      show Accounts _ (SharedStore.call _ _ r.world).2.log
      rw [hlog]
      exact (h.others hseen).concat fun _ => .list (hk kind List.mem_cons_self)
    have hstart' : (e.afterList scope kind r).world.start = start := by
      rw [hworld]
      exact hstart.trans hs
    have hlist : (e.store.list kind scope.owner.metadata.namespace? scope.owner.selector
        r.world).1 = (start.afterCalls (r.world.log ++ seen)).list kind
          scope.owner.metadata.namespace? scope.owner.selector := by
      rw [he, ← hs]
      exact hanswer
    cases hl : (start.afterCalls (r.world.log ++ seen)).list kind
        scope.owner.metadata.namespace? scope.owner.selector with
    | error cause =>
      rw [e.pruneKinds_failed scope (hlist.trans hl)]
      exact ih hothers hstart' hafter
    | ok owned =>
      obtain ⟨hstart'', hpruned⟩ := pruneObjects_accounts he (hk kind List.mem_cons_self) hl
        (fun _ ho => ho) (Memory.nodup_identity_list hl) hstart'
        ⟨[], by rw [hworld]; exact hlog, fun _ hmem => absurd hmem List.not_mem_nil⟩ hafter
      rw [e.pruneKinds_listed scope (hlist.trans hl)]
      dsimp only
      split
      · exact hpruned
      · exact ih hothers hstart'' hpruned

/-- Pruning that begins with an empty log. -/
theorem Engine.prune_accounts (he : e.store = SharedStore.store) (start : Memory)
    (others : List (List StoreRequest)) (r : Run SharedStore) (owner : Owner)
    (desired : List ManagedObject) (kinds : List Kind) (keep : List String) :
    Accounts (PruneCall ⟨owner, desired.map (·.identity), keep⟩ kinds start)
      (e.prune owner desired kinds keep
        { r with world := ⟨start, [], others⟩ }).2.world.log :=
  pruneKinds_accounts he (fun _ hk => hk) (r := { r with world := ⟨start, [], others⟩ }) rfl .nil

end Prune

end Reconciliation
