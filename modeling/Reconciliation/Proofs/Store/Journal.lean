import Mathlib.Data.Finset.Basic
import Reconciliation.Proofs.Store.Memory
import Reconciliation.Store.Request

/-!
# The journal as a replay log

What a pass did to the store in memory is judged by the journal, so the journal has to agree with
the table: whoever starts from the identities that a store held and follows its journal arrives at
the identities that it holds.

* `StoreWrite.replay`, `replayAll` -- what a journal entry says about a set of identities; an entry
  that cannot have happened there has no meaning;
* `StoreRequest.write?`, `Memory.writes` -- the entries that calls are to leave in the journal;
* `Memory.Notes` and `Memory.notes_apply` -- one call: nothing changed, or there is one more entry
  and replaying it is what happened to the table;
* `Memory.replayAll_writes` -- a run of calls; `Memory.Leaves` -- what one of them leaves behind;
* **`Memory.journal_replays`** -- the journal is a replay log, and failures, reads and deletions of
  nothing change nothing.
-/

namespace Reconciliation

/-! ## 1. Following a journal -/

/-- The identities that are present after a write, if it can have taken place: an absent object is
created, a present one is updated or deleted. Reads are no writes. -/
def StoreWrite.replay (ids : Finset ObjectIdentity) (w : StoreWrite) :
    Option (Finset ObjectIdentity) :=
  match w.operation with
  | .create => if w.identity ∈ ids then none else some (insert w.identity ids)
  | .update => if w.identity ∈ ids then some ids else none
  | .delete => if w.identity ∈ ids then some (ids.erase w.identity) else none
  | .get | .list => none

/-- The identities that are present after writes, one after another. -/
def replayAll (ids : Finset ObjectIdentity) : List StoreWrite → Option (Finset ObjectIdentity)
  | [] => some ids
  | w :: rest => (w.replay ids).bind (replayAll · rest)

section Replay

variable {ids : Finset ObjectIdentity} {id : ObjectIdentity}

theorem replay_create (h : id ∉ ids) :
    (⟨.create, id⟩ : StoreWrite).replay ids = some (insert id ids) := if_neg h

theorem replay_update (h : id ∈ ids) : (⟨.update, id⟩ : StoreWrite).replay ids = some ids :=
  if_pos h

theorem replay_delete (h : id ∈ ids) :
    (⟨.delete, id⟩ : StoreWrite).replay ids = some (ids.erase id) := if_pos h

end Replay

/-! ## 2. What calls are to note -/

/-- The identities in the table of a store. -/
def Memory.identities (m : Memory) : Finset ObjectIdentity := m.objects.keys.toFinset

namespace StoreRequest

/-- The write that a call is to note: it created or updated its object, or deleted one that was
there. -/
def write? (m : Memory) : StoreRequest → Option StoreWrite
  | create o => if (m.create o).1.isOk then some ⟨.create, o.identity⟩ else none
  | update o => if (m.update o).1.isOk then some ⟨.update, o.identity⟩ else none
  | delete id =>
    if (m.delete id).1.isOk && m.objects.contains id then some ⟨.delete, id⟩ else none
  | _ => none

/-- Whether the call answers an error. -/
def Fails (m : Memory) : StoreRequest → Prop
  | get id => ∃ e, m.get id = .error e
  | create o => ∃ e, (m.create o).1 = .error e
  | update o => ∃ e, (m.update o).1 = .error e
  | delete id => ∃ e, (m.delete id).1 = .error e
  | list kind namespace? selector => ∃ e, m.list kind namespace? selector = .error e
  | _ => False

/-- Seeding the store is not noted, and taking the journal empties it. Every call of a client is
noted, and injecting failures or letting time pass does not disturb the journal. -/
def IsNoted : StoreRequest → Prop
  | insert _ | takeJournal => False
  | _ => True

end StoreRequest

namespace Memory

/-- The writes that calls are to note, in order. -/
def writes (m : Memory) : List StoreRequest → List StoreWrite
  | [] => []
  | request :: rest => (request.write? m).toList ++ (request.apply m).writes rest

/-! ## 3. The identities of a store -/

theorem mem_identities {m : Memory} {id : ObjectIdentity} :
    id ∈ m.identities ↔ m.objects.contains id = true := by
  unfold identities
  rw [List.mem_toFinset, Dict.mem_keys]

theorem notMem_identities {m : Memory} {id : ObjectIdentity} (h : m.objects.get? id = none) :
    id ∉ m.identities := by
  rw [mem_identities, Dict.contains, h]
  exact Bool.false_ne_true

theorem identities_created (m : Memory) (o : ManagedObject) :
    (m.created o).identities = Insert.insert o.identity m.identities := by
  ext id
  have hget : (m.created o).objects.get? id = (m.objects.insert o.identity (m.stamp o)).get? id :=
    rfl
  rw [Finset.mem_insert, mem_identities, mem_identities, Dict.contains, hget, Dict.get?_insert,
    Dict.contains]
  by_cases hid : id = o.identity
  · simp [hid]
  · simp [hid]

/-- An update puts its object where one was. -/
theorem identities_updated {m : Memory} {stored o : ManagedObject}
    (h : m.objects.get? o.identity = some stored) :
    (m.updated stored o).identities = m.identities := by
  ext id
  have hget : (m.updated stored o).objects.get? id =
      (m.objects.insert o.identity (m.restamp stored o)).get? id := rfl
  rw [mem_identities, mem_identities, Dict.contains, hget, Dict.get?_insert, Dict.contains]
  by_cases hid : id = o.identity
  · simp [hid, h]
  · simp [hid]

theorem identities_deleted (m : Memory) (id : ObjectIdentity) :
    (m.deleted id).identities = m.identities.erase id := by
  ext other
  have hget : (m.deleted id).objects.get? other = (m.objects.erase id).get? other := rfl
  rw [Finset.mem_erase, mem_identities, mem_identities, Dict.contains, hget, Dict.get?_erase,
    Dict.contains]
  by_cases hid : other = id
  · simp [hid]
  · simp [hid]

/-! ## 4. One call -/

/-- Between two states nothing was noted and the table names what it named, or one write was noted
and replaying it is what happened to the table. -/
structure Notes (m : Memory) (w? : Option StoreWrite) (m' : Memory) : Prop where
  journal : m'.journal = m.journal ++ w?.toList
  identities : replayAll m.identities w?.toList = some m'.identities

namespace Notes

variable {m m' : Memory}

/-- A call that changes neither the journal nor the objects. -/
theorem nothing (hj : m'.journal = m.journal) (ho : m'.objects = m.objects) :
    Notes m none m' := by
  refine ⟨by rw [hj]; exact (List.append_nil _).symm, ?_⟩
  unfold Memory.identities
  rw [ho]
  rfl

theorem write {w : StoreWrite} (hj : m'.journal = m.journal ++ [w])
    (hi : w.replay m.identities = some m'.identities) : Notes m (some w) m' := by
  refine ⟨hj, ?_⟩
  show (w.replay m.identities).bind some = _
  rw [hi]
  rfl

end Notes

/-- **A call that is noted leaves its entry in the journal**, and the entry says what became of the
table. -/
theorem notes_apply (m : Memory) {request : StoreRequest} (h : request.IsNoted) :
    Notes m (request.write? m) (request.apply m) := by
  cases request with
  | insert o => exact h.elim
  | takeJournal => exact h.elim
  | create o =>
    rw [StoreRequest.write?, StoreRequest.apply_create]
    rcases m.create_cases o with ⟨e, he⟩ | ⟨hnone, he⟩
    · rw [he]
      exact .nothing rfl rfl
    · rw [he]
      exact .write rfl ((replay_create (notMem_identities hnone)).trans
        (congrArg some (m.identities_created o).symm))
  | update o =>
    rw [StoreRequest.write?, StoreRequest.apply_update]
    rcases m.update_cases o with ⟨e, he⟩ | ⟨stored, hstored, he⟩
    · rw [he]
      exact .nothing rfl rfl
    · have hpresent : o.identity ∈ m.identities := by
        rw [mem_identities, Dict.contains, hstored]
        rfl
      rw [he]
      exact .write rfl ((replay_update hpresent).trans
        (congrArg some (identities_updated hstored).symm))
  | delete id =>
    rw [StoreRequest.write?, StoreRequest.apply_delete]
    rcases m.delete_cases id with ⟨e, -, he⟩ | ⟨-, ⟨hnone, he⟩ | ⟨hsome, he⟩⟩
    · rw [he]
      exact .nothing rfl rfl
    · rw [he, Dict.contains, hnone]
      exact .nothing rfl rfl
    · rw [he, Dict.contains, hsome]
      exact .write rfl ((replay_delete (mem_identities.2 hsome)).trans
        (congrArg some (m.identities_deleted id).symm))
  | _ => exact .nothing rfl rfl

/-- A call that answers an error leaves the store as it was. -/
theorem apply_of_fails {m : Memory} {request : StoreRequest} (h : request.Fails m) :
    request.apply m = m := by
  cases request with
  | create o =>
    obtain ⟨e, hfail⟩ := h
    rcases m.create_cases o with ⟨e', he⟩ | ⟨-, he⟩
    · exact congrArg Prod.snd he
    · rw [he] at hfail
      cases hfail
  | update o =>
    obtain ⟨e, hfail⟩ := h
    rcases m.update_cases o with ⟨e', he⟩ | ⟨stored, -, he⟩
    · exact congrArg Prod.snd he
    · rw [he] at hfail
      cases hfail
  | delete id =>
    obtain ⟨e, hfail⟩ := h
    rcases m.delete_cases id with ⟨e', -, he⟩ | ⟨-, ⟨-, he⟩ | ⟨-, he⟩⟩
    · exact congrArg Prod.snd he
    · exact congrArg Prod.snd he
    · rw [he] at hfail
      cases hfail
  | get id => rfl
  | list kind namespace? selector => rfl
  | _ => exact h.elim

/-- So does deleting an object that is not there. -/
theorem delete_of_notMem {m : Memory} {id : ObjectIdentity} (h : id ∉ m.identities) :
    (m.delete id).2 = m := by
  rcases m.delete_cases id with ⟨e, -, he⟩ | ⟨-, ⟨-, he⟩ | ⟨hsome, -⟩⟩
  · exact congrArg Prod.snd he
  · exact congrArg Prod.snd he
  · exact absurd (mem_identities.2 hsome) h

/-! ## 5. Runs -/

theorem replayAll_append (ids : Finset ObjectIdentity) (front back : List StoreWrite) :
    replayAll ids (front ++ back) = (replayAll ids front).bind (replayAll · back) := by
  induction front generalizing ids with
  | nil => rfl
  | cons w rest ih =>
    simp only [List.cons_append, replayAll]
    cases w.replay ids with
    | none => rfl
    | some ids' => exact ih ids'

theorem journal_after {m : Memory} {requests : List StoreRequest}
    (h : ∀ request ∈ requests, request.IsNoted) :
    (m.after requests).journal = m.journal ++ m.writes requests := by
  induction requests generalizing m with
  | nil => exact (List.append_nil _).symm
  | cons request rest ih =>
    obtain ⟨hfirst, hrest⟩ := List.forall_mem_cons.1 h
    rw [after_cons, ih hrest, (m.notes_apply hfirst).journal, List.append_assoc, writes]

/-- **Following the writes of calls leads from the identities before them to those after them.** -/
theorem replayAll_writes {m : Memory} {requests : List StoreRequest}
    (h : ∀ request ∈ requests, request.IsNoted) :
    replayAll m.identities (m.writes requests) = some (m.after requests).identities := by
  induction requests generalizing m with
  | nil => rfl
  | cons request rest ih =>
    obtain ⟨hfirst, hrest⟩ := List.forall_mem_cons.1 h
    rw [writes, replayAll_append, (m.notes_apply hfirst).identities, Option.bind_some, ih hrest,
      after_cons]

/-- What a call leaves behind: a write that took place is one entry more, which names its object,
and any other call changes nothing. -/
structure Leaves (m : Memory) (request : StoreRequest) (m' : Memory) : Prop where
  created : ∀ o stored, request = .create o → (m.create o).1 = .ok stored →
    m'.journal = m.journal ++ [⟨.create, o.identity⟩]
  updated : ∀ o stored, request = .update o → (m.update o).1 = .ok stored →
    m'.journal = m.journal ++ [⟨.update, o.identity⟩]
  deleted : ∀ id, request = .delete id → id ∈ m.identities → (m.delete id).1 = .ok () →
    m'.journal = m.journal ++ [⟨.delete, id⟩]
  failed : request.Fails m → m' = m
  got : ∀ id, request = .get id → m' = m
  listed : ∀ kind namespace? selector, request = .list kind namespace? selector → m' = m
  absent : ∀ id, request = .delete id → id ∉ m.identities → m' = m

theorem leaves_apply (m : Memory) {request : StoreRequest} (h : request.IsNoted) :
    Leaves m request (request.apply m) := by
  have hjournal := (m.notes_apply h).journal
  constructor
  case created =>
    rintro o stored rfl hok
    rw [hjournal, StoreRequest.write?, hok]
    rfl
  case updated =>
    rintro o stored rfl hok
    rw [hjournal, StoreRequest.write?, hok]
    rfl
  case deleted =>
    rintro id rfl hpresent hok
    rw [hjournal, StoreRequest.write?, hok, mem_identities.1 hpresent]
    rfl
  case failed => exact apply_of_fails
  case got =>
    rintro id rfl
    rfl
  case listed =>
    rintro kind namespace? selector rfl
    rfl
  case absent =>
    rintro id rfl habsent
    exact delete_of_notMem habsent

/-- **The journal is a replay log, and failures change nothing**, from every state of the store:
what calls append to the journal leads from the identities before them to those after them; a
create or update that succeeds and a deletion of something that is there appends one entry, which
names it; and a call that answers an error, a get, a list and a deletion of nothing leave the store
as it was. -/
theorem journal_replays (m : Memory) (requests : List StoreRequest)
    (h : ∀ request ∈ requests, request.IsNoted) :
    (∃ entries, (m.after requests).journal = m.journal ++ entries ∧
        replayAll m.identities entries = some (m.after requests).identities) ∧
      ∀ before request since, requests = before ++ request :: since →
        Leaves (m.after before) request (m.after (before ++ [request])) := by
  refine ⟨⟨_, journal_after h, replayAll_writes h⟩, fun before request since hsplit => ?_⟩
  have hnoted : request.IsNoted := h request (by rw [hsplit]; simp)
  rw [after_append]
  exact leaves_apply _ hnoted

/-- A configuration map without a name. -/
def nameless : ManagedObject :=
  .configMap { metadata := .empty, data := none, binaryData := none, immutable := none }

/-- It is created, an update of it fails, a second creation meets it, it is updated, and of two
deletions the second meets nothing. -/
def nameless.calls : List StoreRequest :=
  [.create nameless, .failOn .update nameless.identity "down", .update nameless, .create nameless,
    .clearFailures, .update nameless, .delete nameless.identity, .delete nameless.identity]

/-- Of those calls three are in the journal, which starts and ends at no identities. -/
theorem journal_replays_nameless :
    (∀ request ∈ nameless.calls, request.IsNoted) ∧
      ((empty ⟨0, 0⟩).after nameless.calls).journal =
        [⟨.create, nameless.identity⟩, ⟨.update, nameless.identity⟩,
          ⟨.delete, nameless.identity⟩] ∧
      replayAll ∅ ((empty ⟨0, 0⟩).after nameless.calls).journal = some ∅ ∧
      ((empty ⟨0, 0⟩).after (nameless.calls.take 3)).journal =
        ((empty ⟨0, 0⟩).after (nameless.calls.take 2)).journal := by
  have hnoted : ∀ request ∈ nameless.calls, request.IsNoted := by
    simp [nameless.calls, StoreRequest.IsNoted]
  obtain ⟨⟨entries, hjournal, hreplay⟩, hleaves⟩ := journal_replays (empty ⟨0, 0⟩) _ hnoted
  have hentries : entries = ((empty ⟨0, 0⟩).after nameless.calls).journal := hjournal.symm
  have hfailed := (hleaves (nameless.calls.take 2) (.update nameless) _ rfl).failed ⟨_, rfl⟩
  rw [hentries] at hreplay
  exact ⟨hnoted, by rfl, hreplay, congrArg journal hfailed⟩

end Memory

end Reconciliation
