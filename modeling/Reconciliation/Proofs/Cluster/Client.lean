import Reconciliation.Proofs.Cluster.Server

/-!
# Calls of a client

A client calls a store and sees what comes back. Here is what it may ask of a store behind a server
(`ClientCall.IsSendable`), what a server may hold (`Memory.IsServed`), and what an exchange between
the two comes to.

* `ClientCall`, `ClientAnswer` -- calls with their payload, and what they return;
* `ClientAnswer.Agrees` -- answers are the same up to the order of listings and the wording of
  errors;
* `Memory.IsServed.created`, `updated`, `deleted` -- a write leaves a table that can be served;
* **`ApiServer.exists_get`** to `ApiServer.exists_list` -- the request of a call can be written
  down, and the server takes it for what it is;
* `ApiServer.get_found`, `ApiServer.write_refused`, `ApiServer.write_done` -- what the store makes
  of the answer.
-/

namespace Reconciliation

/-! ## 1. Calls and answers -/

/-- A call to a store with its payload. -/
inductive ClientCall where
  | get (id : ObjectIdentity)
  | create (o : ManagedObject)
  | update (o : ManagedObject)
  | delete (id : ObjectIdentity)
  | list (kind : Kind) (namespace? : Option String) (selector : LabelSelector)

/-- What a call returns. -/
inductive ClientAnswer where
  | found (o? : Option ManagedObject)
  | written (o : ManagedObject)
  | deleted
  | listed (objects : List ManagedObject)
  | failed (e : StoreError)

/-- The answer that a result makes. -/
def ClientAnswer.of (answer : α → ClientAnswer) : Except StoreError α → ClientAnswer
  | .ok a => answer a
  | .error e => .failed e

/-- Makes the call. -/
def ClientCall.run (store : ObjectStore σ) : ClientCall → StateM σ ClientAnswer
  | get id => ClientAnswer.of .found <$> store.get id
  | create o => ClientAnswer.of .written <$> store.create o
  | update o => ClientAnswer.of .written <$> store.update o
  | delete id => ClientAnswer.of (fun _ => .deleted) <$> store.delete id
  | list kind namespace? selector =>
    ClientAnswer.of .listed <$> store.list kind namespace? selector

section

variable (store : ObjectStore σ) (w : σ)

theorem ClientCall.run_get (id : ObjectIdentity) :
    (get id).run store w = (.of .found (store.get id w).1, (store.get id w).2) := rfl

theorem ClientCall.run_create (o : ManagedObject) :
    (create o).run store w = (.of .written (store.create o w).1, (store.create o w).2) := rfl

theorem ClientCall.run_update (o : ManagedObject) :
    (update o).run store w = (.of .written (store.update o w).1, (store.update o w).2) := rfl

theorem ClientCall.run_delete (id : ObjectIdentity) : (delete id).run store w =
    (.of (fun _ => .deleted) (store.delete id w).1, (store.delete id w).2) := rfl

theorem ClientCall.run_list (kind : Kind) (namespace? : Option String) (selector : LabelSelector) :
    (list kind namespace? selector).run store w =
      (.of .listed (store.list kind namespace? selector w).1,
        (store.list kind namespace? selector w).2) := rfl

end

/-- The errors report the same thing, perhaps in other words. -/
inductive StoreError.SameVariant : StoreError → StoreError → Prop where
  | alreadyExists (id : ObjectIdentity) : SameVariant (.alreadyExists id) (.alreadyExists id)
  | notFound (id : ObjectIdentity) : SameVariant (.notFound id) (.notFound id)
  | conflict (id : ObjectIdentity) (m m' : String) : SameVariant (.conflict id m) (.conflict id m')

/-- The answers are the same, up to the order of listings and the wording of errors. -/
inductive ClientAnswer.Agrees : ClientAnswer → ClientAnswer → Prop where
  | found (o? : Option ManagedObject) : Agrees (.found o?) (.found o?)
  | written (o : ManagedObject) : Agrees (.written o) (.written o)
  | deleted : Agrees .deleted .deleted
  | listed {objects objects' : List ManagedObject} (h : objects.Perm objects') :
    Agrees (.listed objects) (.listed objects')
  | failed {e e' : StoreError} (h : e.SameVariant e') : Agrees (.failed e) (.failed e')

/-- A cluster answers the call as the store in memory does. -/
def ClientCall.Agrees (c : Cluster Memory) (m : Memory) (call : ClientCall) : Prop :=
  (call.run c.store m).1.Agrees (call.run Memory.store m).1

/-! ## 2. Where the stores agree -/

/-- The call can be sent: its objects survive the way, what its path names has an address, and
neither addresses nor the name of the field manager are too long. -/
def ClientCall.IsSendable (c : Cluster σ) : ClientCall → Prop
  | get id => id.IsAddressable ∧ id.path.utf8ByteSize ≤ 65534
  | create o => o.IsPortable ∧ o.identity.IsPlaced ∧ c.fieldManager.utf8ByteSize ≤ 128 ∧
      (Cluster.address (ResourcePath.ofKind o.identity.kind o.identity.namespace?)
        c.managed).utf8ByteSize ≤ 65534
  | update o => o.IsPortable ∧ o.identity.IsAddressable ∧
      (Cluster.address o.identity.path c.managed).utf8ByteSize ≤ 65534
  | delete id => id.IsAddressable ∧ (Cluster.address id.path []).utf8ByteSize ≤ 65534
  | list kind namespace? selector =>
      (kind.isNamespaced = true → ∀ ns ∈ namespace?, IsSegment ns) ∧ selector.IsPlain ∧
        (Cluster.address (ResourcePath.ofKind kind namespace?)
          [("labelSelector", selector.toQuery)]).utf8ByteSize ≤ 65534

/-- A table that a server can hold: no failures are injected, the clock shows whole seconds, and all
objects survive the way to a client and have a namespace just if their kind asks for one. -/
structure Memory.IsServed (m : Memory) : Prop where
  failures : m.failures = []
  listFailures : m.listFailures = []
  clock : m.clock.IsWhole
  portable : ∀ e ∈ m.objects.entries, e.2.IsPortable
  placed : ∀ e ∈ m.objects.entries, e.1.namespace?.isSome = e.1.kind.isNamespaced

namespace Memory.IsServed

variable {m : Memory} (h : m.IsServed)

include h

theorem failure?_eq (op : Operation) (id : ObjectIdentity) : m.failure? op id = none := by
  rw [Memory.failure?, h.failures]
  rfl

theorem portable_of_get {id : ObjectIdentity} {o : ManagedObject}
    (ho : m.objects.get? id = some o) : o.IsPortable :=
  h.portable _ (Entries.mem_of_lookup ho)

theorem portable_stamp {o : ManagedObject} (ho : o.IsPortable) : (m.stamp o).IsPortable :=
  ho.withMetadata ⟨fun _ ht => Option.some.inj ht ▸ h.clock, ho.whole.metadata.2⟩

omit h in
theorem portable_restamp {stored o : ManagedObject} (hs : stored.IsPortable) (ho : o.IsPortable) :
    (m.restamp stored o).IsPortable :=
  ho.withMetadata ⟨hs.whole.metadata.1, ho.whole.metadata.2⟩

/-- Writing a portable object that has its place keeps the table fit. -/
theorem of_insert {m' : Memory} {o : ManagedObject} (ho : o.IsPortable)
    (hplaced : o.identity.namespace?.isSome = o.identity.kind.isNamespaced)
    (hfailures : m'.failures = m.failures) (hlist : m'.listFailures = m.listFailures)
    (hclock : m'.clock = m.clock) (hobjects : m'.objects = m.objects.insert o.identity o) :
    m'.IsServed := by
  refine ⟨hfailures.trans h.failures, hlist.trans h.listFailures, hclock ▸ h.clock,
    fun e he => ?_, fun e he => ?_⟩
  · rw [hobjects] at he
    rcases Entries.mem_insert he with rfl | he
    · exact ho
    · exact h.portable e he
  · rw [hobjects] at he
    rcases Entries.mem_insert he with rfl | he
    · exact hplaced
    · exact h.placed e he

theorem created {o : ManagedObject} (ho : o.IsPortable)
    (hplaced : o.identity.namespace?.isSome = o.identity.kind.isNamespaced) :
    (m.created o).IsServed :=
  h.of_insert (o := m.stamp o) (h.portable_stamp ho) (by simpa using hplaced) rfl rfl rfl
    (by rw [identity_stamp]; rfl)

theorem updated {stored o : ManagedObject} (hs : stored.IsPortable) (ho : o.IsPortable)
    (hplaced : o.identity.namespace?.isSome = o.identity.kind.isNamespaced) :
    (m.updated stored o).IsServed :=
  h.of_insert (o := m.restamp stored o) (portable_restamp hs ho) (by simpa using hplaced)
    rfl rfl rfl (by rw [identity_restamp]; rfl)

theorem deleted (id : ObjectIdentity) : (m.deleted id).IsServed :=
  ⟨h.failures, h.listFailures, h.clock, fun e he => h.portable e (List.mem_filter.1 he).1,
    fun e he => h.placed e (List.mem_filter.1 he).1⟩

theorem create_cases (o : ManagedObject) :
    m.objects.contains o.identity = true ∧
        m.create o = (.error (.alreadyExists o.identity), m) ∨
      m.objects.contains o.identity = false ∧ m.create o = (.ok (m.stamp o), m.created o) := by
  unfold Memory.create
  rw [h.failure?_eq]
  cases hc : m.objects.contains o.identity with
  | true => exact .inl ⟨rfl, rfl⟩
  | false => exact .inr ⟨rfl, rfl⟩

theorem update_cases (o : ManagedObject) :
    m.objects.get? o.identity = none ∧ m.update o = (.error (.notFound o.identity), m) ∨
      ∃ stored, m.objects.get? o.identity = some stored ∧
        ((∃ v message, staleVersion? stored o = some v ∧
            m.update o = (.error (.conflict o.identity message), m)) ∨
          staleVersion? stored o = none ∧
            m.update o = (.ok (m.restamp stored o), m.updated stored o)) := by
  unfold Memory.update
  rw [h.failure?_eq]
  cases m.objects.get? o.identity with
  | none => exact .inl ⟨rfl, rfl⟩
  | some stored =>
    dsimp only
    cases hv : staleVersion? stored o with
    | some v => exact .inr ⟨stored, rfl, .inl ⟨v, _, hv, rfl⟩⟩
    | none => exact .inr ⟨stored, rfl, .inr ⟨hv, rfl⟩⟩

omit h in
/-- An object is in the part of a collection that a path names just if a listing in that namespace
looks at it. -/
theorem all_eq_inNamespace {id : ObjectIdentity}
    (hplaced : id.namespace?.isSome = id.kind.isNamespaced) (namespace? : Option String) :
    (if id.kind.isNamespaced then namespace? else none).all (fun ns => id.namespace? == some ns) =
      inNamespace namespace? id := by
  obtain ⟨kind, scope?, name⟩ := id
  rw [← hplaced]
  cases namespace? with
  | none => cases scope? <;> rfl
  | some ns =>
    cases scope? with
    | none => rfl
    | some objectNs =>
      show (some objectNs == some ns) = (ns == objectNs)
      rw [Option.some_beq_some]
      exact BEq.comm

end Memory.IsServed

/-! ## 3. Requests arrive -/

namespace ApiServer

variable (s : ApiServer) (m : Memory)

theorem received?_eq {o : ManagedObject} {fields : List (String × Json)} (h : o.Wire fields)
    (type : String) : received? o.kind (some ⟨type, .obj fields⟩) = some o := by
  show (RawJson.ofText? (Json.compact (.obj fields))).bind _ = _
  rw [Json.ofText?_compact (h.legible.mono (by omega))]
  exact h.received

theorem exists_get {id : ObjectIdentity} (hid : id.IsAddressable)
    (hsize : id.path.utf8ByteSize ≤ 65534) :
    ∃ r, Cluster.getRequest id = some r ∧ s.serve r m = get (s.refuse r m) m id := by
  refine ⟨_, Cluster.getRequest_eq hid.named hid.isPath_path hsize, ?_⟩
  unfold serve
  rw [hid.ofPath?_path]

theorem exists_delete {id : ObjectIdentity} (hid : id.IsAddressable)
    (hsize : (Cluster.address id.path []).utf8ByteSize ≤ 65534) :
    ∃ r, Cluster.deleteRequest id = some r ∧ s.serve r m = s.delete (s.refuse r m) m id := by
  refine ⟨_, Cluster.deleteRequest_eq hid hsize, ?_⟩
  unfold serve
  rw [hid.ofPath?_path]

section

variable (c : Cluster σ) {o : ManagedObject} {fields : List (String × Json)} (h : o.Wire fields)

include h

theorem exists_create (hid : o.identity.IsPlaced) (hmanager : c.fieldManager.utf8ByteSize ≤ 128)
    (hsize : (Cluster.address (ResourcePath.ofKind o.identity.kind o.identity.namespace?)
      c.managed).utf8ByteSize ≤ 65534) :
    ∃ r, c.createRequest o.identity (.obj fields) = some r ∧
      s.serve r m = create (s.refuse r m) m o.kind o.identity.namespace? (some o) := by
  refine ⟨_, Cluster.createRequest_eq _ (fun _ => hid.scope) hmanager hsize, ?_⟩
  unfold serve
  rw [ResourcePath.ofPath?_ofKind fun _ => hid.scope, hid.namespace_eq]
  exact congrArg (create _ m o.kind o.identity.namespace?) (received?_eq h _)

theorem exists_update (hid : o.identity.IsAddressable)
    (hsize : (Cluster.address o.identity.path c.managed).utf8ByteSize ≤ 65534) :
    ∃ r, c.updateRequest o.identity (.obj fields) = some r ∧
      s.serve r m = update (s.refuse r m) m o.identity (some o) := by
  refine ⟨_, Cluster.updateRequest_eq hid _ hsize, ?_⟩
  unfold serve
  rw [hid.ofPath?_path]
  exact congrArg (update _ m o.identity) (received?_eq h _)

end

theorem exists_list {kind : Kind} {namespace? : Option String} {selector : LabelSelector}
    (hscope : kind.isNamespaced = true → ∀ ns ∈ namespace?, IsSegment ns)
    (hplain : selector.IsPlain)
    (hsize : (Cluster.address (ResourcePath.ofKind kind namespace?)
      [("labelSelector", selector.toQuery)]).utf8ByteSize ≤ 65534) :
    ∃ r, Cluster.listRequest kind namespace? selector = some r ∧
      s.serve r m = (s.listing kind m.version (selected m kind
        (if kind.isNamespaced then namespace? else none) selector.required.entries), m) := by
  refine ⟨_, Cluster.listRequest_eq hscope hsize, ?_⟩
  unfold serve
  rw [ResourcePath.ofPath?_ofKind hscope]
  dsimp only
  rw [RequestTarget.parameters_encode]
  exact list_eq _ _ s (LabelSelector.ofQuery?_toQuery hplain)

/-! ## 4. Exchanges -/

variable {s m} {fieldManager : String}

section

variable {id id' : ObjectIdentity} {r : HttpRequest}
  (hrequest : Cluster.getRequest id = some r) (hserve : s.serve r m = get (s.refuse r m) m id')

include hrequest hserve

/-- What is missing where the request looks for it is missing. -/
theorem get_missing (ho : m.objects.get? id' = none) :
    (s.cluster fieldManager).store.get id m = (.ok none, m) := by
  have hanswer : (s.cluster fieldManager).transport r m = get (s.refuse r m) m id' := hserve
  show (s.cluster fieldManager).get id m = _
  unfold Cluster.get
  rw [run_bind, hrequest, Cluster.send_eq, hanswer, get, ho]
  dsimp only [refuse]
  rw [Cluster.reading_refusal (by omega) (by omega)]
  rfl

/-- What is there but cannot be read is an error. -/
theorem get_unusable {o : ManagedObject} (ho : m.objects.get? id' = some o)
    (hu : Cluster.reading UntypedObject.decode? (object 200 o) = .error .unusable) :
    (s.cluster fieldManager).store.get id m = (.error (.api none), m) := by
  have hanswer : (s.cluster fieldManager).transport r m = get (s.refuse r m) m id' := hserve
  show (s.cluster fieldManager).get id m = _
  unfold Cluster.get
  rw [run_bind, hrequest, Cluster.send_eq, hanswer, get, ho]
  dsimp only
  rw [hu]
  rfl

/-- What is there is read as the kind that was asked for. -/
theorem get_found {o : ManagedObject} {u : UntypedObject} (ho : m.objects.get? id' = some o)
    (hu : Cluster.reading UntypedObject.decode? (object 200 o) = .ok u) :
    (s.cluster fieldManager).store.get id m = ((Cluster.typed id.kind u).map some, m) := by
  have hanswer : (s.cluster fieldManager).transport r m = get (s.refuse r m) m id' := hserve
  show (s.cluster fieldManager).get id m = _
  unfold Cluster.get
  rw [run_bind, hrequest, Cluster.send_eq, hanswer, get, ho]
  dsimp only
  rw [hu]
  rfl

end

/-- What a refusal of a write comes to. -/
theorem write_refused {c : Cluster Memory} {o : ManagedObject} {fields : List (String × Json)}
    (h : o.Wire fields) {request : Json → Option HttpRequest} {r : HttpRequest}
    (hrequest : request (.obj fields) = some r) {code : Nat} {reason message : String}
    (hlow : 400 ≤ code) (hhigh : code < 600)
    (hanswer : c.transport r m = (refusal code reason message, m))
    {refused : Refusal → Option StoreError} {e : StoreError}
    (he : refused ⟨"Failure", message, reason, code⟩ = some e) :
    c.write o request refused m = (.error e, m) := by
  unfold Cluster.write
  rw [h.sent]
  show (c.send (request (.obj fields)) UntypedObject.decode? >>= _ : StateM Memory _) m = _
  rw [run_bind, hrequest, Cluster.send_eq, hanswer, Cluster.reading_refusal hlow hhigh]
  show (Except.error ((refused ⟨"Failure", message, reason, code⟩).getD _), m) = _
  rw [he]
  rfl

/-- What an answer with the written object comes to. -/
theorem write_done {c : Cluster Memory} {o : ManagedObject} {fields : List (String × Json)}
    (h : o.Wire fields) {request : Json → Option HttpRequest} {r : HttpRequest}
    (hrequest : request (.obj fields) = some r) {code : Nat} (hcode : code < 400)
    {written : ManagedObject} {m' : Memory} (hkind : written.kind = o.kind)
    (hw : written.IsPortable) (hanswer : c.transport r m = (object code written, m'))
    (refused : Refusal → Option StoreError) :
    c.write o request refused m = (.ok written, m') := by
  obtain ⟨u, hu, htyped⟩ := Cluster.reading_object hcode hw
  unfold Cluster.write
  rw [h.sent]
  show (c.send (request (.obj fields)) UntypedObject.decode? >>= _ : StateM Memory _) m = _
  rw [run_bind, hrequest, Cluster.send_eq, hanswer]
  dsimp only
  rw [hu]
  show (Cluster.typed o.kind u, m') = _
  rw [← hkind, htyped]

end ApiServer

end Reconciliation
