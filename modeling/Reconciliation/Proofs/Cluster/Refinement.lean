import Reconciliation.Proofs.Cluster.Client

/-!
# The store behind a server refines the store in memory

Whatever server there is at the other end, as long as it keeps a table and stamps objects as the
store in memory does: a client that calls the one store or the other gets the same answers, and the
same table is left behind. Only the order of listings and the wording of errors are the server's.

* `CallsAgree` -- two ways to make a call agree on a table;
* **`ApiServer.get_agrees`** to **`ApiServer.list_agrees`** -- every single call does, and
  `ApiServer.call_agrees` puts them together;
* `ApiServer.get?_eq_of_agrees`, `ApiServer.readBack_of_agrees` -- what agreement asks for: the
  request names what is looked up, and an object is read back as it is;
* **`ApiServer.refines_memory`** -- so do runs of any length; `ApiServer.stores_differ` shows that
  none of its conditions is there in vain.
-/

namespace Reconciliation

/-! ## 1. Calls -/

/-- Two ways to make a call agree on a table: they answer alike and leave the same table behind,
which a server can hold again. -/
structure CallsAgree (answer : α → ClientAnswer) (there here : StateM Memory (Except StoreError α))
    (m : Memory) : Prop where
  answers : (ClientAnswer.of answer (there m).1).Agrees (.of answer (here m).1)
  table : (there m).2 = (here m).2
  served : (here m).2.IsServed

theorem CallsAgree.of_eq {answer : α → ClientAnswer}
    {there here : StateM Memory (Except StoreError α)} {m m' : Memory} {r r' : Except StoreError α}
    (hthere : there m = (r, m')) (hhere : here m = (r', m'))
    (hanswers : (ClientAnswer.of answer r).Agrees (.of answer r')) (h : m'.IsServed) :
    CallsAgree answer there here m := by
  refine ⟨?_, ?_, ?_⟩
  · rw [hthere, hhere]
    exact hanswers
  · rw [hthere, hhere]
  · rw [hhere]
    exact h

namespace ApiServer

variable (s : ApiServer) (fieldManager : String) {m : Memory} (h : m.IsServed)

include h

/-- Looking up an object. -/
theorem get_agrees {id : ObjectIdentity}
    (hsend : (ClientCall.get id).IsSendable (s.cluster fieldManager)) :
    CallsAgree .found ((s.cluster fieldManager).store.get id) (Memory.store.get id) m := by
  obtain ⟨hid, hsize⟩ := hsend
  obtain ⟨r, hrequest, hserve⟩ := s.exists_get m hid hsize
  have hhere : Memory.store.get id m = (.ok (m.objects.get? id), m) :=
    congrArg (·, m) (Memory.get_eq_ok_iff.2 ⟨h.failure?_eq _ _, rfl⟩)
  have hthere : (s.cluster fieldManager).store.get id m = (.ok (m.objects.get? id), m) := by
    cases ho : m.objects.get? id with
    | none => exact get_missing hrequest hserve ho
    | some o =>
      obtain ⟨u, hu, htyped⟩ :=
        Cluster.reading_object (show 200 < 400 by omega) (h.portable_of_get ho)
      have hkind : o.kind = id.kind := congrArg ObjectIdentity.kind (Memory.identity_of_get ho)
      rw [hkind] at htyped
      rw [get_found hrequest hserve ho hu, htyped]
      rfl
  exact .of_eq hthere hhere (.found _) h

/-- Creating an object. -/
theorem create_agrees {o : ManagedObject}
    (hsend : (ClientCall.create o).IsSendable (s.cluster fieldManager)) :
    CallsAgree .written ((s.cluster fieldManager).store.create o) (Memory.store.create o) m := by
  obtain ⟨hportable, hid, hmanager, hsize⟩ := hsend
  obtain ⟨fields, hw⟩ := ManagedObject.exists_wire hportable
  obtain ⟨r, hrequest, hserve⟩ := s.exists_create m (s.cluster fieldManager) hw hid hmanager hsize
  have hanswer : (s.cluster fieldManager).transport r m =
      create (s.refuse r m) m o.kind o.identity.namespace? (some o) := hserve
  obtain ⟨hc, hcreate⟩ | ⟨hc, hcreate⟩ := h.create_cases o
  · rw [create_taken hc] at hanswer
    have hthere : (s.cluster fieldManager).store.create o m =
        (.error (.alreadyExists o.identity), m) :=
      write_refused hw hrequest (by omega) (by omega) hanswer rfl
    exact .of_eq hthere hcreate (.failed (.alreadyExists _)) h
  · rw [create_done hc] at hanswer
    have hthere : (s.cluster fieldManager).store.create o m = (.ok (m.stamp o), m.created o) :=
      write_done hw hrequest (by omega) (ManagedObject.kind_withMetadata _ _)
        (h.portable_stamp hportable) hanswer _
    exact .of_eq hthere hcreate (.written _) (h.created hportable hid.placed)

/-- Replacing an object: only the wording of a conflict is up to the server. -/
theorem update_agrees {o : ManagedObject}
    (hsend : (ClientCall.update o).IsSendable (s.cluster fieldManager)) :
    CallsAgree .written ((s.cluster fieldManager).store.update o) (Memory.store.update o) m := by
  obtain ⟨hportable, hid, hsize⟩ := hsend
  obtain ⟨fields, hw⟩ := ManagedObject.exists_wire hportable
  obtain ⟨r, hrequest, hserve⟩ := s.exists_update m (s.cluster fieldManager) hw hid hsize
  have hanswer : (s.cluster fieldManager).transport r m =
      update (s.refuse r m) m o.identity (some o) := hserve
  obtain ⟨ho, hupdate⟩ | ⟨stored, ho, ⟨v, message, hv, hupdate⟩ | ⟨hv, hupdate⟩⟩ :=
    h.update_cases o
  · rw [update_missing ho] at hanswer
    have hthere : (s.cluster fieldManager).store.update o m = (.error (.notFound o.identity), m) :=
      write_refused hw hrequest (by omega) (by omega) hanswer rfl
    exact .of_eq hthere hupdate (.failed (.notFound _)) h
  · rw [update_stale ho hv] at hanswer
    have hthere : (s.cluster fieldManager).store.update o m =
        (.error (.conflict o.identity (s.wording r 409)), m) :=
      write_refused hw hrequest (by omega) (by omega) hanswer rfl
    exact .of_eq hthere hupdate (.failed (.conflict _ _ _)) h
  · rw [update_done ho hv] at hanswer
    have hstored := h.portable_of_get ho
    have hthere : (s.cluster fieldManager).store.update o m =
        (.ok (m.restamp stored o), m.updated stored o) :=
      write_done hw hrequest (by omega) (ManagedObject.kind_withMetadata _ _)
        (Memory.IsServed.portable_restamp hstored hportable) hanswer _
    exact .of_eq hthere hupdate (.written _) (h.updated hstored hportable hid.placed)

/-- Deleting an object. -/
theorem delete_agrees {id : ObjectIdentity}
    (hsend : (ClientCall.delete id).IsSendable (s.cluster fieldManager)) :
    CallsAgree (fun _ => .deleted) ((s.cluster fieldManager).store.delete id)
      (Memory.store.delete id) m := by
  obtain ⟨hid, hsize⟩ := hsend
  obtain ⟨r, hrequest, hserve⟩ := s.exists_delete m hid hsize
  have hanswer : (s.cluster fieldManager).transport r m = s.delete (s.refuse r m) m id := hserve
  have hthere : (s.cluster fieldManager).store.delete id m =
      (.ok (), if (m.objects.get? id).isSome then m.deleted id else m) := by
    show (s.cluster fieldManager).delete id m = _
    unfold Cluster.delete
    rw [run_bind, hrequest, Cluster.send_eq, hanswer, delete]
    cases ho : m.objects.get? id with
    | none =>
      dsimp only [refuse]
      rw [Cluster.reading_refusal (by omega) (by omega)]
      rfl
    | some o =>
      have hread : Cluster.reading Cluster.deleted?
          (if s.returnsDeleted then object 200 o else success) = .ok () := by
        split
        · exact Cluster.reading_deleted (h.portable_of_get ho)
        · exact Cluster.reading_success
      dsimp only
      rw [hread]
      rfl
  obtain ⟨e, he, -⟩ | ⟨-, ⟨ho, hdelete⟩ | ⟨ho, hdelete⟩⟩ := m.delete_cases id
  · rw [h.failure?_eq] at he
    cases he
  · rw [ho] at hthere
    exact .of_eq hthere hdelete .deleted h
  · rw [if_pos ho] at hthere
    exact .of_eq hthere hdelete .deleted (h.deleted id)

/-- The server selects the objects that the store in memory lists. -/
theorem selected_eq {kind : Kind} (namespace? : Option String) (selector : LabelSelector) :
    selected m kind (if kind.isNamespaced then namespace? else none) selector.required.entries =
      (m.objects.entries.filter (Memory.listed kind namespace? selector)).map (·.2) := by
  unfold selected
  congr 1
  refine List.filter_congr fun e he => ?_
  have hplaced := h.placed e he
  unfold Memory.listed LabelSelector.selects
  by_cases hkind : e.1.kind = kind
  · subst hkind
    rw [Memory.IsServed.all_eq_inNamespace hplaced]
  · have hne : (e.1.kind == kind) = false := by simpa using hkind
    rw [hne]
    rfl

/-- Listing objects: only their order is up to the server. -/
theorem list_agrees {kind : Kind} {namespace? : Option String} {selector : LabelSelector}
    (hsend : (ClientCall.list kind namespace? selector).IsSendable (s.cluster fieldManager)) :
    CallsAgree .listed ((s.cluster fieldManager).store.list kind namespace? selector)
      (Memory.store.list kind namespace? selector) m := by
  obtain ⟨hscope, hplain, hsize⟩ := hsend
  obtain ⟨r, hrequest, hserve⟩ := s.exists_list m hscope hplain hsize
  have hhere : Memory.store.list kind namespace? selector m =
      (.ok ((m.objects.entries.filter (Memory.listed kind namespace? selector)).map (·.2)), m) := by
    show (m.list kind namespace? selector, m) = _
    rw [Memory.list, h.listFailures]
    rfl
  have hall : ∀ o ∈ (m.objects.entries.filter (Memory.listed kind namespace? selector)).map (·.2),
      o.kind = kind ∧ o.IsPortable := by
    intro o ho
    obtain ⟨e, he, rfl⟩ := List.mem_map.1 ho
    obtain ⟨hmem, hlisted⟩ := List.mem_filter.1 he
    simp only [Memory.listed, Bool.and_eq_true, beq_iff_eq] at hlisted
    have hkind : e.2.kind = e.1.kind := congrArg ObjectIdentity.kind (m.keyed e hmem)
    exact ⟨hkind.trans hlisted.1.1, h.portable e hmem⟩
  rw [selected_eq h] at hserve
  obtain ⟨listing, hread, hitems⟩ := Cluster.reading_listing s m.version hall
  have hthere : (s.cluster fieldManager).store.list kind namespace? selector m =
      (.ok (s.arrange ((m.objects.entries.filter
        (Memory.listed kind namespace? selector)).map (·.2))), m) := by
    have hanswer : (s.cluster fieldManager).transport r m = _ := hserve
    show (s.cluster fieldManager).list kind namespace? selector m = _
    unfold Cluster.list
    rw [run_bind, hrequest, Cluster.send_eq, hanswer]
    dsimp only
    rw [hread]
    show (listing.items.mapM (Cluster.typed kind), m) = _
    rw [hitems]
  exact .of_eq hthere hhere (.listed (s.arrange_perm _)) h

/-- **Every call agrees.** -/
theorem call_agrees {call : ClientCall} (hsend : call.IsSendable (s.cluster fieldManager)) :
    call.Agrees (s.cluster fieldManager) m ∧
      (call.run (s.cluster fieldManager).store m).2 = (call.run Memory.store m).2 ∧
      (call.run Memory.store m).2.IsServed := by
  unfold ClientCall.Agrees
  cases call with
  | get id =>
    obtain ⟨hanswers, htable, hserved⟩ := s.get_agrees fieldManager h hsend
    simp only [ClientCall.run_get]
    exact ⟨hanswers, htable, hserved⟩
  | create o =>
    obtain ⟨hanswers, htable, hserved⟩ := s.create_agrees fieldManager h hsend
    simp only [ClientCall.run_create]
    exact ⟨hanswers, htable, hserved⟩
  | update o =>
    obtain ⟨hanswers, htable, hserved⟩ := s.update_agrees fieldManager h hsend
    simp only [ClientCall.run_update]
    exact ⟨hanswers, htable, hserved⟩
  | delete id =>
    obtain ⟨hanswers, htable, hserved⟩ := s.delete_agrees fieldManager h hsend
    simp only [ClientCall.run_delete]
    exact ⟨hanswers, htable, hserved⟩
  | list kind namespace? selector =>
    obtain ⟨hanswers, htable, hserved⟩ := s.list_agrees fieldManager h hsend
    simp only [ClientCall.run_list]
    exact ⟨hanswers, htable, hserved⟩

end ApiServer

/-! ## 2. What agreement asks for -/

namespace ApiServer

/-- An API error is no answer of the store in memory. -/
theorem not_agrees_api (code? : Option Nat) (answer : ClientAnswer) :
    ¬(ClientAnswer.failed (.api code?)).Agrees answer := by
  intro h
  cases h with
  | failed h => cases h

section

variable {s : ApiServer} {fieldManager : String} {m : Memory} {id : ObjectIdentity}

/-- A lookup that cannot be written down. -/
theorem not_agrees_of_unsent (hrequest : Cluster.getRequest id = none) :
    ¬(ClientCall.get id).Agrees (s.cluster fieldManager) m := by
  rw [ClientCall.Agrees, ClientCall.run_get, Cluster.get_unsent hrequest]
  exact not_agrees_api none _

/-- A lookup agrees only if the request asks for what is looked up. -/
theorem get?_eq_of_agrees (h : m.IsServed) {id' : ObjectIdentity} {r : HttpRequest}
    (hrequest : Cluster.getRequest id = some r) (hserve : s.serve r m = get (s.refuse r m) m id')
    (hkind : id'.kind = id.kind) (hagrees : (ClientCall.get id).Agrees (s.cluster fieldManager) m) :
    m.objects.get? id = m.objects.get? id' := by
  have hhere : Memory.store.get id m = (.ok (m.objects.get? id), m) :=
    congrArg (·, m) (Memory.get_eq_ok_iff.2 ⟨h.failure?_eq _ _, rfl⟩)
  rw [ClientCall.Agrees, ClientCall.run_get, ClientCall.run_get, hhere] at hagrees
  cases ho : m.objects.get? id' with
  | none =>
    rw [get_missing hrequest hserve ho] at hagrees
    generalize m.objects.get? id = o? at hagrees
    cases hagrees with
    | found => rfl
  | some o =>
    obtain ⟨u, hu, htyped⟩ :=
      Cluster.reading_object (show 200 < 400 by omega) (h.portable_of_get ho)
    have hkind' : o.kind = id.kind :=
      (congrArg ObjectIdentity.kind (Memory.identity_of_get ho)).trans hkind
    rw [hkind'] at htyped
    rw [get_found hrequest hserve ho hu, htyped] at hagrees
    generalize m.objects.get? id = o? at hagrees
    cases hagrees with
    | found => rfl

/-- What a client makes of an object in an answer. -/
def readBack (o : ManagedObject) : Option ManagedObject :=
  ((wire o).reread?.bind UntypedObject.decode?).bind (ManagedObject.ofUntyped? o.kind)

/-- A lookup agrees only if the object is read back as it is. -/
theorem readBack_of_agrees {r : HttpRequest} (hrequest : Cluster.getRequest id = some r)
    (hserve : s.serve r m = get (s.refuse r m) m id) (hf : m.failures = []) {o : ManagedObject}
    (ho : m.objects.get? id = some o)
    (hagrees : (ClientCall.get id).Agrees (s.cluster fieldManager) m) : readBack o = some o := by
  have hkind : o.kind = id.kind := congrArg ObjectIdentity.kind (Memory.identity_of_get ho)
  have hhere : Memory.store.get id m = (.ok (some o), m) := by
    have hfailure : m.failure? .get id = none := by rw [Memory.failure?, hf]; rfl
    exact congrArg (·, m) (Memory.get_eq_ok_iff.2 ⟨hfailure, ho⟩)
  rw [ClientCall.Agrees, ClientCall.run_get, ClientCall.run_get, hhere] at hagrees
  have hreading := Cluster.reading_reread (show 200 < 400 by omega) (wire o) UntypedObject.decode?
  unfold readBack
  cases hu : (wire o).reread?.bind UntypedObject.decode? with
  | none =>
    rw [hu] at hreading
    rw [get_unusable hrequest hserve ho hreading] at hagrees
    exact absurd hagrees (not_agrees_api none _)
  | some u =>
    rw [hu] at hreading
    rw [get_found hrequest hserve ho hreading, ← hkind] at hagrees
    show ManagedObject.ofUntyped? o.kind u = some o
    cases hback : ManagedObject.ofUntyped? o.kind u with
    | none =>
      rw [Cluster.typed, hback] at hagrees
      cases hagrees
    | some o' =>
      rw [Cluster.typed, hback] at hagrees
      cases hagrees with
      | found => rfl

/-- An object cannot be created under a field manager with too long a name. -/
theorem not_agrees_of_manager {o : ManagedObject} (ho : o.IsPortable)
    (hmanager : 128 < fieldManager.utf8ByteSize) :
    ¬(ClientCall.create o).Agrees (s.cluster fieldManager) m := by
  obtain ⟨fields, hw⟩ := ManagedObject.exists_wire ho
  have hrequest : (s.cluster fieldManager).createRequest o.identity (.obj fields) = none :=
    if_neg (Nat.not_le.2 hmanager)
  have hthere : (s.cluster fieldManager).store.create o m = (.error (.api none), m) := by
    show (s.cluster fieldManager).write o _ _ m = _
    unfold Cluster.write
    rw [hw.sent]
    show ((s.cluster fieldManager).send ((s.cluster fieldManager).createRequest o.identity
      (.obj fields)) UntypedObject.decode? >>= _ : StateM Memory _) m = _
    rw [hrequest]
    rfl
  rw [ClientCall.Agrees, ClientCall.run_create, hthere]
  exact not_agrees_api none _

/-- A listing whose items cannot be read. -/
theorem not_agrees_of_unusable {kind : Kind} {namespace? : Option String}
    {selector : LabelSelector} {r : HttpRequest} {answer : HttpResponse}
    (hrequest : Cluster.listRequest kind namespace? selector = some r)
    (hserve : s.serve r m = (answer, m))
    (hread : Cluster.reading Listing.decode? answer = .error .unusable) :
    ¬(ClientCall.list kind namespace? selector).Agrees (s.cluster fieldManager) m := by
  have hthere : (s.cluster fieldManager).store.list kind namespace? selector m =
      (.error (.api none), m) := by
    have hanswer : (s.cluster fieldManager).transport r m = (answer, m) := hserve
    show (s.cluster fieldManager).list kind namespace? selector m = _
    unfold Cluster.list
    rw [run_bind, hrequest, Cluster.send_eq, hanswer]
    dsimp only
    rw [hread]
    rfl
  rw [ClientCall.Agrees, ClientCall.run_list, hthere]
  exact not_agrees_api none _

end

/-! ## 3. Tables to try -/

/-- A server that keeps the order of its table, and says no more than it has to. -/
def plain : ApiServer := ⟨id, fun _ => .refl _, false, false, fun _ _ => ""⟩

/-- A configuration map without data. -/
def configMap (name : String) : ManagedObject :=
  .configMap ⟨{ ObjectMeta.empty with name := some name, namespace? := some "tracing" },
    none, none, none⟩

/-- A route with a specification. -/
def route (name : String) (spec : Json) : ManagedObject :=
  .ofSpec .route { ObjectMeta.empty with name := some name, namespace? := some "tracing" } spec

theorem isPortable_configMap (name : String) : (configMap name).IsPortable :=
  ⟨⟨fun _ h => (nomatch h), fun _ h => (nomatch h)⟩, fun _ h => (nomatch h)⟩

theorem isPortable_route (name : String) {spec : Json} (hord : spec.Ordered)
    (h : spec.Legible 124) : (route name spec).IsPortable := by
  refine ⟨⟨fun _ h => (nomatch h), fun _ h => (nomatch h)⟩, fun r hr => ?_⟩
  obtain rfl := Option.some.inj hr
  refine ⟨[("spec", spec)], rfl, Json.ordered_obj_iff.2 ⟨List.pairwise_singleton _ _, ?_⟩, ?_, ?_⟩
  · simpa using hord
  · simp [UntypedObject.isData, UntypedObject.isFree]
  · simpa using h

theorem isServed_empty : (Memory.empty ⟨0, 0⟩).IsServed :=
  ⟨rfl, rfl, by decide, fun _ h => (nomatch h), fun _ h => (nomatch h)⟩

/-- A cluster role that allows nothing. -/
def clusterRole (name : String) : ManagedObject :=
  .clusterRole ⟨{ ObjectMeta.empty with name := some name }, none, none⟩

/-- Lists within each other. -/
def nested : Nat → Json
  | 0 => .arr []
  | n + 1 => .arr [nested n]

/-- A table with two configuration maps and a cluster role. -/
def table : Memory :=
  (((Memory.empty ⟨0, 0⟩).created (configMap "a")).created (configMap "a/b")).created
    (clusterRole "a")

theorem isServed_table : table.IsServed := by
  have hrole : (clusterRole "a").IsPortable :=
    ⟨⟨fun _ h => (nomatch h), fun _ h => (nomatch h)⟩, fun _ h => (nomatch h)⟩
  exact ((isServed_empty.created (isPortable_configMap "a") rfl).created
    (isPortable_configMap "a/b") rfl).created hrole rfl

/-- A request that asks for another object of the table. -/
theorem not_agrees_of_other {id : ObjectIdentity} (id' : ObjectIdentity) {query : String}
    (hrequest : Cluster.getRequest id = some ⟨.get, ⟨id'.path, query⟩, none⟩)
    (hid : id'.IsAddressable) (hkind : id'.kind = id.kind)
    (hhere : (table.objects.get? id).isSome = false)
    (hthere : (table.objects.get? id').isSome = true) :
    ¬(ClientCall.get id).Agrees (plain.cluster "tempo-operator") table := by
  intro hagrees
  have hserve : plain.serve ⟨.get, ⟨id'.path, query⟩, none⟩ table =
      get (plain.refuse ⟨.get, ⟨id'.path, query⟩, none⟩ table) table id' := by
    unfold serve
    rw [hid.ofPath?_path]
  have heq := get?_eq_of_agrees isServed_table hrequest hserve hkind hagrees
  rw [heq, hthere] at hhere
  cases hhere

/-- A request that asks for nothing that the server knows. -/
theorem not_agrees_of_unknown {id : ObjectIdentity} {path : String} (hkind : id.kind = .configMap)
    (hrequest : Cluster.getRequest id = some ⟨.get, ⟨path, ""⟩, none⟩)
    (hpath : ApiResource.ofPath? path = none) (hhere : (table.objects.get? id).isSome = true) :
    ¬(ClientCall.get id).Agrees (plain.cluster "tempo-operator") table := by
  intro hagrees
  have hmissing : table.objects.get? ⟨.configMap, none, ""⟩ = none :=
    Option.isNone_iff_eq_none.1 (by decide +kernel)
  have hserve : plain.serve ⟨.get, ⟨path, ""⟩, none⟩ table =
      get (plain.refuse ⟨.get, ⟨path, ""⟩, none⟩ table) table ⟨.configMap, none, ""⟩ := by
    unfold serve
    rw [hpath, get, hmissing]
  have heq := get?_eq_of_agrees isServed_table hrequest hserve hkind.symm hagrees
  rw [heq, hmissing] at hhere
  cases hhere

/-- An object that is not read back as it is. -/
theorem not_agrees_of_readBack {o : ManagedObject} (hid : o.identity.IsAddressable)
    (hsize : o.identity.path.utf8ByteSize ≤ 65534)
    (hread : (readBack (table.stamp o)).all (fun o' => !o'.same (table.stamp o)) = true) :
    ¬(ClientCall.get o.identity).Agrees (plain.cluster "tempo-operator") (table.created o) := by
  intro hagrees
  obtain ⟨r, hrequest, hserve⟩ := plain.exists_get (table.created o) hid hsize
  have hback := readBack_of_agrees hrequest hserve rfl (Memory.get?_created table rfl) hagrees
  rw [hback] at hread
  simp at hread

end ApiServer

/-! ## 4. Runs -/

/-- Makes the calls one after another. -/
def ClientCall.runAll (store : ObjectStore σ) : List ClientCall → StateM σ (List ClientAnswer)
  | [] => pure []
  | call :: rest => do return (← call.run store) :: (← runAll store rest)

namespace ApiServer

/-- **The store behind a server refines the store in memory.** -/
theorem refines_memory (s : ApiServer) (fieldManager : String) {m : Memory} (h : m.IsServed)
    {calls : List ClientCall} (hsend : ∀ call ∈ calls, call.IsSendable (s.cluster fieldManager)) :
    List.Forall₂ ClientAnswer.Agrees
        (ClientCall.runAll (s.cluster fieldManager).store calls m).1
        (ClientCall.runAll Memory.store calls m).1 ∧
      (ClientCall.runAll (s.cluster fieldManager).store calls m).2 =
        (ClientCall.runAll Memory.store calls m).2 := by
  induction calls generalizing m with
  | nil => exact ⟨.nil, rfl⟩
  | cons call rest ih =>
    obtain ⟨hagrees, hstate, hserved⟩ :=
      s.call_agrees fieldManager h (hsend call List.mem_cons_self)
    obtain ⟨hanswers, hrest⟩ := ih hserved fun c hc => hsend c (List.mem_cons_of_mem _ hc)
    have hrun : ∀ store : ObjectStore Memory, ClientCall.runAll store (call :: rest) m =
        ((call.run store m).1 :: (ClientCall.runAll store rest (call.run store m).2).1,
          (ClientCall.runAll store rest (call.run store m).2).2) := fun _ => rfl
    rw [hrun, hrun, hstate]
    exact ⟨.cons hagrees hanswers, hrest⟩

/-- The name of a new object does not stand in the path, so it may be any. -/
theorem refines_memory_sample :
    let m := Memory.empty ⟨0, 0⟩
    let id : ObjectIdentity := ⟨.configMap, some "tracing", "a"⟩
    let stale := (configMap "a").withMetadata
      { (configMap "a").metadata with resourceVersion := some "7" }
    let calls : List ClientCall := [.create (configMap "a"), .create (configMap "a"),
      .update stale, .create (route "web" (.bool true)), .create (configMap "a b"), .get id,
      .list (.custom .route) none ⟨.empty⟩, .delete id]
    m.IsServed ∧ (∀ call ∈ calls, call.IsSendable (plain.cluster "tempo-operator")) ∧
      List.Forall₂ ClientAnswer.Agrees
        (ClientCall.runAll (plain.cluster "tempo-operator").store calls m).1
        (ClientCall.runAll Memory.store calls m).1 := by
  intro m id stale calls
  have ha : (configMap "a").IsPortable := isPortable_configMap "a"
  have hstale : stale.IsPortable :=
    ha.withMetadata ⟨fun _ h => (nomatch h), fun _ h => (nomatch h)⟩
  have hroute : (route "web" (.bool true)).IsPortable := isPortable_route "web" trivial (by simp)
  have hcalls : ∀ call ∈ calls, call.IsSendable (plain.cluster "tempo-operator") := by
    simp only [calls, List.forall_mem_cons, List.not_mem_nil, false_implies, implies_true, and_true]
    refine ⟨⟨ha, ?_⟩, ⟨ha, ?_⟩, ⟨hstale, ?_⟩, ⟨hroute, ?_⟩,
      ⟨isPortable_configMap "a b", ?_⟩, ⟨?_, ?_⟩,
      ⟨fun _ _ h => (nomatch h), fun _ h => (nomatch h), ?_⟩, ⟨?_, ?_⟩⟩
    all_goals decide +kernel
  exact ⟨isServed_empty, hcalls, (plain.refines_memory "tempo-operator" isServed_empty hcalls).1⟩

/-- **Where the stores differ**: a name that cannot stand in a path or that ends a segment of it, an
address that is too long, a namespace where there is none, a field manager with too long a name, a
number that is read as its neighbour, and data that nests too deep for a listing. -/
theorem stores_differ :
    let c := plain.cluster "tempo-operator"
    let long := String.ofList (List.replicate 65535 'a')
    (∀ name ∈ ["a b", "a?b", "a#b", "a/b", long],
      ¬(ClientCall.get ⟨.configMap, some "tracing", name⟩).Agrees c table) ∧
    ¬(ClientCall.get ⟨.clusterRole, some "tracing", "a"⟩).Agrees c table ∧
    ¬(ClientCall.create (configMap "c")).Agrees
      (plain.cluster (String.ofList (List.replicate 129 'a'))) table ∧
    ¬(ClientCall.get ⟨.custom .route, some "tracing", "c"⟩).Agrees c
      (table.created (route "c" (.num (.float ⟨false, 4636737293823772070⟩)))) ∧
    ¬(ClientCall.list (.custom .route) none ⟨.empty⟩).Agrees c
      (table.created (route "c" (nested 124))) := by
  intro c long
  have hid : ObjectIdentity.IsAddressable ⟨.configMap, some "tracing", "a"⟩ := by decide
  refine ⟨?names, ?scope, ?manager, ?number, ?nesting⟩
  case names =>
    simp only [List.forall_mem_cons, List.not_mem_nil, false_implies, implies_true, and_true]
    refine ⟨not_agrees_of_unsent (by decide +kernel), ?_, ?_, ?_, not_agrees_of_unsent ?_⟩
    · exact not_agrees_of_other _ rfl hid rfl (by decide +kernel) (by decide +kernel)
    · exact not_agrees_of_other _ rfl hid rfl (by decide +kernel) (by decide +kernel)
    · exact not_agrees_of_unknown rfl rfl (by decide +kernel) (by decide +kernel)
    · exact Cluster.getRequest_of_long (by rw [utf8ByteSize_replicate]; omega)
  case scope =>
    exact not_agrees_of_other ⟨.clusterRole, none, "a"⟩ rfl (by decide) rfl (by decide +kernel)
      (by decide +kernel)
  case manager => exact not_agrees_of_manager (isPortable_configMap "c") (by decide +kernel)
  case number =>
    exact not_agrees_of_readBack (o := route "c" _) (by decide) (by decide +kernel)
      (by decide +kernel)
  case nesting =>
    have hsend : (ClientCall.list (.custom .route) none ⟨.empty⟩).IsSendable c :=
      ⟨fun _ _ h => (nomatch h), fun _ h => (nomatch h), by decide +kernel⟩
    obtain ⟨hscope, hplain, hsize⟩ := hsend
    obtain ⟨r, hrequest, hserve⟩ :=
      plain.exists_list (table.created (route "c" (nested 124))) hscope hplain hsize
    have hnone : ∀ listing? : Option Listing, listing?.isNone = true →
        listing?.elim (Except.error ApiError.unusable) .ok = .error .unusable := by
      intro listing? h
      rw [Option.isNone_iff_eq_none.1 h]
      rfl
    refine not_agrees_of_unusable hrequest hserve
      ((Cluster.reading_reread (by omega) _ _).trans (hnone _ ?_))
    decide +kernel

end ApiServer

end Reconciliation
