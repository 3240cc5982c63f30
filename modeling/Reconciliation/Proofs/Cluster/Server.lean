import Reconciliation.Proofs.Cluster.Address
import Reconciliation.Proofs.Store.Memory
import Reconciliation.Proofs.Wire.Managed

/-!
# An API server

What a cluster is at the other end: a server that keeps a table of objects, stamps them as the store
in memory does, and answers requests over HTTP with JSON. It knows a request by its method, its path
and its parameters alone, and an object by the text of the body. A few things are up to the server:
the order of listings, whether their items state a type, what a deletion is answered with, and the
wording of refusals.

* `LabelSelector.ofQuery?` -- the pairs that a query asks for;
  `LabelSelector.ofQuery?_toQuery` -- they are those of the selector it was written for;
* `ApiServer.serve` -- how the server answers and what it keeps;
* **`Cluster.reading_object`**, **`Cluster.reading_listing`**, `Cluster.reading_deleted`,
  `Cluster.reading_refusal` -- what a client makes of the answers.
-/

namespace Reconciliation

/-! ## 1. Selectors -/

/-- Values that are read back one by one are read back as a list. -/
theorem mapM_map_eq_some {read : β → Option α} {write : α → β} {as : List α}
    (h : ∀ a ∈ as, read (write a) = some a) : (as.map write).mapM read = some as := by
  induction as with
  | nil => rfl
  | cons a as ih =>
    rw [List.map_cons, List.mapM_cons, h a List.mem_cons_self,
      ih fun b hb => h b (List.mem_cons_of_mem _ hb)]
    rfl

namespace LabelSelector

/-- The pair that a requirement states: a key, an equals sign, and the value. -/
def requirement? (cs : List Char) : Option (String × String) :=
  if '=' ∈ cs then
    some (String.ofList (cs.takeWhile (· != '=')),
      String.ofList ((cs.dropWhile (· != '=')).drop 1))
  else none

/-- The pairs that a query asks for. -/
def ofQuery? (query : String) : Option (List (String × String)) :=
  ((query.toList.splitOn ',').filter (!·.isEmpty)).mapM requirement?

/-- Neither keys nor values hold a mark of the query form. -/
def IsPlain (s : LabelSelector) : Prop :=
  ∀ e ∈ s.required.entries,
    (',' ∉ e.1.toList ∧ '=' ∉ e.1.toList) ∧ ',' ∉ e.2.toList ∧ '=' ∉ e.2.toList

theorem requirement?_pair {key value : String} (h : '=' ∉ key.toList) :
    requirement? (key ++ "=" ++ value).toList = some (key, value) := by
  have hkey : ∀ c ∈ key.toList, (c != '=') = true := by
    intro c hc
    simp only [bne_iff_ne, ne_eq]
    rintro rfl
    exact h hc
  have hshape : (key ++ "=" ++ value).toList = key.toList ++ '=' :: value.toList := by simp
  rw [hshape, requirement?, if_pos (by simp), List.takeWhile_append_of_pos hkey,
    List.dropWhile_append_of_pos hkey]
  simp

/-- **A selector is read from its query form.** -/
theorem ofQuery?_toQuery {s : LabelSelector} (h : s.IsPlain) :
    ofQuery? s.toQuery = some s.required.entries := by
  unfold toQuery ofQuery?
  have hpair : ∀ e ∈ s.required.entries, requirement? (e.1 ++ "=" ++ e.2).toList = some e :=
    fun e he => requirement?_pair (h e he).1.2
  have hmark : ∀ t ∈ s.required.entries.map fun e => e.1 ++ "=" ++ e.2, ',' ∉ t.toList := by
    intro t ht
    obtain ⟨e, he, rfl⟩ := List.mem_map.1 ht
    simp [(h e he).1.1, (h e he).2.1]
  generalize s.required.entries = pairs at hpair hmark
  cases pairs with
  | nil => rfl
  | cons e rest =>
    have hparts :
        (",".intercalate ((e :: rest).map fun e => e.1 ++ "=" ++ e.2)).toList.splitOn ',' =
          (e :: rest).map fun e => (e.1 ++ "=" ++ e.2).toList :=
      (splitOn_intercalate (by simp) hmark).trans List.map_map
    have hfilter : ((e :: rest).map fun e => (e.1 ++ "=" ++ e.2).toList).filter (!·.isEmpty) =
        (e :: rest).map fun e => (e.1 ++ "=" ++ e.2).toList := by
      refine List.filter_eq_self.2 fun cs hcs => ?_
      obtain ⟨e', -, rfl⟩ := List.mem_map.1 hcs
      simp
    rw [hparts, hfilter]
    exact mapM_map_eq_some hpair

end LabelSelector

/-! ## 2. The server -/

/-- What is up to a server. -/
structure ApiServer where
  /-- The order in which a listing holds its items. -/
  arrange : List ManagedObject → List ManagedObject
  arrange_perm : ∀ objects, (arrange objects).Perm objects
  /-- Whether the items of a listing state their types. -/
  typesItems : Bool
  /-- Whether a deletion is answered with the object rather than with a status. -/
  returnsDeleted : Bool
  /-- What a refusal with a code says. -/
  wording : HttpRequest → Nat → String

namespace ApiServer

/-- An answer that refuses a request. -/
def refusal (code : Nat) (reason message : String) : HttpResponse where
  status := code
  body := Json.compact (.obj [("apiVersion", .str "v1"), ("code", .ofNat code),
    ("kind", .str "Status"), ("message", .str message), ("metadata", .obj []),
    ("reason", .str reason), ("status", .str "Failure")])

/-- The answer that a request was carried out. -/
def success : HttpResponse where
  status := 200
  body := Json.compact (.obj [("apiVersion", .str "v1"), ("kind", .str "Status"),
    ("metadata", .obj []), ("status", .str "Success")])

/-- The wire form of an object. -/
def wire (o : ManagedObject) : Json := o.encode?.getD .null

/-- An answer with an object. -/
def object (code : Nat) (o : ManagedObject) : HttpResponse := ⟨code, (wire o).compact⟩

/-- The answer with the objects of a collection. -/
def listing (s : ApiServer) (kind : Kind) (version : Nat) (objects : List ManagedObject) :
    HttpResponse where
  status := 200
  body := Json.compact (.obj [("apiVersion", .str kind.apiVersion),
    ("items", .arr ((s.arrange objects).map fun o => ManagedObject.listItem s.typesItems (wire o))),
    ("kind", .str (kind.name ++ "List")),
    ("metadata", .obj [("resourceVersion", .str (toString version))])])

/-- The object in the body of a request. -/
def received? (kind : Kind) (content : Option HttpContent) : Option ManagedObject := do
  let content ← content
  let r ← RawJson.ofText? content.text
  let o ← UntypedObject.decode? r
  ManagedObject.ofUntyped? kind o

/-- The objects of a collection that carry all the given labels. -/
def selected (m : Memory) (kind : Kind) (namespace? : Option String)
    (labels : List (String × String)) : List ManagedObject :=
  (m.objects.entries.filter fun e =>
    e.1.kind == kind && namespace?.all (fun ns => e.1.namespace? == some ns) &&
      labels.all fun l => e.2.metadata.labels.bind (·.get? l.1) == some l.2).map (·.2)

/-- Refuses a request and leaves the table as it is. -/
def refuse (s : ApiServer) (request : HttpRequest) (m : Memory) (code : Nat) (reason : String) :
    HttpResponse × Memory :=
  (refusal code reason (s.wording request code), m)

section

-- How the request that is answered is refused: with a code and a reason.
variable (refuse : Nat → String → HttpResponse × Memory) (m : Memory)

/-- Answers with an object of the table. -/
def get (id : ObjectIdentity) : HttpResponse × Memory :=
  match m.objects.get? id with
  | some o => (object 200 o, m)
  | none => refuse 404 "NotFound"

/-- Stores a new object, if it belongs into the collection. -/
def create (kind : Kind) (namespace? : Option String) (o? : Option ManagedObject) :
    HttpResponse × Memory :=
  match o? with
  | some o =>
    if o.identity ≠ ⟨kind, namespace?, o.name⟩ then refuse 400 "BadRequest"
    else if m.objects.contains o.identity then refuse 409 "AlreadyExists"
    else (object 201 (m.stamp o), m.created o)
  | none => refuse 400 "BadRequest"

/-- Replaces an object, unless the new one carries another version than the stored one. -/
def update (id : ObjectIdentity) (o? : Option ManagedObject) : HttpResponse × Memory :=
  match o? with
  | some o =>
    if o.identity ≠ id then refuse 400 "BadRequest"
    else
      match m.objects.get? id with
      | none => refuse 404 "NotFound"
      | some stored =>
        match Memory.staleVersion? stored o with
        | some _ => refuse 409 "Conflict"
        | none => (object 200 (m.restamp stored o), m.updated stored o)
  | none => refuse 400 "BadRequest"

variable {refuse m} {o : ManagedObject}

theorem create_taken (h : m.objects.contains o.identity = true) :
    create refuse m o.kind o.identity.namespace? (some o) = refuse 409 "AlreadyExists" :=
  (if_neg fun hne => hne rfl).trans (if_pos h)

theorem create_done (h : m.objects.contains o.identity = false) :
    create refuse m o.kind o.identity.namespace? (some o) =
      (object 201 (m.stamp o), m.created o) :=
  (if_neg fun hne => hne rfl).trans (if_neg (by simp [h]))

theorem update_missing (h : m.objects.get? o.identity = none) :
    update refuse m o.identity (some o) = refuse 404 "NotFound" :=
  (if_neg fun hne => hne rfl).trans (by rw [h])

variable {stored : ManagedObject} (hstored : m.objects.get? o.identity = some stored)

include hstored

theorem update_stale {v : String} (h : Memory.staleVersion? stored o = some v) :
    update refuse m o.identity (some o) = refuse 409 "Conflict" :=
  (if_neg fun hne => hne rfl).trans (by simp only [hstored, h])

theorem update_done (h : Memory.staleVersion? stored o = none) :
    update refuse m o.identity (some o) = (object 200 (m.restamp stored o), m.updated stored o) :=
  (if_neg fun hne => hne rfl).trans (by simp only [hstored, h])

omit hstored

variable (refuse m)

/-- Deletes an object. -/
def delete (s : ApiServer) (id : ObjectIdentity) : HttpResponse × Memory :=
  match m.objects.get? id with
  | some o => (if s.returnsDeleted then object 200 o else success, m.deleted id)
  | none => refuse 404 "NotFound"

/-- Lists the objects of a collection that the selector in the parameters selects. -/
def list (s : ApiServer) (kind : Kind) (namespace? : Option String)
    (parameters : List (String × String)) : HttpResponse × Memory :=
  match (parameters.find? (·.1 == "labelSelector")).elim (some [])
    fun p => LabelSelector.ofQuery? p.2 with
  | some labels => (s.listing kind m.version (selected m kind namespace? labels), m)
  | none => refuse 400 "BadRequest"

theorem list_eq (s : ApiServer) {kind : Kind} {namespace? : Option String} {query : String}
    {labels : List (String × String)} (h : LabelSelector.ofQuery? query = some labels) :
    s.list refuse m kind namespace? [("labelSelector", query)] =
      (s.listing kind m.version (selected m kind namespace? labels), m) := by
  have hfind : (([("labelSelector", query)].find? (·.1 == "labelSelector")).elim (some [])
    fun p => LabelSelector.ofQuery? p.2) = some labels := h
  unfold list
  rw [hfind]

end

/-- Answers a request about an object or a collection, and keeps the table. -/
def serve (s : ApiServer) (request : HttpRequest) (m : Memory) : HttpResponse × Memory :=
  match request.method, ApiResource.ofPath? request.target.path with
  | .get, some (.object id) => get (s.refuse request m) m id
  | .get, some (.collection kind namespace?) =>
    s.list (s.refuse request m) m kind namespace? request.target.parameters
  | .post, some (.collection kind namespace?) =>
    create (s.refuse request m) m kind namespace? (received? kind request.content)
  | .put, some (.object id) =>
    update (s.refuse request m) m id (received? id.kind request.content)
  | .delete, some (.object id) => s.delete (s.refuse request m) m id
  | _, none => s.refuse request m 404 "NotFound"
  | _, _ => s.refuse request m 405 "MethodNotAllowed"

/-- The server as the way to a table. -/
def transport (s : ApiServer) : Transport Memory := fun request m => s.serve request m

/-- The cluster that the server makes up. -/
def cluster (s : ApiServer) (fieldManager : String) : Cluster Memory := ⟨s.transport, fieldManager⟩

end ApiServer

/-! ## 3. What a client makes of the answers -/

namespace Cluster

/-- What an answer comes to. -/
def reading (decode? : RawJson → Option α) (r : HttpResponse) : Except ApiError α :=
  if r.isRefusal then .error (.refused (.ofResponse r))
  else ((RawJson.ofText? r.body).bind decode?).elim (.error .unusable) .ok

theorem send_eq (c : Cluster σ) (request : HttpRequest) (decode? : RawJson → Option α) (w : σ) :
    c.send (some request) decode? w =
      (reading decode? (c.transport request w).1, (c.transport request w).2) := by
  unfold send reading
  show (if (c.transport request w).1.isRefusal = true then _ else _ : StateM σ _) _ = _
  split
  · rfl
  · rfl

/-- An object whose path cannot be asked for is not looked up. -/
theorem get_unsent {c : Cluster σ} {id : ObjectIdentity} (h : getRequest id = none) (w : σ) :
    c.store.get id w = (.error (.api none), w) := by
  show c.get id w = _
  unfold get
  rw [h]
  rfl

/-- An answer whose text is that of a JSON value. -/
theorem reading_reread {code : Nat} (hcode : code < 400) (j : Json)
    (decode? : RawJson → Option α) :
    reading decode? ⟨code, j.compact⟩ =
      (j.reread?.bind decode?).elim (.error .unusable) .ok := by
  have hrefusal : HttpResponse.isRefusal ⟨code, j.compact⟩ = false := by
    have hlow : ¬400 ≤ code := by omega
    simp [HttpResponse.isRefusal, hlow]
  rw [reading, hrefusal, if_neg (by simp), Json.ofText?_compact_eq]

theorem reading_compact {code : Nat} (hcode : code < 400) {j : Json} (hj : j.Legible 127)
    (decode? : RawJson → Option α) :
    reading decode? ⟨code, j.compact⟩ = (decode? j.raw).elim (.error .unusable) .ok := by
  rw [reading_reread hcode, ← Json.ofText?_compact_eq, Json.ofText?_compact hj]
  rfl

theorem reading_refusal {code : Nat} (hlow : 400 ≤ code) (hhigh : code < 600)
    (reason message : String) (decode? : RawJson → Option α) :
    reading decode? (ApiServer.refusal code reason message) =
      .error (.refused ⟨"Failure", message, reason, code⟩) := by
  have hrefusal : (ApiServer.refusal code reason message).isRefusal = true := by
    simp [HttpResponse.isRefusal, ApiServer.refusal, hlow, hhigh]
  rw [reading, hrefusal, if_pos rfl, Refusal.ofResponse, ApiServer.refusal,
    Json.ofText?_compact]
  · have hcode : (Codec.natural 16).decode? (.num (.int (Int.ofNat code))) = some code := by
      have hsize : code < 1 <<< 16 := by
        show code < 65536
        omega
      exact if_pos ⟨Int.natCast_nonneg code, hsize⟩
    have hread : Refusal.members.positional.decode? (Json.raw (.obj [("apiVersion", .str "v1"),
        ("code", .ofNat code), ("kind", .str "Status"), ("message", .str message),
        ("metadata", .obj []), ("reason", .str reason), ("status", .str "Failure")])) =
        ((Codec.natural 16).decode? (.num (.int (Int.ofNat code)))).bind
          fun n => some ⟨"Failure", message, reason, n⟩ := rfl
    rw [Option.bind_some, hread, hcode]
    rfl
  · have hmin : Int64.minValue.toInt ≤ 0 := by decide
    have hmax : (600 : Int) ≤ UInt64.size := by decide
    have hcode : (Json.ofNat code).Legible 126 := Json.legible_int (by omega) (by omega)
    simp [hcode]

/-- **An object in an answer is read.** -/
theorem reading_object {code : Nat} (hcode : code < 400) {o : ManagedObject} (h : o.IsPortable) :
    ∃ u, reading UntypedObject.decode? (ApiServer.object code o) = .ok u ∧
      typed o.kind u = .ok o := by
  obtain ⟨fields, hw⟩ := ManagedObject.exists_wire h
  have hwire : ApiServer.wire o = .obj fields := by rw [ApiServer.wire, hw.encode]; rfl
  obtain ⟨u, hu, ho⟩ := Option.bind_eq_some_iff.1 hw.received
  refine ⟨u, ?_, ?_⟩
  · rw [ApiServer.object, hwire, reading_compact hcode (hw.legible.mono (by omega))]
    show ((UntypedObject.ofJson? (.obj fields)).elim _ _ : Except ApiError UntypedObject) = _
    rw [hu]
    rfl
  · rw [typed, ho]
    rfl

/-- The items of a listing are read one by one. -/
theorem exists_items (typesItems : Bool) {kind : Kind} {objects : List ManagedObject}
    (h : ∀ o ∈ objects, o.kind = kind ∧ o.IsPortable) :
    ∃ us, (Json.rawItems (objects.map (ManagedObject.listItem typesItems <|
        ApiServer.wire ·))).mapM UntypedObject.decode? = some us ∧
      us.mapM (typed kind) = .ok objects := by
  induction objects with
  | nil => exact ⟨[], rfl, rfl⟩
  | cons o rest ih =>
    obtain ⟨us, hus, hrest⟩ := ih fun o ho => h o (List.mem_cons_of_mem _ ho)
    obtain ⟨rfl, hportable⟩ := h o List.mem_cons_self
    obtain ⟨fields, hw⟩ := ManagedObject.exists_wire hportable
    obtain ⟨u, hu, ho⟩ := Option.bind_eq_some_iff.1 (hw.received_item typesItems)
    have hwire : ApiServer.wire o = .obj fields := by rw [ApiServer.wire, hw.encode]; rfl
    have hu : UntypedObject.decode? (ManagedObject.listItem typesItems (ApiServer.wire o)).raw =
        some u := by rw [hwire]; exact hu
    refine ⟨u :: us, ?_, ?_⟩
    · rw [List.map_cons, Json.rawItems, List.mapM_cons, hu, hus]
      rfl
    · have htyped : typed o.kind u = .ok o := by rw [typed, ho]; rfl
      rw [List.mapM_cons, htyped, hrest]
      rfl

/-- **So are the items of a listing.** -/
theorem reading_listing (s : ApiServer) {kind : Kind} (version : Nat)
    {objects : List ManagedObject} (h : ∀ o ∈ objects, o.kind = kind ∧ o.IsPortable) :
    ∃ listing, reading Listing.decode? (s.listing kind version objects) = .ok listing ∧
      listing.items.mapM (typed kind) = .ok (s.arrange objects) := by
  have hall : ∀ o ∈ s.arrange objects, o.kind = kind ∧ o.IsPortable :=
    fun o ho => h o ((s.arrange_perm objects).mem_iff.1 ho)
  unfold ApiServer.listing
  generalize s.arrange objects = items at hall
  have hlegible : ∀ o ∈ items,
      (ManagedObject.listItem s.typesItems (ApiServer.wire o)).Legible 125 := by
    intro o ho
    obtain ⟨fields, hw⟩ := ManagedObject.exists_wire (hall o ho).2
    rw [ApiServer.wire, hw.encode]
    exact hw.legible_item s.typesItems
  obtain ⟨us, hus, hread⟩ := exists_items s.typesItems hall
  refine ⟨⟨⟨none, none, some (toString version), none⟩, us⟩, ?_, hread⟩
  rw [reading_compact (by omega)]
  · have hdecode : Listing.decode? (Json.raw (.obj [("apiVersion", .str kind.apiVersion),
        ("items", .arr (items.map fun o => ManagedObject.listItem s.typesItems (ApiServer.wire o))),
        ("kind", .str (kind.name ++ "List")),
        ("metadata", .obj [("resourceVersion", .str (toString version))])])) =
        ((Json.rawItems (items.map fun o =>
          ManagedObject.listItem s.typesItems (ApiServer.wire o))).mapM UntypedObject.decode?).bind
          fun us => some ⟨⟨none, none, some (toString version), none⟩, us⟩ := rfl
    rw [hdecode, hus]
    rfl
  · have harr : (Json.arr (items.map fun o =>
        ManagedObject.listItem s.typesItems (ApiServer.wire o))).Legible 126 :=
      Json.legible_arr.2 (List.forall_mem_map.2 hlegible)
    simp [harr]

/-- The answer that a request was carried out is read. -/
theorem reading_success : reading deleted? ApiServer.success = .ok () := by
  rw [ApiServer.success, reading_compact (by omega) (by simp)]
  rfl

/-- An answer with an object is no status. -/
theorem deleted?_eq {r : RawJson} {j : Json} {name : String} (hvalue : r.value? = some j)
    (hkind : j.get? "kind" = some (.str name)) (hname : name ≠ "Status") :
    deleted? r = (UntypedObject.decode? r).map fun _ => () := by
  unfold deleted?
  rw [hvalue, Option.bind_eq_bind, Option.bind_some, hkind]
  split
  case h_1 heq => exact absurd (Json.str.inj (Option.some.inj heq)) hname
  case h_2 => rfl

/-- The object that was deleted is read, too. -/
theorem reading_deleted {o : ManagedObject} (h : o.IsPortable) :
    reading deleted? (ApiServer.object 200 o) = .ok () := by
  obtain ⟨fields, hw⟩ := ManagedObject.exists_wire h
  have hwire : ApiServer.wire o = .obj fields := by rw [ApiServer.wire, hw.encode]; rfl
  have hvalue : (Json.obj fields).raw.value? = some (.obj fields) :=
    Json.value?_raw _ (Json.ordered_obj_iff.2 ⟨hw.isWire.ascending, hw.isWire.ordered⟩)
  have hkind : (Json.obj fields).get? "kind" = some (.str o.kind.name) := hw.isWire.kind
  have hname : o.kind.name ≠ "Status" := by
    rcases o.kind with _ | _ | _ | _ | _ | _ | _ | _ | _ | _ | _ | (_ | _ | _ | _) <;> decide
  obtain ⟨u, hu, -⟩ := Option.bind_eq_some_iff.1 hw.received
  have hdecode : UntypedObject.decode? (Json.obj fields).raw = some u := hu
  rw [ApiServer.object, hwire, reading_compact (by omega) (hw.legible.mono (by omega)),
    deleted?_eq hvalue hkind hname, hdecode]
  rfl

end Cluster

end Reconciliation
