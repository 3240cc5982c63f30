import Reconciliation.Proofs.Cluster.Server

/-!
# Exchanges with any server

What the calls of the store send, and what they make of the answers, when nothing is known of the
server at the other end: it may answer each request with any code and any text.

* `Exchange`, `Transport.Logs` -- a request with its answer, and a world that keeps them in order;
  every transport can be listened to (`Transport.overheard`);
* `HttpResponse.refusal?`, `HttpResponse.Holds` -- what an answer says: why it refuses, or which
  object it holds;
* `ObjectIdentity.IsReachable` -- the path of an object can be asked for;
* `Cluster.getting` to `Cluster.deleting` -- the only requests that calls about such an object send;
* `Cluster.gotten`, `Cluster.written`, `Cluster.gone` -- what the calls make of an answer, with what
  that says of it;
* **`Cluster.get_exchange`**, **`Cluster.write_exchange`**, **`Cluster.delete_exchange`** -- each
  call is one exchange, or none if there is no way to write the request down.
-/

namespace Reconciliation

/-! ## 1. Listening -/

/-- A request that was sent, and its answer. -/
structure Exchange where
  request : HttpRequest
  response : HttpResponse

/-- The world keeps what was exchanged with it, in order. -/
def Transport.Logs (t : Transport σ) (log : σ → List Exchange) : Prop :=
  ∀ request w, log (t request w).2 = log w ++ [⟨request, (t request w).1⟩]

/-- A world, and what was exchanged with it. -/
structure Overheard (σ : Type) where
  world : σ
  exchanges : List Exchange

/-- The transport, with its exchanges written down. -/
def Transport.overheard (t : Transport σ) : Transport (Overheard σ) := fun request w =>
  ((t request w.world).1,
    ⟨(t request w.world).2, w.exchanges ++ [⟨request, (t request w.world).1⟩]⟩)

theorem Transport.logs_overheard (t : Transport σ) : t.overheard.Logs (·.exchanges) :=
  fun _ _ => rfl

/-! ## 2. What an answer says -/

namespace HttpResponse

/-- Why the answer refuses the request, if it does. -/
def refusal? (r : HttpResponse) : Option Refusal :=
  if r.isRefusal then some (.ofResponse r) else none

/-- The object in an answer, before its kind is looked at. -/
def untyped? (r : HttpResponse) : Option UntypedObject :=
  if r.isRefusal then none else (RawJson.ofText? r.body).bind UntypedObject.decode?

/-- The answer holds an object, which reads as the kind. -/
structure Holds (r : HttpResponse) (kind : Kind) (u : UntypedObject) (o : ManagedObject) :
    Prop where
  untyped : r.untyped? = some u
  typed : ManagedObject.ofUntyped? kind u = some o

/-- The answer is that there is no such object. -/
def IsNotFound (r : HttpResponse) : Prop := ∃ why, r.refusal? = some why ∧ why.reason = "NotFound"

theorem Holds.exists_decode? {r : HttpResponse} {kind : Kind} {u : UntypedObject}
    {o : ManagedObject} (h : r.Holds kind u o) :
    ∃ raw, RawJson.ofText? r.body = some raw ∧ UntypedObject.decode? raw = some u := by
  have hu := h.untyped
  unfold untyped? at hu
  split at hu
  · cases hu
  · exact Option.bind_eq_some_iff.1 hu

end HttpResponse

namespace Cluster

/-- The client takes an answer for a refusal just if it is one. -/
theorem reading_eq_refused {decode? : RawJson → Option α} {r : HttpResponse} {why : Refusal} :
    reading decode? r = .error (.refused why) ↔ r.refusal? = some why := by
  unfold reading HttpResponse.refusal?
  split
  · simp
  · cases (RawJson.ofText? r.body).bind decode? <;> simp

/-- The client finds an object in an answer just if there is one. -/
theorem reading_eq_ok {r : HttpResponse} {u : UntypedObject} :
    reading UntypedObject.decode? r = .ok u ↔ r.untyped? = some u := by
  unfold reading HttpResponse.untyped?
  split
  · simp
  · cases (RawJson.ofText? r.body).bind UntypedObject.decode? <;> simp

theorem typed_eq_ok {kind : Kind} {u : UntypedObject} {o : ManagedObject} :
    typed kind u = .ok o ↔ ManagedObject.ofUntyped? kind u = some o := by
  unfold typed
  cases ManagedObject.ofUntyped? kind u <;> simp

theorem isNotFound_iff {r : HttpResponse} : r.IsNotFound ↔
    ∃ why, reading UntypedObject.decode? r = .error (.refused why) ∧ why.reason = "NotFound" := by
  simp only [reading_eq_refused, HttpResponse.IsNotFound]

theorem holds_iff {r : HttpResponse} {kind : Kind} {u : UntypedObject} {o : ManagedObject} :
    r.Holds kind u o ↔ reading UntypedObject.decode? r = .ok u ∧ typed kind u = .ok o := by
  rw [reading_eq_ok, typed_eq_ok]
  exact ⟨fun h => ⟨h.untyped, h.typed⟩, fun h => ⟨h.1, h.2⟩⟩

end Cluster

/-! ## 3. Requests -/

/-- The path of the object can be asked for. -/
structure ObjectIdentity.IsReachable (id : ObjectIdentity) : Prop where
  named : id.name ≠ ""
  path : RequestTarget.IsPath id.path
  short : id.path.utf8ByteSize ≤ 65534

instance (id : ObjectIdentity) : Decidable id.IsReachable :=
  decidable_of_iff (id.name ≠ "" ∧ RequestTarget.IsPath id.path ∧ id.path.utf8ByteSize ≤ 65534)
    ⟨fun ⟨named, path, short⟩ => ⟨named, path, short⟩,
      fun ⟨named, path, short⟩ => ⟨named, path, short⟩⟩

/-- So can that of its collection. -/
theorem ObjectIdentity.IsReachable.isPath_ofKind {id : ObjectIdentity} (h : id.IsReachable) :
    RequestTarget.IsPath (ResourcePath.ofKind id.kind id.namespace?) := by
  intro c hc
  refine h.path c ?_
  rw [ObjectIdentity.path, String.toList_append, String.toList_append]
  exact List.mem_append_left _ (List.mem_append_left _ hc)

/-- A request to an address with parameters asks for path and parameters. -/
theorem HttpRequest.eq_of_to? {method : HttpMethod} {path : String}
    {parameters : List (String × String)} {content : Option HttpContent} {request : HttpRequest}
    (hpath : RequestTarget.IsPath path)
    (h : to? method (Cluster.address path parameters) content = some request) :
    request = ⟨method, ⟨path, Query.encode parameters⟩, content⟩ := by
  unfold to? at h
  by_cases hsize : (Cluster.address path parameters).utf8ByteSize ≤ 65534
  · rw [Cluster.address, RequestTarget.ofAddress?_parameters hpath hsize] at h
    exact (Option.some.inj h).symm
  · rw [RequestTarget.ofAddress?_of_lt (Nat.lt_of_not_le hsize)] at h
    cases h

namespace Cluster

/-- Asks for an object. -/
def getting (id : ObjectIdentity) : HttpRequest := ⟨.get, ⟨id.path, ""⟩, none⟩

/-- Puts an object into its collection. -/
def posting (c : Cluster σ) (id : ObjectIdentity) (body : Json) : HttpRequest where
  method := .post
  target := ⟨ResourcePath.ofKind id.kind id.namespace?, Query.encode c.managed⟩
  content := some ⟨contentType, body⟩

/-- Puts an object in the place of another. -/
def putting (c : Cluster σ) (id : ObjectIdentity) (body : Json) : HttpRequest where
  method := .put
  target := ⟨id.path, Query.encode c.managed⟩
  content := some ⟨contentType, body⟩

/-- Takes an object away. -/
def deleting (id : ObjectIdentity) : HttpRequest where
  method := .delete
  target := ⟨id.path, Query.encode []⟩
  content := some ⟨contentType, .obj [("propagationPolicy", .str "Background")]⟩

variable {id : ObjectIdentity} {request : HttpRequest} {body : Json}

theorem getRequest_of_isReachable (h : id.IsReachable) : getRequest id = some (getting id) :=
  getRequest_eq h.named h.path h.short

theorem eq_posting {c : Cluster σ} (h : id.IsReachable)
    (hrequest : c.createRequest id body = some request) : request = c.posting id body := by
  unfold createRequest at hrequest
  split at hrequest
  · exact HttpRequest.eq_of_to? h.isPath_ofKind hrequest
  · cases hrequest

theorem eq_putting {c : Cluster σ} (h : id.IsReachable)
    (hrequest : c.updateRequest id body = some request) : request = c.putting id body := by
  unfold updateRequest at hrequest
  rw [ObjectIdentity.ofIdentity_eq h.named, Option.bind_eq_bind, Option.bind_some] at hrequest
  exact HttpRequest.eq_of_to? h.path hrequest

theorem eq_deleting (h : id.IsReachable) (hrequest : deleteRequest id = some request) :
    request = deleting id := by
  unfold deleteRequest at hrequest
  rw [ObjectIdentity.ofIdentity_eq h.named, Option.bind_eq_bind, Option.bind_some] at hrequest
  exact HttpRequest.eq_of_to? h.path hrequest

/-- Wherever an update goes, it puts the object there. -/
theorem updateRequest_eq_some {c : Cluster σ} (hrequest : c.updateRequest id body = some request) :
    request.method = .put ∧ request.content = some ⟨contentType, body⟩ := by
  obtain ⟨path, -, hrequest⟩ := Option.bind_eq_some_iff.1
    (show (ResourcePath.ofIdentity id).bind _ = some request from hrequest)
  obtain ⟨target, -, rfl⟩ := Option.map_eq_some_iff.1 hrequest
  exact ⟨rfl, rfl⟩

/-! ## 4. What the calls make of the answers -/

/-- What a get makes of what was read. -/
def gotten (kind : Kind) : Except ApiError UntypedObject → Except StoreError (Option ManagedObject)
  | .ok u => (typed kind u).map some
  | .error (.refused why) =>
    if why.reason = "NotFound" then .ok none else .error (failed (.refused why))
  | .error .unusable => .error (failed .unusable)

/-- What a write makes of what was read. -/
def written (kind : Kind) (refused : Refusal → Option StoreError) :
    Except ApiError UntypedObject → Except StoreError ManagedObject
  | .ok u => typed kind u
  | .error (.refused why) => .error ((refused why).getD (failed (.refused why)))
  | .error .unusable => .error (failed .unusable)

/-- What a deletion makes of what was read. -/
def gone : Except ApiError Unit → Except StoreError Unit
  | .ok () => .ok ()
  | .error e => if e.code? = some 404 then .ok () else .error (failed e)

section

variable {kind : Kind} {answer : HttpResponse}

theorem gotten_missing :
    gotten kind (reading UntypedObject.decode? answer) = .ok none ↔ answer.IsNotFound := by
  rw [isNotFound_iff]
  cases reading UntypedObject.decode? answer with
  | ok u => cases h : typed kind u <;> simp [gotten, h, Except.map]
  | error e => cases e <;> simp [gotten]

theorem gotten_found {o : ManagedObject} :
    gotten kind (reading UntypedObject.decode? answer) = .ok (some o) ↔
      ∃ u, answer.Holds kind u o := by
  simp only [holds_iff]
  cases reading UntypedObject.decode? answer with
  | ok u => cases h : typed kind u <;> simp [gotten, h, Except.map]
  | error e =>
    cases e with
    | refused why => by_cases hreason : why.reason = "NotFound" <;> simp [gotten, hreason]
    | unusable => simp [gotten]

theorem written_done {refused : Refusal → Option StoreError} {o : ManagedObject} :
    written kind refused (reading UntypedObject.decode? answer) = .ok o ↔
      ∃ u, answer.Holds kind u o := by
  simp only [holds_iff]
  cases reading UntypedObject.decode? answer with
  | ok u => simp [written]
  | error e => cases e <;> simp [written]

theorem written_refused {refused : Refusal → Option StoreError} {why : Refusal}
    (h : answer.refusal? = some why) :
    written kind refused (reading UntypedObject.decode? answer) =
      .error ((refused why).getD (failed (.refused why))) := by
  rw [reading_eq_refused.2 h]
  rfl

theorem gone_refused {why : Refusal} (h : answer.refusal? = some why) :
    gone (reading deleted? answer) = .ok () ↔ why.code = 404 := by
  rw [reading_eq_refused.2 h]
  simp [gone, ApiError.code?]

end

/-! ## 5. Calls -/

section

variable {c : Cluster σ} {log : σ → List Exchange} (hl : c.transport.Logs log)

include hl

/-- A request that can be written down is exchanged for an answer. -/
theorem send_exchange (request : HttpRequest) (decode? : RawJson → Option α) (w : σ) :
    ∃ answer w', c.send (some request) decode? w = (reading decode? answer, w') ∧
      log w' = log w ++ [⟨request, answer⟩] :=
  ⟨_, _, send_eq c request decode? w, hl request w⟩

/-- **A get is one exchange.** -/
theorem get_exchange (h : id.IsReachable) {w w' : σ}
    {result : Except StoreError (Option ManagedObject)} (hget : c.get id w = (result, w')) :
    ∃ answer, log w' = log w ++ [⟨getting id, answer⟩] ∧
      gotten id.kind (reading UntypedObject.decode? answer) = result := by
  obtain ⟨answer, after, hsend, hlog⟩ := send_exchange hl (getting id) UntypedObject.decode? w
  have hrun : c.get id w = (gotten id.kind (reading UntypedObject.decode? answer), after) := by
    unfold Cluster.get
    rw [run_bind, getRequest_of_isReachable h, hsend]
    generalize reading UntypedObject.decode? answer = r
    match r with
    | .ok u => rfl
    | .error .unusable => rfl
    | .error (.refused why) =>
      dsimp only [gotten]
      split <;> rfl
  obtain ⟨hresult, rfl⟩ := Prod.mk.inj (hrun.symm.trans hget)
  exact ⟨answer, hlog, hresult⟩

/-- It fails on an answer that says neither that there is no object nor which one there is. -/
theorem unread_of_get (h : id.IsReachable) {w w' : σ} {cause : StoreError}
    (hget : c.get id w = (.error cause, w')) :
    ∃ answer, log w' = log w ++ [⟨getting id, answer⟩] ∧ ¬answer.IsNotFound ∧
      ∀ u o, ¬answer.Holds id.kind u o := by
  obtain ⟨answer, hlog, hresult⟩ := get_exchange hl h hget
  refine ⟨answer, hlog, fun hmissing => ?_, fun u o hholds => ?_⟩
  · rw [gotten_missing.2 hmissing] at hresult
    cases hresult
  · rw [gotten_found.2 ⟨u, hholds⟩] at hresult
    cases hresult

theorem missing_of_get (h : id.IsReachable) {w w' : σ} (hget : c.get id w = (.ok none, w')) :
    ∃ answer, log w' = log w ++ [⟨getting id, answer⟩] ∧ answer.IsNotFound := by
  obtain ⟨answer, hlog, hresult⟩ := get_exchange hl h hget
  exact ⟨answer, hlog, gotten_missing.1 hresult⟩

theorem found_of_get (h : id.IsReachable) {w w' : σ} {o : ManagedObject}
    (hget : c.get id w = (.ok (some o), w')) :
    ∃ answer u, log w' = log w ++ [⟨getting id, answer⟩] ∧ answer.Holds id.kind u o := by
  obtain ⟨answer, hlog, hresult⟩ := get_exchange hl h hget
  obtain ⟨u, hholds⟩ := gotten_found.1 hresult
  exact ⟨answer, u, hlog, hholds⟩

/-- **A write is one exchange, or none**: an object may have no wire form, a request no address. -/
theorem write_exchange (o : ManagedObject) (request : Json → Option HttpRequest)
    (refused : Refusal → Option StoreError) (w : σ) :
    ((o.toUntyped?.bind (·.encode?)).bind request = none ∧
        ∃ cause, c.write o request refused w = (.error cause, w)) ∨
      ∃ body sent answer w', o.toUntyped?.bind (·.encode?) = some body ∧
        request body = some sent ∧ log w' = log w ++ [⟨sent, answer⟩] ∧
        c.write o request refused w =
          (written o.kind refused (reading UntypedObject.decode? answer), w') := by
  unfold Cluster.write
  cases hbody : o.toUntyped?.bind (·.encode?) with
  | none => exact .inl ⟨rfl, _, rfl⟩
  | some body =>
    rw [Option.bind_some]
    dsimp only
    cases hsent : request body with
    | none => exact .inl ⟨rfl, _, rfl⟩
    | some sent =>
      obtain ⟨answer, w', hsend, hlog⟩ := send_exchange hl sent UntypedObject.decode? w
      refine .inr ⟨body, sent, answer, w', rfl, hsent, hlog, ?_⟩
      rw [run_bind, hsend]
      generalize reading UntypedObject.decode? answer = r
      match r with
      | .ok u => rfl
      | .error .unusable => rfl
      | .error (.refused why) => rfl

/-- **So is a deletion.** -/
theorem delete_exchange (id : ObjectIdentity) (w : σ) :
    (deleteRequest id = none ∧ ∃ cause, c.delete id w = (.error cause, w)) ∨
      ∃ sent answer w', deleteRequest id = some sent ∧ log w' = log w ++ [⟨sent, answer⟩] ∧
        c.delete id w = (gone (reading deleted? answer), w') := by
  unfold Cluster.delete
  cases hsent : deleteRequest id with
  | none => exact .inl ⟨rfl, _, rfl⟩
  | some sent =>
    obtain ⟨answer, w', hsend, hlog⟩ := send_exchange hl sent deleted? w
    refine .inr ⟨sent, answer, w', rfl, hlog, ?_⟩
    rw [run_bind, hsend]
    cases reading deleted? answer with
    | ok u => rfl
    | error e =>
      dsimp only [gone]
      split <;> rfl

end

end Cluster

end Reconciliation
