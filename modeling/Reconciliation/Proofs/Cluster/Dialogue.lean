import Reconciliation.Proofs.Cluster.Exchange
import Reconciliation.Proofs.Pass.Attempts
import Reconciliation.Proofs.Wire.Version

/-!
# What a sync says to a server

A sync over a cluster, seen from the other end: whatever the server answers, it hears of one object
after the other, and of each one or two requests.

* `Dialogue` -- the requests for one object with their answers, and what is recorded of them; a
  request that writes follows on an answer that asks for it, and an update names the version that
  was read;
* `Cluster.create_dialogue`, `Cluster.update_dialogue`, `Cluster.delete_dialogue` -- how it goes on
  after the first answer;
* **`Cluster.syncObject_dialogue`** -- the attempt at an object is a dialogue;
* **`Engine.sync_dialogues`** -- and a sync is one dialogue after the other (`Dialogues`), as long
  as the paths of its objects can be asked for (`Engine.sync_not_dialogues`).
-/

namespace Reconciliation

/-! ## 1. Dialogues -/

/-- The requests for one object and their answers, and what is recorded of it. -/
inductive Dialogue (c : Cluster σ) (registry : Registry) (owner? : Option OwnerReference)
    (object : ManagedObject) : Attempt → List Exchange → Prop
  /-- The answer is neither that there is no object, nor an object. -/
  | unread {asked : HttpResponse} (hmissing : ¬asked.IsNotFound)
      (hunread : ∀ u o, ¬asked.Holds object.kind u o) (cause : StoreError) :
      Dialogue c registry owner? object (.failed ⟨object.identity, .store cause⟩)
        [⟨Cluster.getting object.identity, asked⟩]
  | unmerged {asked : HttpResponse} {u : UntypedObject} {existing : ManagedObject}
      (hread : asked.Holds object.kind u existing) {cause : MutateError}
      (hm : registry.mutate existing (object.attach owner?) = .error cause)
      (hkept : ∀ violation, cause ≠ .immutableField violation) :
      Dialogue c registry owner? object (.failed ⟨object.identity, .mutation cause⟩)
        [⟨Cluster.getting object.identity, asked⟩]
  | unchanged {asked : HttpResponse} {u : UntypedObject} {existing merged : ManagedObject}
      (hread : asked.Holds object.kind u existing)
      (hm : registry.mutate existing (object.attach owner?) = .ok merged)
      (hs : merged.same existing = true) :
      Dialogue c registry owner? object (.synced ⟨object.identity, .unchanged, existing.uid?⟩)
        [⟨Cluster.getting object.identity, asked⟩]
  /-- What is missing is created. -/
  | posted {asked answer : HttpResponse} (hmissing : asked.IsNotFound) {body : Json}
      (hbody : (object.attach owner?).toUntyped?.bind (·.encode?) = some body)
      {result : Except StoreError ManagedObject}
      (hdone : ∀ o, result = .ok o ↔ ∃ u, answer.Holds object.kind u o)
      (htaken : ∀ why, answer.refusal? = some why → why.code = 409 →
        result = .error (.alreadyExists object.identity)) :
      Dialogue c registry owner? object
        (.ofResult object.identity (recordOf object.identity .created result (·.uid?)))
        [⟨Cluster.getting object.identity, asked⟩, ⟨c.posting object.identity body, answer⟩]
  /-- What is there is updated, under the uid and the version that were read. -/
  | put {asked answer : HttpResponse} {u : UntypedObject} {existing merged : ManagedObject}
      (hread : asked.Holds object.kind u existing) (hid : existing.identity = object.identity)
      (hm : registry.mutate existing (object.attach owner?) = .ok merged)
      (hs : merged.same existing = false) {body : Json}
      (hbody : merged.toUntyped?.bind (·.encode?) = some body) (hstates : body.States u.metadata)
      {result : Except StoreError ManagedObject}
      (hdone : ∀ o, result = .ok o ↔ ∃ u, answer.Holds object.kind u o)
      (hstale : ∀ why, answer.refusal? = some why → why.code = 409 →
        result = .error (.conflict object.identity why.message))
      (hmissing : ∀ why, answer.refusal? = some why → why.code = 404 →
        result = .error (.notFound object.identity)) :
      Dialogue c registry owner? object
        (.ofResult object.identity (recordOf object.identity .updated result (·.uid?)))
        [⟨Cluster.getting object.identity, asked⟩, ⟨c.putting object.identity body, answer⟩]
  /-- What cannot become the desired object is deleted. -/
  | deleted {asked answer : HttpResponse} {u : UntypedObject} {existing : ManagedObject}
      (hread : asked.Holds object.kind u existing) {violation : ImmutableField}
      (hm : registry.mutate existing (object.attach owner?) = .error (.immutableField violation))
      {result : Except StoreError Unit}
      (hgone : ∀ why, answer.refusal? = some why → (result = .ok () ↔ why.code = 404)) :
      Dialogue c registry owner? object
        (.ofResult object.identity (recordOf object.identity .recreating result fun _ => none))
        [⟨Cluster.getting object.identity, asked⟩, ⟨Cluster.deleting object.identity, answer⟩]
  /-- The answer holds another object than was asked for. What becomes of it is sent to where it
  says that it belongs. -/
  | astray {asked answer : HttpResponse} {u : UntypedObject} {existing merged : ManagedObject}
      (hread : asked.Holds object.kind u existing) (hid : existing.identity ≠ object.identity)
      (hm : registry.mutate existing (object.attach owner?) = .ok merged)
      (hs : merged.same existing = false) {sent : HttpRequest} {body : Json}
      (hmethod : sent.method = .put) (hcontent : sent.content = some ⟨Cluster.contentType, body⟩)
      (hstates : body.States u.metadata) (result : Except StoreError ManagedObject) :
      Dialogue c registry owner? object
        (.ofResult object.identity (recordOf object.identity .updated result (·.uid?)))
        [⟨Cluster.getting object.identity, asked⟩, ⟨sent, answer⟩]
  /-- A request that would create cannot be written down. -/
  | unposted {asked : HttpResponse} (hmissing : asked.IsNotFound)
      (hunsent : ((object.attach owner?).toUntyped?.bind (·.encode?)).bind
        (c.createRequest object.identity) = none) (cause : StoreError) :
      Dialogue c registry owner? object (.failed ⟨object.identity, .store cause⟩)
        [⟨Cluster.getting object.identity, asked⟩]
  /-- Nor can one that would update. -/
  | unput {asked : HttpResponse} {u : UntypedObject} {existing merged : ManagedObject}
      (hread : asked.Holds object.kind u existing)
      (hm : registry.mutate existing (object.attach owner?) = .ok merged)
      (hs : merged.same existing = false)
      (hunsent : (merged.toUntyped?.bind (·.encode?)).bind
        (c.updateRequest merged.identity) = none) (cause : StoreError) :
      Dialogue c registry owner? object (.failed ⟨object.identity, .store cause⟩)
        [⟨Cluster.getting object.identity, asked⟩]
  /-- Nor can one that would delete. -/
  | undeleted {asked : HttpResponse} {u : UntypedObject} {existing : ManagedObject}
      (hread : asked.Holds object.kind u existing) {violation : ImmutableField}
      (hm : registry.mutate existing (object.attach owner?) = .error (.immutableField violation))
      (hunsent : Cluster.deleteRequest object.identity = none) (cause : StoreError) :
      Dialogue c registry owner? object (.failed ⟨object.identity, .store cause⟩)
        [⟨Cluster.getting object.identity, asked⟩]

/-- One dialogue for each object, in order. -/
def Dialogues (c : Cluster σ) (registry : Registry) (owner? : Option OwnerReference) :
    List ManagedObject → List (Attempt × List Exchange) → Prop :=
  List.Forall₂ fun o d => Dialogue c registry owner? o d.1 d.2

/-- Each dialogue starts with the question for its object. -/
theorem Dialogue.starts {c : Cluster σ} {registry : Registry} {owner? : Option OwnerReference}
    {object : ManagedObject} {attempt : Attempt} {exchanges : List Exchange}
    (h : Dialogue c registry owner? object attempt exchanges) :
    ∃ asked rest, exchanges = ⟨Cluster.getting object.identity, asked⟩ :: rest := by
  cases h <;> exact ⟨_, _, rfl⟩

namespace Cluster

variable {c : Cluster σ} {log : σ → List Exchange} {registry : Registry}
  {owner? : Option OwnerReference}

/-! ## 2. The second request -/

section

variable {object : ManagedObject} {asked : HttpResponse} (hl : c.transport.Logs log)

include hl

/-- A write is sent, or recorded as a failure. -/
theorem write_dialogue {o : ManagedObject} {request : Json → Option HttpRequest}
    {refused : Refusal → Option StoreError} {outcome : SyncOutcome}
    (hunsent : (o.toUntyped?.bind (·.encode?)).bind request = none → ∀ cause,
      Dialogue c registry owner? object (.failed ⟨object.identity, .store cause⟩)
        [⟨getting object.identity, asked⟩])
    (hsent : ∀ body sent answer, o.toUntyped?.bind (·.encode?) = some body →
      request body = some sent →
      Dialogue c registry owner? object (.ofResult object.identity (recordOf object.identity outcome
          (written o.kind refused (reading UntypedObject.decode? answer)) (·.uid?)))
        [⟨getting object.identity, asked⟩, ⟨sent, answer⟩]) (w : σ) :
    ∃ part, log (c.write o request refused w).2 = log w ++ part ∧
      Dialogue c registry owner? object (.ofResult object.identity
          (recordOf object.identity outcome (c.write o request refused w).1 (·.uid?)))
        (⟨getting object.identity, asked⟩ :: part) := by
  rcases write_exchange hl o request refused w with
    ⟨hnone, cause, hrun⟩ | ⟨body, sent, answer, w', hbody, hrequest, hlog, hrun⟩
  · rw [hrun]
    exact ⟨[], (List.append_nil _).symm, hunsent hnone cause⟩
  · rw [hrun]
    exact ⟨[⟨sent, answer⟩], hlog, hsent body sent answer hbody hrequest⟩

/-- What follows on the answer that there is no object. -/
theorem create_dialogue (h : object.identity.IsReachable) (hmissing : asked.IsNotFound) (w : σ) :
    ∃ part, log (c.create (object.attach owner?) w).2 = log w ++ part ∧
      Dialogue c registry owner? object (.ofResult object.identity
          (recordOf object.identity .created (c.create (object.attach owner?) w).1 (·.uid?)))
        (⟨getting object.identity, asked⟩ :: part) := by
  have hid := object.identity_attach owner?
  have hkind := object.kind_attach owner?
  unfold Cluster.create
  rw [hid]
  refine write_dialogue hl (.unposted hmissing) (fun body sent answer hbody hrequest => ?_) w
  obtain rfl := eq_posting h hrequest
  rw [hkind]
  refine .posted hmissing hbody (fun o => written_done) fun why hwhy hcode => ?_
  rw [written_refused hwhy, if_pos hcode]
  rfl

/-- What follows on an answer with an object that is not the desired one. -/
theorem update_dialogue (h : object.identity.IsReachable) {u : UntypedObject}
    {existing merged : ManagedObject} (hread : asked.Holds object.kind u existing)
    (hm : registry.mutate existing (object.attach owner?) = .ok merged)
    (hs : merged.same existing = false) (w : σ) :
    ∃ part, log (c.update merged w).2 = log w ++ part ∧
      Dialogue c registry owner? object (.ofResult object.identity
          (recordOf object.identity .updated (c.update merged w).1 (·.uid?)))
        (⟨getting object.identity, asked⟩ :: part) := by
  have hmerged := Registry.identity_mutate hm
  obtain ⟨raw, -, hu⟩ := hread.exists_decode?
  have hstates : ∀ body, merged.toUntyped?.bind (·.encode?) = some body →
      body.States u.metadata :=
    fun body hbody => Registry.states_of_sent hu hread.typed hm hbody
  refine write_dialogue hl (.unput hread hm hs) (fun body sent answer hbody hrequest => ?_) w
  by_cases hid : existing.identity = object.identity
  · have hplace : merged.identity = object.identity := hmerged.trans hid
    have hkind : merged.kind = object.kind := congrArg ObjectIdentity.kind hplace
    rw [hplace] at hrequest
    obtain rfl := eq_putting h hrequest
    rw [hkind, hplace]
    refine .put hread hid hm hs hbody (hstates body hbody) (fun o => written_done)
      (fun why hwhy hcode => ?_) fun why hwhy hcode => ?_
    · rw [written_refused hwhy, if_pos hcode]
      rfl
    · rw [written_refused hwhy, if_neg (by omega), if_pos hcode]
      rfl
  · obtain ⟨hmethod, hcontent⟩ := updateRequest_eq_some hrequest
    exact .astray hread hid hm hs hmethod hcontent (hstates body hbody) _

/-- What follows on an answer with an object that cannot become the desired one. -/
theorem delete_dialogue (h : object.identity.IsReachable) {u : UntypedObject}
    {existing : ManagedObject} (hread : asked.Holds object.kind u existing)
    {violation : ImmutableField}
    (hm : registry.mutate existing (object.attach owner?) = .error (.immutableField violation))
    (w : σ) :
    ∃ part, log (c.delete object.identity w).2 = log w ++ part ∧
      Dialogue c registry owner? object (.ofResult object.identity
          (recordOf object.identity .recreating (c.delete object.identity w).1 fun _ => none))
        (⟨getting object.identity, asked⟩ :: part) := by
  rcases delete_exchange hl object.identity w with
    ⟨hnone, cause, hrun⟩ | ⟨sent, answer, w', hrequest, hlog, hrun⟩
  · rw [hrun]
    exact ⟨[], (List.append_nil _).symm, .undeleted hread hm hnone cause⟩
  · rw [hrun]
    obtain rfl := eq_deleting h hrequest
    exact ⟨_, hlog, .deleted hread hm fun why hwhy => gone_refused hwhy⟩

/-! ## 3. One object -/

omit hl in
/-- What follows is added to what was said before. -/
theorem dialogue_after {attempt : Attempt} {before w after : σ}
    (hget : log w = log before ++ [⟨getting object.identity, asked⟩])
    (hact : ∃ part, log after = log w ++ part ∧
      Dialogue c registry owner? object attempt (⟨getting object.identity, asked⟩ :: part)) :
    ∃ exchanges, log after = log before ++ exchanges ∧
      Dialogue c registry owner? object attempt exchanges := by
  obtain ⟨part, hlog, hdialogue⟩ := hact
  refine ⟨_, ?_, hdialogue⟩
  rw [hlog, hget, List.append_assoc]
  rfl

/-- **The attempt at an object is a dialogue**, whatever the server answers. -/
theorem syncObject_dialogue (registry : Registry) (owner? : Option OwnerReference)
    (h : object.identity.IsReachable) (w : σ) :
    ∃ exchanges, log (syncObject c.store registry owner? object w).2 = log w ++ exchanges ∧
      Dialogue c registry owner? object
        (.ofResult object.identity (syncObject c.store registry owner? object w).1) exchanges := by
  have hrun := Engine.syncObject_run c.store registry owner? object w
  generalize (syncObject c.store registry owner? object w).1 = result at hrun ⊢
  generalize (syncObject c.store registry owner? object w).2 = after at hrun ⊢
  cases hrun with
  | unread hget =>
    obtain ⟨asked, hlog, hmissing, hunread⟩ := unread_of_get hl h hget
    exact ⟨_, hlog, .unread hmissing hunread _⟩
  | create hget =>
    obtain ⟨asked, hlog, hmissing⟩ := missing_of_get hl h hget
    exact dialogue_after hlog (create_dialogue hl h hmissing _)
  | delete hget hm =>
    obtain ⟨asked, u, hlog, hread⟩ := found_of_get hl h hget
    exact dialogue_after hlog (delete_dialogue hl h hread hm _)
  | unmerged hget hm hkept =>
    obtain ⟨asked, u, hlog, hread⟩ := found_of_get hl h hget
    exact ⟨_, hlog, .unmerged hread hm hkept⟩
  | unchanged hget hm hs =>
    obtain ⟨asked, u, hlog, hread⟩ := found_of_get hl h hget
    exact ⟨_, hlog, .unchanged hread hm hs⟩
  | update hget hm hs =>
    obtain ⟨asked, u, hlog, hread⟩ := found_of_get hl h hget
    exact dialogue_after hlog (update_dialogue hl h hread hm hs _)

end

end Cluster

/-! ## 4. Prepared answers -/

/-- An answer that refuses, with a code and a reason. -/
def HttpResponse.refusing (code : Nat) (reason : String) : HttpResponse where
  status := code
  body := "\x7b\"status\":\"Failure\",\"reason\":\"" ++ reason ++ "\",\"code\":" ++ toString code ++
    "\x7d"

/-- An answer with an object in a version, by its name and what it has besides. -/
def HttpResponse.storing (name others : String) : HttpResponse where
  status := 200
  body := "\x7b\"metadata\":\x7b\"name\":\"" ++ name ++
    "\",\"namespace\":\"tracing\",\"resourceVersion\":\"7\"" ++ others ++ "\x7d"

/-- A server that gives prepared answers, and is silent afterwards. -/
def Transport.scripted : Transport (List HttpResponse) := fun _ answers =>
  (answers.headD ⟨500, ""⟩, answers.tail)

/-- The cluster of that server, which keeps what was exchanged. -/
def Cluster.scripted : Cluster (Overheard (List HttpResponse)) :=
  ⟨Transport.scripted.overheard, "one"⟩

theorem Cluster.logs_scripted : scripted.transport.Logs (·.exchanges) := Transport.logs_overheard _

/-! ## 5. All objects -/

namespace Engine

/-- **A sync is one dialogue after the other.** Whatever the server answers, the objects are
attempted in the order of the list until the sync is cancelled, and what is sent for them is what
their dialogues say: one request to read the object, and at most one more. -/
theorem sync_dialogues {c : Cluster σ} {log : σ → List Exchange} (hl : c.transport.Logs log)
    (cancelled : σ → Bool) (registry : Registry) (settings : Settings) (owner : Owner)
    {desired : List ManagedObject} (h : ∀ o ∈ desired, o.identity.IsReachable) (r : Run σ) :
    let synced := (c.engine cancelled registry settings).sync owner desired r
    ∃ (attempted left : List ManagedObject) (dialogues : List (Attempt × List Exchange)),
      desired = attempted ++ left ∧
      Dialogues c registry owner.reference? attempted dialogues ∧
      log synced.2.world = log r.world ++ dialogues.flatMap (·.2) ∧
      (left ≠ [] → cancelled synced.2.world = true) ∧
      synced.1 = summarize (dialogues.map (·.1) ++ left.map fun o => .skipped o.identity) := by
  intro synced
  obtain ⟨attempted, left, dialogues, hsplit, hdialogues, hlog, hcancelled, hresult⟩ :=
    attempts_each (c.engine cancelled registry settings) owner.reference?
      (fun o ho w => Cluster.syncObject_dialogue hl registry owner.reference? (h o ho) w) r
  have hreport := congrArg summarize hresult
  exact ⟨attempted, left, dialogues, hsplit, hdialogues, hlog, hcancelled, hreport⟩

/-- A sync that nobody cancels, with a server that has prepared its answers. -/
def syncScripted (answers : List HttpResponse) (desired : List ManagedObject) :
    Except SyncError SyncReport × Run (Overheard (List HttpResponse)) :=
  (Cluster.scripted.engine (fun _ => false) .standard .default).sync (.sample "one" "a") desired
    (.start ⟨answers, []⟩)

theorem syncScripted_eq (answers : List HttpResponse) (desired : List ManagedObject) :
    syncScripted answers desired =
      (Cluster.scripted.engine (fun _ => false) .standard .default).sync (.sample "one" "a") desired
        (.start ⟨answers, []⟩) := rfl

/-- Of four objects, the first is missing when it is asked for and taken when it is created, the
second is there but stale when it is updated, the answer for the third is no object, and the last
cannot become what is desired and is gone when it is deleted. -/
theorem sync_dialogues_scripted :
    let desired := ["first", "second", "third"].map
      (ManagedObject.sample (.sample "one" "a")) ++ [.granting "reader"]
    let writer := ",\"creationTimestamp\":\"2024-01-01T00:00:00Z\"\x7d" ++
      ",\"roleRef\":\x7b\"apiGroup\":\"\",\"kind\":\"Role\",\"name\":\"writer\"\x7d"
    let answers : List HttpResponse :=
      [.refusing 404 "NotFound", .refusing 409 "AlreadyExists",
        .storing "second" "\x7d", .refusing 409 "Conflict", ⟨200, "[]"⟩,
        .storing "grant" writer, .refusing 404 "NotFound"]
    (∀ o ∈ desired, o.identity.IsReachable) ∧
      (syncScripted answers desired).2.world.exchanges.map (·.request.method) =
        [.get, .post, .get, .put, .get, .get, .delete] ∧
      (SyncReport.ofResult (syncScripted answers desired).1).records.map (·.outcome) =
        [.recreating] ∧
      ∃ dialogues,
        Dialogues .scripted .standard (Owner.sample "one" "a").reference? desired dialogues ∧
        (syncScripted answers desired).2.world.exchanges = dialogues.flatMap (·.2) := by
  intro desired writer answers
  have hreach : ∀ o ∈ desired, o.identity.IsReachable := by decide +kernel
  have hrun : (syncScripted answers desired).2.world.exchanges.map (·.request.method) =
        [.get, .post, .get, .put, .get, .get, .delete] ∧
      (SyncReport.ofResult (syncScripted answers desired).1).records.map (·.outcome) =
        [.recreating] := by decide +kernel
  obtain ⟨attempted, left, dialogues, hsplit, hdialogues, hlog, hleft, -⟩ :=
    sync_dialogues Cluster.logs_scripted (fun _ => false) .standard .default (.sample "one" "a")
      hreach (.start ⟨answers, []⟩)
  rw [← syncScripted_eq] at hlog
  obtain rfl : left = [] := by
    by_contra hne
    cases hleft hne
  rw [List.append_nil] at hsplit
  exact ⟨hreach, hrun.1, hrun.2, dialogues, hsplit ▸ hdialogues, hlog⟩

theorem not_dialogues {c : Cluster σ} {registry : Registry} {owner? : Option OwnerReference}
    {object : ManagedObject} {exchanges : List Exchange}
    (h : exchanges.head?.map (·.request.target.path) ≠ some object.identity.path) :
    ¬∃ dialogues, Dialogues c registry owner? [object] dialogues ∧
      exchanges = dialogues.flatMap (·.2) := by
  rintro ⟨dialogues, hdialogues, rfl⟩
  cases hdialogues with
  | cons hfirst hrest =>
    obtain ⟨asked, rest, heq⟩ := hfirst.starts
    rw [List.flatMap_cons, heq] at h
    exact h rfl

/-- Nothing is sent for an object that cannot be asked for. -/
theorem syncScripted_unsent {object : ManagedObject}
    (h : Cluster.getRequest object.identity = none) (answers : List HttpResponse) :
    (syncScripted answers [object]).2.world.exchanges = [] := by
  let e := Cluster.scripted.engine (fun _ => false) .standard .default
  let owner? := (Owner.sample "one" "a").reference?
  have hget : e.store.get object.identity ⟨answers, []⟩ = (.error (.api none), ⟨answers, []⟩) :=
    Cluster.get_unsent h _
  have hrun := syncObject_run e.store e.registry owner? object ⟨answers, []⟩
  have hworld : (syncScripted answers [object]).2.world =
      (syncObject e.store e.registry owner? object ⟨answers, []⟩).2 :=
    (attempt_run owner? e object (.start ⟨answers, []⟩)).2
  rw [hworld]
  generalize (syncObject e.store e.registry owner? object ⟨answers, []⟩).1 = result at hrun
  generalize (syncObject e.store e.registry owner? object ⟨answers, []⟩).2 = after at hrun ⊢
  cases hrun with
  | unread hg =>
    cases hget.symm.trans hg
    rfl
  | create hg | delete hg | unmerged hg | unchanged hg | update hg => cases hget.symm.trans hg

/-- **Names and codes are taken at their word**: an object with a blank in its name or with too long
a path is not asked for, one with a question mark or a number sign by the part in front of it alone,
and a refusal counts for the code that its text states, whatever that of the answer is. -/
theorem sync_not_dialogues :
    let long := String.ofList (List.replicate 65535 'a')
    (∀ name ∈ ["a b", "a?b", "a#b", long],
      let object := ManagedObject.sample (.sample "one" "a") name
      object.identity.name ≠ "" ∧ ¬∃ dialogues,
        Dialogues .scripted .standard (Owner.sample "one" "a").reference? [object] dialogues ∧
        (syncScripted [] [object]).2.world.exchanges = dialogues.flatMap (·.2)) ∧
      let object := ManagedObject.sample (.sample "one" "a") "a"
      let answers : List HttpResponse :=
        [.refusing 404 "NotFound", { HttpResponse.refusing 500 "AlreadyExists" with status := 409 }]
      (syncScripted answers [object]).2.world.exchanges.map (·.response.status) = [404, 409] ∧
      (match (syncScripted answers [object]).1 with
        | .ok _ => []
        | .error e => e.failures.map (·.cause.message)) = ["Kubernetes API error: status 500"] := by
  intro long
  refine ⟨?names, by decide +kernel⟩
  have hsize : long.utf8ByteSize = 65535 := utf8ByteSize_replicate _
  simp only [List.forall_mem_cons, List.not_mem_nil, false_implies, implies_true, and_true]
  refine ⟨⟨by decide, not_dialogues ?_⟩, ⟨by decide, not_dialogues ?_⟩,
    ⟨by decide, not_dialogues ?_⟩, fun hempty => ?_, not_dialogues ?_⟩
  case refine_4 =>
    have hlong : long = "" := hempty
    rw [hlong] at hsize
    cases hsize
  case refine_5 =>
    have hunsent : Cluster.getRequest
        (ManagedObject.sample (.sample "one" "a") long).identity = none :=
      Cluster.getRequest_of_long (show 65534 < long.utf8ByteSize by omega)
    rw [syncScripted_unsent hunsent]
    exact fun h => by cases h
  all_goals decide +kernel

end Engine

end Reconciliation
