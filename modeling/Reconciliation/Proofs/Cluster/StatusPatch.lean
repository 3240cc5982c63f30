import Reconciliation.Pass.Reconcile
import Reconciliation.Proofs.Cluster.Exchange
import Reconciliation.Proofs.Pass.Stages
import Reconciliation.Proofs.Wire.Legible
import Reconciliation.Proofs.Wire.Structure

/-!
# A written status is read back

A status is written as a merge patch. The server lays it over what is there: a null in an object
removes a member, a list replaces a list, and members that the patch does not name stay. So what is
left of an old status has to be without effect, and a null must mean the same as a missing member,
or every pass would find another status than it wrote, and write again.

* `Json.mergePatch` -- JSON merge patches, as the API server applies them;
  `Json.lookup_mergeMembers` -- one rule per key;
* `Condition.reads_back`, `OwnerStatus.reads_patched` -- what the patch leaves is read as written;
* **`Cluster.statusWriter_exchange`** -- writing a status is one exchange, with that patch;
* `Cluster.KeepsStatus` -- what is expected of the server;
* **`Owner.status_reads_back`** -- the owner that is read after the write, and its next refresh.
-/

namespace Reconciliation

/-! ## 1. Merge patches -/

namespace Json

mutual

/-- Applies a merge patch to a value: members of an object are patched one by one, and anything else
replaces the value. -/
def mergePatch : Json → Json → Json
  | target, obj changes => obj (mergeMembers target.fields changes)
  | _, change => change

/-- Applies the members of a patch one after another: null removes a member, anything else patches
it, or an absent one. -/
def mergeMembers : List (String × Json) → List (String × Json) → List (String × Json)
  | fields, [] => fields
  | fields, (key, change) :: rest =>
    mergeMembers
      (if change.isNull then Entries.erase key fields
        else Entries.insert key (mergePatch ((Entries.lookup key fields).getD null) change) fields)
      rest

end

/-- What becomes of the member under a key. -/
def patchMember (old : Option Json) : Option Json → Option Json
  | none => old
  | some change => if change.isNull then none else some ((old.getD null).mergePatch change)

theorem lookup_patched (fields : List (String × Json)) (key : String) (change : Json)
    (other : String) :
    Entries.lookup other (if change.isNull then Entries.erase key fields
      else Entries.insert key (((Entries.lookup key fields).getD null).mergePatch change) fields) =
        if other = key then patchMember (Entries.lookup key fields) (some change)
          else Entries.lookup other fields := by
  unfold patchMember
  by_cases hk : other = key
  · subst hk
    by_cases hn : change.isNull = true
    · simp [hn]
    · simp [hn]
  · by_cases hn : change.isNull = true
    · simp [hn, hk, Entries.lookup_erase_of_ne hk]
    · simp [hn, hk, Entries.lookup_insert_of_ne hk]

/-- Seen through lookups, a patch is one rule per key. -/
theorem lookup_mergeMembers {changes : List (String × Json)} (h : (changes.map (·.1)).Nodup)
    (fields : List (String × Json)) (key : String) :
    Entries.lookup key (mergeMembers fields changes) =
      patchMember (Entries.lookup key fields) (Entries.lookup key changes) := by
  induction changes generalizing fields with
  | nil => rfl
  | cons e rest ih =>
    obtain ⟨key', change⟩ := e
    obtain ⟨hnot, hrest⟩ := List.nodup_cons.1 h
    rw [mergeMembers, ih hrest, lookup_patched]
    by_cases hk : key = key'
    · subst hk
      have hnone : Entries.lookup key rest = none := Entries.lookup_eq_none_iff.2 fun e he hek =>
        hnot (List.mem_map.2 ⟨e, he, hek⟩)
      simp [Entries.lookup, hnone, patchMember]
    · simp [Entries.lookup, hk]

theorem ascending_mergeMembers {fields : List (String × Json)} (h : Entries.Ascending fields)
    (changes : List (String × Json)) : Entries.Ascending (mergeMembers fields changes) := by
  induction changes generalizing fields with
  | nil => exact h
  | cons e rest ih =>
    rw [mergeMembers]
    split
    · exact ih (h.erase _)
    · exact ih (h.insert _ _)

end Json

/-! ## 2. Reading back -/

theorem ConditionStatus.ofName?_name (c : ConditionStatus) : ofName? c.name = some c := by
  cases c <;> decide

theorem Codec.option_ofJson? {c : Codec α} (o : Option α) (hn : ∀ a, (c.encode a).isNull = false)
    (h : ∀ a, c.ofJson? (c.encode a) = some a) :
    c.option.ofJson? (c.option.encode o) = some o := by
  cases o with
  | none => rfl
  | some a =>
    have ha := h a
    have hna := hn a
    show c.option.ofJson? (c.encode a) = some (some a)
    generalize c.encode a = j at ha hna
    cases j with
    | null => cases hna
    | _ => exact congrArg (Option.map some) ha

/-- A condition is read as it was written. -/
theorem Condition.reads_back (c : Condition) :
    members.positional.ofJson? (members.codec.encode c) = some c := by
  have hnodup : ((members.write c).map (·.1)).Nodup := by
    show ["type", "status", "reason", "message", "lastTransitionTime"].Nodup
    decide
  show members.positional.ofJson? (.obj (Entries.insertAll (members.write c) [])) = _
  rw [Fields.ofJson?_positional _ (Entries.ascending_nil.insertAll _)]
  have hlookup : (fun key => Entries.lookup key (Entries.insertAll (members.write c) [])) =
      members.written c := funext (Fields.lookup_ofMembers hnodup)
  rw [hlookup]
  refine Fields.readFrom_field_of (Fields.readFrom_field_of (Fields.readFrom_field_of
    (Fields.readFrom_field_of (Fields.readFrom_field_of (f := .of mk) rfl ?type) ?status) ?reason)
    ?message) ?lastTransitionTime
  case status => exact c.status.ofName?_name
  case lastTransitionTime =>
    exact Codec.option_ofJson? c.lastTransitionTime (fun _ => rfl) fun _ => rfl
  all_goals rfl

/-- **Whatever the status was, the patched one is read as the written status**: the list of
conditions is replaced, an observed generation is replaced or removed, and nothing else is read. -/
theorem OwnerStatus.reads_patched (s : OwnerStatus) {old : Json} (h : old.Ordered) :
    ∃ fields, old.mergePatch (members.codec.encode s) = .obj fields ∧
      members.positional.ofJson? (.obj fields) = some s := by
  have hnodup : ((members.write s).map (·.1)).Nodup := by
    show ["conditions", "observedGeneration"].Nodup
    decide
  let changes := Entries.insertAll (members.write s) []
  have hasc : Entries.Ascending old.fields := by
    cases old with
    | obj fields => exact (Json.ordered_obj_iff.1 h).1
    | _ => exact Entries.ascending_nil
  refine ⟨Json.mergeMembers old.fields changes, rfl, ?_⟩
  rw [Fields.ofJson?_positional _ (Json.ascending_mergeMembers hasc changes)]
  have hlookup : ∀ key, Entries.lookup key (Json.mergeMembers old.fields changes) =
      Json.patchMember (Entries.lookup key old.fields) (members.written s key) := by
    intro key
    rw [Json.lookup_mergeMembers
      (Entries.ascending_nil.insertAll (members.write s)).nodup_keys,
      Fields.lookup_ofMembers hnodup]
  refine Fields.readFrom_field_of (Fields.readFrom_field_of (f := .of mk) rfl ?conditions)
    ?observedGeneration
  case conditions =>
    have hwritten : members.written s "conditions" =
        some (.arr (s.conditions.map Condition.members.codec.encode)) := rfl
    show (Member.defaulted "conditions" (.list Condition.members.positional) []).read
      (Option.map Json.raw (Entries.lookup "conditions" _)) = _
    rw [hlookup, hwritten]
    show Condition.members.positional.decodeItems
      (Json.rawItems (s.conditions.map Condition.members.codec.encode)) = _
    rw [Codec.decodeItems_eq_some_iff, List.forall₂_map_left_iff, List.forall₂_same]
    exact fun c _ => c.reads_back
  case observedGeneration =>
    have hwritten : members.written s "observedGeneration" =
        some ((Codec.option Codec.int64).encode s.observedGeneration) := rfl
    show (Member.defaulted "observedGeneration" (.option .int64) none).read
      (Option.map Json.raw (Entries.lookup "observedGeneration" _)) = _
    rw [hlookup, hwritten]
    cases s.observedGeneration with
    | none => rfl
    | some n =>
      obtain ⟨form, law, -⟩ := Codec.lossless_int64
      exact congrArg (Option.map some) ((law.read_encode n).2 trivial)

/-! ## 3. The request -/

/-- The merge patch that asks for a status. -/
def OwnerStatus.patch (s : OwnerStatus) : Json := .obj [("status", members.codec.encode s)]

@[simp] theorem Condition.legible (c : Condition) (n : Nat) :
    (members.positional.encode c).Legible (n + 1) :=
  Fields.legible_codec (by simp [members])

theorem OwnerStatus.legible_patch (s : OwnerStatus) (n : Nat) : s.patch.Legible (n + 4) := by
  have hstatus : (members.codec.encode s).Legible (n + 3) :=
    Fields.legible_codec (by simp [members])
  simpa [patch] using hstatus

theorem Condition.ordered_encode (c : Condition) : (members.codec.encode c).Ordered := by
  have hwrite : members.write c =
      [("type", .str c.type), ("status", .str c.status.name), ("reason", .str c.reason),
        ("message", .str c.message),
        ("lastTransitionTime", c.lastTransitionTime.elim .null .str)] := rfl
  have htime : (c.lastTransitionTime.elim Json.null .str).Ordered := by
    cases c.lastTransitionTime <;> trivial
  refine Json.ordered_ofMembers ?_
  rw [hwrite]
  simp only [List.forall_mem_cons]
  exact ⟨trivial, trivial, trivial, trivial, htime, fun e he => by cases he⟩

theorem OwnerStatus.ordered_patch (s : OwnerStatus) : s.patch.Ordered := by
  have hwrite : members.write s =
      [("conditions", .arr (s.conditions.map Condition.members.codec.encode)),
        ("observedGeneration", (Codec.option Codec.int64).encode s.observedGeneration)] := rfl
  have hstatus : (members.codec.encode s).Ordered := by
    refine Json.ordered_ofMembers fun e he => ?_
    rw [hwrite] at he
    rcases List.mem_cons.1 he with rfl | he
    · refine Json.orderedItems_iff.2 fun j hj => ?_
      obtain ⟨c, -, rfl⟩ := List.mem_map.1 hj
      exact c.ordered_encode
    · obtain rfl := List.mem_singleton.1 he
      cases s.observedGeneration <;> trivial
  exact Json.ordered_obj_iff.2 ⟨List.pairwise_singleton _ _, fun e he =>
    List.mem_singleton.1 he ▸ hstatus⟩

/-- What asks for a status is read from the text of the request. -/
theorem OwnerStatus.value?_ofText?_patch (s : OwnerStatus) :
    (RawJson.ofText? s.patch.compact).bind (·.value?) = some s.patch := by
  rw [Json.ofText?_compact ((s.legible_patch 0).mono (by omega)), Option.bind_some]
  exact Json.value?_raw _ s.ordered_patch

/-- The path of the status. -/
def StatusTarget.path (t : StatusTarget) : String :=
  ResourcePath.collection OwnerKind.group OwnerKind.version t.kind.plural t.namespace? ++ "/" ++
    t.name ++ "/status"

/-- The status can be written to: its path can be written down. -/
structure StatusTarget.IsReachable (t : StatusTarget) : Prop where
  named : t.name ≠ ""
  path : RequestTarget.IsPath t.path
  short : (Cluster.address t.path []).utf8ByteSize ≤ 65534

instance (t : StatusTarget) : Decidable t.IsReachable :=
  decidable_of_iff (t.name ≠ "" ∧ RequestTarget.IsPath t.path ∧
      (Cluster.address t.path []).utf8ByteSize ≤ 65534)
    ⟨fun ⟨named, path, short⟩ => ⟨named, path, short⟩,
      fun ⟨named, path, short⟩ => ⟨named, path, short⟩⟩

namespace Cluster

variable {target : StatusTarget}

/-- A reachable status can be asked for. -/
theorem exists_statusRequest (h : target.IsReachable) (s : OwnerStatus) :
    ∃ request, statusRequest target s = some request ∧ request.target = ⟨target.path, ""⟩ := by
  have hname : target.name.isEmpty = false := by simpa using h.named
  have hpath : ResourcePath.ofStatus target = some target.path := by
    unfold ResourcePath.ofStatus ResourcePath.item
    rw [hname]
    rfl
  unfold statusRequest
  rw [hpath, Option.bind_eq_bind, Option.bind_some, HttpRequest.to?, address,
    RequestTarget.ofAddress?_parameters h.path h.short]
  exact ⟨_, rfl, rfl⟩

/-- What asks for a status is a merge patch with that status. -/
theorem content_of_statusRequest {s : OwnerStatus} {request : HttpRequest}
    (h : statusRequest target s = some request) :
    request.method = .patch ∧
      request.content = some ⟨"application/merge-patch+json", s.patch⟩ := by
  unfold statusRequest at h
  obtain ⟨path, -, hto⟩ := Option.bind_eq_some_iff.1 h
  obtain ⟨t, -, rfl⟩ := Option.map_eq_some_iff.1 hto
  exact ⟨rfl, rfl⟩

/-- **Writing a status is one exchange**, if the request can be written down. It is done just if the
answer holds an object. -/
theorem statusWriter_exchange (c : Cluster σ) {s : OwnerStatus} {request : HttpRequest}
    (h : statusRequest target s = some request) (w : σ) :
    (c.statusWriter target s w).2 = (c.transport request w).2 ∧
      ((c.statusWriter target s w).1 = .ok () ↔
        ∃ u, (c.transport request w).1.untyped? = some u) := by
  unfold statusWriter
  rw [run_bind, h, send_eq]
  simp only [← reading_eq_ok]
  cases reading UntypedObject.decode? (c.transport request w).1 with
  | ok u => exact ⟨rfl, ⟨fun _ => ⟨u, rfl⟩, fun _ => rfl⟩⟩
  | error e =>
    refine ⟨rfl, ⟨fun hok => ?_, fun ⟨u, hu⟩ => ?_⟩⟩
    · cases hok
    · cases hu

/-- The server keeps a value at a path, of which it lets requests patch the status: unless it
refuses a merge patch of the status that is sent there, it applies it. -/
def KeepsStatus (c : Cluster σ) (path : String) (view : σ → Json) : Prop :=
  ∀ (request : HttpRequest) (content : HttpContent) (change : Json) (w : σ),
    request.method = .patch → request.target.path = path → request.content = some content →
    content.type = "application/merge-patch+json" →
    (RawJson.ofText? content.text).bind (·.value?) = some (.obj [("status", change)]) →
    view (c.transport request w).2 =
      if (c.transport request w).1.isRefusal then view w
      else (view w).mergePatch (.obj [("status", change)])

/-- So the server has the patched value after the exchange. -/
theorem KeepsStatus.patched {c : Cluster σ} {request : HttpRequest} {view : σ → Json}
    (hserver : c.KeepsStatus request.target.path view) {s : OwnerStatus}
    (h : statusRequest target s = some request) {w : σ}
    (haccepted : (c.transport request w).1.isRefusal = false) :
    view (c.transport request w).2 = (view w).mergePatch s.patch := by
  obtain ⟨hmethod, hcontent⟩ := content_of_statusRequest h
  have hview := hserver request _ _ w hmethod rfl hcontent rfl s.value?_ofText?_patch
  rwa [haccepted, if_neg Bool.false_ne_true] at hview

end Cluster

/-! ## 4. The owner -/

/-- Only the status of a patched object changes. -/
theorem Json.get?_statusPatch (stored : Json) (s : OwnerStatus) (key : String) :
    (stored.mergePatch s.patch).get? key =
      if key = "status" then
        some (((stored.get? "status").getD .null).mergePatch
          (OwnerStatus.members.codec.encode s))
      else stored.get? key := by
  have hkeys : ([("status", OwnerStatus.members.codec.encode s)].map (·.1)).Nodup :=
    List.nodup_singleton _
  show Entries.lookup key (mergeMembers stored.fields _) = _
  rw [lookup_mergeMembers hkeys]
  by_cases hk : key = "status"
  · subst hk
    simp only [Entries.lookup, Std.ReflOrd.compare_self, if_true]
    rfl
  · rw [if_neg hk]
    simp [Entries.lookup, hk, patchMember, get?]

/-- Whatever status there was, the owner is read with the patched one, and all else as before. -/
theorem Owner.ofJson?_statusPatch {kind : OwnerKind} {stored : Json} (hstored : stored.Ordered)
    {metadata : ObjectMeta} {spec : OwnerSpec}
    (hmetadata : (stored.get? "metadata").bind ObjectMeta.members.codec.ofJson? = some metadata)
    (hspec : (stored.get? "spec").bind (specOfJson? kind) = some spec) (s : OwnerStatus) :
    ofJson? kind (stored.mergePatch s.patch) = some ⟨metadata, spec, some s⟩ := by
  have hold : ((stored.get? "status").getD .null).Ordered := by
    cases hstatus : stored.get? "status" with
    | none => trivial
    | some old =>
      cases stored with
      | obj fields => exact (Json.ordered_obj_iff.1 hstored).2 _ (Entries.mem_of_lookup hstatus)
      | _ => cases hstatus
  obtain ⟨fields, hpatched, hread⟩ := s.reads_patched hold
  have hstatus : (Codec.option OwnerStatus.members.positional).ofJson? (.obj fields) =
      some (some s) := congrArg (Option.map some) hread
  unfold ofJson?
  rw [Json.get?_statusPatch, Json.get?_statusPatch, Json.get?_statusPatch, if_neg (by decide),
    if_neg (by decide), if_pos rfl, hmetadata, hspec, Option.getD_some, hpatched]
  show ((Codec.option OwnerStatus.members.positional).ofJson? (.obj fields)).bind
    (fun status => some (⟨metadata, spec, status⟩ : Owner)) = _
  rw [hstatus]
  rfl

/-- **A written status is read back.** Writing a status of a reachable target sends a request to the
path of the status; if no request can be written down, the write fails and nothing happens. What is
sent is one request, with the status as a merge patch. Let the server keep an owner there whose
metadata and specification can be read, whatever status it has, and apply the patch unless it
refuses it. Then the owner is from then on read with the same metadata and specification and with
exactly that status, and has all other members as before. So if the status was observed of the
generation that the metadata tells, refreshing it with the same conditions writes nothing. -/
theorem Owner.status_reads_back {σ : Type} (c : Cluster σ) (target : StatusTarget)
    (s : OwnerStatus) {view : σ → Json}
    (hserver : ∀ request, Cluster.statusRequest target s = some request →
      c.KeepsStatus request.target.path view)
    {kind : OwnerKind} {w : σ} (hstored : (view w).Ordered)
    {metadata : ObjectMeta} {spec : OwnerSpec}
    (hmetadata : ((view w).get? "metadata").bind ObjectMeta.members.codec.ofJson? = some metadata)
    (hspec : ((view w).get? "spec").bind (specOfJson? kind) = some spec) :
    let written := c.statusWriter target s w
    (target.IsReachable → ∃ request,
      Cluster.statusRequest target s = some request ∧ request.target = ⟨target.path, ""⟩) ∧
    (Cluster.statusRequest target s = none → written = (.error (.patch target none), w)) ∧
    ∀ request, Cluster.statusRequest target s = some request →
      request.method = .patch ∧
      (∃ content, request.content = some content ∧
        content.type = "application/merge-patch+json" ∧
        (RawJson.ofText? content.text).bind (·.value?) = some s.patch) ∧
      written.2 = (c.transport request w).2 ∧
      (written.1 = .ok () ↔ ∃ u, (c.transport request w).1.untyped? = some u) ∧
      ((c.transport request w).1.isRefusal = false →
        (∀ key, key ≠ "status" → (view written.2).get? key = (view w).get? key) ∧
        ofJson? kind (view written.2) = some ⟨metadata, spec, some s⟩ ∧
        (metadata.generation = s.observedGeneration →
          ∀ (σ : Type) (e : Engine σ) (r : Run σ),
            e.refreshStatus ⟨metadata, spec, some s⟩ s.conditions r = (.ok false, r))) := by
  intro written
  refine ⟨fun htarget => Cluster.exists_statusRequest htarget s, fun hnone => ?unsent,
    fun request hrequest => ?sent⟩
  case unsent =>
    show c.statusWriter target s w = _
    unfold Cluster.statusWriter
    rw [run_bind, hnone]
    rfl
  case sent =>
    obtain ⟨hmethod, hcontent⟩ := Cluster.content_of_statusRequest hrequest
    obtain ⟨hworld, hdone⟩ := c.statusWriter_exchange hrequest w
    refine ⟨hmethod, ⟨_, hcontent, rfl, s.value?_ofText?_patch⟩, hworld, hdone,
      fun haccepted => ?_⟩
    have hview : view written.2 = (view w).mergePatch s.patch :=
      (congrArg view hworld).trans ((hserver request hrequest).patched hrequest haccepted)
    rw [hview]
    refine ⟨fun key hk => ?_, ofJson?_statusPatch hstored hmetadata hspec s, fun hgen σ e r => ?_⟩
    · rw [Json.get?_statusPatch, if_neg hk]
    · refine Engine.refreshStatus_carried ?_ r
      show some s = some ⟨s.conditions, metadata.generation⟩
      rw [hgen]

/-- A stored instance with an old status, of which an observed generation and an unknown member are
left over. -/
def Json.stored : Json :=
  .obj [("metadata", .obj [("name", .str "simplest"), ("namespace", .str "tracing")]),
    ("spec", .obj []),
    ("status", .obj [("conditions", .arr [.obj [("status", .str "False"), ("type", .str "Old")]]),
      ("observedGeneration", .ofInt 7), ("phase", .str "Pending")])]

/-- A server that keeps one value and applies every patch that can be read. -/
def Json.patchServer : Transport Json := fun request stored =>
  match request.content.bind fun content => (RawJson.ofText? content.text).bind (·.value?) with
  | some patch => (⟨200, (stored.mergePatch patch).compact⟩, stored.mergePatch patch)
  | none => (⟨400, ""⟩, stored)

theorem Json.keepsStatus_patchServer (fieldManager path : String) :
    (⟨patchServer, fieldManager⟩ : Cluster Json).KeepsStatus path id := by
  intro request content change w _ _ hcontent _ hread
  have hanswer : patchServer request w = (⟨200, (w.mergePatch (.obj [("status", change)])).compact⟩,
      w.mergePatch (.obj [("status", change)])) := by
    unfold patchServer
    rw [hcontent, Option.bind_some, hread]
  show id (patchServer request w).2 = if (patchServer request w).1.isRefusal then _ else _
  rw [hanswer]
  rfl

/-- A status that was observed of no generation. -/
def OwnerStatus.operational : OwnerStatus :=
  ⟨[.observed .ready true "Ready" "All components are operational"], none⟩

/-- The new status, of no generation, replaces the conditions and removes the generation; the
unknown member stays and is not read. -/
theorem Owner.status_reads_back_stored :
    let c : Cluster Json := ⟨Json.patchServer, "tempo-operator"⟩
    let target : StatusTarget := ⟨.tempoMonolithic, some "tracing", "simplest"⟩
    let written := c.statusWriter target .operational Json.stored
    target.IsReachable ∧ c.KeepsStatus target.path id ∧ Json.stored.Ordered ∧
      written.2.at? ["status", "phase"] = some (.str "Pending") ∧
      ∃ owner, ofJson? .tempoMonolithic written.2 = some owner ∧ owner.name = "simplest" ∧
        owner.status = some .operational ∧ ∀ (σ : Type) (e : Engine σ) (r : Run σ),
          e.refreshStatus owner OwnerStatus.operational.conditions r = (.ok false, r) := by
  intro c target written
  have htarget : target.IsReachable := by decide
  have hserver : c.KeepsStatus target.path id := Json.keepsStatus_patchServer _ _
  have hordered : Json.stored.Ordered := by
    refine ⟨by decide, ⟨by decide, trivial, trivial, trivial⟩, ⟨by decide, trivial⟩,
      ⟨by decide, ⟨⟨by decide, trivial, trivial, trivial⟩, trivial⟩, trivial, trivial, trivial⟩,
      trivial⟩
  obtain ⟨metadata, hmetadata, hname, hgeneration⟩ : ∃ metadata,
      (Json.stored.get? "metadata").bind ObjectMeta.members.codec.ofJson? = some metadata ∧
        metadata.name = some "simplest" ∧ metadata.generation = none := ⟨_, rfl, rfl, rfl⟩
  obtain ⟨spec, hspec⟩ : ∃ spec,
      (Json.stored.get? "spec").bind (specOfJson? .tempoMonolithic) = some spec := ⟨_, rfl⟩
  obtain ⟨hreachable, -, hsent⟩ := status_reads_back c target .operational
    (fun _ _ => Json.keepsStatus_patchServer _ _) (w := Json.stored) hordered hmetadata hspec
  obtain ⟨request, hrequest, -⟩ := hreachable htarget
  obtain ⟨-, ⟨content, hcontent, -, hread⟩, hworld, -, haccepted⟩ := hsent request hrequest
  have hanswer : c.transport request Json.stored =
      (⟨200, (Json.stored.mergePatch OwnerStatus.operational.patch).compact⟩,
        Json.stored.mergePatch OwnerStatus.operational.patch) := by
    show Json.patchServer request Json.stored = _
    unfold Json.patchServer
    rw [hcontent, Option.bind_some, hread]
  obtain ⟨-, howner, hrefresh⟩ := haccepted (by rw [hanswer]; rfl)
  refine ⟨htarget, hserver, hordered, ?_, _, howner, congrArg (·.getD "") hname, rfl,
    hrefresh hgeneration⟩
  show (c.statusWriter target .operational Json.stored).2.at? _ = _
  rw [hworld, hanswer]
  rfl

end Reconciliation
