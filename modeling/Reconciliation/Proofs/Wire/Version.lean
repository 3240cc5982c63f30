import Reconciliation.Proofs.Mutation.Idempotence
import Reconciliation.Proofs.Wire.Managed

/-!
# Uid and version on the wire

An update is refused by the server if it states another uid or another version than the object has,
and goes through whatever has happened meanwhile if it states none. So both have to come from the
object that was read. Between its answer and the next request lie a reading as untyped object and as
a kind, a merge, and two more steps of writing; none of them touches the two, whatever else the
object holds and whether or not its times survive.

* `ObjectMeta.SameVersion.of_encode` -- metadata that are written the same agree in uid and version;
* `UntypedObject.KeepsApart`, `ManagedObject.KeepsApart` -- free data states no metadata of its own:
  true of whatever is read (`UntypedObject.keepsApart_of_decode?`), and kept by a merge;
* `Fields.Carries`, **`ManagedObject.encode_metadata_of_ofUntyped?`** -- reading as a kind keeps the
  metadata, up to what is written of it;
* **`ManagedObject.metadata_of_sent`** -- an object is sent with its metadata;
* **`Registry.states_of_sent`** -- what is sent of a mutated object states uid and version of the
  untyped object that was read.
-/

namespace Reconciliation

/-! ## 1. Metadata that are written the same -/

namespace ObjectMeta

theorem declares : members.Declares := by
  unfold members
  iterate 14 apply Fields.Declares.field
  exact Fields.Declares.of mk

theorem get?_encode (m : ObjectMeta) (key : String) :
    (members.codec.encode m).get? key = members.written m key :=
  Fields.lookup_ofMembers ((declares m).nodup (by decide)) key

theorem get?_uid (m : ObjectMeta) :
    (members.codec.encode m).get? "uid" = m.uid.map .str := by
  rw [get?_encode]
  unfold members
  iterate 10 rw [Fields.written_field_of_ne (by decide)]
  exact (Fields.Declares.of mk).field.field.field.written_field (by decide) m

theorem get?_resourceVersion (m : ObjectMeta) :
    (members.codec.encode m).get? "resourceVersion" = m.resourceVersion.map .str := by
  rw [get?_encode]
  unfold members
  iterate 9 rw [Fields.written_field_of_ne (by decide)]
  exact (Fields.Declares.of mk).field.field.field.field.written_field (by decide) m

/-- The metadata agree in uid and version. -/
structure SameVersion (m m' : ObjectMeta) : Prop where
  uid : m.uid = m'.uid
  resourceVersion : m.resourceVersion = m'.resourceVersion

theorem SameVersion.trans {m m' m'' : ObjectMeta} (h : SameVersion m m') (h' : SameVersion m' m'') :
    SameVersion m m'' := ⟨h.uid.trans h'.uid, h.resourceVersion.trans h'.resourceVersion⟩

/-- Metadata that are written the same agree there, whatever is lost of their times. -/
theorem SameVersion.of_encode {m m' : ObjectMeta}
    (h : members.codec.encode m = members.codec.encode m') : SameVersion m m' := by
  have hinj : ∀ {a b : Option String}, a.map Json.str = b.map Json.str → a = b :=
    fun hab => Option.map_injective (fun _ _ => Json.str.inj) hab
  constructor
  · apply hinj
    rw [← get?_uid, h, get?_uid]
  · apply hinj
    rw [← get?_resourceVersion, h, get?_resourceVersion]

theorem sameVersion_merge (m desired : ObjectMeta) : SameVersion (m.merge desired) m := ⟨rfl, rfl⟩

/-- What is read of written metadata is written the same. -/
theorem encode_of_decode? {m m' : ObjectMeta}
    (h : members.codec.ofJson? (members.codec.encode m) = some m') :
    members.codec.encode m' = members.codec.encode m := by
  obtain ⟨form, law, -⟩ := ObjectMeta.lawful
  exact law.encode_of_read (law.encode m) h

end ObjectMeta

/-- JSON states uid and version of the metadata, and leaves out what is absent there. -/
structure Json.States (j : Json) (m : ObjectMeta) : Prop where
  uid : j.at? ["metadata", "uid"] = m.uid.map .str
  resourceVersion : j.at? ["metadata", "resourceVersion"] = m.resourceVersion.map .str

theorem Json.states_of_metadata {j : Json} {m : ObjectMeta}
    (h : j.get? "metadata" = some (ObjectMeta.members.codec.encode m)) : j.States m := by
  constructor
  · simp [Json.at?, h, ObjectMeta.get?_uid]
  · simp [Json.at?, h, ObjectMeta.get?_resourceVersion]

/-! ## 2. Untyped objects -/

/-- What JSON states as its metadata is what these are written as. -/
def Json.Bears (j : Json) (m : ObjectMeta) : Prop :=
  ∃ fields, j = .obj fields ∧ Entries.Ascending fields ∧
    Entries.lookup "metadata" fields = some (ObjectMeta.members.codec.encode m)

theorem Entries.lookup_insertAll_last {key : String} {j : Json} (front : List (String × Json))
    {back : List (String × Json)} (h : ∀ e ∈ back, e.1 ≠ key) :
    Entries.lookup key (Entries.insertAll (front ++ (key, j) :: back) []) = some j := by
  have hlast := (Dict.empty : Dict String Json).get?_insertAll (front ++ (key, j) :: back) key
  have hback : back.filter (fun e => e.1 = key) = [] := by
    simpa [List.filter_eq_nil_iff] using h
  have hfilter : (front ++ (key, j) :: back).filter (fun e => e.1 = key) =
      front.filter (fun e => e.1 = key) ++ [(key, j)] := by
    simp [hback]
  rw [hfilter, List.getLast?_concat] at hlast
  exact hlast

namespace UntypedObject

/-- What is left when the type is taken out was there before. -/
theorem takeTypes_sublist (version? kind? : Option String) (members : List (String × Json)) :
    (takeTypes version? kind? members).2.Sublist members := by
  fun_induction takeTypes version? kind? members with
  | case1 => exact List.Sublist.refl _
  | case2 => exact List.Sublist.refl _
  | case3 _ _ _ ih => exact ih.cons _
  | case4 => exact List.sublist_cons_self _ _
  | case5 _ _ _ _ ih => exact ih.cons _
  | case6 => exact List.sublist_cons_self _ _
  | case7 _ _ _ _ _ _ _ _ _ heq ih =>
    rw [heq] at ih
    exact ih.cons_cons _

theorem keys_valueMembers? {members : List (String × RawJson)} {fields : List (String × Json)}
    (h : RawJson.valueMembers? members = some fields) :
    fields.map (·.1) = members.map (·.1) := by
  induction members generalizing fields with
  | nil =>
    obtain rfl := Option.some.inj h
    rfl
  | cons e rest ih =>
    obtain ⟨key, r⟩ := e
    obtain ⟨j, -, h⟩ := Option.bind_eq_some_iff.1
      (show (RawJson.value? r).bind _ = some fields from h)
    obtain ⟨others, hothers, h⟩ := Option.bind_eq_some_iff.1 h
    obtain rfl := Option.some.inj h
    rw [List.map_cons, List.map_cons, ih hothers]

/-- The data of the object holds no metadata. -/
def KeepsApart (u : UntypedObject) : Prop := ∀ e ∈ u.data.fields, e.1 ≠ "metadata"

/-- **The metadata is taken out of what is read.** -/
theorem keepsApart_of_decode? {r : RawJson} {u : UntypedObject} (h : decode? r = some u) :
    u.KeepsApart := by
  cases r with
  | obj members =>
    obtain ⟨m, -, h⟩ := Option.bind_eq_some_iff.1 (show (metadataOf _).bind _ = some u from h)
    obtain ⟨others, hothers, h⟩ := Option.bind_eq_some_iff.1 h
    obtain rfl := Option.some.inj h
    intro e he hkey
    have hmem : e ∈ (takeTypes none none others).2 :=
      (Entries.mem_insertAll he).resolve_right List.not_mem_nil
    have hothersKey : e.1 ∈ others.map (·.1) :=
      List.mem_map_of_mem ((takeTypes_sublist none none others).subset hmem)
    rw [keys_valueMembers? hothers] at hothersKey
    obtain ⟨member, hmember, hsame⟩ := List.mem_map.1 hothersKey
    have hnot := (List.mem_filter.1 hmember).2
    rw [hsame, hkey] at hnot
    exact absurd hnot (by decide)
  | _ => cases h

theorem dataMembers?_eq {j : Json} {fields : List (String × Json)}
    (h : dataMembers? j = some fields) : fields = j.fields := by
  cases j with
  | null | obj =>
    obtain rfl := Option.some.inj h
    rfl
  | _ => cases h

/-- Objects are written with their metadata. -/
theorem bears_of_encode? {u : UntypedObject} {j : Json} (h : u.encode? = some j)
    (hu : u.KeepsApart) : j.Bears u.metadata := by
  obtain ⟨data, hdata, h⟩ := Option.bind_eq_some_iff.1
    (show (dataMembers? _).bind _ = some j from h)
  obtain rfl := Option.some.inj h
  obtain rfl := dataMembers?_eq hdata
  exact ⟨_, rfl, Entries.ascending_nil.insertAll _, Entries.lookup_insertAll_last _ hu⟩

/-- And read with what is written of them. -/
theorem encode_metadata_of_ofJson? {fields : List (String × Json)} {m : ObjectMeta}
    {u : UntypedObject} (hasc : Entries.Ascending fields)
    (hm : Entries.lookup "metadata" fields = some (ObjectMeta.members.codec.encode m))
    (h : ofJson? (.obj fields) = some u) :
    ObjectMeta.members.codec.encode u.metadata = ObjectMeta.members.codec.encode m := by
  obtain ⟨read, hread, h⟩ := Option.bind_eq_some_iff.1 (show (metadataOf _).bind _ = some u from h)
  obtain ⟨others, -, h⟩ := Option.bind_eq_some_iff.1 h
  obtain rfl := Option.some.inj h
  rw [Fields.occurrences_rawFields hasc.nodup_keys, hm] at hread
  exact ObjectMeta.encode_of_decode? hread

end UntypedObject

/-! ## 3. Reading an object as a kind -/

namespace Fields

/-- Whatever is read from the members carries the metadata that stands among them. As long as only
some of the members are read, `P` says what that means for the rest of the constructor. -/
def Carries (f : Fields σ α) (P : ObjectMeta → α → Prop) : Prop :=
  ∀ env a, f.readFrom env = some a →
    ∃ m, ObjectMeta.member.read ((env "metadata").map Json.raw) = some m ∧ P m a

variable {P : ObjectMeta → β → Prop}

theorem Carries.start {make : ObjectMeta → β} {v k : String} {metadata : σ → ObjectMeta}
    (h : ∀ m, P m (make m)) :
    ((((Fields.of make).literal "apiVersion" v).literal "kind" k).field metadata
      ObjectMeta.member).Carries P := by
  intro env a ha
  rw [readFrom_field] at ha
  obtain ⟨make', hmake, ha⟩ := Option.bind_eq_some_iff.1 ha
  obtain ⟨m, hm, rfl⟩ := Option.map_eq_some_iff.1 ha
  have hstart : make' = make := by
    simp only [readFrom, literal, of] at hmake
    split at hmake
    · split at hmake
      · exact (Option.some.inj hmake).symm
      · cases hmake
    · cases hmake
  exact ⟨m, hm, hstart ▸ h m⟩

theorem Carries.field {f : Fields σ (α → β)} {get : σ → α} {member : Member α}
    (h : f.Carries fun m make => ∀ a, P m (make a)) : (f.field get member).Carries P := by
  intro env b hb
  rw [readFrom_field] at hb
  obtain ⟨make, hmake, hb⟩ := Option.bind_eq_some_iff.1 hb
  obtain ⟨a, -, rfl⟩ := Option.map_eq_some_iff.1 hb
  obtain ⟨m, hm, hP⟩ := h env make hmake
  exact ⟨m, hm, hP a⟩

/-- A structure is read with what is written of its metadata. -/
theorem Carries.encode_metadata {f : Fields σ σ} {metadata : σ → ObjectMeta}
    (h : f.Carries fun m s => metadata s = m) {make : σ → ManagedObject}
    (hmake : ∀ s, (make s).metadata = metadata s) {fields : List (String × Json)} {m : ObjectMeta}
    (hasc : Entries.Ascending fields)
    (hm : Entries.lookup "metadata" fields = some (ObjectMeta.members.codec.encode m))
    {o : ManagedObject} (ho : (f.codec.ofJson? (.obj fields)).map make = some o) :
    ObjectMeta.members.codec.encode o.metadata = ObjectMeta.members.codec.encode m := by
  obtain ⟨s, hs, rfl⟩ := Option.map_eq_some_iff.1 ho
  rw [ofJson?_codec f hasc] at hs
  obtain ⟨read, hread, hsame⟩ := h _ _ hs
  rw [hm] at hread
  rw [hmake, hsame]
  exact ObjectMeta.encode_of_decode? hread

end Fields

theorem ConfigMap.carries : members.Carries fun m o => o.metadata = m :=
  .field (.field (.field (.start fun _ _ _ _ => rfl)))

theorem Secret.carries : members.Carries fun m o => o.metadata = m :=
  .field (.field (.field (.field (.start fun _ _ _ _ _ => rfl))))

theorem Service.carries : members.Carries fun m o => o.metadata = m :=
  .field (.field (.start fun _ _ _ => rfl))

theorem ServiceAccount.carries : members.Carries fun m o => o.metadata = m :=
  .field (.field (.field (.start fun _ _ _ _ => rfl)))

theorem Deployment.carries : members.Carries fun m o => o.metadata = m :=
  .field (.field (.start fun _ _ _ => rfl))

theorem StatefulSet.carries : members.Carries fun m o => o.metadata = m :=
  .field (.field (.start fun _ _ _ => rfl))

theorem Role.carries : members.Carries fun m o => o.metadata = m :=
  .field (.start fun _ _ => rfl)

theorem RoleBinding.carries : members.Carries fun m o => o.metadata = m :=
  .field (.field (.start fun _ _ _ => rfl))

theorem ClusterRole.carries : members.Carries fun m o => o.metadata = m :=
  .field (.field (.start fun _ _ _ => rfl))

theorem ClusterRoleBinding.carries : members.Carries fun m o => o.metadata = m :=
  .field (.field (.start fun _ _ _ => rfl))

theorem Ingress.carries : members.Carries fun m o => o.metadata = m :=
  .field (.field (.start fun _ _ _ => rfl))

namespace ManagedObject

/-- Free data of a custom resource holds no metadata. -/
def KeepsApart (o : ManagedObject) : Prop :=
  ∀ r ∈ o.resource?, ∀ e ∈ r.data.fields, e.1 ≠ "metadata"

/-- **Reading as a kind keeps the metadata**, up to what is written of it. -/
theorem encode_metadata_of_ofUntyped? {kind : Kind} {u : UntypedObject} {o : ManagedObject}
    (h : ofUntyped? kind u = some o) (hu : u.KeepsApart) :
    ObjectMeta.members.codec.encode o.metadata = ObjectMeta.members.codec.encode u.metadata := by
  obtain ⟨j, hj, h⟩ := Option.bind_eq_some_iff.1
    (show (UntypedObject.encode? _).bind _ = some o from h)
  obtain ⟨fields, rfl, hasc, hm⟩ := UntypedObject.bears_of_encode? hj hu
  cases kind with
  | configMap => exact ConfigMap.carries.encode_metadata (fun _ => rfl) hasc hm h
  | secret => exact Secret.carries.encode_metadata (fun _ => rfl) hasc hm h
  | service => exact Service.carries.encode_metadata (fun _ => rfl) hasc hm h
  | serviceAccount => exact ServiceAccount.carries.encode_metadata (fun _ => rfl) hasc hm h
  | deployment => exact Deployment.carries.encode_metadata (fun _ => rfl) hasc hm h
  | statefulSet => exact StatefulSet.carries.encode_metadata (fun _ => rfl) hasc hm h
  | role => exact Role.carries.encode_metadata (fun _ => rfl) hasc hm h
  | roleBinding => exact RoleBinding.carries.encode_metadata (fun _ => rfl) hasc hm h
  | clusterRole => exact ClusterRole.carries.encode_metadata (fun _ => rfl) hasc hm h
  | clusterRoleBinding => exact ClusterRoleBinding.carries.encode_metadata (fun _ => rfl) hasc hm h
  | ingress => exact Ingress.carries.encode_metadata (fun _ => rfl) hasc hm h
  | custom k =>
    obtain rfl := Option.some.inj h
    rfl

theorem keepsApart_of_ofUntyped? {kind : Kind} {u : UntypedObject} {o : ManagedObject}
    (h : ofUntyped? kind u = some o) (hu : u.KeepsApart) : o.KeepsApart := by
  intro r hr
  obtain ⟨j, -, h⟩ := Option.bind_eq_some_iff.1
    (show (UntypedObject.encode? _).bind _ = some o from h)
  cases kind with
  | custom k =>
    obtain rfl := Option.some.inj h
    obtain rfl := Option.some.inj hr
    exact hu
  | _ =>
    obtain ⟨s, -, rfl⟩ := Option.map_eq_some_iff.1 h
    cases hr

end ManagedObject

/-! ## 4. Writing an object -/

theorem Fields.Typed.bears {f : Fields σ σ} {types : TypeMeta} {metadata : σ → ObjectMeta}
    (h : f.Typed types metadata) (hkeys : f.keys.Nodup) (s : σ) :
    (f.codec.encode s).Bears (metadata s) :=
  ⟨_, rfl, Entries.ascending_nil.insertAll _, h.lookup hkeys (by simp [leading, Entries.lookup])⟩

namespace ManagedObject

/-- Objects are written with their metadata. -/
theorem bears_of_encode? {o : ManagedObject} (ho : o.KeepsApart) {j : Json}
    (h : o.encode? = some j) : j.Bears o.metadata := by
  cases o with
  | custom k r =>
    obtain ⟨data, hdata, h⟩ := Option.bind_eq_some_iff.1
      (show (UntypedObject.dataMembers? _).bind _ = some j from h)
    obtain rfl := Option.some.inj h
    obtain rfl := UntypedObject.dataMembers?_eq hdata
    refine ⟨_, rfl, Entries.ascending_nil.insertAll _, ?_⟩
    refine Entries.lookup_insertAll_last [] fun e he => ?_
    rcases List.mem_append.1 he with he | he
    · exact ho r rfl e he
    · obtain rfl | rfl : e = ("apiVersion", .str (Kind.custom k).apiVersion) ∨
          e = ("kind", .str (Kind.custom k).name) := by
        simpa [UntypedObject.typeMembers] using he
      · exact show "apiVersion" ≠ "metadata" by decide
      · exact show "kind" ≠ "metadata" by decide
  | configMap o => exact Option.some.inj h ▸ ConfigMap.typed.bears (by decide) o
  | secret o => exact Option.some.inj h ▸ Secret.typed.bears (by decide) o
  | service o => exact Option.some.inj h ▸ Service.typed.bears (by decide) o
  | serviceAccount o => exact Option.some.inj h ▸ ServiceAccount.typed.bears (by decide) o
  | deployment o => exact Option.some.inj h ▸ Deployment.typed.bears (by decide) o
  | statefulSet o => exact Option.some.inj h ▸ StatefulSet.typed.bears (by decide) o
  | role o => exact Option.some.inj h ▸ Role.typed.bears (by decide) o
  | roleBinding o => exact Option.some.inj h ▸ RoleBinding.typed.bears (by decide) o
  | clusterRole o => exact Option.some.inj h ▸ ClusterRole.typed.bears (by decide) o
  | clusterRoleBinding o => exact Option.some.inj h ▸ ClusterRoleBinding.typed.bears (by decide) o
  | ingress o => exact Option.some.inj h ▸ Ingress.typed.bears (by decide) o

/-- **An object is sent with its metadata**: on the way it is taken apart and put together again. -/
theorem metadata_of_sent {o : ManagedObject} (ho : o.KeepsApart) {body : Json}
    (h : o.toUntyped?.bind (·.encode?) = some body) :
    body.get? "metadata" = some (ObjectMeta.members.codec.encode o.metadata) := by
  obtain ⟨u, hu, hbody⟩ := Option.bind_eq_some_iff.1 h
  obtain ⟨j, hj, hu⟩ := Option.bind_eq_some_iff.1 (show o.encode?.bind _ = some u from hu)
  obtain ⟨fields, rfl, hasc, hm⟩ := bears_of_encode? ho hj
  have hread := UntypedObject.encode_metadata_of_ofJson? hasc hm hu
  obtain ⟨written, rfl, -, hwritten⟩ :=
    UntypedObject.bears_of_encode? hbody (UntypedObject.keepsApart_of_decode? hu)
  rw [← hread]
  exact hwritten

/-! ## 5. From the answer to the next request -/

theorem KeepsApart.withMetadata {o : ManagedObject} (h : o.KeepsApart) (m : ObjectMeta) :
    (o.withMetadata m).KeepsApart := by
  intro r hr
  cases o with
  | custom k r' =>
    obtain rfl := Option.some.inj hr
    exact h r' rfl
  | _ => cases hr

end ManagedObject

/-- A merge writes the specification into the data and nothing else. -/
theorem CustomResource.mem_of_mem_merge {existing desired : CustomResource} {e : String × Json}
    (h : e ∈ (existing.merge desired).data.fields) :
    e.1 = "spec" ∨ e ∈ existing.data.fields := by
  by_cases hspec : desired.HasSpec
  · obtain ⟨spec, hs, hn⟩ := hspec
    rw [merge_of_spec existing hs hn] at h
    exact (Entries.mem_insert h).imp (fun he => congrArg Prod.fst he) id
  · rw [merge_of_not_hasSpec existing hspec] at h
    exact .inr (List.mem_of_mem_filter h)

theorem MergesTo.keepsApart {existing desired merged : ManagedObject}
    (h : MergesTo existing desired merged) (he : existing.KeepsApart) : merged.KeepsApart := by
  intro r hr
  cases h with
  | custom k e d =>
    obtain rfl := Option.some.inj hr
    intro member hmember
    rcases CustomResource.mem_of_mem_merge hmember with hspec | hold
    · rw [hspec]
      decide
    · exact he e rfl member hold
  | _ => cases hr

/-- **What is sent of a mutated object states uid and version of the object that was read**, as an
untyped object first and then as a kind. -/
theorem Registry.states_of_sent {r : Registry} {kind : Kind} {raw : RawJson} {u : UntypedObject}
    {existing desired merged : ManagedObject} {body : Json}
    (hu : UntypedObject.decode? raw = some u)
    (hread : ManagedObject.ofUntyped? kind u = some existing)
    (hm : r.mutate existing desired = .ok merged)
    (hsent : merged.toUntyped?.bind (·.encode?) = some body) : body.States u.metadata := by
  have hapart := UntypedObject.keepsApart_of_decode? hu
  have hmerged : merged.KeepsApart := (mutate_eq_ok_iff.1 hm).2.2.keepsApart
    ((ManagedObject.keepsApart_of_ofUntyped? hread hapart).withMetadata _)
  have hsame : ObjectMeta.SameVersion merged.metadata u.metadata := by
    rw [metadata_mutate hm]
    exact (ObjectMeta.sameVersion_merge _ _).trans
      (.of_encode (ManagedObject.encode_metadata_of_ofUntyped? hread hapart))
  have hstates := Json.states_of_metadata (ManagedObject.metadata_of_sent hmerged hsent)
  exact ⟨hsame.uid ▸ hstates.uid, hsame.resourceVersion ▸ hstates.resourceVersion⟩

end Reconciliation
