import Reconciliation.Proofs.Wire.Legible
import Reconciliation.Proofs.Wire.Objects
import Reconciliation.Proofs.Wire.Untyped

/-!
# Managed objects on the wire

An object of any kind goes to a server and comes back as it was: the wire form of a structure begins
with its type and its metadata, so it is an untyped object like any other, and what is free in a
custom resource takes none of their places.

* `Fields.Typed` -- the members of a structure begin with a type and metadata;
* `ManagedObject.IsPortable` -- instants survive being written, and so does free data;
  `ManagedObject.Wire` -- what the object is on the wire;
* **`ManagedObject.exists_wire`** -- a portable object has a wire form;
* `ManagedObject.Wire.sent`, **`ManagedObject.Wire.received`** -- it is sent as that form, and read
  from it; so it is from the items of a listing, which need not state their type
  (`ManagedObject.Wire.received_item`).
-/

namespace Reconciliation

/-! ## 1. Structures with a type -/

namespace Fields

/-- What the structures of kinds are written with first: their type and their metadata. -/
def leading (types : TypeMeta) (m : ObjectMeta) : List (String × Json) :=
  [("apiVersion", .str types.apiVersion), ("kind", .str types.kind),
    ("metadata", ObjectMeta.members.codec.encode m)]

/-- The members begin with a type and metadata, and no others are written than declared. -/
structure Typed (f : Fields σ α) (types : TypeMeta) (metadata : σ → ObjectMeta) : Prop where
  keys : ∀ s, ((f.write s).map (·.1)).Sublist f.keys
  write : ∀ s, leading types (metadata s) <+: f.write s

theorem Typed.start (make : ObjectMeta → α) (v k : String) (metadata : σ → ObjectMeta) :
    ((((Fields.of make).literal "apiVersion" v).literal "kind" k).field metadata
      ObjectMeta.member).Typed ⟨v, k⟩ metadata :=
  ⟨fun _ => List.Sublist.refl _, fun _ => List.prefix_refl _⟩

theorem Typed.field {f : Fields σ (α → β)} {types : TypeMeta} {metadata : σ → ObjectMeta}
    (h : f.Typed types metadata) {get : σ → α} {m : Member α} :
    (f.field get m).Typed types metadata :=
  ⟨Declares.field h.keys, fun s => (h.write s).trans (List.prefix_append _ _)⟩

/-- What is written first is found on the wire. -/
theorem Typed.lookup {f : Fields σ α} {types : TypeMeta} {metadata : σ → ObjectMeta}
    (h : f.Typed types metadata) (hkeys : f.keys.Nodup) {s : σ} {key : String} {j : Json}
    (hj : Entries.lookup key (leading types (metadata s)) = some j) :
    Entries.lookup key (Entries.insertAll (f.write s) []) = some j := by
  obtain ⟨rest, hrest⟩ := h.write s
  rw [Entries.lookup_insertAll ((h.keys s).nodup hkeys), ← hrest, Entries.lookup_append, hj]
  rfl

/-- **A structure with a type is an object on the wire**, from which it is read. -/
theorem Typed.isWire {f : Fields σ σ} {types : TypeMeta} {metadata : σ → ObjectMeta}
    (h : f.Typed types metadata) (hkeys : f.keys.Nodup) {whole : σ → Prop}
    (hlaw : f.codec.Lawful whole) {s : σ} (hs : whole s) (hm : (metadata s).IsWhole) :
    ∃ fields, f.codec.encode s = .obj fields ∧ UntypedObject.IsWire fields types (metadata s) ∧
      f.codec.ofJson? (.obj fields) = some s := by
  obtain ⟨form, law, -⟩ := hlaw
  have hordered : (Json.obj (Entries.insertAll (f.write s) [])).Ordered :=
    law.ordered (law.encode s)
  obtain ⟨hasc, hord⟩ := Json.ordered_obj_iff.1 hordered
  exact ⟨_, rfl, ⟨hasc, hord, h.lookup hkeys (by simp [leading, Entries.lookup]),
    h.lookup hkeys (by simp [leading, Entries.lookup]),
    h.lookup hkeys (by simp [leading, Entries.lookup]), hm⟩,
    (law.read_encode s).2 hs⟩

end Fields

/-! ## 2. Managed objects -/

/-- Data that an object can carry besides its type and metadata: members of an object that take
none of their places, read back from their text, and leave room for the containers of a listing. -/
def CustomResource.IsFree (o : CustomResource) : Prop :=
  ∃ fields, o.data = .obj fields ∧ (Json.obj fields).Ordered ∧
    (∀ e ∈ fields, UntypedObject.isData e.1 = true) ∧ (Json.obj fields).Legible 125

namespace ManagedObject

/-- The type that the object states on the wire. -/
def types (o : ManagedObject) : TypeMeta := ⟨o.kind.apiVersion, o.kind.name⟩

/-- All instants of the object survive being written. -/
def IsWhole : ManagedObject → Prop
  | deployment o => o.IsWhole
  | statefulSet o => o.IsWhole
  | o => o.metadata.IsWhole

/-- The object survives the way to a server and back. -/
structure IsPortable (o : ManagedObject) : Prop where
  whole : o.IsWhole
  data : ∀ r ∈ o.resource?, r.IsFree

theorem IsWhole.metadata {o : ManagedObject} (h : o.IsWhole) : o.metadata.IsWhole := by
  cases o with
  | deployment o => exact h.1
  | statefulSet o => exact h.1
  | _ => exact h

theorem IsWhole.withMetadata {o : ManagedObject} (h : o.IsWhole) {m : ObjectMeta}
    (hm : m.IsWhole) : (o.withMetadata m).IsWhole := by
  cases o with
  | deployment o => exact ⟨hm, h.2⟩
  | statefulSet o => exact ⟨hm, h.2⟩
  | _ => exact hm

theorem IsPortable.withMetadata {o : ManagedObject} (h : o.IsPortable) {m : ObjectMeta}
    (hm : m.IsWhole) : (o.withMetadata m).IsPortable := by
  refine ⟨h.whole.withMetadata hm, fun r hr => ?_⟩
  cases o with
  | custom k o =>
    obtain rfl := Option.some.inj hr
    exact h.data o rfl
  | _ => cases hr

/-- What an object is on the wire. -/
structure Wire (o : ManagedObject) (fields : List (String × Json)) : Prop where
  encode : o.encode? = some (.obj fields)
  isWire : UntypedObject.IsWire fields o.types o.metadata
  read : ofUntyped? o.kind ⟨some o.types, o.metadata, .obj (UntypedObject.dataOf fields)⟩ = some o
  legible : (Json.obj fields).Legible 125

end ManagedObject

theorem Fields.Typed.exists_wire {f : Fields σ σ} (kind : Kind) {metadata : σ → ObjectMeta}
    {make : σ → ManagedObject} (h : f.Typed ⟨kind.apiVersion, kind.name⟩ metadata)
    (hkeys : f.keys.Nodup) {whole : σ → Prop} (hlaw : f.codec.Lawful whole) {s : σ}
    (hs : whole s) (hm : (metadata s).IsWhole) (hlegible : (f.codec.encode s).Legible 125)
    (hkind : (make s).kind = kind) (hmeta : (make s).metadata = metadata s)
    (hencode : (make s).encode? = some (f.codec.encode s))
    (hread : ∀ o : UntypedObject, ManagedObject.ofUntyped? kind o =
      (UntypedObject.encode? ⟨some (o.types.getD ⟨kind.apiVersion, kind.name⟩), o.metadata,
        o.data⟩).bind fun j => (f.codec.ofJson? j).map make) :
    ∃ fields, (make s).Wire fields := by
  obtain ⟨fields, hfields, hwire, hback⟩ := h.isWire hkeys hlaw hs hm
  rw [hfields] at hencode hlegible
  have htypes : (make s).types = ⟨kind.apiVersion, kind.name⟩ := by
    rw [ManagedObject.types, hkind]
  refine ⟨fields, hencode, ?_, ?_, hlegible⟩
  · rw [htypes, hmeta]
    exact hwire
  · rw [htypes, hmeta, hkind, hread, Option.getD_some, UntypedObject.encode?_of_isWire hwire]
    show (f.codec.ofJson? (.obj fields)).map make = _
    rw [hback]
    rfl

theorem ConfigMap.typed : members.Typed ⟨"v1", "ConfigMap"⟩ (·.metadata) :=
  (Fields.Typed.start _ _ _ _).field.field.field

theorem Secret.typed : members.Typed ⟨"v1", "Secret"⟩ (·.metadata) :=
  (Fields.Typed.start _ _ _ _).field.field.field.field

theorem Service.typed : members.Typed ⟨"v1", "Service"⟩ (·.metadata) :=
  (Fields.Typed.start _ _ _ _).field.field

theorem ServiceAccount.typed : members.Typed ⟨"v1", "ServiceAccount"⟩ (·.metadata) :=
  (Fields.Typed.start _ _ _ _).field.field.field

theorem Deployment.typed : members.Typed ⟨"apps/v1", "Deployment"⟩ (·.metadata) :=
  (Fields.Typed.start _ _ _ _).field.field

theorem StatefulSet.typed : members.Typed ⟨"apps/v1", "StatefulSet"⟩ (·.metadata) :=
  (Fields.Typed.start _ _ _ _).field.field

theorem Role.typed : members.Typed ⟨"rbac.authorization.k8s.io/v1", "Role"⟩ (·.metadata) :=
  (Fields.Typed.start _ _ _ _).field

theorem RoleBinding.typed :
    members.Typed ⟨"rbac.authorization.k8s.io/v1", "RoleBinding"⟩ (·.metadata) :=
  (Fields.Typed.start _ _ _ _).field.field

theorem ClusterRole.typed :
    members.Typed ⟨"rbac.authorization.k8s.io/v1", "ClusterRole"⟩ (·.metadata) :=
  (Fields.Typed.start _ _ _ _).field.field

theorem ClusterRoleBinding.typed :
    members.Typed ⟨"rbac.authorization.k8s.io/v1", "ClusterRoleBinding"⟩ (·.metadata) :=
  (Fields.Typed.start _ _ _ _).field.field

theorem Ingress.typed : members.Typed ⟨"networking.k8s.io/v1", "Ingress"⟩ (·.metadata) :=
  (Fields.Typed.start _ _ _ _).field.field

namespace ManagedObject

/-- Free data is written around the metadata and under the type of its kind, and read from there. -/
theorem exists_written_custom {k : CustomKind} {o : CustomResource}
    {data : List (String × Json)} (hdata : o.data = .obj data) (hord : (Json.obj data).Ordered)
    (hfree : ∀ e ∈ data, UntypedObject.isData e.1 = true) (hm : o.metadata.IsWhole) :
    ∃ fields, Json.ofMembers (("metadata", ObjectMeta.members.codec.encode o.metadata) :: data ++
        UntypedObject.typeMembers (some (custom k o).types)) = .obj fields ∧
      (custom k o).encode? = some (.obj fields) ∧
      UntypedObject.IsWire fields (custom k o).types o.metadata ∧
      ofUntyped? (.custom k) ⟨some (custom k o).types, o.metadata,
        .obj (UntypedObject.dataOf fields)⟩ = some (custom k o) := by
  obtain ⟨fields, hfields, hwire, hback⟩ :=
    UntypedObject.isWire_ofMembers (custom k o).types hord hfree hm
  refine ⟨fields, hfields, ?_, hwire, ?_⟩
  · show (UntypedObject.dataMembers? o.data).bind _ = _
    rw [hdata]
    exact congrArg some hfields
  · have hagain : UntypedObject.encode? ⟨some (custom k o).types, o.metadata,
        .obj (UntypedObject.dataOf fields)⟩ = some (.obj fields) :=
      UntypedObject.encode?_of_isWire hwire
    show (UntypedObject.encode? ⟨some (custom k o).types, o.metadata,
      .obj (UntypedObject.dataOf fields)⟩).bind
        (fun _ => some (custom k ⟨o.metadata, .obj (UntypedObject.dataOf fields)⟩)) = _
    rw [hagain, hback, ← hdata]
    rfl

theorem exists_wire_custom {k : CustomKind} {o : CustomResource} (h : (custom k o).IsPortable) :
    ∃ fields, (custom k o).Wire fields := by
  obtain ⟨data, hdata, hord, hfree, hlegible⟩ := h.data o rfl
  obtain ⟨fields, hfields, hencode, hwire, hread⟩ :=
    exists_written_custom (k := k) hdata hord hfree h.whole.metadata
  refine ⟨fields, hencode, hwire, hread, ?_⟩
  rw [← hfields]
  refine Json.legible_ofMembers fun e he => ?_
  rcases List.mem_append.1 he with he | he
  · rcases List.mem_cons.1 he with rfl | he
    · exact ObjectMeta.legible o.metadata 121
    · exact Json.legible_obj.1 hlegible e he
  · obtain rfl | rfl : e = ("apiVersion", .str (custom k o).types.apiVersion) ∨
        e = ("kind", .str (custom k o).types.kind) := by
      simpa [UntypedObject.typeMembers] using he
    · exact Json.legible_str _
    · exact Json.legible_str _

/-- **A portable object has a wire form.** -/
theorem exists_wire {o : ManagedObject} (h : o.IsPortable) : ∃ fields, o.Wire fields := by
  cases o with
  | configMap o =>
    exact ConfigMap.typed.exists_wire .configMap (by decide) ConfigMap.lawful
      h.whole h.whole.metadata (o.legible 121) rfl rfl rfl fun _ => rfl
  | secret o =>
    exact Secret.typed.exists_wire .secret (by decide) Secret.lawful
      h.whole h.whole.metadata (o.legible 121) rfl rfl rfl fun _ => rfl
  | service o =>
    exact Service.typed.exists_wire .service (by decide) Service.lawful
      h.whole h.whole.metadata (o.legible 120) rfl rfl rfl fun _ => rfl
  | serviceAccount o =>
    exact ServiceAccount.typed.exists_wire .serviceAccount (by decide) ServiceAccount.lawful
      h.whole h.whole.metadata (o.legible 121) rfl rfl rfl fun _ => rfl
  | deployment o =>
    exact Deployment.typed.exists_wire .deployment (by decide) Deployment.lawful
      h.whole h.whole.metadata (o.legible 117) rfl rfl rfl fun _ => rfl
  | statefulSet o =>
    exact StatefulSet.typed.exists_wire .statefulSet (by decide) StatefulSet.lawful
      h.whole h.whole.metadata (o.legible 117) rfl rfl rfl fun _ => rfl
  | role o =>
    exact Role.typed.exists_wire .role (by decide) Role.lawful
      h.whole h.whole.metadata (o.legible 121) rfl rfl rfl fun _ => rfl
  | roleBinding o =>
    exact RoleBinding.typed.exists_wire .roleBinding (by decide) RoleBinding.lawful
      h.whole h.whole.metadata (o.legible 121) rfl rfl rfl fun _ => rfl
  | clusterRole o =>
    exact ClusterRole.typed.exists_wire .clusterRole (by decide) ClusterRole.lawful
      h.whole h.whole.metadata (o.legible 118) rfl rfl rfl fun _ => rfl
  | clusterRoleBinding o =>
    exact ClusterRoleBinding.typed.exists_wire .clusterRoleBinding (by decide)
      ClusterRoleBinding.lawful h.whole h.whole.metadata (o.legible 121) rfl rfl rfl fun _ => rfl
  | ingress o =>
    exact Ingress.typed.exists_wire .ingress (by decide) Ingress.lawful
      h.whole h.whole.metadata (o.legible 115) rfl rfl rfl fun _ => rfl
  | custom k o => exact exists_wire_custom h

/-! ## 3. Ways of an object -/

/-- An object that leaves its type open is taken to be of the kind that is asked for. -/
theorem ofUntyped?_none (kind : Kind) (m : ObjectMeta) (data : Json) :
    ofUntyped? kind ⟨none, m, data⟩ =
      ofUntyped? kind ⟨some ⟨kind.apiVersion, kind.name⟩, m, data⟩ := by
  cases kind <;> rfl

/-- The item of a listing, which may leave its type open. -/
def listItem (statesType : Bool) (j : Json) : Json :=
  match j with
  | .obj fields => .obj (if statesType then fields else fields.filter (UntypedObject.isFree ·.1))
  | j => j

namespace Wire

variable {o : ManagedObject} {fields : List (String × Json)} (h : o.Wire fields)

include h

/-- The object is sent as it is written. -/
theorem sent : o.toUntyped?.bind (·.encode?) = some (.obj fields) := by
  rw [toUntyped?, h.encode]
  show (UntypedObject.ofJson? (.obj fields)).bind _ = _
  rw [UntypedObject.ofJson?_of_isWire h.isWire]
  exact UntypedObject.encode?_of_isWire h.isWire

/-- **The object is read from its wire form.** -/
theorem received : (UntypedObject.ofJson? (.obj fields)).bind (ofUntyped? o.kind) = some o := by
  rw [UntypedObject.ofJson?_of_isWire h.isWire]
  exact h.read

/-- **And from the item of a listing.** -/
theorem received_item (statesType : Bool) :
    (UntypedObject.ofJson? (listItem statesType (.obj fields))).bind (ofUntyped? o.kind) =
      some o := by
  cases statesType with
  | true => exact h.received
  | false =>
    show (UntypedObject.ofJson? (.obj (fields.filter (UntypedObject.isFree ·.1)))).bind _ = _
    rw [UntypedObject.ofJson?_of_isFree h.isWire]
    exact (ofUntyped?_none _ _ _).trans h.read

theorem legible_item (statesType : Bool) : (listItem statesType (.obj fields)).Legible 125 := by
  cases statesType with
  | true => exact h.legible
  | false =>
    exact Json.legible_obj.2 fun e he =>
      Json.legible_obj.1 h.legible e (List.mem_of_mem_filter he)

end Wire

end ManagedObject

end Reconciliation
