import Reconciliation.Objects.Untyped
import Reconciliation.Proofs.Wire.Template

/-!
# Untyped objects on the wire

An object is taken apart into its type, its metadata and everything else, and put together again
from these parts. On the way the members change places twice, so what holds of an object on the wire
is said by lookups (`UntypedObject.IsWire`): members ascend, and three of them are fixed by the type
and the metadata.

* `UntypedObject.takeTypes_stated` -- a stated type is taken out wherever its parts stand;
* **`UntypedObject.ofJson?_of_isWire`**, `UntypedObject.ofJson?_of_isFree` -- an object is taken
  apart, also if it leaves its type open;
* **`UntypedObject.encode?_of_isWire`** -- and put together again;
* `UntypedObject.isWire_ofMembers` -- free data becomes an object with a type and metadata.
-/

namespace Reconciliation

namespace UntypedObject

/-! ## 1. Types -/

theorem takeTypes_version (kind? : Option String) (v : String) (rest : List (String × Json)) :
    takeTypes none kind? (("apiVersion", .str v) :: rest) = takeTypes (some v) kind? rest := by
  cases kind? <;> rfl

theorem takeTypes_kind (version? : Option String) (k : String) (rest : List (String × Json)) :
    takeTypes version? none (("kind", .str k) :: rest) = takeTypes version? (some k) rest := by
  cases version? <;> rfl

/-- Whether a key is none of the two that state a type. -/
def isFree (key : String) : Bool := key != "apiVersion" && key != "kind"

theorem takeTypes_free {key : String} (h : isFree key = true) (version? kind? : Option String)
    (j : Json) (rest : List (String × Json)) :
    takeTypes version? kind? ((key, j) :: rest) =
      ((takeTypes version? kind? rest).1, (key, j) :: (takeTypes version? kind? rest).2) := by
  simp only [isFree, Bool.and_eq_true, bne_iff_ne, ne_eq] at h
  rw [takeTypes.eq_def]
  cases version? <;> cases kind? <;> simp only [h.1, h.2, if_false]

/-- A part of the stated type that is taken already or still to come. -/
def Stated (key value : String) (taken : Option String) (members : List (String × Json)) : Prop :=
  taken = some value ∧ Entries.lookup key members = none ∨
    taken = none ∧ Entries.lookup key members = some (.str value)

section

variable {key value : String} {taken : Option String} {e : String × Json}
  {rest : List (String × Json)}

theorem Stated.tail (h : Stated key value taken (e :: rest)) (hne : e.1 ≠ key) :
    Stated key value taken rest := by
  have hlookup : Entries.lookup key (e :: rest) = Entries.lookup key rest := by
    obtain ⟨key', j⟩ := e
    have hne' : key ≠ key' := fun h => hne h.symm
    simp [Entries.lookup, hne']
  unfold Stated at h ⊢
  rwa [hlookup] at h

theorem Stated.head (h : Stated key value taken (e :: rest)) (he : e.1 = key)
    (hnot : e.1 ∉ rest.map (·.1)) :
    taken = none ∧ e.2 = .str value ∧ Stated key value (some value) rest := by
  obtain ⟨key', j⟩ := e
  obtain rfl : key' = key := he
  have hlookup : Entries.lookup key' ((key', j) :: rest) = some j := by simp [Entries.lookup]
  obtain ⟨-, h⟩ | ⟨htaken, h⟩ := h
  · rw [hlookup] at h
    cases h
  · rw [hlookup] at h
    refine ⟨htaken, Option.some.inj h, .inl ⟨rfl, ?_⟩⟩
    exact Entries.lookup_eq_none_iff.2 fun e he hek => hnot (List.mem_map.2 ⟨e, he, hek⟩)

end

/-- **A stated type is taken out**, wherever its parts stand. -/
theorem takeTypes_stated {v k : String} {members : List (String × Json)}
    (hnodup : (members.map (·.1)).Nodup) {version? kind? : Option String}
    (hv : Stated "apiVersion" v version? members) (hk : Stated "kind" k kind? members) :
    takeTypes version? kind? members = (some ⟨v, k⟩, members.filter (isFree ·.1)) := by
  induction members generalizing version? kind? with
  | nil =>
    obtain ⟨rfl, -⟩ | ⟨-, h⟩ := hv
    · obtain ⟨rfl, -⟩ | ⟨-, h⟩ := hk
      · rfl
      · cases h
    · cases h
  | cons e rest ih =>
    obtain ⟨key, j⟩ := e
    obtain ⟨hnot, hrest⟩ := List.nodup_cons.1 hnodup
    by_cases hversion : key = "apiVersion"
    · obtain ⟨rfl, hj, hv'⟩ := hv.head hversion hnot
      have hk := hk.tail (show key ≠ "kind" by rw [hversion]; decide)
      obtain rfl : j = .str v := hj
      subst hversion
      rw [takeTypes_version, ih hrest hv' hk]
      rfl
    · by_cases hkind : key = "kind"
      · obtain ⟨rfl, hj, hk'⟩ := hk.head hkind hnot
        have hv := hv.tail hversion
        obtain rfl : j = .str k := hj
        subst hkind
        rw [takeTypes_kind, ih hrest hv hk']
        rfl
      · have hfree : isFree key = true := by simp [isFree, hversion, hkind]
        rw [takeTypes_free hfree, ih hrest (hv.tail hversion) (hk.tail hkind)]
        simp [hfree]

/-- From members that state no part of a type nothing is taken. -/
theorem takeTypes_unstated {members : List (String × Json)}
    (h : ∀ e ∈ members, isFree e.1 = true) : takeTypes none none members = (none, members) := by
  induction members with
  | nil => rfl
  | cons e rest ih =>
    obtain ⟨key, j⟩ := e
    rw [takeTypes_free (h _ List.mem_cons_self),
      ih fun e he => h e (List.mem_cons_of_mem _ he)]

/-! ## 2. Objects -/

/-- What an object consists of on the wire: its type, its metadata, and whatever else it holds. -/
structure IsWire (fields : List (String × Json)) (types : TypeMeta) (m : ObjectMeta) : Prop where
  ascending : Entries.Ascending fields
  ordered : ∀ e ∈ fields, e.2.Ordered
  apiVersion : Entries.lookup "apiVersion" fields = some (.str types.apiVersion)
  kind : Entries.lookup "kind" fields = some (.str types.kind)
  metadata : Entries.lookup "metadata" fields = some (ObjectMeta.members.codec.encode m)
  whole : m.IsWhole

/-- The members that are neither type nor metadata. -/
def dataOf (fields : List (String × Json)) : List (String × Json) :=
  (fields.filter (·.1 != "metadata")).filter (isFree ·.1)

/-- Whether a key is left to the data. -/
def isData (key : String) : Bool := key != "metadata" && isFree key

theorem dataOf_eq (fields : List (String × Json)) : dataOf fields = fields.filter (isData ·.1) := by
  rw [dataOf, List.filter_filter]
  exact List.filter_congr fun e _ => Bool.and_comm _ _

section Objects

variable {fields : List (String × Json)} {types : TypeMeta} {m : ObjectMeta}

theorem metadata_of_lookup (hasc : Entries.Ascending fields) (hwhole : m.IsWhole)
    (hm : Entries.lookup "metadata" fields = some (ObjectMeta.members.codec.encode m)) :
    metadataOf (RawJson.occurrences (Json.rawFields fields) "metadata") = some m := by
  rw [Fields.occurrences_rawFields hasc.nodup_keys, hm]
  obtain ⟨form, law, -⟩ := ObjectMeta.lawful
  exact (law.read_encode m).2 hwhole

theorem rawFields_filter (fields : List (String × Json)) (p : String → Bool) :
    (Json.rawFields fields).filter (p ·.1) = Json.rawFields (fields.filter (p ·.1)) := by
  induction fields with
  | nil => rfl
  | cons e rest ih =>
    obtain ⟨key, j⟩ := e
    by_cases h : p key = true
    · simp [Json.rawFields, h, ih]
    · simp [Json.rawFields, h, ih]

theorem ascending_dataOf (h : Entries.Ascending fields) : Entries.Ascending (dataOf fields) :=
  (h.filter (· != "metadata")).filter isFree

theorem valueMembers?_others (hord : ∀ e ∈ fields, e.2.Ordered) :
    RawJson.valueMembers? ((Json.rawFields fields).filter (·.1 != "metadata")) =
      some (fields.filter (·.1 != "metadata")) := by
  rw [rawFields_filter fields (· != "metadata")]
  exact Json.valueMembers?_rawFields _ (Json.orderedFields_iff.2 fun e he =>
    hord e (List.mem_of_mem_filter he))

/-- An object with whole metadata is taken apart as its other members are. -/
theorem ofJson?_eq (hasc : Entries.Ascending fields) (hord : ∀ e ∈ fields, e.2.Ordered)
    (hwhole : m.IsWhole)
    (hm : Entries.lookup "metadata" fields = some (ObjectMeta.members.codec.encode m)) :
    ofJson? (.obj fields) =
      some ⟨(takeTypes none none (fields.filter (·.1 != "metadata"))).1, m,
        .ofMembers (takeTypes none none (fields.filter (·.1 != "metadata"))).2⟩ := by
  show (metadataOf _).bind _ = _
  rw [metadata_of_lookup hasc hwhole hm]
  show (RawJson.valueMembers? _).bind _ = _
  rw [valueMembers?_others hord]
  rfl

theorem ofMembers_dataOf (h : Entries.Ascending fields) :
    Json.ofMembers (dataOf fields) = .obj (dataOf fields) :=
  congrArg Json.obj (ascending_dataOf h).insertAll_nil

/-- The type that an object states is taken out of it. -/
theorem takeTypes_others (hasc : Entries.Ascending fields)
    (hv : Entries.lookup "apiVersion" fields = some (.str types.apiVersion))
    (hk : Entries.lookup "kind" fields = some (.str types.kind)) :
    takeTypes none none (fields.filter (·.1 != "metadata")) = (some types, dataOf fields) := by
  have hlookup : ∀ {key j}, (key != "metadata") = true → Entries.lookup key fields = some j →
      Entries.lookup key (fields.filter (·.1 != "metadata")) = some j := by
    intro key j hne hj
    rw [Entries.lookup_filter (· != "metadata"), if_pos hne, hj]
  exact takeTypes_stated (hasc.filter (· != "metadata")).nodup_keys
    (.inr ⟨rfl, hlookup (by decide) hv⟩) (.inr ⟨rfl, hlookup (by decide) hk⟩)

/-- **An object on the wire is taken apart.** -/
theorem ofJson?_of_isWire (h : IsWire fields types m) :
    ofJson? (.obj fields) = some ⟨some types, m, .obj (dataOf fields)⟩ := by
  rw [ofJson?_eq h.ascending h.ordered h.whole h.metadata,
    takeTypes_others h.ascending h.apiVersion h.kind, ofMembers_dataOf h.ascending]

/-- Whatever metadata is read from an object, its data holds none of the members that state the type
or the metadata. -/
theorem data_of_ofJson? (hasc : Entries.Ascending fields) (hord : ∀ e ∈ fields, e.2.Ordered)
    (hv : Entries.lookup "apiVersion" fields = some (.str types.apiVersion))
    (hk : Entries.lookup "kind" fields = some (.str types.kind)) {o : UntypedObject}
    (h : ofJson? (.obj fields) = some o) : o.data = .obj (dataOf fields) := by
  obtain ⟨read, -, h⟩ := Option.bind_eq_some_iff.1 (show (metadataOf _).bind _ = some o from h)
  rw [valueMembers?_others hord] at h
  obtain rfl := Option.some.inj h
  show Json.ofMembers (takeTypes none none (fields.filter (·.1 != "metadata"))).2 = _
  rw [takeTypes_others hasc hv hk, ofMembers_dataOf hasc]

/-- So is an object that leaves its type open. -/
theorem ofJson?_of_isFree (h : IsWire fields types m) :
    ofJson? (.obj (fields.filter (isFree ·.1))) = some ⟨none, m, .obj (dataOf fields)⟩ := by
  have hmeta : Entries.lookup "metadata" (fields.filter (isFree ·.1)) =
      some (ObjectMeta.members.codec.encode m) := by
    rw [Entries.lookup_filter, if_pos (by decide), h.metadata]
  have hdata : (fields.filter (isFree ·.1)).filter (·.1 != "metadata") = dataOf fields := by
    rw [dataOf, List.filter_filter, List.filter_filter]
    exact List.filter_congr fun e _ => Bool.and_comm _ _
  have htypes : takeTypes none none (dataOf fields) = (none, dataOf fields) :=
    takeTypes_unstated fun e he => (List.mem_filter.1 he).2
  rw [ofJson?_eq (h.ascending.filter isFree) (fun e he => h.ordered e (List.mem_of_mem_filter he))
    h.whole hmeta, hdata, htypes, ofMembers_dataOf h.ascending]

/-- **And put together again.** -/
theorem encode?_of_isWire (h : IsWire fields types m) :
    encode? ⟨some types, m, .obj (dataOf fields)⟩ = some (.obj fields) := by
  show some (Json.ofMembers (("apiVersion", .str types.apiVersion) ::
    ("kind", .str types.kind) :: ("metadata", _) :: dataOf fields)) = _
  refine congrArg (fun entries => some (Json.obj entries)) ?_
  refine Entries.Ascending.ext (Entries.ascending_nil.insertAll _) h.ascending fun key => ?_
  have hnodup : ((("apiVersion", Json.str types.apiVersion) :: ("kind", .str types.kind) ::
      ("metadata", ObjectMeta.members.codec.encode m) :: dataOf fields).map (·.1)).Nodup := by
    have hdata : ∀ key ∈ (dataOf fields).map (·.1), key ≠ "apiVersion" ∧ key ≠ "kind" ∧
        key ≠ "metadata" := by
      intro key hkey
      obtain ⟨e, he, rfl⟩ := List.mem_map.1 hkey
      simp only [dataOf, List.mem_filter, isFree, Bool.and_eq_true, bne_iff_ne, ne_eq] at he
      exact ⟨he.2.1, he.2.2, he.1.2⟩
    simp only [List.map_cons, List.nodup_cons, List.mem_cons, not_or]
    exact ⟨⟨by decide, by decide, fun h => (hdata _ h).1 rfl⟩,
      ⟨by decide, fun h => (hdata _ h).2.1 rfl⟩, fun h => (hdata _ h).2.2 rfl,
      (ascending_dataOf h.ascending).nodup_keys⟩
  rw [Entries.lookup_insertAll hnodup]
  have hdata : Entries.lookup key (dataOf fields) =
      if isFree key then if key != "metadata" then Entries.lookup key fields else none
      else none := by
    rw [dataOf, Entries.lookup_filter isFree, Entries.lookup_filter (· != "metadata")]
  by_cases hversion : key = "apiVersion"
  · subst hversion
    simp [Entries.lookup, h.apiVersion]
  · by_cases hkind : key = "kind"
    · subst hkind
      simp [Entries.lookup, h.kind]
    · by_cases hmeta : key = "metadata"
      · subst hmeta
        simp [Entries.lookup, h.metadata]
      · simp [Entries.lookup, hdata, isFree, hversion, hkind, hmeta]

end Objects

/-- Free data shares no key with a type and metadata. -/
theorem nodup_members {data : List (String × Json)} (hasc : Entries.Ascending data)
    (hdata : ∀ e ∈ data, isData e.1 = true) (types : TypeMeta) (metadata : Json) :
    ((("metadata", metadata) :: data ++ typeMembers (some types)).map (·.1)).Nodup := by
  have hnot : ∀ e ∈ data, e.1 ≠ "metadata" ∧ e.1 ≠ "apiVersion" ∧ e.1 ≠ "kind" := by
    intro e he
    simpa [isData, isFree] using hdata e he
  have hmeta : "metadata" ∉ data.map (·.1) := fun h => by
    obtain ⟨e, he, hek⟩ := List.mem_map.1 h
    exact (hnot e he).1 hek
  rw [List.map_append, List.map_cons]
  refine List.nodup_append.2 ⟨List.nodup_cons.2 ⟨hmeta, hasc.nodup_keys⟩,
    by simp [typeMembers], ?_⟩
  rintro key hkey key' hkey' rfl
  have htype : key = "apiVersion" ∨ key = "kind" := by simpa [typeMembers] using hkey'
  rcases List.mem_cons.1 hkey with rfl | hkey
  · simp at htype
  · obtain ⟨e, he, rfl⟩ := List.mem_map.1 hkey
    exact htype.elim (hnot e he).2.1 (hnot e he).2.2

/-- What is written of free data is in key order if the data is. -/
theorem ordered_members {data : List (String × Json)} (hdata : ∀ e ∈ data, e.2.Ordered)
    (types : TypeMeta) (m : ObjectMeta) :
    ∀ e ∈ Entries.insertAll (("metadata", ObjectMeta.members.codec.encode m) :: data ++
      typeMembers (some types)) [], e.2.Ordered := by
  obtain ⟨form, law, -⟩ := ObjectMeta.lawful
  intro e he
  rcases List.mem_append.1 ((Entries.mem_insertAll he).resolve_right List.not_mem_nil) with he | he
  · rcases List.mem_cons.1 he with rfl | he
    · exact law.ordered (law.encode m)
    · exact hdata e he
  · obtain rfl | rfl : e = ("apiVersion", .str types.apiVersion) ∨
        e = ("kind", .str types.kind) := by
      simpa [typeMembers] using he
    · exact trivial
    · exact trivial

/-- **Data becomes an object on the wire** with a type and metadata, and is its data. -/
theorem isWire_ofMembers {data : List (String × Json)} (types : TypeMeta) {m : ObjectMeta}
    (hord : (Json.obj data).Ordered) (hdata : ∀ e ∈ data, isData e.1 = true) (hm : m.IsWhole) :
    ∃ fields, Json.ofMembers (("metadata", ObjectMeta.members.codec.encode m) :: data ++
        typeMembers (some types)) = .obj fields ∧
      IsWire fields types m ∧ dataOf fields = data := by
  obtain ⟨hasc, hvalues⟩ := Json.ordered_obj_iff.1 hord
  have hnone : ∀ key, isData key = false → Entries.lookup key data = none := by
    intro key hkey
    refine Entries.lookup_eq_none_iff.2 fun e he hek => ?_
    rw [← hek, hdata e he] at hkey
    cases hkey
  have hlookup := Entries.lookup_insertAll
    (nodup_members hasc hdata types (ObjectMeta.members.codec.encode m))
  have hfields : Entries.Ascending (Entries.insertAll (("metadata",
    ObjectMeta.members.codec.encode m) :: data ++ typeMembers (some types)) []) :=
      Entries.ascending_nil.insertAll _
  refine ⟨_, rfl, ⟨hfields, ordered_members hvalues types m, ?_, ?_, ?_, hm⟩, ?_⟩
  · rw [hlookup]
    simp [Entries.lookup, Entries.lookup_append, hnone, isData, isFree, typeMembers]
  · rw [hlookup]
    simp [Entries.lookup, Entries.lookup_append, hnone, isData, isFree, typeMembers]
  · rw [hlookup]
    simp [Entries.lookup]
  · refine Entries.Ascending.ext (ascending_dataOf hfields) hasc fun key => ?_
    rw [dataOf_eq, Entries.lookup_filter isData, hlookup]
    by_cases hkey : isData key = true
    · have hne : key ≠ "metadata" ∧ key ≠ "apiVersion" ∧ key ≠ "kind" := by
        simpa [isData, isFree] using hkey
      simp [hkey, Entries.lookup, Entries.lookup_append, typeMembers, hne]
    · simp [hkey, hnone]

end UntypedObject

end Reconciliation
