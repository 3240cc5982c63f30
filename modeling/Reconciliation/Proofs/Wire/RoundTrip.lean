import Reconciliation.Proofs.Wire.Managed

/-!
# Round trips of objects

An object is made untyped for the API, and what the API returns is read as the kind again. Nothing
of a structure is lost on the way. Free data may be: it shares one JSON object with the type and the
metadata of the resource, and where both have a key, one of them gives way.

* `ManagedObject.readBack?` -- the way there and back;
* `ManagedObject.readBack?_typed` -- an object that has a structure comes back;
* `ManagedObject.readBack?_custom`, `ManagedObject.apart_of_readBack?` -- a custom resource comes
  back if its data takes no place of the type and the metadata, and otherwise does not;
* **`ManagedObject.readBack?_iff`** -- the objects that come back.
-/

namespace Reconciliation

/-! ## 1. Free data among type and metadata -/

namespace UntypedObject

theorem isData_iff {key : String} :
    isData key = true ↔ key ∉ ["apiVersion", "kind", "metadata"] := by
  simp only [isData, isFree, Bool.and_eq_true, bne_iff_ne, List.mem_cons, List.not_mem_nil,
    or_false, not_or]
  exact ⟨fun h => ⟨h.2.1, h.2.2, h.1⟩, fun h => ⟨h.2.2, h.1, h.2.1⟩⟩

/-- A type that is written last stands, whatever was written before. -/
theorem lookup_typeMembers (front : List (String × Json)) (types : TypeMeta) :
    Entries.lookup "apiVersion" (Entries.insertAll (front ++ typeMembers (some types)) []) =
        some (.str types.apiVersion) ∧
      Entries.lookup "kind" (Entries.insertAll (front ++ typeMembers (some types)) []) =
        some (.str types.kind) := by
  have hsplit : Entries.insertAll (front ++ typeMembers (some types)) [] =
      Entries.insertAll (typeMembers (some types)) (Entries.insertAll front []) :=
    List.foldl_append
  have hnodup : ((typeMembers (some types)).map (·.1)).Nodup := by simp [typeMembers]
  rw [hsplit, Entries.lookup_insertAll hnodup, Entries.lookup_insertAll hnodup]
  simp [typeMembers, Entries.lookup]

theorem ordered_of_dataMembers? {j : Json} {data : List (String × Json)} (hj : j.Ordered)
    (h : dataMembers? j = some data) : ∀ e ∈ data, e.2.Ordered := by
  cases j with
  | null =>
    obtain rfl := Option.some.inj h
    exact fun e he => by cases he
  | obj fields =>
    obtain rfl := Option.some.inj h
    exact (Json.ordered_obj_iff.1 hj).2
  | _ => cases h

end UntypedObject

/-! ## 2. There and back -/

namespace ManagedObject

/-- The object that is read, as its own kind, from its untyped form. -/
def readBack? (o : ManagedObject) : Option ManagedObject := o.toUntyped?.bind (ofUntyped? o.kind)

/-- An object that has a structure comes back. -/
theorem readBack?_typed {o : ManagedObject} (hw : o.IsWhole) (hr : o.resource? = none) :
    o.readBack? = some o := by
  obtain ⟨fields, hwire⟩ := exists_wire ⟨hw, fun r h => by rw [hr] at h; cases h⟩
  rw [readBack?, toUntyped?, hwire.encode]
  exact hwire.received

section

variable {k : CustomKind} {r : CustomResource}

/-- A custom resource comes back if its data leaves type and metadata their places. -/
theorem readBack?_custom {data : List (String × Json)} (hdata : r.data = .obj data)
    (hord : (Json.obj data).Ordered) (hfree : ∀ e ∈ data, UntypedObject.isData e.1 = true)
    (hm : r.metadata.IsWhole) : (custom k r).readBack? = some (custom k r) := by
  obtain ⟨fields, -, hencode, hwire, hread⟩ := exists_written_custom (k := k) hdata hord hfree hm
  rw [readBack?, toUntyped?, hencode]
  show (UntypedObject.ofJson? (.obj fields)).bind _ = _
  rw [UntypedObject.ofJson?_of_isWire hwire]
  exact hread

/-- The untyped form of a custom resource has none of the keys of type and metadata in its data,
whatever the resource has. -/
theorem data_of_toUntyped? (hord : r.data.Ordered) {u : UntypedObject}
    (h : (custom k r).toUntyped? = some u) :
    ∃ data, u.data = .obj data ∧ ∀ e ∈ data, UntypedObject.isData e.1 = true := by
  obtain ⟨j, hj, hu⟩ := Option.bind_eq_some_iff.1 h
  obtain ⟨data, hdata, hj⟩ := Option.bind_eq_some_iff.1 hj
  obtain rfl := Option.some.inj hj
  -- data with a type of its own is no exception: the type of the kind is written over it
  obtain ⟨hversion, hkind⟩ := UntypedObject.lookup_typeMembers
    (("metadata", ObjectMeta.members.codec.encode r.metadata) :: data) (custom k r).types
  have hordered := UntypedObject.ordered_members
    (UntypedObject.ordered_of_dataMembers? hord hdata) (custom k r).types r.metadata
  refine ⟨_, UntypedObject.data_of_ofJson? (Entries.ascending_nil.insertAll _) hordered hversion
    hkind hu, fun e he => ?_⟩
  rw [UntypedObject.dataOf_eq] at he
  exact (List.mem_filter.1 he).2

/-- A custom resource that comes back has free data that takes no place of type and metadata. -/
theorem apart_of_readBack? (hord : r.data.Ordered) {back : ManagedObject}
    (h : (custom k r).readBack? = some back) (hs : back.same (custom k r) = true) :
    ∃ data, r.data = .obj data ∧ ∀ e ∈ data, UntypedObject.isData e.1 = true := by
  obtain ⟨u, hu, hback⟩ := Option.bind_eq_some_iff.1 h
  obtain ⟨_, -, hback⟩ := Option.bind_eq_some_iff.1 hback
  obtain rfl := Option.some.inj hback
  obtain ⟨data, hdata, hfree⟩ := data_of_toUntyped? hord hu
  have hsame : u.data.same r.data = true := (Bool.and_eq_true_iff.1 hs).2
  rw [hdata] at hsame
  cases hr : r.data with
  | obj fields =>
    rw [hr] at hsame
    have hkeys : data.map (·.1) = fields.map (·.1) := Json.map_fst_of_sameFields hsame
    refine ⟨fields, rfl, fun e he => ?_⟩
    have hmem : e.1 ∈ data.map (·.1) := hkeys ▸ List.mem_map_of_mem he
    obtain ⟨e', he', hkey⟩ := List.mem_map.1 hmem
    exact hkey ▸ hfree e' he'
  | _ =>
    rw [hr] at hsame
    cases hsame

end

/-- **The objects that come back from the API as they were**, if their times are whole seconds: all
that have a structure, and the custom resources whose data is an object with none of the keys of the
type and the metadata. -/
theorem readBack?_iff {o : ManagedObject} (hw : o.IsWhole)
    (hord : ∀ r ∈ o.resource?, r.data.Ordered) :
    (o.resource? = none → o.readBack? = some o) ∧
    ∀ r ∈ o.resource?, (∃ back, o.readBack? = some back ∧ back.same o = true) ↔
      ∃ data, r.data = .obj data ∧ ∀ e ∈ data, e.1 ∉ ["apiVersion", "kind", "metadata"] := by
  refine ⟨readBack?_typed hw, fun r hr => ?_⟩
  cases o with
  | custom k o =>
    obtain rfl := Option.some.inj hr
    simp only [← UntypedObject.isData_iff]
    constructor
    · intro h
      obtain ⟨back, hback, hs⟩ := h
      exact apart_of_readBack? (hord o rfl) hback hs
    · intro h
      obtain ⟨data, hdata, hfree⟩ := h
      exact ⟨_, readBack?_custom hdata (hdata ▸ hord o rfl) hfree hw, same_self _⟩
  | _ => cases hr

/-- A secret comes back with its bytes and its time, and a custom resource with its specification;
data that states a kind is lost, and no data becomes an empty object. -/
theorem readBack?_iff_samples :
    (secret ⟨{ ObjectMeta.empty with creationTimestamp := some ⟨0, 0⟩ },
        some (.ofList [("key", [255, 0])]), none, none, none⟩).readBack? =
      some (secret ⟨{ ObjectMeta.empty with creationTimestamp := some ⟨0, 0⟩ },
        some (.ofList [("key", [255, 0])]), none, none, none⟩) ∧
    (∃ back, (custom .route ⟨.empty, .obj [("spec", .null)]⟩).readBack? = some back ∧
      back.same (custom .route ⟨.empty, .obj [("spec", .null)]⟩) = true) ∧
    (¬∃ back, (custom .route ⟨.empty, .obj [("kind", .null)]⟩).readBack? = some back ∧
      back.same (custom .route ⟨.empty, .obj [("kind", .null)]⟩) = true) ∧
    ¬∃ back, (custom .route ⟨.empty, .null⟩).readBack? = some back ∧
      back.same (custom .route ⟨.empty, .null⟩) = true := by
  have hempty : ObjectMeta.empty.IsWhole := ⟨fun t ht => (by cases ht), fun t ht => (by cases ht)⟩
  have hroute : ∀ {data : Json}, data.Ordered →
      ((∃ back, (custom .route ⟨.empty, data⟩).readBack? = some back ∧
        back.same (custom .route ⟨.empty, data⟩) = true) ↔ ∃ fields, data = .obj fields ∧
          ∀ e ∈ fields, e.1 ∉ ["apiVersion", "kind", "metadata"]) := by
    intro data hdata
    refine (readBack?_iff (o := custom .route ⟨.empty, data⟩) hempty fun r hr => ?_).2 _ rfl
    obtain rfl := Option.some.inj hr
    exact hdata
  have hmember : ∀ key, (Json.obj [(key, .null)]).Ordered := fun key =>
    Json.ordered_obj_iff.2 ⟨List.pairwise_singleton _ _, by simp [Json.Ordered]⟩
  refine ⟨(readBack?_iff ?_ fun r hr => (by cases hr)).1 rfl,
    (hroute (hmember _)).2 ⟨_, rfl, by simp⟩, fun h => ?_, fun h => ?_⟩
  · refine ⟨fun t ht => ?_, fun t ht => (by cases ht)⟩
    obtain rfl := Option.some.inj ht
    decide
  · obtain ⟨fields, hfields, hfree⟩ := (hroute (hmember _)).1 h
    obtain rfl := Json.obj.inj hfields
    exact hfree _ List.mem_cons_self (by simp)
  · have hnull : Json.null.Ordered := trivial
    obtain ⟨fields, hfields, -⟩ := (hroute hnull).1 h
    cases hfields

end ManagedObject

end Reconciliation
