import Mathlib.Data.List.TakeWhile
import Reconciliation.Cluster
import Reconciliation.Proofs.Wire.Query

/-!
# Addresses of objects

A server finds out from a path alone what a request is about: the segments between the slashes state
group and version, perhaps a namespace, the collection and perhaps a name. The paths that the store
writes are read back as what they were written for, whatever the names are, as long as they keep to
characters that a path admits and do not end a segment.

* `ApiResource.ofPath?` -- what a path names;
* **`ResourcePath.ofPath?_ofKind`**, **`ObjectIdentity.IsAddressable.ofPath?_path`** -- the paths of
  collections and of objects name them;
* `Cluster.getRequest_eq` to `Cluster.listRequest_eq` -- the requests of the store. They can be
  written down unless the address gets too long, or the name of the field manager.
-/

namespace Reconciliation

/-! ## 1. Texts that are joined -/

/-- Texts joined by a mark that none of them holds are parted there. -/
theorem splitOn_intercalate {mark : Char} {parts : List String} (hne : parts ≠ [])
    (h : ∀ s ∈ parts, mark ∉ s.toList) :
    ((String.singleton mark).intercalate parts).toList.splitOn mark =
      parts.map String.toList := by
  rw [String.toList_intercalate, String.toList_singleton]
  refine List.splitOn_intercalate mark (fun l hl => ?_) (by simpa using hne)
  obtain ⟨s, hs, rfl⟩ := List.mem_map.1 hl
  exact h s hs

theorem utf8ByteSize_replicate (n : Nat) :
    (String.ofList (List.replicate n 'a')).utf8ByteSize = n := by
  induction n with
  | zero => rfl
  | succ n ih =>
    have ha : (String.singleton 'a').utf8ByteSize = 1 := by decide
    rw [List.replicate_succ, String.ofList_cons, String.utf8ByteSize_append, ih, ha, Nat.add_comm]

/-! ## 2. What a path names -/

/-- The kind whose collection has a place in the API. -/
def Kind.ofResource? (group version plural : String) : Option Kind :=
  Kind.all.find? fun k => k.group == group && k.version == version && k.plural == plural

theorem Kind.ofResource?_self (k : Kind) : ofResource? k.group k.version k.plural = some k := by
  rcases k with _ | _ | _ | _ | _ | _ | _ | _ | _ | _ | _ | (_ | _ | _ | _) <;> decide

/-- What a path names: a collection of objects, or one object. -/
inductive ApiResource where
  | collection (kind : Kind) (namespace? : Option String)
  | object (id : ObjectIdentity)

namespace ApiResource

/-- What the segments behind an API group and version name. Only namespaced kinds have collections
within a namespace, and only the others have objects outside of one. -/
def within? (group version : String) : List String → Option ApiResource
  | [plural] => (Kind.ofResource? group version plural).map (.collection · none)
  | [plural, name] => do
    let kind ← Kind.ofResource? group version plural
    if kind.isNamespaced then none else some (.object ⟨kind, none, name⟩)
  | [root, ns, plural] => do
    let kind ← Kind.ofResource? group version plural
    if root = "namespaces" ∧ kind.isNamespaced then some (.collection kind (some ns)) else none
  | [root, ns, plural, name] => do
    let kind ← Kind.ofResource? group version plural
    if root = "namespaces" ∧ kind.isNamespaced then some (.object ⟨kind, some ns, name⟩) else none
  | _ => none

/-- What the segments of a path name. -/
def ofSegments? : List String → Option ApiResource
  | "" :: "api" :: version :: rest => within? "" version rest
  | "" :: "apis" :: group :: version :: rest => within? group version rest
  | _ => none

/-- What a path names. -/
def ofPath? (path : String) : Option ApiResource :=
  ofSegments? ((path.toList.splitOn '/').map String.ofList)

theorem ofPath?_intercalate {segments : List String} (hne : segments ≠ [])
    (h : ∀ s ∈ segments, '/' ∉ s.toList) :
    ofPath? ("/".intercalate segments) = ofSegments? segments := by
  have hparts : ("/".intercalate segments).toList.splitOn '/' = segments.map String.toList :=
    splitOn_intercalate hne h
  rw [ofPath?, hparts, List.map_map]
  congr 1
  exact List.map_id'' (fun s => String.ofList_toList) segments

end ApiResource

namespace ResourcePath

/-- The segments of the path of a kind. -/
def segments (kind : Kind) (namespace? : Option String) : List String :=
  (if kind.group.isEmpty then ["", "api", kind.version] else ["", "apis", kind.group, kind.version])
    ++ namespace?.elim [] (fun ns => ["namespaces", ns]) ++ [kind.plural]

theorem ofKind_eq (kind : Kind) (namespace? : Option String) :
    ofKind kind namespace? =
      "/".intercalate (segments kind (if kind.isNamespaced then namespace? else none)) := by
  apply String.toList_inj.1
  unfold ofKind collection segments
  generalize (if kind.isNamespaced then namespace? else none) = scope?
  by_cases hgroup : kind.group.isEmpty = true <;> cases scope? <;>
    simp [hgroup]

theorem intercalate_segments (kind : Kind) (namespace? : Option String) (name : String) :
    "/".intercalate (segments kind namespace? ++ [name]) =
      "/".intercalate (segments kind namespace?) ++ "/" ++ name := by
  apply String.toList_inj.1
  unfold segments
  by_cases hgroup : kind.group.isEmpty = true <;> cases namespace? <;> simp [hgroup]

end ResourcePath

/-! ## 3. Objects that have an address -/

/-- The text may stand between two slashes of a path. -/
def IsSegment (s : String) : Prop := RequestTarget.IsPath s ∧ '/' ∉ s.toList

instance (s : String) : Decidable (IsSegment s) := inferInstanceAs (Decidable (_ ∧ _))

theorem isPath_intercalate {segments : List String} (h : ∀ s ∈ segments, IsSegment s) :
    RequestTarget.IsPath ("/".intercalate segments) := by
  intro c hc
  rw [String.toList_intercalate] at hc
  induction segments with
  | nil => simp at hc
  | cons s rest ih =>
    cases rest with
    | nil => exact (h s List.mem_cons_self).1 c (by simpa using hc)
    | cons t rest =>
      rw [List.map_cons, List.map_cons, List.intercalate_cons_cons] at hc
      rcases List.mem_append.1 hc with hc | hc
      · rcases List.mem_append.1 hc with hc | hc
        · exact (h s List.mem_cons_self).1 c hc
        · obtain rfl := List.mem_singleton.1 hc
          decide
      · exact ih (fun t ht => h t (List.mem_cons_of_mem _ ht)) hc

namespace ResourcePath

theorem isSegment_of_mem {kind : Kind} {namespace? : Option String}
    (h : ∀ ns ∈ namespace?, IsSegment ns) : ∀ s ∈ segments kind namespace?, IsSegment s := by
  have hkind : (∀ s ∈ (if kind.group.isEmpty then ["", "api", kind.version]
      else ["", "apis", kind.group, kind.version]), IsSegment s) ∧ IsSegment kind.plural := by
    rcases kind with _ | _ | _ | _ | _ | _ | _ | _ | _ | _ | _ | (_ | _ | _ | _) <;> decide
  intro s hs
  simp only [segments, List.mem_append, List.mem_singleton] at hs
  rcases hs with (hs | hs) | rfl
  · exact hkind.1 s hs
  · cases namespace? with
    | none => cases hs
    | some ns =>
      simp only [Option.elim, List.mem_cons, List.not_mem_nil, or_false] at hs
      rcases hs with rfl | rfl
      · decide
      · exact h s rfl
  · exact hkind.2

/-- Only a namespace that counts stands in the path of a kind. -/
theorem isSegment_of_mem_ofKind {kind : Kind} {namespace? : Option String}
    (h : kind.isNamespaced = true → ∀ ns ∈ namespace?, IsSegment ns) :
    ∀ s ∈ segments kind (if kind.isNamespaced then namespace? else none), IsSegment s := by
  refine isSegment_of_mem fun ns hns => ?_
  split at hns
  · rename_i hscope
    exact h hscope ns hns
  · cases hns

theorem isPath_ofKind {kind : Kind} {namespace? : Option String}
    (h : kind.isNamespaced = true → ∀ ns ∈ namespace?, IsSegment ns) :
    RequestTarget.IsPath (ofKind kind namespace?) := by
  rw [ofKind_eq]
  exact isPath_intercalate (isSegment_of_mem_ofKind h)

/-- What stands behind group and version is what counts. -/
theorem ofSegments?_append (group version : String) (rest : List String) :
    ApiResource.ofSegments?
        ((if group.isEmpty then ["", "api", version] else ["", "apis", group, version]) ++ rest) =
      ApiResource.within? group version rest := by
  by_cases hgroup : group.isEmpty = true
  · obtain rfl := String.isEmpty_iff.1 hgroup
    rfl
  · rw [if_neg hgroup]
    rfl

/-- **The path of a collection names it.** -/
theorem ofPath?_ofKind {kind : Kind} {namespace? : Option String}
    (h : kind.isNamespaced = true → ∀ ns ∈ namespace?, IsSegment ns) :
    ApiResource.ofPath? (ofKind kind namespace?) =
      some (.collection kind (if kind.isNamespaced then namespace? else none)) := by
  have hkind := kind.ofResource?_self
  rw [ofKind_eq, ApiResource.ofPath?_intercalate (by simp [segments])
    fun s hs => (isSegment_of_mem_ofKind h s hs).2, segments, List.append_assoc, ofSegments?_append]
  by_cases hscope : kind.isNamespaced = true
  · rw [if_pos hscope]
    cases namespace? with
    | none => exact congrArg (Option.map _) hkind
    | some ns =>
      simp only [Option.elim, List.cons_append, List.nil_append]
      rw [ApiResource.within?, hkind]
      exact if_pos ⟨rfl, hscope⟩
  · rw [if_neg hscope]
    exact congrArg (Option.map _) hkind

end ResourcePath

/-- The collection of the object has an address: there is a namespace just if there is one for the
kind, and it may stand in a path. -/
structure ObjectIdentity.IsPlaced (id : ObjectIdentity) : Prop where
  placed : id.namespace?.isSome = id.kind.isNamespaced
  scope : ∀ ns ∈ id.namespace?, IsSegment ns

/-- The object has an address: so has its collection, and its name may stand in a path, too. -/
structure ObjectIdentity.IsAddressable (id : ObjectIdentity) : Prop extends id.IsPlaced where
  named : id.name ≠ ""
  name : IsSegment id.name

instance (id : ObjectIdentity) : Decidable id.IsPlaced :=
  decidable_of_iff
    (id.namespace?.isSome = id.kind.isNamespaced ∧ ∀ ns ∈ id.namespace?, IsSegment ns)
    ⟨fun ⟨placed, scope⟩ => ⟨placed, scope⟩, fun ⟨placed, scope⟩ => ⟨placed, scope⟩⟩

instance (id : ObjectIdentity) : Decidable id.IsAddressable :=
  decidable_of_iff (id.IsPlaced ∧ id.name ≠ "" ∧ IsSegment id.name)
    ⟨fun ⟨isPlaced, named, name⟩ => ⟨isPlaced, named, name⟩,
      fun ⟨isPlaced, named, name⟩ => ⟨isPlaced, named, name⟩⟩

namespace ObjectIdentity

theorem IsPlaced.namespace_eq {id : ObjectIdentity} (h : id.IsPlaced) :
    (if id.kind.isNamespaced then id.namespace? else none) = id.namespace? := by
  cases hns : id.namespace? with
  | none => simp
  | some ns => rw [← h.placed, hns]; rfl

/-- The path of the object. -/
def path (id : ObjectIdentity) : String :=
  ResourcePath.ofKind id.kind id.namespace? ++ "/" ++ id.name

theorem ofIdentity_eq {id : ObjectIdentity} (h : id.name ≠ "") :
    ResourcePath.ofIdentity id = some id.path := by
  have hname : id.name.isEmpty = false := by simpa using h
  simp [ResourcePath.ofIdentity, ResourcePath.item, hname, path]

namespace IsAddressable

variable {id : ObjectIdentity} (h : id.IsAddressable)

include h

theorem path_eq :
    id.path = "/".intercalate (ResourcePath.segments id.kind id.namespace? ++ [id.name]) := by
  rw [path, ResourcePath.ofKind_eq, h.toIsPlaced.namespace_eq, ResourcePath.intercalate_segments]

theorem isSegment_of_mem :
    ∀ s ∈ ResourcePath.segments id.kind id.namespace? ++ [id.name], IsSegment s := by
  intro s hs
  rcases List.mem_append.1 hs with hs | hs
  · exact ResourcePath.isSegment_of_mem h.scope s hs
  · rw [List.mem_singleton.1 hs]
    exact h.name

theorem isPath_path : RequestTarget.IsPath id.path := by
  rw [h.path_eq]
  exact isPath_intercalate h.isSegment_of_mem

/-- **The path of an object names it.** -/
theorem ofPath?_path : ApiResource.ofPath? id.path = some (.object id) := by
  have hplaced := h.placed
  rw [h.path_eq, ApiResource.ofPath?_intercalate (by simp)
    fun s hs => (h.isSegment_of_mem s hs).2, ResourcePath.segments, List.append_assoc,
    List.append_assoc, ResourcePath.ofSegments?_append]
  obtain ⟨kind, scope?, name⟩ := id
  have hkind := kind.ofResource?_self
  cases scope? with
  | none =>
    simp only [Option.elim, List.cons_append, List.nil_append]
    rw [ApiResource.within?, hkind]
    exact if_neg (by simp [← hplaced])
  | some ns =>
    simp only [Option.elim, List.cons_append, List.nil_append]
    rw [ApiResource.within?, hkind]
    exact if_pos ⟨rfl, hplaced.symm⟩

end IsAddressable

end ObjectIdentity

/-! ## 4. Requests -/

namespace Cluster

variable {id : ObjectIdentity}

theorem getRequest_eq (hname : id.name ≠ "") (hpath : RequestTarget.IsPath id.path)
    (hsize : id.path.utf8ByteSize ≤ 65534) :
    getRequest id = some ⟨.get, ⟨id.path, ""⟩, none⟩ := by
  unfold getRequest
  rw [ObjectIdentity.ofIdentity_eq hname]
  rw [Option.bind_eq_bind, Option.bind_some]
  rw [HttpRequest.to?, RequestTarget.ofAddress?_path hpath hsize]
  rfl

theorem getRequest_of_lt (h : 65534 < id.path.utf8ByteSize) : getRequest id = none := by
  unfold getRequest
  by_cases hname : id.name = ""
  · have hpath : ResourcePath.ofIdentity id = none := if_pos (by rw [hname]; rfl)
    rw [hpath]
    rfl
  · rw [ObjectIdentity.ofIdentity_eq hname]
    rw [Option.bind_eq_bind, Option.bind_some]
    rw [HttpRequest.to?, RequestTarget.ofAddress?_of_lt h]
    rfl

theorem getRequest_of_long (h : 65534 < id.name.utf8ByteSize) : getRequest id = none := by
  refine getRequest_of_lt ?_
  rw [ObjectIdentity.path, String.utf8ByteSize_append]
  omega

theorem updateRequest_eq {c : Cluster σ} (h : id.IsAddressable) (body : Json)
    (hsize : (address id.path c.managed).utf8ByteSize ≤ 65534) :
    c.updateRequest id body =
      some ⟨.put, ⟨id.path, Query.encode c.managed⟩, some ⟨contentType, body⟩⟩ := by
  unfold updateRequest
  rw [ObjectIdentity.ofIdentity_eq h.named]
  rw [Option.bind_eq_bind, Option.bind_some]
  rw [HttpRequest.to?, address, RequestTarget.ofAddress?_parameters h.isPath_path hsize]
  rfl

theorem deleteRequest_eq (h : id.IsAddressable)
    (hsize : (address id.path []).utf8ByteSize ≤ 65534) :
    deleteRequest id = some ⟨.delete, ⟨id.path, Query.encode []⟩,
      some ⟨contentType, .obj [("propagationPolicy", .str "Background")]⟩⟩ := by
  unfold deleteRequest
  rw [ObjectIdentity.ofIdentity_eq h.named]
  rw [Option.bind_eq_bind, Option.bind_some]
  rw [HttpRequest.to?, address, RequestTarget.ofAddress?_parameters h.isPath_path hsize]
  rfl

theorem createRequest_eq {c : Cluster σ} (body : Json)
    (h : id.kind.isNamespaced = true → ∀ ns ∈ id.namespace?, IsSegment ns)
    (hmanager : c.fieldManager.utf8ByteSize ≤ 128)
    (hsize : (address (ResourcePath.ofKind id.kind id.namespace?) c.managed).utf8ByteSize ≤ 65534) :
    c.createRequest id body =
      some ⟨.post, ⟨ResourcePath.ofKind id.kind id.namespace?, Query.encode c.managed⟩,
        some ⟨contentType, body⟩⟩ := by
  unfold createRequest
  rw [if_pos hmanager, HttpRequest.to?, address,
    RequestTarget.ofAddress?_parameters (ResourcePath.isPath_ofKind h) hsize]
  rfl

theorem listRequest_eq {kind : Kind} {namespace? : Option String} {selector : LabelSelector}
    (h : kind.isNamespaced = true → ∀ ns ∈ namespace?, IsSegment ns)
    (hsize : (address (ResourcePath.ofKind kind namespace?)
      [("labelSelector", selector.toQuery)]).utf8ByteSize ≤ 65534) :
    listRequest kind namespace? selector =
      some ⟨.get, ⟨ResourcePath.ofKind kind namespace?,
        Query.encode [("labelSelector", selector.toQuery)]⟩, none⟩ := by
  unfold listRequest
  rw [HttpRequest.to?, address,
    RequestTarget.ofAddress?_parameters (ResourcePath.isPath_ofKind h) hsize]
  rfl

end Cluster

end Reconciliation
