import Reconciliation.Proofs.Mutation.Idempotence

/-!
# The metadata of a mutated object

Other controllers label and annotate the same objects, and the API server keeps its own fields
there. Of all this a mutation takes over what the desired object says, and nothing else changes:
neither in the merge of the metadata nor in the policy that runs after it.

* `LabelsOverlaid` -- labels laid over labels, seen through lookups;
* `LabelSelector.selects_mergeLabels` -- so whatever selects the desired labels selects the result;
* `ObjectMeta.Overlaid` -- metadata laid over metadata, every field accounted for;
  `ObjectMeta.references_merge` -- whose owner references that leaves;
* **`Registry.mutate_overlays`** -- the metadata of every mutated object.
-/

namespace Reconciliation

/-! ## 1. Labels -/

theorem Dict.get?_of_isEmpty {d : Dict String String} (h : d.isEmpty = true) (key : String) :
    d.get? key = none := by
  unfold Dict.isEmpty at h
  rw [Dict.get?, List.isEmpty_iff.1 h, Entries.lookup_nil]

/-- Desired labels laid over existing ones: a key has its desired value if there is one, and else
the value that it had. Where nothing is desired the field stays as it is, absent or empty. -/
structure LabelsOverlaid (existing desired merged : Option (Dict String String)) : Prop where
  lookup : ∀ key, merged.bind (·.get? key) =
    (desired.bind (·.get? key)).or (existing.bind (·.get? key))
  untouched : (∀ d ∈ desired, d.isEmpty = true) → merged = existing

theorem mergeLabels_overlaid (existing desired : Option (Dict String String)) :
    LabelsOverlaid existing desired (mergeLabels existing desired) := by
  cases desired with
  | none => exact ⟨fun _ => rfl, fun _ => rfl⟩
  | some d =>
    by_cases hd : d.isEmpty = true
    · have hm : mergeLabels existing (some d) = existing := if_pos hd
      rw [hm]
      refine ⟨fun key => ?_, fun _ => rfl⟩
      rw [Option.bind_some, Dict.get?_of_isEmpty hd, Option.none_or]
    · have hm : mergeLabels existing (some d) = some ((existing.getD .empty).overlay d) := if_neg hd
      rw [hm]
      refine ⟨fun key => ?_, fun h => absurd (h d rfl) hd⟩
      rw [Option.bind_some, Option.bind_some, Dict.get?_overlay]
      cases existing <;> rfl

namespace LabelSelector

theorem selects_iff {s : LabelSelector} {labels : Option (Dict String String)} :
    s.selects labels = true ↔
      ∀ pair ∈ s.required.entries, labels.bind (·.get? pair.1) = some pair.2 := by
  simp only [selects, List.all_eq_true, beq_iff_eq]

/-- Labels that were laid over others are all there. -/
theorem selects_mergeLabels {s : LabelSelector} {existing desired : Option (Dict String String)}
    (h : s.selects desired = true) : s.selects (mergeLabels existing desired) = true := by
  rw [selects_iff] at h ⊢
  intro pair hpair
  rw [(mergeLabels_overlaid existing desired).lookup, h pair hpair, Option.some_or]

end LabelSelector

/-! ## 2. Metadata -/

/-- Desired metadata laid over existing metadata: labels and annotations key by key, the owner
references as a whole if any are desired, and nothing else. -/
structure ObjectMeta.Overlaid (existing desired merged : ObjectMeta) : Prop where
  labels : LabelsOverlaid existing.labels desired.labels merged.labels
  annotations : LabelsOverlaid existing.annotations desired.annotations merged.annotations
  ownerReferences : merged.ownerReferences =
    if desired.references = [] then existing.ownerReferences else desired.ownerReferences
  /-- Name, namespace, uid, version, the time of creation and all others stay. -/
  others : merged =
    { existing with
      labels := merged.labels
      annotations := merged.annotations
      ownerReferences := merged.ownerReferences }

theorem ObjectMeta.merge_overlaid (existing desired : ObjectMeta) :
    existing.Overlaid desired (existing.merge desired) := by
  refine ⟨mergeLabels_overlaid _ _, mergeLabels_overlaid _ _, ?_, rfl⟩
  unfold merge
  simp only [List.isEmpty_iff]

theorem ObjectMeta.references_merge (existing desired : ObjectMeta) :
    (existing.merge desired).references =
      if desired.references = [] then existing.references else desired.references := by
  have h := (existing.merge_overlaid desired).ownerReferences
  unfold references at h ⊢
  rw [h]
  split <;> rfl

/-! ## 3. Mutation -/

/-- **A mutation lays the desired metadata over the existing one.** If it succeeds, labels,
annotations and owner references are as `ObjectMeta.Overlaid` says; every other field of the
metadata, the kind, the identity and whether the object exists are those of the existing object. So
every selector that asks for desired labels only selects the result. -/
theorem Registry.mutate_overlays {r : Registry} {existing desired merged : ManagedObject}
    (h : r.mutate existing desired = .ok merged) :
    existing.metadata.Overlaid desired.metadata merged.metadata ∧
      merged.kind = existing.kind ∧ merged.identity = existing.identity ∧
      merged.exists? = existing.exists? ∧
      ∀ selector : LabelSelector,
        (∀ pair ∈ selector.required.entries, desired.metadata.label? pair.1 = some pair.2) →
        selector.selects merged.metadata.labels = true := by
  have hmeta : merged.metadata = existing.metadata.merge desired.metadata := metadata_mutate h
  have hidentity : merged.identity = existing.identity := identity_mutate h
  refine ⟨?_, congrArg ObjectIdentity.kind hidentity, hidentity, ?_, fun selector hs => ?_⟩
  · rw [hmeta]
    exact ObjectMeta.merge_overlaid _ _
  · unfold ManagedObject.exists?
    rw [hmeta]
    rfl
  · rw [hmeta]
    exact LabelSelector.selects_mergeLabels (LabelSelector.selects_iff.2 hs)

/-- A configuration map with these labels. -/
def ConfigMap.labelled (created : Option Instant) (labels : List (String × String)) :
    ConfigMap where
  metadata :=
    { ObjectMeta.empty with creationTimestamp := created, labels := some (.ofList labels) }
  data := none
  binaryData := none
  immutable := none

/-- The label of another controller survives, and a selector of the desired labels still finds the
object. -/
theorem Registry.mutate_overlays_labelled :
    ∃ merged, standard.mutate
        (.configMap (.labelled (some ⟨0, 0⟩) [("foreign", "kept"), ("shared", "old")]))
        (.configMap (.labelled none [("shared", "new")])) = .ok merged ∧
      merged.metadata.label? "foreign" = some "kept" ∧
      merged.metadata.label? "shared" = some "new" ∧ merged.exists? = true ∧
      (LabelSelector.mk (.ofList [("shared", "new")])).selects merged.metadata.labels = true := by
  obtain ⟨merged, hm⟩ : ∃ merged, standard.mutate
      (.configMap (.labelled (some ⟨0, 0⟩) [("foreign", "kept"), ("shared", "old")]))
      (.configMap (.labelled none [("shared", "new")])) = .ok merged := ⟨_, rfl⟩
  obtain ⟨hmeta, -, -, hexists, hselects⟩ := mutate_overlays hm
  refine ⟨merged, hm, (hmeta.labels.lookup _).trans (by decide),
    (hmeta.labels.lookup _).trans (by decide), hexists, hselects _ (by decide)⟩

end Reconciliation
