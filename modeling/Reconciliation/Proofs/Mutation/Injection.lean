import Reconciliation.Proofs.Mutation.Metadata

/-!
# Injected bundles

The data of a configuration map is the engine's, but for bundles that another controller fills in:
overwriting those would fight with it for ever. An annotation tells which ones they are. It is read
after the metadata has been merged, so that both sides have a say in it, and it counts with any
value, while the rule speaks of a live object that says `true`.

* `ConfigMap.injection?` -- the annotation; `ConfigMap.contents` -- what a configuration map holds;
* `ConfigMap.ruled` -- the contents that the rule asks for;
* **`Registry.mutate_contents`** -- the contents of every mutated configuration map, and when they
  are those; `Registry.mutate_contents_refused` -- data that is never repaired.
-/

namespace Reconciliation

namespace ConfigMap

/-! ## 1. The rule -/

/-- What the object says about injection. -/
def injection? (o : ConfigMap) : Option String :=
  o.metadata.annotations.bind (·.get? injectAnnotation)

/-- What a configuration map holds: texts and bytes. -/
def contents (o : ConfigMap) : Option (Dict String String) × Option (Dict String (List UInt8)) :=
  (o.data, o.binaryData)

/-- The contents by the rule: those of a live object that says `true`, and else the desired ones. -/
def ruled (live desired : ConfigMap) :
    Option (Dict String String) × Option (Dict String (List UInt8)) :=
  if live.injection? = some "true" then live.contents else desired.contents

theorem contents_merge (existing desired : ConfigMap) :
    (existing.merge desired).contents =
      if existing.injection?.isSome then existing.contents else desired.contents := by
  unfold merge
  exact apply_ite contents _ _ _

/-- What the desired object says counts first. -/
theorem injection?_overlaid (live desired : ConfigMap) :
    injection? { live with metadata := live.metadata.merge desired.metadata } =
      desired.injection?.or live.injection? :=
  (live.metadata.merge_overlaid desired.metadata).annotations.lookup injectAnnotation

/-- What a mutation leaves: the live contents, unless neither side says anything. -/
theorem contents_overlaid (live desired : ConfigMap) :
    (merge { live with metadata := live.metadata.merge desired.metadata } desired).contents =
      if live.injection? = none ∧ desired.injection? = none then desired.contents
        else live.contents := by
  rw [contents_merge, injection?_overlaid]
  cases hd : desired.injection? with
  | none =>
    cases hl : live.injection? with
    | none => simp
    | some value =>
      simp
      rfl
  | some value =>
    simp
    rfl

/-- Where the rule and what a mutation leaves agree. -/
theorem contents_eq_ruled_iff (live desired : ConfigMap) :
    (if live.injection? = none ∧ desired.injection? = none then desired.contents
        else live.contents) = live.ruled desired ↔
      live.injection? = some "true" ∨ (live.injection? = none ∧ desired.injection? = none) ∨
        live.contents = desired.contents := by
  unfold ruled
  by_cases htrue : live.injection? = some "true"
  · simp [htrue]
  · by_cases hnone : live.injection? = none ∧ desired.injection? = none
    · simp [hnone]
    · simp [htrue, hnone]

end ConfigMap

/-! ## 2. Mutation -/

/-- **The contents of a mutated configuration map** are those of the desired object if neither side
has the annotation; they are those of the live object if one of them does, with whatever value. That
is what the rule asks for exactly if the live object says `true`, or neither says anything, or there
is nothing to repair. -/
theorem Registry.mutate_contents (live desired : ConfigMap) :
    ∃ merged : ConfigMap,
      standard.mutate (.configMap live) (.configMap desired) = .ok (.configMap merged) ∧
      (∀ (r : Registry) (other : ManagedObject),
        r.mutate (.configMap live) (.configMap desired) = .ok other → other = .configMap merged) ∧
      merged.contents =
        (if live.injection? = none ∧ desired.injection? = none then desired.contents
          else live.contents) ∧
      (merged.contents = live.ruled desired ↔
        live.injection? = some "true" ∨ (live.injection? = none ∧ desired.injection? = none) ∨
          live.contents = desired.contents) := by
  refine ⟨_, rfl, fun r other h => ?_, ConfigMap.contents_overlaid live desired, ?_⟩
  · obtain ⟨-, -, hm⟩ := mutate_eq_ok_iff.1 h
    cases hm
    rfl
  · exact (ConfigMap.contents_overlaid live desired).congr_left.trans
      (ConfigMap.contents_eq_ruled_iff live desired)

/-- A bundle with this text that says this about injection. -/
def ConfigMap.bundle (injection : Option String) (text : String) : ConfigMap where
  metadata :=
    { ObjectMeta.empty with
      name := some "bundle"
      annotations := injection.map fun value => .ofList [( injectAnnotation, value)] }
  data := some (.ofList [("service-ca.crt", text)])
  binaryData := none
  immutable := none

/-- A live object that says `false`, and one that says nothing while the desired object says `true`:
the rule asks for the desired contents, and the old ones stay. -/
theorem Registry.mutate_contents_refused :
    (∃ merged : ConfigMap,
      standard.mutate (.configMap (.bundle (some "false") "old"))
          (.configMap (.bundle none "new")) = .ok (.configMap merged) ∧
        (ConfigMap.bundle (some "false") "old").injection? = some "false" ∧
        merged.contents ≠ (ConfigMap.bundle none "new").contents ∧
        merged.contents ≠ (ConfigMap.bundle (some "false") "old").ruled (.bundle none "new")) ∧
      ∃ merged : ConfigMap,
        standard.mutate (.configMap (.bundle none "old"))
            (.configMap (.bundle (some "true") "new")) = .ok (.configMap merged) ∧
          (ConfigMap.bundle none "old").injection? = none ∧
          merged.contents ≠ (ConfigMap.bundle (some "true") "new").contents ∧
          merged.contents ≠ (ConfigMap.bundle none "old").ruled (.bundle (some "true") "new") :=
  ⟨⟨_, rfl, by decide, by decide, by decide⟩, ⟨_, rfl, by decide, by decide, by decide⟩⟩

end Reconciliation
