import Reconciliation.Proofs.Pass.Prune
import Reconciliation.Proofs.Pass.Sync
import Reconciliation.Proofs.Store.History

/-!
# Passes settle

A sync that succeeds leaves every object in a state from which the next one goes on without detours:
what was written or found in order is found in order, and what was deleted to be made anew is made
anew. The server fields that an update stamps do not count for the mutation, and no object is
disturbed by the steps on the others.

* `Registry.mutate_restamp` -- an updated object is a fixed point of the mutation;
* `SyncStep.again` -- two steps on one object that nobody touched in between;
* `SyncSteps.uids` -- a sync reports no uid that is still to be given out;
* **`Engine.later_sync_stable`** -- two syncs in a row.
-/

namespace Reconciliation

/-! ## 1. Mutating what was just updated -/

/-- Policies read of the metadata only whether the object exists and its annotations. -/
theorem MergesTo.withMetadata {existing desired merged : ManagedObject}
    (h : MergesTo existing desired merged) {m : ObjectMeta}
    (hx : m.exists? = existing.metadata.exists?)
    (ha : m.annotations = existing.metadata.annotations) :
    MergesTo (existing.withMetadata m) desired (merged.withMetadata m) := by
  cases h with
  | configMap e d =>
    have hmerge : { e with metadata := m }.merge d = { e.merge d with metadata := m } := by
      have ha' : m.annotations = e.metadata.annotations := ha
      unfold ConfigMap.merge
      dsimp only
      rw [ha']
      split <;> rfl
    show MergesTo _ _ (.configMap { e.merge d with metadata := m })
    rw [← hmerge]
    exact .configMap { e with metadata := m } d
  | secret e d => exact .secret { e with metadata := m } d
  | service e d => exact .service { e with metadata := m } d
  | serviceAccount e d => exact .serviceAccount { e with metadata := m } d
  | @deployment e d merged h =>
    obtain ⟨template, strategy, ht, hs, rfl⟩ := Deployment.merge_eq_ok_iff.1 h
    refine .deployment (Deployment.merge_eq_ok_iff.2 ⟨template, strategy, ht, hs, ?_⟩)
    rw [show m.exists? = e.metadata.exists? from hx]
  | @statefulSet e d merged h =>
    have hx' : m.exists? = e.metadata.exists? := hx
    have hwanted : StatefulSet.wanted { e with metadata := m } d = e.wanted d := by
      unfold StatefulSet.wanted
      rw [hx']
    obtain ⟨hv, template, strategy, ht, hs, rfl⟩ := StatefulSet.merge_eq_ok_iff.1 h
    refine .statefulSet (StatefulSet.merge_eq_ok_iff.2 ?_)
    rw [hwanted, hx']
    exact ⟨hv, template, strategy, ht, hs, rfl⟩
  | role e d => exact .role { e with metadata := m } d
  | @roleBinding e d merged h =>
    refine .roleBinding ?_
    unfold RoleBinding.merge at h ⊢
    rw [show m.exists? = e.metadata.exists? from hx]
    split at h
    · cases h
    · rename_i hsame
      cases h
      exact if_neg hsame
  | clusterRole e d => exact .clusterRole { e with metadata := m } d
  | @clusterRoleBinding e d merged h =>
    refine .clusterRoleBinding ?_
    unfold ClusterRoleBinding.merge at h ⊢
    rw [show m.exists? = e.metadata.exists? from hx]
    split at h
    · cases h
    · rename_i hsame
      cases h
      exact if_neg hsame
  | ingress e d => exact .ingress { e with metadata := m } d
  | custom k e d =>
    have hmerge : { e with metadata := m }.merge d = { e.merge d with metadata := m } := by
      unfold CustomResource.merge
      dsimp only
      split <;> rfl
    show MergesTo _ _ (.custom k { e.merge d with metadata := m })
    rw [← hmerge]
    exact .custom k { e with metadata := m } d

/-- Metadata into which a desired one was merged takes no more of it, whatever else changes. -/
theorem ObjectMeta.merge_eq_self_of_again {m m' desired : ObjectMeta} (h : m.merge desired = m)
    (hl : m'.labels = m.labels) (ha : m'.annotations = m.annotations)
    (ho : m'.ownerReferences = m.ownerReferences) : m'.merge desired = m' := by
  have hlabels := congrArg labels h
  have hannotations := congrArg annotations h
  have hreferences := congrArg ownerReferences h
  unfold merge at hlabels hannotations hreferences ⊢
  dsimp only at hlabels hannotations hreferences
  rw [hl, ha, ho, hlabels, hannotations, hreferences, ← hl, ← ha, ← ho]

/-- **An updated object is a fixed point of the mutation** that made it. -/
theorem Registry.mutate_restamp {r : Registry} {existing desired merged : ManagedObject}
    (h : r.mutate existing desired = .ok merged) (m : Memory) :
    r.mutate (m.restamp existing merged) desired = .ok (m.restamp existing merged) := by
  obtain ⟨hkind, hpolicy, hm⟩ := mutate_eq_ok_iff.1 h
  have hmeta := metadata_mutate h
  have hx : (m.restamp existing merged).metadata.exists? = merged.metadata.exists? := by
    rw [hmeta, Memory.restamp, ManagedObject.metadata_withMetadata]
    rfl
  have hmerge : (m.restamp existing merged).metadata.merge desired.metadata =
      (m.restamp existing merged).metadata := by
    have hagain : merged.metadata.merge desired.metadata = merged.metadata := by
      rw [hmeta, ObjectMeta.merge_again]
    refine ObjectMeta.merge_eq_self_of_again hagain ?_ ?_ ?_ <;>
      rw [Memory.restamp, ManagedObject.metadata_withMetadata]
  refine mutate_eq_ok_iff.2 ⟨?_, hpolicy, ?_⟩
  · rw [Memory.restamp, ManagedObject.kind_withMetadata]
    exact hm.kind_desired
  · rw [hmerge, ManagedObject.withMetadata_metadata]
    have hrestamp : m.restamp existing merged =
        merged.withMetadata (m.restamp existing merged).metadata := by
      rw [Memory.restamp, ManagedObject.metadata_withMetadata]
    rw [hrestamp]
    refine hm.again.withMetadata hx ?_
    rw [Memory.restamp, ManagedObject.metadata_withMetadata]

/-! ## 2. Two steps on one object -/

section Step

variable {registry : Registry} {owner? : Option OwnerReference} {object : ManagedObject}
  {m₁ m₁' m₂ m₂' : Memory} {record later : ObjectRecord}

/-- **Two steps on one object that nobody touched in between.** -/
theorem SyncStep.again (first : SyncStep registry owner? object m₁ (.ok record) m₁')
    (second : SyncStep registry owner? object m₂ (.ok later) m₂')
    (hsame : m₂.objects.get? object.identity = m₁'.objects.get? object.identity) :
    (record.outcome = .updated ∨ record.outcome = .unchanged →
      later = ⟨object.identity, .unchanged, record.uid⟩ ∧ m₂' = m₂) ∧
    (record.outcome = .recreating →
      m₁'.objects.get? object.identity = none ∧ later.outcome = .created) := by
  have hread := second.get_of_ok
  rw [hsame] at hread
  have hunchanged : ∀ {stored merged : ManagedObject},
      m₁'.objects.get? object.identity = some stored →
      registry.mutate stored (object.attach owner?) = .ok merged → merged.same stored = true →
      later = ⟨object.identity, .unchanged, stored.uid?⟩ ∧ m₂' = m₂ := by
    intro stored merged hg hm hs
    rw [hg] at hread
    obtain ⟨hlater, hworld⟩ := second.unchanged_of_mutate hread hm hs
    exact ⟨Except.ok.inj hlater, hworld⟩
  cases first.of_ok with
  | created =>
    refine ⟨fun h => ?_, fun h => (by cases h)⟩
    rcases h with h | h <;> cases h
  | recreating =>
    refine ⟨fun h => (by rcases h with h | h <;> cases h), fun _ => ⟨Memory.get?_deleted _ _, ?_⟩⟩
    rw [Memory.get?_deleted] at hsame
    cases second.of_ok with
    | created => rfl
    | recreating hg | unchanged hg | updated hg => cases hsame.symm.trans hg
  | unchanged hg hm hs => exact ⟨fun _ => hunchanged hg hm hs, fun h => (by cases h)⟩
  | @updated existing merged hg hm hs hid =>
    exact ⟨fun _ => hunchanged (m₁.get?_updated existing hid) (Registry.mutate_restamp hm m₁)
      (ManagedObject.same_self _), fun h => (by cases h)⟩

end Step

/-! ## 3. Uids -/

section Uids

variable {registry : Registry} {owner? : Option OwnerReference} {m m' : Memory}

theorem SyncStep.issues {object : ManagedObject} {result : Except ObjectError ObjectRecord}
    (h : SyncStep registry owner? object m result m') : Memory.Issues m m' := by
  cases h with
  | unread | unmerged | unchanged => exact .refl m
  | create => exact .create m _
  | delete => exact .delete m _
  | update => exact .update m _

/-- A step records the uid of the object that it leaves behind; if it creates the object, the uid is
the next one. -/
theorem SyncStepOk.uid {object : ManagedObject} {record : ObjectRecord}
    (h : SyncStepOk registry owner? object m record m') :
    (∀ uid ∈ record.uid, ∃ o, m'.objects.get? object.identity = some o ∧ o.uid? = some uid) ∧
      (record.outcome = .created → record.uid = some (Memory.uidText (m.issued + 1))) := by
  cases h with
  | created =>
    exact ⟨fun uid hu => ⟨_, m.get?_created (object.identity_attach owner?), hu⟩,
      fun _ => m.uid?_stamp _⟩
  | recreating => exact ⟨fun uid hu => (by cases hu), fun h => by cases h⟩
  | unchanged hg => exact ⟨fun uid hu => ⟨_, hg, hu⟩, fun h => by cases h⟩
  | updated _ _ _ hid =>
    exact ⟨fun uid hu => ⟨_, m.get?_updated _ hid, hu⟩, fun h => by cases h⟩

/-- **A sync reports no uid that is still to be given out, and gives new ones to what it
creates.** -/
theorem SyncSteps.uids {objects : List ManagedObject} {records : List ObjectRecord}
    (h : SyncSteps registry owner? objects m records m') :
    Memory.Issues m m' ∧
      (m.UidsIssued → ∀ record ∈ records, ∀ n, m'.issued < n →
        record.uid ≠ some (Memory.uidText n)) ∧
      ∀ record ∈ records, record.outcome = .created →
        ∃ n, m.issued < n ∧ record.uid = some (Memory.uidText n) := by
  induction h with
  | nil =>
    exact ⟨.refl _, fun _ _ h => absurd h List.not_mem_nil, fun _ h => absurd h List.not_mem_nil⟩
  | @cons object rest m m' m'' record records first _ ih =>
    obtain ⟨hissues, hold, hnew⟩ := ih
    obtain ⟨hstored, hcreated⟩ := first.of_ok.uid
    refine ⟨first.issues.trans hissues, fun hm record' hmem n hn => ?_,
      fun record' hmem hc => ?_⟩
    · have hm' := first.issues.fresh hm
      rcases List.mem_cons.1 hmem with rfl | hmem
      · intro huid
        obtain ⟨o, ho, huid'⟩ := hstored _ huid
        exact hm' _ o ho n (by have := hissues.issued; omega) huid'
      · exact hold hm' record' hmem n hn
    · rcases List.mem_cons.1 hmem with rfl | hmem
      · exact ⟨_, Nat.lt_succ_self _, hcreated hc⟩
      · obtain ⟨n, hn, huid⟩ := hnew record' hmem hc
        exact ⟨n, by have := first.issues.issued; omega, huid⟩

end Uids

/-! ## 4. Two passes -/

/-- Two lists that are each related to a third one, entry by entry. -/
theorem forall₂_of_common {α β γ : Type} {R : α → β → Prop} {S : α → γ → Prop}
    {T : β → γ → Prop} (hT : ∀ a b c, R a b → S a c → T b c) {as : List α} {bs : List β}
    {cs : List γ} (h : List.Forall₂ R as bs) (h' : List.Forall₂ S as cs) :
    List.Forall₂ T bs cs := by
  induction h generalizing cs with
  | nil =>
    cases h'
    exact .nil
  | cons hfirst _ ih =>
    cases h' with
    | cons hfirst' hrest' => exact .cons (hT _ _ _ hfirst hfirst') (ih hrest')

/-- How a pass goes on after another that left `m` behind, itself leaving `m'`. -/
structure ObjectRecord.Continues (report : SyncReport) (m m' : Memory)
    (record again : ObjectRecord) : Prop where
  identity : again.identity = record.identity
  /-- What was in order at the end is in order, and not written. -/
  settled : record.outcome = .updated ∨ record.outcome = .unchanged →
    again.outcome = .unchanged ∧ again.uid = record.uid ∧ Memory.Spares record.identity m m'
  /-- What was deleted is gone, and made anew with another uid. -/
  remade : record.outcome = .recreating → m.objects.get? record.identity = none ∧
    again.outcome = .created ∧
    ∃ uid, again.uid = some uid ∧ ∀ other ∈ report.records, other.uid ≠ some uid

/-- **Later passes are stable.** Whatever the store holds and whatever failures are injected, if the
uids that it will give out are on none of its objects, as in every store that calls have led to from
the empty one: of two syncs in a row, with the same owner and the same desired objects, no two of
one identity, which both succeed, the second records every object as unchanged that the first has
updated or found unchanged, with the same uid, and does not write it; and every object that the
first has deleted to be made anew is absent in between, and created by the second with a uid that
the first did not report. -/
theorem Engine.later_sync_stable {σ : Type} {e : Engine σ} {view : σ → Memory}
    (he : e.OnMemory view) (owner : Owner) {desired : List ManagedObject}
    (hn : (desired.map (·.identity)).Nodup) {r : Run σ} (hu : (view r.world).UidsIssued)
    {report again : SyncReport} (hfirst : (e.sync owner desired r).1 = .ok report)
    (hsecond : (e.sync owner desired (e.sync owner desired r).2).1 = .ok again) :
    List.Forall₂
      (ObjectRecord.Continues report (view (e.sync owner desired r).2.world)
        (view (e.sync owner desired (e.sync owner desired r).2).2.world))
      report.records again.records := by
  have hsteps := sync_steps he hfirst
  have hsteps' := sync_steps he hsecond
  generalize view (e.sync owner desired r).2.world = m₁ at hsteps hsteps' ⊢
  generalize view (e.sync owner desired (e.sync owner desired r).2).2.world = m₂ at hsteps' ⊢
  obtain ⟨-, hold, -⟩ := hsteps.uids
  obtain ⟨-, -, hnew⟩ := hsteps'.uids
  refine forall₂_of_common (fun object record again' h h' => ?_) (hsteps.isolate hn)
    (hsteps'.isolate hn)
  obtain ⟨before, after, hstep, -, hafter⟩ := h.isolated
  obtain ⟨before', after', hstep', hbefore', hafter'⟩ := h'.isolated
  have hid := hstep.identity_of_ok
  have hid' := hstep'.identity_of_ok
  obtain ⟨hsettled, hremade⟩ := hstep.again hstep' (hbefore'.object.trans hafter.object)
  refine ⟨hid'.trans hid.symm, fun ho => ?_, fun ho => ?_⟩
  · obtain ⟨rfl, rfl⟩ := hsettled ho
    exact ⟨rfl, rfl, hid ▸ hbefore'.trans hafter'⟩
  · obtain ⟨habsent, hcreated⟩ := hremade ho
    obtain ⟨n, hn, huid⟩ := hnew again' h'.recorded hcreated
    exact ⟨hid ▸ hafter.object.trans habsent, hcreated, _, huid,
      fun other hother => hold hu other hother n hn⟩

/-- A store with two objects of a stack. -/
def Memory.drifted : Memory :=
  (empty ⟨0, 0⟩).after [.insert (.sample (.sample "one" "a") "kept"), .insert (.granting "reader")]

/-- A sync of the stack, which is to control its objects and to grant another role. -/
def Engine.syncDrifted : Pass Memory (Except SyncError SyncReport) :=
  (overMemory .standard .default).sync (.sample "one" "a")
    [.sample (.sample "one" "a") "kept", .granting "writer"]

/-- The first sync updates one object and deletes the other. -/
theorem Engine.later_sync_stable_drifted :
    let first := syncDrifted (.start .drifted)
    let second := syncDrifted first.2
    ([ManagedObject.sample (.sample "one" "a") "kept", .granting "writer"].map
      (·.identity)).Nodup ∧ Memory.drifted.UidsIssued ∧
      ∃ report again, first.1 = .ok report ∧ second.1 = .ok again ∧
        report.records.map (·.outcome) = [.updated, .recreating] ∧
        List.Forall₂ (ObjectRecord.Continues report first.2.world second.2.world) report.records
          again.records := by
  have hn : ([ManagedObject.sample (.sample "one" "a") "kept", .granting "writer"].map
      (·.identity)).Nodup := by decide
  have hu : Memory.drifted.UidsIssued := Memory.uidsIssued_after _ _
  obtain ⟨report, hfirst⟩ : ∃ report, (syncDrifted (.start .drifted)).1 = .ok report :=
    ⟨_, by rfl⟩
  obtain ⟨again, hsecond⟩ : ∃ again,
      (syncDrifted (syncDrifted (.start .drifted)).2).1 = .ok again := ⟨_, by rfl⟩
  have houtcomes : (syncDrifted (.start .drifted)).1.toOption.map
      (fun report => report.records.map (·.outcome)) = some [.updated, .recreating] := by decide
  rw [hfirst] at houtcomes
  exact ⟨hn, hu, report, again, hfirst, hsecond, Option.some.inj houtcomes,
    later_sync_stable (onMemory_overMemory .standard .default) (.sample "one" "a") hn
      (r := .start .drifted) hu hfirst hsecond⟩

end Reconciliation
