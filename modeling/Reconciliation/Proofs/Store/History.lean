import Mathlib.Data.List.Nodup
import Reconciliation.Proofs.Store.Memory
import Reconciliation.Store.Request

/-!
# The history of a store

What a store holds is decided by its history: an object stands as the last call on its identity
stored it, under a version that no other call of the history was given. So a version says which
object its holder has seen, across deletions and other identities too.

* `Memory.Shows` -- what an effect means for the table and for the counter of versions, and
  `StoreRequest.shows`: every call has its effect;
* `Memory.version?_effects` -- versions are numbered without gaps;
* `Memory.Since`, `Memory.since_after` -- an object that stands after calls stood before them, or
  one of them stored it last;
* `Memory.eq_of_version` -- an object that has the version of an earlier one is that one;
* `Memory.UidsIssued`, `Memory.uidsIssued_after` -- uids that are still to be given out are on no
  object, in every store that calls have led to from the empty one;
* `Memory.get?_after`, `Memory.uid?_after` -- an object that calls do not write stays as it is, and
  one that they do not displace keeps its uid.
-/

namespace Reconciliation

/-! ## 1. What a call does -/

namespace Memory

/-- What an effect means for the table and for the counter of versions. -/
inductive Shows (m : Memory) : StoreEffect → Memory → Prop
  | nothing {m' : Memory} (objects : m'.objects = m.objects) (version : m'.version = m.version) :
      Shows m .nothing m'
  | stored {m' : Memory} {o : ManagedObject} (objects : m'.objects = m.objects.insert o.identity o)
      (stamped : o.metadata.resourceVersion = some (toString (m.version + 1)))
      (version : m'.version = m.version + 1) : Shows m (.stored o) m'
  | removed {m' : Memory} {id : ObjectIdentity} (objects : m'.objects = m.objects.erase id)
      (version : m'.version = m.version) : Shows m (.removed id) m'

/-- Stamping sets the version. -/
theorem version_stamp (m : Memory) (o : ManagedObject) :
    (m.stamp o).metadata.resourceVersion = some (toString (m.version + 1)) := by
  rw [stamp, ManagedObject.metadata_withMetadata]

theorem version_restamp (m : Memory) (stored o : ManagedObject) :
    (m.restamp stored o).metadata.resourceVersion = some (toString (m.version + 1)) := by
  rw [restamp, ManagedObject.metadata_withMetadata]

theorem shows_stamp {m m' : Memory} {o : ManagedObject}
    (ho : m'.objects = m.objects.insert o.identity (m.stamp o)) (hv : m'.version = m.version + 1) :
    m.Shows (.stored (m.stamp o)) m' :=
  .stored (by rw [identity_stamp, ho]) (m.version_stamp o) hv

end Memory

/-- **Every call has its effect.** -/
theorem StoreRequest.shows (m : Memory) (request : StoreRequest) :
    m.Shows (request.effect m) (request.apply m) := by
  cases request with
  | insert o => exact Memory.shows_stamp rfl rfl
  | create o =>
    rcases m.create_cases o with ⟨e, he⟩ | ⟨-, he⟩
    · rw [effect_create, apply_create, he]
      exact .nothing rfl rfl
    · rw [effect_create, apply_create, he]
      exact Memory.shows_stamp rfl rfl
  | update o =>
    rcases m.update_cases o with ⟨e, he⟩ | ⟨stored, -, he⟩
    · rw [effect_update, apply_update, he]
      exact .nothing rfl rfl
    · rw [effect_update, apply_update, he]
      exact .stored (by rw [Memory.identity_restamp]; rfl) (m.version_restamp stored o) rfl
  | delete id =>
    rcases m.delete_cases id with ⟨e, -, he⟩ | ⟨-, ⟨hn, he⟩ | ⟨hs, he⟩⟩
    · rw [effect_delete, apply_delete, he]
      exact .nothing rfl rfl
    · rw [effect_delete, apply_delete, he, Dict.contains, hn]
      exact .nothing rfl rfl
    · rw [effect_delete, apply_delete, he, Dict.contains, hs]
      exact .removed rfl rfl
  | _ => exact .nothing rfl rfl

/-- A call does nothing to objects that it is not to write or remove. -/
theorem StoreRequest.identity?_effect {m : Memory} {request : StoreRequest} {id : ObjectIdentity}
    (h : (request.effect m).identity? = some id) : request.target? = some id := by
  cases request with
  | insert o => exact (congrArg some (m.identity_stamp o)).symm.trans h
  | create o =>
    rcases m.create_cases o with ⟨e, he⟩ | ⟨-, he⟩
    · rw [effect_create, he] at h
      cases h
    · rw [effect_create, he] at h
      exact (congrArg some (m.identity_stamp o)).symm.trans h
  | update o =>
    rcases m.update_cases o with ⟨e, he⟩ | ⟨stored, -, he⟩
    · rw [effect_update, he] at h
      cases h
    · rw [effect_update, he] at h
      exact (congrArg some (m.identity_restamp stored o)).symm.trans h
  | delete other =>
    rw [effect_delete] at h
    split at h
    · exact h
    · cases h
  | _ => cases h

namespace Memory

variable {m m' : Memory} {effect : StoreEffect} {id : ObjectIdentity} {o : ManagedObject}

/-- What is found after an effect was found before it, unless the effect is about the identity. -/
theorem Shows.get? (h : m.Shows effect m') (hne : effect.identity? ≠ some id) :
    m'.objects.get? id = m.objects.get? id := by
  cases h with
  | nothing objects => rw [objects]
  | stored objects => rw [objects, Dict.get?_insert, if_neg fun heq => hne (congrArg some heq.symm)]
  | removed objects => rw [objects, Dict.get?_erase, if_neg fun heq => hne (congrArg some heq.symm)]

/-- After an effect on an identity, what is found there was stored by it. -/
theorem Shows.eq_stored (h : m.Shows effect m') (hid : effect.identity? = some id)
    (hg : m'.objects.get? id = some o) : effect = .stored o := by
  cases h with
  | nothing => cases hid
  | stored objects =>
    obtain rfl := Option.some.inj hid
    rw [objects, Dict.get?_insert_self] at hg
    rw [Option.some.inj hg]
  | removed objects =>
    obtain rfl := Option.some.inj hid
    rw [objects, Dict.get?_erase_self] at hg
    cases hg

theorem Shows.version?_eq (h : m.Shows effect m') :
    (effect.version? = none ∧ m'.version = m.version) ∨
      effect.version? = some (toString (m.version + 1)) ∧ m'.version = m.version + 1 := by
  cases h with
  | nothing _ version => exact .inl ⟨rfl, version⟩
  | stored _ stamped version => exact .inr ⟨stamped, version⟩
  | removed _ version => exact .inl ⟨rfl, version⟩

/-! ## 2. Versions -/

/-- Versions are numbered without gaps. -/
theorem version?_effects (m : Memory) (requests : List StoreRequest) :
    ∃ n, (m.after requests).version = m.version + n ∧
      (m.effects requests).filterMap (·.version?) =
        (List.range' (m.version + 1) n).map toString := by
  induction requests generalizing m with
  | nil => exact ⟨0, rfl, rfl⟩
  | cons request rest ih =>
    obtain ⟨n, hversion, heffects⟩ := ih (request.apply m)
    rcases (request.shows m).version?_eq with ⟨hnone, hsame⟩ | ⟨hsome, hnext⟩
    · rw [hsame] at hversion heffects
      exact ⟨n, hversion, (List.filterMap_cons_none hnone).trans heffects⟩
    · rw [hnext] at hversion heffects
      refine ⟨n + 1, by rw [after_cons, hversion]; omega, ?_⟩
      rw [effects, List.filterMap_cons_some hsome, heffects, List.range'_succ, List.map_cons]

/-- No version is given out twice. -/
theorem nodup_version?_effects (m : Memory) (requests : List StoreRequest) :
    ((m.effects requests).filterMap (·.version?)).Nodup := by
  obtain ⟨n, -, heffects⟩ := m.version?_effects requests
  rw [heffects]
  exact List.Nodup.map (fun _ _ h => Digits.eq_of_toString_eq h) List.nodup_range'

/-- Versions that calls give out are new. -/
theorem lt_of_mem_effects {requests : List StoreRequest} {v : Nat}
    (he : effect ∈ m.effects requests) (hv : effect.version? = some (toString v)) :
    m.version < v ∧ v ≤ (m.after requests).version := by
  obtain ⟨n, hversion, heffects⟩ := m.version?_effects requests
  have hmem : toString v ∈ (m.effects requests).filterMap (·.version?) :=
    List.mem_filterMap.2 ⟨effect, he, hv⟩
  rw [heffects] at hmem
  obtain ⟨v', hrange, hv'⟩ := List.mem_map.1 hmem
  obtain rfl : v' = v := Digits.eq_of_toString_eq hv'
  have hbounds := List.mem_range'_1.1 hrange
  omega

/-- Every object has a version that was given out. -/
def Versioned (m : Memory) : Prop :=
  ∀ id o, m.objects.get? id = some o →
    ∃ v, v ≤ m.version ∧ o.metadata.resourceVersion = some (toString v)

theorem versioned_empty (clock : Instant) : (empty clock).Versioned := fun _ _ h => by cases h

theorem Shows.versioned (h : m.Shows effect m') (hm : m.Versioned) : m'.Versioned := by
  intro id o hg
  by_cases hid : effect.identity? = some id
  · obtain rfl := h.eq_stored hid hg
    rcases h.version?_eq with ⟨hnone, -⟩ | ⟨hsome, hnext⟩
    · cases h with
      | stored _ stamped => cases hnone.symm.trans stamped
    · exact ⟨m.version + 1, by omega, hsome⟩
  · rw [h.get? hid] at hg
    obtain ⟨v, hv, hr⟩ := hm id o hg
    rcases h.version?_eq with ⟨-, hsame⟩ | ⟨-, hnext⟩
    · exact ⟨v, hsame ▸ hv, hr⟩
    · exact ⟨v, by omega, hr⟩

/-- **Calls keep every object versioned.** -/
theorem Versioned.after (hm : m.Versioned) (requests : List StoreRequest) :
    (m.after requests).Versioned := by
  induction requests generalizing m with
  | nil => exact hm
  | cons request rest ih => exact ih ((request.shows m).versioned hm)

/-! ## 3. What a store holds -/

/-- An object that stands after effects stood before them and none is about it, or one of them
stored it and no later one is about it. -/
def Since (m : Memory) (effects : List StoreEffect) (id : ObjectIdentity) (o : ManagedObject) :
    Prop :=
  (m.objects.get? id = some o ∧ ∀ e ∈ effects, e.identity? ≠ some id) ∨
    ∃ before since, effects = before ++ .stored o :: since ∧ ∀ e ∈ since, e.identity? ≠ some id

/-- **An object stands as the last call on its identity stored it.** -/
theorem since_after {requests : List StoreRequest}
    (h : (m.after requests).objects.get? id = some o) : m.Since (m.effects requests) id o := by
  induction requests generalizing m with
  | nil => exact .inl ⟨h, fun _ he => absurd he List.not_mem_nil⟩
  | cons request rest ih =>
    rcases ih h with ⟨hg, hrest⟩ | ⟨before, since, hsplit, hsince⟩
    · by_cases hid : (request.effect m).identity? = some id
      · have hstored := (request.shows m).eq_stored hid hg
        exact .inr ⟨[], _, by rw [effects, hstored]; rfl, hrest⟩
      · rw [(request.shows m).get? hid] at hg
        exact .inl ⟨hg, List.forall_mem_cons.2 ⟨hid, hrest⟩⟩
    · exact .inr ⟨request.effect m :: before, since, by rw [effects, hsplit]; rfl, hsince⟩

/-- **An object that has the version of an earlier one is that one.** -/
theorem eq_of_version {requests : List StoreRequest} {earlier : ManagedObject}
    (hm : m.Versioned) (he : m.objects.get? id = some earlier)
    (hg : (m.after requests).objects.get? id = some o)
    (hv : o.metadata.resourceVersion = earlier.metadata.resourceVersion) : o = earlier := by
  rcases since_after hg with ⟨hbefore, -⟩ | ⟨before, since, hsplit, -⟩
  · exact Option.some.inj (hbefore.symm.trans he)
  · obtain ⟨v, hle, hearlier⟩ := hm id earlier he
    have hmem : .stored o ∈ m.effects requests := hsplit ▸ by simp
    have hnew := lt_of_mem_effects hmem (hv.trans hearlier)
    omega

/-- An update that succeeds met an object, and carried its version if it carried one. -/
theorem update_eq_ok {updated : ManagedObject} (h : (m.update o).1 = .ok updated) :
    ∃ stored, m.objects.get? o.identity = some stored ∧ updated = m.restamp stored o ∧
      m.update o = (.ok updated, m.updated stored o) ∧
      ∀ v ∈ o.metadata.resourceVersion, stored.metadata.resourceVersion = some v := by
  unfold update at h ⊢
  cases hf : m.failure? .update o.identity with
  | some e =>
    rw [hf] at h
    cases h
  | none =>
    rw [hf] at h
    cases hg : m.objects.get? o.identity with
    | none =>
      rw [hg] at h
      cases h
    | some stored =>
      rw [hg] at h
      dsimp only at h ⊢
      cases hs : staleVersion? stored o with
      | some v =>
        rw [hs] at h
        cases h
      | none =>
        rw [hs] at h
        obtain rfl := Except.ok.inj h
        refine ⟨stored, rfl, rfl, rfl, fun v hv => ?_⟩
        rw [Option.mem_def] at hv
        by_cases heq : stored.metadata.resourceVersion = some v
        · exact heq
        · simp [staleVersion?, hv, heq] at hs

/-! ## 4. Uids -/

theorem uid?_stamp (m : Memory) (o : ManagedObject) :
    (m.stamp o).uid? = some (uidText (m.issued + 1)) := by
  unfold stamp ManagedObject.uid?
  rw [ManagedObject.metadata_withMetadata]

theorem uid?_restamp (m : Memory) (stored o : ManagedObject) :
    (m.restamp stored o).uid? = stored.uid? := by
  unfold restamp ManagedObject.uid?
  rw [ManagedObject.metadata_withMetadata]

theorem eq_of_uidText {a b : Nat} (h : uidText a = uidText b) : a = b :=
  Digits.eq_of_padded_eq (String.append_right_inj _ |>.1 h)

/-- No object has a uid that is still to be given out. -/
def UidsIssued (m : Memory) : Prop :=
  ∀ id o, m.objects.get? id = some o → ∀ n, m.issued < n → o.uid? ≠ some (uidText n)

theorem uidsIssued_empty (clock : Instant) : (empty clock).UidsIssued := fun _ _ h => by cases h

/-- Between two states, uids were given out in order and to new objects only. -/
structure Issues (m m' : Memory) : Prop where
  issued : m.issued ≤ m'.issued
  fresh : m.UidsIssued → m'.UidsIssued

namespace Issues

variable {m m' m'' : Memory}

theorem refl (m : Memory) : Issues m m := ⟨Nat.le_refl _, id⟩

theorem trans (h : Issues m m') (h' : Issues m' m'') : Issues m m'' :=
  ⟨Nat.le_trans h.issued h'.issued, h'.fresh ∘ h.fresh⟩

theorem insert (m : Memory) (o : ManagedObject) : Issues m (m.insert o).2 := by
  refine ⟨Nat.le_succ _, fun h id o' hg n hn => ?_⟩
  have hn' : m.issued + 1 < n := hn
  rw [Memory.insert, Dict.get?_insert] at hg
  split at hg
  · obtain rfl := Option.some.inj hg
    rw [uid?_stamp]
    intro heq
    have := eq_of_uidText (Option.some.inj heq)
    omega
  · exact h id o' hg n (by omega)

theorem create (m : Memory) (o : ManagedObject) : Issues m (m.create o).2 := by
  rcases m.create_cases o with ⟨e, he⟩ | ⟨-, he⟩
  · rw [he]
    exact refl m
  · rw [he]
    exact ⟨(insert m o).issued, (insert m o).fresh⟩

theorem update (m : Memory) (o : ManagedObject) : Issues m (m.update o).2 := by
  rcases m.update_cases o with ⟨e, he⟩ | ⟨stored, hstored, he⟩
  · rw [he]
    exact refl m
  · rw [he]
    refine ⟨Nat.le_refl _, fun h id o' hg n hn => ?_⟩
    have hg' : (m.objects.insert o.identity (m.restamp stored o)).get? id = some o' := hg
    rw [Dict.get?_insert] at hg'
    split at hg'
    · obtain rfl := Option.some.inj hg'
      rw [uid?_restamp]
      exact h _ stored hstored n hn
    · exact h id o' hg' n hn

theorem delete (m : Memory) (id : ObjectIdentity) : Issues m (m.delete id).2 := by
  rcases m.delete_cases id with ⟨e, -, he⟩ | ⟨-, ⟨-, he⟩ | ⟨-, he⟩⟩
  · rw [he]
    exact refl m
  · rw [he]
    exact refl m
  · rw [he]
    refine ⟨Nat.le_refl _, fun h id' o hg n hn => ?_⟩
    have hg' : (m.objects.erase id).get? id' = some o := hg
    rw [Dict.get?_erase] at hg'
    split at hg'
    · cases hg'
    · exact h id' o hg' n hn

end Issues

/-- Every call of a client issues uids like that. -/
theorem issues_apply (m : Memory) (request : StoreRequest) : Issues m (request.apply m) := by
  cases request with
  | insert o => exact .insert m o
  | create o => exact .create m o
  | update o => exact .update m o
  | delete id => exact .delete m id
  | _ => exact ⟨Nat.le_refl _, id⟩

/-- Every store that calls have led to from the empty one has issued its uids. -/
theorem uidsIssued_after (clock : Instant) (requests : List StoreRequest) :
    ((empty clock).after requests).UidsIssued := by
  have hissues : ∀ m : Memory, Issues m (m.after requests) := by
    induction requests with
    | nil => exact .refl
    | cons request rest ih => exact fun m => (m.issues_apply request).trans (ih _)
  exact (hissues _).fresh (uidsIssued_empty clock)

/-! ## 5. What calls leave alone -/

/-- An object that no call is to write or remove stays as it is. -/
theorem get?_after {requests : List StoreRequest}
    (h : ∀ request ∈ requests, request.target? ≠ some id) :
    (m.after requests).objects.get? id = m.objects.get? id := by
  induction requests generalizing m with
  | nil => rfl
  | cons request rest ih =>
    obtain ⟨hfirst, hrest⟩ := List.forall_mem_cons.1 h
    rw [after_cons, ih hrest]
    exact (request.shows m).get? fun hid => hfirst (StoreRequest.identity?_effect hid)

/-- A call that displaces no object leaves one of the same uid. -/
theorem uid?_apply {request : StoreRequest} (hg : m.objects.get? id = some o)
    (h : ¬request.Displaces id) :
    ∃ o', (request.apply m).objects.get? id = some o' ∧ o'.uid? = o.uid? := by
  by_cases htarget : request.target? = some id
  · cases request with
    | insert o' => exact absurd (Option.some.inj htarget) h
    | delete other => exact absurd (Option.some.inj htarget) h
    | create o' =>
      obtain rfl : o'.identity = id := Option.some.inj htarget
      rcases m.create_cases o' with ⟨e, he⟩ | ⟨hnone, -⟩
      · refine ⟨o, ?_, rfl⟩
        rw [StoreRequest.apply_create, he]
        exact hg
      · cases hnone.symm.trans hg
    | update o' =>
      obtain rfl : o'.identity = id := Option.some.inj htarget
      rcases m.update_cases o' with ⟨e, he⟩ | ⟨stored, hstored, he⟩
      · refine ⟨o, ?_, rfl⟩
        rw [StoreRequest.apply_update, he]
        exact hg
      · obtain rfl : stored = o := Option.some.inj (hstored.symm.trans hg)
        refine ⟨m.restamp stored o', ?_, m.uid?_restamp stored o'⟩
        rw [StoreRequest.apply_update, he]
        exact Dict.get?_insert_self ..
    | _ => cases htarget
  · refine ⟨o, ?_, rfl⟩
    rw [(request.shows m).get? fun hid => htarget (StoreRequest.identity?_effect hid)]
    exact hg

/-- Calls that displace no object leave one of the same uid. -/
theorem uid?_after {requests : List StoreRequest} (hg : m.objects.get? id = some o)
    (h : ∀ request ∈ requests, ¬request.Displaces id) :
    ∃ o', (m.after requests).objects.get? id = some o' ∧ o'.uid? = o.uid? := by
  induction requests generalizing m o with
  | nil => exact ⟨o, hg, rfl⟩
  | cons request rest ih =>
    obtain ⟨hfirst, hrest⟩ := List.forall_mem_cons.1 h
    obtain ⟨next, hnext, huid⟩ := uid?_apply hg hfirst
    obtain ⟨last, hlast, huid'⟩ := ih hnext hrest
    exact ⟨last, hlast, huid'.trans huid⟩

end Memory

end Reconciliation
