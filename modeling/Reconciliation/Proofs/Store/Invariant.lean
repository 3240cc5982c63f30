import Mathlib.Algebra.Group.Int.Defs
import Mathlib.Algebra.Group.Nat.Defs
import Reconciliation.Proofs.Store.History

/-!
# What holds of every store in memory

Whatever clients call, and whatever they write into the metadata of their objects, the fields that
the store owns are its own: every object it holds has been given a uid, a creation time, a
generation and a version, and no two have the same version.

* `Memory.Stamped`, `Memory.Sound` -- what the store has written into an object, and what holds of
  all its objects together;
* `StoreRequest.stamped_effect`, `Memory.Sound.apply` -- the step: an object is stored stamped, and
  a call keeps the store sound;
* `Memory.renewed_of_update` -- an update keeps uid and creation time and raises the generation;
* **`Memory.sound_history`** -- the law over the runs from the empty store.
-/

namespace Reconciliation

namespace Memory

variable {m m' : Memory} {effect : StoreEffect} {id : ObjectIdentity} {o : ManagedObject}

/-! ## 1. The invariant -/

/-- What a store that has given out `version` versions has written into an object. An object is
written no more often than versions are given out, so its generation is bounded by them too. -/
structure Stamped (version : Nat) (o : ManagedObject) : Prop where
  uid : o.metadata.uid.isSome
  created : o.metadata.creationTimestamp.isSome
  versioned : ∃ v, 1 ≤ v ∧ v ≤ version ∧ o.metadata.resourceVersion = some (toString v)
  generation : ∃ g, 1 ≤ g ∧ g ≤ version ∧ o.metadata.generation = some (Int64.ofNat g)

theorem Stamped.mono {v v' : Nat} (h : Stamped v o) (hle : v ≤ v') : Stamped v' o := by
  obtain ⟨n, hn, hnv, hversion⟩ := h.versioned
  obtain ⟨g, hg, hgv, hgeneration⟩ := h.generation
  exact ⟨h.uid, h.created, ⟨n, hn, Nat.le_trans hnv hle, hversion⟩,
    ⟨g, hg, Nat.le_trans hgv hle, hgeneration⟩⟩

/-- Generations start at 1 and rise, and are no greater than the number of versions until this no
longer fits into a 64-bit integer. -/
theorem Stamped.generation_le {version : Nat} (h : Stamped version o) (hv : version < 2 ^ 63) :
    ∃ g, o.metadata.generation = some g ∧ 1 ≤ g.toInt ∧ g.toInt ≤ version := by
  obtain ⟨g, hg, hle, hgeneration⟩ := h.generation
  refine ⟨_, hgeneration, ?_⟩
  rw [Int64.toInt_ofNat_of_lt (by omega)]
  omega

/-- A generation that can still rise does so by one. -/
theorem toInt_generation_add_one {g : Int64} (h : 0 ≤ g.toInt) (hlt : g.toInt + 1 < 2 ^ 63) :
    (g + 1).toInt = g.toInt + 1 := by
  have hone : (1 : Int64).toInt = 1 := by decide
  rw [Int64.toInt_add, hone]
  exact Int.bmod_eq_of_le (by omega) (by omega)

/-- What holds of every object of a store, and of any two. -/
structure Sound (m : Memory) : Prop where
  stamped : ∀ id o, m.objects.get? id = some o → Stamped m.version o
  distinct : ∀ id id' o o', m.objects.get? id = some o → m.objects.get? id' = some o' →
    o.metadata.resourceVersion = o'.metadata.resourceVersion → id = id'

theorem sound_empty (clock : Instant) : (empty clock).Sound where
  stamped _ _ h := by cases h
  distinct _ _ _ _ h := by cases h

/-! ## 2. What calls store -/

theorem stamped_stamp (m : Memory) (o : ManagedObject) : Stamped (m.version + 1) (m.stamp o) := by
  have hversion := m.version_stamp o
  unfold stamp at hversion ⊢
  refine ⟨?_, ?_, ⟨m.version + 1, by omega, Nat.le_refl _, hversion⟩,
    ⟨1, Nat.le_refl _, by omega, ?_⟩⟩
  all_goals
    rw [ManagedObject.metadata_withMetadata]
    rfl

/-- An update keeps uid and creation time and raises the generation by one. -/
structure Renewed (stored updated : ManagedObject) : Prop where
  uid : updated.metadata.uid = stored.metadata.uid
  created : updated.metadata.creationTimestamp = stored.metadata.creationTimestamp
  generation : updated.metadata.generation = some (stored.metadata.generation.getD 0 + 1)

theorem renewed_restamp (m : Memory) (stored o : ManagedObject) :
    Renewed stored (m.restamp stored o) := by
  unfold restamp
  constructor
  all_goals rw [ManagedObject.metadata_withMetadata]

theorem stamped_restamp {stored : ManagedObject} (h : Stamped m.version stored)
    (o : ManagedObject) : Stamped (m.version + 1) (m.restamp stored o) := by
  have hrenewed := m.renewed_restamp stored o
  obtain ⟨g, hg, hle, hgeneration⟩ := h.generation
  refine ⟨?_, ?_, ⟨m.version + 1, by omega, Nat.le_refl _, m.version_restamp stored o⟩,
    ⟨g + 1, by omega, by omega, ?_⟩⟩
  · rw [hrenewed.uid]
    exact h.uid
  · rw [hrenewed.created]
    exact h.created
  · rw [hrenewed.generation, hgeneration, Int64.ofNat_add]
    rfl

end Memory

/-- An object is stored stamped, whatever its metadata said before. -/
theorem StoreRequest.stamped_effect {m : Memory} {request : StoreRequest} {o : ManagedObject}
    (hm : m.Sound) (h : request.effect m = .stored o) : Memory.Stamped (m.version + 1) o := by
  cases request with
  | insert o' =>
    cases h
    exact m.stamped_stamp o'
  | create o' =>
    rcases m.create_cases o' with ⟨e, he⟩ | ⟨-, he⟩
    · rw [effect_create, he] at h
      cases h
    · rw [effect_create, he] at h
      cases h
      exact m.stamped_stamp o'
  | update o' =>
    rcases m.update_cases o' with ⟨e, he⟩ | ⟨stored, hstored, he⟩
    · rw [effect_update, he] at h
      cases h
    · rw [effect_update, he] at h
      cases h
      exact Memory.stamped_restamp (hm.stamped _ _ hstored) o'
  | delete id =>
    rw [effect_delete] at h
    split at h <;> cases h
  | _ => cases h

namespace Memory

variable {m m' : Memory} {effect : StoreEffect} {id : ObjectIdentity} {o : ManagedObject}

/-! ## 3. Runs -/

theorem Shows.version_le (h : m.Shows effect m') : m.version ≤ m'.version := by
  rcases h.version?_eq with ⟨-, hsame⟩ | ⟨-, hnext⟩ <;> omega

/-- After an effect an object is the one just stored, under the version just given out, or it stood
before. -/
theorem Shows.found (h : m.Shows effect m') (hg : m'.objects.get? id = some o) :
    (effect = .stored o ∧ effect.identity? = some id ∧
        o.metadata.resourceVersion = some (toString (m.version + 1)) ∧
        m'.version = m.version + 1) ∨
      effect.identity? ≠ some id ∧ m.objects.get? id = some o := by
  by_cases hid : effect.identity? = some id
  · obtain rfl := h.eq_stored hid hg
    cases h with
    | stored _ stamped version => exact .inl ⟨rfl, hid, stamped, version⟩
  · exact .inr ⟨hid, h.get? hid ▸ hg⟩

/-- The version just given out is on no object that stood before. -/
theorem Sound.version_ne (hm : m.Sound) (hg : m.objects.get? id = some o) :
    o.metadata.resourceVersion ≠ some (toString (m.version + 1)) := by
  obtain ⟨v, -, hle, hv⟩ := (hm.stamped id o hg).versioned
  intro heq
  have := Digits.eq_of_toString_eq (Option.some.inj (hv.symm.trans heq))
  omega

/-- **A call keeps the store sound.** -/
theorem Sound.apply (hm : m.Sound) (request : StoreRequest) : (request.apply m).Sound := by
  have hshows := request.shows m
  constructor
  · intro id o hg
    rcases hshows.found hg with ⟨hstored, -, -, hnext⟩ | ⟨-, hbefore⟩
    · rw [hnext]
      exact StoreRequest.stamped_effect hm hstored
    · exact (hm.stamped id o hbefore).mono hshows.version_le
  · intro id id' o o' hg hg' heq
    rcases hshows.found hg with ⟨-, hid, hnew, -⟩ | ⟨-, hbefore⟩
    · rcases hshows.found hg' with ⟨-, hid', -, -⟩ | ⟨-, hbefore'⟩
      · exact Option.some.inj (hid.symm.trans hid')
      · exact absurd (heq ▸ hnew) (hm.version_ne hbefore')
    · rcases hshows.found hg' with ⟨-, -, hnew', -⟩ | ⟨-, hbefore'⟩
      · exact absurd (heq ▸ hnew') (hm.version_ne hbefore)
      · exact hm.distinct id id' o o' hbefore hbefore' heq

theorem Sound.after (hm : m.Sound) (requests : List StoreRequest) : (m.after requests).Sound := by
  induction requests generalizing m with
  | nil => exact hm
  | cons request rest ih => exact ih (hm.apply request)

theorem version_le_after (m : Memory) (requests : List StoreRequest) :
    m.version ≤ (m.after requests).version := by
  obtain ⟨n, hversion, -⟩ := m.version?_effects requests
  omega

/-- A call gives out at most one version. -/
theorem version_after_le (m : Memory) (requests : List StoreRequest) :
    (m.after requests).version ≤ m.version + requests.length := by
  induction requests generalizing m with
  | nil => exact Nat.le_refl _
  | cons request rest ih =>
    have hfirst : (request.apply m).version ≤ m.version + 1 := by
      rcases (request.shows m).version?_eq with ⟨-, hsame⟩ | ⟨-, hnext⟩ <;> omega
    have hrest := ih (request.apply m)
    rw [after_cons, List.length_cons]
    omega

/-- An update that succeeds renews the object that stood under the identity. -/
theorem renewed_of_update {updated : ManagedObject} (h : (m.update o).1 = .ok updated) :
    ∃ stored, m.objects.get? o.identity = some stored ∧
      (m.update o).2.objects.get? o.identity = some updated ∧ Renewed stored updated := by
  obtain ⟨stored, hstored, rfl, hupdate, -⟩ := update_eq_ok h
  refine ⟨stored, hstored, ?_, m.renewed_restamp stored o⟩
  rw [hupdate]
  exact m.get?_updated stored rfl

/-- **Whatever calls have led from the empty store to this one**, every object stands under its
identity and carries what the store has written into it; no two objects have the same version; the
counter of versions only rises, by at most one with every call, and no version was given out twice;
and an update that succeeds from here keeps uid and creation time of the object that it finds and
raises its generation. As long as there were fewer calls than a 64-bit integer can count, every
generation is at least 1 and an update raises it by exactly one; and the counter is then itself a
number of 64 bits. -/
theorem sound_history (clock : Instant) (requests : List StoreRequest) :
    let m := (empty clock).after requests
    (∀ entry ∈ m.objects.entries, entry.2.identity = entry.1) ∧
      m.Sound ∧ m.version ≤ requests.length ∧
      (requests.length < 2 ^ 63 → ∀ id o, m.objects.get? id = some o →
        ∃ g, o.metadata.generation = some g ∧ 1 ≤ g.toInt ∧ g.toInt ≤ requests.length) ∧
      (∀ more, m.version ≤ (m.after more).version) ∧
      (((empty clock).effects requests).filterMap (·.version?)).Nodup ∧
      ∀ o updated, (m.update o).1 = .ok updated →
        ∃ stored g, m.objects.get? o.identity = some stored ∧
          (m.update o).2.objects.get? o.identity = some updated ∧
          updated.metadata.uid = stored.metadata.uid ∧
          updated.metadata.creationTimestamp = stored.metadata.creationTimestamp ∧
          stored.metadata.generation = some g ∧ updated.metadata.generation = some (g + 1) ∧
          (requests.length + 1 < 2 ^ 63 → (g + 1).toInt = g.toInt + 1) := by
  intro m
  have hsound : m.Sound := (sound_empty clock).after requests
  have hversion : m.version ≤ requests.length := by
    have hle := version_after_le (empty clock) requests
    rwa [show (empty clock).version = 0 from rfl, Nat.zero_add] at hle
  have hgenerations : requests.length < 2 ^ 63 → ∀ id o, m.objects.get? id = some o →
      ∃ g, o.metadata.generation = some g ∧ 1 ≤ g.toInt ∧ g.toInt ≤ requests.length := by
    intro hlength id o hg
    obtain ⟨g, hgeneration, hone, hle⟩ := (hsound.stamped id o hg).generation_le (by omega)
    exact ⟨g, hgeneration, hone, by omega⟩
  refine ⟨m.keyed, hsound, hversion, hgenerations, m.version_le_after,
    nodup_version?_effects _ requests, fun o updated h => ?_⟩
  obtain ⟨stored, hstored, hafter, hrenewed⟩ := renewed_of_update h
  obtain ⟨g, -, -, hg⟩ := (hsound.stamped _ _ hstored).generation
  refine ⟨stored, _, hstored, hafter, hrenewed.uid, hrenewed.created, hg, ?_, fun hlength => ?_⟩
  · rw [hrenewed.generation, hg]
    rfl
  · obtain ⟨g', hg', hone, hle⟩ := hgenerations (by omega) _ _ hstored
    obtain rfl := Option.some.inj (hg.symm.trans hg')
    exact toInt_generation_add_one (by omega) (by omega)

/-- A configuration map that states a uid and a generation of its own. -/
def forged : ManagedObject :=
  .configMap
    { metadata := { ObjectMeta.empty with uid := some "forged", generation := some 9 }
      data := none
      binaryData := none
      immutable := none }

/-- Seeded and then updated, the object has the uid that the store issued and is at generation 2. -/
theorem sound_history_forged :
    let requests : List StoreRequest := [.insert forged]
    let m := (empty ⟨0, 0⟩).after requests
    ∃ updated, (m.update forged).1 = .ok updated ∧ requests.length + 1 < 2 ^ 63 ∧
      (∃ g, ((empty ⟨0, 0⟩).stamp forged).metadata.generation = some g ∧ 1 ≤ g.toInt) ∧
      updated.metadata.uid = some (uidText 1) ∧ updated.metadata.generation = some 2 ∧
      (1 + 1 : Int64).toInt = (1 : Int64).toInt + 1 := by
  intro requests m
  have hstored : m.objects.get? forged.identity = some ((empty ⟨0, 0⟩).stamp forged) := rfl
  have hupdate : (m.update forged).1 = .ok (m.restamp ((empty ⟨0, 0⟩).stamp forged) forged) := rfl
  have hlength : requests.length + 1 < 2 ^ 63 := by decide
  obtain ⟨-, -, -, hgenerations, -, -, hrenew⟩ := sound_history ⟨0, 0⟩ requests
  obtain ⟨g', hg', hone, -⟩ := hgenerations (by decide) _ _ hstored
  obtain ⟨stored, g, hfound, -, huid, -, hg, hnext, hexact⟩ := hrenew _ _ hupdate
  obtain rfl := Option.some.inj (hfound.symm.trans hstored)
  obtain rfl : 1 = g := Option.some.inj hg
  exact ⟨_, hupdate, hlength, ⟨g', hg', hone⟩, huid, hnext, hexact hlength⟩

end Memory

end Reconciliation
