import Reconciliation.Json.Raw
import Reconciliation.Proofs.Wire.Paths

/-!
# What the override merge leaves alone

A target covers a source if it already has what the source says: at every path where the source
reaches something that is not empty, the target reaches the same, or both reach an object. The zero
values of the source ask for nothing, so a key that the first merge skipped is skipped by the second
for the same reason; and a subtree that went in as a whole, zeros included, covers itself.

* `Json.ordered_iff_exists_value?` -- the ordered values are those of what stands in a text;
* `Json.Covers`, `Json.covers_iff_members` -- the relation, and how it goes key by key where two
  objects meet;
* `Json.override_eq_self_iff` -- a merge changes nothing exactly if the target covers the source;
* **`Json.override_absorbs`** -- so it changes nothing the second time, nor any value by itself.
-/

namespace Reconciliation

/-! ## 1. The values there are -/

namespace RawJson

mutual

/-- What is read from a text is ordered, in whatever order the text has the members. -/
theorem ordered_of_value? {r : RawJson} {j : Json} (h : r.value? = some j) : j.Ordered := by
  cases r with
  | arr items =>
    obtain ⟨values, hv, rfl⟩ := Option.map_eq_some_iff.1 h
    exact Json.orderedItems_iff.2 (ordered_of_valueItems? hv)
  | obj members =>
    obtain ⟨values, hv, rfl⟩ := Option.map_eq_some_iff.1 h
    exact Json.ordered_ofMembers (ordered_of_valueMembers? hv)
  | unreadable => cases h
  | _ =>
    obtain rfl := Option.some.inj h
    trivial

theorem ordered_of_valueItems? {items : List RawJson} {values : List Json}
    (h : valueItems? items = some values) : ∀ j ∈ values, j.Ordered := by
  cases items with
  | nil =>
    obtain rfl := Option.some.inj h
    simp
  | cons r rest =>
    obtain ⟨j, hj, h⟩ := Option.bind_eq_some_iff.1 h
    obtain ⟨others, ho, h⟩ := Option.bind_eq_some_iff.1 h
    obtain rfl := Option.some.inj h
    exact List.forall_mem_cons.2 ⟨ordered_of_value? hj, ordered_of_valueItems? ho⟩

theorem ordered_of_valueMembers? {members : List (String × RawJson)}
    {values : List (String × Json)} (h : valueMembers? members = some values) :
    ∀ e ∈ values, e.2.Ordered := by
  cases members with
  | nil =>
    obtain rfl := Option.some.inj h
    simp
  | cons e rest =>
    obtain ⟨j, hj, h⟩ := Option.bind_eq_some_iff.1 h
    obtain ⟨others, ho, h⟩ := Option.bind_eq_some_iff.1 h
    obtain rfl := Option.some.inj h
    exact List.forall_mem_cons.2 ⟨ordered_of_value? hj, ordered_of_valueMembers? ho⟩

end

end RawJson

namespace Json

/-- Exactly the ordered values are values of what stands in a text. So to assume the order of a
value that has been read is to assume nothing. -/
theorem ordered_iff_exists_value? {j : Json} :
    j.Ordered ↔ ∃ r : RawJson, r.value? = some j :=
  ⟨fun h => ⟨j.raw, value?_raw j h⟩, fun ⟨_, h⟩ => RawJson.ordered_of_value? h⟩

/-- To prove something of every value, prove it from what its members have. -/
theorem getInduction {P : Json → Prop} (value : ∀ j : Json, (∀ key, ∀ v ∈ j.get? key, P v) → P j)
    (j : Json) : P j := by
  induction j using memberInduction with
  | leaf j ho =>
    refine value j fun key v hv => ?_
    rw [get?_of_not_obj ho] at hv
    cases hv
  | obj fields ih => exact value (obj fields) fun key v hv => ih _ (Entries.mem_of_lookup hv)

/-- Ordered objects with the same members are the same object. -/
theorem Ordered.ext_get? {j k : Json} (hj : j.Ordered) (hk : k.Ordered) (hjo : j.isObject = true)
    (hko : k.isObject = true) (h : ∀ key, j.get? key = k.get? key) : j = k := by
  obtain ⟨fields, rfl⟩ := exists_of_isObject hjo
  obtain ⟨members, rfl⟩ := exists_of_isObject hko
  exact congrArg obj ((ordered_obj_iff.1 hj).1.ext (ordered_obj_iff.1 hk).1 h)

/-! ## 2. Covering -/

/-- Whatever the source reaches that is not empty, the target reaches too; of two objects it is
enough that they meet, since their members are reached by longer paths. -/
def Covers (target source : Json) : Prop :=
  ∀ path, ∀ v ∈ source.at? path, v.isEmpty = false →
    ∃ w ∈ target.at? path, w = v ∨ w.isObject = true ∧ v.isObject = true

theorem covers_refl (j : Json) : j.Covers j := fun _ v hv _ => ⟨v, hv, .inl rfl⟩

/-- On the way to what is not empty, nothing is. -/
theorem isEmpty_of_at?_full {j v : Json} {path : List String} (hv : v ∈ j.at? path)
    (he : v.isEmpty = false) : j.isEmpty = false := by
  cases path with
  | nil => rwa [Option.some.inj hv]
  | cons key path => exact isEmpty_of_at? hv

/-- An empty source asks for nothing. -/
theorem covers_of_isEmpty (target : Json) {source : Json} (h : source.isEmpty = true) :
    target.Covers source := by
  intro path v hv he
  rw [isEmpty_of_at?_full hv he] at h
  cases h

/-- Unless two objects meet, only the source itself has all that it says. -/
theorem covers_iff_eq {target source : Json} (he : source.isEmpty = false)
    (ho : target.isObject = false ∨ source.isObject = false) :
    target.Covers source ↔ target = source := by
  constructor
  · intro h
    obtain ⟨w, hw, rfl | ⟨hwo, hso⟩⟩ := h [] source rfl he
    · exact Option.some.inj hw
    · obtain rfl : target = w := Option.some.inj hw
      rcases ho with ho | ho
      · rw [ho] at hwo
        cases hwo
      · rw [ho] at hso
        cases hso
  · rintro rfl
    exact covers_refl target

/-- **Where two objects meet, covering goes key by key**: each member of the source that is not
empty is covered by the member of the target under its key. -/
theorem covers_iff_members {target source : Json} (ht : target.isObject = true)
    (hs : source.isObject = true) :
    target.Covers source ↔ ∀ key, ∀ s ∈ source.get? key, s.isEmpty = false →
      ∃ t ∈ target.get? key, t.Covers s := by
  constructor
  · intro h key s hsk hse
    have hreach : ∀ path, source.at? (key :: path) = s.at? path := at?_cons hsk
    obtain ⟨t, htk, -⟩ := h [key] s (hreach []) hse
    obtain ⟨t, htk, -⟩ := Option.bind_eq_some_iff.1 htk
    refine ⟨t, htk, fun path v hv hve => ?_⟩
    obtain ⟨w, hw, hwv⟩ := h (key :: path) v ((hreach path).trans hv) hve
    exact ⟨w, (at?_cons htk path).symm.trans hw, hwv⟩
  · intro h path v hv hve
    cases path with
    | nil =>
      obtain rfl : source = v := Option.some.inj hv
      exact ⟨target, rfl, .inr ⟨ht, hs⟩⟩
    | cons key path =>
      obtain ⟨s, hsk, hsv⟩ := Option.bind_eq_some_iff.1 hv
      obtain ⟨t, htk, hts⟩ := h key s hsk (isEmpty_of_at?_full hsv hve)
      rw [at?_cons htk]
      exact hts path v hsv hve

/-! ## 3. What is left alone -/

/-- A member is left alone if the source has none, an empty one, or one that changes nothing in it.
A missing member counts as left alone only in the first two cases. -/
theorem overrideMember_eq_self_iff {target source : Option Json} :
    overrideMember target source = target ↔
      ∀ s ∈ source, s.isEmpty = false → ∃ t ∈ target, t.override s = t := by
  cases source with
  | none => simp [overrideMember]
  | some s =>
    cases target with
    | none => cases hs : s.isEmpty <;> simp [overrideMember, hs]
    | some t =>
      have hempty : s.isEmpty = true → t.override s = t := fun h => override_of_isEmpty h t
      cases hs : s.isEmpty <;> simp_all [overrideMember]

/-- **A merge changes nothing exactly if the target covers the source.** -/
theorem override_eq_self_iff {target source : Json} (ht : target.Ordered) (hs : source.Ordered) :
    target.override source = target ↔ target.Covers source := by
  induction source using getInduction generalizing target with
  | value source ih =>
    rcases override_cases target hs with ⟨hempty, heq⟩ | ⟨hfull, ho, heq⟩ | ⟨hto, hso, hro, hrule⟩
    · exact iff_of_true heq (covers_of_isEmpty target hempty)
    · rw [heq, covers_iff_eq hfull ho, eq_comm]
    · have hmember : ∀ key, ∀ t ∈ target.get? key, ∀ s ∈ source.get? key,
          (t.override s = t ↔ t.Covers s) := fun key t htk s hsk =>
        ih key s hsk (ht.get? htk) (hs.get? hsk)
      calc target.override source = target
          ↔ ∀ key, (target.override source).get? key = target.get? key :=
            ⟨fun h key => by rw [h], (ht.override hs).ext_get? ht hro hto⟩
        _ ↔ ∀ key, ∀ s ∈ source.get? key, s.isEmpty = false →
              ∃ t ∈ target.get? key, t.override s = t := by
            simp only [hrule, overrideMember_eq_self_iff]
        _ ↔ ∀ key, ∀ s ∈ source.get? key, s.isEmpty = false →
              ∃ t ∈ target.get? key, t.Covers s :=
            forall_congr' fun key => forall₂_congr fun s hsk => imp_congr_right fun _ =>
              exists_congr fun t => and_congr_right fun htk => hmember key t htk s hsk
        _ ↔ target.Covers source := (covers_iff_members hto hso).symm

/-- **The override merge is idempotent and absorbs itself.** Laying a source over a target a second
time changes nothing, and laying any value over itself changes nothing; what a merge leaves alone
is in general a target that covers the source, and no other. -/
theorem override_absorbs {target source : Json} (ht : target.Ordered) (hs : source.Ordered) :
    (target.override source).override source = target.override source ∧
      (∀ value : Json, value.Ordered → value.override value = value) ∧
      (target.override source = target ↔ target.Covers source) :=
  ⟨override_override ht hs, fun _ => override_self, override_eq_self_iff ht hs⟩

/-- A zero that leaves a `2` as it was, an empty list that is not added, and an object that takes
the place of a text together with its own zero: the source is not covered before the merge, it is
covered afterwards, and nothing moves any more. -/
theorem override_absorbs_zeros :
    let target := obj [("a", obj [("k", ofInt 2)]), ("s", str "five")]
    let source := obj [("a", obj [("k", ofInt 0)]), ("e", arr []),
      ("s", obj [("y", obj []), ("z", ofInt 0)])]
    let merged := obj [("a", obj [("k", ofInt 2)]), ("s", obj [("y", obj []), ("z", ofInt 0)])]
    target.Ordered ∧ source.Ordered ∧ target.override source = merged ∧
      merged.override source = merged ∧ merged.override merged = merged ∧
      ¬target.Covers source ∧ merged.Covers source := by
  intro target source merged
  have ht : target.Ordered := by
    simp only [target, Ordered, OrderedFields, ofInt, and_true]
    decide
  have hs : source.Ordered := by
    simp only [source, Ordered, OrderedFields, OrderedItems, ofInt, and_true]
    decide
  have hm : target.override source = merged := rfl
  have hmo : merged.Ordered := hm ▸ ht.override hs
  obtain ⟨hagain, hself, hcovers⟩ := override_absorbs ht hs
  rw [hm] at hagain hcovers
  refine ⟨ht, hs, hm, hagain, hself merged hmo, fun h => ?_, (override_absorbs hmo hs).2.2.1 hagain⟩
  -- a target that is covered would have kept its text
  have hgone : merged = target := hcovers.2 h
  simp [merged, target] at hgone

end Json

end Reconciliation
