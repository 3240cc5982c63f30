import Reconciliation.Json.Override

/-!
# Laws of the override merge

Seen through lookups, laying members over members is one rule per key (`Json.overrideMember`), and
ordered members are determined by their lookups. So every law of the merge is proved key by key, by
induction over the members of the source; lists are replaced whole and need no induction.

* `Json.lookup_overrideFields` -- the rule per key;
* `Json.Ordered.override` -- the merge keeps the key order;
* **`Json.override_self`**, **`Json.override_override`** -- laying a value over itself, or over the
  same target twice, changes nothing more.
-/

namespace Reconciliation.Json

/-! ## 1. Induction over members -/

/-- To prove something of every value, prove it of an object from the values of its members. -/
theorem memberInduction {P : Json → Prop} (leaf : ∀ j, j.isObject = false → P j)
    (obj : ∀ fields, (∀ e ∈ fields, P e.2) → P (.obj fields)) (j : Json) : P j := by
  refine Json.rec (motive_1 := P) (motive_2 := fun _ => True)
    (motive_3 := fun fields => ∀ e ∈ fields, P e.2) (motive_4 := fun e => P e.2)
    (leaf .null rfl) (fun b => leaf (.bool b) rfl) (fun n => leaf (.num n) rfl)
    (fun s => leaf (.str s) rfl) (fun items _ => leaf (.arr items) rfl) obj
    trivial (fun _ _ _ _ => trivial) ?_ ?_ (fun _ _ h => h) j
  · intro e he
    cases he
  · intro e rest h ih f hf
    rcases List.mem_cons.1 hf with rfl | hf
    · exact h
    · exact ih f hf

theorem orderedFields_iff {fields : List (String × Json)} :
    OrderedFields fields ↔ ∀ e ∈ fields, e.2.Ordered := by
  induction fields with
  | nil => simp [OrderedFields]
  | cons e rest ih => obtain ⟨k, j⟩ := e; simp [OrderedFields, ih]

theorem orderedItems_iff {items : List Json} :
    OrderedItems items ↔ ∀ j ∈ items, j.Ordered := by
  induction items with
  | nil => simp [OrderedItems]
  | cons j rest ih => simp [OrderedItems, ih]

theorem ordered_obj_iff {fields : List (String × Json)} :
    (obj fields).Ordered ↔ Entries.Ascending fields ∧ ∀ e ∈ fields, e.2.Ordered := by
  rw [← orderedFields_iff, Ordered]

theorem ordered_ofMembers {members : List (String × Json)} (h : ∀ e ∈ members, e.2.Ordered) :
    (ofMembers members).Ordered :=
  ordered_obj_iff.2 ⟨Entries.ascending_nil.insertAll members, fun e he =>
    h e ((Entries.mem_insertAll he).resolve_right List.not_mem_nil)⟩

theorem exists_of_isObject {j : Json} (h : j.isObject = true) : ∃ fields, j = obj fields := by
  cases j with
  | obj fields => exact ⟨fields, rfl⟩
  | _ => cases h

/-! ## 2. One key -/

/-- What becomes of the member under a key: a known member is merged, a new one is added unless its
value is empty. -/
def overrideMember : Option Json → Option Json → Option Json
  | target, none => target
  | some value, some source => some (value.override source)
  | none, some source => if source.isEmpty then none else some source

/-- Lays one member over the members of a target. -/
def putMember (fields : List (String × Json)) (key : String) (source : Json) :
    List (String × Json) :=
  match overrideMember (Entries.lookup key fields) (some source) with
  | some value => Entries.insert key value fields
  | none => fields

theorem overrideFields_cons (fields : List (String × Json)) (key : String) (source : Json)
    (rest : List (String × Json)) :
    overrideFields fields ((key, source) :: rest) =
      overrideFields (putMember fields key source) rest := by
  rw [overrideFields, putMember]
  cases h : Entries.lookup key fields with
  | some value => rfl
  | none => by_cases hs : source.isEmpty = true <;> simp [overrideMember, hs]

theorem lookup_putMember (fields : List (String × Json)) (key : String) (source : Json)
    (k : String) :
    Entries.lookup k (putMember fields key source) =
      if k = key then overrideMember (Entries.lookup key fields) (some source)
      else Entries.lookup k fields := by
  unfold putMember
  cases h : overrideMember (Entries.lookup key fields) (some source) with
  | some value =>
    by_cases hk : k = key
    · subst hk; simp
    · simp [hk, Entries.lookup_insert_of_ne hk]
  | none =>
    by_cases hk : k = key
    · subst hk
      cases hl : Entries.lookup k fields with
      | none => simp
      | some value => simp [hl, overrideMember] at h
    · simp [hk]

theorem ascending_putMember {fields : List (String × Json)} (h : Entries.Ascending fields)
    (key : String) (source : Json) : Entries.Ascending (putMember fields key source) := by
  unfold putMember
  split
  · exact h.insert _ _
  · exact h

/-! ## 3. All keys -/

/-- **The rule per key**, for a source that gives each key once. -/
theorem lookup_overrideFields {source : List (String × Json)} (h : (source.map (·.1)).Nodup)
    (fields : List (String × Json)) (k : String) :
    Entries.lookup k (overrideFields fields source) =
      overrideMember (Entries.lookup k fields) (Entries.lookup k source) := by
  induction source generalizing fields with
  | nil => simp [overrideFields, overrideMember]
  | cons e rest ih =>
    obtain ⟨key, value⟩ := e
    obtain ⟨hnot, hrest⟩ := List.nodup_cons.1 h
    rw [overrideFields_cons, ih hrest, lookup_putMember]
    by_cases hk : k = key
    · subst hk
      have hnone : Entries.lookup k rest = none := Entries.lookup_eq_none_iff.2 fun e he hek =>
        hnot (List.mem_map.2 ⟨e, he, hek⟩)
      simp [Entries.lookup, hnone, overrideMember]
    · simp [Entries.lookup, hk]

theorem ascending_overrideFields {fields : List (String × Json)} (h : Entries.Ascending fields)
    (source : List (String × Json)) : Entries.Ascending (overrideFields fields source) := by
  induction source generalizing fields with
  | nil => simpa [overrideFields] using h
  | cons e rest ih =>
    rw [overrideFields_cons]
    exact ih (ascending_putMember h e.1 e.2)

/-- Where a member comes from: it is one of the target, one of the source, or merged from both. -/
theorem mem_overrideFields {fields source : List (String × Json)}
    (hf : Entries.Ascending fields) (hs : Entries.Ascending source) {key : String} {value : Json}
    (he : (key, value) ∈ overrideFields fields source) :
    (key, value) ∈ fields ∨ (key, value) ∈ source ∨
      ∃ a b, (key, a) ∈ fields ∧ (key, b) ∈ source ∧ value = a.override b := by
  have hl := (ascending_overrideFields hf source).lookup_of_mem he
  rw [lookup_overrideFields hs.nodup_keys] at hl
  cases ha : Entries.lookup key fields with
  | none =>
    cases hb : Entries.lookup key source with
    | none => simp [ha, hb, overrideMember] at hl
    | some b =>
      by_cases hbe : b.isEmpty = true
      · simp [ha, hb, overrideMember, hbe] at hl
      · have hbv : b = value := by simpa [ha, hb, overrideMember, hbe] using hl
        exact .inr (.inl (hbv ▸ Entries.mem_of_lookup hb))
  | some a =>
    cases hb : Entries.lookup key source with
    | none =>
      have hav : a = value := by simpa [ha, hb, overrideMember] using hl
      exact .inl (hav ▸ Entries.mem_of_lookup ha)
    | some b =>
      have hab : a.override b = value := by simpa [ha, hb, overrideMember] using hl
      exact .inr (.inr ⟨a, b, Entries.mem_of_lookup ha, Entries.mem_of_lookup hb, hab.symm⟩)

/-! ## 4. The merge as a whole -/

/-- Unless two objects meet, the merge is one of the two values. -/
theorem override_eq_or (target source : Json)
    (h : target.isObject = false ∨ source.isObject = false) :
    target.override source = target ∨ target.override source = source := by
  by_cases he : source.isEmpty = true
  · exact .inl (override_of_isEmpty he target)
  · exact .inr (override_of_not_obj (by simpa using he) h)

/-- The merge keeps the key order. -/
theorem Ordered.override {target source : Json} (ht : target.Ordered) (hs : source.Ordered) :
    (target.override source).Ordered := by
  induction source using memberInduction generalizing target with
  | leaf source ho =>
    rcases override_eq_or target source (.inr ho) with h | h <;> rw [h]
    · exact ht
    · exact hs
  | obj source ih =>
    by_cases hto : target.isObject = true
    · obtain ⟨fields, rfl⟩ := exists_of_isObject hto
      obtain ⟨hf, hfv⟩ := ordered_obj_iff.1 ht
      obtain ⟨hs, hsv⟩ := ordered_obj_iff.1 hs
      rw [override_obj]
      refine ordered_obj_iff.2 ⟨ascending_overrideFields hf source, fun e he => ?_⟩
      rcases mem_overrideFields hf hs he with he | he | ⟨a, b, ha, hb, hab⟩
      · exact hfv e he
      · exact hsv e he
      · rw [hab]
        exact ih _ hb (hfv _ ha) (hsv _ hb)
    · rcases override_eq_or target (.obj source) (.inl (by simpa using hto)) with h | h <;> rw [h]
      · exact ht
      · exact hs

/-- **Laying a value over itself changes nothing.** -/
theorem override_self {j : Json} (h : j.Ordered) : j.override j = j := by
  induction j using memberInduction with
  | leaf j ho => exact (override_eq_or j j (.inl ho)).elim id id
  | obj fields ih =>
    obtain ⟨hf, hfv⟩ := ordered_obj_iff.1 h
    rw [override_obj]
    congr 1
    refine Entries.Ascending.ext (ascending_overrideFields hf fields) hf fun k => ?_
    rw [lookup_overrideFields hf.nodup_keys]
    cases hk : Entries.lookup k fields with
    | none => rfl
    | some value =>
      have hmem := Entries.mem_of_lookup hk
      exact congrArg some (ih _ hmem (hfv _ hmem))

/-- **Laying a value over a target a second time changes nothing.** -/
theorem override_override {target source : Json} (ht : target.Ordered) (hs : source.Ordered) :
    (target.override source).override source = target.override source := by
  induction source using memberInduction generalizing target with
  | leaf source ho =>
    by_cases he : source.isEmpty = true
    · rw [override_of_isEmpty he, override_of_isEmpty he]
    · rw [override_of_not_obj (by simpa using he) (.inr ho),
        override_of_not_obj (by simpa using he) (.inr ho)]
  | obj source ih =>
    by_cases hto : target.isObject = true
    · obtain ⟨fields, rfl⟩ := exists_of_isObject hto
      obtain ⟨hf, hfv⟩ := ordered_obj_iff.1 ht
      have hs' := hs
      obtain ⟨hs, hsv⟩ := ordered_obj_iff.1 hs
      have hmerged := ascending_overrideFields hf source
      rw [override_obj, override_obj]
      congr 1
      refine Entries.Ascending.ext (ascending_overrideFields hmerged source) hmerged fun k => ?_
      rw [lookup_overrideFields hs.nodup_keys, lookup_overrideFields hs.nodup_keys]
      cases hb : Entries.lookup k source with
      | none => rfl
      | some b =>
        have hbmem := Entries.mem_of_lookup hb
        cases ha : Entries.lookup k fields with
        | some a =>
          exact congrArg some (ih _ hbmem (hfv _ (Entries.mem_of_lookup ha)) (hsv _ hbmem))
        | none =>
          by_cases hbe : b.isEmpty = true
          · simp [overrideMember, hbe]
          · simp [overrideMember, hbe, override_self (hsv _ hbmem)]
    · rcases override_eq_or target (.obj source) (.inl (by simpa using hto)) with h | h <;> rw [h]
      · exact h
      · exact override_self hs

end Reconciliation.Json
