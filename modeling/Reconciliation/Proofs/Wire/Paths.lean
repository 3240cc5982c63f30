import Reconciliation.Proofs.Wire.Override

/-!
# The override merge along paths

A path of object keys reaches at most one value. Along paths the merge has three rules: what the
source says is reached afterwards, what it is silent about stays, and nothing is reached that
neither of the two reaches. A source is silent where it reaches nothing or an empty value, and it
decides where it reaches a value that is neither empty nor an object.

* `Json.override_cases` -- the merge keeps the target, takes the source, or goes key by key;
* `Json.at?_override_of_decides`, `Json.at?_override_of_silent`, `Json.at?_override_of_leaf` -- the
  rules, each by induction on the path;
* **`Json.at?_override`** -- the law;
* `Json.override_supplies_zero` -- silence is not enough for a target that reaches nothing: an
  object of the source goes in as a whole, zero values inside it included (`Json.Supplies`).
-/

namespace Reconciliation.Json

/-! ## 1. What is reached -/

/-- No object is reached: nothing at all, or another value. -/
def NoObject (reached : Option Json) : Prop := ∀ v ∈ reached, v.isObject = false

/-- The source is silent: nothing is reached, or an empty value. -/
def Silent (reached : Option Json) : Prop := ∀ v ∈ reached, v.isEmpty = true

/-- The source decides: it reaches a value that replaces whatever it is laid over. -/
def Decides (reached : Option Json) : Prop :=
  ∃ v ∈ reached, v.isEmpty = false ∧ v.isObject = false

/-- Nothing lies below what is reached: it is no object, or the empty one. -/
def Leaf (reached : Option Json) : Prop := ∀ v ∈ reached, v.isObject = false ∨ v = obj []

/-- The source reaches a value, and the target has no object to hold it. -/
def Supplies (target source : Json) (path : List String) : Prop :=
  path ≠ [] ∧ (source.at? path).isSome = true ∧ NoObject (target.at? path.dropLast)

theorem get?_of_not_obj {j : Json} (h : j.isObject = false) (key : String) : j.get? key = none := by
  cases j with
  | obj fields => cases h
  | _ => rfl

theorem at?_cons_of_not_obj {j : Json} (h : j.isObject = false) (key : String)
    (path : List String) : j.at? (key :: path) = none := by
  rw [at?, get?_of_not_obj h, Option.bind_none]

theorem at?_cons {j v : Json} {key : String} (h : j.get? key = some v) (path : List String) :
    j.at? (key :: path) = v.at? path := by
  rw [at?, h, Option.bind_some]

/-- What has a member is not empty. -/
theorem isEmpty_of_get? {j v : Json} {key : String} (h : j.get? key = some v) :
    j.isEmpty = false := by
  cases j with
  | obj fields =>
    cases fields with
    | nil => cases h
    | cons e rest => rfl
  | _ => cases h

theorem isEmpty_of_at? {j v : Json} {key : String} {path : List String}
    (h : j.at? (key :: path) = some v) : j.isEmpty = false := by
  obtain ⟨member, hm, -⟩ := Option.bind_eq_some_iff.1 h
  exact isEmpty_of_get? hm

theorem Ordered.get? {j v : Json} {key : String} (h : j.Ordered) (hv : j.get? key = some v) :
    v.Ordered := by
  cases j with
  | obj fields => exact (ordered_obj_iff.1 h).2 _ (Entries.mem_of_lookup hv)
  | _ => cases hv

/-- Only objects lead on: what lies on the way to a value decides nothing. -/
theorem not_decides_of_at? {source v : Json} {path front : List String}
    (h : source.at? path = some v) (hfront : front <+: path) (hne : front ≠ path) :
    ¬Decides (source.at? front) := by
  induction path generalizing source front with
  | nil => exact absurd (List.prefix_nil.1 hfront) hne
  | cons key path ih =>
    obtain ⟨member, hm, hv⟩ := Option.bind_eq_some_iff.1 h
    rcases List.prefix_cons_iff.1 hfront with rfl | ⟨front', rfl, hfront'⟩
    · rintro ⟨w, hw, -, ho⟩
      obtain rfl : source = w := Option.some.inj hw
      rw [get?_of_not_obj ho] at hm
      cases hm
    · rw [at?_cons hm]
      exact ih hv hfront' fun heq => hne (congrArg _ heq)

/-! ## 2. One step of the merge -/

/-- The merge keeps the target if the source is empty, takes the source if no two objects meet, and
else goes key by key. -/
theorem override_cases (target : Json) {source : Json} (hs : source.Ordered) :
    (source.isEmpty = true ∧ target.override source = target) ∨
    (source.isEmpty = false ∧ (target.isObject = false ∨ source.isObject = false) ∧
      target.override source = source) ∨
    (target.isObject = true ∧ source.isObject = true ∧ (target.override source).isObject = true ∧
      ∀ key, (target.override source).get? key =
        overrideMember (target.get? key) (source.get? key)) := by
  cases he : source.isEmpty with
  | true => exact .inl ⟨rfl, override_of_isEmpty he target⟩
  | false =>
    right
    cases ht : target.isObject with
    | false => exact .inl ⟨rfl, .inl rfl, override_of_not_obj he (.inl ht)⟩
    | true =>
      cases hso : source.isObject with
      | false => exact .inl ⟨rfl, .inr rfl, override_of_not_obj he (.inr hso)⟩
      | true =>
        obtain ⟨fields, rfl⟩ := exists_of_isObject ht
        obtain ⟨members, rfl⟩ := exists_of_isObject hso
        rw [override_obj]
        exact .inr ⟨rfl, rfl, rfl, fun key =>
          lookup_overrideFields (ordered_obj_iff.1 hs).1.nodup_keys fields key⟩

/-! ## 3. The rules -/

/-- What the source says is reached. -/
theorem at?_override_of_decides {target source : Json} (hs : source.Ordered) {path : List String}
    {v : Json} (h : source.at? path = some v) (he : v.isEmpty = false) (ho : v.isObject = false) :
    (target.override source).at? path = some v := by
  induction path generalizing target source with
  | nil =>
    obtain rfl : source = v := Option.some.inj h
    exact congrArg some (override_of_not_obj he (.inr ho))
  | cons key path ih =>
    obtain ⟨member, hm, hv⟩ := Option.bind_eq_some_iff.1 h
    rcases override_cases target hs with ⟨hempty, -⟩ | ⟨-, -, heq⟩ | ⟨-, -, -, hrule⟩
    · rw [isEmpty_of_get? hm] at hempty
      cases hempty
    · rw [heq, h]
    · have hkey := hrule key
      rw [hm] at hkey
      cases ht : target.get? key with
      | some value =>
        rw [ht] at hkey
        rw [at?_cons hkey]
        exact ih (hs.get? hm) hv
      | none =>
        have hfull : member.isEmpty = false := by
          cases path with
          | nil => rwa [Option.some.inj hv]
          | cons key' path => exact isEmpty_of_at? hv
        rw [ht, overrideMember, if_neg (by simp [hfull])] at hkey
        rw [at?_cons hkey, hv]

theorem noObject_none : NoObject none := fun _ hv => by cases hv

/-- What the target has no object for, the source supplies unless it has nothing there itself. -/
theorem at?_eq_none_of_not_supplies {target source : Json} {path : List String} (hne : path ≠ [])
    (hno : NoObject (target.at? path.dropLast)) (h : ¬Supplies target source path) :
    source.at? path = none :=
  Option.not_isSome_iff_eq_none.1 fun hsome => h ⟨hne, hsome, hno⟩

/-- Below a member that both have, the source supplies what it supplies to that member. -/
theorem supplies_cons_iff {target source t s : Json} {key : String}
    (hto : target.isObject = true) (ht : target.get? key = some t) (hs : source.get? key = some s)
    (path : List String) : Supplies target source (key :: path) ↔ Supplies t s path := by
  cases path with
  | nil =>
    refine iff_of_false (fun h => ?_) fun h => h.1 rfl
    have hno : target.isObject = false := h.2.2 target rfl
    rw [hto] at hno
    cases hno
  | cons key' path =>
    unfold Supplies
    rw [List.dropLast_cons_of_ne_nil (List.cons_ne_nil _ _), at?_cons ht, at?_cons hs]
    simp only [ne_eq, reduceCtorEq, not_false_eq_true, true_and]

/-- A target that is no object, or has no member under the first key, has no object further on. -/
theorem noObject_dropLast {target : Json} {key : String} (h : target.get? key = none)
    (path : List String) (ho : path = [] → target.isObject = false) :
    NoObject (target.at? (key :: path).dropLast) := by
  cases path with
  | nil => exact fun v hv => Option.some.inj hv ▸ ho rfl
  | cons key' path =>
    rw [List.dropLast_cons_of_ne_nil (List.cons_ne_nil _ _), at?, h]
    exact noObject_none

/-- A member that only the source has goes in as a whole, unless it is empty. -/
theorem at?_override_of_new {target source s : Json} {key : String} (hto : target.isObject = true)
    (htk : target.get? key = none) (hsk : source.get? key = some s)
    (hrule : (target.override source).get? key = overrideMember none (some s))
    {path : List String} (h : Silent (source.at? (key :: path))) :
    (¬Supplies target source (key :: path) →
        (target.override source).at? (key :: path) = target.at? (key :: path)) ∧
      (Supplies target source (key :: path) →
        (target.override source).at? (key :: path) = source.at? (key :: path)) := by
  have habsent : target.at? (key :: path) = none := by rw [at?, htk, Option.bind_none]
  rw [at?_cons hsk] at h ⊢
  rw [habsent]
  cases hse : s.isEmpty with
  | true =>
    rw [overrideMember, if_pos hse] at hrule
    refine ⟨fun _ => by rw [at?, hrule, Option.bind_none], fun hsup => ?_⟩
    cases path with
    | nil =>
      rw [hsup.2.2 target rfl] at hto
      cases hto
    | cons key' path =>
      obtain ⟨v, hv⟩ := Option.isSome_iff_exists.1 hsup.2.1
      rw [at?_cons hsk] at hv
      rw [isEmpty_of_at? hv] at hse
      cases hse
  | false =>
    rw [overrideMember, if_neg (by simp [hse])] at hrule
    rw [at?_cons hrule]
    refine ⟨fun hsup => ?_, fun _ => rfl⟩
    rw [← at?_cons hsk]
    refine at?_eq_none_of_not_supplies (List.cons_ne_nil _ _) (noObject_dropLast htk path ?_) hsup
    rintro rfl
    rw [h s rfl] at hse
    cases hse

/-- Where the source is silent and has decided nothing on the way, the target stays, but for what
goes in with an object of the source. -/
theorem at?_override_of_silent {target source : Json} (hs : source.Ordered) {path : List String}
    (h : Silent (source.at? path))
    (hway : ∀ front, front <+: path → front ≠ path → ¬Decides (source.at? front)) :
    (¬Supplies target source path → (target.override source).at? path = target.at? path) ∧
      (Supplies target source path → (target.override source).at? path = source.at? path) := by
  induction path generalizing target source with
  | nil =>
    have hempty : source.isEmpty = true := h source rfl
    exact ⟨fun _ => by rw [override_of_isEmpty hempty], fun hsup => absurd rfl hsup.1⟩
  | cons key path ih =>
    rcases override_cases target hs with ⟨hempty, heq⟩ | ⟨hfull, hno, heq⟩ | ⟨hto, hso, -, hrule⟩
    · refine ⟨fun _ => by rw [heq], fun hsup => ?_⟩
      obtain ⟨v, hv⟩ := Option.isSome_iff_exists.1 hsup.2.1
      rw [isEmpty_of_at? hv] at hempty
      cases hempty
    · -- the source is an object, as it decides nothing itself; so the target is none
      have hundecided : ¬Decides (some source) := hway [] List.nil_prefix (by simp)
      have hto : target.isObject = false := hno.resolve_right fun hso =>
        hundecided ⟨source, rfl, hfull, hso⟩
      refine ⟨fun hsup => ?_, fun _ => by rw [heq]⟩
      rw [heq, at?_cons_of_not_obj hto]
      exact at?_eq_none_of_not_supplies (List.cons_ne_nil _ _)
        (noObject_dropLast (get?_of_not_obj hto key) path fun _ => hto) hsup
    · have hkey := hrule key
      cases hsk : source.get? key with
      | none =>
        rw [hsk] at hkey
        refine ⟨fun _ => by rw [at?, at?, hkey, overrideMember], fun hsup => ?_⟩
        have hsome := hsup.2.1
        rw [at?, hsk] at hsome
        cases hsome
      | some s =>
        rw [hsk] at hkey
        cases htk : target.get? key with
        | none => exact at?_override_of_new hto htk hsk (htk ▸ hkey) h
        | some t =>
          rw [htk] at hkey
          rw [supplies_cons_iff hto htk hsk, at?_cons hkey, at?_cons htk, at?_cons hsk]
          rw [at?_cons hsk] at h
          refine ih (hs.get? hsk) h fun front hfront hne => ?_
          have hdeeper := hway (key :: front) (List.prefix_cons_iff.2 (.inr ⟨front, rfl, hfront⟩))
            fun heq => hne (List.cons.inj heq).2
          rwa [at?_cons hsk] at hdeeper

/-- An object that the merge leaves empty was an empty target. -/
theorem override_eq_nil {target source : Json} (hs : source.Ordered) (hto : target.isObject = true)
    (h : target.override source = obj []) : target = obj [] := by
  obtain ⟨fields, rfl⟩ := exists_of_isObject hto
  cases fields with
  | nil => rfl
  | cons e rest =>
    exfalso
    have hmember : (obj (e :: rest)).get? e.1 = some e.2 := by
      simp [get?, Entries.lookup, Json.fields]
    rcases override_cases (obj (e :: rest)) hs with ⟨-, heq⟩ | ⟨hfull, -, heq⟩ | ⟨-, -, -, hrule⟩
    · rw [heq] at h
      cases h
    · rw [← heq, h] at hfull
      cases hfull
    · have hkey := hrule e.1
      rw [h, hmember] at hkey
      cases hs : source.get? e.1 <;> rw [hs] at hkey <;> cases hkey

/-- What is reached at the end was reached in one of the two. -/
theorem at?_override_of_leaf {target source : Json} (hs : source.Ordered) {path : List String}
    (h : Leaf ((target.override source).at? path)) :
    (target.override source).at? path = source.at? path ∨
      (target.override source).at? path = target.at? path := by
  induction path generalizing target source with
  | nil =>
    rcases override_cases target hs with ⟨-, heq⟩ | ⟨-, -, heq⟩ | ⟨hto, -, hro, -⟩
    · exact .inr (congrArg some heq)
    · exact .inl (congrArg some heq)
    · have hnil := (h _ rfl).resolve_left (by simp [hro])
      exact .inr (congrArg some (hnil.trans (override_eq_nil hs hto hnil).symm))
  | cons key path ih =>
    rcases override_cases target hs with ⟨-, heq⟩ | ⟨-, -, heq⟩ | ⟨-, -, -, hrule⟩
    · exact .inr (by rw [heq])
    · exact .inl (by rw [heq])
    · have hkey := hrule key
      cases hsk : source.get? key with
      | none =>
        rw [hsk, overrideMember] at hkey
        exact .inr (by rw [at?, at?, hkey])
      | some s =>
        rw [hsk] at hkey
        cases htk : target.get? key with
        | some t =>
          rw [htk, overrideMember] at hkey
          rw [at?_cons hkey] at h ⊢
          rw [at?_cons htk, at?_cons hsk]
          exact ih (hs.get? hsk) h
        | none =>
          rw [htk, overrideMember] at hkey
          split at hkey
          · exact .inr (by rw [at?, at?, hkey, htk])
          · exact .inl (by rw [at?, at?, hkey, hsk])

/-! ## 4. The law -/

/-- **The override merge along paths.** Where the source says something, that is reached. Where it
is silent, and has decided nothing on the way, the target stays as it is, unless the source reaches
an empty value and the target has no object to hold it: then that value is reached, as part of an
object that goes in as a whole. And whatever is reached at the end of a path is what one of the two
reaches there. -/
theorem at?_override (target : Json) {source : Json} (hs : source.Ordered) :
    (∀ path v, source.at? path = some v → v.isEmpty = false → v.isObject = false →
      (target.override source).at? path = some v) ∧
    (∀ path, Silent (source.at? path) →
      (∀ front, front <+: path → front ≠ path → ¬Decides (source.at? front)) →
      (¬Supplies target source path →
          (target.override source).at? path = target.at? path) ∧
        (Supplies target source path →
          (target.override source).at? path = source.at? path)) ∧
    (∀ path, Leaf ((target.override source).at? path) →
      (target.override source).at? path = source.at? path ∨
        (target.override source).at? path = target.at? path) :=
  ⟨fun _ _ => at?_override_of_decides hs, fun _ => at?_override_of_silent hs,
    fun _ => at?_override_of_leaf hs⟩

/-- A text replaced by an object, next to an object that meets another: `b` is said, the zero `k`
leaves the target as it was, the zero `z` goes in with its object. -/
theorem at?_override_clash :
    let target := obj [("a", obj [("b", ofInt 1), ("k", ofInt 2)]), ("s", str "five")]
    let source := obj [("a", obj [("b", ofInt 3), ("k", ofInt 0)]),
      ("s", obj [("y", bool true), ("z", ofInt 0)])]
    source.Ordered ∧ (target.override source).at? ["a", "b"] = some (ofInt 3) ∧
      (target.override source).at? ["a", "k"] = some (ofInt 2) ∧
      (target.override source).at? ["s", "z"] = some (ofInt 0) := by
  intro target source
  have hs : source.Ordered := by
    simp only [source, Ordered, OrderedFields, ofInt, and_true]
    decide
  have hzero : ∀ {path}, source.at? path = some (ofInt 0) → Silent (source.at? path) :=
    fun h v hv => by rw [← Option.some.inj (h.symm.trans hv)]; rfl
  have hk : source.at? ["a", "k"] = some (ofInt 0) := rfl
  have hz : source.at? ["s", "z"] = some (ofInt 0) := rfl
  obtain ⟨hdecided, hsilent, -⟩ := at?_override target hs
  refine ⟨hs, hdecided _ _ rfl rfl rfl, ?_, ?_⟩
  · -- the target has an object at `a`, which holds its own `k`
    refine (hsilent _ (hzero hk) fun _ => not_decides_of_at? hk).1 fun hsup => ?_
    cases hsup.2.2 _ rfl
  · -- the target has a text at `s`, which holds nothing
    refine (hsilent _ (hzero hz) fun _ => not_decides_of_at? hz).2 ⟨by decide, rfl, ?_⟩
    rintro v hv
    obtain rfl : str "five" = v := Option.some.inj hv
    rfl

/-- Zero values inside an object go in with it: here the target reaches nothing, the source reaches
a zero and has decided nothing on the way, and yet the zero is reached afterwards. -/
theorem override_supplies_zero :
    let target := obj []
    let source := obj [("a", obj [("b", ofInt 0), ("c", ofInt 1)])]
    source.Ordered ∧ NoObject (target.at? ["a", "b"]) ∧ Silent (source.at? ["a", "b"]) ∧
      (∀ front, front <+: ["a", "b"] → front ≠ ["a", "b"] → ¬Decides (source.at? front)) ∧
      (target.override source).at? ["a", "b"] ≠ target.at? ["a", "b"] := by
  intro target source
  have hzero : source.at? ["a", "b"] = some (ofInt 0) := rfl
  refine ⟨?_, noObject_none, fun v hv => ?_, fun _ => not_decides_of_at? hzero, fun h => ?_⟩
  · simp only [source, Ordered, OrderedFields, ofInt, and_true]
    decide
  · rw [← Option.some.inj (hzero.symm.trans hv)]
    rfl
  · cases h

end Reconciliation.Json
