import Mathlib.Data.List.Forall2
import Reconciliation.Json.Codec
import Reconciliation.Mutation.Fields
import Reconciliation.Proofs.Wire.Override

/-!
# Lawful codecs

A merged value is read back from JSON that no value was written as: two written values were laid
over each other first. The codecs of the library nevertheless lose nothing there, because the forms
that writing and merging produce are read *exactly*:

* `Codec.Law` -- the forms of a codec contain what it writes, are closed under the merge, and any
  value read from a form is written as that form; `whole` says which values survive writing at all,
  and whatever JSON is read, laid over other JSON that is read, is read again (`Codec.Reads`);
* `Codec.Lawful.scalar`, `Codec.Lawful.list`, `Codec.Lawful.dict`, `Codec.Lawful.option` -- one
  lemma per combinator;
* **`Codec.Law.merge?_again`**, **`Codec.Law.merge?_self`** -- merging a second time returns the
  merged value, and merging a value with itself returns it just if it is whole;
* **`Codec.Law.exists_merge?`**, **`Codec.Law.encode_of_merge?`** -- merging never fails on values
  that can be read at all, and the merged value is written as the merge of the written ones.
-/

namespace Reconciliation

namespace Codec

/-! ## 1. The law -/

/-- The JSON value is read as some value. -/
def Reads (c : Codec α) (j : Json) : Prop := ∃ a, c.ofJson? j = some a

/-- What the override merge asks of a codec. `form` are the JSON values between which it moves. -/
structure Law (c : Codec α) (whole : α → Prop) (form : Json → Prop) : Prop where
  encode : ∀ a, form (c.encode a)
  override : ∀ {j k}, form j → form k → form (j.override k)
  ordered : ∀ {j}, form j → j.Ordered
  encode_of_read : ∀ {j a}, form j → c.ofJson? j = some a → c.encode a = j
  read_encode : ∀ a, c.ofJson? (c.encode a) = some a ↔ whole a
  mergeable : ∀ {j k}, j.Ordered → k.Ordered → c.Reads j → c.Reads k → c.Reads (j.override k)

/-- The law for some forms, none of which is null. -/
def Lawful (c : Codec α) (whole : α → Prop) : Prop :=
  ∃ form, c.Law whole form ∧ ∀ j, form j → j.isNull = false

/-- Every value survives writing. -/
abbrev Lossless (c : Codec α) : Prop := c.Lawful fun _ => True

namespace Law

variable {c : Codec α} {whole : α → Prop} {form : Json → Prop}

/-- **Merging loses nothing**: a merged value is written as the merge of what the two values are
written as. -/
theorem encode_of_merge? (h : c.Law whole form) {a b merged : α}
    (hm : c.merge? a b = some merged) : c.encode merged = (c.encode a).override (c.encode b) :=
  h.encode_of_read (h.override (h.encode a) (h.encode b)) hm

/-- **Merging the same value once more changes nothing.** -/
theorem merge?_again (h : c.Law whole form) {a b merged : α}
    (hm : c.merge? a b = some merged) : c.merge? merged b = some merged := by
  have hwritten := h.encode_of_merge? hm
  unfold merge? at hm ⊢
  rw [hwritten, Json.override_override (h.ordered (h.encode a)) (h.ordered (h.encode b))]
  exact hm

/-- **Merging a value with itself returns it just if it is whole.** -/
theorem merge?_self (h : c.Law whole form) (a : α) : c.merge? a a = some a ↔ whole a := by
  unfold merge?
  rw [Json.override_self (h.ordered (h.encode a))]
  exact h.read_encode a

/-- **Merging does not fail**, unless one of the values cannot be read back at all. -/
theorem exists_merge? (h : c.Law whole form) {a b : α} (ha : c.Reads (c.encode a))
    (hb : c.Reads (c.encode b)) : ∃ merged, c.merge? a b = some merged :=
  h.mergeable (h.ordered (h.encode a)) (h.ordered (h.encode b)) ha hb

theorem reads_encode (h : c.Law whole form) {a : α} (ha : whole a) : c.Reads (c.encode a) :=
  ⟨a, (h.read_encode a).2 ha⟩

end Law

/-! ## 2. Scalars -/

/-- A value that the merge replaces and that has no parts. -/
def isScalar : Json → Bool
  | .bool _ | .num _ | .str _ => true
  | _ => false

/-- A codec that reads no objects reads what is merged: it is one of the two values. -/
theorem reads_override_of_not_obj {c : Codec α} (ho : ∀ fields, c.ofJson? (.obj fields) = none)
    {j k : Json} (hj : c.Reads j) (hk : c.Reads k) : c.Reads (j.override k) := by
  have hnot : j.isObject = false := by
    cases j with
    | obj fields =>
      obtain ⟨a, ha⟩ := hj
      rw [ho] at ha
      cases ha
    | _ => rfl
  rcases Json.override_eq_or j k (.inl hnot) with h | h <;> rw [h]
  · exact hj
  · exact hk

/-- A codec that writes scalars and reads no objects only has to read back what it wrote as
something that is written the same. -/
theorem Lawful.scalar {c : Codec α} {whole : α → Prop}
    (hs : ∀ a, isScalar (c.encode a) = true) (ho : ∀ fields, c.ofJson? (.obj fields) = none)
    (hw : ∀ a b, c.ofJson? (c.encode a) = some b → c.encode b = c.encode a)
    (hr : ∀ a, c.ofJson? (c.encode a) = some a ↔ whole a) : c.Lawful whole := by
  have hcases : ∀ {j}, isScalar j = true → j.isObject = false ∧ j.Ordered ∧ j.isNull = false := by
    intro j hj
    cases j <;> simp_all [isScalar, Json.isObject, Json.Ordered, Json.isNull]
  refine ⟨fun j => ∃ a, j = c.encode a,
    ⟨fun a => ⟨a, rfl⟩, ?_, ?_, ?_, hr, fun _ _ => reads_override_of_not_obj ho⟩, ?_⟩
  · intro j k hj hk
    obtain ⟨a, rfl⟩ := hj
    obtain ⟨b, rfl⟩ := hk
    rcases Json.override_eq_or (c.encode a) (c.encode b) (.inl (hcases (hs a)).1) with h | h
    · exact ⟨a, h⟩
    · exact ⟨b, h⟩
  · intro j hj
    obtain ⟨a, rfl⟩ := hj
    exact (hcases (hs a)).2.1
  · intro j b hj h
    obtain ⟨a, rfl⟩ := hj
    exact hw a b h
  · intro j hj
    obtain ⟨a, rfl⟩ := hj
    exact (hcases (hs a)).2.2

theorem lossless_scalar {c : Codec α} (hs : ∀ a, isScalar (c.encode a) = true)
    (ho : ∀ fields, c.ofJson? (.obj fields) = none)
    (hr : ∀ a, c.ofJson? (c.encode a) = some a) : c.Lossless :=
  Lawful.scalar hs ho (fun a b h => by rw [Option.some.inj ((hr a).symm.trans h)])
    fun a => iff_true_intro (hr a)

theorem lossless_text : text.Lossless :=
  lossless_scalar (fun _ => rfl) (fun _ => rfl) fun _ => rfl

theorem lossless_flag : flag.Lossless :=
  lossless_scalar (fun _ => rfl) (fun _ => rfl) fun _ => rfl

theorem lossless_int32 : int32.Lossless :=
  lossless_scalar (fun _ => rfl) (fun _ => rfl) fun n => by
    have hread : int32.ofJson? (int32.encode n) =
      if Int32.minValue.toInt ≤ n.toInt ∧ n.toInt ≤ Int32.maxValue.toInt then
        some (Int32.ofInt n.toInt)
      else none := rfl
    rw [hread, if_pos ⟨n.minValue_le_toInt, n.toInt_le⟩, Int32.ofInt_toInt]

theorem lossless_int64 : int64.Lossless :=
  lossless_scalar (fun _ => rfl) (fun _ => rfl) fun n => by
    have hread : int64.ofJson? (int64.encode n) =
      if Int64.minValue.toInt ≤ n.toInt ∧ n.toInt ≤ Int64.maxValue.toInt then
        some (Int64.ofInt n.toInt)
      else none := rfl
    rw [hread, if_pos ⟨n.minValue_le_toInt, n.toInt_le⟩, Int64.ofInt_toInt]

/-! ## 3. Lists and dictionaries -/

section Containers

variable {c : Codec α} {whole : α → Prop}

theorem decodeItems_eq_some_iff {items : List Json} {as : List α} :
    c.decodeItems (Json.rawItems items) = some as ↔
      List.Forall₂ (fun j a => c.ofJson? j = some a) items as := by
  induction items generalizing as with
  | nil => cases as <;> simp [Json.rawItems, decodeItems]
  | cons j rest ih =>
    rw [List.forall₂_cons_left_iff]
    simp only [Json.rawItems, decodeItems, Option.bind_eq_bind, Option.bind_eq_some_iff,
      Option.some.injEq, ih]
    constructor
    · intro h
      obtain ⟨a, ha, as, has, rfl⟩ := h
      exact ⟨a, as, ha, has, rfl⟩
    · intro h
      obtain ⟨a, as, ha, has, rfl⟩ := h
      exact ⟨a, ha, as, has, rfl⟩

theorem decodeMembers_eq_some_iff {fields : List (String × Json)} {pairs : List (String × α)} :
    c.decodeMembers (Json.rawFields fields) = some pairs ↔
      List.Forall₂ (fun f e => f.1 = e.1 ∧ c.ofJson? f.2 = some e.2) fields pairs := by
  induction fields generalizing pairs with
  | nil => cases pairs <;> simp [Json.rawFields, decodeMembers]
  | cons f rest ih =>
    obtain ⟨key, j⟩ := f
    rw [List.forall₂_cons_left_iff]
    simp only [Json.rawFields, decodeMembers, Option.bind_eq_bind, Option.bind_eq_some_iff,
      Option.some.injEq, ih]
    constructor
    · intro h
      obtain ⟨a, ha, as, has, rfl⟩ := h
      exact ⟨(key, a), as, ⟨rfl, ha⟩, has, rfl⟩
    · intro h
      obtain ⟨⟨key', a⟩, as, ⟨rfl, ha⟩, has, rfl⟩ := h
      exact ⟨a, ha, as, has, rfl⟩

/-- What is read from forms is written as these forms. -/
theorem Law.map_encode {form : Json → Prop} (h : c.Law whole form) {items : List Json}
    {as : List α} (hread : List.Forall₂ (fun j a => c.ofJson? j = some a) items as)
    (hform : ∀ j ∈ items, form j) : as.map c.encode = items := by
  induction hread with
  | nil => rfl
  | cons hj _ ih =>
    rw [List.map_cons, h.encode_of_read (hform _ List.mem_cons_self) hj,
      ih fun j hj => hform j (List.mem_cons_of_mem _ hj)]

theorem Lawful.list (h : c.Lawful whole) : c.list.Lawful fun as => ∀ a ∈ as, whole a := by
  obtain ⟨form, law, -⟩ := h
  refine ⟨fun j => ∃ items, j = .arr items ∧ ∀ i ∈ items, form i,
    ⟨?_, ?_, ?_, ?_, ?_, fun _ _ => reads_override_of_not_obj fun _ => rfl⟩, ?_⟩
  · intro as
    refine ⟨_, rfl, fun i hi => ?_⟩
    obtain ⟨a, -, rfl⟩ := List.mem_map.1 hi
    exact law.encode a
  · intro j k hj hk
    obtain ⟨items, rfl, hi⟩ := hj
    obtain ⟨items', rfl, hi'⟩ := hk
    rcases Json.override_eq_or (.arr items) (.arr items') (.inl rfl) with h | h
    · exact ⟨items, h, hi⟩
    · exact ⟨items', h, hi'⟩
  · intro j hj
    obtain ⟨items, rfl, hi⟩ := hj
    rw [Json.Ordered]
    exact Json.orderedItems_iff.2 fun j hj => law.ordered (hi j hj)
  · intro j as hj hread
    obtain ⟨items, rfl, hi⟩ := hj
    have hread' : c.decodeItems (Json.rawItems items) = some as := hread
    exact congrArg Json.arr (law.map_encode (decodeItems_eq_some_iff.1 hread') hi)
  · intro as
    show c.decodeItems (Json.rawItems (as.map c.encode)) = some as ↔ _
    rw [decodeItems_eq_some_iff, List.forall₂_map_left_iff, List.forall₂_same]
    exact forall₂_congr fun a _ => law.read_encode a
  · intro j hj
    obtain ⟨items, rfl, -⟩ := hj
    rfl

theorem Law.map_encode_values {form : Json → Prop} (h : c.Law whole form)
    {fields : List (String × Json)} {pairs : List (String × α)}
    (hread : List.Forall₂ (fun f e => f.1 = e.1 ∧ c.ofJson? f.2 = some e.2) fields pairs)
    (hform : ∀ f ∈ fields, form f.2) : pairs.map (fun e => (e.1, c.encode e.2)) = fields := by
  induction hread with
  | nil => rfl
  | cons hf _ ih =>
    rw [List.map_cons, h.encode_of_read (hform _ List.mem_cons_self) hf.2, ← hf.1,
      ih fun f hf => hform f (List.mem_cons_of_mem _ hf)]

/-- Only the keys decide whether entries ascend. -/
theorem ascending_map_values {β : Type} (f : α → β) {pairs : List (String × α)} :
    Entries.Ascending (pairs.map fun e => (e.1, f e.2)) ↔ Entries.Ascending pairs :=
  List.pairwise_map

/-- A dictionary is read just if all its values are. -/
theorem reads_dict_iff {fields : List (String × Json)} :
    c.dict.Reads (.obj fields) ↔ ∀ e ∈ fields, c.Reads e.2 := by
  have hread : c.dict.Reads (.obj fields) ↔
      ∃ pairs, c.decodeMembers (Json.rawFields fields) = some pairs := by
    show (∃ d, (c.decodeMembers (Json.rawFields fields)).map Dict.ofList = some d) ↔ _
    simp only [Option.map_eq_some_iff]
    exact ⟨fun ⟨_, pairs, h, _⟩ => ⟨pairs, h⟩, fun ⟨pairs, h⟩ => ⟨_, pairs, h, rfl⟩⟩
  simp only [hread, decodeMembers_eq_some_iff]
  clear hread
  induction fields with
  | nil => simp
  | cons f rest ih =>
    simp only [List.forall_mem_cons, List.forall₂_cons_left_iff]
    constructor
    · rintro ⟨_, e, as, ⟨-, hf⟩, has, -⟩
      exact ⟨⟨e.2, hf⟩, ih.1 ⟨as, has⟩⟩
    · rintro ⟨⟨a, ha⟩, hrest⟩
      obtain ⟨as, has⟩ := ih.2 hrest
      exact ⟨_, (f.1, a), as, ⟨rfl, ha⟩, has, rfl⟩

theorem Lawful.dict (h : c.Lawful whole) :
    c.dict.Lawful fun d => ∀ e ∈ d.entries, whole e.2 := by
  obtain ⟨form, law, -⟩ := h
  refine ⟨fun j => ∃ fields, j = .obj fields ∧ Entries.Ascending fields ∧ ∀ e ∈ fields, form e.2,
    ⟨?_, ?_, ?_, ?_, ?_, ?_⟩, ?_⟩
  · intro d
    refine ⟨_, rfl, (ascending_map_values c.encode).2 d.ascending, fun e he => ?_⟩
    obtain ⟨e', -, rfl⟩ := List.mem_map.1 he
    exact law.encode e'.2
  · intro j k hj hk
    obtain ⟨fields, rfl, hf, hv⟩ := hj
    obtain ⟨fields', rfl, hf', hv'⟩ := hk
    refine ⟨_, Json.override_obj fields fields', Json.ascending_overrideFields hf fields', ?_⟩
    intro e he
    rcases Json.mem_overrideFields hf hf' he with he | he | ⟨a, b, ha, hb, hab⟩
    · exact hv _ he
    · exact hv' _ he
    · rw [hab]
      exact law.override (hv _ ha) (hv' _ hb)
  · intro j hj
    obtain ⟨fields, rfl, hf, hv⟩ := hj
    exact Json.ordered_obj_iff.2 ⟨hf, fun e he => law.ordered (hv e he)⟩
  · intro j d hj hread
    obtain ⟨fields, rfl, hf, hv⟩ := hj
    have hread' : (c.decodeMembers (Json.rawFields fields)).map Dict.ofList = some d := hread
    obtain ⟨pairs, hpairs, rfl⟩ := Option.map_eq_some_iff.1 hread'
    have hwritten := law.map_encode_values (decodeMembers_eq_some_iff.1 hpairs) hv
    have hasc : Entries.Ascending pairs := (ascending_map_values c.encode).1 (hwritten ▸ hf)
    show Json.obj ((Dict.ofList pairs).entries.map fun e => (e.1, c.encode e.2)) = _
    rw [Dict.entries_ofList hasc, hwritten]
  · intro d
    show (c.decodeMembers (Json.rawFields (d.entries.map fun e => (e.1, c.encode e.2)))).map
      Dict.ofList = some d ↔ _
    have hiff : c.decodeMembers (Json.rawFields (d.entries.map fun e => (e.1, c.encode e.2))) =
        some d.entries ↔ ∀ e ∈ d.entries, e.1 = e.1 ∧ c.ofJson? (c.encode e.2) = some e.2 := by
      rw [decodeMembers_eq_some_iff, List.forall₂_map_left_iff, List.forall₂_same]
    constructor
    · intro hread e he
      obtain ⟨pairs, hpairs, hd⟩ := Option.map_eq_some_iff.1 hread
      have hkeys := law.map_encode_values (decodeMembers_eq_some_iff.1 hpairs) fun f hf => by
        obtain ⟨e, -, rfl⟩ := List.mem_map.1 hf
        exact law.encode e.2
      have hasc : Entries.Ascending pairs := (ascending_map_values c.encode).1
        (hkeys ▸ (ascending_map_values c.encode).2 d.ascending)
      rw [← Dict.entries_ofList hasc, hd] at hpairs
      exact (law.read_encode e.2).1 (hiff.1 hpairs e he).2
    · intro hw
      rw [hiff.2 fun e he => ⟨rfl, (law.read_encode e.2).2 (hw e he)⟩]
      exact congrArg some (Dict.ofList_entries d)
  · intro j k hj hk hrj hrk
    cases j with
    | obj fields =>
      cases k with
      | obj fields' =>
        obtain ⟨hf, hv⟩ := Json.ordered_obj_iff.1 hj
        obtain ⟨hf', hv'⟩ := Json.ordered_obj_iff.1 hk
        rw [reads_dict_iff] at hrj hrk
        rw [Json.override_obj, reads_dict_iff]
        intro e he
        rcases Json.mem_overrideFields hf hf' he with he | he | ⟨a, b, ha, hb, hab⟩
        · exact hrj _ he
        · exact hrk _ he
        · rw [hab]
          exact law.mergeable (hv _ ha) (hv' _ hb) (hrj _ ha) (hrk _ hb)
      | _ => cases hrk.choose_spec
    | _ => cases hrj.choose_spec
  · intro j hj
    obtain ⟨fields, rfl, -⟩ := hj
    rfl

/-- Where absence is null, null is read as well. -/
theorem reads_option_iff {j : Json} : c.option.Reads j ↔ j = .null ∨ c.Reads j := by
  have hsome : j ≠ .null → (c.option.Reads j ↔ c.Reads j) := by
    intro hj
    have hread : c.option.ofJson? j = (c.ofJson? j).map some := by
      cases j with
      | null => exact absurd rfl hj
      | _ => rfl
    simp [Reads, hread]
  by_cases hj : j = .null
  · subst hj
    exact iff_of_true ⟨none, rfl⟩ (.inl rfl)
  · rw [hsome hj]
    simp [hj]

/-- A codec that writes absence as null. -/
theorem Lawful.option (h : c.Lawful whole) :
    ∃ form, c.option.Law (fun o => ∀ a ∈ o, whole a) form := by
  obtain ⟨form, law, hn⟩ := h
  have hsome : ∀ {j}, form j → c.option.ofJson? j = (c.ofJson? j).map some := by
    intro j hj
    cases j with
    | null => cases hn _ hj
    | _ => rfl
  have hnull : ∀ j, Json.override .null j = .null ∨ Json.override .null j = j :=
    fun j => Json.override_eq_or .null j (.inl rfl)
  refine ⟨fun j => j = .null ∨ form j, ?_, ?_, ?_, ?_, ?_, ?_⟩
  · intro o
    cases o with
    | none => exact .inl rfl
    | some a => exact .inr (law.encode a)
  · intro j k hj hk
    rcases hj with rfl | hj
    · rcases hnull k with h | h <;> rw [h]
      · exact .inl rfl
      · exact hk
    · rcases hk with rfl | hk
      · exact .inr (by rwa [Json.override_of_isEmpty rfl])
      · exact .inr (law.override hj hk)
  · intro j hj
    rcases hj with rfl | hj
    · trivial
    · exact law.ordered hj
  · intro j o hj hread
    rcases hj with rfl | hj
    · cases hread
      rfl
    · rw [hsome hj] at hread
      obtain ⟨a, ha, rfl⟩ := Option.map_eq_some_iff.1 hread
      exact law.encode_of_read hj ha
  · intro o
    cases o with
    | none => exact iff_of_true rfl (by simp)
    | some a =>
      show c.option.ofJson? (c.encode a) = some (some a) ↔ _
      rw [hsome (law.encode a)]
      simp [law.read_encode]
  · intro j k hj hk hrj hrk
    rw [reads_option_iff] at hrj
    rcases hrj with rfl | hrj
    · rcases hnull k with h | h <;> rw [h]
      · exact reads_option_iff.2 (.inl rfl)
      · exact hrk
    · rw [reads_option_iff] at hrk
      rcases hrk with rfl | hrk
      · rw [Json.override_of_isEmpty rfl]
        exact reads_option_iff.2 (.inr hrj)
      · exact reads_option_iff.2 (.inr (law.mergeable hj hk hrj hrk))

end Containers

end Codec

end Reconciliation
