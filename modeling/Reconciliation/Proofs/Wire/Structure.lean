import Reconciliation.Proofs.Wire.Codec

/-!
# Lawful structures

The codec of a structure is lawful if the codecs of its members are. A structure is read member by
member into the arguments of its constructor, and written from its projections; between the two
stands the tuple of what was read so far.

* `Member.Law` -- the law of one member, which may be missing; `Codec.Lawful.optional` and
  `Codec.Lawful.required` give it from the law of the member's codec;
* `Fields.Law` -- the law of the members so far, with the tuple type `Γ`, the way `make` from the
  tuple to what is read and the way `view` from what is written to the tuple;
* **`Fields.Lawful.codec`** -- the codec is lawful once `make` and `view` undo each other.
-/

namespace Reconciliation

/-! ## 1. Members -/

namespace Member

/-- The member is read from a value, or from its absence. -/
def Reads (m : Member α) (o : Option Json) : Prop := ∃ a, m.read (o.map Json.raw) = some a

/-- What the override merge asks of a member. `form` are the values between which it moves, absence
included. -/
structure Law (m : Member α) (whole : α → Prop) (form : Option Json → Prop) : Prop where
  write : ∀ a, form (m.write a)
  override : ∀ {o p}, form o → form p → form (Json.overrideMember o p)
  ordered : ∀ {j}, form (some j) → j.Ordered
  write_of_read : ∀ {o a}, form o → m.read (o.map Json.raw) = some a → m.write a = o
  read_write : ∀ a, m.read ((m.write a).map Json.raw) = some a ↔ whole a
  mergeable : ∀ {o p}, (∀ j ∈ o, j.Ordered) → (∀ j ∈ p, j.Ordered) → m.Reads o → m.Reads p →
    m.Reads (Json.overrideMember o p)

/-- Reading a member that occurs at most once. -/
theorem readAll_toList (m : Member α) (o : Option RawJson) : m.readAll o.toList = m.read o := by
  cases o <;> rfl

/-- The law for some forms. -/
def Lawful (m : Member α) (whole : α → Prop) : Prop := ∃ form, m.Law whole form

end Member

namespace Codec.Lawful

variable {c : Codec α} {whole : α → Prop}

/-- A member that is read just if its value is null or read by a codec, and from its absence in any
case, is read after a merge. -/
theorem mergeable_member (h : c.Lawful whole) {m : Member β}
    (hm : ∀ o, m.Reads o ↔ ∀ j ∈ o, c.option.Reads j) {o p : Option Json}
    (ho : ∀ j ∈ o, j.Ordered) (hp : ∀ j ∈ p, j.Ordered) (hro : m.Reads o) (hrp : m.Reads p) :
    m.Reads (Json.overrideMember o p) := by
  obtain ⟨form, law⟩ := h.option
  rw [hm] at hro hrp ⊢
  intro j hj
  cases p with
  | none => exact hro j hj
  | some source =>
    cases o with
    | some target =>
      obtain rfl := Option.some.inj hj
      exact law.mergeable (ho _ rfl) (hp _ rfl) (hro _ rfl) (hrp _ rfl)
    | none =>
      by_cases he : source.isEmpty = true
      · simp [Json.overrideMember, he] at hj
      · have hj' : source = j := by simpa [Json.overrideMember, he] using hj
        exact hrp j (hj' ▸ rfl)

theorem reads_optional_iff (key : String) (o : Option Json) :
    (Member.optional key c).Reads o ↔ ∀ j ∈ o, c.option.Reads j := by
  cases o with
  | none => exact iff_of_true ⟨none, rfl⟩ (by simp)
  | some j =>
    simp only [Option.mem_some_iff, forall_eq']
    cases j with
    | null => exact iff_of_true ⟨none, rfl⟩ (reads_option_iff.2 (.inl rfl))
    | _ => exact Iff.rfl

theorem reads_required_iff (key : String) (zero : α) (o : Option Json) :
    (Member.required key c zero).Reads o ↔ ∀ j ∈ o, c.option.Reads j := by
  cases o with
  | none => exact iff_of_true ⟨zero, rfl⟩ (by simp)
  | some j =>
    simp only [Option.mem_some_iff, forall_eq', reads_option_iff]
    cases j with
    | null => exact iff_of_true ⟨zero, rfl⟩ (.inl rfl)
    | _ => exact (or_iff_right Json.noConfusion).symm

/-- A value that may be absent. -/
theorem optional (h : c.Lawful whole) (key : String) :
    (Member.optional key c).Lawful fun o => ∀ a ∈ o, whole a := by
  obtain ⟨form, law, hn⟩ := h
  have hread : ∀ {j}, form j →
      (Member.optional key c).read (some j.raw) = (c.ofJson? j).map some := by
    intro j hj
    cases j with
    | null => cases hn _ hj
    | _ => rfl
  refine ⟨fun o => ∀ j ∈ o, form j, ?_, ?_, ?_, ?_, ?_,
    mergeable_member ⟨form, law, hn⟩ (reads_optional_iff key)⟩
  · intro o j hj
    obtain ⟨a, -, rfl⟩ := Option.map_eq_some_iff.1 hj
    exact law.encode a
  · intro o p ho hp j hj
    cases p with
    | none => exact ho j hj
    | some source =>
      cases o with
      | some target =>
        obtain rfl := Option.some.inj hj
        exact law.override (ho _ rfl) (hp _ rfl)
      | none =>
        by_cases he : source.isEmpty = true
        · simp [Json.overrideMember, he] at hj
        · have hj' : source = j := by simpa [Json.overrideMember, he] using hj
          exact hp j (hj' ▸ rfl)
  · intro j hj
    exact law.ordered (hj j rfl)
  · intro o a ho hr
    cases o with
    | none =>
      obtain rfl : none = a := Option.some.inj hr
      rfl
    | some j =>
      rw [Option.map_some, hread (ho j rfl)] at hr
      obtain ⟨b, hb, rfl⟩ := Option.map_eq_some_iff.1 hr
      exact congrArg some (law.encode_of_read (ho j rfl) hb)
  · intro o
    cases o with
    | none => exact iff_of_true rfl (by simp)
    | some a =>
      show (Member.optional key c).read (some (c.encode a).raw) = _ ↔ _
      rw [hread (law.encode a)]
      simp [law.read_encode]

/-- A value that is always written. -/
theorem required (h : c.Lawful whole) (key : String) (zero : α) :
    (Member.required key c zero).Lawful whole := by
  obtain ⟨form, law, hn⟩ := h
  have hread : ∀ {j}, form j →
      (Member.required key c zero).read (some j.raw) = c.ofJson? j := by
    intro j hj
    cases j with
    | null => cases hn _ hj
    | _ => rfl
  refine ⟨fun o => ∃ j, o = some j ∧ form j, ?_, ?_, ?_, ?_, ?_,
    mergeable_member ⟨form, law, hn⟩ (reads_required_iff key zero)⟩
  · intro a
    exact ⟨_, rfl, law.encode a⟩
  · intro o p ho hp
    obtain ⟨j, rfl, hj⟩ := ho
    obtain ⟨k, rfl, hk⟩ := hp
    exact ⟨_, rfl, law.override hj hk⟩
  · intro j hj
    obtain ⟨k, hk, hform⟩ := hj
    obtain rfl := Option.some.inj hk
    exact law.ordered hform
  · intro o a ho hr
    obtain ⟨j, rfl, hj⟩ := ho
    rw [Option.map_some, hread hj] at hr
    exact congrArg some (law.encode_of_read hj hr)
  · intro a
    show (Member.required key c zero).read (some (c.encode a).raw) = _ ↔ _
    rw [hread (law.encode a)]
    exact law.read_encode a

end Codec.Lawful

/-! ## 2. Members in sequence -/

namespace Fields

/-- The member written under a key. -/
def written (f : Fields σ α) (s : σ) (key : String) : Option Json := Entries.lookup key (f.write s)

/-- Reads from at most one value per key. -/
def readFrom (f : Fields σ α) (env : String → Option Json) : Option α :=
  f.read fun key => ((env key).map Json.raw).toList

/-- The members are read from at most one value per key. -/
def Reads (f : Fields σ α) (env : String → Option Json) : Prop := ∃ a, f.readFrom env = some a

/-- What the override merge asks of members in sequence. An environment gives the value of each key;
`reads` says that the members read the parts of a tuple from it. -/
structure Law {Γ : Type} (f : Fields σ α) (make : Γ → α) (view : σ → Γ) (whole : σ → Prop)
    (form : (String → Option Json) → Prop) (reads : (String → Option Json) → Γ → Prop) : Prop where
  keys : ∀ s, ((f.write s).map (·.1)).Sublist f.keys
  congr : ∀ {e e'}, (∀ key ∈ f.keys, e key = e' key) → form e → form e'
  reads_congr : ∀ {e e'} {γ : Γ}, (∀ key ∈ f.keys, e key = e' key) → reads e γ → reads e' γ
  write : ∀ s, form (f.written s)
  override : ∀ {e e'}, form e → form e' →
    form fun key => Json.overrideMember (e key) (e' key)
  ordered : ∀ {e key j}, form e → key ∈ f.keys → e key = some j → j.Ordered
  read_iff : ∀ e a, f.readFrom e = some a ↔ ∃ γ, reads e γ ∧ make γ = a
  write_of_reads : ∀ {e s}, form e → reads e (view s) → ∀ key ∈ f.keys, f.written s key = e key
  reads_write : ∀ s, reads (f.written s) (view s) ↔ whole s
  mergeable : ∀ {e e' : String → Option Json}, (∀ key, ∀ j ∈ e key, j.Ordered) →
    (∀ key, ∀ j ∈ e' key, j.Ordered) → f.Reads e → f.Reads e' →
    f.Reads fun key => Json.overrideMember (e key) (e' key)

/-- The law for some forms, if no key is given twice. -/
def Lawful {Γ : Type} (f : Fields σ α) (make : Γ → α) (view : σ → Γ) (whole : σ → Prop) : Prop :=
  f.keys.Nodup → ∃ form reads, f.Law make view whole form reads

section Field

variable {Γ : Type} {f : Fields σ (α → β)} {get : σ → α} {m : Member α}

theorem written_field_self {s : σ} (h : Entries.lookup m.key (f.write s) = none) :
    (f.field get m).written s m.key = m.write (get s) := by
  unfold written field
  rw [Entries.lookup_append, h]
  cases m.write (get s) with
  | none => rfl
  | some j => simp [Entries.lookup]

theorem written_field_of_ne {s : σ} {key : String} (h : key ≠ m.key) :
    (f.field get m).written s key = f.written s key := by
  unfold written field
  rw [Entries.lookup_append]
  cases m.write (get s) with
  | none => simp
  | some j => simp [Entries.lookup, h]

theorem readFrom_field (e : String → Option Json) :
    (f.field get m).readFrom e =
      (f.readFrom e).bind fun make => (m.read ((e m.key).map Json.raw)).map make := by
  show ((f.readFrom e).bind fun make =>
    (m.readAll ((e m.key).map Json.raw).toList).bind fun a => some (make a)) = _
  rw [Member.readAll_toList]
  simp only [Option.map_eq_bind]
  rfl

/-- One more member is read. -/
theorem readFrom_field_of {e : String → Option Json} {make : α → β} {a : α}
    (hf : f.readFrom e = some make)
    (hm : m.read ((e m.key).map Json.raw) = some a) :
    (f.field get m).readFrom e = some (make a) := by
  rw [readFrom_field, hf, Option.bind_some, hm]
  rfl

theorem reads_field_iff {e : String → Option Json} :
    (f.field get m).Reads e ↔ f.Reads e ∧ m.Reads (e m.key) := by
  simp only [Reads, Member.Reads, readFrom_field, Option.bind_eq_some_iff, Option.map_eq_some_iff]
  constructor
  · rintro ⟨_, make, hmake, a, ha, -⟩
    exact ⟨⟨make, hmake⟩, a, ha⟩
  · rintro ⟨⟨make, hmake⟩, a, ha⟩
    exact ⟨_, make, hmake, a, ha, rfl⟩

end Field

theorem lookup_write_eq_none {f : Fields σ α} {s : σ} {key : String}
    (hs : ((f.write s).map (·.1)).Sublist f.keys) (h : key ∉ f.keys) :
    Entries.lookup key (f.write s) = none :=
  Entries.lookup_eq_none_iff.2 fun e he hk =>
    h (hs.subset (List.mem_map.2 ⟨e, he, hk⟩))

/-- Only members that are declared are written, in the order of their declarations. -/
def Declares (f : Fields σ α) : Prop := ∀ s, ((f.write s).map (·.1)).Sublist f.keys

theorem Declares.of (make : α) : (Fields.of make : Fields σ α).Declares :=
  fun _ => List.Sublist.refl _

theorem Declares.field {f : Fields σ (α → β)} (h : f.Declares) {get : σ → α} {m : Member α} :
    (f.field get m).Declares := by
  intro s
  show ((f.write s ++ _).map (·.1)).Sublist (f.keys ++ [m.key])
  rw [List.map_append]
  refine (h s).append ?_
  cases m.write (get s) with
  | none => exact List.nil_sublist _
  | some j => exact List.Sublist.refl _

/-- A member that was not declared before is found under its key. -/
theorem Declares.written_field {f : Fields σ (α → β)} (h : f.Declares) {get : σ → α}
    {m : Member α} (hnew : m.key ∉ f.keys) (s : σ) :
    (f.field get m).written s m.key = m.write (get s) :=
  written_field_self (lookup_write_eq_none (h s) hnew)

namespace Lawful

variable {Γ : Type}

theorem of (make : α) :
    (Fields.of make : Fields σ α).Lawful (fun _ : Unit => make) (fun _ => ()) fun _ => True := by
  intro _
  refine ⟨fun _ => True, fun _ _ => True, ?_⟩
  constructor
  case keys => exact fun _ => List.Sublist.refl _
  case read_iff =>
    intro e a
    show some make = some a ↔ _
    simp
  case ordered => exact fun _ hkey => absurd hkey List.not_mem_nil
  case write_of_reads => exact fun _ _ key hkey => absurd hkey List.not_mem_nil
  case mergeable => exact fun _ _ _ _ => ⟨make, rfl⟩
  all_goals intros; trivial

/-- One more member. -/
theorem field {f : Fields σ (α → β)} {make : Γ → α → β} {view : σ → Γ} {whole : σ → Prop}
    {m : Member α} {wholeMember : α → Prop} (h : f.Lawful make view whole)
    (hm : m.Lawful wholeMember) {get : σ → α} :
    (f.field get m).Lawful (fun γ : Γ × α => make γ.1 γ.2) (fun s => (view s, get s))
      fun s => whole s ∧ wholeMember (get s) := by
  intro hkeys
  obtain ⟨hnodup, -, hdisjoint⟩ := List.nodup_append.1 hkeys
  obtain ⟨form, reads, law⟩ := h hnodup
  obtain ⟨formMember, lawMember⟩ := hm
  have hnew : m.key ∉ f.keys := fun hk => hdisjoint _ hk _ List.mem_cons_self rfl
  have hold : ∀ s, ∀ key ∈ f.keys, (f.field get m).written s key = f.written s key :=
    fun s key hk => written_field_of_ne fun he => hnew (he ▸ hk)
  have hself : ∀ s, (f.field get m).written s m.key = m.write (get s) :=
    Declares.written_field law.keys hnew
  have hfront : ∀ {key}, key ∈ f.keys → key ∈ (f.field get m).keys :=
    fun hk => List.mem_append_left _ hk
  have hlast : m.key ∈ (f.field get m).keys := List.mem_append_right _ List.mem_cons_self
  have hsplit : ∀ {key}, key ∈ (f.field get m).keys → key ∈ f.keys ∨ key = m.key :=
    fun hk => (List.mem_append.1 hk).imp id List.mem_singleton.1
  refine ⟨fun e => form e ∧ formMember (e m.key),
    fun e γ => reads e γ.1 ∧ m.read ((e m.key).map Json.raw) = some γ.2, ?_⟩
  constructor
  case keys => exact Declares.field law.keys
  case congr =>
    intro e e' he hform
    rw [← he _ hlast]
    exact ⟨law.congr (fun key hk => he key (hfront hk)) hform.1, hform.2⟩
  case reads_congr =>
    intro e e' γ he hr
    rw [← he _ hlast]
    exact ⟨law.reads_congr (fun key hk => he key (hfront hk)) hr.1, hr.2⟩
  case write =>
    intro s
    rw [hself]
    exact ⟨law.congr (fun key hk => (hold s key hk).symm) (law.write s), lawMember.write _⟩
  case override =>
    intro e e' hform hform'
    exact ⟨law.override hform.1 hform'.1, lawMember.override hform.2 hform'.2⟩
  case ordered =>
    intro e key j hform hk hj
    rcases hsplit hk with hk | rfl
    · exact law.ordered hform.1 hk hj
    · exact lawMember.ordered (hj ▸ hform.2)
  case read_iff =>
    intro e b
    rw [readFrom_field, Option.bind_eq_some_iff]
    simp only [law.read_iff, Option.map_eq_some_iff, Prod.exists]
    constructor
    · intro hr
      obtain ⟨_, ⟨γ, hγ, rfl⟩, a, ha, rfl⟩ := hr
      exact ⟨γ, a, ⟨hγ, ha⟩, rfl⟩
    · intro hr
      obtain ⟨γ, a, ⟨hγ, ha⟩, rfl⟩ := hr
      exact ⟨_, ⟨γ, hγ, rfl⟩, a, ha, rfl⟩
  case write_of_reads =>
    intro e s hform hr key hk
    rcases hsplit hk with hk | rfl
    · rw [hold s key hk]
      exact law.write_of_reads hform.1 hr.1 key hk
    · rw [hself]
      exact lawMember.write_of_read hform.2 hr.2
  case reads_write =>
    intro s
    rw [hself, lawMember.read_write, ← law.reads_write]
    exact and_congr_left fun _ =>
      ⟨law.reads_congr fun key hk => hold s key hk, law.reads_congr fun key hk =>
        (hold s key hk).symm⟩
  case mergeable =>
    intro e e' he he' hr hr'
    rw [reads_field_iff] at hr hr' ⊢
    exact ⟨law.mergeable he he' hr.1 hr'.1,
      lawMember.mergeable (he m.key) (he' m.key) hr.2 hr'.2⟩

end Lawful

/-! ## 3. Structures -/

theorem occurrences_rawFields {fields : List (String × Json)} (h : (fields.map (·.1)).Nodup)
    (key : String) :
    RawJson.occurrences (Json.rawFields fields) key =
      ((Entries.lookup key fields).map Json.raw).toList := by
  induction fields with
  | nil => rfl
  | cons e rest ih =>
    obtain ⟨key', j⟩ := e
    obtain ⟨hnot, hrest⟩ := List.nodup_cons.1 h
    have ih := ih hrest
    unfold RawJson.occurrences at ih ⊢
    by_cases hk : key = key'
    · subst hk
      have hnone : Entries.lookup key rest = none := Entries.lookup_eq_none_iff.2 fun e he hek =>
        hnot (List.mem_map.2 ⟨e, he, hek⟩)
      rw [hnone] at ih
      simpa [Json.rawFields, Entries.lookup] using ih
    · have hk' : ¬key' = key := fun h => hk h.symm
      simpa [Json.rawFields, Entries.lookup, hk, hk'] using ih

/-- A structure is read from the lookups of its object. -/
theorem ofJson?_codec (f : Fields σ σ) {fields : List (String × Json)}
    (h : Entries.Ascending fields) :
    f.codec.ofJson? (.obj fields) = f.readFrom fun key => Entries.lookup key fields := by
  show f.read (RawJson.occurrences (Json.rawFields fields)) = _
  unfold readFrom
  congr 1
  funext key
  exact occurrences_rawFields h.nodup_keys key

/-- A structure that allows no repeated members is read from the lookups of its object, too. -/
theorem ofJson?_positional (f : Fields σ σ) {fields : List (String × Json)}
    (h : Entries.Ascending fields) :
    f.positional.ofJson? (.obj fields) = f.readFrom fun key => Entries.lookup key fields := by
  have hkeys := occurrences_rawFields h.nodup_keys
  have hsingle : (f.keys.all fun key =>
      (RawJson.occurrences (Json.rawFields fields) key).length ≤ 1) = true := by
    refine List.all_eq_true.2 fun key _ => decide_eq_true ?_
    rw [hkeys]
    cases Entries.lookup key fields <;> simp
  show (if (f.keys.all fun key =>
      (RawJson.occurrences (Json.rawFields fields) key).length ≤ 1) = true
    then f.read (RawJson.occurrences (Json.rawFields fields)) else none) = _
  rw [if_pos hsingle, ← ofJson?_codec f h]
  rfl

theorem reads_codec_iff (f : Fields σ σ) {fields : List (String × Json)}
    (h : Entries.Ascending fields) :
    f.codec.Reads (.obj fields) ↔ f.Reads fun key => Entries.lookup key fields := by
  unfold Codec.Reads Reads
  rw [ofJson?_codec f h]

theorem lookup_ofMembers {f : Fields σ α} {s : σ} (h : ((f.write s).map (·.1)).Nodup)
    (key : String) : Entries.lookup key (Entries.insertAll (f.write s) []) = f.written s key := by
  rw [Entries.lookup_insertAll h]
  simp [written]

namespace Lawful

variable {Γ : Type}

/-- **The codec of a structure is lawful** if its constructor takes the tuple of its members and
its projections give it back. -/
theorem codec {f : Fields σ σ} {make : Γ → σ} {view : σ → Γ} {whole whole' : σ → Prop}
    (h : f.Lawful make view whole) (hwhole : ∀ s, whole s ↔ whole' s)
    (hkeys : f.keys.Nodup) (hmake : ∀ s, make (view s) = s) (hview : ∀ γ, view (make γ) = γ) :
    f.codec.Lawful whole' := by
  obtain ⟨form, reads, law⟩ := h hkeys
  have hnodup : ∀ s, ((f.write s).map (·.1)).Nodup := fun s => (law.keys s).nodup hkeys
  have hasc : ∀ s, Entries.Ascending (Entries.insertAll (f.write s) []) :=
    fun s => Entries.ascending_nil.insertAll (f.write s)
  have hencode : ∀ s, f.codec.encode s = .obj (Entries.insertAll (f.write s) []) := fun _ => rfl
  have hwritten : ∀ s, (fun key => Entries.lookup key (Entries.insertAll (f.write s) [])) =
      f.written s := fun s => funext (lookup_ofMembers (hnodup s))
  have hread : ∀ e s, f.readFrom e = some s ↔ reads e (view s) := by
    intro e s
    rw [law.read_iff]
    constructor
    · intro hr
      obtain ⟨γ, hγ, rfl⟩ := hr
      rwa [hview]
    · intro hr
      exact ⟨view s, hr, hmake s⟩
  refine ⟨fun j => ∃ fields, j = .obj fields ∧ Entries.Ascending fields ∧
    (∀ key, key ∉ f.keys → Entries.lookup key fields = none) ∧
    form fun key => Entries.lookup key fields, ?_, ?_⟩
  constructor
  case refine_1.encode =>
    intro s
    refine ⟨_, hencode s, hasc s, fun key hk => ?_, ?_⟩
    · rw [lookup_ofMembers (hnodup s)]
      exact lookup_write_eq_none (law.keys s) hk
    · rw [hwritten]
      exact law.write s
  case refine_1.override =>
    intro j k hj hk
    obtain ⟨fields, rfl, hf, hkeys, hform⟩ := hj
    obtain ⟨fields', rfl, hf', hkeys', hform'⟩ := hk
    have hrule : ∀ key, Entries.lookup key (Json.overrideFields fields fields') =
        Json.overrideMember (Entries.lookup key fields) (Entries.lookup key fields') :=
      fun key => Json.lookup_overrideFields hf'.nodup_keys fields key
    refine ⟨_, Json.override_obj fields fields', Json.ascending_overrideFields hf fields',
      fun key hk => ?_, ?_⟩
    · rw [hrule, hkeys key hk, hkeys' key hk]
      rfl
    · rw [funext hrule]
      exact law.override hform hform'
  case refine_1.ordered =>
    intro j hj
    obtain ⟨fields, rfl, hf, hkeys, hform⟩ := hj
    refine Json.ordered_obj_iff.2 ⟨hf, fun e he => ?_⟩
    have hl := hf.lookup_of_mem he
    by_cases hk : e.1 ∈ f.keys
    · exact law.ordered hform hk hl
    · rw [hkeys _ hk] at hl
      cases hl
  case refine_1.encode_of_read =>
    intro j s hj hr
    obtain ⟨fields, rfl, hf, hkeys, hform⟩ := hj
    rw [ofJson?_codec f hf, hread] at hr
    rw [hencode]
    congr 1
    refine Entries.Ascending.ext (hasc s) hf fun key => ?_
    rw [lookup_ofMembers (hnodup s)]
    by_cases hk : key ∈ f.keys
    · exact law.write_of_reads hform hr key hk
    · rw [hkeys key hk]
      exact lookup_write_eq_none (law.keys s) hk
  case refine_1.read_encode =>
    intro s
    rw [hencode, ofJson?_codec f (hasc s), hwritten, hread, law.reads_write]
    exact hwhole s
  case refine_1.mergeable =>
    intro j k hj hk hrj hrk
    cases j with
    | obj fields =>
      cases k with
      | obj fields' =>
        obtain ⟨hf, hv⟩ := Json.ordered_obj_iff.1 hj
        obtain ⟨hf', hv'⟩ := Json.ordered_obj_iff.1 hk
        rw [Json.override_obj]
        rw [reads_codec_iff f hf] at hrj
        rw [reads_codec_iff f hf'] at hrk
        rw [reads_codec_iff f (Json.ascending_overrideFields hf fields'),
          funext (Json.lookup_overrideFields hf'.nodup_keys fields)]
        exact law.mergeable (fun key j hj => hv _ (Entries.mem_of_lookup hj))
          (fun key j hj => hv' _ (Entries.mem_of_lookup hj)) hrj hrk
      | _ => cases hrk.choose_spec
    | _ => cases hrj.choose_spec
  case refine_2 =>
    intro j hj
    obtain ⟨fields, rfl, -⟩ := hj
    rfl

end Lawful

end Fields

end Reconciliation
