/-!
# Ordered dictionaries

Labels, annotations, configuration data, the object table of a store: all are maps whose keys are
visited in ascending order. This module holds

* `find?_of_nodup_map` -- among items whose keys differ, each is found by its own key;
* `Entries` -- the operations on a bare list of key/value pairs; `insert` walks the list once, so
  the lookup laws (`Entries.lookup_insert_self`, `Entries.lookup_insertAll`) hold of every list;
* `Dict κ α` -- such a list together with the proof that its keys ascend; two dictionaries with the
  same lookups are equal (`Dict.ext_get?`).
-/

namespace Reconciliation

/-! ## 1. Entry lists -/

/-- Among items with different keys, an item is found by its key. -/
theorem find?_of_nodup_map {α β : Type} [BEq β] [LawfulBEq β] {key : α → β} {items : List α}
    {item : α} (hn : (items.map key).Nodup) (h : item ∈ items) :
    (items.find? fun other => key other == key item) = some item := by
  induction items with
  | nil => cases h
  | cons first rest ih =>
    obtain ⟨hnot, hrest⟩ := List.nodup_cons.1 hn
    rcases List.mem_cons.1 h with rfl | h
    · exact List.find?_cons_of_pos (beq_self_eq_true _)
    · rw [List.find?_cons_of_neg]
      · exact ih hrest h
      · rw [beq_iff_eq]
        exact fun heq => hnot (List.mem_map.2 ⟨item, h, heq.symm⟩)

namespace Entries

variable {κ : Type} {α : Type} [Ord κ]

/-- The value of the first entry with the given key. -/
def lookup (k : κ) : List (κ × α) → Option α
  | [] => none
  | (k', v) :: rest => if compare k k' = .eq then some v else lookup k rest

/-- Puts an entry before the first greater key; an entry with an equal key is replaced. -/
def insert (k : κ) (v : α) : List (κ × α) → List (κ × α)
  | [] => [(k, v)]
  | (k', v') :: rest =>
    match compare k k' with
    | .lt => (k, v) :: (k', v') :: rest
    | .eq => (k, v) :: rest
    | .gt => (k', v') :: insert k v rest

/-- Drops every entry with the given key. -/
def erase (k : κ) (entries : List (κ × α)) : List (κ × α) :=
  entries.filter fun e => compare k e.1 != .eq

/-- Inserts the pairs one after another, so that of equal keys the last one stays. -/
def insertAll (pairs entries : List (κ × α)) : List (κ × α) :=
  pairs.foldl (fun acc e => insert e.1 e.2 acc) entries

/-- The keys ascend strictly. -/
def Ascending (entries : List (κ × α)) : Prop :=
  entries.Pairwise fun a b => compare a.1 b.1 = .lt

instance (entries : List (κ × α)) : Decidable (Ascending entries) :=
  inferInstanceAs (Decidable (List.Pairwise _ _))

@[simp] theorem lookup_nil (k : κ) : lookup k ([] : List (κ × α)) = none := rfl

@[simp] theorem ascending_nil : Ascending ([] : List (κ × α)) := List.Pairwise.nil

theorem mem_insert {k : κ} {v : α} {e : κ × α} {entries : List (κ × α)} :
    e ∈ insert k v entries → e = (k, v) ∨ e ∈ entries := by
  induction entries with
  | nil => simp [insert]
  | cons e' rest ih =>
    obtain ⟨k', v'⟩ := e'
    simp only [insert]
    split <;> simp only [List.mem_cons] <;> rintro (h | h)
    · exact .inl h
    · exact .inr h
    · exact .inl h
    · exact .inr (.inr h)
    · exact .inr (.inl h)
    · exact (ih h).imp id .inr

theorem mem_insertAll {pairs : List (κ × α)} {e : κ × α} {entries : List (κ × α)}
    (h : e ∈ insertAll pairs entries) : e ∈ pairs ∨ e ∈ entries := by
  induction pairs generalizing entries with
  | nil => exact .inr h
  | cons p rest ih =>
    rcases ih h with h | h
    · exact .inl (List.mem_cons_of_mem _ h)
    · rcases mem_insert h with rfl | h
      · exact .inl List.mem_cons_self
      · exact .inr h

theorem Ascending.filter {entries : List (κ × α)} (h : Ascending entries) (p : κ → Bool) :
    Ascending (entries.filter (p ·.1)) :=
  List.Pairwise.sublist List.filter_sublist h

theorem Ascending.erase {entries : List (κ × α)} (h : Ascending entries) (k : κ) :
    Ascending (Entries.erase k entries) := h.filter fun k' => compare k k' != .eq

theorem lookup_eq_none_of_forall_lt {k : κ} {entries : List (κ × α)}
    (h : ∀ e ∈ entries, compare k e.1 = .lt) : lookup k entries = none := by
  induction entries with
  | nil => rfl
  | cons e rest ih =>
    obtain ⟨k', v'⟩ := e
    have hk : compare k k' = .lt := h _ (List.mem_cons_self)
    simp [lookup, hk, ih fun e he => h e (List.mem_cons_of_mem _ he)]

section Laws

variable [Std.LawfulEqOrd κ]

@[simp] theorem lookup_insert_self (k : κ) (v : α) (entries : List (κ × α)) :
    lookup k (insert k v entries) = some v := by
  induction entries with
  | nil => simp [insert, lookup]
  | cons e rest ih =>
    obtain ⟨k', v'⟩ := e
    simp only [insert]
    split <;> simp_all [lookup]

theorem lookup_insert_of_ne {j k : κ} (h : j ≠ k) (v : α) (entries : List (κ × α)) :
    lookup j (insert k v entries) = lookup j entries := by
  induction entries with
  | nil => simp [insert, lookup, h]
  | cons e rest ih =>
    obtain ⟨k', v'⟩ := e
    simp only [insert]
    split
    · simp [lookup, h]
    · rename_i hk
      have : k = k' := by simpa using hk
      subst this
      simp [lookup, h]
    · simp only [lookup, ih]

@[simp] theorem lookup_erase_self (k : κ) (entries : List (κ × α)) :
    lookup k (erase k entries) = none := by
  induction entries with
  | nil => rfl
  | cons e rest ih =>
    obtain ⟨k', v'⟩ := e
    by_cases h : k = k'
    · simpa [erase, h] using ih
    · simpa [erase, lookup, h] using ih

theorem lookup_erase_of_ne {j k : κ} (h : j ≠ k) (entries : List (κ × α)) :
    lookup j (erase k entries) = lookup j entries := by
  induction entries with
  | nil => rfl
  | cons e rest ih =>
    obtain ⟨k', v'⟩ := e
    by_cases hk : k = k'
    · subst hk; simpa [erase, lookup, h] using ih
    · by_cases hj : j = k'
      · simp [erase, lookup, hk, hj]
      · simpa [erase, lookup, hk, hj] using ih

theorem mem_of_lookup {k : κ} {v : α} {entries : List (κ × α)} (h : lookup k entries = some v) :
    (k, v) ∈ entries := by
  induction entries with
  | nil => cases h
  | cons e rest ih =>
    obtain ⟨k', v'⟩ := e
    by_cases hk : k = k'
    · subst hk
      have hv : v' = v := by simpa [lookup] using h
      exact hv ▸ List.mem_cons_self
    · exact List.mem_cons_of_mem _ (ih (by simpa [lookup, hk] using h))

theorem lookup_eq_none_iff {k : κ} {entries : List (κ × α)} :
    lookup k entries = none ↔ ∀ e ∈ entries, e.1 ≠ k := by
  induction entries with
  | nil => simp
  | cons e rest ih =>
    obtain ⟨k', v'⟩ := e
    by_cases hk : k = k'
    · subst hk; simp [lookup]
    · have hk' : k' ≠ k := fun h => hk h.symm
      simp [lookup, hk, hk', ih]

theorem lookup_filter (p : κ → Bool) (k : κ) (entries : List (κ × α)) :
    lookup k (entries.filter (p ·.1)) = if p k then lookup k entries else none := by
  induction entries with
  | nil => simp
  | cons e rest ih =>
    obtain ⟨k', v'⟩ := e
    by_cases hk : k = k'
    · subst hk
      by_cases hp : p k = true <;> simp_all [lookup]
    · by_cases hp : p k' = true <;> simp [lookup, hk, hp, ih]

theorem lookup_append (k : κ) (front back : List (κ × α)) :
    lookup k (front ++ back) = (lookup k front).or (lookup k back) := by
  induction front with
  | nil => simp
  | cons e rest ih =>
    obtain ⟨k', v'⟩ := e
    by_cases hk : k = k'
    · simp [lookup, hk]
    · simp [lookup, hk, ih]

theorem erase_of_lookup_eq_none {k : κ} {entries : List (κ × α)} (h : lookup k entries = none) :
    erase k entries = entries := by
  refine List.filter_eq_self.2 fun e he => ?_
  have hne : k ≠ e.1 := fun hk => lookup_eq_none_iff.1 h e he hk.symm
  simpa using hne

theorem erase_erase (k : κ) (entries : List (κ × α)) :
    erase k (erase k entries) = erase k entries :=
  erase_of_lookup_eq_none (lookup_erase_self k entries)

/-- Of pairs with distinct keys each one is found; other keys keep what they had. -/
theorem lookup_insertAll {pairs : List (κ × α)} (h : (pairs.map (·.1)).Nodup) (k : κ)
    (entries : List (κ × α)) :
    lookup k (insertAll pairs entries) = (lookup k pairs).or (lookup k entries) := by
  induction pairs generalizing entries with
  | nil => simp [insertAll]
  | cons p rest ih =>
    obtain ⟨k', v'⟩ := p
    have hstep : insertAll ((k', v') :: rest) entries = insertAll rest (insert k' v' entries) := rfl
    obtain ⟨hnot, hrest⟩ := List.nodup_cons.1 h
    rw [hstep, ih hrest]
    by_cases hk : k = k'
    · subst hk
      have hnone : lookup k rest = none := lookup_eq_none_iff.2 fun e he hek =>
        hnot (List.mem_map.2 ⟨e, he, hek⟩)
      simp [lookup, hnone]
    · simp [lookup, hk, lookup_insert_of_ne hk]

theorem insert_insert (k : κ) (v w : α) (entries : List (κ × α)) :
    insert k v (insert k w entries) = insert k v entries := by
  induction entries with
  | nil => simp [insert]
  | cons e rest ih =>
    obtain ⟨k', v'⟩ := e
    rcases hc : compare k k' with _ | _ | _ <;> simp [insert, hc, ih]

theorem Ascending.lookup_of_mem {entries : List (κ × α)} (h : Ascending entries) {e : κ × α}
    (he : e ∈ entries) : lookup e.1 entries = some e.2 := by
  induction entries with
  | nil => cases he
  | cons f rest ih =>
    obtain ⟨k', v'⟩ := f
    rcases List.mem_cons.1 he with rfl | he
    · simp [lookup]
    · have hlt : compare k' e.1 = .lt := List.rel_of_pairwise_cons h he
      have hne : e.1 ≠ k' := by
        intro heq
        rw [heq, Std.ReflOrd.compare_self] at hlt
        cases hlt
      simpa [lookup, hne] using ih (List.Pairwise.of_cons h) he

variable [Std.TransOrd κ]

omit [Std.LawfulEqOrd κ] in
theorem Ascending.nodup_keys {entries : List (κ × α)} (h : Ascending entries) :
    (entries.map (·.1)).Nodup := by
  refine List.pairwise_map.2 (List.Pairwise.imp (fun {a b} hlt heq => ?_) h)
  rw [heq, Std.ReflOrd.compare_self] at hlt
  cases hlt

theorem Ascending.insert {entries : List (κ × α)} (h : Ascending entries) (k : κ) (v : α) :
    Ascending (Entries.insert k v entries) := by
  induction entries with
  | nil => exact List.pairwise_singleton _ _
  | cons e rest ih =>
    obtain ⟨k', v'⟩ := e
    have hhead : ∀ a ∈ rest, compare k' a.1 = .lt := fun _ ha => List.rel_of_pairwise_cons h ha
    have htail : Ascending rest := List.Pairwise.of_cons h
    simp only [Entries.insert]
    split
    · rename_i hlt
      refine List.Pairwise.cons (fun a ha => ?_) h
      rcases List.mem_cons.1 ha with rfl | ha
      · exact hlt
      · exact Std.TransCmp.lt_trans hlt (hhead a ha)
    · rename_i heq
      have : k = k' := by simpa using heq
      subst this
      exact List.Pairwise.cons (fun a ha => hhead a ha) htail
    · rename_i hgt
      refine List.Pairwise.cons (fun a ha => ?_) (ih htail)
      rcases mem_insert ha with rfl | ha
      · exact Std.OrientedCmp.lt_of_gt hgt
      · exact hhead a ha

theorem Ascending.insertAll {entries : List (κ × α)} (h : Ascending entries)
    (pairs : List (κ × α)) : Ascending (Entries.insertAll pairs entries) := by
  induction pairs generalizing entries with
  | nil => exact h
  | cons p rest ih => exact ih (h.insert p.1 p.2)

omit [Std.LawfulEqOrd κ] in
/-- A key beyond all others goes to the end. -/
theorem insert_of_forall_lt {k : κ} {v : α} {entries : List (κ × α)}
    (h : ∀ e ∈ entries, compare e.1 k = .lt) :
    Entries.insert k v entries = entries ++ [(k, v)] := by
  induction entries with
  | nil => rfl
  | cons e rest ih =>
    have hgt : compare k e.1 = .gt := Std.OrientedCmp.gt_of_lt (h e List.mem_cons_self)
    simp [Entries.insert, hgt, ih fun a ha => h a (List.mem_cons_of_mem _ ha)]

omit [Std.LawfulEqOrd κ] in
theorem insertAll_of_ascending_append {pairs entries : List (κ × α)}
    (h : Ascending (entries ++ pairs)) : Entries.insertAll pairs entries = entries ++ pairs := by
  induction pairs generalizing entries with
  | nil => simp [Entries.insertAll]
  | cons p rest ih =>
    have hp : ∀ e ∈ entries, compare e.1 p.1 = .lt := fun e he =>
      (List.pairwise_append.1 h).2.2 e he p List.mem_cons_self
    have hstep : Entries.insertAll (p :: rest) entries =
        Entries.insertAll rest (Entries.insert p.1 p.2 entries) := rfl
    rw [hstep, insert_of_forall_lt hp, ih (by simpa using h)]
    simp

omit [Std.LawfulEqOrd κ] in
/-- Inserting ascending pairs one after another yields them. -/
theorem Ascending.insertAll_nil {pairs : List (κ × α)} (h : Ascending pairs) :
    Entries.insertAll pairs [] = pairs := by
  have h' : Ascending ([] ++ pairs) := by simpa using h
  simpa using insertAll_of_ascending_append h'

/-- **Ascending lists with the same lookups are the same list.** -/
theorem Ascending.ext {xs ys : List (κ × α)} (hx : Ascending xs) (hy : Ascending ys)
    (h : ∀ k, lookup k xs = lookup k ys) : xs = ys := by
  induction xs generalizing ys with
  | nil =>
    cases ys with
    | nil => rfl
    | cons e ys => have := h e.1; simp [lookup] at this
  | cons e xs ih =>
    obtain ⟨k, v⟩ := e
    cases ys with
    | nil => have := h k; simp [lookup] at this
    | cons f ys =>
      obtain ⟨l, w⟩ := f
      have hxk : ∀ a ∈ xs, compare k a.1 = .lt := fun _ ha => List.rel_of_pairwise_cons hx ha
      have hyl : ∀ a ∈ ys, compare l a.1 = .lt := fun _ ha => List.rel_of_pairwise_cons hy ha
      have key : k = l := by
        rcases hc : compare k l with _ | _ | _
        · have h1 : lookup k ((l, w) :: ys) = none :=
            lookup_eq_none_of_forall_lt fun e he => by
              rcases List.mem_cons.1 he with rfl | he
              · exact hc
              · exact Std.TransCmp.lt_trans hc (hyl _ he)
          have := h k
          rw [h1] at this
          simp [lookup] at this
        · simpa using hc
        · have hlk : compare l k = .lt := Std.OrientedCmp.lt_of_gt hc
          have h1 : lookup l ((k, v) :: xs) = none :=
            lookup_eq_none_of_forall_lt fun e he => by
              rcases List.mem_cons.1 he with rfl | he
              · exact hlk
              · exact Std.TransCmp.lt_trans hlk (hxk _ he)
          have := h l
          rw [h1] at this
          simp [lookup] at this
      subst key
      have hv : v = w := by have := h k; simpa [lookup] using this
      subst hv
      have hrest : xs = ys := by
        refine ih (List.Pairwise.of_cons hx) (List.Pairwise.of_cons hy) fun j => ?_
        by_cases hj : j = k
        · subst hj
          rw [lookup_eq_none_of_forall_lt fun e he => hxk e he,
            lookup_eq_none_of_forall_lt fun e he => hyl e he]
        · have := h j
          simpa [lookup, hj] using this
      rw [hrest]

theorem Ascending.insert_of_lookup {entries : List (κ × α)} (h : Ascending entries) {k : κ} {v : α}
    (hv : lookup k entries = some v) : Entries.insert k v entries = entries := by
  refine Ascending.ext (h.insert k v) h fun j => ?_
  by_cases hj : j = k
  · subst hj; rw [lookup_insert_self, hv]
  · exact lookup_insert_of_ne hj v entries

end Laws

end Entries

/-! ## 2. Dictionaries -/

/-- A finite map whose entries are listed in ascending key order. -/
structure Dict (κ : Type) (α : Type) [Ord κ] where
  /-- The entries, each key once. -/
  entries : List (κ × α)
  /-- The keys ascend strictly. -/
  ascending : Entries.Ascending entries

namespace Dict

variable {κ : Type} {α : Type} {β : Type} [Ord κ]

@[ext] theorem ext {a b : Dict κ α} (h : a.entries = b.entries) : a = b := by
  cases a; cases b; cases h; rfl

instance [DecidableEq κ] [DecidableEq α] : DecidableEq (Dict κ α) := fun a b =>
  decidable_of_iff (a.entries = b.entries) ⟨Dict.ext, fun h => h ▸ rfl⟩

/-- The dictionary without entries. -/
def empty : Dict κ α := ⟨[], Entries.ascending_nil⟩

instance : Inhabited (Dict κ α) := ⟨empty⟩

/-- The value stored under a key. -/
def get? (d : Dict κ α) (k : κ) : Option α := Entries.lookup k d.entries

/-- Whether a key has a value. -/
def contains (d : Dict κ α) (k : κ) : Bool := (d.get? k).isSome

/-- Whether there is no entry. -/
def isEmpty (d : Dict κ α) : Bool := d.entries.isEmpty

/-- The keys, ascending. -/
def keys (d : Dict κ α) : List κ := d.entries.map (·.1)

/-- The values in the order of their keys. -/
def values (d : Dict κ α) : List α := d.entries.map (·.2)

/-- Removes a key. -/
def erase (d : Dict κ α) (k : κ) : Dict κ α := ⟨Entries.erase k d.entries, d.ascending.erase k⟩

/-- Removes keys one after another. -/
def eraseAll (d : Dict κ α) (ks : List κ) : Dict κ α := ks.foldl erase d

section Updates

variable [Std.LawfulEqOrd κ]

/-- The keys are those under which something is found. -/
theorem mem_keys {d : Dict κ α} {k : κ} : k ∈ d.keys ↔ d.contains k = true := by
  unfold keys contains get?
  rw [List.mem_map, Option.isSome_iff_exists]
  constructor
  · rintro ⟨e, he, rfl⟩
    exact ⟨e.2, d.ascending.lookup_of_mem he⟩
  · rintro ⟨v, hv⟩
    exact ⟨_, Entries.mem_of_lookup hv, rfl⟩

@[simp] theorem get?_erase_self (d : Dict κ α) (k : κ) : (d.erase k).get? k = none :=
  Entries.lookup_erase_self k d.entries

theorem get?_erase_of_ne (d : Dict κ α) {j k : κ} (h : j ≠ k) : (d.erase k).get? j = d.get? j :=
  Entries.lookup_erase_of_ne h d.entries

theorem get?_erase [DecidableEq κ] (d : Dict κ α) (j k : κ) :
    (d.erase k).get? j = if j = k then none else d.get? j := by
  by_cases h : j = k
  · subst h; simp
  · simp only [h, if_false]
    exact d.get?_erase_of_ne h

theorem entries_eraseAll [DecidableEq κ] (d : Dict κ α) (ks : List κ) :
    (d.eraseAll ks).entries = d.entries.filter fun e => e.1 ∉ ks := by
  induction ks generalizing d with
  | nil => exact (List.filter_eq_self.2 fun e _ => by simp).symm
  | cons k rest ih =>
    have hstep : d.eraseAll (k :: rest) = (d.erase k).eraseAll rest := rfl
    rw [hstep, ih]
    show (Entries.erase k d.entries).filter _ = _
    unfold Entries.erase
    rw [List.filter_filter]
    refine List.filter_congr fun e _ => ?_
    by_cases hk : k = e.1
    · simp [hk]
    · have hk' : e.1 ≠ k := fun h => hk h.symm
      simp [hk, hk']

variable [Std.TransOrd κ]

/-- Stores a value under a key, in place of an earlier one. -/
def insert (d : Dict κ α) (k : κ) (v : α) : Dict κ α :=
  ⟨Entries.insert k v d.entries, d.ascending.insert k v⟩

/-- Stores every pair of a list, later pairs winning. -/
def insertAll (d : Dict κ α) (pairs : List (κ × α)) : Dict κ α :=
  ⟨Entries.insertAll pairs d.entries, d.ascending.insertAll pairs⟩

/-- The dictionary of a list of pairs, later pairs winning. -/
def ofList (pairs : List (κ × α)) : Dict κ α := empty.insertAll pairs

theorem entries_ofList {pairs : List (κ × α)} (h : Entries.Ascending pairs) :
    (ofList pairs).entries = pairs := h.insertAll_nil

theorem ofList_entries (d : Dict κ α) : ofList d.entries = d :=
  Dict.ext (entries_ofList d.ascending)

/-- Lays `top` on `d`: a key of `top` takes its value from there, any other key keeps its own. -/
def overlay (d top : Dict κ α) : Dict κ α := d.insertAll top.entries

@[simp] theorem get?_insert_self (d : Dict κ α) (k : κ) (v : α) :
    (d.insert k v).get? k = some v := Entries.lookup_insert_self k v d.entries

theorem get?_insert [DecidableEq κ] (d : Dict κ α) (j k : κ) (v : α) :
    (d.insert k v).get? j = if j = k then some v else d.get? j := by
  by_cases h : j = k
  · subst h; simp
  · simp only [h, if_false]
    exact Entries.lookup_insert_of_ne h v d.entries

/-- The last of the pairs with a key decides. -/
theorem get?_insertAll [DecidableEq κ] (d : Dict κ α) (pairs : List (κ × α)) (k : κ) :
    (d.insertAll pairs).get? k =
      ((pairs.filter fun e => e.1 = k).getLast?.map (·.2)).or (d.get? k) := by
  induction pairs generalizing d with
  | nil => rfl
  | cons e rest ih =>
    show ((d.insert e.1 e.2).insertAll rest).get? k = _
    rw [ih, get?_insert, List.filter_cons]
    by_cases h : e.1 = k
    · simp only [h, if_true, decide_true, List.getLast?_cons]
      cases (rest.filter fun e => e.1 = k).getLast? <;> rfl
    · have h' : ¬k = e.1 := fun hk => h hk.symm
      simp only [h, h', if_false, decide_false, Bool.false_eq_true]

theorem get?_overlay (d top : Dict κ α) (k : κ) :
    (d.overlay top).get? k = (top.get? k).or (d.get? k) :=
  Entries.lookup_insertAll top.ascending.nodup_keys k d.entries

/-- **Dictionaries with the same lookups are equal.** -/
theorem ext_get? {a b : Dict κ α} (h : ∀ k, a.get? k = b.get? k) : a = b :=
  Dict.ext (Entries.Ascending.ext a.ascending b.ascending h)

end Updates

end Dict

end Reconciliation
