import Reconciliation.Pass.Engine
import Reconciliation.Store.Memory

/-!
# What the calls of the store in memory do

* `Memory.create_cases`, `Memory.update_cases`, `Memory.delete_cases` -- a write fails and changes
  nothing, or it does what it says;
* `Memory.Spares` -- an object is left alone: its entry stays, and no write to it is journaled; a
  call about another object does (`Memory.Spares.create`, `update`, `delete`);
* `Memory.deleteAll_eq` -- deleting objects one after another;
* `Engine.OnMemory` -- an engine whose store is the one in memory, whatever else its world holds;
* `run_bind`, `Pass.run_onWorld` -- what running a step comes to;
* `Keeps` -- the steps that preserve a property of the store, and how they compose.
-/

namespace Reconciliation

namespace Memory

/-! ## 1. Writes -/

/-- The store after an object was created. -/
def created (m : Memory) (o : ManagedObject) : Memory := (m.insert o).2.record .create o.identity

/-- The store after an object was updated. -/
def updated (m : Memory) (stored o : ManagedObject) : Memory :=
  { m with
    objects := m.objects.insert o.identity (m.restamp stored o)
    version := m.version + 1
    keyed := m.keyed_insert (m.identity_restamp stored o) }.record .update o.identity

/-- The store after a stored object was deleted. -/
def deleted (m : Memory) (id : ObjectIdentity) : Memory :=
  { m with objects := m.objects.erase id, keyed := m.keyed_erase id }.record .delete id

theorem get?_created (m : Memory) {o : ManagedObject} {id : ObjectIdentity} (h : o.identity = id) :
    (m.created o).objects.get? id = some (m.stamp o) := by
  subst h
  exact Dict.get?_insert_self ..

theorem get?_updated (m : Memory) (stored : ManagedObject) {o : ManagedObject}
    {id : ObjectIdentity} (h : o.identity = id) :
    (m.updated stored o).objects.get? id = some (m.restamp stored o) := by
  subst h
  exact Dict.get?_insert_self ..

theorem get?_deleted (m : Memory) (id : ObjectIdentity) :
    (m.deleted id).objects.get? id = none := Dict.get?_erase_self ..

theorem create_cases (m : Memory) (o : ManagedObject) :
    (∃ e, m.create o = (.error e, m)) ∨
      m.objects.get? o.identity = none ∧ m.create o = (.ok (m.stamp o), m.created o) := by
  unfold create
  cases m.failure? .create o.identity with
  | some e => exact .inl ⟨e, rfl⟩
  | none =>
    by_cases hc : m.objects.contains o.identity = true
    · exact .inl ⟨_, if_pos hc⟩
    · refine .inr ⟨?_, if_neg hc⟩
      simpa [Dict.contains] using hc

theorem create_eq {m : Memory} {o : ManagedObject} (hf : m.failure? .create o.identity = none)
    (hn : m.objects.get? o.identity = none) : m.create o = (.ok (m.stamp o), m.created o) := by
  unfold create
  rw [hf]
  exact if_neg (by simp [Dict.contains, hn])

theorem update_cases (m : Memory) (o : ManagedObject) :
    (∃ e, m.update o = (.error e, m)) ∨
      ∃ stored, m.objects.get? o.identity = some stored ∧
        m.update o = (.ok (m.restamp stored o), m.updated stored o) := by
  unfold update
  cases m.failure? .update o.identity with
  | some e => exact .inl ⟨e, rfl⟩
  | none =>
    cases hg : m.objects.get? o.identity with
    | none => exact .inl ⟨_, rfl⟩
    | some stored =>
      dsimp only
      cases staleVersion? stored o with
      | some v => exact .inl ⟨_, rfl⟩
      | none => exact .inr ⟨stored, rfl, rfl⟩

theorem delete_cases (m : Memory) (id : ObjectIdentity) :
    (∃ e, m.failure? .delete id = some e ∧ m.delete id = (.error e, m)) ∨
      m.failure? .delete id = none ∧
        (m.objects.get? id = none ∧ m.delete id = (.ok (), m) ∨
          (m.objects.get? id).isSome = true ∧ m.delete id = (.ok (), m.deleted id)) := by
  unfold delete
  cases m.failure? .delete id with
  | some e => exact .inl ⟨e, rfl, rfl⟩
  | none =>
    refine .inr ⟨rfl, ?_⟩
    by_cases hc : m.objects.contains id = true
    · exact .inr ⟨hc, if_pos hc⟩
    · refine .inl ⟨?_, if_neg hc⟩
      simpa [Dict.contains] using hc

theorem get_eq_ok_iff {m : Memory} {id : ObjectIdentity} {o? : Option ManagedObject} :
    m.get id = .ok o? ↔ m.failure? .get id = none ∧ m.objects.get? id = o? := by
  unfold get
  cases m.failure? .get id <;> simp

/-- An object is found under its own identity. -/
theorem identity_of_get {m : Memory} {id : ObjectIdentity} {o : ManagedObject}
    (h : m.objects.get? id = some o) : o.identity = id := m.keyed _ (Entries.mem_of_lookup h)

/-! ## 2. Objects left alone -/

/-- Between two states, an object was left alone. -/
structure Spares (id : ObjectIdentity) (m m' : Memory) : Prop where
  object : m'.objects.get? id = m.objects.get? id
  journal : ∃ writes, m'.journal = m.journal ++ writes ∧ ∀ w ∈ writes, w.identity ≠ id

namespace Spares

variable {id : ObjectIdentity}

theorem refl (m : Memory) : Spares id m m :=
  ⟨rfl, [], by simp, fun _ h => absurd h List.not_mem_nil⟩

theorem trans {m₁ m₂ m₃ : Memory} (h : Spares id m₁ m₂) (h' : Spares id m₂ m₃) :
    Spares id m₁ m₃ := by
  obtain ⟨ws, hws, hne⟩ := h.journal
  obtain ⟨ws', hws', hne'⟩ := h'.journal
  refine ⟨h'.object.trans h.object, ws ++ ws', ?_, fun w hw => ?_⟩
  · rw [hws', hws, List.append_assoc]
  · exact (List.mem_append.1 hw).elim (hne w) (hne' w)

/-- Writing another object and journaling it. -/
theorem record {m m' : Memory} {op : Operation} {other : ObjectIdentity} (h : other ≠ id)
    (ho : m'.objects.get? id = m.objects.get? id) (hj : m'.journal = m.journal) :
    Spares id m (m'.record op other) := by
  refine ⟨ho, [⟨op, other⟩], ?_, fun w hw => ?_⟩
  · show m'.journal ++ _ = _
    rw [hj]
  · rw [List.mem_singleton.1 hw]
    exact h

theorem create (m : Memory) {o : ManagedObject} (h : o.identity ≠ id) :
    Spares id m (m.create o).2 := by
  rcases m.create_cases o with ⟨e, he⟩ | ⟨-, he⟩
  · rw [he]
    exact refl m
  · rw [he]
    exact record h (by rw [insert, Dict.get?_insert, if_neg h.symm]) rfl

theorem update (m : Memory) {o : ManagedObject} (h : o.identity ≠ id) :
    Spares id m (m.update o).2 := by
  rcases m.update_cases o with ⟨e, he⟩ | ⟨stored, -, he⟩
  · rw [he]
    exact refl m
  · rw [he]
    exact record h (by rw [Dict.get?_insert, if_neg h.symm]) rfl

theorem delete (m : Memory) {other : ObjectIdentity} (h : other ≠ id) :
    Spares id m (m.delete other).2 := by
  rcases m.delete_cases other with ⟨e, -, he⟩ | ⟨-, ⟨-, he⟩ | ⟨-, he⟩⟩
  · rw [he]
    exact refl m
  · rw [he]
    exact refl m
  · rw [he]
    exact record h (by rw [Dict.get?_erase, if_neg h.symm]) rfl

end Spares

/-! ## 3. Deleting many objects -/

/-- Deletes objects one after another. -/
def deleteAll (m : Memory) (ids : List ObjectIdentity) : Memory :=
  ids.foldl (fun m id => (m.delete id).2) m

theorem keyed_eraseAll (m : Memory) (ids : List ObjectIdentity) :
    ∀ entry ∈ (m.objects.eraseAll ids).entries, entry.2.identity = entry.1 := by
  rw [Dict.entries_eraseAll]
  exact fun entry he => m.keyed entry (List.mem_filter.1 he).1

theorem delete_eq {m : Memory} {id : ObjectIdentity} (hf : m.failure? .delete id = none)
    (hs : (m.objects.get? id).isSome = true) : m.delete id = (.ok (), m.deleted id) := by
  unfold delete
  rw [hf]
  exact if_pos hs

/-- If none of the deletions fails, the store is the old one without the objects, and has a journal
entry for each. -/
theorem deleteAll_eq {m : Memory} {ids : List ObjectIdentity} (hn : ids.Nodup)
    (hf : ∀ id ∈ ids, m.failure? .delete id = none)
    (hs : ∀ id ∈ ids, (m.objects.get? id).isSome = true) :
    m.deleteAll ids =
      { m with
        objects := m.objects.eraseAll ids
        journal := m.journal ++ ids.map (⟨.delete, ·⟩)
        keyed := m.keyed_eraseAll ids } := by
  induction ids generalizing m with
  | nil => simp [deleteAll, Dict.eraseAll]
  | cons id rest ih =>
    obtain ⟨hnot, hrest⟩ := List.nodup_cons.1 hn
    have hdelete := delete_eq (hf id List.mem_cons_self) (hs id List.mem_cons_self)
    have hnext : m.deleteAll (id :: rest) = (m.deleted id).deleteAll rest := by
      show deleteAll (m.delete id).2 rest = _
      rw [hdelete]
    have hgone : ∀ j ∈ rest, ((m.deleted id).objects.get? j).isSome = true := by
      intro j hj
      have hne : j ≠ id := fun h => hnot (h ▸ hj)
      show ((m.objects.erase id).get? j).isSome = true
      rw [Dict.get?_erase_of_ne _ hne]
      exact hs j (List.mem_cons_of_mem _ hj)
    have hfails : ∀ j ∈ rest, (m.deleted id).failure? .delete j = none :=
      fun j hj => hf j (List.mem_cons_of_mem _ hj)
    rw [hnext, ih hrest hfails hgone]
    simp [deleted, record, Dict.eraseAll]

end Memory

/-! ## 4. Engines on the store in memory -/

/-- The store of the engine is the one in memory: its calls act on the part of the world that `view`
shows, and writing a status leaves that part alone. -/
structure Engine.OnMemory (e : Engine σ) (view : σ → Memory) : Prop where
  get : ∀ id w, (e.store.get id w).1 = (view w).get id ∧ view (e.store.get id w).2 = view w
  create : ∀ o w, (e.store.create o w).1 = ((view w).create o).1 ∧
    view (e.store.create o w).2 = ((view w).create o).2
  update : ∀ o w, (e.store.update o w).1 = ((view w).update o).1 ∧
    view (e.store.update o w).2 = ((view w).update o).2
  delete : ∀ id w, (e.store.delete id w).1 = ((view w).delete id).1 ∧
    view (e.store.delete id w).2 = ((view w).delete id).2
  list : ∀ kind namespace? selector w,
    (e.store.list kind namespace? selector w).1 = (view w).list kind namespace? selector ∧
      view (e.store.list kind namespace? selector w).2 = view w
  status : ∀ target status w, view (e.status target status w).2 = view w

/-- The engine whose world is a store in memory and nothing else: statuses are not kept, and no pass
is cancelled. -/
def Engine.overMemory (registry : Registry π) (settings : Settings) : Engine Memory π where
  store := Memory.store
  status _ _ m := (.ok (), m)
  cancelled _ := false
  registry
  settings

theorem Engine.onMemory_overMemory (registry : Registry) (settings : Settings) :
    (overMemory registry settings).OnMemory id where
  get _ _ := ⟨rfl, rfl⟩
  create _ _ := ⟨rfl, rfl⟩
  update _ _ := ⟨rfl, rfl⟩
  delete _ _ := ⟨rfl, rfl⟩
  list _ _ _ _ := ⟨rfl, rfl⟩
  status _ _ _ := rfl

/-! ## 5. Running steps -/

theorem run_bind {τ : Type} (act : StateM τ α) (next : α → StateM τ β) (s : τ) :
    (act >>= next) s = next (act s).1 (act s).2 := rfl

theorem Pass.run_onWorld (act : StateM σ α) (r : Run σ) :
    Pass.onWorld act r = ((act r.world).1, { r with world := (act r.world).2 }) := rfl

/-! ## 6. Steps that preserve a property of the store -/

/-- If the property holds of the store before the step, it holds afterwards. -/
def Keeps {τ : Type} (view : τ → Memory) (P : Memory → Prop) (act : StateM τ α) : Prop :=
  ∀ s, P (view s) → P (view (act s).2)

namespace Keeps

variable {τ : Type} {view : τ → Memory} {P : Memory → Prop}

theorem pure (a : α) : Keeps view P (Pure.pure a : StateM τ α) := fun _ h => h

theorem bind {act : StateM τ α} {next : α → StateM τ β} (h : Keeps view P act)
    (hnext : ∀ a, Keeps view P (next a)) : Keeps view P (act >>= next) :=
  fun s hs => hnext _ _ (h s hs)

/-- A call that leaves the store alone keeps every property of it. -/
theorem of_view_eq {act : StateM τ α} (h : ∀ s, view (act s).2 = view s) : Keeps view P act := by
  intro s hs
  rw [h]
  exact hs

end Keeps

/-- The steps of a pass that preserve a property of the store in its world. -/
abbrev Pass.Keeps (view : σ → Memory) (P : Memory → Prop) (act : Pass σ α) : Prop :=
  Reconciliation.Keeps (fun r : Run σ => view r.world) P act

theorem Keeps.observe {view : σ → Memory} {P : Memory → Prop} (o : Observation) :
    Pass.Keeps view P (Pass.observe o) := fun _ h => h

theorem Keeps.onWorld {view : σ → Memory} {P : Memory → Prop} {act : StateM σ α}
    (h : Keeps view P act) : Pass.Keeps view P (Pass.onWorld act) := fun r hr => h r.world hr

end Reconciliation
