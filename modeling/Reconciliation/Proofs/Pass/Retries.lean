import Reconciliation.Proofs.Pass.Reconcile

/-!
# Whose retries

An engine keeps the retries of all its owners in one table. The stages of a pass do not touch it:
a clean pass resets the entry of its owner, the decision about a failed one advances it. The entries
are told apart by the key of the owner, which is its namespace and its name, but not its kind.

* `Pass.KeepsRetries`, `Engine.keepsRetries_converge` -- the stages of a pass leave the table alone;
* `Engine.retries_reconcile`, `Engine.retry_run` -- what a pass, and the decision about a failed
  one, do to the table;
* `Forgotten` -- the table without the errors of one owner: its delays start over, those of the
  others are what they were;
* `Occurrence`, `Engine.trace` -- what happens to an engine with several owners, and its replies;
* `Engine.actions_of_key` -- the delays of a key are decided by what happens to owners with the key;
* **`Engine.actions_without_others`** -- so they are by what happens to the owner, if no owner of
  the other kind has its namespace and name;
* `Engine.actions_of_namesakes` -- two owners that do share their delays.
-/

namespace Reconciliation

/-! ## 1. Steps that leave the retries alone -/

/-- The step leaves the table of retries as it is. -/
def Pass.KeepsRetries (act : Pass σ α) : Prop := ∀ r, (act r).2.retries = r.retries

namespace Engine

variable {σ : Type} (e : Engine σ)

/-- Calls to the store and observations leave the table alone. -/
theorem respects_retries : e.Respects fun r r' => r'.retries = r.retries where
  refl _ := rfl
  trans _ _ _ h h' := h'.trans h
  observe _ _ _ := rfl
  get _ _ := rfl
  create _ _ := rfl
  update _ _ := rfl
  delete _ _ := rfl
  list _ _ _ _ := rfl

/-- **The stages of a pass** leave the retries alone. -/
theorem keepsRetries_converge (owner : Owner)
    (desired : Except ConfigurationError (List ManagedObject)) :
    (e.converge owner desired).KeepsRetries := e.respects_retries.converge owner desired

theorem keepsRetries_refreshStatus (owner : Owner) (conditions : List Condition) :
    (e.refreshStatus owner conditions).KeepsRetries := by
  intro r
  rcases e.refreshStatus_cases owner conditions r with
    ⟨-, h⟩ | ⟨-, ⟨_, _, -, h⟩ | ⟨_, -, h⟩⟩ <;> rw [h]

end Engine

/-! ## 2. What the owners do to the retries -/

theorem Run.get?_resetBackoff (r : Run σ) (key other : String) :
    (r.resetBackoff key).retries.get? other =
      if other = key then (r.retries.get? other).map (·.reset) else r.retries.get? other := by
  unfold resetBackoff
  cases hget : r.retries.get? key with
  | none =>
    dsimp only
    split
    · rename_i heq
      rw [heq, hget]
      rfl
    · rfl
  | some backoff =>
    show (r.retries.insert key backoff.reset).get? other = _
    rw [Dict.get?_insert]
    split
    · rename_i heq
      rw [heq, hget]
      rfl
    · rfl

/-- The failures under a key are forgotten: its entry, if there is one, counts no errors, and its
delays begin anew between the same bounds. The entries of other keys stay. -/
structure Forgotten (key : String) (before after : Dict String Backoff) : Prop where
  own : after.get? key = (before.get? key).map fun b =>
    ⟨⟨b.delays.least, 0, b.delays.least, b.delays.greatest⟩, 0⟩
  others : ∀ other, other ≠ key → after.get? other = before.get? other

theorem Run.forgotten_resetBackoff (r : Run σ) (key : String) :
    Forgotten key r.retries (r.resetBackoff key).retries where
  own := by
    rw [get?_resetBackoff, if_pos rfl]
    rfl
  others other hother := by rw [get?_resetBackoff, if_neg hother]

/-- The table after a pass that was clean or not. -/
def Run.retriesAfter (r : Run σ) (key : String) : (clean : Bool) → Dict String Backoff
  | true => (r.resetBackoff key).retries
  | false => r.retries

theorem Run.get?_retriesAfter (r : Run σ) (key other : String) (clean : Bool) :
    (r.retriesAfter key clean).get? other =
      if clean = true ∧ other = key then (r.retries.get? other).map (·.reset)
      else r.retries.get? other := by
  cases clean with
  | false => rw [if_neg (by simp), retriesAfter]
  | true =>
    rw [retriesAfter, get?_resetBackoff]
    simp

/-- Of the state, only the table counts. -/
theorem Run.retriesAfter_congr {r r' : Run σ} (h : r.retries = r'.retries) (key : String)
    (clean : Bool) : r.retriesAfter key clean = r'.retriesAfter key clean := by
  refine Dict.ext_get? fun other => ?_
  rw [get?_retriesAfter, get?_retriesAfter, h]

namespace Engine

variable {σ : Type} (e : Engine σ)

/-- The failures of the owner are forgotten just if the pass succeeds. -/
theorem retries_conclude (clock : Clock) (owner : Owner)
    (result : Except ReconcileError StackHealth) (r : Run σ) :
    (e.conclude clock owner result r).2.retries =
      r.retriesAfter owner.key (e.conclude clock owner result r).1.isOk := by
  cases result with
  | error cause =>
    exact e.keepsRetries_refreshStatus owner _ (Pass.observe .reconciliationError r).2
  | ok health =>
    have hkept := e.keepsRetries_refreshStatus owner
      ((PassOutcome.clean health).conditions owner.conditions clock.now) r
    rcases e.conclude_cases clock owner health r with
      ⟨cause, last, hrefreshed, h⟩ | ⟨written, last, hrefreshed, h⟩ <;>
      rw [hrefreshed] at hkept <;> rw [h]
    · exact hkept
    · exact Run.retriesAfter_congr hkept owner.key true

/-- **A pass of a managed owner** resets its entry if it succeeds, and does nothing else to the
table. -/
theorem retries_reconcile (clock : Clock) {owner : Owner}
    (h : owner.managementState ≠ .unmanaged)
    (desired : Except ConfigurationError (List ManagedObject)) (r : Run σ) :
    (e.reconcile clock owner desired r).2.retries =
      r.retriesAfter owner.key (e.reconcile clock owner desired r).1.isOk := by
  have hkept : (Pass.observe (.duration clock.elapsedMillis)
      (e.converge owner desired (Pass.observe .reconciliation r).2).2).2.retries = r.retries :=
    e.keepsRetries_converge owner desired _
  rw [e.reconcile_managed clock h, retries_conclude]
  exact Run.retriesAfter_congr hkept owner.key _

/-- What is known of the failures of an owner before it fails once more. -/
def failuresOf (owner : Owner) (retries : Dict String Backoff) : Backoff :=
  (retries.get? owner.key).getD
    (.between e.settings.backoffMinMinutes e.settings.backoffMaxMinutes)

/-- **The decision about a failed pass** takes the delay from the entry of the owner, and advances
that entry, unless the failure is terminal. -/
theorem retry_run (owner : Owner) (cause : ReconcileError) (r : Run σ) :
    (e.retry owner cause r).1 =
        (if cause.isTerminal then .awaitChange
        else .requeue (e.failuresOf owner r.retries).countError.next.1) ∧
      (e.retry owner cause r).2.retries =
        if cause.isTerminal then r.retries
        else r.retries.insert owner.key (e.failuresOf owner r.retries).countError.next.2 := by
  unfold retry
  split
  · exact ⟨rfl, rfl⟩
  · exact ⟨rfl, rfl⟩

end Engine

/-! ## 3. Several owners -/

/-- What happens to an engine: a pass of an owner, the decision about a failed pass, or anything
else in its world. -/
inductive Occurrence (σ : Type) where
  | pass (clock : Clock) (owner : Owner) (desired : Except ConfigurationError (List ManagedObject))
  | failure (owner : Owner) (cause : ReconcileError)
  | change (f : σ → σ)

/-- What the engine replies; it does not reply to changes. -/
inductive Reply where
  | passed (result : Except ReconcileError Action)
  | retried (action : Action)
  | silent

/-- The action decided upon, if the reply is about a failed pass. -/
def Reply.action? : Reply → Option Action
  | retried action => some action
  | _ => none

/-- Whether the pass was clean, if the reply is that of a pass. -/
def Reply.clean? : Reply → Option Bool
  | passed result => some result.isOk
  | _ => none

namespace Occurrence

/-- The owner on whose behalf it happens. -/
def owner? : Occurrence σ → Option Owner
  | pass _ owner _ => some owner
  | failure owner _ => some owner
  | change _ => none

/-- Whether it happens on behalf of one of some owners, or of no owner at all. -/
def isOf (p : Owner → Bool) (o : Occurrence σ) : Bool := o.owner?.all p

end Occurrence

namespace Engine

/-- The engine's reply, and the state afterwards. -/
def react (e : Engine σ) : Occurrence σ → Run σ → Reply × Run σ
  | .pass clock owner desired, r =>
    (.passed (e.reconcile clock owner desired r).1, (e.reconcile clock owner desired r).2)
  | .failure owner cause, r => (.retried (e.retry owner cause r).1, (e.retry owner cause r).2)
  | .change f, r => (.silent, { r with world := f r.world })

/-- What happens, one after another, with the replies. -/
def trace (e : Engine σ) : List (Occurrence σ) → Run σ → List (Occurrence σ × Reply)
  | [], _ => []
  | o :: rest, r => (o, (e.react o r).1) :: e.trace rest (e.react o r).2

end Engine

/-- A part of the replies that some owners get. -/
def repliesTo {α : Type} (p : Owner → Bool) (part? : Reply → Option α)
    (trace : List (Occurrence σ × Reply)) : List α :=
  (trace.filter fun entry => entry.1.isOf p).filterMap fun entry => part? entry.2

theorem repliesTo_cons {α : Type} (p : Owner → Bool) (part? : Reply → Option α)
    (o : Occurrence σ) (reply : Reply) (rest : List (Occurrence σ × Reply)) :
    repliesTo p part? ((o, reply) :: rest) =
      (bif o.isOf p then (part? reply).toList else []) ++ repliesTo p part? rest := by
  unfold repliesTo
  rw [List.filter_cons]
  dsimp only
  cases o.isOf p with
  | false => rfl
  | true =>
    rw [if_pos rfl, List.filterMap_cons]
    dsimp only
    cases part? reply <;> rfl

/-- The actions decided upon for some owners. -/
abbrev actionsOf (p : Owner → Bool) (trace : List (Occurrence σ × Reply)) : List Action :=
  repliesTo p Reply.action? trace

/-- Whether the passes of some owners were clean. -/
abbrev passesOf (p : Owner → Bool) (trace : List (Occurrence σ × Reply)) : List Bool :=
  repliesTo p Reply.clean? trace

namespace Engine

variable {σ : Type} (e : Engine σ) {p : Owner → Bool} {key : String} {r r' : Run σ}

/-- Whether the engine replies with the result of a pass is decided by what happens. -/
theorem clean?_react (o : Occurrence σ) {clean clean' : List Bool}
    (h : (e.react o r).1.clean?.toList ++ clean = (e.react o r').1.clean?.toList ++ clean') :
    (e.react o r).1.clean? = (e.react o r').1.clean? ∧ clean = clean' := by
  cases o with
  | pass clock owner desired =>
    obtain ⟨hfirst, hrest⟩ := List.cons_eq_cons.1 h
    exact ⟨congrArg some hfirst, hrest⟩
  | failure owner cause => exact ⟨rfl, h⟩
  | change f => exact ⟨rfl, h⟩

/-- What happens to others leaves the entry of a key alone. -/
theorem react_other {o : Occurrence σ} (h : ∀ owner, o.owner? = some owner → owner.key ≠ key) :
    (e.react o r).2.retries.get? key = r.retries.get? key := by
  cases o with
  | pass clock owner desired =>
    have hne := h owner rfl
    show (e.reconcile clock owner desired r).2.retries.get? key = _
    by_cases hmanaged : owner.managementState = .unmanaged
    · rw [e.reconcile_unmanaged clock hmanaged]
    · rw [e.retries_reconcile clock hmanaged, Run.get?_retriesAfter, if_neg fun h => hne h.2.symm]
  | failure owner cause =>
    have hne := h owner rfl
    show (e.retry owner cause r).2.retries.get? key = _
    rw [(e.retry_run owner cause r).2]
    split
    · rfl
    · rw [Dict.get?_insert, if_neg hne.symm]
  | change f => rfl

/-- What happens to owners with a key depends on the entry of the key, and on whether their passes
are clean. -/
theorem react_own {o : Occurrence σ} (h : ∀ owner, o.owner? = some owner → owner.key = key)
    (hr : r.retries.get? key = r'.retries.get? key)
    (hclean : (e.react o r).1.clean? = (e.react o r').1.clean?) :
    (e.react o r).1.action? = (e.react o r').1.action? ∧
      (e.react o r).2.retries.get? key = (e.react o r').2.retries.get? key := by
  cases o with
  | pass clock owner desired =>
    refine ⟨rfl, ?_⟩
    have hsame : (e.reconcile clock owner desired r).1.isOk =
        (e.reconcile clock owner desired r').1.isOk := Option.some.inj hclean
    show (e.reconcile clock owner desired r).2.retries.get? key =
      (e.reconcile clock owner desired r').2.retries.get? key
    by_cases hmanaged : owner.managementState = .unmanaged
    · rw [e.reconcile_unmanaged clock hmanaged, e.reconcile_unmanaged clock hmanaged]
      exact hr
    · rw [e.retries_reconcile clock hmanaged, e.retries_reconcile clock hmanaged, hsame,
        Run.get?_retriesAfter, Run.get?_retriesAfter, hr]
  | failure owner cause =>
    have hkey := h owner rfl
    subst hkey
    obtain ⟨haction, hretries⟩ := e.retry_run owner cause r
    obtain ⟨haction', hretries'⟩ := e.retry_run owner cause r'
    have hknown : e.failuresOf owner r.retries = e.failuresOf owner r'.retries := by
      unfold failuresOf
      rw [hr]
    constructor
    · show some (e.retry owner cause r).1 = some (e.retry owner cause r').1
      rw [haction, haction', hknown]
    · show (e.retry owner cause r).2.retries.get? _ = (e.retry owner cause r').2.retries.get? _
      rw [hretries, hretries', hknown]
      split
      · exact hr
      · rw [Dict.get?_insert_self, Dict.get?_insert_self]
  | change f => exact ⟨rfl, hr⟩

/-- **The delays of a key** are decided by what happens to owners with the key: in a run without
anything else they are the same, if the passes of these owners come out the same. -/
theorem actions_of_key {occurrences : List (Occurrence σ)}
    (hp : ∀ o ∈ occurrences, ∀ owner, o.owner? = some owner → (p owner = true ↔ owner.key = key))
    (hr : r.retries.get? key = r'.retries.get? key)
    (hpasses : passesOf p (e.trace occurrences r) =
      passesOf p (e.trace (occurrences.filter (·.isOf p)) r')) :
    actionsOf p (e.trace occurrences r) =
      actionsOf p (e.trace (occurrences.filter (·.isOf p)) r') := by
  induction occurrences generalizing r r' with
  | nil => rfl
  | cons o rest ih =>
    unfold passesOf at hpasses
    unfold actionsOf
    have hrest : ∀ o ∈ rest, ∀ owner, o.owner? = some owner → (p owner = true ↔ owner.key = key) :=
      fun o ho => hp o (List.mem_cons_of_mem _ ho)
    cases hown : o.isOf p with
    | false =>
      -- the run without the occurrence stays where it is, and so does the entry in the other run
      have hother : ∀ owner, o.owner? = some owner → owner.key ≠ key := by
        intro owner howner hkey
        have hmem := (hp o List.mem_cons_self owner howner).2 hkey
        unfold Occurrence.isOf at hown
        rw [howner, Option.all_some, hmem] at hown
        cases hown
      rw [List.filter_cons_of_neg (by simp [hown]), trace, repliesTo_cons, hown] at hpasses
      rw [List.filter_cons_of_neg (by simp [hown]), trace, repliesTo_cons, hown]
      exact ih hrest ((e.react_other hother).trans hr) hpasses
    | true =>
      have hkeys : ∀ owner, o.owner? = some owner → owner.key = key := by
        intro owner howner
        unfold Occurrence.isOf at hown
        rw [howner, Option.all_some] at hown
        exact (hp o List.mem_cons_self owner howner).1 hown
      rw [List.filter_cons_of_pos hown, trace, trace, repliesTo_cons, repliesTo_cons,
        hown] at hpasses
      rw [List.filter_cons_of_pos hown, trace, trace, repliesTo_cons, repliesTo_cons, hown]
      obtain ⟨hclean, hlater⟩ := e.clean?_react o hpasses
      obtain ⟨haction, hentry⟩ := e.react_own hkeys hr hclean
      rw [haction]
      exact congrArg _ (ih hrest hentry hlater)

end Engine

/-! ## 4. The retries of an owner -/

/-- The owner has a namespace and a name, and neither has a slash. -/
def Owner.IsNamed (o : Owner) : Prop :=
  ∃ ns name, o.metadata.namespace? = some ns ∧ o.metadata.name = some name ∧
    '/' ∉ ns.toList ∧ '/' ∉ name.toList

theorem Owner.IsNamed.key_eq {o : Owner} {ns name : String} (hns : o.metadata.namespace? = some ns)
    (hname : o.metadata.name = some name) : o.key.toList = ns.toList ++ '/' :: name.toList := by
  unfold Owner.key Owner.name
  rw [hns, hname]
  simp

/-- The key of an owner tells its namespace and its name. -/
theorem Owner.IsNamed.of_key {o o' : Owner} (h : o.IsNamed) (h' : o'.IsNamed)
    (hk : o.key = o'.key) :
    o.metadata.namespace? = o'.metadata.namespace? ∧ o.metadata.name = o'.metadata.name := by
  obtain ⟨ns, name, hns, hname, hslash, hslash'⟩ := h
  obtain ⟨ns', name', hns', hname', -, -⟩ := h'
  have hkeys := congrArg String.toList hk
  rw [key_eq hns hname, key_eq hns' hname'] at hkeys
  obtain ⟨hfirst, -, hsecond⟩ := (List.append_cons_inj_of_notMem hslash hslash').1 hkeys
  rw [hns, hname, hns', hname', String.toList_inj.1 hfirst, String.toList_inj.1 hsecond]
  exact ⟨rfl, rfl⟩

/-- Whether it is the same owner, perhaps at another time. -/
def Owner.isSame (owner other : Owner) : Bool := other.target = owner.target

theorem Owner.IsNamed.isSame_iff {owner other : Owner} (h : owner.IsNamed) (h' : other.IsNamed)
    (hkind : other.metadata.namespace? = owner.metadata.namespace? →
      other.metadata.name = owner.metadata.name → other.kind = owner.kind) :
    owner.isSame other = true ↔ other.key = owner.key := by
  unfold Owner.isSame
  rw [decide_eq_true_iff]
  constructor
  · intro htarget
    have hns : other.metadata.namespace? = owner.metadata.namespace? :=
      congrArg StatusTarget.namespace? htarget
    have hname : other.name = owner.name := congrArg StatusTarget.name htarget
    unfold Owner.key
    rw [hns, hname]
  · intro hkey
    obtain ⟨hns, hname⟩ := h'.of_key h hkey
    unfold Owner.target Owner.name
    rw [hkind hns hname, hns, hname]

/-- **The delays of an owner are its own**, if no owner of the other kind has its namespace and its
name. Let passes of named owners, decisions about failed ones, and other changes happen to an engine
in any order. Then the actions decided upon for an owner are those of the run from which everything
that happens to other owners is taken away, if the passes of the owner come out the same there. -/
theorem Engine.actions_without_others {σ : Type} (e : Engine σ) {owner : Owner}
    (hn : owner.IsNamed) {occurrences : List (Occurrence σ)}
    (hnamed : ∀ o ∈ occurrences, ∀ other, o.owner? = some other → other.IsNamed)
    (hkind : ∀ o ∈ occurrences, ∀ other, o.owner? = some other →
      other.metadata.namespace? = owner.metadata.namespace? →
      other.metadata.name = owner.metadata.name → other.kind = owner.kind) {r : Run σ}
    (hpasses : passesOf owner.isSame (e.trace occurrences r) =
      passesOf owner.isSame (e.trace (occurrences.filter (·.isOf owner.isSame)) r)) :
    actionsOf owner.isSame (e.trace occurrences r) =
      actionsOf owner.isSame (e.trace (occurrences.filter (·.isOf owner.isSame)) r) :=
  e.actions_of_key
    (fun o ho other hother => hn.isSame_iff (hnamed o ho other hother) (hkind o ho other hother))
    rfl hpasses

/-- A failure of a pass that is worth another try. -/
def ReconcileError.sample : ReconcileError := .health (.unavailable "x")

/-- An owner that runs as one, of the name of a stack. -/
def Owner.monolithic (name uid : String) : Owner :=
  { Owner.sample name uid with spec := .monolithic ⟨.managed, none⟩ }

/-- Two stacks of different names, one with a clean pass between its failures. -/
theorem Engine.actions_without_others_sample :
    let one := Owner.sample "one" "a"
    let two := Owner.sample "two" "b"
    let engine := overMemory .standard .default
    let occurrences : List (Occurrence Memory) :=
      [.failure one .sample, .failure two .sample, .failure one .sample, .failure one .sample,
        .pass ⟨⟨0, 0⟩, 0⟩ one (.ok []), .failure two .sample, .failure one .sample]
    let start := Run.start (Memory.empty ⟨0, 0⟩)
    one.IsNamed ∧ (∀ o ∈ occurrences, ∀ other, o.owner? = some other → other.IsNamed) ∧
      (∀ o ∈ occurrences, ∀ other, o.owner? = some other →
        other.metadata.namespace? = one.metadata.namespace? →
        other.metadata.name = one.metadata.name → other.kind = one.kind) ∧
      passesOf one.isSame (engine.trace occurrences start) = [true] ∧
      passesOf one.isSame (engine.trace (occurrences.filter (·.isOf one.isSame)) start) = [true] ∧
      actionsOf one.isSame (engine.trace (occurrences.filter (·.isOf one.isSame)) start) =
        [.requeue 60, .requeue 60, .requeue 120, .requeue 60] ∧
      actionsOf one.isSame (engine.trace occurrences start) =
        [.requeue 60, .requeue 60, .requeue 120, .requeue 60] := by
  intro one two engine occurrences start
  have howners : ∀ o ∈ occurrences, ∀ other, o.owner? = some other → other = one ∨ other = two := by
    intro o ho other hother
    have hmem : some other ∈ occurrences.map (·.owner?) := List.mem_map.2 ⟨o, ho, hother⟩
    simp only [occurrences, List.map_cons, List.map_nil, Occurrence.owner?, List.mem_cons,
      Option.some.injEq, List.not_mem_nil, or_false] at hmem
    tauto
  have hone : one.IsNamed := ⟨"tracing", "one", rfl, rfl, by decide, by decide⟩
  have htwo : two.IsNamed := ⟨"tracing", "two", rfl, rfl, by decide, by decide⟩
  have hnamed : ∀ o ∈ occurrences, ∀ other, o.owner? = some other → other.IsNamed := by
    intro o ho other hother
    rcases howners o ho other hother with rfl | rfl
    · exact hone
    · exact htwo
  have hkind : ∀ o ∈ occurrences, ∀ other, o.owner? = some other →
      other.metadata.namespace? = one.metadata.namespace? →
      other.metadata.name = one.metadata.name → other.kind = one.kind := by
    intro o ho other hother _ _
    rcases howners o ho other hother with rfl | rfl <;> rfl
  have hpasses : passesOf one.isSame (engine.trace occurrences start) = [true] := by decide
  have hpasses' : passesOf one.isSame
      (engine.trace (occurrences.filter (·.isOf one.isSame)) start) = [true] := by decide
  have hactions : actionsOf one.isSame
      (engine.trace (occurrences.filter (·.isOf one.isSame)) start) =
        [.requeue 60, .requeue 60, .requeue 120, .requeue 60] := by decide
  exact ⟨hone, hnamed, hkind, hpasses, hpasses', hactions,
    (engine.actions_without_others hone hnamed hkind (hpasses.trans hpasses'.symm)).trans hactions⟩

/-- A stack and a monolithic instance of the same namespace and name share their delays: after two
failures of the instance, the first failure of the stack is its third. -/
theorem Engine.actions_of_namesakes :
    let stack := Owner.sample "simplest" "a"
    let monolith := Owner.monolithic "simplest" "b"
    let engine := overMemory .standard .default
    let occurrences : List (Occurrence Memory) :=
      [.failure monolith .sample, .failure monolith .sample, .failure stack .sample]
    let start := Run.start (Memory.empty ⟨0, 0⟩)
    stack.IsNamed ∧ monolith.IsNamed ∧ stack.isSame monolith = false ∧
      passesOf stack.isSame (engine.trace occurrences start) = [] ∧
      actionsOf stack.isSame (engine.trace occurrences start) = [.requeue 120] ∧
      actionsOf stack.isSame (engine.trace (occurrences.filter (·.isOf stack.isSame)) start) =
        [.requeue 60] := by
  intro stack monolith engine occurrences start
  exact ⟨⟨"tracing", "simplest", rfl, rfl, by decide, by decide⟩,
    ⟨"tracing", "simplest", rfl, rfl, by decide, by decide⟩, by decide, by decide, by decide,
    by decide⟩

end Reconciliation
