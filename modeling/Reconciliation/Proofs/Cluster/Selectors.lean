import Reconciliation.Owner
import Reconciliation.Proofs.Cluster.Server
import Reconciliation.Proofs.Pass.Prune

/-!
# Two ways to select by labels

The store in memory asks a selector whether it selects the labels of an object. A cluster is sent
the selector as a query, and it is the server that takes the query apart and compares the pairs. A
key or a value with a comma or an equals sign would be taken apart at the wrong place; where there
is none, both ways select the same objects.

* `LabelSelector.meets` -- whether labels meet a query;
* `LabelSelector.meets_toQuery` -- they meet that of a selector just if it selects them;
* `LabelSelector.toQuery_inj` -- selectors with the same query are the same;
* `Owner.not_selects_both` -- no labels belong to two owners;
* **`LabelSelector.query_agrees`** -- the three together.
-/

namespace Reconciliation

namespace LabelSelector

variable {s t : LabelSelector}

instance : Decidable s.IsPlain :=
  inferInstanceAs (Decidable (∀ e ∈ s.required.entries,
    (',' ∉ e.1.toList ∧ '=' ∉ e.1.toList) ∧ ',' ∉ e.2.toList ∧ '=' ∉ e.2.toList))

/-- Whether labels meet a query: every pair that it asks for is among them. An empty query asks for
nothing, and a query that cannot be taken apart is met by no labels. -/
def meets (query : String) (labels : Option (Dict String String)) : Bool :=
  (ofQuery? query).any fun pairs => pairs.all fun e => labels.bind (·.get? e.1) == some e.2

theorem meets_toQuery (h : s.IsPlain) (labels : Option (Dict String String)) :
    meets s.toQuery labels = s.selects labels := by
  unfold meets
  rw [ofQuery?_toQuery h]
  rfl

/-- **A query says which selector it was written for.** -/
theorem toQuery_inj (hs : s.IsPlain) (ht : t.IsPlain) : s.toQuery = t.toQuery ↔ s = t := by
  constructor
  · intro hquery
    have hpairs : some s.required.entries = some t.required.entries := by
      rw [← ofQuery?_toQuery hs, hquery, ofQuery?_toQuery ht]
    have hrequired : s.required = t.required := Dict.ext (Option.some.inj hpairs)
    cases s
    cases t
    cases hrequired
    rfl
  · rintro rfl
    rfl

/-- With a comma in a value, two selectors share a query. -/
example : toQuery ⟨.ofList [("a", "b,c=d")]⟩ = toQuery ⟨.ofList [("a", "b"), ("c", "d")]⟩ := by
  decide +kernel

end LabelSelector

/-- The application name tells the kinds of owners apart. -/
theorem OwnerKind.application_inj {a b : OwnerKind} : a.application = b.application ↔ a = b := by
  cases a <;> cases b <;> decide

/-- **No labels belong to two owners**: those of an owner name its kind and its name. -/
theorem Owner.not_selects_both {a b : Owner} (h : a.kind ≠ b.kind ∨ a.name ≠ b.name)
    (labels : Option (Dict String String)) :
    ¬(a.selector.selects labels = true ∧ b.selector.selects labels = true) := by
  rintro ⟨ha, hb⟩
  obtain ⟨happlication, howner, -⟩ := LabelSelector.selects_forOwner_iff.1 ha
  obtain ⟨happlication', howner', -⟩ := LabelSelector.selects_forOwner_iff.1 hb
  have hkind : a.kind = b.kind :=
    OwnerKind.application_inj.1 (Option.some.inj (happlication.symm.trans happlication'))
  have hname : a.name = b.name := Option.some.inj (howner.symm.trans howner')
  exact h.elim (· hkind) (· hname)

namespace LabelSelector

/-- **Both ways to select agree.** Let no key and no value of the selectors hold a comma or an equals
sign. Then labels meet the query of a selector just if it selects them, whatever the labels are, and
if there are none; selectors with the same query are the same; and no labels are selected for two
owners that have names and differ in kind or name. -/
theorem query_agrees :
    (∀ s : LabelSelector, s.IsPlain → ∀ labels, meets s.toQuery labels = s.selects labels) ∧
      (∀ s t : LabelSelector, s.IsPlain → t.IsPlain → s.toQuery = t.toQuery → s = t) ∧
      ∀ (a b : Owner) (n n' : String), a.metadata.name = some n → b.metadata.name = some n' →
        a.kind ≠ b.kind ∨ n ≠ n' → ∀ labels,
          ¬(a.selector.selects labels = true ∧ b.selector.selects labels = true) := by
  refine ⟨fun s hs labels => meets_toQuery hs labels, fun s t hs ht => (toQuery_inj hs ht).1,
    fun a b n n' ha hb hdiffer => Owner.not_selects_both ?_⟩
  unfold Owner.name
  rwa [ha, hb]

/-- A monolithic instance with a name. -/
def monolithNamed (name : String) : Owner :=
  ⟨{ ObjectMeta.empty with name := some name }, .monolithic ⟨.managed, none⟩, none⟩

/-- A stack with a name. -/
def stackNamed (name : String) : Owner :=
  ⟨{ ObjectMeta.empty with name := some name },
    .stack ⟨.managed, ⟨⟨"s3", "s3"⟩⟩, none, none, none⟩, none⟩

/-- A stack and an instance that share a name have different queries, and the labels of a component
of the stack meet only that of the stack. -/
theorem query_agrees_simplest :
    let stack := stackNamed "simplest"
    let monolith := monolithNamed "simplest"
    let labels := some (componentLabels "tempo" "simplest" "ingester")
    stack.selector.IsPlain ∧ monolith.selector.IsPlain ∧ stack.kind ≠ monolith.kind ∧
      meets stack.selector.toQuery labels = true ∧
      meets monolith.selector.toQuery labels = false ∧
      stack.selector.toQuery ≠ monolith.selector.toQuery := by
  intro stack monolith labels
  obtain ⟨hmeets, hinjective, hdisjoint⟩ := query_agrees
  have hstack : stack.selector.IsPlain := by decide +kernel
  have hmonolith : monolith.selector.IsPlain := by decide +kernel
  have hkinds : stack.kind ≠ monolith.kind := by decide
  have hselects : stack.selector.selects labels = true := by decide +kernel
  have hnot : monolith.selector.selects labels = false := by
    rw [Bool.eq_false_iff]
    exact fun h => hdisjoint stack monolith "simplest" "simplest" rfl rfl (.inl hkinds) labels
      ⟨hselects, h⟩
  refine ⟨hstack, hmonolith, hkinds, ?_, ?_, fun hquery => ?_⟩
  · rw [hmeets _ hstack, hselects]
  · rw [hmeets _ hmonolith, hnot]
  · rw [hinjective _ _ hstack hmonolith hquery, hnot] at hselects
    cases hselects

end LabelSelector

end Reconciliation
