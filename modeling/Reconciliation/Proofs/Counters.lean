import Mathlib.Data.List.Nodup
import Reconciliation.Kind
import Reconciliation.Pass.Report
import Reconciliation.Proofs.Metrics

/-!
# The counters of an engine

The labels of a series take any values, and two rows of values may have the same fingerprint. An
engine uses a few rows only: the kinds, the kinds with the outcomes of a sync, and two reasons. No
two of these have the same fingerprint, so in the log of an engine every counter is right.

* `Observation.OfEngine` -- what an engine observes;
* `Metrics.nodup_labelRows` -- the fingerprints of its label values differ;
* **`Metrics.value_name_of_engine`** -- every counter shows how often its observation was made;
* `Metrics.synced`, `Metrics.objectErrors`, `Metrics.pruned`, `Metrics.statusUpdates`,
  `Metrics.reconciliations`, `Metrics.requeues` -- the counters by name.
-/

namespace Reconciliation

/-- What an engine observes: where a label names a kind or an outcome it is one, and a pass is
scheduled again for one of two reasons. -/
inductive Observation.OfEngine : Observation → Prop
  | reconciliation : OfEngine .reconciliation
  | reconciliationError : OfEngine .reconciliationError
  | duration (millis : Int) : OfEngine (.duration millis)
  | synced (kind : Kind) (outcome : SyncOutcome) : OfEngine (.synced kind.name outcome.name)
  | objectError (kind : Kind) : OfEngine (.objectError kind.name)
  | pruned (kind : Kind) : OfEngine (.pruned kind.name)
  | statusUpdate : OfEngine .statusUpdate
  | awaitChange : OfEngine (.requeue "await-change")
  | errorBackoff : OfEngine (.requeue "error-backoff")

theorem Kind.mem_all (k : Kind) : k ∈ all := by
  rcases k with _ | _ | _ | _ | _ | _ | _ | _ | _ | _ | _ | (_ | _ | _ | _) <;> decide

/-- Every outcome of a sync. -/
def SyncOutcome.all : List SyncOutcome := [created, updated, unchanged, recreating]

theorem SyncOutcome.mem_all (outcome : SyncOutcome) : outcome ∈ all := by cases outcome <;> decide

theorem Kind.name_injective {a b : Kind} (h : a.name = b.name) : a = b := by
  rcases a with _ | _ | _ | _ | _ | _ | _ | _ | _ | _ | _ | (_ | _ | _ | _) <;>
    rcases b with _ | _ | _ | _ | _ | _ | _ | _ | _ | _ | _ | (_ | _ | _ | _) <;>
    simp_all [name]

theorem SyncOutcome.name_injective {a b : SyncOutcome} (h : a.name = b.name) : a = b := by
  cases a <;> cases b <;> simp_all [name]

@[simp] theorem Kind.name_eq_iff {a b : Kind} : a.name = b.name ↔ a = b :=
  ⟨name_injective, congrArg name⟩

@[simp] theorem SyncOutcome.name_eq_iff {a b : SyncOutcome} : a.name = b.name ↔ a = b :=
  ⟨name_injective, congrArg name⟩

namespace Metrics

/-- The label values that an engine uses. -/
def labelRows : List (List String) :=
  [[], ["await-change"], ["error-backoff"]] ++ Kind.all.map (fun kind => [kind.name]) ++
    Kind.all.flatMap fun kind => SyncOutcome.all.map fun outcome => [kind.name, outcome.name]

set_option maxRecDepth 100000 in
/-- **No two rows of label values** have the same fingerprint. -/
theorem nodup_labelRows : (labelRows.map Fingerprint.ofTexts).Nodup := by decide +kernel

variable {x : Observation} {s : Series} {m : Metrics}

theorem labels_mem_labelRows (h : x.OfEngine) (hx : seriesOf x = [s]) :
    s.labels.map (·.2) ∈ labelRows := by
  cases h with
  | duration millis =>
    have hlength := congrArg List.length hx
    simp [seriesOf] at hlength
  | synced kind outcome =>
    obtain rfl := (List.cons.inj hx).1
    refine List.mem_append_right _ (List.mem_flatMap.2 ⟨kind, kind.mem_all, ?_⟩)
    exact List.mem_map_of_mem outcome.mem_all
  | objectError kind | pruned kind =>
    obtain rfl := (List.cons.inj hx).1
    exact List.mem_append_left _ (List.mem_append_right _ (List.mem_map_of_mem kind.mem_all))
  | _ =>
    obtain rfl := (List.cons.inj hx).1
    exact List.mem_append_left _ (List.mem_append_left _ (by simp))

/-- **Every counter of an engine is right**: in a log of engines, a series that an observation
raises shows how often the observation was made. -/
theorem value_name_of_engine (hm : ∀ o ∈ m, o.OfEngine) (h : x.OfEngine) (hx : seriesOf x = [s]) :
    m.value s.name = m.count x := by
  rw [← count_flatMap_seriesOf hx]
  refine value_name_eq_count (fun t ht hcounted => ?_) fun t ht hname => ?_
  -- with the metric the label names agree; the values do by their fingerprint, or by the name
  · obtain ⟨o, ho, hto⟩ := List.mem_flatMap.1 ht
    simp only [Series.isCountedAs, Bool.and_eq_true, beq_iff_eq] at hcounted
    obtain ⟨hmetric, hkey⟩ := hcounted
    obtain ⟨hsingle, hnames, -⟩ := of_metric_eq hx hto hmetric
    have hvalues := List.inj_on_of_nodup_map nodup_labelRows
      (labels_mem_labelRows (hm o ho) hsingle) (labels_mem_labelRows h hx) hkey
    obtain ⟨metric, labels⟩ := t
    obtain ⟨metric', labels'⟩ := s
    obtain rfl : metric = metric' := hmetric
    rw [← labels.zip_unzip, ← labels'.zip_unzip, List.unzip_eq_map, List.unzip_eq_map]
    exact congrArg (Series.mk metric) (congrArg₂ List.zip hnames hvalues)
  · obtain ⟨o, -, hto⟩ := List.mem_flatMap.1 ht
    exact Series.eq_of_name (not_mem_metric hto) (not_mem_metric (hx ▸ List.mem_singleton_self s))
      (fun hmetric => (of_metric_eq hx hto hmetric).2.1) hname

/-! ## The counters by name -/

variable (m)

/-- The shown number of objects of a kind that were synced with an outcome. -/
def synced (kind : Kind) (outcome : SyncOutcome) : Nat :=
  m.value (Series.name ⟨"tempo_operator_objects_synced_total",
    [("kind", kind.name), ("outcome", outcome.name)]⟩)

/-- The shown number of objects of a kind that could not be synced or deleted. -/
def objectErrors (kind : Kind) : Nat :=
  m.value (Series.name ⟨"tempo_operator_object_errors_total", [("kind", kind.name)]⟩)

/-- The shown number of objects of a kind that were pruned. -/
def pruned (kind : Kind) : Nat :=
  m.value (Series.name ⟨"tempo_operator_objects_pruned_total", [("kind", kind.name)]⟩)

/-- The shown number of statuses that were written. -/
def statusUpdates : Nat := m.value "tempo_operator_status_updates_total"

/-- The shown number of passes. -/
def reconciliations : Nat := m.value "tempo_operator_reconciliations_total"

/-- The shown number of failed passes that were handled in a way. -/
def requeues (reason : String) : Nat :=
  m.value (Series.name ⟨"tempo_operator_requeues_total", [("reason", reason)]⟩)

end Metrics

end Reconciliation
