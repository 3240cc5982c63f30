import Mathlib.Data.List.Induction
import Reconciliation.Metrics

/-!
# What counters show

A log of observations is summed up series by series, under names that are texts, with series told
apart by fingerprints of their labels. A series that neither a fingerprint nor a name confuses with
another comes through all this unharmed: it shows how often it was raised.

* `Metrics.value` -- what is shown under a name;
* `Metrics.Series.name_eq_iff` -- a name without braces belongs to one series at most;
* `Metrics.readLabel_value`, `Metrics.Series.eq_of_name` -- what is written of a label value can be
  read again, so that names tell series with labels apart;
* `Metrics.rows_raise`, `Metrics.rows_foldl_raise` -- what one more raise, and what a whole list of
  raises does to the row of a series that is counted apart;
* **`Metrics.value_name_eq_count`**, **`Metrics.value_eq_count`** -- a series shows how often it was
  raised, if it is counted apart under a name of its own, which every counter without labels is;
* `Metrics.failures`, **`Metrics.failures_eq_count`** -- the counter of failed passes.
-/

namespace Reconciliation.Metrics

/-- What is shown under a name; what was never raised counts as zero. -/
def value (m : Metrics) (name : String) : Nat := (m.series.get? name).getD 0

/-! ## 1. Names -/

/-- Only labels bring braces into a name. -/
theorem Series.name_eq_iff {name : String} (h : '\x7b' ∉ name.toList) {s : Series} :
    s.name = name ↔ s = ⟨name, []⟩ := by
  obtain ⟨metric, labels⟩ := s
  cases labels with
  | nil => simp [Series.name]
  | cons label rest =>
    simp only [Series.mk.injEq, reduceCtorEq, and_false, iff_false]
    rintro rfl
    apply h
    simp [Series.name]

/-- A character as it is written in a label value. -/
def escaped (c : Char) : List Char :=
  if c = '\\' then ['\\', '\\'] else if c = '\n' then ['\\', 'n'] else if c = '"' then ['\\', '"']
  else [c]

theorem toList_labelText (value : String) :
    (labelText value).toList = '"' :: (value.toList.flatMap escaped ++ ['"']) := by
  have hfold : ∀ (cs : List Char) (acc : String),
      (cs.foldl (fun acc c => acc ++
        (if c = '\\' then "\\\\" else if c = '\n' then "\\n" else if c = '"' then "\\\""
          else String.singleton c)) acc).toList = acc.toList ++ cs.flatMap escaped := by
    intro cs
    induction cs with
    | nil => simp
    | cons c rest ih =>
      intro acc
      rw [List.foldl_cons, ih, List.flatMap_cons, String.toList_append, List.append_assoc]
      congr 2
      unfold escaped
      split_ifs <;> simp
  unfold labelText
  rw [String.foldl_eq_foldl_toList, String.toList_append, hfold]
  simp

/-- Reads a label value up to its closing quote, and leaves what comes after the quote. -/
def readLabel : List Char → List Char × List Char
  | '\\' :: c :: rest =>
    let read := readLabel rest
    ((if c = 'n' then '\n' else c) :: read.1, read.2)
  | '"' :: rest => ([], rest)
  | c :: rest =>
    let read := readLabel rest
    (c :: read.1, read.2)
  | [] => ([], [])

theorem readLabel_escaped_append (c : Char) (rest : List Char) :
    readLabel (escaped c ++ rest) = (c :: (readLabel rest).1, (readLabel rest).2) := by
  unfold escaped
  split_ifs with hback hfeed hquote
  · subst hback
    rfl
  · subst hfeed
    rfl
  · subst hquote
    rfl
  · rw [List.singleton_append, readLabel]
    · exact fun _ _ hc => absurd hc hback
    · exact hquote

/-- What is written of a value is read again. -/
theorem readLabel_value (cs rest : List Char) :
    readLabel (cs.flatMap escaped ++ '"' :: rest) = (cs, rest) := by
  induction cs with
  | nil => rfl
  | cons c cs ih => rw [List.flatMap_cons, List.append_assoc, readLabel_escaped_append, ih]

/-- The characters of labels, as they stand between braces. -/
def labelsText : List (String × String) → List Char
  | [] => []
  | (name, value) :: rest =>
    name.toList ++ '=' :: '"' :: (value.toList.flatMap escaped ++ '"' ::
      (if rest.isEmpty then [] else ',' :: labelsText rest))

theorem toList_intercalate_labels (labels : List (String × String)) :
    (",".intercalate (labels.map fun l => l.1 ++ "=" ++ labelText l.2)).toList =
      labelsText labels := by
  rw [String.toList_intercalate, List.map_map]
  induction labels with
  | nil => rfl
  | cons l rest ih =>
    cases rest with
    | nil => simp [labelsText, toList_labelText]
    | cons l' rest =>
      rw [List.map_cons, List.map_cons, List.intercalate_cons_cons, ← List.map_cons, ih]
      simp [labelsText, toList_labelText]

theorem eq_of_labelsText {labels labels' : List (String × String)}
    (hnames : labels.map (·.1) = labels'.map (·.1)) (h : labelsText labels = labelsText labels') :
    labels = labels' := by
  induction labels generalizing labels' with
  | nil => simpa using hnames.symm
  | cons l rest ih =>
    obtain _ | ⟨l', rest'⟩ := labels'
    · cases hnames
    · obtain ⟨name, value⟩ := l
      obtain ⟨name', value'⟩ := l'
      obtain ⟨hname, hrest⟩ := List.cons.inj hnames
      obtain rfl : name = name' := hname
      have hquoted := List.append_cancel_left h
      have hread := congrArg readLabel (List.cons.inj (List.cons.inj hquoted).2).2
      rw [readLabel_value, readLabel_value] at hread
      obtain ⟨hvalue, hafter⟩ := Prod.mk.inj hread
      obtain rfl : value = value' := String.toList_inj.1 hvalue
      cases rest with
      | nil => rw [← List.map_eq_nil_iff.1 hrest.symm]
      | cons l rest =>
        obtain _ | ⟨l', rest'⟩ := rest'
        · cases hrest
        · rw [ih hrest (List.cons.inj hafter).2]

theorem Series.toList_name (s : Series) :
    s.name.toList = s.metric.toList ++
      if s.labels.isEmpty then [] else '\x7b' :: (labelsText s.labels ++ ['\x7d']) := by
  unfold name
  split
  · rw [List.append_nil]
  · rw [String.toList_append, String.toList_append, String.toList_append,
      toList_intercalate_labels]
    simp

/-- **Series are told apart by their names**, if there are no braces in their metrics, and a metric
has the same label names in both. -/
theorem Series.eq_of_name {s t : Series} (hs : '\x7b' ∉ s.metric.toList)
    (ht : '\x7b' ∉ t.metric.toList)
    (hlabels : s.metric = t.metric → s.labels.map (·.1) = t.labels.map (·.1))
    (h : s.name = t.name) : s = t := by
  have hmetric : ∀ u : Series, '\x7b' ∉ u.metric.toList →
      u.name.toList.takeWhile (· ≠ '\x7b') = u.metric.toList := by
    intro u hu
    have hall : ∀ c ∈ u.metric.toList, decide (c ≠ '\x7b') = true := fun c hc =>
      decide_eq_true fun hb => hu (hb ▸ hc)
    rw [u.toList_name, List.takeWhile_append_of_pos hall]
    split <;> simp
  have hsame : s.metric = t.metric :=
    String.toList_inj.1 (by rw [← hmetric s hs, h, hmetric t ht])
  obtain ⟨metric, labels⟩ := s
  obtain ⟨metric', labels'⟩ := t
  obtain rfl : metric = metric' := hsame
  have hlabels : labels.map (·.1) = labels'.map (·.1) := hlabels rfl
  have hafter := congrArg String.toList h
  rw [toList_name, toList_name] at hafter
  have hafter := List.append_cancel_left hafter
  suffices labels = labels' by rw [this]
  cases labels with
  | nil => exact (List.map_eq_nil_iff.1 hlabels.symm).symm
  | cons l rest =>
    obtain _ | ⟨l', rest'⟩ := labels'
    · cases hlabels
    · exact eq_of_labelsText hlabels (List.append_cancel_right (List.cons.inj hafter).2)

/-! ## 2. Rows -/

/-- The rows of a series, of which there should be one at most. -/
def rows (s : Series) (counts : List (Series × Nat)) : List (Series × Nat) :=
  counts.filter (·.1 = s)

theorem mem_raise {s : Series} {counts : List (Series × Nat)} {row : Series × Nat}
    (h : row ∈ raise s counts) : row.1 = s ∨ ∃ row' ∈ counts, row'.1 = row.1 := by
  induction counts with
  | nil =>
    obtain rfl := List.mem_singleton.1 h
    exact .inl rfl
  | cons first rest ih =>
    obtain ⟨t, n⟩ := first
    unfold raise at h
    split at h
    · rcases List.mem_cons.1 h with rfl | h
      · exact .inr ⟨(t, n), List.mem_cons_self, rfl⟩
      · exact .inr ⟨row, List.mem_cons_of_mem _ h, rfl⟩
    · rcases List.mem_cons.1 h with rfl | h
      · exact .inr ⟨(t, n), List.mem_cons_self, rfl⟩
      · exact (ih h).imp_right fun ⟨row', hmem, hr⟩ => ⟨row', List.mem_cons_of_mem _ hmem, hr⟩

/-- Rows belong to series that were raised. -/
theorem mem_foldl_raise {raised : List Series} {row : Series × Nat}
    (h : row ∈ raised.foldl (fun counts s => raise s counts) []) : row.1 ∈ raised := by
  induction raised using List.reverseRecOn generalizing row with
  | nil => cases h
  | append_singleton raised s ih =>
    rw [List.foldl_append, List.foldl_cons, List.foldl_nil] at h
    rcases mem_raise h with hs | ⟨row', hmem, hs⟩
    · exact List.mem_append_right _ (hs ▸ List.mem_cons_self)
    · exact List.mem_append_left _ (hs ▸ ih hmem)

theorem Series.isCountedAs_self (s : Series) : s.isCountedAs s = true := by simp [isCountedAs]

theorem Series.isCountedAs_comm (s t : Series) : s.isCountedAs t = t.isCountedAs s := by
  unfold isCountedAs
  rw [BEq.comm, BEq.comm (a := s.key)]

/-- Raising a series that is counted apart leaves the rows of a series alone. -/
theorem rows_raise_of_apart {s t : Series} (h : t.isCountedAs s = false)
    (counts : List (Series × Nat)) : rows s (raise t counts) = rows s counts := by
  have hne : ∀ u : Series, u.isCountedAs t = true → u ≠ s := by
    rintro u hu rfl
    rw [Series.isCountedAs_comm, h] at hu
    cases hu
  unfold rows
  induction counts with
  | nil => exact List.filter_cons_of_neg (by simpa using hne t t.isCountedAs_self)
  | cons first rest ih =>
    obtain ⟨u, n⟩ := first
    unfold raise
    split
    · rename_i hu
      rw [List.filter_cons_of_neg (by simpa using hne u hu),
        List.filter_cons_of_neg (by simpa using hne u hu)]
    · rw [List.filter_cons, List.filter_cons, ih]

/-- Raising a series raises its row, if no other row counts as the series. -/
theorem rows_raise {s : Series} {counts : List (Series × Nat)}
    (h : ∀ row ∈ counts, row.1.isCountedAs s = true → row.1 = s) :
    rows s (raise s counts) = raise s (rows s counts) := by
  unfold rows
  induction counts with
  | nil => exact List.filter_cons_of_pos (by simp)
  | cons first rest ih =>
    obtain ⟨u, n⟩ := first
    have hrest := ih fun row hrow => h row (List.mem_cons_of_mem _ hrow)
    by_cases hu : u = s
    · subst hu
      simp [raise, u.isCountedAs_self]
    · have hcounted : u.isCountedAs s = false :=
        Bool.eq_false_iff.2 fun hc => hu (h (u, n) List.mem_cons_self hc)
      simpa [raise, hcounted, List.filter_cons, hu] using hrest

/-- **A series that is counted apart** from all others has one row, which counts how often it was
raised. -/
theorem rows_foldl_raise {s : Series} {raised : List Series}
    (h : ∀ t ∈ raised, t.isCountedAs s = true → t = s) :
    rows s (raised.foldl (fun counts t => raise t counts) []) =
      if raised.count s = 0 then [] else [(s, raised.count s)] := by
  induction raised using List.reverseRecOn with
  | nil => rfl
  | append_singleton raised t ih =>
    have ih := ih fun u hu => h u (List.mem_append_left _ hu)
    rw [List.foldl_append, List.foldl_cons, List.foldl_nil, List.count_append]
    by_cases ht : t = s
    · subst ht
      rw [rows_raise fun row hrow => h _ (List.mem_append_left _ (mem_foldl_raise hrow)), ih]
      split
      · rename_i hzero
        simp [raise, hzero]
      · simp [raise, Series.isCountedAs_self]
    · have hapart : t.isCountedAs s = false := Bool.eq_false_iff.2 fun hc =>
        ht (h t (List.mem_append_right _ List.mem_cons_self) hc)
      have hcount : [t].count s = 0 := List.count_eq_zero.2 (by simpa using fun hs => ht hs.symm)
      rw [rows_raise_of_apart hapart, ih, hcount, Nat.add_zero]

/-! ## 3. Counters -/

/-- **What is shown of a series** that is counted apart from all others, under a name of its own:
how often it was raised. -/
theorem value_name_eq_count {s : Series} {m : Metrics}
    (hcounted : ∀ t ∈ m.flatMap seriesOf, t.isCountedAs s = true → t = s)
    (hname : ∀ t ∈ m.flatMap seriesOf, t.name = s.name → t = s) :
    m.value s.name = (m.flatMap seriesOf).count s := by
  have hrows := rows_foldl_raise hcounted
  -- the last row of the name is shown, and no other series has the name
  have hnamed : ∀ row ∈ (m.flatMap seriesOf).foldl (fun counts t => raise t counts) [],
      ((fun named : String × Nat => decide (named.1 = s.name)) ∘ fun row : Series × Nat =>
        (row.1.name, row.2)) row = decide (row.1 = s) := fun row hrow =>
    decide_eq_decide.2 ⟨hname row.1 (mem_foldl_raise hrow), congrArg Series.name⟩
  unfold value series Dict.ofList
  rw [Dict.get?_insertAll, List.filter_map, List.filter_congr hnamed]
  show (Option.or (Option.map Prod.snd (List.map _ (rows s _)).getLast?) none).getD 0 = _
  rw [hrows]
  split
  · rename_i hzero
    rw [hzero]
    rfl
  · rfl

/-- What the duration histogram raises. -/
theorem metric_of_duration {millis : Int} {s : Series} (h : s ∈ seriesOf (.duration millis)) :
    s.metric = durationMetric ++ "_bucket" ∨ s.metric = durationMetric ++ "_count" := by
  rcases List.mem_append.1 h with hbucket | hcount
  · obtain ⟨bound, -, rfl⟩ := List.mem_map.1 hbucket
    exact .inl rfl
  · obtain rfl := List.mem_singleton.1 hcount
    exact .inr rfl

section Single

variable {x o : Observation} {s t : Series}

/-- There are no braces in metrics. -/
theorem not_mem_metric (h : s ∈ seriesOf o) : '\x7b' ∉ s.metric.toList := by
  cases o with
  | duration millis =>
    rcases metric_of_duration h with hm | hm <;> rw [hm] <;> decide
  | _ =>
    obtain rfl := List.mem_singleton.1 h
    dsimp only
    decide

/-- Whatever raises the metric of a single series is the same sort of observation: it raises a
single series, with the same label names, and it is the same observation if that is the same
series. -/
theorem of_metric_eq (hx : seriesOf x = [s]) (ht : t ∈ seriesOf o) (hm : t.metric = s.metric) :
    seriesOf o = [t] ∧ t.labels.map (·.1) = s.labels.map (·.1) ∧ (t = s → o = x) := by
  cases x with
  | duration millis =>
    have hlength := congrArg List.length hx
    simp [seriesOf] at hlength
  | _ =>
    obtain rfl := (List.cons.inj hx).1
    cases o with
    | duration millis =>
      rcases metric_of_duration ht with h | h <;> simp [durationMetric, h] at hm
    | _ => simp_all [seriesOf]

/-- A series that an observation raises alone is raised as often as that observation is made. -/
theorem count_flatMap_seriesOf (hx : seriesOf x = [s]) (m : Metrics) :
    (m.flatMap seriesOf).count s = m.count x := by
  induction m with
  | nil => rfl
  | cons o rest ih =>
    rw [List.flatMap_cons, List.count_append, ih, List.count_cons, Nat.add_comm]
    by_cases ho : o = x
    · subst ho
      simp [hx]
    · have hcount : (seriesOf o).count s = 0 :=
        List.count_eq_zero.2 fun hs => ho ((of_metric_eq hx hs rfl).2.2 rfl)
      rw [hcount, if_neg (by simpa using ho)]

end Single

/-- **A counter without labels shows how often it was raised**, whatever else has been counted. -/
theorem value_eq_count {metric : String} (hname : '\x7b' ∉ metric.toList) {x : Observation}
    (hx : seriesOf x = [⟨metric, []⟩]) (m : Metrics) : m.value metric = m.count x := by
  have hown : ∀ t ∈ m.flatMap seriesOf, t.metric = metric → t = ⟨metric, []⟩ := by
    intro t ht hm
    obtain ⟨o, -, ho⟩ := List.mem_flatMap.1 ht
    have hlabels := (of_metric_eq hx ho hm).2.1
    obtain ⟨_, _⟩ := t
    obtain rfl := hm
    obtain rfl := List.map_eq_nil_iff.1 hlabels
    rfl
  rw [← count_flatMap_seriesOf hx]
  refine value_name_eq_count (s := ⟨metric, []⟩) (fun t ht hc => hown t ht ?_)
    fun t _ hn => (Series.name_eq_iff hname).1 hn
  simp only [Series.isCountedAs, Bool.and_eq_true, beq_iff_eq] at hc
  exact hc.1

/-- The number of failed passes that is shown. -/
def failures (m : Metrics) : Nat := m.value "tempo_operator_reconciliation_errors_total"

/-- **The counter of failed passes** shows how often a failure was noted. -/
theorem failures_eq_count (m : Metrics) : m.failures = m.count .reconciliationError :=
  value_eq_count (by decide) rfl m

end Reconciliation.Metrics
