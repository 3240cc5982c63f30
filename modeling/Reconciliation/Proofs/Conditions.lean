import Mathlib.Data.List.Induction
import Mathlib.Data.List.Nodup
import Reconciliation.Pass.Outcome
import Reconciliation.Proofs.Health

/-!
# The history of conditions

What conditions say after a history of observations can be read off the history itself: which types
there are and in which order, what was observed of each last, and when that last was a transition.
The times that observations carry play no part.

* `Sighting`, `recordAll` -- an observation made at a time, and a history folded into conditions;
* `types_updateCondition`, `mem_updateCondition` -- what one observation does;
* `latest`, `Transits`, `LastOf`, `NoneOf` -- what a history says of a type, without folding it;
* `Recorded`, `recorded_recordAll` -- the step: another observation keeps every condition recorded;
* **`recordAll_law`** -- the law of the whole history;
* `PassOutcome.conditions_again` -- and another pass of the same outcome leaves them as they are.
-/

namespace Reconciliation

/-- An observation and the time at which it is made. -/
structure Sighting where
  condition : Condition
  time : Instant

/-- The conditions after a history, each observation folded in at its time. -/
def recordAll (conditions : List Condition) (history : List Sighting) : List Condition :=
  history.foldl (fun recorded s => updateCondition recorded s.condition s.time) conditions

@[simp] theorem recordAll_nil (conditions : List Condition) :
    recordAll conditions [] = conditions := rfl

theorem recordAll_concat (conditions : List Condition) (history : List Sighting) (s : Sighting) :
    recordAll conditions (history ++ [s]) =
      updateCondition (recordAll conditions history) s.condition s.time := by
  rw [recordAll, List.foldl_append]
  rfl

/-- The types of conditions. -/
def Condition.types (conditions : List Condition) : List String := conditions.map (·.type)

/-- The types that a history observes, one for each observation. -/
def Sighting.types (history : List Sighting) : List String := history.map (·.condition.type)

/-! ## 1. One observation -/

/-- An observation changes no type; one of an unseen type is appended. -/
theorem types_updateCondition (conditions : List Condition) (observation : Condition)
    (now : Instant) :
    Condition.types (updateCondition conditions observation now) =
      if observation.type ∈ Condition.types conditions then Condition.types conditions
      else Condition.types conditions ++ [observation.type] := by
  unfold Condition.types
  induction conditions with
  | nil => rfl
  | cons current rest ih =>
    rw [updateCondition]
    by_cases h : current.type = observation.type
    · rw [if_pos h, List.map_cons, current.type_refresh, List.map_cons, ← h,
        if_pos List.mem_cons_self]
    · rw [if_neg h, List.map_cons, ih, List.map_cons]
      split
      · rw [if_pos (List.mem_cons_of_mem _ ‹_›)]
      · rw [if_neg (List.not_mem_cons_of_ne_of_not_mem (Ne.symm h) ‹_›), List.cons_append]

theorem nodup_updateCondition {conditions : List Condition}
    (h : (Condition.types conditions).Nodup) (observation : Condition) (now : Instant) :
    (Condition.types (updateCondition conditions observation now)).Nodup := by
  rw [types_updateCondition]
  split
  · exact h
  · exact List.nodup_append.2 ⟨h, List.nodup_singleton _, fun a ha b hb heq =>
      ‹observation.type ∉ _› (List.mem_singleton.1 hb ▸ heq ▸ ha)⟩

/-- A condition after an observation is of another type and stood before, or it is what became of
the condition of this type, or the type was unseen. -/
theorem mem_updateCondition {conditions : List Condition} {observation c : Condition}
    {now : Instant} (hn : (Condition.types conditions).Nodup)
    (h : c ∈ updateCondition conditions observation now) :
    (c ∈ conditions ∧ c.type ≠ observation.type) ∨
      (∃ current ∈ conditions, current.type = observation.type ∧
        c = current.refresh observation now.toText) ∨
      observation.type ∉ Condition.types conditions ∧
        c = { observation with lastTransitionTime := some now.toText } := by
  induction conditions with
  | nil => exact .inr (.inr ⟨List.not_mem_nil, List.mem_singleton.1 h⟩)
  | cons current rest ih =>
    obtain ⟨hnot, hrest⟩ := List.nodup_cons.1 hn
    rw [updateCondition] at h
    by_cases htype : current.type = observation.type
    · rw [if_pos htype] at h
      rcases List.mem_cons.1 h with rfl | hc
      · exact .inr (.inl ⟨current, List.mem_cons_self, htype, rfl⟩)
      · refine .inl ⟨List.mem_cons_of_mem _ hc, fun heq => hnot ?_⟩
        exact List.mem_map.2 ⟨c, hc, heq.trans htype.symm⟩
    · rw [if_neg htype] at h
      rcases List.mem_cons.1 h with rfl | hc
      · exact .inl ⟨List.mem_cons_self, htype⟩
      · rcases ih hrest hc with ⟨hc, hne⟩ | ⟨other, hother, heq, rfl⟩ | ⟨hunseen, rfl⟩
        · exact .inl ⟨List.mem_cons_of_mem _ hc, hne⟩
        · exact .inr (.inl ⟨other, List.mem_cons_of_mem _ hother, heq, rfl⟩)
        · refine .inr (.inr ⟨fun hmem => ?_, rfl⟩)
          rcases List.mem_cons.1 hmem with heq | hmem
          · exact htype heq.symm
          · exact hunseen hmem

/-! ## 2. What a history says -/

/-- The last observation of a history that has a property, given what was observed before it. -/
def LastOf (P : List Sighting → Sighting → Prop) (history : List Sighting) (s : Sighting) : Prop :=
  ∃ before since, history = before ++ s :: since ∧ P before s ∧
    ∀ between later rest, since = between ++ later :: rest → ¬P (before ++ s :: between) later

/-- No observation of a history has the property. -/
def NoneOf (P : List Sighting → Sighting → Prop) (history : List Sighting) : Prop :=
  ∀ before s since, history = before ++ s :: since → ¬P before s

section

variable {P : List Sighting → Sighting → Prop} {history : List Sighting} {s last : Sighting}

theorem NoneOf.nil : NoneOf P [] := fun _ _ _ h => by simp at h

/-- A list with one more entry splits at that entry or before it. -/
theorem concat_eq_split {α : Type} {l before since : List α} {a b : α}
    (h : l ++ [a] = before ++ b :: since) :
    (before = l ∧ b = a ∧ since = []) ∨
      ∃ front, since = front ++ [a] ∧ l = before ++ b :: front := by
  rcases List.eq_nil_or_concat' since with rfl | ⟨front, x, rfl⟩
  · obtain ⟨hl, ha⟩ := List.append_inj' h rfl
    exact .inl ⟨hl.symm, (List.cons.inj ha).1.symm, rfl⟩
  · rw [← List.cons_append, ← List.append_assoc] at h
    obtain ⟨hl, ha⟩ := List.append_inj' h rfl
    exact .inr ⟨front, by rw [(List.cons.inj ha).1], hl⟩

theorem NoneOf.concat (h : NoneOf P history) (hs : ¬P history s) : NoneOf P (history ++ [s]) := by
  intro before b since hsplit
  rcases concat_eq_split hsplit with ⟨rfl, rfl, -⟩ | ⟨front, -, hfront⟩
  · exact hs
  · exact h before b front hfront

theorem LastOf.self (hs : P history s) : LastOf P (history ++ [s]) s :=
  ⟨history, [], rfl, hs, fun _ _ _ h => by simp at h⟩

theorem LastOf.concat (h : LastOf P history last) (hs : ¬P history s) :
    LastOf P (history ++ [s]) last := by
  obtain ⟨before, since, rfl, hlast, hsince⟩ := h
  refine ⟨before, since ++ [s], by simp, hlast, fun between later rest hsplit => ?_⟩
  rcases concat_eq_split hsplit with ⟨rfl, rfl, -⟩ | ⟨front, -, hfront⟩
  · exact hs
  · exact hsince between later front hfront

end

/-- What was observed of a type last, or else what the initial conditions say of it. -/
def latest (initial : List Condition) (history : List Sighting) (type : String) :
    Option Condition :=
  ((history.map (·.condition)).reverse ++ initial).find? fun c => c.type = type

theorem latest_concat (initial : List Condition) (history : List Sighting) (s : Sighting)
    (type : String) :
    latest initial (history ++ [s]) type =
      if s.condition.type = type then some s.condition else latest initial history type := by
  by_cases h : s.condition.type = type <;> simp [latest, h]

/-- An observation is a transition of a type: the type is unseen, or its status or its reason was
another. -/
def Transits (initial : List Condition) (type : String) (before : List Sighting) (s : Sighting) :
    Prop :=
  s.condition.type = type ∧ ∀ c, latest initial before type = some c →
    ¬(c.status = s.condition.status ∧ c.reason = s.condition.reason)

/-! ## 3. Types -/

variable {initial : List Condition}

theorem eraseDups_concat {α : Type} [DecidableEq α] (l : List α) (a : α) :
    (l ++ [a]).eraseDups = if a ∈ l then l.eraseDups else l.eraseDups ++ [a] := by
  rw [List.eraseDups_append]
  split <;> simp [List.removeAll, List.eraseDups_cons, *]

/-- The types after a history: the initial ones, and then the new ones as they were first seen. -/
theorem types_recordAll (initial : List Condition) (history : List Sighting) :
    Condition.types (recordAll initial history) =
      Condition.types initial ++
        ((Sighting.types history).filter (· ∉ Condition.types initial)).eraseDups := by
  induction history using List.reverseRecOn with
  | nil => simp [Sighting.types]
  | append_singleton history s ih =>
    have htypes : Sighting.types (history ++ [s]) = Sighting.types history ++ [s.condition.type] :=
      List.map_append
    rw [recordAll_concat, types_updateCondition, ih, htypes, List.filter_append]
    by_cases hinitial : s.condition.type ∈ Condition.types initial
    · rw [if_pos (List.mem_append_left _ hinitial), List.filter_singleton]
      simp [hinitial]
    · rw [List.filter_singleton, decide_eq_true hinitial, cond_true, eraseDups_concat]
      by_cases hseen : s.condition.type ∈ Sighting.types history
      · simp [hinitial, hseen]
      · simp [hinitial, hseen]

theorem nodup_recordAll (hn : (Condition.types initial).Nodup) (history : List Sighting) :
    (Condition.types (recordAll initial history)).Nodup := by
  induction history using List.reverseRecOn with
  | nil => exact hn
  | append_singleton history s ih =>
    rw [recordAll_concat]
    exact nodup_updateCondition ih _ _

/-- A type is recorded if the history or the initial conditions say something of it. -/
theorem mem_types_recordAll {type : String} {history : List Sighting}
    (h : (latest initial history type).isSome = true) :
    type ∈ Condition.types (recordAll initial history) := by
  unfold latest at h
  obtain ⟨c, hc⟩ := Option.isSome_iff_exists.1 h
  have htype : c.type = type := by simpa using List.find?_some hc
  have hmem := List.mem_of_find?_eq_some hc
  rw [types_recordAll, List.mem_append, List.mem_eraseDups, List.mem_filter]
  by_cases hinitial : type ∈ Condition.types initial
  · exact .inl hinitial
  · refine .inr ⟨?_, decide_eq_true hinitial⟩
    rcases List.mem_append.1 hmem with hhistory | hc
    · obtain ⟨s, hs, rfl⟩ := List.mem_map.1 (List.mem_reverse.1 hhistory)
      exact List.mem_map.2 ⟨s, hs, htype⟩
    · exact absurd (List.mem_map.2 ⟨c, hc, htype⟩) hinitial

/-! ## 4. What conditions say -/

/-- Among conditions of different types, a condition is found by its type. -/
theorem find?_type {conditions : List Condition} {c : Condition}
    (hn : (Condition.types conditions).Nodup) (hc : c ∈ conditions) :
    (conditions.find? fun o => o.type = c.type) = some c := find?_of_nodup_map hn hc

/-- The condition says what a history says of its type. -/
structure Recorded (initial : List Condition) (history : List Sighting) (c : Condition) : Prop where
  latest : ∃ o, latest initial history c.type = some o ∧
    c.status = o.status ∧ c.reason = o.reason ∧ c.message = o.message
  transition :
    (∃ s, LastOf (Transits initial c.type) history s ∧
        c.lastTransitionTime = some s.time.toText) ∨
      NoneOf (Transits initial c.type) history ∧
        ∃ c₀ ∈ initial, c₀.type = c.type ∧ c.lastTransitionTime = c₀.lastTransitionTime

namespace Recorded

variable {history : List Sighting} {s : Sighting} {c : Condition}

/-- Before there is a history, the initial conditions speak for themselves. -/
theorem nil (hn : (Condition.types initial).Nodup) (hc : c ∈ initial) : Recorded initial [] c :=
  ⟨⟨c, find?_type hn hc, rfl, rfl, rfl⟩, .inr ⟨.nil, c, hc, rfl, rfl⟩⟩

/-- The history went on, but not with a transition of the type: the time stays. -/
theorem concat (h : Recorded initial history c) (hs : ¬Transits initial c.type history s)
    {c' : Condition} (htype : c'.type = c.type)
    (htime : c'.lastTransitionTime = c.lastTransitionTime)
    (hlatest : ∃ o, Reconciliation.latest initial (history ++ [s]) c'.type = some o ∧
      c'.status = o.status ∧ c'.reason = o.reason ∧ c'.message = o.message) :
    Recorded initial (history ++ [s]) c' := by
  refine ⟨hlatest, ?_⟩
  rw [htype, htime]
  rcases h.transition with ⟨last, hlast, hstamp⟩ | ⟨hnone, hinitial⟩
  · exact .inl ⟨last, hlast.concat hs, hstamp⟩
  · exact .inr ⟨hnone.concat hs, hinitial⟩

/-- The history went on with a transition of the type: its time is taken. -/
theorem transit (hs : Transits initial c.type history s) (hstatus : c.status = s.condition.status)
    (hreason : c.reason = s.condition.reason) (hmessage : c.message = s.condition.message)
    (htime : c.lastTransitionTime = some s.time.toText) : Recorded initial (history ++ [s]) c :=
  ⟨⟨s.condition, by rw [latest_concat, if_pos hs.1], hstatus, hreason, hmessage⟩,
    .inl ⟨s, .self hs, htime⟩⟩

end Recorded

/-- **Every condition says what the history says of its type.** -/
theorem recorded_recordAll (hn : (Condition.types initial).Nodup) (history : List Sighting) :
    ∀ c ∈ recordAll initial history, Recorded initial history c := by
  induction history using List.reverseRecOn with
  | nil => exact fun c hc => .nil hn hc
  | append_singleton history s ih =>
    intro c hc
    rw [recordAll_concat] at hc
    rcases mem_updateCondition (nodup_recordAll hn history) hc with
      ⟨hbefore, hne⟩ | ⟨current, hcurrent, htype, rfl⟩ | ⟨hunseen, rfl⟩
    · have hother := ih c hbefore
      refine hother.concat (fun h => hne h.1.symm) rfl rfl ?_
      rw [latest_concat, if_neg (Ne.symm hne)]
      exact hother.latest
    · obtain ⟨o, ho, hstatus, hreason, -⟩ := (ih current hcurrent).latest
      by_cases hsame : current.status = s.condition.status ∧ current.reason = s.condition.reason
      · -- the same observation again: only the message is new
        have hrefresh : current.refresh s.condition s.time.toText =
            { current with message := s.condition.message } := if_pos hsame
        rw [hrefresh]
        refine (ih current hcurrent).concat ?_ rfl rfl
          ⟨s.condition, by rw [latest_concat, if_pos htype.symm], hsame.1, hsame.2, rfl⟩
        exact fun h => h.2 o ho ⟨hstatus ▸ hsame.1, hreason ▸ hsame.2⟩
      · unfold Condition.refresh
        rw [if_neg hsame]
        refine .transit ⟨htype.symm, fun o' ho' h => hsame ?_⟩ rfl rfl rfl rfl
        obtain rfl : o = o' := Option.some.inj (ho.symm.trans ho')
        exact ⟨hstatus.trans h.1, hreason.trans h.2⟩
    · refine .transit ⟨rfl, fun o ho => absurd ?_ hunseen⟩ rfl rfl rfl rfl
      exact mem_types_recordAll (Option.isSome_iff_exists.2 ⟨o, ho⟩)

/-- **The history of conditions**: if the initial conditions have different types, so do those after
any history. They come in the order in which their types were first seen. Each has the status, the
reason and the message that were observed of its type last, and the time of the last observation
that added the type or changed its status or its reason. -/
theorem recordAll_law (initial : List Condition) (history : List Sighting)
    (hn : (Condition.types initial).Nodup) :
    (Condition.types (recordAll initial history)).Nodup ∧
      Condition.types (recordAll initial history) =
        Condition.types initial ++
          ((Sighting.types history).filter (· ∉ Condition.types initial)).eraseDups ∧
      ∀ c ∈ recordAll initial history,
        (∃ o, latest initial history c.type = some o ∧
          c.status = o.status ∧ c.reason = o.reason ∧ c.message = o.message) ∧
        ((∃ s, LastOf (Transits initial c.type) history s ∧
            c.lastTransitionTime = some s.time.toText) ∨
          NoneOf (Transits initial c.type) history ∧
            ∃ c₀ ∈ initial, c₀.type = c.type ∧ c.lastTransitionTime = c₀.lastTransitionTime) := by
  refine ⟨nodup_recordAll hn history, types_recordAll initial history, fun c hc => ?_⟩
  have hrecorded := recorded_recordAll hn history c hc
  exact ⟨hrecorded.latest, hrecorded.transition⟩

/-- A stack becomes ready, after it was not for a while, and stays so. The condition dates from the
third observation; the fourth only brought a message. -/
theorem recordAll_law_flips :
    let initial : List Condition := [⟨"Ready", .true, "Ready", "", none⟩]
    let history : List Sighting :=
      [⟨.observed .ready false "PendingComponents" "ingester", ⟨1, 0⟩⟩,
        ⟨.observed .degraded true "Degraded" "ingester", ⟨2, 0⟩⟩,
        ⟨.observed .ready true "Ready" "", ⟨3, 0⟩⟩,
        ⟨.observed .ready true "Ready" "3 of 3", ⟨4, 0⟩⟩]
    (Condition.types initial).Nodup ∧
      Condition.types (recordAll initial history) = ["Ready", "Degraded"] ∧
      ∃ s, LastOf (Transits initial "Ready") history s ∧ s.time.toText = Instant.toText ⟨3, 0⟩ := by
  intro initial history
  have hn : (Condition.types initial).Nodup := by decide
  obtain ⟨-, htypes, hrecorded⟩ := recordAll_law initial history hn
  refine ⟨hn, htypes.trans (by decide), ?_⟩
  have hmem : ⟨"Ready", .true, "Ready", "3 of 3", some (Instant.toText ⟨3, 0⟩)⟩ ∈
      recordAll initial history := List.mem_cons_self
  obtain ⟨-, ⟨s, hlast, htime⟩ | ⟨-, c₀, hc₀, -, htime⟩⟩ := hrecorded _ hmem
  · exact ⟨s, hlast, (Option.some.inj htime).symm⟩
  · obtain rfl := List.mem_singleton.1 hc₀
    cases htime

/-! ## 5. The same observations again -/

/-- The first condition of its type says of an observation all but the time. -/
def Shown (conditions : List Condition) (o : Condition) : Prop :=
  ∃ c, (conditions.find? fun c => c.type = o.type) = some c ∧
    c.status = o.status ∧ c.reason = o.reason ∧ c.message = o.message

/-- An observation that is shown already changes nothing. -/
theorem Shown.updateCondition_eq {conditions : List Condition} {o : Condition}
    (h : Shown conditions o) (now : Instant) : updateCondition conditions o now = conditions := by
  obtain ⟨c, hc, hstatus, hreason, hmessage⟩ := h
  induction conditions with
  | nil => cases hc
  | cons current rest ih =>
    rw [updateCondition]
    by_cases htype : current.type = o.type
    · rw [List.find?_cons, decide_eq_true htype] at hc
      obtain rfl : current = c := Option.some.inj hc
      rw [if_pos htype, Condition.refresh, if_pos ⟨hstatus, hreason⟩, ← hmessage]
    · rw [List.find?_cons_of_neg (by simpa using htype)] at hc
      rw [if_neg htype, ih hc]

theorem shown_updateCondition (conditions : List Condition) (o : Condition) (now : Instant) :
    Shown (updateCondition conditions o now) o := by
  induction conditions with
  | nil => exact ⟨_, List.find?_cons_of_pos (decide_eq_true rfl), rfl, rfl, rfl⟩
  | cons current rest ih =>
    rw [updateCondition]
    by_cases htype : current.type = o.type
    · rw [if_pos htype]
      refine ⟨_, List.find?_cons_of_pos (decide_eq_true ?_), ?_⟩
      · rw [current.type_refresh, htype]
      · unfold Condition.refresh
        split
        · exact ⟨‹current.status = _ ∧ _›.1, ‹current.status = _ ∧ _›.2, rfl⟩
        · exact ⟨rfl, rfl, rfl⟩
    · obtain ⟨c, hc, hsame⟩ := ih
      rw [if_neg htype]
      exact ⟨c, (List.find?_cons_of_neg (by simpa using htype)).trans hc, hsame⟩

/-- An observation of another type leaves one shown. -/
theorem Shown.updateCondition {conditions : List Condition} {o other : Condition}
    (h : Shown conditions o) (hne : other.type ≠ o.type) (now : Instant) :
    Shown (updateCondition conditions other now) o := by
  obtain ⟨c, hc, hsame⟩ := h
  refine ⟨c, ?_, hsame⟩
  induction conditions with
  | nil => cases hc
  | cons current rest ih =>
    rw [Reconciliation.updateCondition]
    by_cases htype : current.type = other.type
    · have hother : current.type ≠ o.type := htype ▸ hne
      rw [List.find?_cons_of_neg (by simpa using hother)] at hc
      rw [if_pos htype, List.find?_cons_of_neg]
      · exact hc
      · rw [current.type_refresh]
        simpa using hother
    · rw [if_neg htype, List.find?_cons]
      rw [List.find?_cons] at hc
      split
      · rwa [‹decide _ = true›] at hc
      · rw [‹decide _ = false›] at hc
        exact ih hc

section

variable {observations : List Condition}

theorem foldl_updateCondition_of_shown {conditions : List Condition}
    (h : ∀ o ∈ observations, Shown conditions o) (now : Instant) :
    observations.foldl (fun recorded o => updateCondition recorded o now) conditions =
      conditions := by
  induction observations with
  | nil => rfl
  | cons o rest ih =>
    obtain ⟨hfirst, hrest⟩ := List.forall_mem_cons.1 h
    rw [List.foldl_cons, hfirst.updateCondition_eq, ih hrest]

theorem Shown.foldl {conditions : List Condition} {o : Condition} (h : Shown conditions o)
    (hne : o.type ∉ Condition.types observations) (now : Instant) :
    Shown (observations.foldl (fun recorded o => Reconciliation.updateCondition recorded o now)
      conditions) o := by
  induction observations generalizing conditions with
  | nil => exact h
  | cons other rest ih =>
    obtain ⟨hother, hrest⟩ := not_or.1 (mt List.mem_cons.2 hne)
    exact ih (h.updateCondition (Ne.symm hother) now) hrest

/-- After observations of different types, each is shown. -/
theorem shown_foldl (hn : (Condition.types observations).Nodup) (conditions : List Condition)
    (now : Instant) : ∀ o ∈ observations,
      Shown (observations.foldl (fun recorded o => updateCondition recorded o now) conditions)
        o := by
  induction observations generalizing conditions with
  | nil => exact fun o ho => absurd ho List.not_mem_nil
  | cons first rest ih =>
    obtain ⟨hnot, hrest⟩ := List.nodup_cons.1 hn
    intro o ho
    rcases List.mem_cons.1 ho with rfl | ho
    · exact (shown_updateCondition conditions o now).foldl hnot now
    · exact ih hrest _ o ho

end

/-- No outcome makes two observations of one type. -/
theorem PassOutcome.nodup_observations (outcome : PassOutcome) :
    (Condition.types outcome.observations).Nodup := by
  cases outcome with
  | clean health =>
    show [health.readyCondition.type, health.degradedCondition.type].Nodup
    rw [health.type_readyCondition, health.type_degradedCondition]
    decide
  | configurationError cause => exact List.nodup_singleton _
  | failed message => exact List.nodup_singleton _

/-- **The same outcome again**, at whatever time, leaves the conditions as they are. -/
theorem PassOutcome.conditions_again (outcome : PassOutcome) (existing : List Condition)
    (now later : Instant) :
    outcome.conditions (outcome.conditions existing now) later = outcome.conditions existing now :=
  foldl_updateCondition_of_shown (shown_foldl outcome.nodup_observations existing now) later

end Reconciliation
