import Mathlib.Data.Nat.Fib.Basic
import Reconciliation.Proofs.Pass.Retries

/-!
# How long retries wait

The sequence of delays keeps two numbers, the delay before and the current one, and cuts each of
them off at the greatest delay. Nothing is lost by that: the current delay is always the Fibonacci
number that is due, cut off once.

* `FibonacciBackoff.place`, `FibonacciBackoff.next_place` -- the sequence after so many delays;
* `failuresSince` -- how often owners with a key failed since their last clean pass;
* `Engine.entry_react`, `Engine.entry_after` -- one event, and then a whole run, leaves in the table
  what this number says;
* **`Engine.delays_of_run`** -- so it decides the delay, whatever happened to other owners.
-/

namespace Reconciliation

/-! ## 1. The sequence -/

namespace FibonacciBackoff

/-- The sequence after so many delays. -/
def place (least greatest n : Nat) : FibonacciBackoff where
  least
  previous := min greatest (least * Nat.fib n)
  current := min greatest (least * Nat.fib (n + 1))
  greatest

variable {least greatest : Nat}

theorem place_zero (h : least ≤ greatest) :
    place least greatest 0 = ⟨least, 0, least, greatest⟩ := by
  simp [place, h]

/-- A delay that was cut off already may be added as it stands: the sum is cut off as well. -/
theorem next_place (n : Nat) :
    (place least greatest n).next =
      (60 * min greatest (least * Nat.fib (n + 1)), place least greatest (n + 1)) := by
  have hsum : least * Nat.fib (n + 2) = least * Nat.fib n + least * Nat.fib (n + 1) := by
    rw [Nat.fib_add_two, Nat.mul_add]
  have hcut : min (min greatest (least * Nat.fib n) + min greatest (least * Nat.fib (n + 1)))
      greatest = min greatest (least * Nat.fib (n + 2)) := by omega
  simp only [next, place, hcut, Nat.mul_comm 60]

theorem reset_place (h : least ≤ greatest) (n : Nat) :
    (place least greatest n).reset = place least greatest 0 := by
  rw [place_zero h]
  rfl

/-- What is computed on the way stays within twice the greatest delay in minutes, and within the
greatest delay in seconds. -/
theorem place_le (n : Nat) :
    (place least greatest n).previous + (place least greatest n).current ≤ 2 * greatest ∧
      (place least greatest n).next.1 ≤ 60 * greatest := by
  rw [next_place]
  simp only [place]
  omega

end FibonacciBackoff

namespace Settings

variable (s : Settings)

/-- The least delay in minutes: at least one. -/
def leastDelay : Nat := max s.backoffMinMinutes 1

/-- The greatest delay in minutes: at least the least one. -/
def greatestDelay : Nat := max s.backoffMaxMinutes s.leastDelay

theorem leastDelay_le_greatestDelay : s.leastDelay ≤ s.greatestDelay := le_max_right _ _

/-- The delay in minutes that answers the `n`-th failure in a row. -/
def delay (n : Nat) : Nat := min s.greatestDelay (s.leastDelay * Nat.fib n)

theorem leastDelay_le_delay {n : Nat} (h : 0 < n) : s.leastDelay ≤ s.delay n := by
  have hfib : 0 < Nat.fib n := Nat.fib_pos.2 h
  exact le_min s.leastDelay_le_greatestDelay (Nat.le_mul_of_pos_right _ hfib)

theorem delay_mono {n n' : Nat} (h : n ≤ n') : s.delay n ≤ s.delay n' :=
  min_le_min_left _ (Nat.mul_le_mul_left _ (Nat.fib_mono h))

/-- What is kept of `n` failures in a row. -/
def backoffAfter (n : Nat) : Backoff := ⟨.place s.leastDelay s.greatestDelay n, .ofNat n⟩

theorem between_eq :
    Backoff.between s.backoffMinMinutes s.backoffMaxMinutes = s.backoffAfter 0 := by
  unfold backoffAfter
  rw [FibonacciBackoff.place_zero s.leastDelay_le_greatestDelay]
  rfl

theorem next_backoffAfter (n : Nat) :
    (s.backoffAfter n).countError.next = (60 * s.delay (n + 1), s.backoffAfter (n + 1)) := by
  have hcount : UInt32.ofNat n + 1 = UInt32.ofNat (n + 1) := (UInt32.ofNat_add n 1).symm
  simp only [Backoff.next, Backoff.countError, backoffAfter, FibonacciBackoff.next_place, hcount]
  rfl

theorem reset_backoffAfter (n : Nat) : (s.backoffAfter n).reset = s.backoffAfter 0 := by
  simp only [Backoff.reset, backoffAfter,
    FibonacciBackoff.reset_place s.leastDelay_le_greatestDelay]
  rfl

end Settings

/-! ## 2. Failures in a row -/

section

variable {σ : Type}

/-- A pass of an owner with the key that was neither skipped nor failed. -/
def isCleanPass (key : String) : Occurrence σ × Reply → Bool
  | (.pass _ owner _, .passed result) =>
    owner.key = key && owner.managementState ≠ .unmanaged && result.isOk
  | _ => false

/-- A failure of an owner with the key that is worth another try. -/
def isTransient (key : String) : Occurrence σ × Reply → Bool
  | (.failure owner cause, _) => owner.key = key && !cause.isTerminal
  | _ => false

/-- How often owners with the key failed since their last clean pass, or since the start. -/
def failuresSince (key : String) (trace : List (Occurrence σ × Reply)) : Nat :=
  (trace.reverse.takeWhile fun entry => !isCleanPass key entry).countP (isTransient key)

theorem failuresSince_concat (key : String) (trace : List (Occurrence σ × Reply))
    (entry : Occurrence σ × Reply) :
    failuresSince key (trace ++ [entry]) =
      if isCleanPass key entry then 0
      else failuresSince key trace + if isTransient key entry then 1 else 0 := by
  unfold failuresSince
  rw [List.reverse_append, List.reverse_singleton, List.singleton_append, List.takeWhile_cons]
  cases isCleanPass key entry with
  | true => rfl
  | false =>
    rw [Bool.not_false, if_pos rfl, List.countP_cons]
    rfl

/-- Without a clean pass the number only grows. -/
theorem failuresSince_le_append {key : String} {trace rest : List (Occurrence σ × Reply)}
    (h : ∀ entry ∈ rest, isCleanPass key entry = false) :
    failuresSince key trace ≤ failuresSince key (trace ++ rest) := by
  induction rest using List.reverseRecOn with
  | nil => rw [List.append_nil]
  | append_singleton rest entry ih =>
    have hentry := h entry (List.mem_append_right _ List.mem_cons_self)
    have hrest := ih fun entry he => h entry (List.mem_append_left _ he)
    rw [← List.append_assoc, failuresSince_concat, hentry]
    exact hrest.trans (Nat.le_add_right _ _)

end

/-! ## 3. The table -/

namespace Engine

variable {σ : Type} (e : Engine σ)

/-- The state after what happened. -/
def after (history : List (Occurrence σ)) (r : Run σ) : Run σ :=
  history.foldl (fun r o => (e.react o r).2) r

theorem after_concat (history : List (Occurrence σ)) (o : Occurrence σ) (r : Run σ) :
    e.after (history ++ [o]) r = (e.react o (e.after history r)).2 := by
  simp [after]

theorem after_append (history rest : List (Occurrence σ)) (r : Run σ) :
    e.after (history ++ rest) r = e.after rest (e.after history r) := by
  simp [after]

theorem trace_append (history rest : List (Occurrence σ)) (r : Run σ) :
    e.trace (history ++ rest) r = e.trace history r ++ e.trace rest (e.after history r) := by
  induction history generalizing r with
  | nil => rfl
  | cons o history ih => exact congrArg _ (ih (e.react o r).2)

/-- What the table holds about a key; nothing is known of a key that it does not hold. -/
def entry (key : String) (r : Run σ) : Backoff :=
  (r.retries.get? key).getD (.between e.settings.backoffMinMinutes e.settings.backoffMaxMinutes)

/-- A clean pass begins the count anew, any other pass leaves it alone. -/
theorem entry_pass {key : String} {r : Run σ} {n : Nat}
    (h : e.entry key r = e.settings.backoffAfter n) (clock : Clock) (owner : Owner)
    (desired : Except ConfigurationError (List ManagedObject)) :
    e.entry key (e.reconcile clock owner desired r).2 = e.settings.backoffAfter
      (if owner.key = key && owner.managementState ≠ .unmanaged &&
        (e.reconcile clock owner desired r).1.isOk then 0 else n) := by
  by_cases hmanaged : owner.managementState = .unmanaged
  · rw [e.reconcile_unmanaged clock hmanaged]
    simpa [hmanaged] using h
  · unfold entry at h ⊢
    rw [e.retries_reconcile clock hmanaged, Run.get?_retriesAfter]
    by_cases hkey : owner.key = key
    · cases hok : (e.reconcile clock owner desired r).1.isOk with
      | false => simpa [hkey] using h
      | true =>
        -- an entry that does not exist yet need not be reset: it will begin the same way
        have hreset : ((r.retries.get? key).map (·.reset)).getD
            (.between e.settings.backoffMinMinutes e.settings.backoffMaxMinutes) =
              e.settings.backoffAfter 0 := by
          cases hget : r.retries.get? key with
          | none => exact e.settings.between_eq
          | some backoff =>
            rw [hget, Option.getD_some] at h
            rw [Option.map_some, Option.getD_some, h, Settings.reset_backoffAfter]
        simpa [hkey, hmanaged] using hreset
    · have hkey' : ¬key = owner.key := fun hk => hkey hk.symm
      simpa [hkey, hkey'] using h

/-- The decision about a failure counts it, unless it is terminal. -/
theorem entry_retry {key : String} {r : Run σ} {n : Nat}
    (h : e.entry key r = e.settings.backoffAfter n) (owner : Owner) (cause : ReconcileError) :
    e.entry key (e.retry owner cause r).2 = e.settings.backoffAfter
      (n + if owner.key = key && !cause.isTerminal then 1 else 0) := by
  have hretries := (e.retry_run owner cause r).2
  cases hterminal : cause.isTerminal with
  | true =>
    unfold entry at h ⊢
    rw [hretries, hterminal, if_pos rfl]
    simpa using h
  | false =>
    rw [hterminal, if_neg Bool.false_ne_true] at hretries
    by_cases hkey : owner.key = key
    · subst hkey
      have hknown : e.failuresOf owner r.retries = e.settings.backoffAfter n := h
      unfold entry
      rw [hretries, Dict.get?_insert_self, hknown, Settings.next_backoffAfter]
      simp
    · have hkey' : ¬key = owner.key := fun hk => hkey hk.symm
      unfold entry at h ⊢
      rw [hretries, Dict.get?_insert, if_neg hkey']
      simpa [hkey] using h

/-- **One event** leaves in the table what the number of failures says, if it was there before. -/
theorem entry_react {key : String} {r : Run σ} {n : Nat}
    (h : e.entry key r = e.settings.backoffAfter n) (o : Occurrence σ) :
    e.entry key (e.react o r).2 = e.settings.backoffAfter
      (if isCleanPass key (o, (e.react o r).1) then 0
        else n + if isTransient key (o, (e.react o r).1) then 1 else 0) := by
  cases o with
  | pass clock owner desired => exact e.entry_pass h clock owner desired
  | failure owner cause => exact e.entry_retry h owner cause
  | change f => exact h

/-- **A run from the start** leaves in the table what the number of failures says. -/
theorem entry_after (world : σ) (key : String) (history : List (Occurrence σ)) :
    e.entry key (e.after history (.start world)) =
      e.settings.backoffAfter (failuresSince key (e.trace history (.start world))) := by
  induction history using List.reverseRecOn with
  | nil => exact e.settings.between_eq
  | append_singleton history o ih =>
    rw [after_concat, trace_append, trace, trace, failuresSince_concat]
    exact e.entry_react ih o

/-! ## 4. Delays -/

/-- The decision about a failure that is worth another try, after any run. -/
theorem retry_after (world : σ) (history : List (Occurrence σ)) (owner : Owner)
    {cause : ReconcileError} (h : cause.isTerminal = false) :
    let n := failuresSince owner.key (e.trace history (.start world)) + 1
    let decided := e.retry owner cause (e.after history (.start world))
    decided.1 = .requeue (60 * e.settings.delay n) ∧
      decided.2.retries.get? owner.key = some (e.settings.backoffAfter n) := by
  intro n decided
  obtain ⟨haction, hretries⟩ := e.retry_run owner cause (e.after history (.start world))
  have hknown : e.failuresOf owner (e.after history (.start world)).retries =
      e.settings.backoffAfter (failuresSince owner.key (e.trace history (.start world))) :=
    e.entry_after world owner.key history
  rw [h, hknown, Settings.next_backoffAfter] at haction hretries
  refine ⟨haction, ?_⟩
  show (e.retry owner cause _).2.retries.get? owner.key = _
  rw [hretries]
  exact Dict.get?_insert_self _ _ _

/-- **The delays of a run.** Let anything happen to an engine: passes of any owners, decisions about
failed ones, other changes, in any order. The `n`-th failure since the last clean pass, counted over
the owners with one key, is answered by a delay of `least * fib n` minutes, cut off at the greatest
delay, and leaves `n` failures, as far as 32 bits can tell, and two delays whose sum is at most
twice the greatest one. A terminal failure waits for a change of the owner and leaves the table
alone. So delays lie between the two bounds, and do not become shorter until the next clean pass. -/
theorem delays_of_run (world : σ) (history : List (Occurrence σ)) (owner : Owner)
    (cause : ReconcileError) :
    let n := failuresSince owner.key (e.trace history (.start world)) + 1
    let r := e.after history (.start world)
    let least := max e.settings.backoffMinMinutes 1
    let greatest := max e.settings.backoffMaxMinutes least
    let delay := 60 * min greatest (least * Nat.fib n)
    let decided := e.retry owner cause r
    (cause.isTerminal = true → decided.1 = .awaitChange ∧ decided.2.retries = r.retries) ∧
      (cause.isTerminal = false →
        decided.1 = .requeue delay ∧ 60 * least ≤ delay ∧ delay ≤ 60 * greatest ∧
        (∃ kept, decided.2.retries.get? owner.key = some kept ∧
          kept.errors = UInt32.ofNat n ∧ (n < 2 ^ 32 → kept.errors.toNat = n) ∧
          kept.delays.previous + kept.delays.current ≤ 2 * greatest) ∧
        ∀ (rest : List (Occurrence σ)) (other : Owner) (later : ReconcileError),
          other.key = owner.key → later.isTerminal = false →
          (∀ entry ∈ e.trace rest decided.2, isCleanPass owner.key entry = false) →
          ∃ seconds, (e.retry other later (e.after rest decided.2)).1 = .requeue seconds ∧
            delay ≤ seconds) := by
  intro n r least greatest delay decided
  refine ⟨fun h => ?_, fun h => ?_⟩
  · obtain ⟨haction, hretries⟩ := e.retry_run owner cause r
    rw [h] at haction hretries
    exact ⟨haction, hretries⟩
  · obtain ⟨haction, hkept⟩ := e.retry_after world history owner h
    have hleast : least ≤ e.settings.delay n := e.settings.leastDelay_le_delay (Nat.succ_pos _)
    have hgreatest : e.settings.delay n ≤ greatest := min_le_left _ _
    refine ⟨haction, Nat.mul_le_mul_left 60 hleast, Nat.mul_le_mul_left 60 hgreatest,
      ⟨_, hkept, rfl, UInt32.toNat_ofNat_of_lt', (FibonacciBackoff.place_le n).1⟩,
      fun rest other later hkey hlater hrest => ?_⟩
    -- the whole run up to the later failure is a run from the start, too
    let upTo := history ++ [.failure owner cause]
    have hafter : e.after upTo (.start world) = decided.2 := e.after_concat history _ _
    have hupTo : failuresSince owner.key (e.trace upTo (.start world)) = n := by
      rw [trace_append, trace, trace, failuresSince_concat]
      simp [isCleanPass, isTransient, h, n]
    have hcount : n ≤ failuresSince owner.key (e.trace (upTo ++ rest) (.start world)) := by
      rw [← hupTo, e.trace_append upTo rest, hafter]
      exact failuresSince_le_append hrest
    obtain ⟨hlast, -⟩ := e.retry_after world (upTo ++ rest) other hlater
    rw [after_append, hafter, hkey] at hlast
    exact ⟨_, hlast, Nat.mul_le_mul_left 60 (e.settings.delay_mono (hcount.trans (Nat.le_succ _)))⟩

/-- Two failures, a clean pass, two failures: the next one is the third in a row and waits for two
minutes, whatever happened to another owner. -/
theorem delays_of_run_sample :
    let one := Owner.sample "one" "a"
    let two := Owner.sample "two" "b"
    let engine := overMemory .standard .default
    let start := Run.start (Memory.empty ⟨0, 0⟩)
    let history : List (Occurrence Memory) :=
      [.failure one .sample, .failure two .sample, .failure one .sample,
        .pass ⟨⟨0, 0⟩, 0⟩ one (.ok []), .failure one .sample, .failure two .sample,
        .failure one .sample]
    let r := engine.after history start
    let decided := engine.retry one .sample r
    ReconcileError.sample.isTerminal = false ∧
      failuresSince one.key (engine.trace history start) = 2 ∧
      decided.1 = .requeue 120 ∧
      (∃ kept, decided.2.retries.get? one.key = some kept ∧ kept.errors = 3) ∧
      (engine.retry one (.configuration ⟨"x", "y"⟩) r).1 = .awaitChange ∧
      ∃ seconds, (engine.retry one .sample
        (engine.after [.failure two .sample] decided.2)).1 = .requeue seconds ∧ 120 ≤ seconds := by
  intro one two engine start history r decided
  have hn : failuresSince one.key (engine.trace history start) = 2 := by decide
  have hquiet : ∀ entry ∈ engine.trace [.failure two .sample] decided.2,
      isCleanPass one.key entry = false := by
    intro entry he
    obtain rfl := List.mem_singleton.1 he
    rfl
  obtain ⟨-, htransient⟩ := engine.delays_of_run (Memory.empty ⟨0, 0⟩) history one .sample
  obtain ⟨hterminal, -⟩ :=
    engine.delays_of_run (Memory.empty ⟨0, 0⟩) history one (.configuration ⟨"x", "y"⟩)
  obtain ⟨haction, -, -, ⟨kept, hkept, herrors, -, -⟩, hlater⟩ := htransient rfl
  have hdelay : 60 * min (max engine.settings.backoffMaxMinutes
      (max engine.settings.backoffMinMinutes 1)) (max engine.settings.backoffMinMinutes 1 *
        Nat.fib (failuresSince one.key (engine.trace history start) + 1)) = 120 := by
    rw [hn]
    rfl
  refine ⟨rfl, hn, haction.trans (congrArg _ hdelay), ⟨kept, hkept, ?_⟩, (hterminal rfl).1, ?_⟩
  · rw [herrors, hn]
    rfl
  · obtain ⟨seconds, hseconds, hle⟩ := hlater [.failure two .sample] one .sample rfl rfl hquiet
    exact ⟨seconds, hseconds, hdelay ▸ hle⟩

end Engine

end Reconciliation
