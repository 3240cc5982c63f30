/-!
# Retry delays

After a failed pass an owner is tried again after a delay that grows along the Fibonacci numbers,
counted in minutes between two bounds and handed out in seconds: with the bounds 1 and 10 the delays
are 1, 1, 2, 3, 5, 8, 10, 10, … minutes.

* `FibonacciBackoff.next` -- the current delay, and the sequence after it;
* `Backoff` -- the sequence of one owner together with the number of its failures.
-/

namespace Reconciliation

/-- A place in the sequence of delays, in minutes. -/
structure FibonacciBackoff where
  least : Nat
  previous : Nat
  current : Nat
  greatest : Nat
deriving DecidableEq

namespace FibonacciBackoff

/-- The beginning of the sequence. The least delay is at least a minute, the greatest at least the
least. -/
def between (least greatest : Nat) : FibonacciBackoff :=
  let least := max least 1
  ⟨least, 0, least, max greatest least⟩

/-- The current delay in seconds, and the sequence after it. -/
def next (b : FibonacciBackoff) : Nat × FibonacciBackoff :=
  (b.current * 60,
    { b with previous := b.current, current := min (b.previous + b.current) b.greatest })

/-- Back to the beginning of the sequence. -/
def reset (b : FibonacciBackoff) : FibonacciBackoff := { b with previous := 0, current := b.least }

end FibonacciBackoff

/-- The retries of one owner. Failures are counted in a 32-bit word. -/
structure Backoff where
  delays : FibonacciBackoff
  errors : UInt32
deriving DecidableEq

namespace Backoff

/-- No failure yet. -/
def between (least greatest : Nat) : Backoff := ⟨.between least greatest, 0⟩

/-- Counts a failure. The count begins anew after 2³² of them. -/
def countError (b : Backoff) : Backoff := { b with errors := b.errors + 1 }

/-- Takes the current delay. -/
def next (b : Backoff) : Nat × Backoff := (b.delays.next.1, { b with delays := b.delays.next.2 })

/-- Forgets all failures. -/
def reset (b : Backoff) : Backoff := ⟨b.delays.reset, 0⟩

end Backoff

end Reconciliation
