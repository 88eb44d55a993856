import Courseware.Time

/-! # Retry policies

How often a generation is tried, and how long to wait between two tries: the wait doubles after
every failure, thirty-one times at most, and never passes the greatest span. -/

namespace Courseware

/-- How often to try, and how long to wait. -/
structure RetryPolicy where
  /-- How often to try. -/
  maxAttempts : Nat
  /-- The wait after the first failure. -/
  initialDelay : Nat
  /-- There is a first try. -/
  maxAttempts_pos : 0 < maxAttempts

namespace RetryPolicy

/-- A policy that tries at least once. -/
def ofAttempts (maxAttempts initialDelay : Nat) : RetryPolicy :=
  ⟨max maxAttempts 1, initialDelay, by omega⟩

/-- Three tries, with one second after the first. -/
def standard : RetryPolicy := ofAttempts 3 (Time.ofMilliseconds 1000)

/-- The greatest number of doublings. -/
def maxDoublings : Nat := 31

/-- The wait after a failed attempt; attempts count from one. -/
def delayAfter (policy : RetryPolicy) (attempt : Nat) : Nat :=
  Time.times policy.initialDelay (Nat.pow 2 (min (attempt - 1) maxDoublings))

end RetryPolicy

end Courseware
