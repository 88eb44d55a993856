import Courseware.Decimal.Layout

/-! # Spans of time

Times and spans are whole nanoseconds. A span that is computed stops at the greatest one a machine
holds, `Time.maxSpan`. -/

namespace Courseware.Time

/-- Nanoseconds of a second. -/
def perSecond : Nat := 1000000000

/-- Nanoseconds of a millisecond. -/
def perMillisecond : Nat := 1000000

/-- The greatest span. -/
def maxSpan : Nat := (Nat.pow 2 64 - 1) * perSecond + (perSecond - 1)

/-- A span of whole seconds. -/
def ofSeconds (n : Nat) : Nat := n * perSecond

/-- A span of whole milliseconds. -/
def ofMilliseconds (n : Nat) : Nat := n * perMillisecond

/-- The whole seconds of a span. -/
def seconds (span : Nat) : Nat := span / perSecond

/-- The whole milliseconds of a span. -/
def milliseconds (span : Nat) : Nat := span / perMillisecond

/-- A multiple of a span, at most the greatest span. -/
def times (span n : Nat) : Nat := min (span * n) maxSpan

/-- A span in seconds as a float: the whole seconds and the rest are converted and added. -/
def asSeconds (span : Nat) : Float :=
  Float.ofNat (span / perSecond) + Float.ofNat (span % perSecond) / Float.ofNat perSecond

/-- A span in seconds with one place, rounded from the float. -/
def text (span : Nat) : String :=
  match Decimal.Binary.ofFloat (asSeconds span) with
  | .finite _ magnitude => Decimal.tenths magnitude.toRatio
  | .nan | .infinite _ => ""

/-- A value that comes after a span of time. -/
structure After (α : Type) where
  /-- The value. -/
  value : α
  /-- How long it takes. -/
  took : Nat

end Courseware.Time
