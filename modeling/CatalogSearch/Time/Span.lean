import CatalogSearch.Number.Shortest

/-!
# Spans of time

A span is a whole number of nanoseconds, at most what 64 bits of seconds and nine digits of
nanoseconds hold. Multiplication saturates at that limit.
-/
namespace CatalogSearch

/-- A span of time in nanoseconds. -/
structure Span where
  nanos : Nat
  deriving DecidableEq, Repr, Inhabited

namespace Span

def nanosPerSecond : Nat := 1000000000

/-- The longest span: 64 bits of seconds, and all nanoseconds of a further one but the last. -/
def longest : Span := ⟨twoTo 64 * nanosPerSecond - 1⟩

def ofSeconds (n : Nat) : Span := ⟨n * nanosPerSecond⟩

def ofMillis (n : Nat) : Span := ⟨n * 1000000⟩

def ofParts (secs nanos : Nat) : Span := ⟨secs * nanosPerSecond + nanos⟩

def secs (s : Span) : Nat := s.nanos / nanosPerSecond

def subsecNanos (s : Span) : Nat := s.nanos % nanosPerSecond

/-- The span `n` times over, at most the longest one. -/
def scale (s : Span) (n : Nat) : Span := ⟨min (s.nanos * n) longest.nanos⟩

/-- A number of seconds that is finite and not negative, to the nearest nanosecond; none if it
exceeds the longest span. -/
def ofDouble? (x : Double) : Option Span :=
  if !x.isFinite then none
  else
    let (num, den) := x.fraction
    let nanos := Double.roundDiv (num * nanosPerSecond) den
    if nanos ≤ longest.nanos then some ⟨nanos⟩ else none

/-- The span in seconds as a double: whole seconds and rest are converted one by one. -/
def toDouble (s : Span) : Double :=
  (Double.ofNat s.secs).addMagnitude (Double.ofFraction false s.subsecNanos nanosPerSecond)

end Span

end CatalogSearch
