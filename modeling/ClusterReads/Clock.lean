import ClusterReads.Fault
import ClusterReads.Time.Timestamp

/-!
# Clocks

A clock gives one reading after another. How the readings grow is left open: a statement about a run names
what it needs, for instance that they never fall.
-/
namespace ClusterReads

structure Clock where
  /-- The readings in order, in nanoseconds. -/
  readingAt : Nat → Nat
  /-- The date and time at each reading. -/
  dateAt : Nat → Timestamp
  /-- How many readings were taken. -/
  taken : Nat

namespace Clock

/-- The first moment that is beyond the range of every clock: signed 64-bit seconds. -/
def limit : Nat :=
  9223372036854775808 * billion

def reading (c : Clock) : Nat :=
  c.readingAt c.taken

def date (c : Clock) : Timestamp :=
  c.dateAt c.taken

def tick (c : Clock) : Clock :=
  { c with taken := c.taken + 1 }

/-- Readings never fall. -/
def Monotone (c : Clock) : Prop :=
  ∀ i j, i ≤ j → c.readingAt i ≤ c.readingAt j

/-- Every reading is later than those before it. -/
def StrictlyMonotone (c : Clock) : Prop :=
  ∀ i j, i < j → c.readingAt i < c.readingAt j

/-- The moment a span after another, if a clock can show it. -/
def later (now span : Nat) : Except Fault Nat :=
  if now + span < limit then .ok (now + span) else .error .instantOverflow

/-- A clock that advances by one nanosecond at each reading. -/
def steady : Clock :=
  ⟨fun i => i, fun _ => Timestamp.epoch, 0⟩

theorem steady_strictlyMonotone : steady.StrictlyMonotone :=
  fun _ _ h => h

end Clock

end ClusterReads
