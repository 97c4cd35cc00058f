/-!
# Points in time

A point in time is a number of milliseconds. Calendar times count from 1970 UTC, the clocks of the
loops from an arbitrary start.
-/

namespace HumidifierBridge

/-- Milliseconds since 1970 UTC. -/
abbrev Time := Int

/-- The whole seconds from one time to a later one; none have passed before it. -/
def Time.secondsSince (now start : Time) : Int := max 0 ((now - start).tdiv 1000)

theorem Time.secondsSince_nonneg (now start : Time) : 0 ≤ now.secondsSince start :=
  Int.le_max_left ..

end HumidifierBridge
