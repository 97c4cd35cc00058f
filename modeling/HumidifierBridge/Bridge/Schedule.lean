import HumidifierBridge.Config.Settings

/-!
# When to poll

The poll loop wakes on every tick but looks at the clock at most once in `minSpacing`, and polls
when the next poll is due. A poll that succeeded puts the next one off by the reload interval, one
that failed by `retryDelay`. Times are those of the loop's clock, in milliseconds. The clock counts
up to a limit; a poll that would be due beyond it is due as after a failure.
-/

namespace HumidifierBridge

/-- What became of a poll. -/
inductive PollOutcome where
  /-- A sensor changed or was read for the first time. -/
  | changed
  | unchanged
  | failed
  deriving DecidableEq, Repr

/-- When the clock was last looked at, and when the next poll is due. -/
structure Schedule where
  lastCheck : Option Time := none
  /-- None before the first poll, which is due at once. -/
  nextDue : Option Time := none
  /-- The least time that the clock cannot count. A clock that counts seconds in 64 bits with a sign
  gets to it sooner the longer it has been going. -/
  clockLimit : Time := 9223372036854775807000
  deriving DecidableEq

namespace Schedule

/-- The period of the poll loop. -/
def tick : Time := 5000

/-- The least time between two looks at the clock. -/
def minSpacing : Time := 10000

/-- The time from a failed poll to the next one. -/
def retryDelay : Time := 60000

/-- Is a poll due? -/
def isDue (s : Schedule) (now : Time) : Bool := s.nextDue.all (· ≤ now)

/-- Looks at the clock, unless it was looked at just before. -/
def shouldCheck (s : Schedule) (now : Time) : Schedule × Bool :=
  if s.lastCheck.all fun last => minSpacing ≤ now - last then
    ({ s with lastCheck := some now }, true)
  else (s, false)

/-- Looks at the clock and says whether to poll. -/
def check (s : Schedule) (now : Time) : Schedule × Bool :=
  let (s, spaced) := s.shouldCheck now
  (s, spaced && s.isDue now)

/-- The time from a poll to the next one, if the clock can count that. -/
def delay (outcome : PollOutcome) (reload : Nat) : Time :=
  match outcome with
  | .failed => retryDelay
  | _ => reload

/-- When something is due that is put off, on a clock with a limit. -/
def dueAfter (limit now delay : Time) : Time :=
  if now + delay < limit then now + delay else now + retryDelay

/-- Puts the next poll off, after one that finished. -/
def putOff (s : Schedule) (outcome : PollOutcome) (now : Time) (reload : Nat) : Schedule :=
  { s with nextDue := some (dueAfter s.clockLimit now (delay outcome reload)) }

/-- Schedules the poll after one that finished. -/
def record (s : Schedule) (outcome : PollOutcome) (now : Time) (reloadSeconds : UInt64)
    (reloadMillis : Fin 1000 := noMillis) : Schedule :=
  s.putOff outcome now (reloadSeconds.toNat * 1000 + reloadMillis)

theorem dueAfter_of_lt {limit now delay : Time} (h : now + delay < limit) :
    dueAfter limit now delay = now + delay := if_pos h

theorem dueAfter_of_not_lt {limit now delay : Time} (h : ¬ now + delay < limit) :
    dueAfter limit now delay = now + retryDelay := if_neg h

/-- A failure counts as one wherever the clock stands. -/
@[simp]
theorem dueAfter_retryDelay (limit now : Time) :
    dueAfter limit now retryDelay = now + retryDelay := ite_self _

theorem lt_dueAfter {delay : Time} (h : 0 < delay) (limit now : Time) :
    now < dueAfter limit now delay := by
  unfold dueAfter
  split
  · exact Int.lt_add_of_pos_right _ h
  · exact Int.lt_add_of_pos_right _ (by decide)

end Schedule

end HumidifierBridge
