import HumidifierBridge.Bridge.Events

/-!
# The two loops

One loop serves the bus: it works on every tick and after every event. The other polls the
appliance: on every tick it looks at the schedule. Both run until they are told to stop, and both
are functions of a clock that is handed in, in milliseconds; `epoch` is the calendar time at which
that clock was zero.
-/

namespace HumidifierBridge

/-- The period of the bus loop. -/
def workInterval : Time := 2000

/-- How late a tick may be before the ticks after it are put off. -/
def tickTolerance : Time := 5

/-- The loop that serves the bus. -/
structure BusLoop (σ : Type) where
  world : World σ
  running : Bool := true
  nextTick : Time := 0

/-- The loop that polls the appliance. -/
structure PollLoop (σ : Type) where
  state : BridgeState
  appliance : σ
  schedule : Schedule := {}
  running : Bool := true
  nextTick : Time := 0

variable {σ : Type}

namespace BusLoop

/-- Ends the loop. -/
def stop (l : BusLoop σ) : BusLoop σ := { l with running := false }

/-- A pass of work at a time of the clock, and the calls it made. -/
def work (l : BusLoop σ) (b : Bridge) (t : Transport) (epoch clock : Time) :
    BusLoop σ × List (Time × Sent) :=
  let worked := b.work t l.world.state (epoch + clock)
  ({ l with world := { l.world with state := worked.state } }, worked.sent.map (clock, ·))

/-- Works on a number of ticks, one after the other. -/
def ticks (b : Bridge) (t : Transport) (epoch : Time) :
    Nat → BusLoop σ → BusLoop σ × List (Time × Sent)
  | 0, l => (l, [])
  | n + 1, l =>
    let (l, sent) := { l with nextTick := l.nextTick + workInterval }.work b t epoch l.nextTick
    let (l, later) := ticks b t epoch n l
    (l, sent ++ later)

/-- The number of ticks up to a time. -/
def ticksUntil (l : BusLoop σ) (clock : Time) : Nat :=
  if clock < l.nextTick then 0 else ((clock - l.nextTick) / workInterval).toNat + 1

/-- Lets the clock go on to a time, and works on every tick up to then. -/
def runTo (l : BusLoop σ) (b : Bridge) (t : Transport) (epoch clock : Time) :
    BusLoop σ × List (Time × Sent) :=
  if l.running then ticks b t epoch (l.ticksUntil clock) l else (l, [])

/-- Hands an event to the loop, which handles it and then works. A loop that has ended takes no
more events. -/
def deliver (l : BusLoop σ) (b : Bridge) (line : Line σ) (t : Transport) (epoch clock : Time)
    (event : BusEvent) : BusLoop σ × Reply × List (Time × Sent) :=
  if l.running then
    let handled := b.handle line t event (epoch + clock) l.world
    let (l, sent) := { l with world := handled.world }.work b t epoch clock
    (l, handled.reply, handled.sent.map (clock, ·) ++ sent)
  else (l, .none, [])

end BusLoop

namespace PollLoop

/-- Ends the loop. -/
def stop (l : PollLoop σ) : PollLoop σ := { l with running := false }

/-- When the tick after one comes, given when that was due and when it was taken: regularly, or a
full period later if the tick was taken late. -/
def following (due taken : Time) : Time :=
  if due + tickTolerance < taken then taken + Schedule.tick else due + Schedule.tick

/-- Takes a tick: polls if the schedule says so. -/
def tick (l : PollLoop σ) (b : Bridge) (line : Line σ) (t : Transport) (epoch clock : Time) :
    PollLoop σ × Option Polled :=
  let (schedule, due) := l.schedule.check clock
  let l := { l with schedule, nextTick := following l.nextTick clock }
  if due then
    let (polled, schedule, appliance) :=
      b.poll line t l.state l.schedule (epoch + clock) clock l.appliance
    ({ l with state := polled.state, schedule, appliance }, some polled)
  else (l, none)

/-- Gives the loop its turn at a time of the clock: takes the tick that is due, if one is. -/
def turn (l : PollLoop σ) (b : Bridge) (line : Line σ) (t : Transport) (epoch clock : Time) :
    PollLoop σ × Option Polled :=
  if l.running && decide (l.nextTick ≤ clock) then l.tick b line t epoch clock else (l, none)

end PollLoop

end HumidifierBridge
