import HumidifierBridge.Program.Startup

/-!
# The running program

An `Operation` is a started program between two moments. `begin` opens a session with the bus, which
the program's own transport always takes, and `turn` lets both loops do what is due at a time of the
clock. Both give the log lines that go with what was done.
-/

namespace HumidifierBridge

/-- A running program. -/
structure Operation (σ : Type) where
  bridge : Bridge
  line : Line σ
  bus : BusLoop σ
  poll : PollLoop σ
  /-- The calendar time at which the clock was zero. -/
  epoch : Time

namespace Operation

variable {σ : Type}

/-- The transport of the program, which keeps its session. -/
def transport : Transport := .loopback true

/-- The line about a call to the bus. -/
def callLine (sent : Sent) : LogLine :=
  match sent.call with
  | .sendPong dsuid => ⟨.debug, "pong " ++ dsuid.text⟩
  | .announceContainer vdc => ⟨.info, "announce container " ++ vdc.text⟩
  | .announceDevice vdc device => ⟨.info, "announce device " ++ vdc.text ++ " " ++ device.text⟩
  | .identifyDevice device => ⟨.info, "device present " ++ device.text⟩
  | .deviceVanished device => ⟨.info, "device vanished " ++ device.text⟩
  | .pushProperty device _ => ⟨.info, "push property " ++ device.text⟩

/-- The lines about a poll. -/
def pollLines (base : String) (polled : Polled) : List LogLine :=
  let asked : List LogLine := [
    ⟨.debug, "Sending HTTP request to " ++ base⟩,
    ⟨.trace, "Waiting for the answer"⟩]
  let ended : List LogLine :=
    match polled.outcome with
    | .failed => [⟨.warn, "Could not read appliance"⟩]
    | .changed => [⟨.debug, "Poll finished, values changed"⟩]
    | .unchanged => [⟨.debug, "Poll finished, nothing changed"⟩]
  asked ++ ended ++ polled.sent.map callLine

/-- The operation of a program that has started. -/
def ofStarted (s : Started) (line : Line σ) (files : FileTree) (appliance : σ) (epoch : Time) :
    Operation σ where
  bridge := s.bridge
  line := line
  bus := { world := ⟨s.state, files, appliance⟩ }
  poll := { state := s.state, appliance }
  epoch := epoch

/-- Opens the session with the bus. -/
def begin (o : Operation σ) : Operation σ × List LogLine :=
  let (bus, _, sent) := o.bus.deliver o.bridge o.line transport o.epoch 0 .newSession
  ({ o with bus }, ⟨.info, "Bus session started"⟩ :: sent.map (callLine ·.2))

/-- The operation, with the appliance in another state. -/
def withAppliance (o : Operation σ) (appliance : σ) : Operation σ :=
  { o with bus := { o.bus with world := { o.bus.world with appliance } } }

/-- Is the appliance asked in the turn at a time of the clock? -/
def willPoll (o : Operation σ) (clock : Time) : Bool :=
  o.poll.running && decide (o.poll.nextTick ≤ clock) && (o.poll.schedule.check clock).2

/-- Lets both loops do what is due. -/
def turn (o : Operation σ) (clock : Time) : Operation σ × List LogLine :=
  let (bus, sent) := o.bus.runTo o.bridge transport o.epoch clock
  let before := { o.poll with state := bus.world.state, appliance := bus.world.appliance }
  let (poll, polled) := before.turn o.bridge o.line transport o.epoch clock
  let world := { bus.world with state := poll.state, appliance := poll.appliance }
  let lines := match polled with
    | some polled => pollLines o.line.base polled
    | none => []
  ({ o with bus := { bus with world }, poll }, sent.map (callLine ·.2) ++ lines)

/-- The time of the clock at which there is something to do again. -/
def nextTurn (o : Operation σ) : Time := min o.bus.nextTick o.poll.nextTick

end Operation

end HumidifierBridge
