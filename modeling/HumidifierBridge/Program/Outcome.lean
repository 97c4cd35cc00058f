import HumidifierBridge.Program.Operation

/-!
# A whole run

`Outcome.ofRun` is what a run of the program comes to that is told to stop right after its first
turn: what it prints, what it logs, the files it leaves and the code it exits with.
-/

namespace HumidifierBridge

/-- What a run came to. -/
structure Outcome (σ : Type) where
  exitCode : Nat
  /-- The text that was asked for instead of a run. -/
  text : String := ""
  log : List LogLine := []
  files : FileTree
  appliance : σ

namespace Outcome

variable {σ : Type}

/-- The run of a program that has started, up to the end of its first turn. -/
def ofStarted (s : Started) (startup : Startup) (answer : Request → σ → Answer × σ)
    (appliance : σ) (epoch : Time) : Outcome σ :=
  let operation := Operation.ofStarted s ⟨s.base, answer⟩ startup.files appliance epoch
  let (operation, opened) := operation.begin
  let (operation, first) := operation.turn 0
  let lines := startup.log ++ opened ++ first
  { exitCode := 0
    log := lines.filter startup.limit.logs
    files := operation.bus.world.files
    appliance := operation.bus.world.appliance }

/-- The run with the given arguments. -/
def ofRun (arguments : List String) (files : FileTree) (around : Surroundings)
    (answer : Request → σ → Answer × σ) (appliance : σ) : Outcome σ :=
  match Invocation.ofArguments arguments with
  | .help => { exitCode := 0, text := helpText, files, appliance }
  | .version => { exitCode := 0, text := versionText, files, appliance }
  | .unusable _ => { exitCode := 2, files, appliance }
  | .run options =>
    let startup := start options files around
    match startup.started with
    | some s => ofStarted s startup answer appliance around.now
    | none =>
      { exitCode := 1
        log := startup.log.filter startup.limit.logs
        files := startup.files
        appliance }

end Outcome

end HumidifierBridge
