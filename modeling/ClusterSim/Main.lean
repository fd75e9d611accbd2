import ClusterSim.Command.Session
import Std.Time.DateTime.Timestamp

/-!
# The command

Runs the simulation of the configuration file in the working directory, or the default one if there
is no file, and prints a log line for each event that the filter admits.
-/

open ClusterSim

namespace ClusterSim.Command

/-- The configuration file. -/
def configPath : String := "kubesim-config.yaml"

/-- The present instant. -/
def presentInstant : IO Instant := do
  let elapsed := (← Std.Time.Timestamp.now).toDurationSinceUnixEpoch
  let nanos : Int := elapsed.second.toInt * nanosPerSecond + elapsed.nano.toInt
  return (Instant.ofPosition? nanos).getD .epoch

/-- A supply of identities that starts with the present time in milliseconds and random bits. -/
def identities (now : Instant) : IO PodId.Supply := do
  let millis := (now.position / 1000000).toNat
  let high ← IO.rand 0 0xfff
  let low ← IO.rand 0 0x1fffffffffffffff
  return .ofTime millis high low

/-- Prints the events that a filter admits, each with the present time. -/
def print (filter : Filter) (events : List Event) : IO Unit := do
  for event in events do
    if filter.admits event then
      let now ← presentInstant
      let level := if event.level.label.length < 5 then " " else ""
      IO.println (now.text ++ " " ++ level ++ event.line filter)

/-- Runs to the end, and prints the events of each round. -/
partial def drive (filter : Filter)
    (progress : List Event × Progress (RandomSource WordStream) TickLog) :
    IO (Except RunError SimulationResult) := do
  print filter progress.1
  match progress.2 with
  | .running run => drive filter (run.rounds 1)
  | .finished _ result => return result

/-- Reads the configuration file. -/
def load : IO (Except CommandError Session) := do
  match ← (IO.FS.readFile configPath).toBaseIO with
  | .ok text => return Session.parse text
  | .error (.noFileOrDirectory ..) => return .ok default
  | .error error => return .error (.configuration (.unreadable (toString error)))

/-- The command up to its error, if there is one. -/
def execute : IO (Except CommandError Unit) := do
  match ← load with
  | .error error => return .error error
  | .ok session =>
    let filter := session.filter (← IO.getEnv "RUST_LOG")
    let now ← presentInstant
    let entropy ← IO.rand 0 (UInt64.size - 1)
    let (events, built) := session.build now (.ofNat entropy)
    print filter events
    match built with
    | .error error => return .error error
    | .ok simulation =>
      let simulation := { simulation with supply := ← identities now }
      match ← drive filter (simulation.run 0 .none TickLog.empty) with
      | .error error => return .error (.run error)
      | .ok result =>
        print filter (Session.endReport result)
        return .ok ()

end ClusterSim.Command

/-- The exit code is one if there was an error, which is then shown. -/
def main : IO UInt32 := do
  match ← ClusterSim.Command.execute with
  | .ok () => return 0
  | .error error =>
    IO.eprintln ("Error: " ++ error.dump.render)
    return 1
