import RegistryStorage.Command.Run
import Std.Time.DateTime.Timestamp

/-!
The program.

Gathers what a run depends on, which is the command line, the environment, the files, the time
and some randomness, runs the command, and puts the results in place. No transport to real
servers belongs to this program: every request that it makes is refused.
-/

set_option autoImplicit false

namespace RegistryStorage.Surroundings

/-- What is found at a path. A path that leads through a file leads nowhere. -/
def contentAt (path : String) : IO Content := do
  try
    return .ofText? (String.fromUTF8? (← IO.FS.readBinFile path))
  catch
    | .noFileOrDirectory .. => return .missing
    | .inappropriateType _ 20 _ => return .missing
    | e => return .unreadable (toString e)

/-- The directory that a file lies in; none if it is the current one. -/
def directoryOf? (path : String) : Option String :=
  match (path.splitOn "/").dropLast with
  | [] => none
  | [""] => none
  | parts => some ("/".intercalate parts)

/-- Writes a text to a file, and makes the directories that it lies in. -/
def writeFile (path text : String) : IO (Except Fault Unit) := do
  try
    if let some directory := directoryOf? path then IO.FS.createDirAll directory
    IO.FS.writeFile path text
    return .ok ()
  catch e => return .error (.io (toString e))

/-- The variables of the environment that count. -/
def gatherVariables : IO Variables := do
  let mut env : Variables := {}
  for name in Arguments.variableNames do
    if let some value ← IO.getEnv name then env := env.insert name value
  return env

/-- Randomness for one run. -/
def gatherRandomness : IO Fresh := do
  let mut numbers : List UInt32 := []
  for _ in [0:256] do
    numbers := UInt32.ofNat (← IO.rand 0 (Nat.pow 2 32 - 1)) :: numbers
  let bits ← IO.rand 0 (Nat.pow 2 128 - 1)
  return ⟨⟨numbers, 0⟩, Naming.Serial.random (BitVec.ofNat 128 bits)⟩

/-- Runs the command, and gives what is printed and the result; nothing if it broke down. -/
def execute (a : Arguments) (env : Variables) : IO (Option (String × Except Fault Unit)) := do
  match a.settingsPath env with
  | .error fault => return some ("", .error fault)
  | .ok path =>
    match Settings.load (← contentAt path) env with
    | .error fault => return some ("", .error fault)
    | .ok settings =>
      let now := Moment.sinceEpoch (← Std.Time.Timestamp.now).toNanosecondsSinceUnixEpoch.val.toNat
      let record ← contentAt a.state
      let infra ← a.infra.mapM contentAt
      let program :=
        a.command.outcome a.format settings (← gatherRandomness) now record infra
      let (ended, _) := program.runFrail Remote.reply
        { session := { server := { script := [] } }, poll := settings.poll }
      match ended with
      | none => return none
      | some outcome =>
        let written ← match outcome.record with
          | some record => writeFile a.state record.save
          | none => pure (.ok ())
        return some (outcome.settle written)

end RegistryStorage.Surroundings

open RegistryStorage RegistryStorage.Surroundings

/-- The program; its result is the status with which it ends. -/
def main (words : List String) : IO UInt32 := do
  let env ← gatherVariables
  match Arguments.read? words env with
  | .error usage =>
    if usage.exitStatus = 0 then IO.println usage.message else IO.eprintln usage.message
    return UInt32.ofNat usage.exitStatus
  | .ok a =>
    match ← execute a env with
    | none =>
      IO.eprintln "overflow when adding duration to instant"
      return 101
    | some (output, result) =>
      IO.print output
      match result with
      | .ok () => return 0
      | .error fault =>
        IO.eprintln ("Error: " ++ fault.message)
        return 1
