import RegistryStorage.Command.Arguments
import RegistryStorage.Files.Folder
import RegistryStorage.Lifecycle.Create
import RegistryStorage.Lifecycle.Inspect
import RegistryStorage.Lifecycle.Remove
import RegistryStorage.Provider.Remote

/-!
Commands.

A command that works on the record is one invocation: the record is read from its file, the
operation runs on it with the record's own `spec`, and the record is written back and its
conditions are reported even when the operation fails. Showing the environment and choosing
names write nothing. `Command.outcome` says what comes of a command as a program over the
provider; `Outcome.settle` says how a run ends once it is known whether the record could be
written. A run that breaks down ends without an outcome, and so it writes and prints nothing.
-/

set_option autoImplicit false

namespace RegistryStorage

/-! ## What comes of a command -/

/-- What comes of a command. -/
structure Outcome where
  /-- The record to be written, if the command writes one. -/
  record : Option StorageState := none
  /-- What is reported, if anything, once the record is written. -/
  report : Option String := none
  result : Except Fault Unit := .ok ()
deriving Inhabited

namespace Outcome

/-- Nothing was done for this reason. -/
def refused (fault : Fault) : Outcome := { result := .error fault }

/-- The text that is printed and the result, when writing the record ended as given. -/
def settle (o : Outcome) (written : Except Fault Unit) : String × Except Fault Unit :=
  match written with
  | .error fault => ("", .error fault)
  | .ok () => ((o.report.map (· ++ "\n")).getD "", o.result)

end Outcome

/-! ## Reports -/

/-- The conditions of a record as a listing. -/
def StorageState.listing (s : StorageState) : Listing where
  columns := [⟨"Type", "type"⟩, ⟨"Status", "status"⟩, ⟨"Reason", "reason"⟩,
    ⟨"Message", "message"⟩, ⟨"Last Transition", "last_transition_time"⟩]
  rows := s.conditions.map fun c =>
    [c.kind, c.status.text, c.reason, c.message, c.since.offsetText]

/-- The registry's environment as a listing; secrets are masked unless they are to be shown. -/
def RegistryVariable.listing (showSecrets : Bool) (l : List RegistryVariable) : Listing where
  columns := [⟨"Name", "name"⟩, ⟨"Value", "value"⟩]
  rows := l.map fun v =>
    let v := if showSecrets then v else v.masked
    [v.name, v.value]

/-- Names for a cluster. -/
def Naming.choice (infrastructure : String) (fresh : Fresh) : Json.Value :=
  let account := (Naming.accountName infrastructure fresh.draws).1
  .object [("accountName", .text account),
    ("containerName", .text (Naming.containerName infrastructure fresh.serial)),
    ("privateEndpointName", .text (Naming.endpointName account))]

/-! ## Running a command -/

namespace Command

/-- Runs an operation on a record; what it leaves is written and reported in any case. -/
def operate {α : Type} (format : Format) (record : StorageState) (x : Invocation α) :
    Program Outcome := do
  let (result, w) ← x.start ⟨record.spec, record⟩
  return {
    record := some w.state
    report := some (w.state.listing.report format)
    result := result.map fun _ => () }

/-- Goes on with a result, or refuses for its fault. -/
def withResult {α : Type} (e : Except Fault α) (f : α → Program Outcome) : Program Outcome :=
  match e with
  | .ok a => f a
  | .error fault => pure (.refused fault)

/-- Runs a command with what is found where the record and the description of the cluster are
looked for; without a description the cluster has no properties. -/
def outcome (c : Command) (format : Format) (settings : Settings) (fresh : Fresh) (now : Moment)
    (record : Content) (infra : Option Content) : Program Outcome :=
  match c with
  | .provision =>
    withResult (StorageState.ofContent record) fun s =>
      withResult ((infra.map Infrastructure.ofContent).getD (.ok {})) fun infra =>
        operate format s (Storage.create settings infra fresh now)
  | .deprovision =>
    withResult (StorageState.ofContent record) fun s =>
      operate format s (Storage.remove settings now)
  | .status =>
    withResult (StorageState.ofContent record) fun s =>
      operate format s (Storage.checkExists settings now)
  | .environment showSecrets =>
    withResult (StorageState.ofContent record) fun s => do
      match ← (Storage.environment settings s.spec).run with
      | .ok l => return { report := some ((RegistryVariable.listing showSecrets l).report format) }
      | .error fault => return .refused fault
  | .names infrastructure =>
    pure { report := some ((Naming.choice infrastructure fresh).report format) }

end Command

namespace Arguments

/-- Runs the command that the arguments ask for. -/
def outcome (a : Arguments) (settings : Settings) (fresh : Fresh) (now : Moment)
    (read : String → Content) : Program Outcome :=
  a.command.outcome a.format settings fresh now (read a.state) (a.infra.map read)

/-! ## Runs in a folder -/

/-- How a run in a folder ends. -/
structure Ending where
  output : String
  /-- How the command ended; nothing if the program broke down. -/
  result : Option (Except Fault Unit)
  folder : Folder
  session : Http.Session

/-- A run in a folder, against servers. -/
def runIn (a : Arguments) (env : Variables) (fresh : Fresh) (now : Moment) (folder : Folder)
    (session : Http.Session) : Ending :=
  match (do Settings.load (folder.read (← a.settingsPath env)) env) with
  | .error fault => ⟨"", some (.error fault), folder, session⟩
  | .ok settings =>
    match (a.outcome settings fresh now folder.read).runFrail Remote.reply
      { session, poll := settings.poll } with
    | (none, remote) => ⟨"", none, folder, remote.session⟩
    | (some o, remote) =>
      let written : Except Fault Folder := match o.record with
        | none => .ok folder
        | some record =>
          match folder.write? a.state record.save with
          | some folder => .ok folder
          | none => .error (.io "the record cannot be written")
      let (output, result) := o.settle (written.map fun _ => ())
      ⟨output, some result, written.toOption.getD folder, remote.session⟩

end Arguments

end RegistryStorage
