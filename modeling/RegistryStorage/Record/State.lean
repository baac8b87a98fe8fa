import RegistryStorage.Fault
import RegistryStorage.Files.Content
import RegistryStorage.Json.Writer
import RegistryStorage.Record.Condition
import RegistryStorage.Record.Config

/-!
The state record.

One record is kept between invocations: the configuration that is wanted (`spec`), the one
that was last put in place (`status`), who owns the storage, and the conditions. Names that an
invocation chooses are written back to `spec`, so that the next one finds them there. `save`
and `load?` are the record's file format.
-/

set_option autoImplicit false

namespace RegistryStorage

open Json (Tree Value)

/-- Who owns the storage. -/
inductive Management
  /-- The program created it and may delete it. -/
  | managed
  | unmanaged
deriving DecidableEq, Repr, Inhabited

/-- The word for a kind of management. -/
def Management.text : Management → String
  | managed => "Managed"
  | unmanaged => "Unmanaged"

/-- The kind of management that a word names. -/
def Management.ofText? : String → Option Management
  | "Managed" => some managed
  | "Unmanaged" => some unmanaged
  | _ => none

/-- What is remembered between invocations. -/
structure StorageState where
  spec : StorageConfig := {}
  status : Option StorageConfig := none
  management : Option Management := none
  conditions : List Condition := []
deriving DecidableEq, Repr, Inhabited

namespace StorageState

/-- Whether the program may delete the storage. -/
def isManaged (s : StorageState) : Bool := s.management == some .managed

/-- Whether what is wanted differs from what was last put in place. -/
def isChanged (s : StorageState) : Bool := s.status != some s.spec

/-- Writes the condition on the existence of the storage. -/
def report (s : StorageState) (now : Moment) (status : ConditionStatus) (reason : StorageReason)
    (message : String) : StorageState :=
  { s with conditions :=
      Conditions.update now storageExistsKind status reason.text message s.conditions }

/-- Changes the wanted and the applied configuration in the same way. -/
def mapConfigs (s : StorageState) (change : StorageConfig → StorageConfig) : StorageState :=
  { s with spec := change s.spec, status := s.status.map change }

/-- The encoded record; what is not set is left out. -/
def encode (s : StorageState) : Value :=
  .object ([("spec", s.spec.encode)] ++
    (match s.status with
     | some config => [("status", config.encode)]
     | none => []) ++
    (match s.management with
     | some m => [("managementState", .text m.text)]
     | none => []) ++
    [("conditions", .list (s.conditions.map Condition.encode))])

/-- Reads a record. -/
def decode? (t : Tree) : Option StorageState := do
  match ← t.fields ["spec", "status", "managementState", "conditions"] with
  | [spec, status, management, conditions] =>
    return {
      spec := ← Tree.orDefault (StorageConfig.decode? 1) {} spec
      status := ← Tree.orDefault (Tree.option? (StorageConfig.decode? 1)) none status
      management :=
        ← Tree.orDefault (Tree.option? fun t => do Management.ofText? (← t.choice?)) none
          management
      conditions := ← Tree.orDefault (Tree.list? Condition.decode?) [] conditions }
  | _ => none

/-- The text of the record's file. -/
def save (s : StorageState) : String := s.encode.pretty

/-- The record that a file's text holds. -/
def load? (text : String) : Option StorageState := do decode? (← Tree.read? text)

/-- The record that a file holds; an empty one if there is no file. -/
def ofContent : Content → Except Fault StorageState
  | .missing => .ok {}
  | .unreadable reason => .error (.io reason)
  | .text text =>
    match load? text with
    | some s => .ok s
    | none => .error (.json "the record cannot be read")

end StorageState

end RegistryStorage
