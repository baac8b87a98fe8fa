import RegistryStorage.Json.Value
import RegistryStorage.Moment.Text

/-!
Status conditions.

A condition says whether something holds, why, and since when. The time of a condition moves
only when its status changes. `Conditions.update` is the only way in which the program writes
one: the entry of the type is replaced where it stands, or a new one is put at the end.
-/

set_option autoImplicit false

namespace RegistryStorage

open Json (Tree Value)

/-- Whether something holds. -/
inductive ConditionStatus
  | true
  | false
  /-- An error left the question open. -/
  | unknown
deriving DecidableEq, Repr, Inhabited

/-- The word for a status. -/
def ConditionStatus.text : ConditionStatus → String
  | .true => "True"
  | .false => "False"
  | .unknown => "Unknown"

/-- The status that a word names. -/
def ConditionStatus.ofText? : String → Option ConditionStatus
  | "True" => some .true
  | "False" => some .false
  | "Unknown" => some .unknown
  | _ => none

/-- Why the storage exists, does not exist, or may not exist. -/
inductive StorageReason
  | notConfigured
  | configError
  | userManaged
  | azureError
  | containerNotFound
  | containerExists
  | containerDeleted
  | accountDeleted
deriving DecidableEq, Repr, Inhabited

/-- The word for a reason. -/
def StorageReason.text : StorageReason → String
  | notConfigured => "StorageNotConfigured"
  | configError => "ConfigError"
  | userManaged => "UserManaged"
  | azureError => "AzureError"
  | containerNotFound => "ContainerNotFound"
  | containerExists => "ContainerExists"
  | containerDeleted => "ContainerDeleted"
  | accountDeleted => "AccountDeleted"

/-- All reasons. -/
def StorageReason.all : List StorageReason :=
  [notConfigured, configError, userManaged, azureError, containerNotFound, containerExists,
    containerDeleted, accountDeleted]

/-- The reason that a word names. -/
def StorageReason.ofText? (s : String) : Option StorageReason :=
  StorageReason.all.find? (·.text == s)

/-- What is known about one question, and since when its status is what it is. -/
structure Condition where
  kind : String
  status : ConditionStatus
  reason : String
  message : String
  since : Moment
deriving DecidableEq, Repr, Inhabited

/-- The condition that every operation ends by writing. -/
def storageExistsKind : String := "StorageExists"

namespace Conditions

/-- The condition of a kind; the first one if there are several. -/
def find? (kind : String) (l : List Condition) : Option Condition := l.find? (·.kind == kind)

/-- Writes a condition. -/
def update (now : Moment) (kind : String) (status : ConditionStatus) (reason message : String) :
    List Condition → List Condition
  | [] => [⟨kind, status, reason, message, now⟩]
  | c :: r =>
    if c.kind = kind then
      { c with
        status, reason, message, since := if c.status = status then c.since else now } :: r
    else c :: update now kind status reason message r

end Conditions

/-! ## Writing and reading -/

/-- The encoded condition. -/
def Condition.encode (c : Condition) : Value :=
  .object [("type", .text c.kind), ("status", .text c.status.text), ("reason", .text c.reason),
    ("message", .text c.message), ("lastTransitionTime", .text c.since.text)]

/-- Reads a condition; no field may be left out. -/
def Condition.decode? (t : Tree) : Option Condition := do
  match ← t.fields ["type", "status", "reason", "message", "lastTransitionTime"] with
  | [some kind, some status, some reason, some message, some since] =>
    return {
      kind := ← kind.text?
      status := ← ConditionStatus.ofText? (← status.choice?)
      reason := ← reason.text?
      message := ← message.text?
      since := ← Moment.ofText? (← since.text?) }
  | _ => none

end RegistryStorage
