import RegistryStorage.Provider.Program

/-!
Looking without touching.

Each probe tells three things apart: the resource is there, it is confirmed to be absent, or
the provider failed to say. Only the last is a fault.
-/

set_option autoImplicit false

namespace RegistryStorage.Probe

/-- Whether a container exists; one without a name does not. -/
def containerExists (account key container : String) : Action Bool :=
  if account = "" ∨ container = "" then pure false
  else Action.perform (.containerExists account key container)

/-- The endpoint of a name, or none if it is confirmed to be absent. -/
def endpoint? (name : String) : Action (Option Endpoint) :=
  ExceptT.mk do
    match ← (Action.perform (.getEndpoint name)).run with
    | .ok endpoint => return .ok (some endpoint)
    | .error fault => return if fault.isNotFound then .ok none else .error fault

/-- What a failed look at an account's keys means: that the account is absent, if the provider
says so. -/
def keyFault (account : String) (fault : Fault) : Fault :=
  if fault.isNotFound then .accountNotFound account fault.message else fault

/-- The first key of a list of keys. -/
def firstKey (account : String) : List AccountKey → Except Fault String
  | key :: _ => .ok key.value
  | [] => .error (.api ("storage account " ++ account ++ " has no access keys"))

/-- The key with which containers of an account are reached. -/
def primaryKey (account : String) : Action String :=
  ExceptT.mk do
    match ← (Action.perform (.listKeys account)).run with
    | .ok keys => return firstKey account keys
    | .error fault => return .error (keyFault account fault)

/-- Whether an account is known to be closed to the public network. One that cannot be looked
at counts as open. -/
def isPrivate (account : String) : Program Bool := do
  match ← (Action.perform (.getAccount account)).run with
  | .ok found => return found.access == some .disabled
  | .error _ => return false

end RegistryStorage.Probe
