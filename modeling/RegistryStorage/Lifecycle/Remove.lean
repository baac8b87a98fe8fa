import RegistryStorage.Lifecycle.Isolation
import RegistryStorage.Lifecycle.Invocation
import RegistryStorage.Lifecycle.Probe

/-!
Taking storage down.

`Storage.remove` deletes storage that the program created: the container, what private access
needs, then the account. Whatever is gone already counts as deleted, and each deletion is
recorded at once, so a later invocation goes on where a failed one stopped. Storage that the
program does not own is left alone.
-/

set_option autoImplicit false

namespace RegistryStorage.Storage

open Invocation

/-- Removes the recorded endpoint with its DNS, whether or not the account still exists. -/
def removePrivateNetwork (now : Moment) (account : String) : Invocation Unit := do
  match (← get).config.network.endpoint? with
  | none => pure ()
  | some endpoint =>
    blaming now .azureError "Unable to remove private dns configuration: " <|
      act (Isolation.removeDns endpoint account)
    blaming now .azureError "Unable to delete private endpoint: " <|
      act (Action.tolerant (Action.perform (.deleteEndpoint endpoint)))
    record fun c => { c with network := c.network.clearEndpoint }

/-- The key of the recorded account; none if the account is confirmed to be gone, together
with the fault that says so. -/
def keyUnlessGone (account : String) : Action (Except Fault String) :=
  ExceptT.mk do
    match ← (Probe.primaryKey account).run with
    | .ok key => return .ok (.ok key)
    | .error fault => return if fault.isNotFound then .ok (.error fault) else .error fault

/-- Deletes the account and records it. -/
def removeAccount (now : Moment) (account : String) : Invocation Unit := do
  blaming now .azureError "Unable to delete storage account: " <|
    act (Action.tolerant (Action.perform (.deleteAccount account)))
  record fun c => { c with account := "" }
  report now .false .accountDeleted "Storage account has been deleted"

/-- Deletes the container and records it. -/
def removeContainer (now : Moment) (account key container : String) : Invocation Unit := do
  blaming now .azureError "Unable to delete storage container: " <|
    act (Action.tolerant (Action.perform (.deleteContainer account key container)))
  record fun c => { c with container := "" }
  report now .false .containerDeleted "Storage container has been deleted"

/-- Deletes the storage that the working configuration names. -/
def dismantle (now : Moment) : Invocation Unit := do
  let config := (← get).config
  let account := config.account
  if config.container = "" then
    removePrivateNetwork now account
    removeAccount now account
  else
    match ← blaming now .azureError "Unable to get account primary keys: "
        (act (keyUnlessGone account)) with
    | .ok key =>
      removeContainer now account key config.container
      removePrivateNetwork now account
      removeAccount now account
    | .error fault =>
      removePrivateNetwork now account
      record fun c => { c with account := "", container := "" }
      report now .false .containerNotFound
        ("Container has been already deleted: " ++ fault.message)

/-- Deletes the storage with the cluster's credentials. -/
def decommission (settings : Settings) (credentials : ClusterCredentials) (now : Moment) :
    Invocation Unit := do
  let environment ← blaming now .configError "Unable to get cloud environment: " <|
    ofResult (CloudEnvironment.ofName (← get).config.cloud settings.customCloud)
  blaming now .azureError "Unable to get accounts client: " <|
    act (Action.perform (.clients environment credentials))
  dismantle now

/-- Takes the storage down, if the program owns it. -/
def remove (settings : Settings) (now : Moment) : Invocation Unit := do
  let w ← get
  if !w.state.isManaged then pure ()
  else if w.config.account = "" then
    report now .false .notConfigured "Storage is not configured"
  else
    match ← blaming now .configError "Unable to get configuration: "
        (ofResult settings.credentials) with
    | .userManaged _ => pure ()
    | .cluster credentials => decommission settings credentials now

end RegistryStorage.Storage
