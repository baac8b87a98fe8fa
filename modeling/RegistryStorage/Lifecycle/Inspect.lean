import RegistryStorage.Lifecycle.Invocation
import RegistryStorage.Lifecycle.Probe
import RegistryStorage.RegistryVariable

/-!
Looking at storage.

`Storage.checkExists` asks whether the configured container is there and records the answer.
`Storage.environment` tells the registry where its storage is; it writes nothing.
-/

set_option autoImplicit false

namespace RegistryStorage.Storage

open Invocation

/-- The key of the configured account: the user's, or the account's first one. -/
def accessKey (environment : CloudEnvironment) (account : String) :
    StorageCredentials → Action String
  | .userManaged key => do
    Action.perform (.containers environment)
    return key
  | .cluster credentials => do
    Action.perform (.clients environment credentials)
    Probe.primaryKey account

/-- Asks whether the configured container exists. -/
def checkExists (settings : Settings) (now : Moment) : Invocation Bool := do
  let config := (← get).config
  if config.account = "" ∨ config.container = "" then
    report now .false .notConfigured "Storage is not configured"
    return false
  else
    let credentials ← blaming now .configError "Unable to get configuration: " <|
      ofResult settings.credentials
    let environment ← blaming now .configError "Unable to get cloud environment: " <|
      ofResult (CloudEnvironment.ofName config.cloud settings.customCloud)
    let key ← blaming now .azureError "Unable to get storage account key: " <|
      act (accessKey environment config.account credentials)
    let found ← blaming now .azureError "" <|
      act (Probe.containerExists config.account key config.container)
    if found then report now .true .containerExists "Storage container exists"
    else
      report now .false .containerNotFound
        ("Could not find storage container " ++ config.container)
    return found

/-- The environment variables that point the registry at the configured storage. -/
def environment (settings : Settings) (config : StorageConfig) :
    Action (List RegistryVariable) := do
  let credentials ← Action.ofResult settings.credentials
  let environment ← Action.ofResult (CloudEnvironment.ofName config.cloud settings.customCloud)
  let key ← accessKey environment config.account credentials
  return [⟨RegistryVariable.storageName, "azure", false⟩,
    ⟨RegistryVariable.containerName, config.container, false⟩,
    ⟨RegistryVariable.accountName, config.account, false⟩,
    ⟨RegistryVariable.accountKeyName, key, true⟩] ++
    (if config.cloud = "" then []
     else [⟨RegistryVariable.realmName, environment.storageSuffix, false⟩])

end RegistryStorage.Storage
