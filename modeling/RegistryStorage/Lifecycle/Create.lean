import RegistryStorage.Lifecycle.Assure
import RegistryStorage.Lifecycle.Invocation

/-!
Putting storage in place.

`Storage.create` provisions the account, private access to it if that is wanted, and the
container, in this order, and ends with the record saying so. With an account key in the
settings the storage is the user's: it is only checked for completeness and taken over.
-/

set_option autoImplicit false

namespace RegistryStorage.Storage

open Invocation

/-- Takes over storage that the user manages, if its account and container are named. -/
def adopt (now : Moment) : Invocation Unit := do
  let w ← get
  if w.config.account = "" then
    report now .false .notConfigured
      "Storage account key is provided, but account name is not specified"
  else if w.config.container = "" then
    report now .false .notConfigured
      "Storage account is provided, but container is not specified"
  else
    modifyState fun s =>
      { s with management := some (s.management.getD .unmanaged), status := some w.config }
    report now .true .userManaged "Storage is managed by the user"

/-- The cloud of the cluster is the cloud of new storage, unless the user names another. -/
def takeCloud (infra : Infrastructure) (c : StorageConfig) : StorageConfig :=
  if c.cloud = "" ∧ c.account = "" then
    match infra.platform with
    | some platform => { c with cloud := platform.cloud }
    | none => c
  else c

/-- Refuses private access that does not say which network and subnet. -/
def checkNetwork : NetworkAccess → Except Fault Unit
  | .internal network =>
    if network.vnet = "" ∨ network.subnet = "" then
      .error (.config "internal network access requires both a vnet name and a subnet name")
    else .ok ()
  | .external => .ok ()

/-- Closes the account to the public network, unless it is known to be closed. -/
def closeToPublic (account : String) : Action Unit := do
  if !(← (Probe.isPrivate account : Program Bool)) then
    Action.perform (.setAccess account .disabled)

/-- Opens private access to the account, if the configuration asks for it. -/
def openPrivately (scope : Scope) (infra : Infrastructure) (account : Assured)
    (config : StorageConfig) : Action Unit :=
  match config.network with
  | .internal network => Assure.privateNetwork scope infra account network
  | .external => pure ()

/-- Closes the account to the public network, if the configuration asks for private access. -/
def closePublicly (config : StorageConfig) : Action Unit :=
  if config.network.isInternal then closeToPublic config.account else pure ()

/-- Records that the storage is in place. -/
def settle (now : Moment) (created : Bool) : Invocation Unit := do
  modify fun w => { w with state := { w.state with
    spec := w.config
    status := some w.config
    management :=
      some (w.state.management.getD (if created then .managed else .unmanaged)) } }
  report now .true .containerExists "Storage container exists"

/-- Puts the account, the private access to it and the container in place, and records it. -/
def furnish (scope : Scope) (environment : CloudEnvironment) (infra : Infrastructure)
    (fresh : Fresh) (now : Moment) : Invocation Unit := do
  let config := (← get).config
  let account ← blaming now .azureError "Unable to process storage account: " <|
    keeping false <| act (Assure.account scope environment config infra fresh)
  modifyConfig fun c => { c with account := account.name }
  modifyConfig (StorageConfig.nameEndpoint account.name)
  let config := (← get).config
  blaming now .azureError "Unable to process storage account: " <| keeping account.created <|
    act (openPrivately scope infra account config)
  let container ← blaming now .azureError "Unable to process storage container: " <|
    keeping account.created <| act (Assure.container config infra fresh)
  modifyConfig fun c => { c with container := container.name }
  let created := account.created || container.created
  blaming now .azureError "Unable to disable public network access: " <| keeping created <|
    act (closePublicly config)
  settle now created

/-- Provisions storage with the cluster's credentials. -/
def provision (settings : Settings) (credentials : ClusterCredentials) (infra : Infrastructure)
    (fresh : Fresh) (now : Moment) : Invocation Unit := do
  blaming now .configError "Unable to get infrastructure: " <| ofResult <|
    if infra.name = "" then .error (.config "infrastructure name is not set") else .ok ()
  modifyConfig (takeCloud infra)
  let config := (← get).config
  blaming now .configError "Unable to configure private network access: " <|
    ofResult (checkNetwork config.network)
  let environment ← blaming now .configError "Unable to get cloud environment: " <|
    ofResult (CloudEnvironment.ofName config.cloud settings.customCloud)
  blaming now .azureError "Unable to get azure clients: " <|
    act (Action.perform (.clients environment credentials))
  furnish credentials.scope environment infra fresh now

/-- Puts the storage in place. -/
def create (settings : Settings) (infra : Infrastructure) (fresh : Fresh) (now : Moment) :
    Invocation Unit := do
  match ← blaming now .configError "Unable to get configuration: "
      (ofResult settings.credentials) with
  | .userManaged _ => adopt now
  | .cluster credentials => provision settings credentials infra fresh now

end RegistryStorage.Storage
