import RegistryStorage.Lifecycle.Isolation
import RegistryStorage.Lifecycle.Probe
import RegistryStorage.Record.Config

/-!
Making sure that resources exist.

Each step looks first and creates only what is missing, and says whether it created anything.
A name that the user gave and that is taken is assumed to be the user's own account; a
generated name that is taken is a fault.
-/

set_option autoImplicit false

namespace RegistryStorage

/-- The randomness of one invocation. -/
structure Fresh where
  draws : Naming.Draws
  serial : Naming.Serial
deriving Inhabited

/-- A resource that exists, and whether this invocation created it. -/
structure Assured where
  name : String
  created : Bool
deriving DecidableEq, Repr, Inhabited

namespace Assure

/-- The name of the account to use, and whether it was generated. -/
def accountName (config : StorageConfig) (infra : Infrastructure) (fresh : Fresh) :
    Except Fault (String × Bool) :=
  if config.account = "" then .ok ((Naming.accountName infra.name fresh.draws).1, true)
  else do
    Naming.validateAccountName config.account
    return (config.account, false)

/-- Makes sure that the account exists. -/
def account (scope : Scope) (environment : CloudEnvironment) (config : StorageConfig)
    (infra : Infrastructure) (fresh : Fresh) : Action Assured := do
  let (name, generated) ← Action.ofResult (accountName config infra fresh)
  let availability ← Action.perform (.checkName name)
  if availability.available then
    let _ ← Action.perform (.createAccount
      (AccountRequest.forRegistry name scope.region infra.tags environment.isStack))
    return ⟨name, true⟩
  else if generated then
    throw (.nameNotAvailable name (availability.reason.getD "unknown"))
  else return ⟨name, false⟩

/-- Makes sure that the endpoint named in the network leads to the account. A new account gets
the whole chain. For one that was there the endpoint is created only if it is missing, and DNS
is configured in any case, because an earlier invocation may have stopped anywhere. -/
def privateNetwork (scope : Scope) (infra : Infrastructure) (account : Assured)
    (network : InternalNetwork) : Action Unit := do
  if account.created then
    let _ ← Isolation.configure scope account.name infra.tags network
  else
    match ← Probe.endpoint? network.endpoint with
    | some endpoint => Isolation.refreshDns scope endpoint account.name infra.tags network
    | none => let _ ← Isolation.configure scope account.name infra.tags network

/-- Makes sure that the container exists in the configuration's account. -/
def container (config : StorageConfig) (infra : Infrastructure) (fresh : Fresh) :
    Action Assured := do
  if config.container ≠ "" then
    Action.ofResult (Naming.validateContainerName config.container)
  let key ← Probe.primaryKey config.account
  if config.container = "" then
    let name := Naming.containerName infra.name fresh.serial
    Action.perform (.createContainer config.account key name)
    return ⟨name, true⟩
  else if ← Probe.containerExists config.account key config.container then
    return ⟨config.container, false⟩
  else
    Action.perform (.createContainer config.account key config.container)
    return ⟨config.container, true⟩

end Assure

namespace StorageConfig

/-- The configuration with a name for the private endpoint, where one is needed. -/
def nameEndpoint (account : String) (c : StorageConfig) : StorageConfig :=
  match c.network with
  | .internal network => { c with network := .internal (Isolation.nameEndpoint account network) }
  | .external => c

end StorageConfig

end RegistryStorage
