/-!
The registry's environment.

The registry learns from environment variables which storage it is to use. A variable whose
value is secret is masked before it is shown, unless the user asks otherwise.
-/

set_option autoImplicit false

namespace RegistryStorage

/-- An environment variable of the registry. -/
structure RegistryVariable where
  name : String
  value : String
  secret : Bool := false
deriving DecidableEq, Repr, Inhabited

namespace RegistryVariable

/-- Names the kind of storage. -/
def storageName : String := "REGISTRY_STORAGE"
/-- Names the container. -/
def containerName : String := "REGISTRY_STORAGE_AZURE_CONTAINER"
/-- Names the storage account. -/
def accountName : String := "REGISTRY_STORAGE_AZURE_ACCOUNTNAME"
/-- Holds the account's key. -/
def accountKeyName : String := "REGISTRY_STORAGE_AZURE_ACCOUNTKEY"
/-- Holds the storage suffix of the cloud. -/
def realmName : String := "REGISTRY_STORAGE_AZURE_REALM"

/-- The variable with its value hidden if that is secret. -/
def masked (v : RegistryVariable) : RegistryVariable :=
  if v.secret then { v with value := "********" } else v

/-- The variable as an assignment. -/
def assignment (v : RegistryVariable) : String := v.name ++ "=" ++ v.value

end RegistryVariable

end RegistryStorage
