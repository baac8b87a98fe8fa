import RegistryStorage.Fault
import RegistryStorage.Text.Blank
import RegistryStorage.Text.Case

/-!
Cloud environments.

A cloud is known by its name; what the program needs to know about it are four endpoints.
Four clouds have fixed endpoints. `AzureStackCloud` runs on hardware of its own, so its
endpoints come from the settings.
-/

set_option autoImplicit false

namespace RegistryStorage

/-- Where the services of a cloud are found. -/
structure CloudEndpoints where
  resourceManager : String := ""
  activeDirectory : String := ""
  tokenAudience : String := ""
  storageSuffix : String := ""
deriving DecidableEq, Repr, Inhabited

/-- A cloud under its canonical name. -/
structure CloudEnvironment extends CloudEndpoints where
  name : String
deriving DecidableEq, Repr, Inhabited

namespace CloudEnvironment

/-- The public cloud, also meant by an empty name. -/
def publicCloud : CloudEnvironment where
  name := "AzurePublicCloud"
  resourceManager := "https://management.azure.com"
  activeDirectory := "https://login.microsoftonline.com"
  tokenAudience := "https://management.azure.com"
  storageSuffix := "core.windows.net"

/-- The cloud of the United States government. -/
def usGovernment : CloudEnvironment where
  name := "AzureUSGovernmentCloud"
  resourceManager := "https://management.usgovcloudapi.net"
  activeDirectory := "https://login.microsoftonline.us"
  tokenAudience := "https://management.usgovcloudapi.net"
  storageSuffix := "core.usgovcloudapi.net"

/-- The cloud in China. -/
def china : CloudEnvironment where
  name := "AzureChinaCloud"
  resourceManager := "https://management.chinacloudapi.cn"
  activeDirectory := "https://login.chinacloudapi.cn"
  tokenAudience := "https://management.chinacloudapi.cn"
  storageSuffix := "core.chinacloudapi.cn"

/-- The cloud in Germany. -/
def german : CloudEnvironment where
  name := "AzureGermanCloud"
  resourceManager := "https://management.microsoftazure.de"
  activeDirectory := "https://login.microsoftonline.de"
  tokenAudience := "https://management.microsoftazure.de"
  storageSuffix := "core.cloudapi.de"

/-- The canonical name of the cloud whose endpoints the settings give. -/
def stackName : String := "AzureStackCloud"

/-- The cloud of a name, in any spelling of upper and lower case. -/
def ofName (name : String) (custom : Option CloudEndpoints) : Except Fault CloudEnvironment :=
  if name = "" then .ok publicCloud
  else
    let capitals := Text.upper name
    if capitals = "AZUREPUBLICCLOUD" then .ok publicCloud
    else if capitals = "AZUREUSGOVERNMENTCLOUD" then .ok usGovernment
    else if capitals = "AZURECHINACLOUD" then .ok china
    else if capitals = "AZUREGERMANCLOUD" then .ok german
    else if capitals = "AZURESTACKCLOUD" then
      match custom with
      | some endpoints => .ok { endpoints with name := stackName }
      | none =>
        .error (.config "AzureStackCloud requires custom cloud endpoints in the settings")
    else
      .error (.config
        ("autorest/azure: There is no cloud environment matching the name \"" ++ name ++ "\""))

/-- Whether the cloud offers only the older kind of storage account. -/
def isStack (e : CloudEnvironment) : Bool :=
  e.name.toList.map Char.toLower == stackName.toList.map Char.toLower

/-- The scope of a token for the cloud's resource manager. -/
def tokenScope (e : CloudEnvironment) : String :=
  let audience := Text.dropEndSlashes e.tokenAudience
  if "/.default".toList.isSuffixOf audience.toList then audience else audience ++ "/.default"

/-- The blob service of a storage account. -/
def blobServiceUrl (e : CloudEnvironment) (account : String) : String :=
  "https://" ++ account ++ ".blob." ++ e.storageSuffix

end CloudEnvironment

end RegistryStorage
