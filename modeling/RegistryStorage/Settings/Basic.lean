import RegistryStorage.CloudEnvironment
import RegistryStorage.Json.Value
import RegistryStorage.Polling
import RegistryStorage.RegistryVariable

/-!
Settings and credentials.

The settings say how the program reaches the provider. A storage key in them means that the
user manages the storage and nothing is provisioned; without one the cluster's credentials are
used, and those have to be complete. `credentials` makes that choice.
-/

set_option autoImplicit false

namespace RegistryStorage

open Json (Tree Value)

/-- The settings of the program. Texts that are not set are empty. -/
structure Settings where
  debug : Bool := false
  subscription : String := ""
  tenant : String := ""
  client : String := ""
  clientSecret : Option String := none
  /-- The path of a file with a token that stands for the client secret. -/
  tokenFile : Option String := none
  resourceGroup : String := ""
  region : String := ""
  /-- The key of an account that the user manages. -/
  accountKey : Option String := none
  /-- Seconds between two questions after a long-running operation. -/
  pollInterval : Nat := 10
  /-- Seconds after which a long-running operation is given up. -/
  pollTimeout : Nat := 180
  customCloud : Option CloudEndpoints := none
deriving DecidableEq, Repr, Inhabited

/-- How the cluster identifies itself, and where its resources live. -/
structure ClusterCredentials where
  subscription : String
  tenant : String
  client : String
  clientSecret : Option String
  tokenFile : Option String
  resourceGroup : String
  region : String
deriving DecidableEq, Repr, Inhabited

/-- The credentials the storage is reached with. -/
inductive StorageCredentials
  /-- The key of an account that the user manages. -/
  | userManaged (accountKey : String)
  /-- The credentials with which storage is provisioned. -/
  | cluster (credentials : ClusterCredentials)
deriving DecidableEq, Repr, Inhabited

/-- The subscription, resource group and region that the cluster's resources live in. -/
structure Scope where
  subscription : String
  resourceGroup : String
  region : String
deriving DecidableEq, Repr, Inhabited

/-- Where the resources of a cluster live. -/
def ClusterCredentials.scope (c : ClusterCredentials) : Scope :=
  ⟨c.subscription, c.resourceGroup, c.region⟩

/-- Whether a secret is set and holds more than blanks. -/
def hasSecret (secret : Option String) : Bool :=
  match secret with
  | some s => !Text.isAllBlank s
  | none => false

namespace Settings

/-! ## Credentials -/

/-- The options that the cluster's credentials lack, in a fixed order. -/
def missing (s : Settings) : List String :=
  let unset (name value : String) : List String := if value = "" then [name] else []
  unset "subscription_id" s.subscription ++ unset "tenant_id" s.tenant ++
    unset "client_id" s.client ++
    (if !hasSecret s.clientSecret && s.tokenFile.isNone then
      ["client_secret", "federated_token_file"] else []) ++
    unset "resource_group" s.resourceGroup ++ unset "region" s.region

/-- Refuses settings whose cluster credentials are not complete. -/
def validate (s : Settings) : Except Fault Unit :=
  match s.missing with
  | [] => .ok ()
  | names =>
    .error (.config ("client misconfigured, missing " ++
      ", ".intercalate (names.map fun name => "'" ++ name ++ "'") ++ " option(s)"))

/-- The cluster's credentials as far as they are set. -/
def cluster (s : Settings) : ClusterCredentials :=
  ⟨s.subscription, s.tenant, s.client, s.clientSecret, s.tokenFile, s.resourceGroup, s.region⟩

/-- The credentials to use: an account key if one is set, else the cluster's credentials. -/
def credentials (s : Settings) : Except Fault StorageCredentials :=
  match s.accountKey with
  | some key =>
    if Text.isAllBlank key then
      .error (.config ("the setting " ++ RegistryVariable.accountKeyName ++
        " has an empty value; it should be removed so that the cluster credentials are used " ++
        "or it should contain a valid storage account access key"))
    else .ok (.userManaged key)
  | none => do
    s.validate
    return .cluster s.cluster

/-- How long-running operations are waited for. -/
def poll (s : Settings) : PollOptions := ⟨second * s.pollInterval, second * s.pollTimeout⟩

end Settings

/-! ## Reading and writing -/

/-- The names of the fields of the endpoints of a cloud. -/
def CloudEndpoints.fieldNames : List String :=
  ["resource_manager_endpoint", "active_directory_endpoint", "token_audience",
    "storage_endpoint_suffix"]

/-- Reads the endpoints of a cloud; no field may be left out. -/
def CloudEndpoints.decode? (t : Tree) : Option CloudEndpoints := do
  match ← t.fields CloudEndpoints.fieldNames with
  | [some manager, some directory, some audience, some suffix] =>
    return ⟨← manager.text?, ← directory.text?, ← audience.text?, ← suffix.text?⟩
  | _ => none

/-- Encoded endpoints, as members of an object. -/
def CloudEndpoints.members (c : CloudEndpoints) : List (String × Value) :=
  [("resource_manager_endpoint", .text c.resourceManager),
    ("active_directory_endpoint", .text c.activeDirectory),
    ("token_audience", .text c.tokenAudience),
    ("storage_endpoint_suffix", .text c.storageSuffix)]

/-- Reads a cloud environment; no field may be left out. -/
def CloudEnvironment.decode? (t : Tree) : Option CloudEnvironment := do
  match ← t.fields ("name" :: CloudEndpoints.fieldNames) with
  | [some name, some manager, some directory, some audience, some suffix] =>
    return {
      name := ← name.text?
      resourceManager := ← manager.text?
      activeDirectory := ← directory.text?
      tokenAudience := ← audience.text?
      storageSuffix := ← suffix.text? }
  | _ => none

/-- The encoded environment. -/
def CloudEnvironment.encode (e : CloudEnvironment) : Value :=
  .object (("name", .text e.name) :: e.toCloudEndpoints.members)

namespace Settings

/-- The names of the fields, in order. -/
def fieldNames : List String :=
  ["debug", "subscription_id", "tenant_id", "client_id", "client_secret", "federated_token_file",
    "resource_group", "region", "account_key", "poll_interval_secs", "poll_timeout_secs",
    "custom_cloud"]

/-- Reads settings; fields left out have their defaults. -/
def decode? (t : Tree) : Option Settings := do
  match ← t.fields fieldNames with
  | [debug, subscription, tenant, client, secret, tokenFile, group, region, key, interval,
      timeout, custom] =>
    let text := Tree.orDefault Tree.text? ""
    let optionalText := Tree.orDefault (Tree.option? Tree.text?) none
    return {
      debug := ← Tree.orDefault Tree.bool? false debug
      subscription := ← text subscription
      tenant := ← text tenant
      client := ← text client
      clientSecret := ← optionalText secret
      tokenFile := ← optionalText tokenFile
      resourceGroup := ← text group
      region := ← text region
      accountKey := ← optionalText key
      pollInterval := ← Tree.orDefault Tree.count? 10 interval
      pollTimeout := ← Tree.orDefault Tree.count? 180 timeout
      customCloud := ← Tree.orDefault (Tree.option? CloudEndpoints.decode?) none custom }
  | _ => none

/-- The encoded settings. -/
def encode (s : Settings) : Value :=
  .object [("debug", .bool s.debug), ("subscription_id", .text s.subscription),
    ("tenant_id", .text s.tenant), ("client_id", .text s.client),
    ("client_secret", Value.ofText? s.clientSecret),
    ("federated_token_file", Value.ofText? s.tokenFile),
    ("resource_group", .text s.resourceGroup), ("region", .text s.region),
    ("account_key", Value.ofText? s.accountKey),
    ("poll_interval_secs", Value.ofNat s.pollInterval),
    ("poll_timeout_secs", Value.ofNat s.pollTimeout),
    ("custom_cloud", match s.customCloud with
      | some endpoints => .object endpoints.members
      | none => .null)]

end Settings

end RegistryStorage
