import RegistryStorage.Files.Content
import RegistryStorage.Settings.Basic
import RegistryStorage.Toml.Document

/-!
Where settings come from.

The settings file is TOML, or else JSON. A variable of the program's environment counts more
than the file, and what neither gives has its default. `Settings.path` says where the file is
when nobody names one.
-/

set_option autoImplicit false

namespace RegistryStorage

open Json (Tree)

/-- The variables of the program's environment. -/
abbrev Variables : Type := Dict String String

namespace Settings

/-- The settings that the text of a file holds. -/
def ofText? (text : String) : Option Settings :=
  match (Toml.read? text).bind decode? with
  | some s => some s
  | none => (Tree.read? text).bind decode?

/-- The settings that a file holds; those by default if there is no file. -/
def ofContent : Content → Except Fault Settings
  | .missing => .ok {}
  | .unreadable reason => .error (.io reason)
  | .text text =>
    match ofText? text with
    | some s => .ok s
    | none => .error (.json "the settings cannot be read")

/-- The number of seconds that a variable gives: digits, with a plus sign in front if need be,
of a number of 64 bits. -/
def seconds? (value : String) : Option Nat :=
  let digits : List Char := match value.toList with
    | '+' :: r => r
    | r => r
  let n : Nat := digits.foldl (fun n c => 10 * n + (c.toNat - 48)) 0
  if !digits.isEmpty && digits.all Char.isDigit && n < Nat.pow 2 64 then some n else none

/-- The variables that count for the settings. -/
def variableNames : List String :=
  ["DEBUG", "AZURE_SUBSCRIPTION_ID", "AZURE_TENANT_ID", "AZURE_CLIENT_ID", "AZURE_CLIENT_SECRET",
    "AZURE_FEDERATED_TOKEN_FILE", "AZURE_RESOURCE_GROUP", "AZURE_REGION",
    RegistryVariable.accountKeyName, "AZSTORE_POLL_INTERVAL_SECS", "AZSTORE_POLL_TIMEOUT_SECS",
    "XDG_CONFIG_HOME", "HOME"]

/-- The settings with what the environment says over them. -/
def overlaid (s : Settings) (env : Variables) : Settings :=
  let text (name old : String) : String := (env.get? name).getD old
  let seconds (name : String) (old : Nat) : Nat := ((env.get? name).bind seconds?).getD old
  { s with
    debug := match env.get? "DEBUG" with
      | some value => Text.lower value == "true" || value == "1"
      | none => s.debug
    subscription := text "AZURE_SUBSCRIPTION_ID" s.subscription
    tenant := text "AZURE_TENANT_ID" s.tenant
    client := text "AZURE_CLIENT_ID" s.client
    clientSecret := (env.get? "AZURE_CLIENT_SECRET").or s.clientSecret
    tokenFile := (env.get? "AZURE_FEDERATED_TOKEN_FILE").or s.tokenFile
    resourceGroup := text "AZURE_RESOURCE_GROUP" s.resourceGroup
    region := text "AZURE_REGION" s.region
    accountKey := (env.get? RegistryVariable.accountKeyName).or s.accountKey
    pollInterval := seconds "AZSTORE_POLL_INTERVAL_SECS" s.pollInterval
    pollTimeout := seconds "AZSTORE_POLL_TIMEOUT_SECS" s.pollTimeout }

/-- The settings that a file and the environment give. -/
def load (file : Content) (env : Variables) : Except Fault Settings := do
  return (← ofContent file).overlaid env

/-- A path below another one; an absolute path stands for itself. -/
def below (directory path : String) : String :=
  if directory = "" ∨ path.toList.head? = some '/' then path
  else if directory.toList.getLast? = some '/' then directory ++ path
  else directory ++ "/" ++ path

/-- Where the settings file is when nobody names one. -/
def path (env : Variables) : Except Fault String := do
  let configuration ← match env.get? "XDG_CONFIG_HOME", env.get? "HOME" with
    | some directory, _ => pure directory
    | none, some home => pure (below home ".config")
    | none, none => throw (.config "HOME environment variable not set")
  return below configuration "azstore/azstore.toml"

end Settings

end RegistryStorage
