import RegistryStorage.Json.Value

/-!
The storage configuration.

A configuration names the account, the container and the cloud, and says how the registry
reaches the account: over the public network, or through a private endpoint in a virtual
network. Names that are not chosen yet are empty. The decoders take a tree and say nothing
about why one is refused; the encoders write the members in the order of the fields.
-/

set_option autoImplicit false

namespace RegistryStorage

open Json (Tree Value)

/-- The virtual network through which a private account is reached. -/
structure InternalNetwork where
  vnet : String := ""
  subnet : String := ""
  /-- The resource group of the virtual network, if it is not the cluster's. -/
  resourceGroup : Option String := none
  /-- The name of the private endpoint, once it has been chosen. -/
  endpoint : String := ""
deriving DecidableEq, Repr, Inhabited

/-- How the registry reaches its account. -/
inductive NetworkAccess
  | external
  | internal (network : InternalNetwork)
deriving DecidableEq, Repr, Inhabited

/-- Which storage the registry uses. -/
structure StorageConfig where
  account : String := ""
  container : String := ""
  cloud : String := ""
  network : NetworkAccess := .external
deriving DecidableEq, Repr, Inhabited

namespace NetworkAccess

/-- Whether the account is reached through a private endpoint. -/
def isInternal : NetworkAccess → Bool
  | internal _ => true
  | external => false

/-- The recorded name of the private endpoint. -/
def endpoint? : NetworkAccess → Option String
  | internal network => if network.endpoint = "" then none else some network.endpoint
  | external => none

/-- Forgets the name of the private endpoint. -/
def clearEndpoint : NetworkAccess → NetworkAccess
  | internal network => internal { network with endpoint := "" }
  | external => external

end NetworkAccess

/-! ## Writing -/

/-- The encoded virtual network; an absent resource group and an empty endpoint name are left
out. -/
def InternalNetwork.encode (n : InternalNetwork) : Value :=
  .object ([("vnetName", .text n.vnet), ("subnetName", .text n.subnet)] ++
    (match n.resourceGroup with
     | some group => [("networkResourceGroup", .text group)]
     | none => []) ++
    (if n.endpoint = "" then [] else [("privateEndpointName", .text n.endpoint)]))

/-- The encoded network access, under a member that names its kind. -/
def NetworkAccess.encode : NetworkAccess → Value
  | external => .object [("type", .text "External")]
  | internal network => .object [("type", .text "Internal"), ("internal", network.encode)]

/-- The encoded configuration. -/
def StorageConfig.encode (c : StorageConfig) : Value :=
  .object [("accountName", .text c.account), ("container", .text c.container),
    ("cloudName", .text c.cloud), ("networkAccess", c.network.encode)]

/-! ## Reading -/

/-- Reads a virtual network. -/
def InternalNetwork.decode? (t : Tree) : Option InternalNetwork := do
  match ← t.fields ["vnetName", "subnetName", "networkResourceGroup", "privateEndpointName"] with
  | [vnet, subnet, group, endpoint] =>
    return {
      vnet := ← Tree.orDefault Tree.text? "" vnet
      subnet := ← Tree.orDefault Tree.text? "" subnet
      resourceGroup := ← Tree.orDefault (Tree.option? Tree.text?) none group
      endpoint := ← Tree.orDefault Tree.text? "" endpoint }
  | _ => none

/-- Reads the virtual network of an access of the kind `Internal`, from what stands beside the
kind. -/
def NetworkAccess.decodeInternal? (beside : Tree) : Option NetworkAccess := do
  match ← beside.fields ["internal"] with
  | [network] => internal <$> Tree.orDefault InternalNetwork.decode? {} network
  | _ => none

/-- Reads a network access that lies `depth` deep. The kind decides what else is read, so all
of it has to be a free-form value first. -/
def NetworkAccess.decode? (depth : Nat) (t : Tree) : Option NetworkAccess := do
  let _ ← t.value? depth
  match t with
  | .object members =>
    match Tree.valuesOf "type" members with
    | [.text (some "External")] => some external
    | [.text (some "Internal")] => decodeInternal? (.object members)
    | _ => none
  | .list [.text (some "External")] => some external
  | .list (.text (some "Internal") :: rest) => decodeInternal? (.list rest)
  | _ => none

/-- Reads a configuration that lies `depth` deep. -/
def StorageConfig.decode? (depth : Nat) (t : Tree) : Option StorageConfig := do
  match ← t.fields ["accountName", "container", "cloudName", "networkAccess"] with
  | [account, container, cloud, network] =>
    return {
      account := ← Tree.orDefault Tree.text? "" account
      container := ← Tree.orDefault Tree.text? "" container
      cloud := ← Tree.orDefault Tree.text? "" cloud
      network := ← Tree.orDefault (NetworkAccess.decode? (depth + 1)) .external network }
  | _ => none

end RegistryStorage
