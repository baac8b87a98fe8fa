import RegistryStorage.Record.Infrastructure

/-!
What the provider keeps.

Requests to the provider and its answers, reduced to the fields that matter here: storage
accounts and their keys, private endpoints and their network interfaces, and links between a
DNS zone and a virtual network.
-/

set_option autoImplicit false

namespace RegistryStorage

/-- The provider's word on whether a name can be used for a new account. -/
structure NameAvailability where
  available : Bool
  reason : Option String := none
  message : Option String := none
deriving DecidableEq, Repr, Inhabited

/-- The generation of a storage account. -/
inductive AccountKind
  | current
  /-- The only kind that a cloud on its own hardware offers. -/
  | legacy
deriving DecidableEq, Repr, Inhabited

/-- The provider's word for a kind of account. -/
def AccountKind.text : AccountKind → String
  | current => "StorageV2"
  | legacy => "Storage"

/-- The security properties of a new account. -/
structure AccountSecurity where
  httpsOnly : Bool
  publicBlobs : Bool
  minimumTls : String
deriving DecidableEq, Repr, Inhabited

/-- What is asked for when an account is created. -/
structure AccountRequest where
  name : String
  location : String
  kind : AccountKind
  sku : String
  tags : Tags
  /-- The legacy kind takes no security properties. -/
  security : Option AccountSecurity
deriving DecidableEq, Inhabited

/-- The request for a new account of the registry. -/
def AccountRequest.forRegistry (name location : String) (tags : Tags) (legacy : Bool) :
    AccountRequest where
  name := name
  location := location
  kind := if legacy then .legacy else .current
  sku := "Standard_LRS"
  tags := tags
  security := if legacy then none else some ⟨true, false, "TLS1_2"⟩

/-- Whether an account can be reached over the public network. -/
inductive PublicAccess
  | enabled
  | disabled
deriving DecidableEq, Repr, Inhabited

/-- The provider's word for a setting of public access. -/
def PublicAccess.text : PublicAccess → String
  | enabled => "Enabled"
  | disabled => "Disabled"

/-- The setting that a word names. -/
def PublicAccess.ofText? : String → Option PublicAccess
  | "Enabled" => some enabled
  | "Disabled" => some disabled
  | _ => none

/-- A storage account. -/
structure Account where
  id : String
  name : String
  location : String
  access : Option PublicAccess
  tags : Tags
deriving DecidableEq, Inhabited

/-- A key of an account. -/
structure AccountKey where
  name : String
  value : String
deriving DecidableEq, Repr, Inhabited

/-- What is asked for when a private endpoint is created. -/
structure EndpointRequest where
  name : String
  location : String
  subnet : String
  /-- The identifier of the account that the endpoint connects to. -/
  target : String
  groups : List String
  interface : String
  tags : Tags
deriving DecidableEq, Inhabited

/-- A private endpoint. -/
structure Endpoint where
  id : String
  name : String
  /-- The identifiers of its network interfaces. -/
  interfaces : List String
deriving DecidableEq, Repr, Inhabited

/-- A network interface. -/
structure NetworkInterface where
  id : String
  name : String
  /-- Its private addresses, in order. -/
  addresses : List String
deriving DecidableEq, Repr, Inhabited

/-- What is asked for when a DNS zone is linked to a virtual network. -/
structure LinkRequest where
  zone : String
  link : String
  location : String
  virtualNetwork : String
  registration : Bool
  tags : Tags
deriving DecidableEq, Inhabited

end RegistryStorage
