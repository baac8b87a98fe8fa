import RegistryStorage.Provider.Program
import RegistryStorage.ResourceId

/-!
A provider in memory.

An `Inventory` holds what exists in a subscription, and `reply` answers calls from it: a look
finds what was created and not deleted since, and touching something absent is a fault with
status 404. Nothing else fails. Names of accounts are unique among all subscriptions, so the
inventory also knows of names that others hold.

What is created is kept as the request asked for it, whole; of a zone the name is kept, and of an
address record the address. The interface of an endpoint is there as long as an endpoint that
brings it (`Inventory.addresses?`). An inventory may also hold accounts with keys of their own,
endpoints that report another name or other interfaces, and interfaces that stand by themselves.
-/

set_option autoImplicit false

namespace RegistryStorage

/-- A storage account that exists. -/
structure StoredAccount where
  /-- What was asked for when it was created. -/
  request : AccountRequest
  access : Option PublicAccess := some .enabled
  /-- Its keys, where they are not made from its name. -/
  keys : Option (List String) := none
deriving DecidableEq, Inhabited

/-- An account that was there from the start, with the properties of the registry's own. -/
def StoredAccount.named (name : String) : StoredAccount where
  request := .forRegistry name "eastus" {} false

/-- A private endpoint that exists. -/
structure StoredEndpoint where
  /-- What was asked for when it was created. -/
  request : EndpointRequest
  /-- The identifiers of its interfaces, where it does not bring the one that was asked for. -/
  given : Option (List String) := none
  /-- The name it gives as its own, where that is another one. -/
  reports : Option String := none
deriving DecidableEq, Inhabited

/-- The interface that an endpoint brings: the one that was asked for, unless it was given others. -/
def StoredEndpoint.interface? (e : StoredEndpoint) : Option String :=
  match e.given with
  | none => some e.request.interface
  | some _ => none

/-- What exists. -/
structure Inventory where
  accounts : Dict String StoredAccount := {}
  /-- Account names that others hold. -/
  foreign : Dict String Unit := {}
  /-- Whether every account name is held by someone. -/
  allTaken : Bool := false
  /-- What is said about every account name, if that does not depend on who holds it. -/
  availability : Option NameAvailability := none
  /-- Containers, by account and name. -/
  containers : Dict (String × String) Unit := {}
  endpoints : Dict String StoredEndpoint := {}
  /-- The interfaces that every new endpoint is given, if not one of its own. -/
  sharedInterfaces : Option (List String) := none
  /-- The addresses of interfaces that no endpoint brings. -/
  interfaces : Dict String (List String) := {}
  zones : Dict String Unit := {}
  /-- Addresses, by zone and name. -/
  aRecords : Dict (String × String) String := {}
  /-- Zones joined to endpoints, by endpoint and group. -/
  zoneGroups : Dict (String × String) String := {}
  /-- What was asked for when virtual networks were linked to zones, by zone and link. -/
  links : Dict (String × String) LinkRequest := {}
deriving DecidableEq, Inhabited

namespace Inventory

/-- The fault of a resource that does not exist. -/
def absent (kind name : String) : Fault :=
  .response 404 "ResourceNotFound" (kind ++ " '" ++ name ++ "' was not found")

/-- The kind of storage accounts. -/
def accountKind : String := "Microsoft.Storage/storageAccounts"
/-- The kind of private endpoints. -/
def endpointKind : String := "Microsoft.Network/privateEndpoints"
/-- The kind of network interfaces. -/
def interfaceKind : String := "Microsoft.Network/networkInterfaces"

/-- The address of an interface that an endpoint brings. -/
def firstAddress : String := "10.0.1.4"

/-- The identifier of a resource in the inventory's resource group. -/
def idOf (home : Scope) (kind name : String) : String :=
  ResourceId.inGroup home.subscription home.resourceGroup (kind ++ "/" ++ name)

/-- A stored account, as it is answered. -/
def account (home : Scope) (name : String) (a : StoredAccount) : Account :=
  ⟨idOf home accountKind name, name, a.request.location, a.access, a.request.tags⟩

/-- The identifiers of the interfaces of a stored endpoint. -/
def interfacesOf (home : Scope) (e : StoredEndpoint) : List String :=
  e.given.getD [idOf home interfaceKind e.request.interface]

/-- A stored endpoint, as it is answered. -/
def endpoint (home : Scope) (name : String) (e : StoredEndpoint) : Endpoint :=
  ⟨idOf home endpointKind name, e.reports.getD name, interfacesOf home e⟩

/-- The keys of a stored account. -/
def keys (name : String) (a : StoredAccount) : List AccountKey :=
  let values := a.keys.getD [name ++ "-key1", name ++ "-key2"]
  (List.range values.length).zipWith (fun i value => ⟨"key" ++ toString (i + 1), value⟩) values

/-- Whether an account name is held by someone. -/
def isTaken (i : Inventory) (name : String) : Bool :=
  i.allTaken || i.accounts.contains name || i.foreign.contains name

/-- What is said about an account name. -/
def availabilityOf (i : Inventory) (name : String) : NameAvailability :=
  match i.availability with
  | some answer => answer
  | none => if i.isTaken name then ⟨false, some "AlreadyExists", none⟩ else ⟨true, none, none⟩

/-- The inventory with a new account. -/
def addAccount (i : Inventory) (r : AccountRequest) : Inventory :=
  { i with accounts := i.accounts.insert r.name { request := r } }

/-- The inventory without an account and its containers. -/
def dropAccount (i : Inventory) (name : String) : Inventory :=
  { i with
    accounts := i.accounts.erase name
    containers := i.containers.filter fun key _ => key.1 != name }

/-- The endpoint that a request makes. -/
def newEndpoint (i : Inventory) (r : EndpointRequest) : StoredEndpoint where
  request := r
  given := i.sharedInterfaces

/-- The inventory with a new endpoint. -/
def addEndpoint (i : Inventory) (r : EndpointRequest) : Inventory :=
  { i with endpoints := i.endpoints.insert r.name (i.newEndpoint r) }

/-- Whether an endpoint that exists brings an interface of some name. -/
def brings (i : Inventory) (interface : String) : Bool :=
  i.endpoints.any fun _ e => e.interface? == some interface

/-- The addresses of an interface, if there is one of that name. -/
def addresses? (i : Inventory) (interface : String) : Option (List String) :=
  match i.interfaces.get? interface with
  | some addresses => some addresses
  | none => if i.brings interface then some [firstAddress] else none

/-- Answers a call. -/
def reply (home : Scope) : Replier Inventory
  | .clients .., i => (.ok (), i)
  | .containers _, i => (.ok (), i)
  | .checkName name, i => (.ok (i.availabilityOf name), i)
  | .createAccount r, i =>
    (.ok (account home r.name { request := r }), i.addAccount r)
  | .getAccount name, i =>
    match i.accounts.get? name with
    | some a => (.ok (account home name a), i)
    | none => (.error (absent accountKind name), i)
  | .setAccess name access, i =>
    match i.accounts.get? name with
    | some a =>
      (.ok (), { i with accounts := i.accounts.insert name { a with access := some access } })
    | none => (.error (absent accountKind name), i)
  | .listKeys name, i =>
    match i.accounts.get? name with
    | some a => (.ok (keys name a), i)
    | none => (.error (absent accountKind name), i)
  | .deleteAccount name, i =>
    if i.accounts.contains name then (.ok (), i.dropAccount name)
    else (.error (absent accountKind name), i)
  | .containerExists account _ container, i => (.ok (i.containers.contains (account, container)), i)
  | .createContainer account _ container, i =>
    (.ok (), { i with containers := i.containers.insert (account, container) () })
  | .deleteContainer account _ container, i =>
    if i.containers.contains (account, container) then
      (.ok (), { i with containers := i.containers.erase (account, container) })
    else
      (.error (.response 404 "ContainerNotFound" "The specified container does not exist."), i)
  | .getEndpoint name, i =>
    match i.endpoints.get? name with
    | some e => (.ok (endpoint home name e), i)
    | none => (.error (absent endpointKind name), i)
  | .createEndpoint r, i =>
    (.ok (endpoint home r.name (i.newEndpoint r)), i.addEndpoint r)
  | .deleteEndpoint name, i =>
    if i.endpoints.contains name then (.ok (), { i with endpoints := i.endpoints.erase name })
    else (.error (absent endpointKind name), i)
  | .getInterface name, i =>
    match i.addresses? name with
    | some addresses => (.ok ⟨"/networkInterfaces/" ++ name, name, addresses⟩, i)
    | none => (.error (absent interfaceKind name), i)
  | .putZoneGroup endpoint group zone, i =>
    (.ok (), { i with zoneGroups := i.zoneGroups.insert (endpoint, group) zone })
  | .deleteZoneGroup endpoint group, i =>
    if i.zoneGroups.contains (endpoint, group) then
      (.ok (), { i with zoneGroups := i.zoneGroups.erase (endpoint, group) })
    else (.error (absent "privateDnsZoneGroups" group), i)
  | .putZone zone _ _, i => (.ok (), { i with zones := i.zones.insert zone () })
  | .putARecord zone name _ address, i =>
    (.ok (), { i with aRecords := i.aRecords.insert (zone, name) address })
  | .deleteARecord zone name, i =>
    if i.aRecords.contains (zone, name) then
      (.ok (), { i with aRecords := i.aRecords.erase (zone, name) })
    else (.error (absent "A" name), i)
  | .putLink r, i =>
    (.ok (), { i with links := i.links.insert (r.zone, r.link) r })
  | .deleteLink zone link, i =>
    if i.links.contains (zone, link) then
      (.ok (), { i with links := i.links.erase (zone, link) })
    else (.error (absent "virtualNetworkLinks" link), i)

end Inventory

end RegistryStorage
