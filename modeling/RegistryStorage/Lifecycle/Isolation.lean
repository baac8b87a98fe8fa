import RegistryStorage.Naming.Basic
import RegistryStorage.Provider.Program
import RegistryStorage.Record.Config
import RegistryStorage.ResourceId

/-!
Private access to an account.

Five resources lead from the cluster's virtual network to a private account, and they are put
in place in this order: the private endpoint, the DNS zone that all registries share, the
account's address record in it, a zone group on the endpoint, and a link between the zone and
the virtual network. A fault stops the chain where it is. Nothing is taken back: every step
creates or updates, so running the chain again completes it. `removeDns` undoes the steps that
belong to one account and leaves the shared zone.
-/

set_option autoImplicit false

namespace RegistryStorage.Isolation

/-- The DNS zone that all private accounts share. -/
def zone : String := "privatelink.blob.core.windows.net"

/-- The location of DNS zones. -/
def zoneLocation : String := "global"

/-- The zone group on every endpoint. -/
def zoneGroup : String := Naming.zoneGroupName zone

/-- How long an address record may be remembered, in seconds. -/
def addressLifetime : Nat := 10

/-- The resource group of the virtual network: the cluster's, unless another is named. -/
def networkGroup (scope : Scope) (network : InternalNetwork) : String :=
  match network.resourceGroup with
  | some group => if group = "" then scope.resourceGroup else group
  | none => scope.resourceGroup

/-- The network with a name for its endpoint: the recorded one, or one made from the account. -/
def nameEndpoint (account : String) (network : InternalNetwork) : InternalNetwork :=
  if network.endpoint = "" then { network with endpoint := Naming.endpointName account }
  else network

/-- The request for the endpoint of an account. -/
def endpointRequest (scope : Scope) (account : String) (tags : Tags)
    (network : InternalNetwork) : EndpointRequest where
  name := network.endpoint
  location := scope.region
  subnet := ResourceId.subnet scope.subscription (networkGroup scope network) network.vnet
    network.subnet
  target := ResourceId.storageAccount scope.subscription scope.resourceGroup account
  groups := ["blob"]
  interface := network.endpoint ++ "-nic"
  tags := tags

/-- The request for the link between the shared zone and the virtual network. -/
def linkRequest (scope : Scope) (account vnet group : String) (tags : Tags) : LinkRequest where
  zone := zone
  link := account
  location := zoneLocation
  virtualNetwork := ResourceId.virtualNetwork scope.subscription group vnet
  registration := false
  tags := tags

/-- The first of an endpoint's interfaces. -/
def firstInterface (endpoint : Endpoint) : Except Fault String :=
  match endpoint.interfaces with
  | id :: _ => .ok (ResourceId.name id)
  | [] => .error (.api
      ("private endpoint " ++ endpoint.name ++ " did not have any network interfaces"))

/-- The first of an interface's addresses. -/
def firstAddress (interface : NetworkInterface) : Except Fault String :=
  match interface.addresses with
  | address :: _ => .ok address
  | [] => .error (.api
      ("network interface " ++ interface.name ++ " did not have any IP configurations"))

/-- The private address of an endpoint. -/
def endpointAddress (endpoint : Endpoint) : Action String := do
  let name ← Action.ofResult (firstInterface endpoint)
  let interface ← Action.perform (.getInterface name)
  Action.ofResult (firstAddress interface)

/-- Links the shared zone to the virtual network. A link that is there already will do. -/
def link (request : LinkRequest) : Action Unit :=
  ExceptT.mk do
    match ← (Action.perform (.putLink request)).run with
    | .ok () => return .ok ()
    | .error fault => return if fault.isConflict then .ok () else .error fault

/-- Lets the account's name resolve to its endpoint inside the virtual network. -/
def configureDns (scope : Scope) (endpoint : Endpoint) (vnet group account : String)
    (tags : Tags) : Action Unit := do
  Action.perform (.putZone zone zoneLocation tags)
  let address ← endpointAddress endpoint
  Action.perform (.putARecord zone account addressLifetime address)
  Action.perform (.putZoneGroup endpoint.name zoneGroup
    (ResourceId.privateDnsZone scope.subscription scope.resourceGroup zone))
  link (linkRequest scope account vnet group tags)

/-- Configures DNS again for an endpoint that is there. -/
def refreshDns (scope : Scope) (endpoint : Endpoint) (account : String) (tags : Tags)
    (network : InternalNetwork) : Action Unit :=
  configureDns scope endpoint network.vnet (networkGroup scope network) account tags

/-- Creates the endpoint that the network names, and configures DNS for it. -/
def configure (scope : Scope) (account : String) (tags : Tags) (network : InternalNetwork) :
    Action Endpoint := do
  let endpoint ← Action.perform (.createEndpoint (endpointRequest scope account tags network))
  configureDns scope endpoint network.vnet (networkGroup scope network) account tags
  return endpoint

/-- Removes what DNS holds for one account; what is gone already counts as removed. -/
def removeDns (endpoint account : String) : Action Unit := do
  Action.tolerant (Action.perform (.deleteARecord zone account))
  Action.tolerant (Action.perform (.deleteZoneGroup endpoint zoneGroup))
  Action.tolerant (Action.perform (.deleteLink zone account))

end RegistryStorage.Isolation
