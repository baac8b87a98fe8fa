import RegistryStorage.Provider.Resource
import RegistryStorage.Settings.Basic

/-!
Calls to the provider.

Everything that happens outside the program is one of these calls. Each has a type of answers,
so whatever answers calls (a store in memory, a server, a list of refusals) is a function on
calls, and what it may answer is in its type. The first two calls obtain the clients that the
others go through.
-/

set_option autoImplicit false

namespace RegistryStorage

/-- A call to the provider. -/
inductive Call
  /-- Obtains clients with the cluster's credentials. -/
  | clients (environment : CloudEnvironment) (credentials : ClusterCredentials)
  /-- Obtains a client for containers alone, which needs no more than an account key. -/
  | containers (environment : CloudEnvironment)
  | checkName (name : String)
  | createAccount (request : AccountRequest)
  | getAccount (name : String)
  | setAccess (name : String) (access : PublicAccess)
  | listKeys (name : String)
  | deleteAccount (name : String)
  | containerExists (account key container : String)
  | createContainer (account key container : String)
  | deleteContainer (account key container : String)
  | getEndpoint (name : String)
  | createEndpoint (request : EndpointRequest)
  | deleteEndpoint (name : String)
  | getInterface (name : String)
  | putZoneGroup (endpoint group zone : String)
  | deleteZoneGroup (endpoint group : String)
  | putZone (zone location : String) (tags : Tags)
  | putARecord (zone name : String) (ttl : Nat) (address : String)
  | deleteARecord (zone name : String)
  | putLink (request : LinkRequest)
  | deleteLink (zone link : String)
deriving DecidableEq, Inhabited

namespace Call

/-- What a call is answered with when it succeeds. -/
abbrev Answer : Call → Type
  | checkName _ => NameAvailability
  | createAccount _ | getAccount _ => Account
  | listKeys _ => List AccountKey
  | containerExists .. => Bool
  | getEndpoint _ | createEndpoint _ => Endpoint
  | getInterface _ => NetworkInterface
  | _ => Unit

/-- The name of a call. -/
def name : Call → String
  | clients .. => "clients"
  | containers _ => "containers"
  | checkName _ => "check_name_availability"
  | createAccount _ => "create_account"
  | getAccount _ => "get_account"
  | setAccess .. => "update_public_network_access"
  | listKeys _ => "list_keys"
  | deleteAccount _ => "delete_account"
  | containerExists .. => "container_exists"
  | createContainer .. => "create_container"
  | deleteContainer .. => "delete_container"
  | getEndpoint _ => "get_private_endpoint"
  | createEndpoint _ => "create_private_endpoint"
  | deleteEndpoint _ => "delete_private_endpoint"
  | getInterface _ => "get_network_interface"
  | putZoneGroup .. => "create_private_dns_zone_group"
  | deleteZoneGroup .. => "delete_private_dns_zone_group"
  | putZone .. => "create_or_update_zone"
  | putARecord .. => "create_or_update_a_record"
  | deleteARecord .. => "delete_a_record"
  | putLink _ => "create_or_update_vnet_link"
  | deleteLink .. => "delete_vnet_link"

end Call

/-- The answer to a call: what was asked for, or why there is none. -/
abbrev Reply (c : Call) : Type := Except Fault c.Answer

end RegistryStorage
