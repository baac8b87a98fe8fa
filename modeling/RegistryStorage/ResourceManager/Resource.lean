import RegistryStorage.Provider.Call
import RegistryStorage.ResourceManager.Client

/-!
The resources of the resource manager.

Each call that concerns accounts, networks or DNS is a request or a few; `ResourceManager.reply?`
says which. What a request says is built from the call by the functions of the first section,
and what its answer says is read by those of the second: a field that is missing or of another
type is left empty, but a resource has to tell its name.
-/

set_option autoImplicit false

namespace RegistryStorage

open Json (Value)

/-! ## What is said -/

/-- The request for a new account as a value. -/
def AccountRequest.body (r : AccountRequest) : Value :=
  .ofMembers [("location", .text r.location), ("kind", .text r.kind.text),
    ("sku", .ofMembers [("name", .text r.sku)]), ("tags", r.tags.encode),
    ("properties", match r.security with
      | some security => .ofMembers [("supportsHttpsTrafficOnly", .bool security.httpsOnly),
          ("allowBlobPublicAccess", .bool security.publicBlobs),
          ("minimumTlsVersion", .text security.minimumTls)]
      | none => .object [])]

/-- The request for a new private endpoint as a value. -/
def EndpointRequest.body (r : EndpointRequest) : Value :=
  let connection : Value := .ofMembers [("name", .text r.name),
    ("properties", .ofMembers [("privateLinkServiceId", .text r.target),
      ("groupIds", .list (r.groups.map .text))])]
  .ofMembers [("location", .text r.location), ("tags", r.tags.encode),
    ("properties", .ofMembers [("customNetworkInterfaceName", .text r.interface),
      ("subnet", .ofMembers [("id", .text r.subnet)]),
      ("privateLinkServiceConnections", .list [connection])])]

/-- The request that joins a zone to an endpoint as a value. -/
def zoneGroupBody (group zone : String) : Value :=
  let config : Value := .ofMembers [("name", .text group),
    ("properties", .ofMembers [("privateDnsZoneId", .text zone)])]
  .ofMembers [("properties", .ofMembers [("privateDnsZoneConfigs", .list [config])])]

/-- The request for a record with one address as a value. -/
def aRecordBody (ttl : Nat) (address : String) : Value :=
  .ofMembers [("properties", .ofMembers [("ttl", .ofNat ttl),
    ("aRecords", .list [.ofMembers [("ipv4Address", .text address)]])])]

/-- The request that links a virtual network to a zone as a value. -/
def LinkRequest.body (r : LinkRequest) : Value :=
  .ofMembers [("location", .text r.location), ("tags", r.tags.encode),
    ("properties", .ofMembers [("registrationEnabled", .bool r.registration),
      ("virtualNetwork", .ofMembers [("id", .text r.virtualNetwork)])])]

/-! ## What is answered -/

/-- The name that a resource tells. -/
def nameOf (what : String) (v : Value) : Except Fault String :=
  match v.textAt? ["name"] with
  | some name => .ok name
  | none => .error (.serialization (what ++ " response has no name"))

/-- The texts that the items of a list hold at a path; items without one are passed over. -/
def textsAt (v : Value) (list item : List String) : List String :=
  (((v.at? list).bind Value.list?).getD []).filterMap fun i => i.textAt? item

/-- An account. -/
def Account.ofValue (v : Value) : Except Fault Account := do
  let name ← nameOf "Storage account" v
  return {
    id := (v.textAt? ["id"]).getD ""
    name
    location := (v.textAt? ["location"]).getD ""
    access := (v.textAt? ["properties", "publicNetworkAccess"]).bind PublicAccess.ofText?
    tags := Dict.ofList <| (((v.get? "tags").bind Value.members?).getD []).filterMap fun m =>
      m.2.text?.map fun text => (m.1, text) }

/-- What is said about an account name. -/
def NameAvailability.ofValue (v : Value) : Except Fault NameAvailability :=
  match (v.get? "nameAvailable").bind Value.bool? with
  | some available => .ok ⟨available, v.textAt? ["reason"], v.textAt? ["message"]⟩
  | none => .error (.serialization "Name availability response has no nameAvailable")

/-- The keys of an account; one without a value is passed over. -/
def AccountKey.listOfValue (v : Value) : List AccountKey :=
  (((v.get? "keys").bind Value.list?).getD []).filterMap fun key =>
    (key.textAt? ["value"]).map fun value => ⟨(key.textAt? ["keyName"]).getD "", value⟩

/-- A private endpoint. -/
def Endpoint.ofValue (v : Value) : Except Fault Endpoint := do
  let name ← nameOf "Private endpoint" v
  return ⟨(v.textAt? ["id"]).getD "", name, textsAt v ["properties", "networkInterfaces"] ["id"]⟩

/-- A network interface. -/
def NetworkInterface.ofValue (v : Value) : Except Fault NetworkInterface := do
  let name ← nameOf "Network interface" v
  return ⟨(v.textAt? ["id"]).getD "", name,
    textsAt v ["properties", "ipConfigurations"] ["properties", "privateIPAddress"]⟩

/-! ## Calls -/

namespace ResourceManager

/-- The version of the storage interface. -/
def storageVersion : String := "2023-01-01"
/-- The version of the network interface. -/
def networkVersion : String := "2023-09-01"
/-- The version of the interface to private DNS. -/
def dnsVersion : String := "2020-06-01"

/-- The type of storage accounts. -/
def accountType : String := "Microsoft.Storage/storageAccounts"

variable (m : ResourceManager)

/-- The path of an account. -/
def accountPath (name : String) : String := m.resourcePath (accountType ++ "/" ++ name)

/-- The path of a private endpoint. -/
def endpointPath (name : String) : String :=
  m.resourcePath ("Microsoft.Network/privateEndpoints/" ++ name)

/-- The path of a network interface. -/
def interfacePath (name : String) : String :=
  m.resourcePath ("Microsoft.Network/networkInterfaces/" ++ name)

/-- The path of a zone that is joined to an endpoint. -/
def zoneGroupPath (endpoint group : String) : String :=
  m.endpointPath endpoint ++ "/privateDnsZoneGroups/" ++ group

/-- The path of a DNS zone. -/
def zonePath (zone : String) : String :=
  m.resourcePath ("Microsoft.Network/privateDnsZones/" ++ zone)

/-- The path of a record of a zone. -/
def aRecordPath (zone name : String) : String := m.zonePath zone ++ "/A/" ++ name

/-- The path of the link between a zone and a virtual network. -/
def linkPath (zone link : String) : String :=
  m.zonePath zone ++ "/virtualNetworkLinks/" ++ link

/-- Reads a resource that may not exist. -/
def look (kind name path version : String) : Dialogue Value :=
  tryCatch (m.get path version) fun
    | .fault fault => throw (.fault (fault.orNotFound kind name))
    | .overflow => throw .overflow

/-- Writes, and passes over what is there in the end. -/
def settle (d : Dialogue Value) : Dialogue Unit := do
  let _ ← d

/-- Answers a call that concerns accounts, networks or DNS. -/
def reply? : (c : Call) → Option (Dialogue c.Answer)
  | .checkName name => some do
    let v ← m.post "check name availability"
      (m.subscriptionPath "Microsoft.Storage/checkNameAvailability") storageVersion
      (some (.ofMembers [("name", .text name), ("type", .text accountType)]))
    ofResult (NameAvailability.ofValue v)
  | .createAccount r => some do
    let v ← m.put "create storage account" (m.accountPath r.name) storageVersion r.body
    ofResult (Account.ofValue v)
  | .getAccount name => some do
    let v ← m.look "StorageAccount" name (m.accountPath name) storageVersion
    ofResult (Account.ofValue v)
  | .setAccess name access => some <| settle <|
    m.patch "update storage account" (m.accountPath name) storageVersion
      (.ofMembers [("properties", .ofMembers [("publicNetworkAccess", .text access.text)])])
  | .listKeys name => some do
    let v ← m.post "list storage account keys" (m.accountPath name ++ "/listKeys") storageVersion
      none
    return AccountKey.listOfValue v
  | .deleteAccount name => some <|
    m.delete "delete storage account" (m.accountPath name) storageVersion
  | .getEndpoint name => some do
    let v ← m.look "PrivateEndpoint" name (m.endpointPath name) networkVersion
    ofResult (Endpoint.ofValue v)
  | .createEndpoint r => some do
    let v ← m.put "create private endpoint" (m.endpointPath r.name) networkVersion r.body
    ofResult (Endpoint.ofValue v)
  | .deleteEndpoint name => some <|
    m.delete "delete private endpoint" (m.endpointPath name) networkVersion
  | .getInterface name => some do
    let v ← m.look "NetworkInterface" name (m.interfacePath name) networkVersion
    ofResult (NetworkInterface.ofValue v)
  | .putZoneGroup endpoint group zone => some <| settle <|
    m.put "create private dns zone group" (m.zoneGroupPath endpoint group) networkVersion
      (zoneGroupBody group zone)
  | .deleteZoneGroup endpoint group => some <|
    m.delete "delete private dns zone group" (m.zoneGroupPath endpoint group) networkVersion
  | .putZone zone location tags => some <| settle <|
    m.put "create private dns zone" (m.zonePath zone) dnsVersion
      (.ofMembers [("location", .text location), ("tags", tags.encode)])
  | .putARecord zone name ttl address => some <| settle <|
    m.put "create record set" (m.aRecordPath zone name) dnsVersion (aRecordBody ttl address)
  | .deleteARecord zone name => some <|
    m.delete "delete record set" (m.aRecordPath zone name) dnsVersion
  | .putLink r => some <| settle <|
    m.put "create virtual network link" (m.linkPath r.zone r.link) dnsVersion r.body
  | .deleteLink zone link => some <|
    m.delete "delete virtual network link" (m.linkPath zone link) dnsVersion
  | .clients .. | .containers _ | .containerExists .. | .createContainer ..
  | .deleteContainer .. => none

end ResourceManager

end RegistryStorage
