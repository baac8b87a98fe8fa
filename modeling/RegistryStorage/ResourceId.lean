/-!
Resource identifiers.

The provider names a resource by a path below its subscription and resource group. The
functions here build the identifiers the storage needs, and `name` reads the last part of
one back.
-/

set_option autoImplicit false

namespace RegistryStorage.ResourceId

/-- The path of a resource group's resource of a provider. -/
def inGroup (subscription group resource : String) : String :=
  "/subscriptions/" ++ subscription ++ "/resourceGroups/" ++ group ++ "/providers/" ++ resource

/-- A virtual network. -/
def virtualNetwork (subscription group vnet : String) : String :=
  inGroup subscription group ("Microsoft.Network/virtualNetworks/" ++ vnet)

/-- A subnet of a virtual network. -/
def subnet (subscription group vnet subnet : String) : String :=
  inGroup subscription group
    ("Microsoft.Network/virtualNetworks/" ++ vnet ++ "/subnets/" ++ subnet)

/-- A storage account. -/
def storageAccount (subscription group account : String) : String :=
  inGroup subscription group ("Microsoft.Storage/storageAccounts/" ++ account)

/-- A private DNS zone. -/
def privateDnsZone (subscription group zone : String) : String :=
  inGroup subscription group ("Microsoft.Network/privateDnsZones/" ++ zone)

/-- The name of the resource: the last part of its identifier, slashes at the end aside. -/
def name (id : String) : String :=
  String.ofList (((id.toList.reverse.dropWhile (· == '/')).takeWhile (· != '/')).reverse)

end RegistryStorage.ResourceId
