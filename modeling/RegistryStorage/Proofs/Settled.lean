import RegistryStorage.Lifecycle.Create
import RegistryStorage.Proofs.Holdings

/-!
What exists once storage is in place.

For a configuration that names an account and a container, `Site.settled` is what a provider holds
in the end, computed from what it holds now: the account, private access to it, the container, and
the account closed to the public network, as far as they are missing. Creating storage does the
same in small steps, and it may stop after each of them. So the lemmas here say that no step gets
in the way of the end: whatever a step does, `settled` would have done (`settled_network`,
`settled_accounts`, `settled_containers`), because everything that is put somewhere is put there
again, with the same value.

The endpoint is the exception. An account that was just created gets an endpoint whether there is
one of that name or not, and an account that was there keeps the endpoint it has. So what is there
in the end is the same apart from that endpoint and the address that is registered for its account
(`Inventory.Near`), and it is the same in all if an endpoint that was there before its account is
just the one that would be created (`Site.Matches`).
-/

set_option autoImplicit false

namespace RegistryStorage

open Isolation (zone zoneGroup)

/-! ## The end -/

/-- Where storage is put: what the provider names its resources by, what requests are for, and the
tags of everything that is created. -/
structure Site where
  home : Scope
  scope : Scope
  tags : Tags

/-- The address that an endpoint leads to: the first one of its first interface. -/
def Inventory.address? (home : Scope) (i : Inventory) (endpoint : String) : Option String := do
  let found ← i.endpoints.get? endpoint
  let interface ← (interfacesOf home found).head?
  let addresses ← i.addresses? (ResourceId.name interface)
  addresses.head?

/-- Whether the cloud of a configuration offers only the older kind of account. -/
def StorageConfig.legacy (c : StorageConfig) : Bool := Text.upper c.cloud == "AZURESTACKCLOUD"

/-- The accounts, with the configured one closed to the public network if it is private. -/
def StorageConfig.closed (c : StorageConfig) (accounts : Dict String StoredAccount) :
    Dict String StoredAccount :=
  if c.network.isInternal then
    match accounts.get? c.account with
    | some a => accounts.insert c.account { a with access := some .disabled }
    | none => accounts
  else accounts

namespace Site

variable (site : Site) (c : StorageConfig) (network : InternalNetwork)

/-- The request for the endpoint of the configured account. -/
def request : EndpointRequest := Isolation.endpointRequest site.scope c.account site.tags network

/-- The request for the configured account. -/
def accountRequest : AccountRequest := .forRegistry c.account site.scope.region site.tags c.legacy

/-- The accounts, with the configured one among them. -/
def housed (accounts : Dict String StoredAccount) : Dict String StoredAccount :=
  if accounts.contains c.account then accounts
  else accounts.insert c.account { request := site.accountRequest c }

/-- The inventory with the endpoint of a network. -/
def opened (i : Inventory) : Inventory :=
  if i.endpoints.contains network.endpoint then i else i.addEndpoint (site.request c network)

/-- The identifier of the shared zone. -/
def zoneId : String := ResourceId.privateDnsZone site.scope.subscription site.scope.resourceGroup zone

/-- The request for the link between the shared zone and a network. -/
def linkRequest : LinkRequest :=
  Isolation.linkRequest site.scope c.account network.vnet
    (Isolation.networkGroup site.scope network) site.tags

/-- The inventory with all that DNS needs to lead to the endpoint of a network. -/
def joined (i : Inventory) : Inventory :=
  { i with
    zones := i.zones.insert zone ()
    aRecords :=
      match i.address? site.home network.endpoint with
      | some address => i.aRecords.insert (zone, c.account) address
      | none => i.aRecords
    zoneGroups := i.zoneGroups.insert (network.endpoint, zoneGroup) site.zoneId
    links := i.links.insert (zone, c.account) (site.linkRequest c network) }

/-- The inventory with private access to the configured account, if that is wanted. -/
def networked (i : Inventory) : Inventory :=
  match c.network with
  | .internal network => site.joined c network (site.opened c network i)
  | .external => i

/-- The inventory once storage is in place. -/
def settled (i : Inventory) : Inventory :=
  { site.networked c i with
    accounts := c.closed (site.housed c i.accounts)
    containers := i.containers.insert (c.account, c.container) () }

end Site

namespace Site

variable {site : Site} {c c' : StorageConfig} {network : InternalNetwork} {i j : Inventory}

/-! ## Accounts -/

theorem housed_of_contains {accounts : Dict String StoredAccount}
    (h : accounts.contains c.account = true) : site.housed c accounts = accounts := if_pos h

theorem housed_of_not_contains {accounts : Dict String StoredAccount}
    (h : accounts.contains c.account = false) :
    site.housed c accounts =
      accounts.insert c.account { request := site.accountRequest c } :=
  if_neg (by rw [h]; exact Bool.false_ne_true)

theorem contains_housed {accounts : Dict String StoredAccount} :
    (site.housed c accounts).contains c.account = true := by
  unfold housed
  split
  · assumption
  · exact (Dict.contains_insert ..).2 (Or.inl rfl)

theorem housed_congr (haccount : c.account = c'.account) (hcloud : c.cloud = c'.cloud)
    {accounts : Dict String StoredAccount} :
    site.housed c accounts = site.housed c' accounts := by
  unfold housed accountRequest StorageConfig.legacy
  rw [haccount, hcloud]

@[simp] theorem housed_housed {accounts : Dict String StoredAccount} :
    site.housed c (site.housed c accounts) = site.housed c accounts :=
  housed_of_contains contains_housed

theorem closed_of_disabled {accounts : Dict String StoredAccount} {a : StoredAccount}
    (ha : accounts.get? c.account = some a) (hclosed : a.access = some .disabled) :
    c.closed accounts = accounts := by
  unfold StorageConfig.closed
  rw [ha]
  split
  · obtain ⟨request, access, keys⟩ := a
    cases hclosed
    exact Dict.insert_of_get? ha
  · rfl

theorem closed_of_get? {accounts : Dict String StoredAccount} {a : StoredAccount}
    (hc : c.network.isInternal = true) (ha : accounts.get? c.account = some a) :
    c.closed accounts = accounts.insert c.account { a with access := some .disabled } := by
  unfold StorageConfig.closed
  rw [if_pos hc, ha]

theorem closed_congr (haccount : c.account = c'.account) (hnetwork : c.network = c'.network)
    {accounts : Dict String StoredAccount} : c.closed accounts = c'.closed accounts := by
  unfold StorageConfig.closed
  rw [haccount, hnetwork]

theorem closed_closed {accounts : Dict String StoredAccount} :
    c.closed (c.closed accounts) = c.closed accounts := by
  by_cases hc : c.network.isInternal = true
  · cases ha : accounts.get? c.account with
    | none =>
      have hnone : c.closed accounts = accounts := by
        unfold StorageConfig.closed
        rw [if_pos hc, ha]
      rw [hnone, hnone]
    | some a =>
      rw [closed_of_get? hc ha]
      exact closed_of_disabled (Dict.get?_insert_self ..) rfl
  · have hopen : ∀ d : Dict String StoredAccount, c.closed d = d := fun _ => if_neg hc
    rw [hopen, hopen]

theorem contains_closed {accounts : Dict String StoredAccount} {n : String} :
    (c.closed accounts).contains n = accounts.contains n := by
  unfold StorageConfig.closed
  split
  · split
    · rename_i a ha
      refine Bool.eq_iff_iff.2 ⟨fun h => ?_, fun h => (Dict.contains_insert ..).2 (Or.inr h)⟩
      rcases (Dict.contains_insert ..).1 h with rfl | h
      · exact Dict.contains_of_get? ha
      · exact h
    · rfl
  · rfl

/-! ## Private access -/

theorem opened_of_contains (h : i.endpoints.contains network.endpoint = true) :
    site.opened c network i = i := if_pos h

/-- Where creating the endpoint over an old one changes nothing, the endpoint is created. -/
theorem addEndpoint_eq_opened
    (h : i.has (.endpoint network.endpoint) = true → i.addEndpoint (site.request c network) = i) :
    i.addEndpoint (site.request c network) = site.opened c network i := by
  unfold opened
  split
  · rename_i hthere
    exact h hthere
  · rfl

theorem networked_with (accounts : Dict String StoredAccount)
    (containers : Dict (String × String) Unit) :
    site.networked c { i with accounts := accounts, containers := containers } =
      { site.networked c i with accounts := accounts, containers := containers } := by
  unfold networked
  split
  · unfold opened
    dsimp only
    split <;> rfl
  · rfl

@[simp] theorem networked_accounts : (site.networked c i).accounts = i.accounts := by
  unfold networked
  split
  · unfold opened
    split <;> rfl
  · rfl

@[simp] theorem networked_containers : (site.networked c i).containers = i.containers := by
  unfold networked
  split
  · unfold opened
    split <;> rfl
  · rfl

/-- Private access is to an account through a network, whatever the container. -/
theorem networked_congr (haccount : c.account = c'.account) (hnetwork : c.network = c'.network) :
    site.networked c i = site.networked c' i := by
  unfold networked
  rw [hnetwork]
  cases c'.network with
  | external => rfl
  | internal network =>
    unfold joined opened request linkRequest
    rw [haccount]

theorem networked_internal (hc : c.network = .internal network) :
    site.networked c i = site.joined c network (site.opened c network i) := by
  unfold networked
  rw [hc]

theorem networked_external (hc : c.network = .external) : site.networked c i = i := by
  unfold networked
  rw [hc]

theorem networked_of_contains (hc : c.network = .internal network)
    (h : i.endpoints.contains network.endpoint = true) :
    site.networked c i = site.joined c network i := by
  rw [networked_internal hc, opened_of_contains h]

/-! ### What DNS needs -/

theorem address?_congr {home : Scope} {endpoint : String} (hendpoints : j.endpoints = i.endpoints)
    (hinterfaces : j.interfaces = i.interfaces) :
    j.address? home endpoint = i.address? home endpoint := by
  unfold Inventory.address? Inventory.addresses? Inventory.brings
  rw [hendpoints, hinterfaces]

theorem address?_addEndpoint_congr {home : Scope} {endpoint : String} {r : EndpointRequest}
    (hendpoints : j.endpoints = i.endpoints) (hinterfaces : j.interfaces = i.interfaces)
    (hshared : j.sharedInterfaces = i.sharedInterfaces) :
    (j.addEndpoint r).address? home endpoint = (i.addEndpoint r).address? home endpoint := by
  refine address?_congr ?_ hinterfaces
  unfold Inventory.addEndpoint Inventory.newEndpoint
  rw [hendpoints, hshared]

theorem joined_zone :
    site.joined c network { i with zones := i.zones.insert zone () } = site.joined c network i := by
  unfold joined
  rw [Dict.insert_insert, address?_congr (i := i) rfl rfl]
  rfl

theorem joined_record {address : String}
    (h : i.address? site.home network.endpoint = some address) :
    site.joined c network { i with aRecords := i.aRecords.insert (zone, c.account) address } =
      site.joined c network i := by
  have hkept : Inventory.address? site.home
      { i with aRecords := i.aRecords.insert (zone, c.account) address } network.endpoint =
        some address := (address?_congr rfl rfl).trans h
  unfold joined
  rw [hkept, h]
  dsimp only
  rw [Dict.insert_insert]

theorem joined_group :
    site.joined c network
      { i with zoneGroups := i.zoneGroups.insert (network.endpoint, zoneGroup) site.zoneId } =
      site.joined c network i := by
  unfold joined
  rw [Dict.insert_insert, address?_congr (i := i) rfl rfl]
  rfl

theorem joined_link :
    site.joined c network
      { i with links := i.links.insert (zone, c.account) (site.linkRequest c network) } =
      site.joined c network i := by
  unfold joined
  rw [Dict.insert_insert, address?_congr (i := i) rfl rfl]
  rfl

/-! ## No step gets in the way of the end -/

/-- A step that leaves accounts and containers alone, and does nothing that private access would
not do. -/
theorem settled_network (haccounts : j.accounts = i.accounts)
    (hcontainers : j.containers = i.containers)
    (hnetwork : site.networked c j = site.networked c i) : site.settled c j = site.settled c i := by
  unfold settled
  rw [haccounts, hcontainers, hnetwork]

/-- A step that changes accounts only, and nothing about the configured one that the end would not
change. -/
theorem settled_accounts {accounts : Dict String StoredAccount}
    (h : c.closed (site.housed c accounts) = c.closed (site.housed c i.accounts)) :
    site.settled c { i with accounts := accounts } = site.settled c i := by
  unfold settled
  rw [networked_with accounts i.containers, h]

theorem settled_containers :
    site.settled c { i with containers := i.containers.insert (c.account, c.container) () } =
      site.settled c i := by
  unfold settled
  rw [networked_with i.accounts, Dict.insert_insert]

/-! ## Apart from an endpoint -/

end Site

namespace Inventory

variable {exact : Prop} {c : StorageConfig} {network : InternalNetwork} {i j k : Inventory}

/-- The inventory besides the endpoint of a configuration and the address that is registered for its
account. -/
def besides (c : StorageConfig) (i : Inventory) : Inventory :=
  match c.network with
  | .internal network =>
    { i with
      endpoints := i.endpoints.erase network.endpoint
      aRecords := i.aRecords.erase (zone, c.account) }
  | .external => i

/-- **Two inventories are the same** apart from the endpoint of a configuration and the address that
is registered for its account; and in all if they are to be. -/
structure Near (exact : Prop) (c : StorageConfig) (i j : Inventory) : Prop where
  besides : i.besides c = j.besides c
  same : exact → i = j

theorem Near.of_eq (h : i = j) : Near exact c i j := ⟨h ▸ rfl, fun _ => h⟩

theorem Near.mono {exact' : Prop} (h : Near exact c i j) (he : exact' → exact) :
    Near exact' c i j := ⟨h.besides, fun h' => h.same (he h')⟩

theorem Near.symm (h : Near exact c i j) : Near exact c j i :=
  ⟨h.besides.symm, fun he => (h.same he).symm⟩

theorem Near.trans (h : Near exact c i j) (h' : Near exact c j k) : Near exact c i k :=
  ⟨h.besides.trans h'.besides, fun he => (h.same he).trans (h'.same he)⟩

theorem besides_internal (hc : c.network = .internal network) :
    i.besides c =
      { i with
        endpoints := i.endpoints.erase network.endpoint
        aRecords := i.aRecords.erase (zone, c.account) } := by
  unfold besides
  rw [hc]

theorem besides_congr {c' : StorageConfig} (haccount : c.account = c'.account)
    (hnetwork : c.network = c'.network) : i.besides c = i.besides c' := by
  unfold besides
  rw [haccount, hnetwork]

theorem besides_accounts : (i.besides c).accounts = i.accounts := by
  unfold besides
  split <;> rfl

theorem besides_containers : (i.besides c).containers = i.containers := by
  unfold besides
  split <;> rfl

theorem besides_with {accounts : Dict String StoredAccount}
    {containers : Dict (String × String) Unit} :
    besides c { i with accounts := accounts, containers := containers } =
      { i.besides c with accounts := accounts, containers := containers } := by
  unfold besides
  split <;> rfl

theorem Near.accounts (h : Near exact c i j) : i.accounts = j.accounts := by
  rw [← besides_accounts (c := c), h.besides, besides_accounts]

theorem Near.containers (h : Near exact c i j) : i.containers = j.containers := by
  rw [← besides_containers (c := c), h.besides, besides_containers]

theorem Near.congr {c' : StorageConfig} (h : Near exact c i j) (haccount : c.account = c'.account)
    (hnetwork : c.network = c'.network) : Near exact c' i j := by
  refine ⟨?_, h.same⟩
  rw [← besides_congr haccount hnetwork, ← besides_congr haccount hnetwork, h.besides]

/-- Accounts and containers have nothing to do with it. -/
theorem Near.with (h : Near exact c i j) (accounts : Dict String StoredAccount)
    (containers : Dict (String × String) Unit) :
    Near exact c { i with accounts := accounts, containers := containers }
      { j with accounts := accounts, containers := containers } := by
  refine ⟨?_, fun he => by rw [h.same he]⟩
  rw [besides_with (i := i), besides_with (i := j), h.besides]

theorem besides_addEndpoint {r : EndpointRequest} (hc : c.network = .internal network)
    (hr : r.name = network.endpoint) : (i.addEndpoint r).besides c = i.besides c := by
  rw [besides_internal hc, besides_internal hc]
  unfold addEndpoint
  dsimp only
  rw [hr, Dict.erase_insert]

end Inventory

namespace Site

variable {site : Site} {c c' : StorageConfig} {network : InternalNetwork} {i j : Inventory}

theorem besides_joined (hc : c.network = .internal network) :
    (site.joined c network i).besides c =
      { i.besides c with
        zones := i.zones.insert zone ()
        zoneGroups := i.zoneGroups.insert (network.endpoint, zoneGroup) site.zoneId
        links := i.links.insert (zone, c.account) (site.linkRequest c network) } := by
  rw [Inventory.besides_internal hc, Inventory.besides_internal hc]
  unfold joined
  split
  · rw [Dict.erase_insert]
  · rfl

theorem besides_opened (hc : c.network = .internal network) :
    (site.opened c network i).besides c = i.besides c := by
  unfold opened
  split
  · rfl
  · exact Inventory.besides_addEndpoint hc rfl

/-- **An endpoint that is created over one that was there makes no other difference**, and none at
all if it is the same. -/
theorem joined_addEndpoint_near {exact : Prop} (hc : c.network = .internal network)
    (h : exact → i.has (.endpoint network.endpoint) = true →
      i.addEndpoint (site.request c network) = i) :
    Inventory.Near exact c (site.joined c network (i.addEndpoint (site.request c network)))
      (site.networked c i) := by
  rw [networked_internal hc]
  refine ⟨?_, fun he => by rw [addEndpoint_eq_opened (h he)]⟩
  rw [besides_joined hc, besides_joined hc, besides_opened hc,
    Inventory.besides_addEndpoint (r := site.request c network) hc rfl]
  unfold opened
  split <;> rfl

/-! ## What the provider has to be like -/

/-- The endpoint of a configuration leads to an address: the one that is there, and the one that would
be created as long as there is no account or no endpoint. -/
structure Leads (site : Site) (c : StorageConfig) (i : Inventory) : Prop where
  found : ∀ network, c.network = .internal network → i.has (.endpoint network.endpoint) = true →
    ∃ address, i.address? site.home network.endpoint = some address
  made : ∀ network, c.network = .internal network →
    (i.has (.account c.account) = false ∨ i.has (.endpoint network.endpoint) = false) →
      ∃ address, (i.addEndpoint (site.request c network)).address? site.home network.endpoint =
        some address

/-- **A provider on which the configured storage can be put in place**: a name of an account that is
taken is the subscription's own, and the endpoint leads to an address. -/
structure Fits (site : Site) (c : StorageConfig) (i : Inventory) : Prop where
  owned : i.isTaken c.account = true → i.has (.account c.account) = true
  leads : site.Leads c i

/-- An endpoint that is there before its account is just the one that would be created. -/
def Matches (site : Site) (c : StorageConfig) (i : Inventory) : Prop :=
  ∀ network, c.network = .internal network → i.has (.account c.account) = false →
    i.has (.endpoint network.endpoint) = true → i.addEndpoint (site.request c network) = i

/-- Accounts that come and go do not matter to the endpoint. -/
theorem addEndpoint_with {r : EndpointRequest} (accounts : Dict String StoredAccount) :
    Inventory.addEndpoint { i with accounts := accounts } r =
      { i.addEndpoint r with accounts := accounts } := rfl

theorem Matches.with (h : site.Matches c i) (hn : c.network = .internal network)
    (hgone : i.has (.account c.account) = false)
    (hendpoint : i.has (.endpoint network.endpoint) = true)
    (accounts : Dict String StoredAccount) :
    Inventory.addEndpoint { i with accounts := accounts } (site.request c network) =
      { i with accounts := accounts } := by
  rw [addEndpoint_with, h network hn hgone hendpoint]

theorem Matches.of_has (h : i.has (.account c.account) = true) : site.Matches c i := by
  intro network _ hgone
  rw [h] at hgone
  cases hgone

theorem Matches.congr (h : site.Matches c i) (haccount : c.account = c'.account)
    (hnetwork : c.network = c'.network) : site.Matches c' i := by
  obtain ⟨account, container, cloud, network⟩ := c
  obtain ⟨account', container', cloud', network'⟩ := c'
  cases haccount
  cases hnetwork
  exact h

/-- Once there is an account, what is not about endpoints does not matter. -/
theorem Leads.step (h : site.Leads c i) (hthere : j.has (.account c.account) = true)
    (hendpoints : j.endpoints = i.endpoints) (hinterfaces : j.interfaces = i.interfaces)
    (hshared : j.sharedInterfaces = i.sharedInterfaces) : site.Leads c j := by
  have hhas : ∀ n, j.has (.endpoint n) = i.has (.endpoint n) := by
    intro n
    unfold Inventory.has
    rw [hendpoints]
  refine ⟨fun network hn hopen => ?_, fun network hn hgone => ?_⟩
  · obtain ⟨address, haddress⟩ := h.found network hn ((hhas _).symm.trans hopen)
    exact ⟨address, (address?_congr hendpoints hinterfaces).trans haddress⟩
  · have hclosed : i.has (.endpoint network.endpoint) = false := by
      refine (hhas _).symm.trans (hgone.resolve_left fun hgone => ?_)
      rw [hthere] at hgone
      cases hgone
    obtain ⟨address, haddress⟩ := h.made network hn (Or.inr hclosed)
    exact ⟨address, (address?_addEndpoint_congr hendpoints hinterfaces hshared).trans haddress⟩

/-- Once there are an account and an endpoint, it takes an address of this one. -/
theorem Leads.of_opened (hthere : i.has (.account c.account) = true)
    (hn : c.network = .internal network) (hopen : i.has (.endpoint network.endpoint) = true)
    (haddress : ∃ address, i.address? site.home network.endpoint = some address) :
    site.Leads c i := by
  refine ⟨fun n hnetwork _ => ?_, fun n hnetwork hgone => ?_⟩
  · obtain rfl := NetworkAccess.internal.inj (hn.symm.trans hnetwork)
    exact haddress
  · obtain rfl := NetworkAccess.internal.inj (hn.symm.trans hnetwork)
    rw [hthere, hopen] at hgone
    rcases hgone with hgone | hgone <;> cases hgone

/-- **Private access can be opened**: the endpoint that is found leads to an address, and so does the
one that is created, which is the case for a new account, or if none is found. If it is created over
one that is there, it may have to be the same. -/
structure Opens (site : Site) (exact : Prop) (created : Bool) (c : StorageConfig) (i : Inventory) :
    Prop where
  found : ∀ network, c.network = .internal network → i.has (.endpoint network.endpoint) = true →
    ∃ address, i.address? site.home network.endpoint = some address
  made : ∀ network, c.network = .internal network →
    created = true ∨ i.has (.endpoint network.endpoint) = false →
      ∃ address, (i.addEndpoint (site.request c network)).address? site.home network.endpoint =
        some address
  same : exact → created = true → ∀ network, c.network = .internal network →
    i.has (.endpoint network.endpoint) = true → i.addEndpoint (site.request c network) = i

/-- Where the endpoint leads to an address, private access can be opened once there is an account,
whether it was there or was just created. -/
theorem Leads.opens {exact : Prop} (h : site.Leads c i) (hexact : exact → site.Matches c i)
    (accounts : Dict String StoredAccount) :
    site.Opens exact (!i.has (.account c.account)) c { i with accounts := accounts } where
  found network hn hthere := by
    obtain ⟨address, haddress⟩ := h.found network hn hthere
    exact ⟨address, (address?_congr rfl rfl).trans haddress⟩
  made network hn hcreated := by
    obtain ⟨address, haddress⟩ := h.made network hn (hcreated.imp_left (by simpa using ·))
    exact ⟨address, (address?_congr rfl rfl).trans haddress⟩
  same he hcreated network hn hthere :=
    (hexact he).with hn (by simpa using hcreated) hthere accounts

theorem Leads.congr (h : site.Leads c i) (haccount : c.account = c'.account)
    (hnetwork : c.network = c'.network) : site.Leads c' i := by
  obtain ⟨account, container, cloud, network⟩ := c
  obtain ⟨account', container', cloud', network'⟩ := c'
  cases haccount
  cases hnetwork
  exact ⟨h.found, h.made⟩

theorem Fits.congr (h : site.Fits c i) (haccount : c.account = c'.account)
    (hnetwork : c.network = c'.network) : site.Fits c' i := by
  refine ⟨?_, h.leads.congr haccount hnetwork⟩
  rw [← haccount]
  exact h.owned

end Site

end RegistryStorage
