import RegistryStorage.Proofs.CloudResolution
import RegistryStorage.Proofs.DnsChain

/-!
Identifiers that agree with each other.

Private access names its network twice: the request for the endpoint carries the identifier of a
subnet, and the link carries that of the virtual network. The two are written in different places,
for an endpoint that is created and for one that was there. Both lead through the DNS chain, so that
it is enough to look at its transcripts (`Chain.accords`): a call is in accord (`Call.Accords`) if
it names the one network of the configuration, spelled out in `subnetId`, or looks up an interface
that an endpoint leads to. For a whole run of creating, which endpoints there are to lead anywhere
is up to the provider, so the invariant (`Transcript.Accords`) speaks of those that it described.

Which interface that is, is read from the end of an identifier. `EndsIn` says what an identifier
ends in without looking for it, and `name_eq_iff` that this is what is read.
-/

set_option autoImplicit false

namespace RegistryStorage

/-! ## The last part of an identifier -/

namespace ResourceId

/-- Nothing but slashes. -/
def slashes (k : ℕ) : String := String.ofList (List.replicate k '/')

/-- A name that can be a part of an identifier. -/
structure IsPart (n : String) : Prop where
  nonempty : n ≠ ""
  noSlash : '/' ∉ n.toList

/-- An identifier ends in a name: the name is all there is but for slashes at the end, or it is a
part and stands behind another slash. -/
inductive EndsIn : String → String → Prop
  | alone {n : String} (h : '/' ∉ n.toList) (k : ℕ) : EndsIn (n ++ slashes k) n
  | below (front : String) {n : String} (h : IsPart n) (k : ℕ) :
    EndsIn (front ++ "/" ++ n ++ slashes k) n

theorem toList_name (id : String) :
    (name id).toList = (Text.dropEndSlashes id).toList.rtakeWhile (· != '/') := by
  rw [Text.toList_dropEndSlashes, name, String.toList_ofList, List.rtakeWhile, List.rdropWhile,
    List.reverse_reverse]

theorem name_append_slashes (id : String) (k : ℕ) : name (id ++ slashes k) = name id := by
  rw [← String.toList_inj, toList_name, toList_name, slashes, Text.dropEndSlashes_append]

theorem slash_notMem_name (id : String) : '/' ∉ (name id).toList := by
  rw [toList_name]
  intro h
  exact absurd (List.mem_rtakeWhile_imp h) (by decide)

/-- Where there is no slash, there is nothing to drop and nothing to stop at. -/
theorem name_of_noSlash {n : String} (h : '/' ∉ n.toList) : name n = n := by
  have hne : ∀ c ∈ n.toList, c ≠ '/' := fun c hc hslash => h (hslash ▸ hc)
  have hkept : n.toList.rdropWhile (· == '/') = n.toList :=
    List.rdropWhile_eq_self_iff.2 fun hl => by simpa using hne _ (List.getLast_mem hl)
  rw [← String.toList_inj, toList_name, Text.toList_dropEndSlashes, hkept]
  exact List.rtakeWhile_eq_self_iff.2 fun c hc => by simpa using hne c hc

/-- A text that ends in a slash. -/
def EndsInSlash (s : String) : Prop := s.toList.getLast? = some '/'

theorem EndsInSlash.append {s : String} (h : EndsInSlash s) (front : String) :
    EndsInSlash (front ++ s) := by
  rw [EndsInSlash, String.toList_append, List.getLast?_append, h]
  rfl

/-- A part that stands behind a slash is the name. -/
theorem name_append {front n : String} (hfront : EndsInSlash front) (h : IsPart n) :
    name (front ++ n) = n := by
  obtain ⟨f, hf⟩ := List.getLast?_eq_some_iff.1 hfront
  have hne : ∀ c ∈ n.toList, c ≠ '/' := fun c hc hslash => h.noSlash (hslash ▸ hc)
  have hkept : Text.dropEndSlashes (front ++ n) = front ++ n := by
    obtain hnil | ⟨l, c, hlast⟩ := n.toList.eq_nil_or_concat
    · exact absurd (String.toList_eq_nil_iff.1 hnil) h.nonempty
    · rw [List.concat_eq_append] at hlast
      refine Text.dropEndSlashes_of_suffix l c ?_ (hne c (by simp [hlast]))
      rw [String.toList_append, hlast]
      exact List.suffix_append _ _
  have hletters : ∀ c ∈ n.toList.reverse, (c != '/') = true := fun c hc => by
    simpa using hne c (List.mem_reverse.1 hc)
  rw [← String.toList_inj, toList_name, hkept, String.toList_append, hf, List.rtakeWhile,
    List.reverse_append, List.takeWhile_append_of_pos hletters, List.reverse_append]
  simp

/-- What the slashes at the end are dropped from does not end in one. -/
theorem not_endsInSlash_dropEndSlashes (id : String) : ¬EndsInSlash (Text.dropEndSlashes id) := by
  intro h
  rw [EndsInSlash, Text.toList_dropEndSlashes] at h
  obtain ⟨f, hf⟩ := List.getLast?_eq_some_iff.1 h
  have hlast := List.rdropWhile_last_not (· == '/') id.toList (by simp [hf])
  simp [hf] at hlast

theorem endsIn_name (id : String) : EndsIn id (name id) := by
  let body := Text.dropEndSlashes id
  obtain ⟨k, hk⟩ : ∃ k, body ++ slashes k = id := by
    refine ⟨(id.toList.rtakeWhile (· == '/')).length, ?_⟩
    have hslashes : id.toList.rtakeWhile (· == '/') =
        List.replicate (id.toList.rtakeWhile (· == '/')).length '/' :=
      List.eq_replicate_of_mem fun c hc => by simpa using List.mem_rtakeWhile_imp hc
    rw [← String.toList_inj, String.toList_append, Text.toList_dropEndSlashes, slashes,
      String.toList_ofList, ← hslashes, List.rdropWhile_append_rtakeWhile]
  have hbody : body.toList.rdropWhile (· != '/') ++ (name id).toList = body.toList := by
    rw [toList_name, List.rdropWhile_append_rtakeWhile]
  obtain hfront | ⟨f, c, hfront⟩ := (body.toList.rdropWhile (· != '/')).eq_nil_or_concat
  · rw [hfront, List.nil_append, String.toList_inj] at hbody
    have halone := EndsIn.alone (slash_notMem_name id) k
    rw [hbody, hk] at halone
    exact hbody ▸ halone
  · -- the name stands behind a slash, and is not empty because `body` does not end in one
    rw [List.concat_eq_append] at hfront
    have hslash : c = '/' := by
      have hlast := List.rdropWhile_last_not (· != '/') body.toList (by simp [hfront])
      simpa [hfront] using hlast
    have hsplit : String.ofList f ++ "/" ++ name id = body := by
      rw [← String.toList_inj, ← hbody, hfront, hslash]
      simp
    have hne : name id ≠ "" := by
      intro hempty
      refine not_endsInSlash_dropEndSlashes id ?_
      show EndsInSlash body
      rw [← hsplit, hempty, String.append_empty]
      exact EndsInSlash.append (by rfl) _
    have hbelow := EndsIn.below (String.ofList f) ⟨hne, slash_notMem_name id⟩ k
    rwa [hsplit, hk] at hbelow

/-- **The name is the one that the identifier ends in.** -/
theorem name_eq_iff (id n : String) : name id = n ↔ EndsIn id n := by
  constructor
  · rintro rfl
    exact endsIn_name id
  · intro h
    cases h with
    | alone h k => rw [name_append_slashes, name_of_noSlash h]
    | below front h k => rw [name_append_slashes, name_append (EndsInSlash.append (by rfl) _) h]

/-! ## Identifiers that are built -/

theorem inGroup_append (subscription group path n : String) :
    inGroup subscription group (path ++ n) = inGroup subscription group path ++ n :=
  String.append_assoc.symm

/-- The name is read back from the path of a resource that it ends. -/
theorem name_inGroup (subscription group : String) {path n : String} (hpath : EndsInSlash path)
    (h : IsPart n) : name (inGroup subscription group (path ++ n)) = n := by
  rw [inGroup_append]
  exact name_append (hpath.append _) h

theorem name_virtualNetwork (subscription group : String) {n : String} (h : IsPart n) :
    name (virtualNetwork subscription group n) = n := by
  have hpath : EndsInSlash "Microsoft.Network/virtualNetworks/" := rfl
  exact name_inGroup subscription group hpath h

theorem name_storageAccount (subscription group : String) {n : String} (h : IsPart n) :
    name (storageAccount subscription group n) = n := by
  have hpath : EndsInSlash "Microsoft.Storage/storageAccounts/" := rfl
  exact name_inGroup subscription group hpath h

theorem name_privateDnsZone (subscription group : String) {n : String} (h : IsPart n) :
    name (privateDnsZone subscription group n) = n := by
  have hpath : EndsInSlash "Microsoft.Network/privateDnsZones/" := rfl
  exact name_inGroup subscription group hpath h

theorem name_subnet (subscription group vnet : String) {n : String} (h : IsPart n) :
    name (subnet subscription group vnet n) = n := by
  have hpath : EndsInSlash "/subnets/" := rfl
  exact name_inGroup subscription group (hpath.append _) h

/-- A subnet lies below its virtual network. -/
theorem subnet_eq (subscription group vnet n : String) :
    subnet subscription group vnet n =
      virtualNetwork subscription group vnet ++ "/subnets/" ++ n :=
  calc subnet subscription group vnet n
    _ = inGroup subscription group
          ("Microsoft.Network/virtualNetworks/" ++ vnet ++ "/subnets/") ++ n := inGroup_append ..
    _ = virtualNetwork subscription group vnet ++ "/subnets/" ++ n :=
      congrArg (· ++ n) (inGroup_append ..)

/-- A virtual network, spelled out. -/
theorem virtualNetwork_eq (subscription group vnet : String) :
    virtualNetwork subscription group vnet =
      "/subscriptions/" ++ subscription ++ "/resourceGroups/" ++ group ++
        "/providers/Microsoft.Network/virtualNetworks/" ++ vnet := by
  -- two of the pieces are one piece of the text that is spelled out
  have hassoc : ∀ a b c d : String, a ++ b ++ (c ++ d) = a ++ (b ++ c) ++ d := by
    intro a b c d
    simp only [String.append_assoc]
  exact hassoc _ "/providers/" "Microsoft.Network/virtualNetworks/" vnet

end ResourceId

/-! ## The network of a configuration -/

namespace Isolation

/-- The identifier of the subnet of a configuration, spelled out. The resource group of the network
is the cluster's, unless another is named. -/
def subnetId (scope : Scope) (network : InternalNetwork) : String :=
  let group := (network.resourceGroup.filter (· ≠ "")).getD scope.resourceGroup
  "/subscriptions/" ++ scope.subscription ++ "/resourceGroups/" ++ group ++
    "/providers/Microsoft.Network/virtualNetworks/" ++ network.vnet ++ "/subnets/" ++ network.subnet

theorem networkGroup_eq (scope : Scope) (network : InternalNetwork) :
    networkGroup scope network =
      (network.resourceGroup.filter (· ≠ "")).getD scope.resourceGroup := by
  unfold networkGroup
  cases network.resourceGroup with
  | none => rfl
  | some group => by_cases hgroup : group = "" <;> simp [Option.filter, hgroup]

/-- The virtual network of a link, and the subnet below it. -/
theorem linkRequest_subnet (scope : Scope) (account : String) (tags : Tags)
    (network : InternalNetwork) :
    (linkRequest scope account network.vnet (networkGroup scope network) tags).virtualNetwork ++
      "/subnets/" ++ network.subnet = subnetId scope network := by
  rw [linkRequest, networkGroup_eq, ResourceId.virtualNetwork_eq]
  rfl

theorem endpointRequest_subnet (scope : Scope) (account : String) (tags : Tags)
    (network : InternalNetwork) :
    (endpointRequest scope account tags network).subnet = subnetId scope network :=
  (ResourceId.subnet_eq ..).trans (linkRequest_subnet scope account tags network)

theorem nameEndpoint_subnet (account : String) (network : InternalNetwork) :
    (nameEndpoint account network).subnet = network.subnet := by
  unfold nameEndpoint
  split <;> rfl

/-- The name that an endpoint gets does not matter for the network. -/
theorem subnetId_nameEndpoint (scope : Scope) (account : String) (network : InternalNetwork) :
    subnetId scope (nameEndpoint account network) = subnetId scope network := by
  unfold nameEndpoint
  split <;> rfl

end Isolation

/-! ## Calls in accord -/

/-- The interface that an endpoint leads to: the name that the first of its identifiers ends in. -/
def Endpoint.LeadsTo (endpoint : Endpoint) (name : String) : Prop :=
  ∃ id ids, endpoint.interfaces = id :: ids ∧ ResourceId.EndsIn id name

/-- A call is in accord with a network: an endpoint is asked for in the network's subnet, the
virtual network of a link is the one that the subnet lies in, and an interface that is looked up is
one of those that endpoints lead to. -/
def Call.Accords (led : String → Prop) (scope : Scope) (network : InternalNetwork) : Call → Prop
  | createEndpoint request => request.subnet = Isolation.subnetId scope network
  | putLink request =>
    request.virtualNetwork ++ "/subnets/" ++ network.subnet = Isolation.subnetId scope network
  | getInterface name => led name
  | _ => True

/-- An interface was looked up, and a network linked. -/
def Transcript.Completes (h : Transcript) : Prop :=
  (∃ e ∈ h, ∃ name, e.call = .getInterface name) ∧ ∃ e ∈ h, ∃ request, e.call = .putLink request

section Accord

variable {scope : Scope} {network : InternalNetwork} {account : String} {tags : Tags}
variable {endpoint : Endpoint} {h t : Transcript} {result : Except Fault Unit}

theorem Call.Accords.mono {led led' : String → Prop} {c : Call} (hc : c.Accords led scope network)
    (h : ∀ name, led name → led' name) : c.Accords led' scope network := by
  cases c with
  | getInterface name => exact h name hc
  | _ => exact hc

/-- The name that its endpoint gets does not matter for a network. -/
theorem Call.accords_nameEndpoint {led : String → Prop} {c : Call} :
    c.Accords led scope (Isolation.nameEndpoint account network) ↔ c.Accords led scope network := by
  unfold Call.Accords
  rw [Isolation.nameEndpoint_subnet, Isolation.subnetId_nameEndpoint]

namespace Isolation

/-- **All calls of the DNS chain are in accord** with the network that it is for and the endpoint
that it is given. -/
theorem Chain.accords
    (h : Chain scope endpoint network.vnet (networkGroup scope network) account tags t result) :
    t.All fun e => e.call.Accords endpoint.LeadsTo scope network := by
  have hleads : ∀ {name}, firstInterface endpoint = .ok name → endpoint.LeadsTo name := by
    intro name hname
    obtain ⟨id, ids, hids, hid⟩ := firstInterface_eq_ok.1 hname
    exact ⟨id, ids, hids, (ResourceId.name_eq_iff id name).1 hid⟩
  let Accords (t : Transcript) : Prop :=
    t.All fun e => e.call.Accords endpoint.LeadsTo scope network
  have hnone : Accords [] := List.forall_mem_nil _
  have hzoned : Accords (zoned tags) := hnone.concat trivial
  have hlooked : ∀ name interface, firstInterface endpoint = .ok name →
      Accords (looked tags name interface) := fun _ _ hname => hzoned.concat (hleads hname)
  have hrecorded : ∀ name interface address, firstInterface endpoint = .ok name →
      Accords (recorded account tags name interface address) := fun _ _ _ hname =>
    (hlooked _ _ hname).concat trivial
  cases h with
  | zone fault => exact hnone.concat trivial
  | noInterface _ => exact hzoned
  | interface hname fault => exact hzoned.concat (hleads hname)
  | noAddress hname _ => exact hlooked _ _ hname
  | record hname _ fault => exact (hlooked _ _ hname).concat trivial
  | group hname _ fault => exact (hrecorded _ _ _ hname).concat trivial
  | link hlinked =>
    obtain ⟨name, interface, address, hname, -, rfl⟩ := hlinked
    have hjoined := (hrecorded name interface address hname).concat
      (e := ⟨joining scope endpoint, .ok ()⟩) trivial
    exact hjoined.concat (linkRequest_subnet scope account tags network)

/-- A chain that ends well has done all it is for. -/
theorem Chain.completes {vnet group : String}
    (h : Chain scope endpoint vnet group account tags t (.ok ())) : t.Completes := by
  obtain ⟨reply, ⟨name, interface, address, -, -, rfl⟩, -⟩ := h.linked
  constructor
  · exact ⟨⟨.getInterface name, .ok interface⟩, by simp [looked, recorded, joined], name, rfl⟩
  · exact ⟨_, List.mem_concat_self, _, rfl⟩

/-- Configuring DNS adds a chain to whatever there was before. -/
theorem configureDns_adds {vnet group : String} (h : Transcript) :
    (configureDns scope endpoint vnet group account tags).Ensures unruly h
      (fun _ t => ∃ new, t = h ++ new ∧
        Chain scope endpoint vnet group account tags new (.ok ()))
      fun f t => ∃ new, t = h ++ new ∧
        Chain scope endpoint vnet group account tags new (.error f) := by
  have hchain : Program.Ensures unruly
      (configureDns scope endpoint vnet group account tags).run [] _ := configureDns_chain
  have hadded := hchain.added h
  rw [List.append_nil, Action.ensures_run] at hadded
  exact hadded

/-- **The endpoint is created first**, and all that follows is in accord with it. -/
theorem configure_accords :
    (configure scope account tags network).run.Ensures unruly [] fun result t =>
      ∃ reply, ∃ rest : Transcript,
        t = ⟨.createEndpoint (endpointRequest scope account tags network), reply⟩ :: rest ∧
        (rest.All fun e => e.call.Accords
          (fun name => ∃ endpoint, reply = .ok endpoint ∧ endpoint.LeadsTo name) scope network) ∧
        ∀ endpoint, result = .ok endpoint → rest.Completes := by
  rw [Action.ensures_run]
  refine (Action.ensures_bind _).2 (Action.ensures_unruly (fun endpoint => ?_) fun fault => ?_)
  · refine (Action.ensures_bind _).2 ((configureDns_adds _).mono ?_ ?_)
    · rintro _ t ⟨new, rfl, hchain⟩
      exact ⟨.ok endpoint, new, rfl, fun e he => (hchain.accords e he).mono fun _ hname =>
        ⟨endpoint, rfl, hname⟩, fun _ _ => hchain.completes⟩
    · rintro fault t ⟨new, rfl, hchain⟩
      exact ⟨.ok endpoint, new, rfl, fun e he => (hchain.accords e he).mono fun _ hname =>
        ⟨endpoint, rfl, hname⟩, nofun⟩
  · exact ⟨.error fault, [], rfl, List.forall_mem_nil _, nofun⟩

end Isolation

end Accord

/-! ## Runs in accord -/

/-- The provider described an endpoint. -/
def Transcript.Describes (h : Transcript) (endpoint : Endpoint) : Prop :=
  (∃ name, ⟨.getEndpoint name, .ok endpoint⟩ ∈ h) ∨
    ∃ request, ⟨.createEndpoint request, .ok endpoint⟩ ∈ h

/-- An endpoint that the provider described leads to an interface. -/
def Transcript.LeadsTo (h : Transcript) (name : String) : Prop :=
  ∃ endpoint, h.Describes endpoint ∧ endpoint.LeadsTo name

/-- All calls of a transcript are in accord with a network, and with the endpoints described in
it. -/
def Transcript.Accords (scope : Scope) (network : InternalNetwork) (h : Transcript) : Prop :=
  h.All fun e => e.call.Accords h.LeadsTo scope network

section Runs

variable {scope : Scope} {network : InternalNetwork} {account : String} {tags : Tags}
variable {h t : Transcript} {infra : Infrastructure} {fresh : Fresh} {a : Assured}

theorem Transcript.Describes.mono {endpoint : Endpoint} (hd : h.Describes endpoint) (ht : h ⊆ t) :
    t.Describes endpoint :=
  hd.imp (fun ⟨name, hname⟩ => ⟨name, ht hname⟩) fun ⟨request, hrequest⟩ => ⟨request, ht hrequest⟩

theorem Transcript.LeadsTo.mono {name : String} (hl : h.LeadsTo name) (ht : h ⊆ t) :
    t.LeadsTo name := by
  obtain ⟨endpoint, hdescribed, hleads⟩ := hl
  exact ⟨endpoint, hdescribed.mono ht, hleads⟩

/-- What is in accord with the endpoints described so far may follow. -/
theorem Transcript.Accords.append (hh : h.Accords scope network)
    (ht : t.All fun e => e.call.Accords h.LeadsTo scope network) :
    (h ++ t).Accords scope network := by
  have hlonger : ∀ name, h.LeadsTo name → (h ++ t).LeadsTo name := fun name hname =>
    hname.mono (List.subset_append_left ..)
  intro e he
  rcases List.mem_append.1 he with he | he
  · exact (hh e he).mono hlonger
  · exact (ht e he).mono hlonger

/-- A call that looks up no interface is in accord whatever was described, and adds its reply. -/
theorem Transcript.Accords.perform {c : Call} (hc : c.Accords (fun _ => False) scope network)
    (hh : h.Accords scope network) :
    (Action.perform c).Ensures unruly h (fun x t => t.Accords scope network ∧ ⟨c, .ok x⟩ ∈ t)
      fun _ t => t.Accords scope network := by
  have hadded : ∀ reply, Transcript.Accords scope network (h ++ [⟨c, reply⟩]) := by
    intro reply
    refine hh.append fun e he => ?_
    obtain rfl := List.mem_singleton.1 he
    exact hc.mono fun _ => False.elim
  exact Action.ensures_unruly (fun _ => ⟨hadded _, List.mem_concat_self⟩) fun _ => hadded _

theorem Transcript.Accords.keeps {c : Call} (hc : c.Accords (fun _ => False) scope network) :
    Action.Keeps unruly (Transcript.Accords scope network) (Action.perform c) := fun _ hh =>
  (hh.perform hc).mono (fun _ _ ht => ht.1) fun _ _ ht => ht

namespace Isolation

/-- DNS is configured in accord with an endpoint that was described. -/
theorem configureDns_keeps_accord {endpoint : Endpoint} (hd : h.Describes endpoint)
    (hh : h.Accords scope network) :
    (configureDns scope endpoint network.vnet (networkGroup scope network) account tags).Ensures
      unruly h (fun _ t => t.Accords scope network) fun _ t => t.Accords scope network := by
  have hadded : ∀ {new result}, Chain scope endpoint network.vnet (networkGroup scope network)
      account tags new result → Transcript.Accords scope network (h ++ new) := fun hchain =>
    hh.append fun e he => (hchain.accords e he).mono fun _ hname => ⟨endpoint, hd, hname⟩
  refine (configureDns_adds h).mono ?_ ?_
  · rintro _ _ ⟨new, rfl, hchain⟩
    exact hadded hchain
  · rintro _ _ ⟨new, rfl, hchain⟩
    exact hadded hchain

theorem configure_keeps_accord :
    Action.Keeps unruly (Transcript.Accords scope network)
      (configure scope account tags network) := by
  intro h hh
  let request := endpointRequest scope account tags network
  have hrequest : (Call.createEndpoint request).Accords (fun _ => False) scope network :=
    endpointRequest_subnet scope account tags network
  refine (Action.ensures_bind _).2 ((hh.perform hrequest).mono ?_ fun _ _ ht => ht)
  rintro endpoint t ⟨ht, hcreated⟩
  refine (Action.ensures_bind _).2 ?_
  exact (configureDns_keeps_accord (Or.inr ⟨request, hcreated⟩) ht).mono (fun _ _ hu => hu)
    fun _ _ hu => hu

end Isolation

/-- **Private access is opened in accord** with its network, whether the endpoint is created or was
there. -/
theorem Assure.privateNetwork_keeps_accord :
    Action.Keeps unruly (Transcript.Accords scope network)
      (privateNetwork scope infra a network) := by
  intro h hh
  rw [privateNetwork_ensures]
  split
  · exact Isolation.configure_keeps_accord h hh
  · refine (hh.perform (c := .getEndpoint network.endpoint) trivial).mono ?_ fun f t ht => ?_
    · rintro endpoint t ⟨ht, hfound⟩
      exact Isolation.configureDns_keeps_accord (Or.inl ⟨network.endpoint, hfound⟩) ht
    · split
      · exact Isolation.configure_keeps_accord t ht
      · exact ht

namespace Storage

variable {w : Work} {now : Moment} {settings : Settings} {environment : CloudEnvironment}

theorem openPrivately_keeps_accord {c : StorageConfig} (hn : c.network = .internal network) :
    Action.Keeps unruly (Transcript.Accords scope network)
      (openPrivately scope infra a (accountNamed account c)) := by
  have hnamed : (accountNamed account c).network =
      .internal (Isolation.nameEndpoint account network) := by
    simp only [accountNamed, StorageConfig.nameEndpoint, hn]
  have hsame : Transcript.Accords scope (Isolation.nameEndpoint account network) =
      Transcript.Accords scope network := by
    funext h
    simp only [Transcript.Accords, Call.accords_nameEndpoint]
  unfold openPrivately
  rw [hnamed, ← hsame]
  exact Assure.privateNetwork_keeps_accord

theorem furnish_accords (hn : w.config.network = .internal network)
    (hh : h.Accords scope network) :
    (furnish scope environment infra fresh now).Ensures unruly w h
      (fun _ _ t => t.Accords scope network) fun _ _ t => t.Accords scope network := by
  have hother : ∀ d : Call, d.Accords (fun _ => False) scope network →
      Action.Keeps unruly (Transcript.Accords scope network) (Action.perform d) := fun _ =>
    Transcript.Accords.keeps
  refine furnish_keeps_of ?_ (fun _ => openPrivately_keeps_accord hn) (fun c => ?_) (fun c => ?_) hh
  · exact Assure.account_keeps_of (fun _ => hother _ trivial) fun _ => hother _ trivial
  · exact Assure.container_keeps_of (hother _ trivial) (fun _ _ => hother _ trivial) fun _ _ =>
      hother _ trivial
  · exact closePublicly_keeps_of (hother _ trivial) (hother _ trivial)

/-- **Creating is in accord** with the network of the record, whoever replies. -/
theorem create_accords {credentials : ClusterCredentials}
    (hc : settings.credentials = .ok (.cluster credentials))
    (hn : w.config.network = .internal network) :
    (create settings infra fresh now).Ensures unruly w []
      (fun _ _ t => t.Accords credentials.scope network)
      fun _ _ t => t.Accords credentials.scope network := by
  have hnone : Transcript.Accords credentials.scope network [] := List.forall_mem_nil _
  rw [create_ensures hc, provision_ensures]
  refine ⟨fun _ => hnone, fun _ => ⟨fun _ _ => hnone, fun _ => ⟨fun _ _ => hnone, ?_⟩⟩⟩
  intro environment _
  have hclients : (Call.clients environment credentials).Accords (fun _ => False)
      credentials.scope network := trivial
  refine (Transcript.Accords.keeps hclients [] hnone).mono (fun _ t ht => ?_) fun _ _ ht => ht
  exact furnish_accords (w := w.withConfig (takeCloud infra w.config))
    ((StorageConfig.takeCloud_network infra w.config).trans hn) ht

end Storage

end Runs

/-! ## The theorem -/

open Isolation ResourceId

/-- **Identifiers agree with each other.** For an endpoint that is created as well as for one that
was there, whoever replies, the virtual network of the link followed by the subnet is the subnet
that the request for the endpoint carries, in the cluster's resource group unless the network names
another; and the interface that is looked up is the one that the endpoint's identifier ends in. The
same is true of all calls of a run of creating. The name of an identifier does not depend on slashes
at its end, has none, is read back from every identifier that is built from it, and is the one that
the identifier ends in. -/
theorem identifiers_agree :
    (∀ {σ : Type} (r : Replier σ) (s : σ) (scope : Scope) (account : String) (tags : Tags)
        (network : InternalNetwork),
      let request := endpointRequest scope account tags (nameEndpoint account network)
      let accords (led : String → Prop) (t : Transcript) : Prop :=
        t.All fun e => e.call.Accords led scope network
      let fresh := (configure scope account tags (nameEndpoint account network)).run
      request.subnet = subnetId scope network ∧
      (∃ reply, ∃ rest : Transcript,
        fresh.transcript r s = ⟨.createEndpoint request, reply⟩ :: rest ∧
        accords (fun name => ∃ endpoint, reply = .ok endpoint ∧ endpoint.LeadsTo name) rest ∧
        ∀ endpoint, (fresh.run r s).1 = .ok endpoint → rest.Completes) ∧
      ∀ endpoint : Endpoint,
        let repair := (refreshDns scope endpoint account tags network).run
        accords endpoint.LeadsTo (repair.transcript r s) ∧
        ((repair.run r s).1 = .ok () → (repair.transcript r s).Completes)) ∧
    (∀ {σ : Type} (r : Replier σ) (s : σ) settings credentials infra fresh now w network,
      settings.credentials = .ok (.cluster credentials) → w.config.network = .internal network →
        (((Storage.create settings infra fresh now).start w).transcript r s).Accords
          credentials.scope network) ∧
    (∀ id k, name (id ++ slashes k) = name id) ∧
    (∀ id, '/' ∉ (name id).toList) ∧
    (∀ subscription group vnet n, IsPart n →
      name (subnet subscription group vnet n) = n ∧
      name (virtualNetwork subscription group n) = n ∧
      name (storageAccount subscription group n) = n ∧
      name (privateDnsZone subscription group n) = n) ∧
    ∀ id n, name id = n ↔ EndsIn id n := by
  refine ⟨?_, ?_, name_append_slashes, slash_notMem_name, ?_, name_eq_iff⟩
  · intro σ r s scope account tags network request accords fresh
    have hrequest : request.subnet = subnetId scope network :=
      (endpointRequest_subnet ..).trans (subnetId_nameEndpoint ..)
    refine ⟨hrequest, ?_, fun endpoint => ?_⟩
    · obtain ⟨reply, rest, hfresh, haccords, hcompletes⟩ :=
        Program.Ensures.of_transcript (r := r) (p := fresh) configure_accords s
      refine ⟨reply, rest, hfresh, fun e he => ?_, hcompletes⟩
      exact Call.accords_nameEndpoint.1 (haccords e he)
    · let repair := (refreshDns scope endpoint account tags network).run
      have hchain : Chain scope endpoint network.vnet (networkGroup scope network) account tags
          (repair.transcript r s) (repair.run r s).1 := chain_run r s
      exact ⟨hchain.accords, fun hended => Chain.completes (hended ▸ hchain)⟩
  · intro σ r s settings credentials infra fresh now w network hc hn
    exact (Storage.create_accords hc hn).of_transcript s
  · intro subscription group vnet n h
    exact ⟨name_subnet subscription group vnet h, name_virtualNetwork subscription group h,
      name_storageAccount subscription group h, name_privateDnsZone subscription group h⟩

/-- An endpoint that was there, in a network whose resource group is named as nothing, and whose
interface has slashes behind its name. -/
theorem empty_group_is_the_clusters :
    let home := clusterSettings.cluster.scope
    let network : InternalNetwork :=
      { vnet := "vnet", subnet := "workers", resourceGroup := some "", endpoint := "acct1-pe" }
    let interface := inGroup "sub" "mycluster-rg" "Microsoft.Network/networkInterfaces/nic7"
    let endpoint : StoredEndpoint :=
      { request := endpointRequest home "acct1" {} network, given := some [interface ++ slashes 2] }
    let inventory : Inventory :=
      { accounts := .ofList [("acct1", .named "acct1")]
        endpoints := .ofList [("acct1-pe", endpoint)]
        interfaces := .ofList [("nic7", ["10.0.1.4"])] }
    let infra : Infrastructure := ⟨"mycluster", none⟩
    let w : Work :=
      ⟨{ account := "acct1", container := "images", network := .internal network }, {}⟩
    let link := linkRequest home "acct1" "vnet" "mycluster-rg" infra.tags
    let t := ((Storage.create clusterSettings infra default default).start w).transcript
      (Inventory.reply home) inventory
    let fresh := (configure home "acct1" infra.tags network).run
    let created := Inventory.endpoint home "acct1-pe"
      (Inventory.newEndpoint {} (endpointRequest home "acct1" infra.tags network))
    let repair := (refreshDns home ⟨"", "acct1-pe", [interface ++ slashes 2]⟩ "acct1" infra.tags
      network).run
    (∃ e ∈ t, e.call = .putLink link) ∧ (∃ e ∈ t, e.call = .getInterface "nic7") ∧
      link.virtualNetwork ++ "/subnets/" ++ "workers" =
        "/subscriptions/sub/resourceGroups/mycluster-rg/providers/Microsoft.Network/" ++
          "virtualNetworks/vnet/subnets/workers" ∧
      t.LeadsTo "nic7" ∧ name (interface ++ slashes 2) = "nic7" ∧
      IsPart "workers" ∧ name (subnet "sub" "mycluster-rg" "vnet" "workers") = "workers" ∧
      (repair.run (Inventory.reply home) inventory).1 = .ok () ∧
      (repair.transcript (Inventory.reply home) inventory).Completes ∧
      (fresh.run (Inventory.reply home) {}).1 = .ok created ∧
      ∃ reply, ∃ rest : Transcript, fresh.transcript (Inventory.reply home) {} =
        ⟨.createEndpoint (endpointRequest home "acct1" infra.tags network), reply⟩ :: rest ∧
        rest.Completes := by
  intro home network interface endpoint inventory infra w link t fresh created repair
  obtain ⟨hpaths, hcreate, hslashes, -, hbuilt, -⟩ := identifiers_agree
  have haccords : t.Accords home network :=
    hcreate (Inventory.reply home) inventory clusterSettings _ infra default default w network
      clusterSettings_credentials rfl
  have hcalls : ∀ {c : Call}, c ∈ t.map Exchange.call → ∃ e ∈ t, e.call = c := List.mem_map.1
  have hlinked : ∃ e ∈ t, e.call = .putLink link := hcalls (by decide +kernel)
  have hlooked : ∃ e ∈ t, e.call = .getInterface "nic7" := hcalls (by decide +kernel)
  have hspelled : subnetId home network =
      "/subscriptions/sub/resourceGroups/mycluster-rg/providers/Microsoft.Network/" ++
        "virtualNetworks/vnet/subnets/workers" := by
    decide +kernel
  have hnet : link.virtualNetwork ++ "/subnets/" ++ "workers" = subnetId home network := by
    obtain ⟨e, he, hcall⟩ := hlinked
    have hlink : e.call.Accords t.LeadsTo home network := haccords e he
    rwa [hcall] at hlink
  have hled : t.LeadsTo "nic7" := by
    obtain ⟨e, he, hcall⟩ := hlooked
    have hled : e.call.Accords t.LeadsTo home network := haccords e he
    rwa [hcall] at hled
  have hnic : name (interface ++ slashes 2) = "nic7" := by
    rw [hslashes]
    decide +kernel
  have hworkers : IsPart "workers" := ⟨by decide, by decide⟩
  obtain ⟨-, -, hrepair⟩ :=
    hpaths (Inventory.reply home) inventory home "acct1" infra.tags network
  have hrepaired : (repair.run (Inventory.reply home) inventory).1 = .ok () := by decide +kernel
  obtain ⟨-, ⟨reply, rest, hfresh, -, hcompletes⟩, -⟩ :=
    hpaths (Inventory.reply home) {} home "acct1" infra.tags network
  have hcreated : (fresh.run (Inventory.reply home) {}).1 = .ok created := by decide +kernel
  exact ⟨hlinked, hlooked, hnet.trans hspelled, hled, hnic, hworkers,
    (hbuilt _ _ _ _ hworkers).1, hrepaired, (hrepair _).2 hrepaired, hcreated, reply, rest, hfresh,
    hcompletes created hcreated⟩

end RegistryStorage
