import RegistryStorage.Proofs.Attempts

/-!
Storage that is private and can be reached.

When an attempt to create storage ends well and the configuration asks for private access, then the
account and the container exist, the account is closed to the public network, and all that leads
from the virtual network to it is in place (`Secluded`). It does not matter what existed before, nor
which calls were refused and with what fault: an attempt that ends well has put everything in place
that it needed (`created_storage_is_secluded`).

Three faults do not stop an attempt. An endpoint that is said to be missing is created, an account
that cannot be looked at is closed all the same, and a link that is refused because of a conflict is
taken to be there already. The last is the one thing that is not seen with certainty in the end.

There are two halves, and neither gets in the way of the other. `Reachable` holds once private
access is open, and the calls that are made afterwards are about the account and its containers
(`Call.OfStorage`), so they leave the network alone.
-/

set_option autoImplicit false

namespace RegistryStorage

open Isolation (zone zoneGroup)
open Storage (takeCloud accountNamed)

/-- An inventory any of whose calls may be refused, with any fault. -/
abbrev Inventory.unreliable (home : Scope) : Conduct (Scene Inventory) :=
  Inventory.refusable (fun _ => True) home

/-- What it takes for a call that may be refused with any fault to end as wished. -/
theorem Inventory.ensures_unreliable {home : Scope} {d : Call} {s : Scene Inventory}
    {Q : d.Answer → Scene Inventory → Prop} {E : Fault → Scene Inventory → Prop}
    (hQ : ∀ x t, Inventory.reply home d s.provider = (.ok x, t) → Q x (s.after d none t))
    (hE : ∀ f, E f (s.after d (some f) s.provider)) :
    (Action.perform d).Ensures (Inventory.unreliable home) s Q E :=
  Inventory.ensures_refusable hQ fun f _ => hE f

/-! ## What leads to an account -/

/-- A link that was not put in place because of one that is there. -/
def Journal.Conflicted (request : LinkRequest) (j : Journal) : Prop :=
  ∃ e ∈ j, e.call = .putLink request ∧ ∃ f, e.fault = some f ∧ f.isConflict = true

/-- The journal only grows, so a conflict that was seen stays seen. -/
theorem Journal.Conflicted.cons {request : LinkRequest} {j : Journal} (h : j.Conflicted request)
    (e : Entry) : Journal.Conflicted request (e :: j) := by
  obtain ⟨x, hx, hconflict⟩ := h
  exact ⟨x, List.mem_cons_of_mem e hx, hconflict⟩

/-- All that leads from a virtual network to an account. -/
structure Reachable (home scope : Scope) (network : InternalNetwork) (account : String)
    (s : Scene Inventory) : Prop where
  endpoint : s.provider.has (.endpoint network.endpoint) = true
  address : ∃ address, s.provider.address? home network.endpoint = some address ∧
    s.provider.aRecords.get? (zone, account) = some address
  group : s.provider.zoneGroups.get? (network.endpoint, zoneGroup) =
    some (ResourceId.privateDnsZone scope.subscription scope.resourceGroup zone)
  link : s.provider.has (.link zone account) = true ∨
    ∃ request : LinkRequest, request.zone = zone ∧ request.link = account ∧
      s.journal.Conflicted request

section Reaching

variable {home scope : Scope} {network : InternalNetwork} {account : String} {tags : Tags}
variable {s : Scene Inventory}

/-- **DNS is configured for the endpoint that is there**, or a fault stops it. -/
theorem Isolation.configureDns_reaches {endpoint : Endpoint} {stored : StoredEndpoint}
    {vnet group : String} (hname : endpoint.name = network.endpoint)
    (hstored : s.provider.endpoints.get? network.endpoint = some stored)
    (hinterfaces : Inventory.interfacesOf home stored = endpoint.interfaces) :
    (configureDns scope endpoint vnet group account tags).Ensures (Inventory.unreliable home) s
      (fun _ t => Reachable home scope network account t) fun _ _ => True := by
  have hopen : s.provider.has (.endpoint network.endpoint) = true := Dict.contains_of_get? hstored
  rw [configureDns_ensures]
  refine Inventory.ensures_unreliable (fun _ i hzone => ?_) fun _ => trivial
  obtain rfl := (Prod.mk.inj hzone).2
  refine ⟨fun interface hfirst => ?_, fun _ _ => trivial⟩
  refine Inventory.ensures_unreliable (fun found i hreply => ?_) fun _ => trivial
  simp only [Inventory.reply, Scene.after_provider] at hreply
  split at hreply
  · rename_i addresses haddresses
    obtain ⟨hfound, rfl⟩ := Prod.mk.inj hreply
    obtain rfl := Except.ok.inj hfound
    refine ⟨fun address haddress => ?_, fun _ _ => trivial⟩
    -- the address that is found is the one that the endpoint leads to
    have hleads : s.provider.address? home network.endpoint = some address := by
      obtain ⟨rest, rfl⟩ := firstAddress_eq_ok.1 haddress
      obtain ⟨id, ids, hids, rfl⟩ := firstInterface_eq_ok.1 hfirst
      exact Inventory.address?_eq_some.2
        ⟨stored, id, ids, rest, hstored, hinterfaces.trans hids, haddresses⟩
    refine Inventory.ensures_unreliable (fun _ i hrecord => ?_) fun _ => trivial
    obtain rfl := (Prod.mk.inj hrecord).2
    rw [hname]
    refine Inventory.ensures_unreliable (fun _ i hgroup => ?_) fun _ => trivial
    obtain rfl := (Prod.mk.inj hgroup).2
    rw [link_ensures]
    refine Inventory.ensures_unreliable (fun _ i hlink => ?_) fun f => ?_
    · obtain rfl := (Prod.mk.inj hlink).2
      exact ⟨hopen, ⟨address, hleads, Dict.get?_insert_self ..⟩, Dict.get?_insert_self ..,
        Or.inl ((Dict.contains_insert ..).2 (Or.inl rfl))⟩
    · split
      · rename_i hconflict
        exact ⟨hopen, ⟨address, hleads, Dict.get?_insert_self ..⟩, Dict.get?_insert_self ..,
          Or.inr ⟨_, rfl, rfl, _, List.mem_cons_self, rfl, f, rfl, hconflict⟩⟩
      · trivial
  · cases hreply

theorem Isolation.configure_reaches :
    (configure scope account tags network).Ensures (Inventory.unreliable home) s
      (fun _ t => Reachable home scope network account t) fun _ _ => True := by
  refine (Action.ensures_bind _).2 ?_
  refine Inventory.ensures_unreliable (fun endpoint i hreply => ?_) fun _ => trivial
  obtain ⟨hanswer, rfl⟩ := Prod.mk.inj hreply
  obtain rfl := Except.ok.inj hanswer
  refine (Action.ensures_bind _).2 ?_
  exact (configureDns_reaches rfl (Dict.get?_insert_self ..) rfl).mono (fun _ _ ht => ht)
    fun _ _ ht => ht

/-- **Private access leads to the account**, whether or not the account is new and the endpoint is
missing. -/
theorem Assure.privateNetwork_reaches {infra : Infrastructure} {a : Assured}
    (hplain : s.provider.Plain) :
    (privateNetwork scope infra a network).Ensures (Inventory.unreliable home) s
      (fun _ t => Reachable home scope network a.name t) fun _ _ => True := by
  rw [privateNetwork_ensures]
  split
  · exact Isolation.configure_reaches
  · refine Inventory.ensures_unreliable (fun endpoint i hreply => ?_) fun f => ?_
    · obtain ⟨stored, hstored, rfl, rfl⟩ := Inventory.reply_endpoint hreply
      have hname : stored.reports.getD network.endpoint = network.endpoint :=
        hplain.named _ stored hstored
      exact Isolation.configureDns_reaches hname hstored rfl
    · split
      · exact Isolation.configure_reaches
      · trivial

end Reaching

/-! ## What leaves the network alone -/

/-- The calls that are about accounts and containers. -/
def Call.OfStorage : Call → Prop
  | checkName _ | createAccount _ | getAccount _ | setAccess .. | listKeys _ => True
  | containerExists .. | createContainer .. => True
  | _ => False

/-- What leads to an account stays as it is while the calls are about accounts and containers. -/
theorem Reachable.keeps {home scope : Scope} {network : InternalNetwork} {account : String}
    {d : Call} (hd : d.OfStorage) :
    Action.Keeps (Inventory.unreliable home) (Reachable home scope network account)
      (Action.perform d) := by
  intro s hs
  have hlink : ∀ {fault : Option Fault}, s.provider.has (.link zone account) = true ∨
      ∃ request : LinkRequest, request.zone = zone ∧ request.link = account ∧
        Journal.Conflicted request (⟨d, fault⟩ :: s.journal) := by
    intro fault
    refine hs.link.imp_right ?_
    rintro ⟨request, hzone, hname, hconflict⟩
    exact ⟨request, hzone, hname, hconflict.cons _⟩
  refine Inventory.ensures_unreliable (fun x i hreply => ?_) fun f =>
    ⟨hs.endpoint, hs.address, hs.group, hlink⟩
  cases d <;> simp only [Inventory.reply] at hreply <;> try split at hreply
  all_goals first
    | exact hd.elim
    | cases hreply
  all_goals exact ⟨hs.endpoint, hs.address, hs.group, hlink⟩

/-! ## The account and the container -/

section Storing

variable {σ : Type} {R : Conduct σ} {I : σ → Prop} {home : Scope} {c : StorageConfig}
variable {infra : Infrastructure} {fresh : Fresh} {s : Scene Inventory}

/-- An account exists, and a container in it. -/
structure Stored (a n : String) (i : Inventory) : Prop where
  account : i.has (.account a) = true
  container : i.has (.container a n) = true

theorem Stored.keeps {a n : String} {d : Call} {P : Fault → Prop} (hd : d.deletion? = none) :
    Action.Keeps (Inventory.refusable P home) (fun s => Stored a n s.provider)
      (Action.perform d) := by
  intro s hs
  refine Inventory.ensures_refusable (fun x i hreply => ⟨?_, ?_⟩) fun _ _ => hs
  · exact Inventory.reply_keeps hreply hd _ hs.account
  · exact Inventory.reply_keeps hreply hd _ hs.container

theorem Storage.closePublicly_stored {a n : String} {P : Fault → Prop} :
    Action.Keeps (Inventory.refusable P home) (fun s => Stored a n s.provider) (closePublicly c) :=
  closePublicly_keeps_of (Stored.keeps rfl) (Stored.keeps rfl)

/-- A key is had only of an account that is there. -/
theorem Probe.primaryKey_there {account : String} {P : Fault → Prop} :
    (primaryKey account).Ensures (Inventory.refusable P home) s
      (fun _ t => t.provider = s.provider ∧ s.provider.has (.account account) = true)
      fun _ _ => True := by
  rw [primaryKey_ensures]
  refine Inventory.ensures_refusable (fun keys i hreply => ?_) fun _ _ => trivial
  obtain ⟨hthere, rfl⟩ := Inventory.reply_found rfl hreply
  exact ⟨fun _ _ => ⟨rfl, hthere⟩, fun _ _ => trivial⟩

/-- **Once there is a container there is an account with it.** -/
theorem Assure.container_stored {P : Fault → Prop} :
    (container c infra fresh).Ensures (Inventory.refusable P home) s
      (fun a t => Stored c.account a.name t.provider) fun _ _ => True := by
  -- the key shows that the account is there
  have hcreate : ∀ {t : Scene Inventory} {key name : String},
      t.provider.has (.account c.account) = true →
      (Action.perform (.createContainer c.account key name)).Ensures
        (Inventory.refusable P home) t (fun _ u => Stored c.account name u.provider)
        fun _ _ => True := by
    intro t key name hthere
    refine Inventory.ensures_refusable (fun _ i hreply => ⟨?_, ?_⟩) fun _ _ => trivial
    · exact Inventory.reply_keeps hreply rfl _ hthere
    · exact (Inventory.reply_has hreply _).2 (Or.inl rfl)
  rw [container_ensures]
  split
  · refine Probe.primaryKey_there.mono ?_ fun _ _ ht => ht
    rintro key t ⟨ht, hthere⟩
    rw [← ht] at hthere
    exact hcreate hthere
  · refine ⟨fun _ _ => trivial, fun _ => ?_⟩
    refine Probe.primaryKey_there.mono ?_ fun _ _ ht => ht
    rintro key t ⟨ht, hthere⟩
    rw [← ht] at hthere
    unfold Probe.containerExists
    split
    · exact hcreate hthere
    · refine Inventory.ensures_refusable (fun there i hreply => ?_) fun _ _ => trivial
      obtain ⟨hanswer, rfl⟩ := Prod.mk.inj hreply
      obtain rfl := Except.ok.inj hanswer
      split
      · rename_i hfound
        exact ⟨hthere, hfound⟩
      · exact hcreate hthere

/-- The container is had only of an account that was there. -/
theorem Assure.container_finds {P : Fault → Prop} :
    (container c infra fresh).Ensures (Inventory.refusable P home) s
      (fun _ _ => s.provider.has (.account c.account) = true) fun _ _ => True := by
  rw [container_ensures]
  split
  · refine Probe.primaryKey_there.mono (fun key t ht => ?_) fun _ _ ht => ht
    exact .of_forall (fun _ _ => ht.2) fun _ _ => trivial
  · refine ⟨fun _ _ => trivial, fun _ => ?_⟩
    refine Probe.primaryKey_there.mono (fun key t ht => ?_) fun _ _ ht => ht
    refine .of_forall (fun there u => ?_) fun _ _ => trivial
    split
    · exact ht.2
    · exact .of_forall (fun _ _ => ht.2) fun _ _ => trivial

/-- An account is closed to the public network. -/
def Inventory.Closed (account : String) (i : Inventory) : Prop :=
  ∃ a, i.accounts.get? account = some a ∧ a.access = some .disabled

/-- **An account that is to be private is closed**, also when it cannot be looked at. -/
theorem Storage.closePublicly_closes {P : Fault → Prop} (hinternal : c.network.isInternal = true) :
    (closePublicly c).Ensures (Inventory.refusable P home) s
      (fun _ t => t.provider.Closed c.account) fun _ _ => True := by
  have hset : ∀ {t : Scene Inventory},
      (Action.perform (.setAccess c.account .disabled)).Ensures (Inventory.refusable P home) t
        (fun _ u => u.provider.Closed c.account) fun _ _ => True := by
    intro t
    refine Inventory.ensures_refusable (fun _ i hreply => ?_) fun _ _ => trivial
    obtain ⟨a, -, rfl⟩ := Inventory.reply_setAccess hreply
    exact ⟨_, Dict.get?_insert_self .., rfl⟩
  unfold closePublicly
  rw [if_pos hinternal, closeToPublic_ensures]
  refine Inventory.ensures_refusable (fun found i hreply => ?_) fun _ _ => hset
  simp only [Inventory.reply] at hreply
  split at hreply
  · rename_i a ha
    obtain ⟨hanswer, rfl⟩ := Prod.mk.inj hreply
    obtain rfl := Except.ok.inj hanswer
    split
    · rename_i hclosed
      exact ⟨a, ha, hclosed⟩
    · exact hset
  · cases hreply

end Storing

/-! ## Storage that is put in place -/

/-- The storage of a configuration is private and can be reached. -/
structure Secluded (home scope : Scope) (c : StorageConfig) (s : Scene Inventory) : Prop where
  stored : Stored c.account c.container s.provider
  closed : s.provider.Closed c.account
  reachable : ∃ network, c.network = .internal network ∧
    c.network.endpoint? = some network.endpoint ∧ Reachable home scope network c.account s

namespace Storage

variable {home : Scope} {s : Scene Inventory} {w : Work} {now : Moment} {settings : Settings}
variable {credentials : ClusterCredentials} {infra : Infrastructure} {fresh : Fresh}

theorem furnish_secludes {scope : Scope} {environment : CloudEnvironment}
    (hplain : s.provider.Plain) (hinternal : w.config.network.isInternal = true) :
    (furnish scope environment infra fresh now).Ensures (Inventory.unreliable home) w s
      (fun _ v t => Secluded home scope v.state.spec t) fun _ _ _ => True := by
  have hkept : (Assure.account scope environment w.config infra fresh).Ensures
      (Inventory.unreliable home) s (fun _ t => t.provider.Plain) fun _ t => t.provider.Plain := by
    refine Action.Ensures.of_kept (I := fun s : Scene Inventory => s.provider.Plain) ?_ hplain
    rintro d s reply t ⟨i, hi | ⟨f, -, rfl, rfl⟩, rfl⟩ hs
    · exact hs.reply hi
    · exact hs
  rw [furnish_ensures]
  refine hkept.mono (fun account t ht => ?_) fun _ _ _ => trivial
  let c := accountNamed account.name w.config
  have haccount : c.account = account.name := StorageConfig.accountNamed_account ..
  have hinternal : c.network.isInternal = true := by
    rwa [StorageConfig.accountNamed_isInternal]
  obtain ⟨network, hnetwork⟩ := NetworkAccess.exists_of_isInternal hinternal
  have hopen : (openPrivately scope infra account c).Ensures (Inventory.unreliable home) t
      (fun _ t => Reachable home scope network c.account t) fun _ _ => True := by
    unfold openPrivately
    rw [hnetwork, haccount]
    exact Assure.privateNetwork_reaches ht
  refine hopen.mono (fun _ t ht => ?_) fun _ _ _ => trivial
  -- from here on the network is left alone
  have hkeeps : ∀ d : Call, d.OfStorage →
      Action.Keeps (Inventory.unreliable home) (Reachable home scope network c.account)
        (Action.perform d) := fun _ => Reachable.keeps
  have hcontainer : Action.Keeps (Inventory.unreliable home)
      (Reachable home scope network c.account) (Assure.container c infra fresh) :=
    Assure.container_keeps_of (hkeeps _ trivial) (fun _ _ => hkeeps _ trivial) fun _ _ =>
      hkeeps _ trivial
  refine ((hcontainer t ht).and Assure.container_stored).mono ?_ fun _ _ _ => trivial
  rintro container t ⟨ht, hstored⟩
  have hreached : Action.Keeps (Inventory.unreliable home) (Reachable home scope network c.account)
      (closePublicly c) := closePublicly_keeps_of (hkeeps _ trivial) (hkeeps _ trivial)
  have hends := ((hreached t ht).and (closePublicly_stored t hstored)).and
    (closePublicly_closes hinternal)
  refine hends.mono ?_ fun _ _ _ => trivial
  rintro _ t ⟨⟨ht, hstored⟩, hclosed⟩
  exact ⟨hstored, hclosed, network, hnetwork, StorageConfig.accountNamed_endpoint hnetwork, ht⟩

theorem create_secludes (hc : settings.credentials = .ok (.cluster credentials))
    (hplain : s.provider.Plain) (hinternal : w.config.network.isInternal = true) :
    (create settings infra fresh now).Ensures (Inventory.unreliable home) w s
      (fun _ v t => Secluded home credentials.scope v.state.spec t) fun _ _ _ => True := by
  rw [create_ensures hc, provision_ensures]
  refine ⟨fun _ => trivial, fun _ => ⟨fun _ _ => trivial, fun _ => ⟨fun _ _ => trivial, ?_⟩⟩⟩
  intro environment _
  refine Inventory.ensures_unreliable (fun _ i hreply => ?_) fun _ => trivial
  obtain rfl := (Prod.mk.inj hreply).2
  refine furnish_secludes (w := w.withConfig (takeCloud infra w.config)) hplain ?_
  exact (congrArg NetworkAccess.isInternal (StorageConfig.takeCloud_network infra w.config)).trans
    hinternal

end Storage

/-- What a turn leaves that ends well. -/
theorem World.take_secludes {home : Scope} {w v : World} {settings : Settings}
    {credentials : ClusterCredentials} {infra : Infrastructure} {fresh : Fresh} {now : Moment}
    {d : Disturbance} (hc : settings.credentials = .ok (.cluster credentials))
    (hplain : w.scene.provider.Plain) (hinternal : w.state.spec.network.isInternal = true)
    (hended : w.take settings home ⟨.create infra fresh, now, d⟩ = (.ok (), v)) :
    Secluded home credentials.scope v.state.spec v.scene := by
  have hcreate : (Storage.create settings infra fresh now).Ensures (Inventory.unreliable home)
      ⟨w.state.spec, w.state⟩ w.scene
      (fun _ v t => Secluded home credentials.scope v.state.spec t) fun _ _ _ => True :=
    Storage.create_secludes hc hplain hinternal
  exact take_ended (Q := fun v => Secluded home credentials.scope v.state.spec v.scene)
    hended (fun _ _ => trivial) hcreate

/-- **Storage that was created for private access is private and can be reached**, whatever existed
before and whichever calls were refused on the way. -/
theorem created_storage_is_secluded {settings : Settings} {credentials : ClusterCredentials}
    (hc : settings.credentials = .ok (.cluster credentials)) (home : Scope) (state : StorageState)
    (inventory : Inventory) (hplain : inventory.Plain)
    (hinternal : state.spec.network.isInternal = true) (infra : Infrastructure) (fresh : Fresh)
    (now : Moment) (d : Disturbance) (v : World)
    (hended : (World.initial state inventory).take settings home ⟨.create infra fresh, now, d⟩ =
      (.ok (), v)) : Secluded home credentials.scope v.state.spec v.scene :=
  World.take_secludes hc hplain hinternal hended

/-- An account that was there, whose endpoint is said to be missing, that cannot be looked at, and
whose link is said to be there. -/
theorem disturbed_storage_is_secluded :
    let inventory : Inventory := { accounts := .ofList [("acct1", .named "acct1")] }
    let network : InternalNetwork := { vnet := "vnet", subnet := "subnet" }
    let spec : StorageConfig :=
      { account := "acct1", container := "images", network := .internal network }
    let home := clusterSettings.cluster.scope
    let w := World.initial { spec := spec } inventory
    let d : Disturbance :=
      [none, none, some (.response 404 "NotFound" ""), none, none, none, none, none,
        some (.response 409 "Conflict" ""), none, none, none, some (.authentication "")]
    inventory.Plain ∧
      ∃ v, w.take clusterSettings home ⟨.create ⟨"mycluster", none⟩ ⟨⟨[], 0⟩, 0⟩, default, d⟩ =
          (.ok (), v) ∧
        v.scene.journal.countP (·.fault.isSome) = 3 ∧ Secluded home home v.state.spec v.scene := by
  intro inventory network spec home w d
  have hplain : inventory.Plain := by
    refine ⟨rfl, fun n a ha => ?_, fun _ _ h => by cases h⟩
    rcases Dict.get?_insert_cases ha with ⟨-, rfl⟩ | ha
    · rfl
    · cases ha
  obtain ⟨v, hended, hcount⟩ : ∃ v,
      w.take clusterSettings home ⟨.create ⟨"mycluster", none⟩ ⟨⟨[], 0⟩, 0⟩, default, d⟩ =
        (.ok (), v) ∧ v.scene.journal.countP (·.fault.isSome) = 3 :=
    ⟨_, Prod.ext (by decide +kernel) rfl, by decide +kernel⟩
  exact ⟨hplain, v, hended, hcount, created_storage_is_secluded clusterSettings_credentials home
    { spec := spec } inventory hplain rfl ⟨"mycluster", none⟩ ⟨⟨[], 0⟩, 0⟩ default d v hended⟩

end RegistryStorage
