import RegistryStorage.Proofs.CloudNames
import RegistryStorage.Proofs.Onward

/-!
Attempts that may fail anywhere.

An attempt to create storage, any of whose calls may be refused, stays on the way
(`Storage.create_onward`): step by step, each in terms of the record that would be left if it
failed. What the steps need of each other is little. The account has to be there before anything
is put into it (`Undertaking.Lodged`), and an account that was just created has no endpoint yet
that the run created (`Undertaking.Unopened`).
-/

set_option autoImplicit false

namespace RegistryStorage

open Storage (takeCloud accountNamed)

variable {u : Undertaking} {state : StorageState} {s : Scene Inventory} {f : Fresh}

/-- What it takes to create the endpoint whether there is one of its name or not. -/
structure Undertaking.Unopened (u : Undertaking) (c : StorageConfig) (s : Scene Inventory) :
    Prop where
  first : s.journal.count .endpoint = 0
  reach : u.reaches → ∀ network, c.network = .internal network →
    ∃ address, (s.provider.addEndpoint (u.site.request c network)).address? u.home
      network.endpoint = some address
  same : u.exact c → ∀ network, c.network = .internal network →
    s.provider.has (.endpoint network.endpoint) = true →
      s.provider.addEndpoint (u.site.request c network) = s.provider

/-- The kind of account that is asked for is that of the configured cloud. -/
theorem StorageConfig.isStack_eq_legacy {c : StorageConfig} {custom : Option CloudEndpoints}
    {environment : CloudEnvironment}
    (h : CloudEnvironment.ofName c.cloud custom = .ok environment) :
    environment.isStack = c.legacy := by
  have hstack := (CloudEnvironment.ofName_eq_ok_iff.1 h).isStack_iff
  rw [Bool.eq_iff_iff, hstack]
  exact beq_iff_eq.symm

/-- A call that is granted ends as wished, and one that is refused stays on the way. -/
theorem Undertaking.Onward.perform (h : u.Onward state s) {c : Call}
    {Q : c.Answer → Scene Inventory → Prop}
    (hQ : ∀ x i, Inventory.reply u.home c s.provider = (.ok x, i) → Q x (s.after c none i)) :
    (Action.perform c).Ensures (Inventory.honest u.home) s Q fun _ t => u.Onward state t :=
  Inventory.ensures_perform hQ fun _ _ => h.refused

theorem Undertaking.Lodged.perform (h : u.Lodged state s) {c : Call}
    {Q : c.Answer → Scene Inventory → Prop}
    (hQ : ∀ x i, Inventory.reply u.home c s.provider = (.ok x, i) → Q x (s.after c none i)) :
    (Action.perform c).Ensures (Inventory.honest u.home) s Q fun _ t => u.Lodged state t :=
  Inventory.ensures_perform hQ fun _ _ => h.refused

/-! ## The account -/

/-- What is said about a name, if the inventory answers truthfully. -/
theorem Inventory.Plain.available {i : Inventory} (hi : i.Plain) (n : String) :
    (i.availabilityOf n).available = !i.isTaken n := by
  unfold Inventory.availabilityOf
  rw [hi.checked]
  cases i.isTaken n <;> rfl

theorem Inventory.contains_of_free {i : Inventory} {n : String} (h : i.isTaken n = false) :
    i.accounts.contains n = false := by
  unfold isTaken at h
  rw [Bool.or_eq_false_iff, Bool.or_eq_false_iff] at h
  exact h.1.2

theorem Assure.accountName_eq {c : StorageConfig} {infra : Infrastructure} {name : String}
    {generated : Bool} (h : accountName c infra f = .ok (name, generated)) :
    name = c.accountFor infra f ∧ (generated = true ↔ c.account = "") := by
  unfold StorageConfig.accountFor
  rcases accountName_cases h with ⟨hempty, rfl, rfl⟩ | ⟨hne, rfl, rfl⟩
  · rw [if_pos hempty]
    exact ⟨rfl, fun _ => hempty, fun _ => rfl⟩
  · rw [if_neg hne]
    exact ⟨rfl, fun hfalse => absurd hfalse Bool.false_ne_true, fun hempty => absurd hempty hne⟩

theorem Undertaking.Onward.createAccount (h : u.Onward state s) (hf : f.From u.drawn)
    (hcloud : takeCloud u.infra state.spec = state.spec)
    (hfree : s.provider.isTaken (state.spec.accountFor u.infra f) = false) :
    let c := accountNamed (state.spec.accountFor u.infra f) state.spec
    let r := AccountRequest.forRegistry (state.spec.accountFor u.infra f) u.scope.region
      u.infra.tags state.spec.legacy
    u.Lodged (state.progress true c) (s.after (.createAccount r) none (s.provider.addAccount r)) ∧
      u.Unopened c (s.after (.createAccount r) none (s.provider.addAccount r)) := by
  intro c r
  have hname : c.account = state.spec.accountFor u.infra f := StorageConfig.accountNamed_account ..
  have hgone : s.provider.accounts.contains (state.spec.accountFor u.infra f) = false :=
    Inventory.contains_of_free hfree
  have hreply : Inventory.reply u.home (.createAccount r) s.provider =
      (.ok _, s.provider.addAccount r) := rfl
  have hplain : (s.provider.addAccount r).Plain := h.plain.reply hreply
  have hu : state.spec.Under c :=
    StorageConfig.under_accountNamed StorageConfig.account_accountFor
  have hthere : (s.provider.addAccount r).has (.account c.account) = true := by
    rw [hname]
    exact (Dict.contains_insert ..).2 (Or.inl rfl)
  have haccount : (s.after (.createAccount r) none (s.provider.addAccount r)).Once .account c := by
    have hnames : c.Names (.account c.account) :=
      ⟨rfl, by rw [hname]; exact StorageConfig.accountFor_ne_empty⟩
    refine h.account.spend (fun d hd hnames => ?_) (Journal.count_granted rfl) rfl hnames hthere
    cases d with
    | account n =>
      -- a configured account that is there would have been the one to use
      obtain ⟨rfl, hne⟩ := hnames
      rw [StorageConfig.accountFor_of_ne hne] at hgone
      exact hgone
    | _ => cases hd
  -- no endpoint was created before: that takes an account that is there
  have hfirst : s.journal.count .endpoint = 0 := by
    refine h.lodged.resolve_right ?_
    rintro ⟨hne, hold⟩
    rw [StorageConfig.accountFor_of_ne hne] at hgone
    exact absurd hold (by rw [Inventory.has, hgone]; exact Bool.false_ne_true)
  have honward : u.Onward (state.progress true c)
      (s.after (.createAccount r) none (s.provider.addAccount r)) := by
    refine h.housed hf hcloud rfl ?_ ?_ hplain haccount
      (h.container.spare hu hreply rfl rfl (by decide))
      (h.endpoint.spare hu hreply rfl rfl (by decide))
    · rw [hname]
      exact hgone
    · have hlegacy : c.legacy = state.spec.legacy := by
        unfold StorageConfig.legacy
        rw [StorageConfig.accountNamed_cloud]
      rw [Site.housed_of_not_contains (by rw [hname]; exact hgone)]
      unfold Site.accountRequest
      rw [hname, hlegacy]
      rfl
  have hnone : (s.after (.createAccount r) none (s.provider.addAccount r)).journal.count .endpoint =
      s.journal.count .endpoint := Journal.count_granted_of_ne fun hmakes => by cases hmakes
  -- an endpoint that was there before the account may be created over
  have hgoal : state.spec.completed u.infra f =
      { c with container := state.spec.containerFor u.infra f } :=
    StorageConfig.completed_of_takeCloud hcloud
  have hsame := h.same f hf
  rw [hgoal] at hsame
  rw [← hname] at hgone
  refine ⟨⟨honward, StorageConfig.named_accountNamed StorageConfig.accountFor_ne_empty, hthere⟩,
    hnone.trans hfirst, fun hreach network hn => ?_, fun hexact network hn hendpoint => ?_⟩
  · have hleads := h.reach hreach f hf
    rw [hgoal] at hleads
    obtain ⟨address, haddress⟩ := hleads.made network hn (Or.inl hgone)
    exact ⟨address, (Site.address?_congr rfl rfl).trans haddress⟩
  · exact (hsame (Undertaking.exact_congr rfl rfl hexact)).with hn hgone hendpoint _

theorem Undertaking.Onward.useAccount (h : u.Onward state s) (hf : f.From u.drawn)
    (hcloud : takeCloud u.infra state.spec = state.spec) (hne : state.spec.account ≠ "")
    (hthere : s.provider.has (.account state.spec.account) = true) :
    u.Lodged (state.progress false (accountNamed state.spec.account state.spec)) s := by
  have hname : (accountNamed state.spec.account state.spec).account = state.spec.account :=
    StorageConfig.accountNamed_account ..
  -- nothing is called, only the endpoint may get its name
  have honce : ∀ {k}, s.Once k state.spec →
      s.Once k (accountNamed state.spec.account state.spec) := fun hk =>
    hk.mono (StorageConfig.under_accountNamed (Or.inr rfl)) rfl fun _ hr => hr
  refine ⟨h.housed hf hcloud ?_ ?_ ?_ h.plain (honce h.account) (honce h.container)
    (honce h.endpoint), StorageConfig.named_accountNamed hne, ?_⟩
  · rw [StorageConfig.accountFor_of_ne hne]
  · rw [hname]
    exact hthere
  · rw [Site.housed_of_contains (by rw [hname]; exact hthere)]
  · rw [StorageState.progress_spec, hname]
    exact hthere

/-- **Making sure that there is an account** gets there, or stops where it started. -/
theorem Assure.account_lodged (h : u.Onward state s) (hf : f.From u.drawn)
    (hcloud : takeCloud u.infra state.spec = state.spec) {environment : CloudEnvironment}
    (henvironment : environment.isStack = state.spec.legacy) :
    (account u.scope environment state.spec u.infra f).Ensures (Inventory.honest u.home) s
      (fun a t => a.name ≠ "" ∧
        u.Lodged (state.progress a.created (accountNamed a.name state.spec)) t ∧
        (a.created = true → u.Unopened (accountNamed a.name state.spec) t))
      fun _ t => u.Onward state t := by
  rw [account_ensures]
  refine ⟨fun _ _ => h, fun name generated haccount => ?_⟩
  obtain ⟨rfl, hgenerated⟩ := accountName_eq haccount
  refine h.perform fun availability i hreply => ?_
  obtain ⟨hanswer, rfl⟩ := Prod.mk.inj hreply
  obtain rfl := Except.ok.inj hanswer
  have hlooked : u.Onward state (s.after (.checkName (state.spec.accountFor u.infra f)) none
      s.provider) := h.looked rfl
  rw [h.plain.available]
  split
  · rename_i hfree
    refine hlooked.perform fun x i hreply => ?_
    obtain rfl := (Prod.mk.inj hreply).2
    have hcreated := hlooked.createAccount hf hcloud (by simpa using hfree)
    rw [← henvironment] at hcreated
    exact ⟨StorageConfig.accountFor_ne_empty, hcreated.1, fun _ => hcreated.2⟩
  · rename_i htaken
    split
    · exact hlooked
    · rename_i hconfigured
      -- a drawn name that is taken stops the attempt, so this one is configured
      have hne : state.spec.account ≠ "" := fun hempty => hconfigured (hgenerated.2 hempty)
      rw [StorageConfig.accountFor_of_ne hne] at htaken ⊢
      have hthere : s.provider.has (.account state.spec.account) = true := by
        have howned := h.owned f hf
        rw [StorageConfig.accountFor_of_ne hne] at howned
        exact howned (by simpa using htaken)
      refine ⟨hne, ?_, fun hcreated => by cases hcreated⟩
      rw [StorageConfig.accountFor_of_ne hne] at hlooked
      exact hlooked.useAccount hf hcloud hne hthere

/-! ## Private access -/

theorem Inventory.address?_eq_some {home : Scope} {i : Inventory} {name address : String} :
    i.address? home name = some address ↔
      ∃ stored interface interfaces addresses, i.endpoints.get? name = some stored ∧
        interfacesOf home stored = interface :: interfaces ∧
        i.addresses? (ResourceId.name interface) = some (address :: addresses) := by
  unfold Inventory.address?
  constructor
  · intro h
    obtain ⟨stored, hstored, h⟩ := Option.bind_eq_some_iff.1 h
    obtain ⟨interface, hinterface, h⟩ := Option.bind_eq_some_iff.1 h
    obtain ⟨addresses, haddresses, h⟩ := Option.bind_eq_some_iff.1 h
    obtain ⟨interfaces, hinterfaces⟩ := List.head?_eq_some_iff.1 hinterface
    obtain ⟨rest, rfl⟩ := List.head?_eq_some_iff.1 h
    exact ⟨stored, interface, interfaces, rest, hstored, hinterfaces, haddresses⟩
  · rintro ⟨stored, interface, interfaces, addresses, hstored, hinterfaces, haddresses⟩
    rw [hstored, Option.bind_eq_bind, Option.bind_some, hinterfaces]
    simp only [List.head?_cons, Option.bind_eq_bind, Option.bind_some, haddresses]

theorem Isolation.firstInterface_eq_ok {endpoint : Endpoint} {name : String} :
    firstInterface endpoint = .ok name ↔
      ∃ id ids, endpoint.interfaces = id :: ids ∧ ResourceId.name id = name := by
  unfold firstInterface
  constructor
  · intro h
    split at h
    · rename_i id ids hids
      exact ⟨id, ids, hids, Except.ok.inj h⟩
    · cases h
  · rintro ⟨id, ids, hids, rfl⟩
    rw [hids]

theorem Isolation.firstAddress_eq_ok {interface : NetworkInterface} {address : String} :
    firstAddress interface = .ok address ↔ ∃ rest, interface.addresses = address :: rest := by
  unfold firstAddress
  constructor
  · intro h
    split at h
    · rename_i first rest hfirst
      obtain rfl := Except.ok.inj h
      exact ⟨rest, hfirst⟩
    · cases h
  · rintro ⟨rest, hrest⟩
    rw [hrest]

/-- **Configuring DNS** for the endpoint that is wanted stays on the way. -/
theorem Isolation.configureDns_lodged {network : InternalNetwork} (h : u.Lodged state s)
    (hn : state.spec.network = .internal network) {endpoint : Endpoint} {stored : StoredEndpoint}
    (hname : endpoint.name = network.endpoint)
    (hstored : s.provider.endpoints.get? network.endpoint = some stored)
    (hinterfaces : Inventory.interfacesOf u.home stored = endpoint.interfaces) :
    (configureDns u.scope endpoint network.vnet (networkGroup u.scope network) state.spec.account
      u.infra.tags).Ensures (Inventory.honest u.home) s (fun _ t => u.Lodged state t)
      fun _ t => u.Lodged state t := by
  have hopen : s.provider.endpoints.contains network.endpoint = true :=
    Dict.contains_of_get? hstored
  rw [configureDns_ensures]
  refine h.perform fun _ i hreply => ?_
  have hzone := h.put hn hopen hreply rfl rfl
  obtain rfl := (Prod.mk.inj hreply).2
  have hzone := hzone rfl rfl rfl rfl rfl Site.joined_zone
  refine ⟨fun interface hfirst => hzone.perform fun found i hreply => ?_, fun _ _ => hzone⟩
  -- the address that is found is the one that the endpoint leads to
  simp only [Inventory.reply, Scene.after_provider] at hreply
  split at hreply
  · rename_i addresses haddresses
    obtain ⟨hfound, rfl⟩ := Prod.mk.inj hreply
    obtain rfl := Except.ok.inj hfound
    have hlooked := hzone.looked (c := .getInterface interface) rfl
    refine ⟨fun address haddress => ?_, fun _ _ => hlooked⟩
    have hleads : s.provider.address? u.home network.endpoint = some address := by
      obtain ⟨rest, rfl⟩ := firstAddress_eq_ok.1 haddress
      obtain ⟨id, ids, hids, rfl⟩ := firstInterface_eq_ok.1 hfirst
      exact Inventory.address?_eq_some.2
        ⟨stored, id, ids, rest, hstored, hinterfaces.trans hids, haddresses⟩
    refine hlooked.perform fun _ i hreply => ?_
    have hrecord := hlooked.put hn hopen hreply rfl rfl
    obtain rfl := (Prod.mk.inj hreply).2
    have hrecord := hrecord rfl rfl rfl rfl rfl (Site.joined_record hleads)
    rw [hname]
    refine hrecord.perform fun _ i hreply => ?_
    have hgroup := hrecord.put hn hopen hreply rfl rfl
    obtain rfl := (Prod.mk.inj hreply).2
    have hgroup := hgroup rfl rfl rfl rfl rfl Site.joined_group
    rw [link_ensures]
    refine (hgroup.perform fun _ i hreply => ?_).mono (fun _ _ ht => ht) fun f t ht => ?_
    · have hlink := hgroup.put hn hopen hreply rfl rfl
      obtain rfl := (Prod.mk.inj hreply).2
      exact hlink rfl rfl rfl rfl rfl Site.joined_link
    · split <;> exact ht
  · cases hreply

/-- **Creating the endpoint** and configuring DNS for it. -/
theorem Isolation.configure_lodged {network : InternalNetwork} (h : u.Lodged state s)
    (hn : state.spec.network = .internal network) (hu : u.Unopened state.spec s) :
    (configure u.scope state.spec.account u.infra.tags network).Ensures (Inventory.honest u.home) s
      (fun _ t => u.Lodged state t) fun _ t => u.Lodged state t := by
  refine (Action.ensures_bind _).2 (h.perform fun endpoint i hreply => ?_)
  obtain ⟨hanswer, rfl⟩ := Prod.mk.inj hreply
  obtain rfl := Except.ok.inj hanswer
  have hopened := h.openEndpoint hn hu.first (fun hreach => hu.reach hreach network hn) fun hexact =>
    hu.same hexact network hn
  refine (Action.ensures_bind _).2 ?_
  exact (configureDns_lodged hopened hn rfl (Dict.get?_insert_self ..) rfl).mono
    (fun _ _ ht => ht) fun _ _ ht => ht

/-- **Making sure that there is private access**, if it is wanted. -/
theorem Storage.openPrivately_lodged (h : u.Lodged state s) (hf : f.From u.drawn) {a : Assured}
    (ha : a.name = state.spec.account) (hu : a.created = true → u.Unopened state.spec s) :
    (openPrivately u.scope u.infra a state.spec).Ensures (Inventory.honest u.home) s
      (fun _ t => u.Lodged state t) fun _ t => u.Lodged state t := by
  unfold openPrivately
  split
  · rename_i network hn
    rw [Assure.privateNetwork_ensures, ha]
    split
    · rename_i hcreated
      exact (Isolation.configure_lodged h hn (hu hcreated)).mono (fun _ _ ht => ht)
        fun _ _ ht => ht
    · refine Inventory.ensures_perform (fun endpoint i hreply => ?_) fun fault hfault => ?_
      · obtain ⟨stored, hstored, rfl, rfl⟩ := Inventory.reply_endpoint hreply
        have hreports : stored.reports.getD network.endpoint = network.endpoint :=
          h.onward.plain.named _ stored hstored
        have hlooked := h.looked (c := .getEndpoint network.endpoint) rfl
        exact Isolation.configureDns_lodged hlooked hn hreports hstored rfl
      · split
        · rename_i hgone
          obtain ⟨i, hreply⟩ := hfault hgone
          -- no endpoint of this name, so the run created none
          have habsent : s.provider.has (.endpoint network.endpoint) = false :=
            Inventory.reply_missing rfl hreply
          refine (Isolation.configure_lodged h.refused hn
            ⟨?_, fun hreach n hnetwork => ?_, fun _ n hnetwork hthere => ?_⟩).mono
            (fun _ _ ht => ht) fun _ _ ht => ht
          · rcases h.onward.endpoint with hzero | ⟨-, r, hr, hnames, hthere⟩
            · rw [Scene.after_journal, Journal.count_refused, hzero]
            · cases r with
              | endpoint n =>
                obtain rfl := Option.some.inj ((h.endpoint? hn).symm.trans hnames)
                rw [habsent] at hthere
                cases hthere
              | _ => cases hr
          · rw [hn] at hnetwork
            cases hnetwork
            exact (h.reach hreach hf).made network hn (Or.inr habsent)
          · rw [hn] at hnetwork
            cases hnetwork
            rw [Scene.after_provider, habsent] at hthere
            cases hthere
        · exact h.refused
  · exact h

/-! ## The container -/

/-- On the way, with an account and a container. -/
structure Undertaking.Furnished (u : Undertaking) (state : StorageState) (s : Scene Inventory) :
    Prop where
  lodged : u.Lodged state s
  name : state.spec.container ≠ ""
  there : s.provider.has (.container state.spec.account state.spec.container) = true

theorem Probe.primaryKey_lodged (h : u.Lodged state s) {account : String} :
    (primaryKey account).Ensures (Inventory.honest u.home) s
      (fun _ t => u.Lodged state t ∧ t.provider = s.provider) fun _ t => u.Lodged state t := by
  rw [primaryKey_ensures]
  refine h.perform fun keys i hreply => ?_
  obtain ⟨-, rfl⟩ := Inventory.reply_found rfl hreply
  have hlooked := h.looked (c := .listKeys account) rfl
  exact ⟨fun _ _ => ⟨hlooked, rfl⟩, fun _ _ => hlooked⟩

theorem Undertaking.Lodged.createContainer (h : u.Lodged state s) (hf : f.From u.drawn)
    (key : String) (habsent : state.spec.container ≠ "" →
      s.provider.has (.container state.spec.account state.spec.container) = false) :
    let name := state.spec.containerFor u.infra f
    (Action.perform (.createContainer state.spec.account key name)).Ensures
      (Inventory.honest u.home) s
      (fun _ t => u.Furnished (state.progress true { state.spec with container := name }) t)
      fun _ t => u.Lodged state t := by
  intro name
  refine h.perform fun _ i hreply => ?_
  have hne : name ≠ "" := StorageConfig.containerFor_ne_empty
  have hu : state.spec.Under { state.spec with container := name } :=
    StorageConfig.under_withContainer StorageConfig.container_containerFor
  have hplain := h.onward.plain.reply hreply
  -- a container is neither account nor endpoint, so their counts stay
  have haccount := h.onward.account.spare hu hreply rfl rfl (by decide)
  have hendpoint := h.onward.endpoint.spare hu hreply rfl rfl (by decide)
  obtain rfl := (Prod.mk.inj hreply).2
  have hthere : ({ s.provider with
      containers := s.provider.containers.insert (state.spec.account, name) () } : Inventory).has
        (.container state.spec.account name) = true :=
    (Dict.contains_insert ..).2 (Or.inl rfl)
  have hcontainer : (s.after (.createContainer state.spec.account key name) none { s.provider with
      containers := s.provider.containers.insert (state.spec.account, name) () }).Once .container
        { state.spec with container := name } := by
    refine h.onward.container.spend (fun r hr hnames => ?_) (Journal.count_granted rfl) rfl
      (r := .container state.spec.account name) ⟨rfl, h.named.account, rfl, hne⟩ hthere
    cases r with
    | container a n =>
      obtain ⟨rfl, -, rfl, hconfigured⟩ := hnames
      exact habsent hconfigured
    | _ => cases hr
  refine ⟨h.furnished hf rfl ?_ rfl hplain haccount hcontainer hendpoint, hne, hthere⟩
  by_cases hempty : state.spec.container = ""
  · rw [hempty]
    rfl
  · have hname : name = state.spec.container := StorageConfig.containerFor_of_ne hempty
    have hgone := habsent hempty
    rw [← hname] at hgone
    rw [hgone]
    exact (Bool.or_true _).symm

/-- **Making sure that there is a container** gets there, or stops where it started. -/
theorem Assure.container_furnished (h : u.Lodged state s) (hf : f.From u.drawn) :
    (container state.spec u.infra f).Ensures (Inventory.honest u.home) s
      (fun a t => u.Furnished (state.progress a.created { state.spec with container := a.name }) t)
      fun _ t => u.Lodged state t := by
  rw [container_ensures]
  split
  · rename_i hempty
    refine (Probe.primaryKey_lodged h).mono (fun key t ht => ?_) fun _ _ ht => ht
    have hcreate := ht.1.createContainer hf key fun hne => absurd hempty hne
    unfold StorageConfig.containerFor at hcreate
    rw [if_pos hempty] at hcreate
    exact hcreate
  · rename_i hne
    refine ⟨fun _ _ => h, fun _ => ?_⟩
    refine (Probe.primaryKey_lodged h).mono (fun key t ht => ?_) fun _ _ ht => ht
    unfold Probe.containerExists
    rw [if_neg (not_or.2 ⟨h.named.account, hne⟩)]
    refine ht.1.perform fun there i hreply => ?_
    obtain ⟨hanswer, rfl⟩ := Prod.mk.inj hreply
    obtain rfl := Except.ok.inj hanswer
    have hlooked := ht.1.looked
      (c := .containerExists state.spec.account key state.spec.container) rfl
    split
    · rename_i hthere
      -- the record does not change at all
      exact ⟨hlooked, hne, hthere⟩
    · rename_i habsent
      have hcreate := hlooked.createContainer hf key fun _ => Bool.eq_false_iff.2 habsent
      rw [StorageConfig.containerFor_of_ne hne] at hcreate
      exact hcreate

/-! ## Closing, and the end -/

theorem Undertaking.Furnished.keep {t : Scene Inventory} (h : u.Furnished state s)
    (ht : u.Lodged state t) (hhas : ∀ r, s.provider.has r = true → t.provider.has r = true) :
    u.Furnished state t := ⟨ht, h.name, hhas _ h.there⟩

/-- **Closing the account to the public network**, if private access is wanted. -/
theorem Storage.closePublicly_furnished (h : u.Furnished state s) {c : StorageConfig}
    (haccount : c.account = state.spec.account) (hnetwork : c.network = state.spec.network) :
    (closePublicly c).Ensures (Inventory.honest u.home) s
      (fun _ t => u.Furnished state t) fun _ t => u.Furnished state t := by
  unfold closePublicly
  split
  · rename_i hinternal
    rw [hnetwork] at hinternal
    rw [haccount, closeToPublic_ensures]
    have hset : ∀ {t : Scene Inventory}, u.Furnished state t →
        (Action.perform (.setAccess state.spec.account .disabled)).Ensures
          (Inventory.honest u.home) t (fun _ t => u.Furnished state t)
          fun _ t => u.Furnished state t := by
      intro t ht
      refine Inventory.ensures_perform (fun _ i hreply => ?_) fun _ _ =>
        ht.keep ht.lodged.refused fun _ hr => hr
      have hhas := Inventory.reply_keeps hreply rfl
      obtain ⟨a, ha, rfl⟩ := Inventory.reply_setAccess hreply
      exact ht.keep (ht.lodged.close hinternal ha) hhas
    -- whatever comes of the look, the account is closed unless it is known to be
    refine Inventory.ensures_perform (fun found i hreply => ?_) fun _ _ =>
      hset (h.keep h.lodged.refused fun _ hr => hr)
    obtain ⟨-, rfl⟩ := Inventory.reply_found rfl hreply
    have hlooked : u.Furnished state (s.after (.getAccount state.spec.account) none s.provider) :=
      h.keep (h.lodged.looked rfl) fun _ hr => hr
    split
    · exact hlooked
    · exact hset hlooked
  · exact h

/-- With account and container in place nothing is left to create, and so it is decided who owns
the storage. -/
theorem Undertaking.Furnished.settle (h : u.Furnished state s) {state' : StorageState}
    (hspec : state'.spec = state.spec)
    (hmanagement : state'.management = some (state.management.getD .unmanaged)) :
    u.Onward state' s := by
  refine h.lodged.onward.congr hspec fun g => ?_
  have hgoal : state.spec.completed u.infra g = state.spec := by
    rw [h.lodged.named.completed, StorageConfig.containerFor_of_ne h.name]
  have hcreates : state.spec.creates state.spec s.provider = false := by
    unfold StorageConfig.creates
    rw [h.lodged.there, h.there]
    simpa using h.name
  refine Site.outcome_congr (by rw [hspec, hgoal]) hgoal rfl ?_
  rw [hspec, hmanagement, hcreates]
  rfl

/-! ## Attempts -/

namespace Storage

variable {w : Work} {now : Moment} {settings : Settings} {credentials : ClusterCredentials}

/-- **Furnishing stays on the way**, wherever it stops. -/
theorem furnish_onward {environment : CloudEnvironment} (hf : f.From u.drawn)
    (hcloud : takeCloud u.infra w.config = w.config)
    (henvironment : environment.isStack = w.config.legacy)
    (h : u.Onward (w.state.progress false w.config) s) :
    (furnish u.scope environment u.infra f now).Ensures (Inventory.honest u.home) w s
      (fun _ v t => u.Onward v.state t) fun _ v t => u.Onward v.state t := by
  -- the record that is left when a step fails, and the conditions in it
  have hblame : ∀ {v : Work} {t : Scene Inventory} {doing : String} {fault : Fault},
      u.Onward v.state t → u.Onward (v.blame now .azureError doing fault).state t :=
    fun hv => hv.congr rfl fun _ => rfl
  rw [furnish_ensures]
  refine (Assure.account_lodged h hf hcloud henvironment).mono ?_ fun f t ht => hblame ht
  rintro account t ⟨hne, hlodged, hunopened⟩
  rw [StorageState.progress_progress, Bool.false_or] at hlodged
  dsimp only
  have hname : account.name = (accountNamed account.name w.config).account :=
    (StorageConfig.accountNamed_account ..).symm
  refine (openPrivately_lodged hlodged hf hname hunopened).mono (fun _ t ht => ?_)
    fun f t ht => hblame ht.onward
  refine (Assure.container_furnished ht hf).mono (fun container t ht => ?_)
    fun f t ht => hblame ht.onward
  rw [StorageState.progress_progress] at ht
  refine (closePublicly_furnished ht rfl rfl).mono (fun _ t ht => ?_)
    fun f t ht => hblame ht.lodged.onward
  refine ht.settle rfl ?_
  rw [StorageState.progress_management]
  rfl

/-- **An attempt stays on the way**, whatever is refused. -/
theorem create_onward (hc : u.settings.credentials = .ok (.cluster credentials))
    (hscope : credentials.scope = u.scope) (hf : f.From u.drawn) (hw : w.config = w.state.spec)
    (h : u.Onward w.state s) :
    (create u.settings u.infra f now).Ensures (Inventory.honest u.home) w s
      (fun _ v t => u.Onward v.state t) fun _ v t => u.Onward v.state t := by
  have hblame : ∀ {c : StorageConfig} {t : Scene Inventory} {reason : StorageReason}
      {doing : String} {fault : Fault}, u.Onward w.state t →
        u.Onward ((w.withConfig c).blame now reason doing fault).state t :=
    fun ht => ht.congr rfl fun _ => rfl
  -- before the clients are there only conditions change
  rw [create_ensures hc, provision_ensures]
  refine ⟨fun _ => hblame h, fun _ => ⟨fun _ _ => hblame h, fun _ =>
    ⟨fun _ _ => hblame h, fun environment henvironment => ?_⟩⟩⟩
  refine (h.perform fun _ i hreply => ?_).mono (fun _ _ ht => ht) fun _ _ ht => hblame ht
  obtain rfl := (Prod.mk.inj hreply).2
  have hlooked : u.Onward w.state (s.after (.clients environment credentials) none s.provider) :=
    h.looked rfl
  rw [hscope]
  refine furnish_onward hf StorageConfig.takeCloud_takeCloud
    (StorageConfig.isStack_eq_legacy henvironment) ?_
  have hcloud := hlooked.cloudTaken
  rw [← hw] at hcloud
  exact hcloud

end Storage

end RegistryStorage
