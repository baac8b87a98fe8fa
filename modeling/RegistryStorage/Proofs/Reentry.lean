import RegistryStorage.Proofs.Convergence
import RegistryStorage.Proofs.Seclusion

/-!
Creating storage once more.

When an invocation that is refused nothing has ended well, all that it was asked for is in place:
`Site.Stands` says of an inventory that putting the storage in place would not change it. The record
says so too, with every name chosen (`Undertaking.Complete`). The next invocation takes other ways
than the first: it checks names that were drawn, it finds the endpoint and writes the DNS entries
again, it finds the container. What it writes is there already, with the same value. So it ends
well, it creates nothing and closes nothing, and it leaves the provider and the record exactly as
they were (`creating_again_changes_nothing`).
-/

set_option autoImplicit false

namespace RegistryStorage

open Isolation (zone zoneGroup)
open Storage (takeCloud accountNamed)

variable {u : Undertaking} {c : StorageConfig} {s : Scene Inventory} {f : Fresh} {i : Inventory}

/-! ## Storage that stands -/

namespace Site

variable {site : Site} {network : InternalNetwork}

/-- Private access that is in place, as far as it is wanted. -/
structure Joined (site : Site) (c : StorageConfig) (i : Inventory) : Prop where
  same : site.networked c i = i
  reach : ∀ network, c.network = .internal network →
    i.has (.endpoint network.endpoint) = true ∧
      ∃ address, i.address? site.home network.endpoint = some address

/-- Storage that is in place. Putting it in place once more changes nothing. -/
structure Stands (site : Site) (c : StorageConfig) (i : Inventory) : Prop where
  stored : Stored c.account c.container i
  joined : site.Joined c i
  same : site.settled c i = i

/-- What DNS needs is written again with the same values. -/
theorem joined_joined :
    site.joined c network (site.joined c network i) = site.joined c network i := by
  have hkept : (site.joined c network i).address? site.home network.endpoint =
      i.address? site.home network.endpoint := address?_congr rfl rfl
  cases haddress : i.address? site.home network.endpoint with
  | none =>
    rw [haddress] at hkept
    rw [joined, hkept]
    simp only [joined, haddress, Dict.insert_insert]
  | some address =>
    rw [haddress] at hkept
    rw [joined, hkept]
    simp only [joined, haddress, Dict.insert_insert]

/-- Private access that was opened is in place. -/
theorem joined_internal (hn : c.network = .internal network)
    (hthere : i.has (.endpoint network.endpoint) = true) {address : String}
    (haddress : i.address? site.home network.endpoint = some address) :
    site.Joined c (site.joined c network i) := by
  refine ⟨?_, ?_⟩
  · exact (networked_of_contains (i := site.joined c network i) hn hthere).trans joined_joined
  · intro other hother
    obtain rfl := NetworkAccess.internal.inj (hn.symm.trans hother)
    exact ⟨hthere, address, (address?_congr rfl rfl).trans haddress⟩

/-- Accounts and containers do not matter to private access. -/
theorem Joined.with (h : site.Joined c i) (accounts : Dict String StoredAccount)
    (containers : Dict (String × String) Unit) :
    site.Joined c { i with accounts := accounts, containers := containers } := by
  refine ⟨?_, ?_⟩
  · rw [networked_with, h.same]
  · intro network hn
    exact h.reach network hn

/-- Private access is to an account, whatever the container. -/
theorem Joined.withContainer (h : site.Joined c i) (container : String) :
    site.Joined { c with container := container } i := by
  refine ⟨?_, h.reach⟩
  exact (networked_congr rfl rfl).trans h.same

/-- **With the container, and with the account closed, the storage stands.** -/
theorem Joined.stands (h : site.Joined c i) (hstored : Stored c.account c.container i)
    (hclosed : c.closed i.accounts = i.accounts) : site.Stands c i := by
  obtain ⟨x, hx⟩ := Dict.exists_get? hstored.container
  refine ⟨hstored, h, ?_⟩
  unfold settled
  rw [h.same, housed_of_contains hstored.account, hclosed, Dict.insert_of_get? hx]

/-- An account that stands is closed if it is to be. -/
theorem Stands.closed (h : site.Stands c i) (hinternal : c.network.isInternal = true) :
    i.Closed c.account := by
  obtain ⟨a, ha⟩ := Dict.exists_get? h.stored.account
  have hsame : c.closed i.accounts = i.accounts := by
    have haccounts : c.closed (site.housed c i.accounts) = i.accounts :=
      congrArg Inventory.accounts h.same
    rwa [housed_of_contains h.stored.account] at haccounts
  rw [closed_of_get? hinternal ha] at hsame
  refine ⟨{ a with access := some .disabled }, ?_, rfl⟩
  rw [← hsame]
  exact Dict.get?_insert_self ..

end Site

/-! ## What an invocation that ended well leaves -/

/-- What is ensured when calls may be refused is ensured when none is. -/
theorem Inventory.undisturbed_of_refusable {α : Type} {home : Scope} {P : Fault → Prop}
    {a : Action α} {Q : α → Scene Inventory → Prop} {E : Fault → Scene Inventory → Prop}
    (h : a.Ensures (Inventory.refusable P home) s Q E) :
    a.Ensures (Inventory.undisturbed home) s Q E := by
  refine Program.Ensures.of_conduct ?_ h
  rintro d t reply v ⟨j, hj, rfl⟩
  exact ⟨j, Or.inl hj, rfl⟩

/-- A name that is used is a valid one. -/
theorem Assure.account_valid {σ : Type} {R : Conduct σ} {t : σ} {scope : Scope}
    {environment : CloudEnvironment} :
    (account scope environment c u.infra f).Ensures R t
      (fun a _ => a.name = c.accountFor u.infra f ∧
        (c.account = "" ∨ Naming.isAccountName c.account = true))
      fun _ _ => True := by
  rw [account_ensures]
  refine ⟨fun _ _ => trivial, fun name generated hname => ?_⟩
  have hvalid : c.account = "" ∨ Naming.isAccountName c.account = true := by
    by_cases hempty : c.account = ""
    · exact Or.inl hempty
    · right
      by_contra hinvalid
      unfold accountName Naming.validateAccountName at hname
      rw [if_neg hempty, if_neg hinvalid] at hname
      cases hname
  have hchosen := (accountName_eq hname).1
  refine .of_forall (fun availability t => ?_) fun _ _ => trivial
  split
  · exact .of_forall (fun _ _ => ⟨hchosen, hvalid⟩) fun _ _ => trivial
  · split
    · trivial
    · exact ⟨hchosen, hvalid⟩

/-- **DNS is configured only for an endpoint that leads to an address.** -/
theorem Isolation.configureDns_joins {network : InternalNetwork} {endpoint : Endpoint}
    {stored : StoredEndpoint} (hn : c.network = .internal network)
    (hname : endpoint.name = network.endpoint)
    (hstored : s.provider.endpoints.get? network.endpoint = some stored)
    (hinterfaces : Inventory.interfacesOf u.home stored = endpoint.interfaces) :
    (configureDns u.scope endpoint network.vnet (networkGroup u.scope network) c.account
      u.infra.tags).Ensures (Inventory.undisturbed u.home) s
      (fun _ t => u.site.Joined c t.provider) fun _ _ => True := by
  by_cases haddress : ∃ address, s.provider.address? u.home network.endpoint = some address
  · obtain ⟨address, haddress⟩ := haddress
    refine (configureDns_settles (c := c) hname hstored hinterfaces haddress).mono ?_
      fun _ _ _ => trivial
    intro _ t ht
    rw [ht]
    exact Site.joined_internal hn (Dict.contains_of_get? hstored) haddress
  · -- without an address the second look is a fault
    rw [configureDns_ensures]
    refine Inventory.ensures_answered rfl ⟨fun name hfirst => ?_, fun _ _ => trivial⟩
    refine Inventory.ensures_undisturbed (fun found i hreply => ?_) fun _ _ => trivial
    refine ⟨fun address hfound => ?_, fun _ _ => trivial⟩
    exfalso
    apply haddress
    obtain ⟨rest, hrest⟩ := firstAddress_eq_ok.1 hfound
    obtain ⟨id, ids, hids, rfl⟩ := firstInterface_eq_ok.1 hfirst
    simp only [Inventory.reply, Scene.after_provider] at hreply
    split at hreply
    · rename_i addresses haddresses
      obtain rfl := Except.ok.inj (Prod.mk.inj hreply).1
      refine ⟨address, Inventory.address?_eq_some.2 ⟨stored, id, ids, rest, hstored, ?_, ?_⟩⟩
      · rw [hinterfaces, hids]
      · exact haddresses.trans (congrArg some hrest)
    · cases hreply

theorem Isolation.configure_joins {network : InternalNetwork} (hn : c.network = .internal network) :
    (configure u.scope c.account u.infra.tags network).Ensures (Inventory.undisturbed u.home) s
      (fun _ t => u.site.Joined c t.provider) fun _ _ => True := by
  refine (Action.ensures_bind _).2 (Inventory.ensures_answered rfl ?_)
  refine (Action.ensures_bind _).2 ?_
  exact (configureDns_joins hn rfl (Dict.get?_insert_self ..) rfl).mono (fun _ _ ht => ht)
    fun _ _ ht => ht

/-- **Private access that was opened without a fault is in place**, whichever way it was opened. -/
theorem Storage.openPrivately_joins (hplain : s.provider.Plain) {a : Assured}
    (ha : a.name = c.account) :
    (openPrivately u.scope u.infra a c).Ensures (Inventory.undisturbed u.home) s
      (fun _ t => u.site.Joined c t.provider) fun _ _ => True := by
  unfold openPrivately
  split
  · rename_i network hn
    rw [Assure.privateNetwork_ensures, ha]
    split
    · exact Isolation.configure_joins hn
    · refine Inventory.ensures_undisturbed (fun endpoint i hreply => ?_) fun fault hfault => ?_
      · obtain ⟨stored, hstored, rfl, rfl⟩ := Inventory.reply_endpoint hreply
        have hname : stored.reports.getD network.endpoint = network.endpoint :=
          hplain.named _ stored hstored
        exact Isolation.configureDns_joins hn hname hstored rfl
      · rw [if_pos (Inventory.reply_error hfault)]
        exact Isolation.configure_joins hn
  · rename_i hexternal
    refine ⟨Site.networked_external hexternal, fun network hn => ?_⟩
    rw [hexternal] at hn
    cases hn

/-- **The container was had without a fault**, so its name is a valid one, the account was there,
and the container is there now. -/
theorem Assure.container_fills (hplain : s.provider.Plain) (hne : c.account ≠ "") :
    (container c u.infra f).Ensures (Inventory.undisturbed u.home) s
      (fun a t => a.name = c.containerFor u.infra f ∧
        (c.container = "" ∨ Naming.isContainerName c.container = true) ∧
        s.provider.has (.account c.account) = true ∧
        t.provider = { s.provider with
          containers := s.provider.containers.insert (c.account, a.name) () })
      fun _ _ => True := by
  by_cases hvalid : c.container = "" ∨ Naming.isContainerName c.container = true
  · by_cases hthere : s.provider.has (.account c.account) = true
    · refine (container_settles hplain hne hthere hvalid).mono ?_ fun _ _ _ => trivial
      rintro a t ⟨rfl, ht⟩
      exact ⟨rfl, hvalid, hthere, ht⟩
    · have hfinds : (container c u.infra f).Ensures (Inventory.undisturbed u.home) s
          (fun _ _ => s.provider.has (.account c.account) = true) fun _ _ => True :=
        Inventory.undisturbed_of_refusable (P := fun _ => False) container_finds
      exact hfinds.mono (fun _ _ h => absurd h hthere) fun _ _ _ => trivial
  · rw [container_ensures]
    split
    · rename_i hempty
      exact absurd (Or.inl hempty) hvalid
    · refine ⟨fun _ _ => trivial, fun hname => ?_⟩
      unfold Naming.validateContainerName at hname
      rw [if_neg fun h => hvalid (Or.inr h)] at hname
      cases hname

/-- **All is done**: the record has every name, it passes all checks, it says that the storage is
in place, and so it is. -/
structure Undertaking.Complete (u : Undertaking) (state : StorageState) (i : Inventory) : Prop where
  named : state.spec.Named
  contained : state.spec.container ≠ ""
  passes : state.spec.Passes u.settings u.infra
  stands : u.site.Stands state.spec i
  told : ∃ now management before,
    state = StorageState.settled now ⟨i, state.spec, management⟩ before

namespace Storage

variable {w : Work} {now : Moment} {credentials : ClusterCredentials}

theorem furnish_completes {environment : CloudEnvironment} (hinfra : u.infra.name ≠ "")
    (hcloud : takeCloud u.infra w.config = w.config)
    (hcheck : checkNetwork w.config.network = .ok ())
    (henvironment :
      CloudEnvironment.ofName w.config.cloud u.settings.customCloud = .ok environment)
    (hplain : s.provider.Plain) :
    (furnish u.scope environment u.infra f now).Ensures (Inventory.undisturbed u.home) w s
      (fun _ v t => u.Complete v.state t.provider) fun _ _ _ => True := by
  rw [furnish_ensures]
  refine (Assure.account_valid.and (Inventory.plain_kept _ hplain)).mono ?_ fun _ _ _ => trivial
  rintro account t ⟨⟨hname, haccount⟩, ht⟩
  let c := accountNamed account.name w.config
  have hcaccount : c.account = account.name := StorageConfig.accountNamed_account ..
  have hne : account.name ≠ "" := by
    rw [hname]
    exact StorageConfig.accountFor_ne_empty
  have hcne : c.account ≠ "" := by rwa [hcaccount]
  refine ((openPrivately_joins (c := c) ht hcaccount.symm).and (Inventory.plain_kept _ ht)).mono ?_
    fun _ _ _ => trivial
  rintro - r ⟨hjoined, hr⟩
  refine (Assure.container_fills hr hcne).mono ?_ fun _ _ _ => trivial
  rintro container q ⟨hcontainer, hvalid, hthere, hq⟩
  have hstored : Stored c.account container.name q.provider := by
    rw [hq]
    exact ⟨hthere, (Dict.contains_insert ..).2 (Or.inl rfl)⟩
  refine (closePublicly_settles hstored.account).mono ?_ fun _ _ h => h.elim
  intro _ x hx
  have hpasses : c.Passes u.settings u.infra := by
    have hw : w.config.Passes u.settings u.infra := by
      refine ⟨hinfra, hcheck, ⟨environment, by rwa [hcloud]⟩, haccount, ?_⟩
      rwa [← StorageConfig.accountNamed_container account.name]
    show (accountNamed account.name w.config).Passes u.settings u.infra
    rw [hname]
    exact hw.accountNamed hcloud
  have hnamed : c.Named := StorageConfig.named_accountNamed hne
  -- the account is closed and the container is there, and private access is what it was
  have hstands : u.site.Stands { c with container := container.name } x.provider := by
    rw [hx]
    refine Site.Joined.stands ?_ ⟨?_, hstored.container⟩ ?_
    · rw [hq]
      exact (hjoined.with _ _).withContainer container.name
    · show (c.closed q.provider.accounts).contains c.account = true
      rw [Site.contains_closed]
      exact hstored.account
    · exact (Site.closed_congr rfl rfl).trans Site.closed_closed
  refine ⟨hnamed.withContainer, ?_, ?_, hstands, now, _, w.state, rfl⟩
  · show container.name ≠ ""
    rw [hcontainer]
    exact StorageConfig.containerFor_ne_empty
  · show StorageConfig.Passes u.settings u.infra { c with container := container.name }
    rw [hcontainer]
    exact hpasses.withContainer hnamed

/-- **Once creating has ended well, all is done.** -/
theorem create_completes (hc : u.settings.credentials = .ok (.cluster credentials))
    (hscope : credentials.scope = u.scope) (hplain : s.provider.Plain) :
    (create u.settings u.infra f now).Ensures (Inventory.undisturbed u.home) w s
      (fun _ v t => u.Complete v.state t.provider) fun _ _ _ => True := by
  rw [create_ensures hc, provision_ensures]
  refine ⟨fun _ => trivial, fun hinfra => ⟨fun _ _ => trivial, fun hcheck => ?_⟩⟩
  refine ⟨fun _ _ => trivial, fun environment henvironment => ?_⟩
  refine Inventory.ensures_answered rfl ?_
  rw [hscope]
  exact furnish_completes (w := w.withConfig (takeCloud u.infra w.config)) hinfra
    StorageConfig.takeCloud_takeCloud hcheck henvironment hplain

end Storage

/-! ## Once more -/

/-- The calls that make something new, or close it. -/
def Call.builds : Call → Bool
  | createAccount _ | createContainer .. | createEndpoint _ | setAccess .. => true
  | _ => false

/-- No call since then has built anything. -/
abbrev Scene.Quiet (j : Journal) (s : Scene Inventory) : Prop :=
  s.Since j fun new => ∀ e ∈ new, e.call.builds = false

/-- All that a configuration needs is there, and nothing was built since a journal was written. -/
structure Untouched (c : StorageConfig) (j : Journal) (s : Scene Inventory) : Prop where
  stored : Stored c.account c.container s.provider
  endpoint : ∀ network, c.network = .internal network →
    s.provider.has (.endpoint network.endpoint) = true
  closed : c.network.isInternal = true → s.provider.Closed c.account
  quiet : s.Quiet j

section Quiet

variable {j : Journal} {home scope : Scope} {tags : Tags} {network : InternalNetwork}

/-- Calls that build nothing and delete nothing change nothing of this. -/
theorem Untouched.keeps {d : Call} (hd : d.builds = false) (hkept : d.deletion? = none) :
    Action.Keeps (Inventory.undisturbed home) (Untouched c j) (Action.perform d) := by
  intro s hs
  have hquiet : ∀ fault i, (s.after d fault i).Quiet j := by
    intro fault i
    obtain ⟨new, hnew, hall⟩ := hs.quiet
    refine ⟨⟨d, fault⟩ :: new, by rw [Scene.after_journal, hnew]; rfl, fun e he => ?_⟩
    rcases List.mem_cons.1 he with rfl | he
    · exact hd
    · exact hall e he
  refine Inventory.ensures_undisturbed (fun x i hreply => ?_) fun _ _ =>
    ⟨hs.stored, hs.endpoint, hs.closed, hquiet _ _⟩
  have haccounts : i.accounts = s.provider.accounts := by
    cases d <;> simp only [Inventory.reply] at hreply <;> try split at hreply
    all_goals cases hreply
    all_goals try rfl
    -- what is left are the calls that are ruled out
    all_goals revert hd hkept
    all_goals simp [Call.builds, Call.deletion?]
  refine ⟨⟨?_, ?_⟩, fun network hn => ?_, fun hinternal => ?_, hquiet _ _⟩
  · exact Inventory.reply_keeps hreply hkept _ hs.stored.account
  · exact Inventory.reply_keeps hreply hkept _ hs.stored.container
  · exact Inventory.reply_keeps hreply hkept _ (hs.endpoint network hn)
  · obtain ⟨a, ha, hclosed⟩ := hs.closed hinternal
    refine ⟨a, ?_, hclosed⟩
    rw [Scene.after_provider, haccounts]
    exact ha

/-- A look that the inventory answers. -/
theorem Untouched.look {d : Call} {x : d.Answer} (hs : Untouched c j s)
    (hreply : Inventory.reply home d s.provider = (.ok x, i)) (hd : d.builds = false)
    (hkept : d.deletion? = none) :
    (Action.perform d).Ensures (Inventory.undisturbed home) s
      (fun y t => y = x ∧ Untouched c j t) fun _ _ => False :=
  ((Inventory.ensures_answered (Q := fun y _ => y = x) (E := fun _ _ => False) hreply rfl).and
    (Untouched.keeps hd hkept s hs)).mono (fun _ _ ht => ht) fun _ _ hf => hf.1

theorem Assure.account_untouched {environment : CloudEnvironment} (hne : c.account ≠ "")
    (hplain : s.provider.Plain) (hs : Untouched c j s) :
    (account scope environment c u.infra f).Ensures (Inventory.undisturbed home) s
      (fun a t => a = ⟨c.account, false⟩ ∧ Untouched c j t) fun _ _ => True := by
  rw [account_ensures]
  refine ⟨fun _ _ => trivial, fun name generated haccount => ?_⟩
  obtain ⟨rfl, hgenerated⟩ := accountName_eq haccount
  rw [StorageConfig.accountFor_of_ne hne]
  refine (hs.look (d := .checkName c.account) rfl rfl rfl).mono ?_ fun _ _ => False.elim
  rintro availability t ⟨rfl, ht⟩
  -- the account is there, so its name is taken
  have htaken : s.provider.isTaken c.account = true := by
    have hthere : s.provider.accounts.contains c.account = true := hs.stored.account
    unfold Inventory.isTaken
    rw [hthere, Bool.or_true, Bool.true_or]
  have hunavailable : (s.provider.availabilityOf c.account).available = false := by
    unfold Inventory.availabilityOf
    rw [hplain.checked, if_pos htaken]
  rw [hunavailable, if_neg Bool.false_ne_true, if_neg fun h => hne (hgenerated.1 h)]
  exact ⟨rfl, ht⟩

theorem Isolation.configureDns_untouched {endpoint : Endpoint} {vnet group account : String} :
    Action.Keeps (Inventory.undisturbed home) (Untouched c j)
      (configureDns scope endpoint vnet group account tags) :=
  configureDns_keeps_of (Untouched.keeps rfl rfl) (fun _ => Untouched.keeps rfl rfl)
    (fun _ => Untouched.keeps rfl rfl) (Untouched.keeps rfl rfl) (Untouched.keeps rfl rfl)

/-- The endpoint is found, so only DNS is written again. -/
theorem Storage.openPrivately_untouched (hs : Untouched c j s) :
    (openPrivately scope u.infra ⟨c.account, false⟩ c).Ensures (Inventory.undisturbed home) s
      (fun _ t => Untouched c j t) fun _ _ => True := by
  unfold openPrivately
  split
  · rename_i network hn
    rw [Assure.privateNetwork_ensures, if_neg Bool.false_ne_true]
    obtain ⟨stored, hstored⟩ := Dict.exists_get? (hs.endpoint network hn)
    have hreply : Inventory.reply home (.getEndpoint network.endpoint) s.provider =
        (.ok (Inventory.endpoint home network.endpoint stored), s.provider) := by
      simp only [Inventory.reply, hstored]
    refine (hs.look hreply rfl rfl).mono ?_ fun _ _ => False.elim
    rintro endpoint t ⟨-, ht⟩
    exact (Isolation.configureDns_untouched t ht).mono (fun _ _ hu => hu) fun _ _ _ => trivial
  · exact hs

/-- The container is found. -/
theorem Assure.container_untouched (hne : c.account ≠ "") (hcontained : c.container ≠ "")
    (hs : Untouched c j s) :
    (container c u.infra f).Ensures (Inventory.undisturbed home) s
      (fun _ t => Untouched c j t) fun _ _ => True := by
  rw [container_ensures, if_neg hcontained]
  refine ⟨fun _ _ => trivial, fun _ => ?_⟩
  refine (Probe.primaryKey_keeps_of (Untouched.keeps rfl rfl) s hs).mono ?_ fun _ _ _ => trivial
  intro key t ht
  unfold Probe.containerExists
  rw [if_neg (not_or.2 ⟨hne, hcontained⟩)]
  refine (ht.look (d := .containerExists c.account key c.container) rfl rfl rfl).mono ?_
    fun _ _ => False.elim
  rintro there v ⟨rfl, hv⟩
  have hfound : t.provider.containers.contains (c.account, c.container) = true :=
    ht.stored.container
  rw [if_pos hfound]
  exact hv

/-- The account is found closed. -/
theorem Storage.closePublicly_untouched (hs : Untouched c j s) :
    (closePublicly c).Ensures (Inventory.undisturbed home) s (fun _ t => Untouched c j t)
      fun _ _ => True := by
  unfold closePublicly
  split
  · rename_i hinternal
    obtain ⟨a, ha, hclosed⟩ := hs.closed hinternal
    have hreply : Inventory.reply home (.getAccount c.account) s.provider =
        (.ok (Inventory.account home c.account a), s.provider) := by
      simp only [Inventory.reply, ha]
    rw [closeToPublic_ensures]
    refine (hs.look hreply rfl rfl).mono ?_ fun _ _ => False.elim
    rintro found t ⟨rfl, ht⟩
    rw [if_pos (show (Inventory.account home c.account a).access = some .disabled from hclosed)]
    exact ht
  · exact hs

theorem Storage.furnish_quiet {w : Work} {now : Moment} {environment : CloudEnvironment}
    (hnamed : w.config.Named) (hcontained : w.config.container ≠ "") (hplain : s.provider.Plain)
    (hs : Untouched w.config j s) :
    (furnish scope environment u.infra f now).Ensures (Inventory.undisturbed home) w s
      (fun _ _ t => t.Quiet j) fun _ _ _ => True := by
  rw [furnish_ensures]
  refine (Assure.account_untouched hnamed.account hplain hs).mono ?_ fun _ _ _ => trivial
  rintro account t ⟨rfl, ht⟩
  rw [hnamed.endpoint]
  refine (openPrivately_untouched ht).mono ?_ fun _ _ _ => trivial
  intro _ r hr
  refine (Assure.container_untouched hnamed.account hcontained hr).mono ?_ fun _ _ _ => trivial
  intro container q hq
  exact (closePublicly_untouched hq).mono (fun _ _ hx => hx.quiet) fun _ _ _ => trivial

/-- **Where all is done, creating builds nothing.** -/
theorem Storage.create_quiet {w : Work} {now : Moment} {credentials : ClusterCredentials}
    (hc : u.settings.credentials = .ok (.cluster credentials)) (hnamed : w.config.Named)
    (hcontained : w.config.container ≠ "") (hplain : s.provider.Plain)
    (hs : Untouched w.config j s) :
    (create u.settings u.infra f now).Ensures (Inventory.undisturbed home) w s
      (fun _ _ t => t.Quiet j) fun _ _ _ => True := by
  rw [create_ensures hc, provision_ensures, hnamed.takeCloud]
  refine ⟨fun _ => trivial, fun _ => ⟨fun _ _ => trivial, fun _ => ⟨fun _ _ => trivial, ?_⟩⟩⟩
  intro environment _
  refine ((hs.look (d := .clients environment credentials) rfl rfl rfl).and
    (Inventory.plain_kept _ hplain)).mono ?_ fun _ _ h => h.1.elim
  rintro _ t ⟨⟨-, ht⟩, htplain⟩
  exact furnish_quiet (w := w.withConfig w.config) hnamed hcontained htplain ht

end Quiet

/-- What is said again is not written again. -/
theorem Conditions.update_update {now later : Moment} {kind reason message : String}
    {status : ConditionStatus} (l : List Condition) :
    update later kind status reason message (update now kind status reason message l) =
      update now kind status reason message l := by
  induction l with
  | nil => simp [update]
  | cons c l ih =>
    by_cases hkind : c.kind = kind
    · simp [update, hkind]
    · simp [update, hkind, ih]

theorem StorageState.settled_settled {now later : Moment} {o o' : Completion} {state : StorageState}
    (hconfig : o'.config = o.config) (hmanagement : o'.management = o.management) :
    (state.settled now o).settled later o' = state.settled now o := by
  unfold settled report
  dsimp only
  rw [hconfig, hmanagement, Conditions.update_update]

namespace Undertaking.Complete

variable {state : StorageState}

theorem untouched (h : u.Complete state i) : Untouched state.spec [] ⟨i, []⟩ where
  stored := h.stands.stored
  endpoint := fun network hn => (h.stands.joined.reach network hn).1
  closed := h.stands.closed
  quiet := Scene.since_refl fun _ he => nomatch he

/-- Where all is done, the provider is one on which the storage can be put in place. -/
theorem fits (h : u.Complete state i) : u.site.Fits state.spec i := by
  refine ⟨fun _ => h.stands.stored.account, fun network hn _ => ?_, fun network hn hgone => ?_⟩
  · exact (h.stands.joined.reach network hn).2
  · rw [h.stands.stored.account, (h.stands.joined.reach network hn).1] at hgone
    rcases hgone with hgone | hgone <;> cases hgone

/-- No name is left to choose. -/
theorem completed (h : u.Complete state i) : state.spec.completed u.infra f = state.spec := by
  rw [h.named.completed, StorageConfig.containerFor_of_ne h.contained]

/-- **Where all is done, an invocation that is refused nothing changes nothing.** -/
theorem take (h : u.Complete state i) {credentials : ClusterCredentials}
    (hc : u.settings.credentials = .ok (.cluster credentials))
    (hscope : credentials.scope = u.scope)
    (hplain : i.Plain) (now : Moment) :
    let again := (World.initial state i).take u.settings u.home ⟨.create u.infra f, now, []⟩
    again.1 = .ok () ∧ again.2.state = state ∧ again.2.scene.provider = i ∧
      again.2.scene.Quiet [] := by
  intro again
  have hfits : u.site.Fits (state.spec.completed u.infra f) i := by
    rw [h.completed]
    exact h.fits
  obtain ⟨hok, hprovider, hstate⟩ := World.take_settles (w := .initial state i) (f := f) hc hscope
    hplain h.passes hfits (fun hempty => absurd hempty h.named.account) now
  have hcompleted : (World.initial state i).state.spec.completed u.infra f = state.spec :=
    h.completed
  have hmatches : u.site.Matches (state.spec.completed u.infra f) i := by
    rw [h.completed]
    exact .of_has h.stands.stored.account
  refine ⟨hok, hstate.trans ?_, (hprovider.same hmatches).trans ?_, ?_⟩
  · obtain ⟨first, management, before, htold⟩ := h.told
    have hmanagement : state.management = some management := by
      rw [htold]
      rfl
    let o := u.site.outcome u.infra f state i
    have hsame : o.management = management := by
      show state.management.getD _ = management
      rw [hmanagement]
      rfl
    calc state.settled now o
      _ = (before.settled first ⟨i, state.spec, management⟩).settled now o :=
        congrArg (StorageState.settled now o) htold
      _ = before.settled first ⟨i, state.spec, management⟩ :=
        StorageState.settled_settled hcompleted hsame
      _ = state := htold.symm
  · show u.site.settled _ i = i
    rw [hcompleted]
    exact h.stands.same
  · have hquiet : (Storage.create u.settings u.infra f now).Ensures (Inventory.undisturbed u.home)
        ⟨state.spec, state⟩ ⟨i, []⟩ (fun _ _ t => t.Quiet []) fun _ _ _ => True :=
      Storage.create_quiet hc h.named h.contained hplain h.untouched
    have htake := World.take_undisturbed (w := .initial state i) (t := ⟨.create u.infra f, now, []⟩)
      (Q := fun v => v.scene.Quiet []) (E := fun _ _ => True) rfl hquiet
    rw [show ((World.initial state i).take u.settings u.home _).1 = .ok () from hok] at htake
    exact htake

end Undertaking.Complete

/-- An invocation that was refused nothing and ended well has done all. -/
theorem World.take_completes {w : World} {credentials : ClusterCredentials}
    (hc : u.settings.credentials = .ok (.cluster credentials))
    (hscope : credentials.scope = u.scope)
    (hplain : w.scene.provider.Plain) {now : Moment} {v : World}
    (hended : w.take u.settings u.home ⟨.create u.infra f, now, []⟩ = (.ok (), v)) :
    u.Complete v.state v.scene.provider ∧ v.scene.provider.Plain := by
  have hcreate : (Storage.create u.settings u.infra f now).Ensures (Inventory.undisturbed u.home)
      ⟨w.state.spec, w.state⟩ w.scene
      (fun _ v t => u.Complete v.state t.provider ∧ t.provider.Plain) fun _ _ _ => True := by
    refine ((Storage.create_completes hc hscope hplain).and
      (Invocation.Ensures.of_kept Inventory.plain_step hplain)).mono ?_ fun _ _ _ _ => trivial
    exact fun _ _ _ h => h
  have htake := take_undisturbed (w := w) (t := ⟨.create u.infra f, now, []⟩)
    (Q := fun v => u.Complete v.state v.scene.provider ∧ v.scene.provider.Plain)
    (E := fun _ _ => True) rfl hcreate
  rw [hended] at htake
  exact htake

/-! ## The theorem -/

/-- **Creating storage again changes nothing.** After an invocation that was refused nothing and
ended well, a new one that is refused nothing ends well too. It creates no account, no container and
no endpoint and does not touch public access, and it leaves the provider and the record exactly as
they are. -/
theorem creating_again_changes_nothing {settings : Settings} {credentials : ClusterCredentials}
    (hc : settings.credentials = .ok (.cluster credentials)) (home : Scope) (state : StorageState)
    (inventory : Inventory) (hplain : inventory.Plain) (infra : Infrastructure)
    (fresh later : Fresh) (now after : Moment) (v : World)
    (hended : (World.initial state inventory).take settings home
      ⟨.create infra fresh, now, []⟩ = (.ok (), v)) :
    let again := (World.initial v.state v.scene.provider).take settings home
      ⟨.create infra later, after, []⟩
    again.1 = .ok () ∧ again.2.state = v.state ∧ again.2.scene.provider = v.scene.provider ∧
      ∀ e ∈ again.2.scene.journal, e.call.builds = false := by
  let u : Undertaking := ⟨settings, home, credentials.scope, infra, [], state, inventory⟩
  intro again
  obtain ⟨hcomplete, hvplain⟩ := World.take_completes (u := u) (f := fresh)
    (w := .initial state inventory) hc rfl hplain hended
  obtain ⟨hok, hstate, hprovider, new, hnew, hall⟩ :=
    hcomplete.take (f := later) hc rfl hvplain after
  refine ⟨hok, hstate, hprovider, fun e he => hall e ?_⟩
  rwa [hnew, List.append_nil] at he

/-- Storage with names that are drawn. The second invocation comes a day later, with other draws. -/
theorem drawn_storage_is_found_again :
    let home := clusterSettings.cluster.scope
    let infra : Infrastructure := ⟨"mycluster", none⟩
    let spec : StorageConfig := { network := .internal { vnet := "vnet", subnet := "subnet" } }
    let later : Moment := { date := ⟨1970, 1, 2⟩, time := ⟨0, 0, 0, 0⟩ }
    let first : Turn := ⟨.create infra ⟨⟨[], 0⟩, 0⟩, .epoch, []⟩
    let second : Turn := ⟨.create infra ⟨⟨[1], 0⟩, 1⟩, later, []⟩
    ∃ v, (World.initial { spec := spec } {}).take clusterSettings home first = (.ok (), v) ∧
      let again := (World.initial v.state v.scene.provider).take clusterSettings home second
      again.1 = .ok () ∧ again.2.state = v.state := by
  intro home infra spec later first second
  have hplain : Inventory.Plain {} := ⟨rfl, nofun, nofun⟩
  have hok : ((World.initial { spec := spec } {}).take clusterSettings home first).1 = .ok () := by
    decide +kernel
  obtain ⟨v, hended⟩ : ∃ v,
      (World.initial { spec := spec } {}).take clusterSettings home first = (.ok (), v) := by
    revert hok
    generalize (World.initial { spec := spec } {}).take clusterSettings home first = o
    intro hok
    exact ⟨o.2, Prod.ext hok rfl⟩
  obtain ⟨hagain, hstate, -, -⟩ := creating_again_changes_nothing clusterSettings_credentials home
    { spec := spec } {} hplain infra ⟨⟨[], 0⟩, 0⟩ ⟨⟨[1], 0⟩, 1⟩ .epoch later v hended
  exact ⟨v, hended, hagain, hstate⟩

end RegistryStorage
