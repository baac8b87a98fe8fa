import RegistryStorage.Proofs.Attempts
import RegistryStorage.Proofs.Teardown

/-!
Creating storage converges.

First the attempt that is refused nothing: it ends well, and it leaves what `Site.outcome` computes,
apart from an endpoint that was there before its account (`Storage.create_settles`). Together with
what disturbed attempts keep (`Storage.create_onward`) this gives the theorem on whole runs: however
often an attempt stopped, and wherever, the one that goes through leaves what a single one would have
left that chose the same names, and on the way nothing was created twice (`creating_converges`).

Whether an endpoint was there before its account matters for this endpoint and its address, though.
An attempt that creates an account creates the endpoint over the one that is there, and an attempt
that finds the account keeps it (`interrupted_run_keeps_endpoint`).
-/

set_option autoImplicit false

namespace RegistryStorage

open Storage (takeCloud accountNamed)

variable {u : Undertaking} {c : StorageConfig} {s : Scene Inventory} {f : Fresh}

/-- The provider is what is expected, and the step gave what is expected. -/
def Ends {α : Type} (a : α) (i : Inventory) (b : α) (t : Scene Inventory) : Prop :=
  b = a ∧ t.provider = i

/-- The record once the storage is in place. -/
def StorageState.settled (now : Moment) (o : Completion) (state : StorageState) : StorageState :=
  StorageState.report
    { state with spec := o.config, status := some o.config, management := some o.management }
    now .true .containerExists "Storage container exists"

/-! ## An attempt that is refused nothing -/

/-- A look that the inventory answers. -/
theorem Inventory.ensures_answered {home : Scope} {d : Call} {x : d.Answer} {i : Inventory}
    {Q : d.Answer → Scene Inventory → Prop} {E : Fault → Scene Inventory → Prop}
    (hreply : Inventory.reply home d s.provider = (.ok x, i)) (hQ : Q x (s.after d none i)) :
    (Action.perform d).Ensures (Inventory.undisturbed home) s Q E := by
  refine Inventory.ensures_undisturbed (fun y j hy => ?_) fun g hg => ?_
  · rw [hreply] at hy
    obtain ⟨hanswer, rfl⟩ := Prod.mk.inj hy
    obtain rfl := Except.ok.inj hanswer
    exact hQ
  · rw [hreply] at hg
    cases hg

theorem Assure.account_settles (hplain : s.provider.Plain) (hpasses : c.Passes u.settings u.infra)
    (howned : s.provider.isTaken (c.accountFor u.infra f) = true →
      s.provider.has (.account (c.accountFor u.infra f)) = true)
    (hfree : c.account = "" → s.provider.isTaken (c.accountFor u.infra f) = false)
    {environment : CloudEnvironment} (henvironment : environment.isStack = c.legacy) :
    (account u.scope environment c u.infra f).Ensures (Inventory.undisturbed u.home) s
      (Ends ⟨c.accountFor u.infra f, !s.provider.has (.account (c.accountFor u.infra f))⟩
        { s.provider with
          accounts := u.site.housed (accountNamed (c.accountFor u.infra f) c) s.provider.accounts })
      fun _ _ => False := by
  rw [account_ensures]
  refine ⟨fun fault haccount => ?_, fun name generated haccount => ?_⟩
  · unfold accountName at haccount
    split at haccount
    · cases haccount
    · rename_i hne
      unfold Naming.validateAccountName at haccount
      rw [if_pos (hpasses.account.resolve_left hne)] at haccount
      cases haccount
  · obtain ⟨rfl, hgenerated⟩ := accountName_eq haccount
    -- the name is checked with the provider, and the answer is true
    refine Inventory.ensures_answered rfl ?_
    have hname : (accountNamed (c.accountFor u.infra f) c).account = c.accountFor u.infra f :=
      StorageConfig.accountNamed_account ..
    rw [hplain.available]
    split
    · rename_i hfree
      have hgone : s.provider.accounts.contains (c.accountFor u.infra f) = false :=
        Inventory.contains_of_free (by simpa using hfree)
      refine Inventory.ensures_answered rfl ⟨?_, ?_⟩
      · rw [Inventory.has, hgone]
        rfl
      · have hlegacy : (accountNamed (c.accountFor u.infra f) c).legacy = c.legacy := by
          unfold StorageConfig.legacy
          rw [StorageConfig.accountNamed_cloud]
        rw [Site.housed_of_not_contains (by rw [hname]; exact hgone), henvironment]
        unfold Site.accountRequest
        rw [hname, hlegacy]
        rfl
    · rename_i htaken
      have hthere := howned (by simpa using htaken)
      split
      · rename_i hdrawn
        rw [hfree (hgenerated.1 hdrawn)] at htaken
        exact htaken rfl
      · refine ⟨?_, ?_⟩
        · rw [hthere]
          rfl
        · rw [Site.housed_of_contains (by rw [hname]; exact hthere)]
          rfl

theorem Isolation.configureDns_settles {network : InternalNetwork} {endpoint : Endpoint}
    {stored : StoredEndpoint} {address : String} (hname : endpoint.name = network.endpoint)
    (hstored : s.provider.endpoints.get? network.endpoint = some stored)
    (hinterfaces : Inventory.interfacesOf u.home stored = endpoint.interfaces)
    (haddress : s.provider.address? u.home network.endpoint = some address) :
    (configureDns u.scope endpoint network.vnet (networkGroup u.scope network) c.account
      u.infra.tags).Ensures (Inventory.undisturbed u.home) s
      (fun _ t => t.provider = u.site.joined c network s.provider) fun _ _ => False := by
  obtain ⟨found, id, ids, addresses, hfound, hids, haddresses⟩ :=
    Inventory.address?_eq_some.1 haddress
  obtain rfl := Option.some.inj (hstored.symm.trans hfound)
  have hfirst : firstInterface endpoint = .ok (ResourceId.name id) :=
    firstInterface_eq_ok.2 ⟨id, ids, hinterfaces ▸ hids, rfl⟩
  rw [configureDns_ensures]
  refine Inventory.ensures_answered rfl ⟨fun interface hinterface => ?_, fun fault hfault => ?_⟩
  · rw [hfirst] at hinterface
    obtain rfl := Except.ok.inj hinterface
    -- the zone that was just put does not hide the interface
    have hstill : Inventory.addresses? { s.provider with zones := s.provider.zones.insert zone () }
        (ResourceId.name id) = some (address :: addresses) := haddresses
    have hreply : Inventory.reply u.home (.getInterface (ResourceId.name id))
        { s.provider with zones := s.provider.zones.insert zone () } =
        (.ok ⟨"/networkInterfaces/" ++ ResourceId.name id, ResourceId.name id,
          address :: addresses⟩, { s.provider with zones := s.provider.zones.insert zone () }) := by
      simp only [Inventory.reply, hstill]
    refine Inventory.ensures_answered hreply ⟨fun found hfound => ?_, fun fault hfault => ?_⟩
    · obtain rfl := Except.ok.inj hfound
      refine Inventory.ensures_answered rfl (Inventory.ensures_answered rfl ?_)
      rw [link_ensures, hname]
      refine Inventory.ensures_answered rfl ?_
      have hleads : s.provider.address? u.site.home network.endpoint = some address := haddress
      unfold Site.joined
      rw [hleads]
      rfl
    · cases hfault
  · rw [hfirst] at hfault
    cases hfault

/-- An endpoint that leads to an address is created, and DNS is configured for it. -/
theorem Isolation.configure_settles {network : InternalNetwork}
    (hreach : ∃ address, (s.provider.addEndpoint (u.site.request c network)).address? u.home
      network.endpoint = some address) :
    (configure u.scope c.account u.infra.tags network).Ensures (Inventory.undisturbed u.home) s
      (fun _ t => t.provider =
        u.site.joined c network (s.provider.addEndpoint (u.site.request c network)))
      fun _ _ => False := by
  obtain ⟨address, haddress⟩ := hreach
  refine (Action.ensures_bind _).2 (Inventory.ensures_answered rfl ((Action.ensures_bind _).2 ?_))
  exact (configureDns_settles rfl (Dict.get?_insert_self ..) rfl haddress).mono
    (fun _ _ ht => ht) fun _ _ ht => ht

/-- Private access is opened as is wanted. Only for an account that was just created is an endpoint
created over one that is there. -/
theorem Storage.openPrivately_settles (hplain : s.provider.Plain) {a : Assured}
    (ha : a.name = c.account) {exact : Prop}
    (h : u.site.Opens exact a.created c s.provider) :
    (openPrivately u.scope u.infra a c).Ensures (Inventory.undisturbed u.home) s
      (fun _ t => Inventory.Near exact c t.provider (u.site.networked c s.provider))
      fun _ _ => False := by
  unfold openPrivately
  split
  · rename_i network hn
    rw [Assure.privateNetwork_ensures, ha]
    split
    · rename_i hcreated
      refine (Isolation.configure_settles (h.made network hn (Or.inl hcreated))).mono
        (fun _ t ht => ?_) fun _ _ => False.elim
      rw [ht]
      exact Site.joined_addEndpoint_near hn fun hexact => h.same hexact hcreated network hn
    · cases hstored : s.provider.endpoints.get? network.endpoint with
      | some stored =>
        have hreply : Inventory.reply u.home (.getEndpoint network.endpoint) s.provider =
            (.ok (Inventory.endpoint u.home network.endpoint stored), s.provider) := by
          simp only [Inventory.reply, hstored]
        have hopen : s.provider.has (.endpoint network.endpoint) = true :=
          Dict.contains_of_get? hstored
        obtain ⟨address, haddress⟩ := h.found network hn hopen
        -- found, the endpoint is the one that stays
        refine Inventory.ensures_answered hreply ?_
        have hname : (Inventory.endpoint u.home network.endpoint stored).name = network.endpoint :=
          hplain.named _ stored hstored
        have hdns := Isolation.configureDns_settles (c := c)
          (s := s.after (.getEndpoint network.endpoint) none s.provider) hname hstored rfl haddress
        refine hdns.mono (fun _ t ht => ?_) fun _ _ => False.elim
        rw [Site.networked_of_contains hn hopen]
        exact .of_eq ht
      | none =>
        have hgone : s.provider.has (.endpoint network.endpoint) = false :=
          Dict.not_contains_of_get? hstored
        refine Inventory.ensures_undisturbed (fun x i hx => ?_) fun fault hfault => ?_
        · simp only [Inventory.reply, hstored] at hx
          cases hx
        · rw [if_pos (Inventory.reply_error hfault)]
          have hconfigure := Isolation.configure_settles (c := c)
            (s := s.after (.getEndpoint network.endpoint) (some fault) s.provider)
            (h.made network hn (Or.inr hgone))
          refine hconfigure.mono (fun _ t ht => ?_) fun _ _ => False.elim
          rw [ht]
          refine Site.joined_addEndpoint_near hn fun _ hthere => ?_
          rw [Scene.after_provider, hgone] at hthere
          cases hthere
  · rename_i hexternal
    exact .of_eq (Site.networked_external hexternal).symm

theorem Assure.container_settles (hplain : s.provider.Plain) (hne : c.account ≠ "")
    (hthere : s.provider.has (.account c.account) = true)
    (hvalid : c.container = "" ∨ Naming.isContainerName c.container = true) :
    (container c u.infra f).Ensures (Inventory.undisturbed u.home) s
      (Ends ⟨c.containerFor u.infra f, c.container == "" ||
          !s.provider.has (.container c.account (c.containerFor u.infra f))⟩
        { s.provider with containers :=
          s.provider.containers.insert (c.account, c.containerFor u.infra f) () })
      fun _ _ => False := by
  -- the account is there and its keys are made from its name
  have hkey : ∀ {Q : String → Scene Inventory → Prop},
      (∀ key, Q key (s.after (.listKeys c.account) none s.provider)) →
        (Probe.primaryKey c.account).Ensures (Inventory.undisturbed u.home) s Q
          fun _ _ => False := by
    intro Q hQ
    refine (Inventory.primaryKey_undisturbed hplain c.account).mono ?_ ?_
    · rintro key t ⟨-, -, rfl⟩
      exact hQ key
    · rintro fault t ⟨hgone, -⟩
      rw [hthere] at hgone
      cases hgone
  rw [container_ensures]
  split
  · rename_i hempty
    have hname : c.containerFor u.infra f = Naming.containerName u.infra.name f.serial :=
      if_pos hempty
    refine hkey fun key => Inventory.ensures_answered rfl ?_
    rw [hname, hempty]
    exact ⟨rfl, rfl⟩
  · rename_i hnonempty
    have hname : c.containerFor u.infra f = c.container := if_neg hnonempty
    have hflag : (c.container == "") = false := beq_eq_false_iff_ne.2 hnonempty
    refine ⟨fun fault hfault => ?_, fun _ => hkey fun key => ?_⟩
    · unfold Naming.validateContainerName at hfault
      rw [if_pos (hvalid.resolve_left hnonempty)] at hfault
      cases hfault
    · unfold Probe.containerExists
      rw [if_neg (not_or.2 ⟨hne, hnonempty⟩), hname, hflag]
      refine Inventory.ensures_answered rfl ?_
      split
      · rename_i hin
        rw [Scene.after_provider] at hin
        refine ⟨?_, ?_⟩
        · rw [Inventory.has, hin]
          rfl
        · obtain ⟨x, hx⟩ := Dict.exists_get? hin
          rw [Dict.insert_of_get? hx]
          rfl
      · rename_i hout
        rw [Scene.after_provider] at hout
        refine Inventory.ensures_answered rfl ⟨?_, rfl⟩
        rw [Inventory.has, Bool.eq_false_iff.2 hout]
        rfl

theorem Storage.closePublicly_settles (hthere : s.provider.has (.account c.account) = true) :
    (closePublicly c).Ensures (Inventory.undisturbed u.home) s
      (fun _ t => t.provider = { s.provider with accounts := c.closed s.provider.accounts })
      fun _ _ => False := by
  obtain ⟨a, ha⟩ := Dict.exists_get? hthere
  unfold closePublicly
  split
  · rename_i hinternal
    -- the account is there, so both calls are answered
    have hlook : Inventory.reply u.home (.getAccount c.account) s.provider =
        (.ok (Inventory.account u.home c.account a), s.provider) := by
      simp only [Inventory.reply, ha]
    have hset : Inventory.reply u.home (.setAccess c.account .disabled) s.provider =
        (.ok (), { s.provider with accounts := c.closed s.provider.accounts }) := by
      rw [Site.closed_of_get? hinternal ha]
      simp only [Inventory.reply, ha]
    rw [closeToPublic_ensures]
    refine Inventory.ensures_answered hlook ?_
    split
    · rename_i hclosed
      rw [Site.closed_of_disabled ha hclosed]
      rfl
    · exact Inventory.ensures_answered hset rfl
  · rename_i hexternal
    have hopen : c.closed s.provider.accounts = s.provider.accounts := if_neg hexternal
    rw [hopen]
    rfl

theorem Inventory.plain_step {home : Scope} (d : Call) (s : Scene Inventory) (reply : Reply d)
    (t : Scene Inventory) (h : Inventory.undisturbed home d s reply t) (hs : s.provider.Plain) :
    t.provider.Plain := by
  obtain ⟨i, hi, rfl⟩ := h
  exact hs.reply hi

theorem Inventory.plain_kept {home : Scope} {α : Type} (a : Action α) (hplain : s.provider.Plain) :
    a.Ensures (Inventory.undisturbed home) s (fun _ t => t.provider.Plain)
      fun _ t => t.provider.Plain :=
  Action.Ensures.of_kept Inventory.plain_step hplain

namespace Storage

variable {w : Work} {now : Moment} {credentials : ClusterCredentials}

/-- The container, and the account closed to the public network. -/
theorem fill_settles (hplain : s.provider.Plain) (hne : c.account ≠ "")
    (hthere : s.provider.has (.account c.account) = true)
    (hvalid : c.container = "" ∨ Naming.isContainerName c.container = true) :
    (Assure.container c u.infra f).Ensures (Inventory.undisturbed u.home) s
      (fun a t => (closePublicly c).Ensures (Inventory.undisturbed u.home) t
        (fun _ v => a = ⟨c.containerFor u.infra f, c.container == "" ||
            !s.provider.has (.container c.account (c.containerFor u.infra f))⟩ ∧
          v.provider =
            { s.provider with
              accounts := c.closed s.provider.accounts
              containers :=
                s.provider.containers.insert (c.account, c.containerFor u.infra f) () })
        fun _ _ => False)
      fun _ _ => False := by
  refine (Assure.container_settles hplain hne hthere hvalid).mono ?_ fun _ _ => False.elim
  rintro a t ⟨rfl, ht⟩
  have hstill : t.provider.has (.account c.account) = true := by
    rw [ht]
    exact hthere
  refine (closePublicly_settles hstill).mono (fun _ v hv => ⟨rfl, ?_⟩) fun _ _ => False.elim
  rw [hv, ht]

/-- **Furnishing that is refused nothing** puts everything in place. -/
theorem furnish_settles {environment : CloudEnvironment}
    (hcloud : takeCloud u.infra w.config = w.config)
    (henvironment : environment.isStack = w.config.legacy) (hplain : s.provider.Plain)
    (hpasses : w.config.Passes u.settings u.infra)
    (hfits : u.site.Fits (w.config.completed u.infra f) s.provider)
    (hfree : w.config.account = "" → s.provider.isTaken (w.config.accountFor u.infra f) = false) :
    let goal := w.config.completed u.infra f
    (furnish u.scope environment u.infra f now).Ensures (Inventory.undisturbed u.home) w s
      (fun _ v t => v = (w.withConfig goal).settle now (w.config.creates goal s.provider) ∧
        Inventory.Near (u.site.Matches goal s.provider) goal t.provider
          (u.site.settled goal s.provider))
      fun _ _ _ => False := by
  intro goal
  let c := accountNamed (w.config.accountFor u.infra f) w.config
  have hgoal : goal = { c with container := w.config.containerFor u.infra f } :=
    StorageConfig.completed_of_takeCloud hcloud
  have hname : c.account = w.config.accountFor u.infra f := StorageConfig.accountNamed_account ..
  have hcontainer : c.container = w.config.container := StorageConfig.accountNamed_container ..
  have hne : c.account ≠ "" := by
    rw [hname]
    exact StorageConfig.accountFor_ne_empty
  have hvalid : c.container = "" ∨ Naming.isContainerName c.container = true := by
    rw [hcontainer]
    exact hpasses.container
  have haccount : goal.account = c.account := by rw [hgoal]
  have hnetwork : goal.network = c.network := by rw [hgoal]
  have hfits : u.site.Fits c s.provider := hfits.congr haccount hnetwork
  have howned := hfits.owned
  rw [hname] at howned
  rw [furnish_ensures]
  refine ((Assure.account_settles hplain hpasses howned hfree henvironment).and
    (Inventory.plain_kept _ hplain)).mono ?_ fun _ _ h => h.1
  rintro a t ⟨⟨rfl, ht⟩, htplain⟩
  -- accounts aside, the provider is still the one that was there
  have hopens : u.site.Opens (u.site.Matches goal s.provider)
      (!s.provider.has (.account (w.config.accountFor u.infra f))) c t.provider := by
    rw [ht, ← hname]
    exact hfits.leads.opens (fun hexact => hexact.congr haccount hnetwork) _
  dsimp only
  refine ((openPrivately_settles htplain hname.symm hopens).and
    (Inventory.plain_kept _ htplain)).mono ?_ fun _ _ h => h.1
  rintro - r ⟨hr, hrplain⟩
  have haccounts : r.provider.accounts = u.site.housed c s.provider.accounts := by
    rw [hr.accounts, Site.networked_accounts, ht]
  have hthere : r.provider.has (.account c.account) = true := by
    rw [Inventory.has, haccounts]
    exact Site.contains_housed
  refine (fill_settles hrplain hne hthere hvalid).mono (fun container q hq => ?_)
    fun _ _ => False.elim
  refine hq.mono ?_ fun _ _ => False.elim
  -- all that was put in place, and what it says about the owner
  rintro - v ⟨rfl, hv⟩
  have hfor : c.containerFor u.infra f = w.config.containerFor u.infra f := by
    unfold StorageConfig.containerFor
    rw [hcontainer]
  have hcontainers : r.provider.containers = s.provider.containers := by
    rw [hr.containers, Site.networked_containers, ht]
  have hcreates : (!s.provider.has (.account (w.config.accountFor u.infra f)) ||
      (c.container == "" || !r.provider.has (.container c.account (c.containerFor u.infra f)))) =
        w.config.creates goal s.provider := by
    unfold goal
    rw [StorageConfig.creates_completed, hfor, hname, hcontainer]
    unfold Inventory.has
    rw [hcontainers]
  constructor
  · rw [hcreates, hfor, ← hgoal]
  · rw [hv, haccounts, hcontainers, hfor]
    rw [ht, Site.networked_with _ s.provider.containers] at hr
    have hnear := (hr.congr haccount.symm hnetwork.symm).with
      (c.closed (u.site.housed c s.provider.accounts))
      (s.provider.containers.insert (c.account, w.config.containerFor u.infra f) ())
    rwa [hgoal] at hnear ⊢

/-- **Creating that is refused nothing** ends well, and comes to what it is said to come to. -/
theorem create_settles (hc : u.settings.credentials = .ok (.cluster credentials))
    (hscope : credentials.scope = u.scope) (hw : w.config = w.state.spec)
    (hplain : s.provider.Plain) (hpasses : w.state.spec.Passes u.settings u.infra)
    (hfits : u.site.Fits (w.state.spec.completed u.infra f) s.provider)
    (hfree : w.state.spec.account = "" →
      s.provider.isTaken (w.state.spec.accountFor u.infra f) = false) :
    let o := u.site.outcome u.infra f w.state s.provider
    (create u.settings u.infra f now).Ensures (Inventory.undisturbed u.home) w s
      (fun _ v t => Inventory.Near (u.site.Matches o.config s.provider) o.config t.provider o.provider ∧
        v.state = w.state.settled now o)
      fun _ _ _ => False := by
  intro o
  obtain ⟨haccount, hcontainer, hnetwork⟩ := StorageConfig.takeCloud_names u.infra w.state.spec
  have hgoal : (takeCloud u.infra w.state.spec).completed u.infra f =
      w.state.spec.completed u.infra f := StorageConfig.completed_takeCloud
  rw [create_ensures hc, provision_ensures, hw]
  refine ⟨fun hempty => absurd hempty hpasses.infrastructure, fun _ => ⟨fun fault hfault => ?_,
    fun _ => ⟨fun fault hfault => ?_, fun environment henvironment => ?_⟩⟩⟩
  · rw [hnetwork, hpasses.network] at hfault
    cases hfault
  · obtain ⟨environment, hcloud⟩ := hpasses.cloud
    rw [hcloud] at hfault
    cases hfault
  · refine Inventory.ensures_answered rfl ?_
    rw [hscope]
    have hfits : u.site.Fits ((takeCloud u.infra w.state.spec).completed u.infra f) s.provider := by
      rw [hgoal]
      exact hfits
    have hfree : (takeCloud u.infra w.state.spec).account = "" →
        s.provider.isTaken ((takeCloud u.infra w.state.spec).accountFor u.infra f) = false := by
      rw [haccount, StorageConfig.accountFor_takeCloud]
      exact hfree
    refine (furnish_settles (w := w.withConfig (takeCloud u.infra w.state.spec))
      (s := s.after (.clients environment credentials) none s.provider)
      StorageConfig.takeCloud_takeCloud (StorageConfig.isStack_eq_legacy henvironment) hplain
      hpasses.takeCloud hfits hfree).mono ?_ fun _ _ _ => False.elim
    rintro _ v t ⟨rfl, ht⟩
    have hcreates : (takeCloud u.infra w.state.spec).creates
        (w.state.spec.completed u.infra f) s.provider =
        w.state.spec.creates (w.state.spec.completed u.infra f) s.provider := by
      unfold StorageConfig.creates
      rw [hcontainer]
    constructor
    · simp only [Work.withConfig, Scene.after_provider] at ht
      rw [hgoal] at ht
      exact ht
    · show (Work.settle now ((takeCloud u.infra w.state.spec).creates
        ((takeCloud u.infra w.state.spec).completed u.infra f) s.provider)
        (w.withConfig ((takeCloud u.infra w.state.spec).completed u.infra f))).state = _
      rw [hgoal, hcreates]
      rfl

end Storage

/-! ## Runs of attempts -/

/-- What is said about the existence of the storage: the status, the reason and the message. -/
def StorageState.existence (state : StorageState) : Option (ConditionStatus × String × String) :=
  (Conditions.find? storageExistsKind state.conditions).map fun c => (c.status, c.reason, c.message)

/-- What was written last is what is said. -/
theorem Conditions.find?_update {now : Moment} {kind reason message : String}
    {status : ConditionStatus} (l : List Condition) :
    (Conditions.find? kind (Conditions.update now kind status reason message l)).map
      (fun c => (c.status, c.reason, c.message)) = some (status, reason, message) := by
  induction l with
  | nil => simp [update, find?]
  | cons c l ih =>
    by_cases hkind : c.kind = kind
    · simp [update, find?, hkind]
    · rw [update, if_neg hkind, find?, List.find?_cons_of_neg (by simpa using hkind)]
      exact ih

theorem StorageState.existence_report {state : StorageState} {now : Moment}
    {status : ConditionStatus} {reason : StorageReason} {message : String} :
    (state.report now status reason message).existence = some (status, reason.text, message) :=
  Conditions.find?_update state.conditions

/-- An attempt to create storage. -/
structure Attempt where
  fresh : Fresh
  now : Moment
  disturbance : Disturbance := []

/-- The invocation of an attempt. -/
def Attempt.turn (infra : Infrastructure) (a : Attempt) : Turn :=
  ⟨.create infra a.fresh, a.now, a.disturbance⟩

/-- The names that are chosen for a configuration with some draws are those of another one. -/
def StorageConfig.Chooses (infra : Infrastructure) (fresh : Fresh) (c c' : StorageConfig) : Prop :=
  c.accountFor infra fresh = c'.account ∧ c.containerFor infra fresh = c'.container

/-- Two worlds with the same resources, apart from the endpoint of the recorded storage and the address
of its account if they need not be the same, and with records that say the same. -/
structure World.Alike (exact : Prop) (w v : World) : Prop where
  provider : Inventory.Near exact w.state.spec w.scene.provider v.scene.provider
  spec : w.state.spec = v.state.spec
  status : w.state.status = v.state.status
  management : w.state.management = v.state.management
  existence : w.state.existence = v.state.existence

/-- **A run of attempts has converged.** The last attempt ended well. The names that were chosen are
names that were drawn, and a single attempt on the first world that draws the same names, and is
refused nothing, ends in the same way; with just the same resources, if the storage is such that it
is to be exact. -/
structure Converged (settings : Settings) (home : Scope) (infra : Infrastructure)
    (exact : StorageConfig → Prop) (first : World) (drawn : List Fresh)
    (last : Except Fault Unit × World) : Prop where
  ended : last.1 = .ok ()
  chosen : ∃ g, g.From drawn ∧ first.state.spec.Chooses infra g last.2.state.spec
  alike : ∀ g now, first.state.spec.Chooses infra g last.2.state.spec →
    let single := first.take settings home ⟨.create infra g, now, []⟩
    single.1 = .ok () ∧ last.2.Alike (exact last.2.state.spec) single.2

theorem Converged.mono {settings : Settings} {home : Scope} {infra : Infrastructure}
    {exact exact' : StorageConfig → Prop} {first : World} {drawn : List Fresh}
    {last : Except Fault Unit × World}
    (h : Converged settings home infra exact first drawn last) (he : ∀ c, exact' c → exact c) :
    Converged settings home infra exact' first drawn last := by
  refine ⟨h.ended, h.chosen, fun g now hchooses => ?_⟩
  obtain ⟨hsingle, halike⟩ := h.alike g now hchooses
  exact ⟨hsingle, halike.provider.mono (he _), halike.spec, halike.status, halike.management,
    halike.existence⟩

namespace World

variable {w : World} {attempts : List Attempt} {credentials : ClusterCredentials}

theorem onward_after (hc : u.settings.credentials = .ok (.cluster credentials))
    (hscope : credentials.scope = u.scope) (hhonest : ∀ a ∈ attempts, a.disturbance.Honest)
    (hdrawn : ∀ a ∈ attempts, a.fresh ∈ u.drawn) (hw : u.Onward w.state w.scene) :
    let v := w.after u.settings u.home (attempts.map (Attempt.turn u.infra))
    u.Onward v.state v.scene := by
  refine after_keeps (P := fun v => u.Onward v.state v.scene) (fun v hv t ht => ?_) hw
  obtain ⟨a, ha, rfl⟩ := List.mem_map.1 ht
  refine take_keeps (P := fun v => u.Onward v.state v.scene) (hhonest a ha) ?_
  exact Storage.create_onward hc hscope (.of_mem (hdrawn a ha)) rfl hv

/-- An attempt that is refused nothing comes to what it is said to come to. -/
theorem take_settles (hc : u.settings.credentials = .ok (.cluster credentials))
    (hscope : credentials.scope = u.scope) (hplain : w.scene.provider.Plain)
    (hpasses : w.state.spec.Passes u.settings u.infra)
    (hfits : u.site.Fits (w.state.spec.completed u.infra f) w.scene.provider)
    (hfree : w.state.spec.account = "" →
      w.scene.provider.isTaken (w.state.spec.accountFor u.infra f) = false) (now : Moment) :
    let o := u.site.outcome u.infra f w.state w.scene.provider
    let last := w.take u.settings u.home ⟨.create u.infra f, now, []⟩
    last.1 = .ok () ∧
      Inventory.Near (u.site.Matches o.config w.scene.provider) o.config last.2.scene.provider
        o.provider ∧
      last.2.state = w.state.settled now o := by
  intro o last
  let Q (v : World) : Prop :=
    Inventory.Near (u.site.Matches o.config w.scene.provider) o.config v.scene.provider o.provider ∧
      v.state = w.state.settled now o
  -- as an invocation this is `create_settles`, and a turn without refusals runs it
  have hsettles : (Storage.create u.settings u.infra f now).Ensures (Inventory.undisturbed u.home)
      ⟨w.state.spec, w.state⟩ w.scene (fun _ v t => Q ⟨v.state, t⟩) fun _ _ _ => False :=
    Storage.create_settles hc hscope rfl hplain hpasses hfits hfree
  have htake := take_undisturbed (t := ⟨.create u.infra f, now, []⟩) (Q := Q)
    (E := fun _ _ => False) rfl hsettles
  split at htake
  · rename_i hok
    exact ⟨hok, htake⟩
  · exact htake.elim

/-- Worlds that are settled in the same way are alike. -/
theorem alike_of_settled {v : World} {exact : Prop} {now later : Moment}
    {state state' : StorageState} {o p : Completion} (hconfig : o.config = p.config)
    (hmanagement : o.management = p.management)
    (hnear : Inventory.Near exact o.config w.scene.provider v.scene.provider)
    (hw : w.state = state.settled now o) (hv : v.state = state'.settled later p) :
    w.Alike exact v := by
  refine ⟨?_, ?_, ?_, ?_, ?_⟩
  · rw [hw]
    exact hnear
  · rw [hw, hv]
    exact hconfig
  · rw [hw, hv]
    exact congrArg some hconfig
  · rw [hw, hv]
    exact congrArg some hmanagement
  · rw [hw, hv]
    unfold StorageState.settled
    rw [StorageState.existence_report, StorageState.existence_report]

/-- **A run that is on the way has created nothing twice**, whether or not it goes on to converge. -/
theorem once_of_onward (hc : u.settings.credentials = .ok (.cluster credentials))
    (hscope : credentials.scope = u.scope) (hw : u.Onward w.state w.scene) {last : Fresh}
    (hlast : last ∈ u.drawn) (now : Moment) (k : Kind) :
    (w.take u.settings u.home ⟨.create u.infra last, now, []⟩).2.scene.journal.count k ≤ 1 := by
  have hend := take_keeps (P := fun v => u.Onward v.state v.scene)
    (t := ⟨.create u.infra last, now, []⟩) Disturbance.honest_nil
    (Storage.create_onward hc hscope (.of_mem hlast) rfl hw)
  cases k with
  | account => exact hend.account.le_one
  | container => exact hend.container.le_one
  | endpoint => exact hend.endpoint.le_one

/-- **A run that is on the way from where it started converges** with the first attempt that is
refused nothing, if the endpoint leads to an address. -/
theorem converged_of_onward (hc : u.settings.credentials = .ok (.cluster credentials))
    (hscope : credentials.scope = u.scope) (hreach : u.reaches)
    (hfirst : u.Onward u.record ⟨u.inventory, []⟩)
    (hw : u.Onward w.state w.scene) {last : Fresh} (hlast : last ∈ u.drawn) (now : Moment) :
    Converged u.settings u.home u.infra u.exact (.initial u.record u.inventory) u.drawn
      (w.take u.settings u.home ⟨.create u.infra last, now, []⟩) := by
  have hlast : last.From u.drawn := .of_mem hlast
  -- what the last attempt leads to is what some draws led to at the start
  obtain ⟨g, hg, halike⟩ := hw.leads last hlast
  have howned := hw.owned last hlast
  rw [← StorageConfig.completed_account] at howned
  obtain ⟨hok, hprovider, hstate⟩ := take_settles hc hscope hw.plain hw.passes
    ⟨howned, hw.reach hreach last hlast⟩ (fun hempty => hw.free hempty last hlast) now
  have hgoal : w.state.spec.completed u.infra last = u.record.spec.completed u.infra g :=
    halike.config
  have hspec : (w.take u.settings u.home ⟨.create u.infra last, now, []⟩).2.state.spec =
      u.record.spec.completed u.infra g := by
    rw [hstate]
    exact hgoal
  refine ⟨hok, ⟨g, hg, ?_, ?_⟩, fun h later hchooses => ?_⟩
  · rw [hspec, StorageConfig.completed_account]
    rfl
  · rw [hspec, StorageConfig.completed_container]
    rfl
  · -- the same names make the same configuration, and that decides everything
    obtain ⟨haccount, hcontainer⟩ := hchooses
    rw [hspec, StorageConfig.completed_account] at haccount
    rw [hspec, StorageConfig.completed_container] at hcontainer
    have hchosen : u.record.spec.completed u.infra h = u.record.spec.completed u.infra g :=
      StorageConfig.completed_congr haccount hcontainer
    have hsame : u.single h = u.single g := Site.outcome_congr hchosen rfl rfl rfl
    have hfits : u.site.Fits (u.record.spec.completed u.infra h) u.inventory := by
      have howned := hfirst.owned g hg
      rw [← StorageConfig.completed_account] at howned
      rw [hchosen]
      exact ⟨howned, hreach g hg⟩
    have hfree : u.record.spec.account = "" →
        u.inventory.isTaken (u.record.spec.accountFor u.infra h) = false := by
      intro hempty
      have haccount : u.record.spec.accountFor u.infra h = u.record.spec.accountFor u.infra g :=
        haccount
      rw [haccount]
      exact hfirst.free hempty g hg
    obtain ⟨hsingle, hinventory, hrecord⟩ := take_settles (f := h)
      (w := World.initial u.record u.inventory) hc hscope hfirst.plain hfirst.passes hfits hfree later
    have halike : (u.site.outcome u.infra last w.state w.scene.provider).Alike
        (u.exact (w.state.spec.completed u.infra last)) (u.single h) := hsame ▸ halike
    have hexact : u.exact (w.take u.settings u.home ⟨.create u.infra last, now, []⟩).2.state.spec →
        u.exact (w.state.spec.completed u.infra last) := by
      rw [hspec, hgoal]
      exact id
    have hconfig : u.record.spec.completed u.infra h = w.state.spec.completed u.infra last :=
      hchosen.trans hgoal.symm
    -- from the last attempt to what it comes to, on to what the single one comes to, and back to it
    have hback : Inventory.Near (u.exact (u.record.spec.completed u.infra h))
        (u.record.spec.completed u.infra h) _ (u.single h).provider := hinventory
    rw [hconfig] at hback
    have hnear := (hprovider.mono (hw.same last hlast)).trans (halike.provider.trans hback.symm)
    exact ⟨hsingle, alike_of_settled halike.config halike.management (hnear.mono hexact) hstate
      hrecord⟩

/-- What holds of the accounts that some draws name holds of all combinations of the draws: the serial
does not name accounts. -/
theorem accountFor_of_from {infra : Infrastructure} {c : StorageConfig} {drawn : List Fresh}
    {g : Fresh} (hg : g.From drawn) : ∃ f ∈ drawn, c.accountFor infra g = c.accountFor infra f := by
  obtain ⟨⟨f, hf, hdraws⟩, -⟩ := hg
  refine ⟨f, hf, ?_⟩
  unfold StorageConfig.accountFor
  rw [hdraws]

theorem converges_of_cluster {settings : Settings}
    (hc : settings.credentials = .ok (.cluster credentials)) (home : Scope) (infra : Infrastructure)
    (state : StorageState) (hpasses : state.spec.Passes settings infra) (inventory : Inventory)
    (hplain : inventory.Plain) (attempts : List Attempt)
    (hhonest : ∀ a ∈ attempts, a.disturbance.Honest) (last : Fresh) (now : Moment)
    (howned : state.spec.account ≠ "" → inventory.isTaken state.spec.account = true →
      inventory.has (.account state.spec.account) = true)
    (hfree : state.spec.account = "" → ∀ f ∈ last :: attempts.map Attempt.fresh,
      inventory.isTaken (state.spec.accountFor infra f) = false) :
    let site : Site := ⟨home, credentials.scope, infra.tags⟩
    let drawn := last :: attempts.map Attempt.fresh
    let w := (World.initial state inventory).after settings home (attempts.map (Attempt.turn infra))
    let ended := w.take settings home ⟨.create infra last, now, []⟩
    (∀ k, ended.2.scene.journal.count k ≤ 1) ∧
      ((∀ f ∈ drawn, site.Leads (state.spec.completed infra f) inventory) →
        Converged settings home infra (site.Matches · inventory) (.initial state inventory) drawn
          ended) := by
  intro site drawn w ended
  let u : Undertaking := ⟨settings, home, credentials.scope, infra, drawn, state, inventory⟩
  have hfree : state.spec.account = "" → ∀ g, g.From drawn →
      inventory.isTaken (state.spec.accountFor infra g) = false := by
    intro hempty g hg
    obtain ⟨f, hf, hsame⟩ : ∃ f ∈ drawn,
        state.spec.accountFor infra g = state.spec.accountFor infra f := accountFor_of_from hg
    rw [hsame]
    exact hfree hempty f hf
  have howned : ∀ g, g.From drawn → inventory.isTaken (state.spec.accountFor infra g) = true →
      inventory.has (.account (state.spec.accountFor infra g)) = true := by
    intro g hg htaken
    by_cases hempty : state.spec.account = ""
    · rw [hfree hempty g hg] at htaken
      cases htaken
    · rw [StorageConfig.accountFor_of_ne hempty] at htaken ⊢
      exact howned hempty htaken
  have hfirst : u.Onward u.record ⟨u.inventory, []⟩ :=
    ⟨hplain, hpasses, howned, fun hreach => hreach, fun _ _ hexact => hexact, hfree,
      fun g hg => ⟨g, hg, .refl⟩, Or.inl rfl, Or.inl rfl, Or.inl rfl, Or.inl rfl⟩
  have hdrawn : ∀ a ∈ attempts, a.fresh ∈ u.drawn := fun a ha =>
    List.mem_cons_of_mem _ (List.mem_map_of_mem ha)
  have hw : u.Onward w.state w.scene :=
    onward_after (u := u) (w := .initial state inventory) hc rfl hhonest hdrawn hfirst
  refine ⟨once_of_onward (u := u) hc rfl hw List.mem_cons_self now, fun hleads => ?_⟩
  have hreach : u.reaches := by
    intro g hg
    obtain ⟨f, hf, hsame⟩ : ∃ f ∈ drawn,
        state.spec.accountFor infra g = state.spec.accountFor infra f := accountFor_of_from hg
    refine (hleads f hf).congr ?_ ?_
    · rw [StorageConfig.completed_account, StorageConfig.completed_account, ← hsame]
    · unfold StorageConfig.completed
      rw [← hsame]
  exact converged_of_onward (u := u) hc rfl hreach hfirst hw List.mem_cons_self now

/-- Storage of the user's is taken over without a call. -/
theorem take_adopts {settings : Settings} {key : String}
    (hc : settings.credentials = .ok (.userManaged key)) (home : Scope) (infra : Infrastructure)
    (haccount : w.state.spec.account ≠ "") (hcontainer : w.state.spec.container ≠ "")
    {a : Attempt} (ha : a.disturbance.Honest) :
    (w.take settings home (a.turn infra)).1 = .ok () ∧
      (w.take settings home (a.turn infra)).2 =
        ⟨(Work.adopt a.now ⟨w.state.spec, w.state⟩).state, w.scene⟩ := by
  have htake := take_of_ensures (t := a.turn infra)
    (Q := fun v => v = ⟨(Work.adopt a.now ⟨w.state.spec, w.state⟩).state, w.scene⟩)
    (E := fun _ _ => False) ha
    ((Storage.create_adopts (R := Inventory.honest home) hc haccount hcontainer).2 rfl)
  split at htake
  · rename_i hok
    exact ⟨hok, htake⟩
  · exact htake.elim

theorem converges_of_key {settings : Settings} {key : String}
    (hc : settings.credentials = .ok (.userManaged key)) (home : Scope) (infra : Infrastructure)
    (state : StorageState) (haccount : state.spec.account ≠ "")
    (hcontainer : state.spec.container ≠ "") (inventory : Inventory) (attempts : List Attempt)
    (hhonest : ∀ a ∈ attempts, a.disturbance.Honest) (last : Fresh) (now : Moment)
    (exact : StorageConfig → Prop) :
    let drawn := last :: attempts.map Attempt.fresh
    let w := (World.initial state inventory).after settings home (attempts.map (Attempt.turn infra))
    let ended := w.take settings home ⟨.create infra last, now, []⟩
    (∀ k, ended.2.scene.journal.count k ≤ 1) ∧
      Converged settings home infra exact (.initial state inventory) drawn ended := by
  intro drawn w ended
  -- nothing is called, and once the owner is decided nothing but the time changes
  have hw : w.state.spec = state.spec ∧
      w.state.management.getD .unmanaged = state.management.getD .unmanaged ∧
        w.scene = ⟨inventory, []⟩ := by
    refine after_keeps (P := fun v : World => v.state.spec = state.spec ∧
      v.state.management.getD .unmanaged = state.management.getD .unmanaged ∧
        v.scene = ⟨inventory, []⟩) (fun v hv t ht => ?_) ⟨rfl, rfl, rfl⟩
    obtain ⟨a, ha, rfl⟩ := List.mem_map.1 ht
    obtain ⟨hspec, hmanagement, hscene⟩ := hv
    rw [(take_adopts hc home infra (hspec ▸ haccount) (hspec ▸ hcontainer) (hhonest a ha)).2]
    exact ⟨hspec, hmanagement, hscene⟩
  obtain ⟨hspec, hmanagement, hscene⟩ := hw
  obtain ⟨hok, hlast⟩ := take_adopts (a := ⟨last, now, []⟩) hc home infra (hspec ▸ haccount)
    (hspec ▸ hcontainer) Disturbance.honest_nil
  have hnames : ∀ g : Fresh, state.spec.Chooses infra g state.spec := fun g =>
    ⟨StorageConfig.accountFor_of_ne haccount, StorageConfig.containerFor_of_ne hcontainer⟩
  have hend : ended.2 = ⟨(Work.adopt now ⟨w.state.spec, w.state⟩).state, w.scene⟩ := hlast
  refine ⟨fun k => ?_, hok, ⟨last, .of_mem List.mem_cons_self, ?_⟩, fun g later _ => ?_⟩
  · rw [hend, hscene]
    exact Nat.zero_le 1
  · rw [hend]
    show state.spec.Chooses infra last w.state.spec
    rw [hspec]
    exact hnames last
  · obtain ⟨hsingle, hrecord⟩ := take_adopts (w := .initial state inventory) (a := ⟨g, later, []⟩)
      hc home infra haccount hcontainer Disturbance.honest_nil
    have hsingleEnd : ((World.initial state inventory).take settings home
        ⟨.create infra g, later, []⟩).2 = ⟨(Work.adopt later ⟨state.spec, state⟩).state,
          ⟨inventory, []⟩⟩ := hrecord
    refine ⟨hsingle, ?_⟩
    rw [hend, hsingleEnd]
    refine ⟨.of_eq (by rw [hscene]), hspec, congrArg some hspec, congrArg some hmanagement, ?_⟩
    unfold Work.adopt Work.report
    rw [StorageState.existence_report, StorageState.existence_report]

end World

/-! ## The theorem -/

/-- **Configurations that creating accepts**: with credentials of the cluster those that pass its
checks, and with a key of the user's those that name the account and the container. -/
def StorageConfig.Accepted (settings : Settings) (infra : Infrastructure) (c : StorageConfig) :
    StorageCredentials → Prop
  | .cluster _ => c.Passes settings infra
  | .userManaged _ => c.account ≠ "" ∧ c.container ≠ ""

/-- **Creating storage converges.** Whatever the attempts were that stopped on their way, nothing was
created twice. And if the endpoint leads to an address, then the attempt that is refused nothing
ends well, and what is there and what is recorded is what a single attempt would have left that
chose the same names, apart from an endpoint that was there before its account and would not be
created just so. Names that are drawn have to be free, and an account of the recorded name that is
taken has to be the subscription's own. -/
theorem creating_converges {settings : Settings} {credentials : StorageCredentials}
    (hc : settings.credentials = .ok credentials) (home : Scope) (infra : Infrastructure)
    (state : StorageState) (haccepted : state.spec.Accepted settings infra credentials)
    (inventory : Inventory) (hplain : inventory.Plain) (attempts : List Attempt)
    (hhonest : ∀ a ∈ attempts, a.disturbance.Honest) (last : Fresh) (now : Moment)
    (howned : state.spec.account ≠ "" → inventory.isTaken state.spec.account = true →
      inventory.has (.account state.spec.account) = true)
    (hfree : state.spec.account = "" → ∀ f ∈ last :: attempts.map Attempt.fresh,
      inventory.isTaken (state.spec.accountFor infra f) = false) :
    let drawn := last :: attempts.map Attempt.fresh
    let leads : Prop := ∀ cluster, credentials = .cluster cluster → ∀ f ∈ drawn,
      Site.Leads ⟨home, cluster.scope, infra.tags⟩ (state.spec.completed infra f) inventory
    let exact (c : StorageConfig) : Prop := ∀ cluster, credentials = .cluster cluster →
      Site.Matches ⟨home, cluster.scope, infra.tags⟩ c inventory
    let w := (World.initial state inventory).after settings home (attempts.map (Attempt.turn infra))
    let ended := w.take settings home ⟨.create infra last, now, []⟩
    (∀ k, ended.2.scene.journal.count k ≤ 1) ∧
      (leads → Converged settings home infra exact (.initial state inventory) drawn ended) := by
  intro drawn leads exact w ended
  cases credentials with
  | cluster cluster =>
    obtain ⟨honce, hconverged⟩ := World.converges_of_cluster hc home infra state haccepted inventory
      hplain attempts hhonest last now howned hfree
    exact ⟨honce, fun hleads =>
      (hconverged (hleads cluster rfl)).mono fun _ hexact => hexact cluster rfl⟩
  | userManaged key =>
    obtain ⟨honce, hconverged⟩ := World.converges_of_key hc home infra state haccepted.1 haccepted.2
      inventory attempts hhonest last now exact
    exact ⟨honce, fun _ => hconverged⟩

/-- An attempt that is refused the zone is left with an account and an endpoint, and the next one
goes on from there. As there was no endpoint before, the same is there as after a single attempt. -/
theorem creating_converges_after_refusal :
    let home := clusterSettings.cluster.scope
    let infra : Infrastructure := ⟨"mycluster", none⟩
    let site : Site := ⟨home, home, infra.tags⟩
    let network : InternalNetwork := { vnet := "vnet", subnet := "subnet" }
    let state : StorageState := { spec := { network := .internal network } }
    let attempts : List Attempt :=
      [⟨⟨⟨[], 0⟩, 0⟩, default, [none, none, none, none, some (.api "refused")]⟩]
    let last : Fresh := ⟨⟨[1], 0⟩, 1⟩
    let drawn := last :: attempts.map Attempt.fresh
    let w := (World.initial state {}).after clusterSettings home (attempts.map (Attempt.turn infra))
    let ended := w.take clusterSettings home ⟨.create infra last, default, []⟩
    state.spec.Passes clusterSettings infra ∧ (∀ a ∈ attempts, a.disturbance.Honest) ∧
      (∀ f ∈ drawn, site.Leads (state.spec.completed infra f) {}) ∧ (∀ c, site.Matches c {}) ∧
      w.scene.journal.count .endpoint = 1 ∧ (∀ k, ended.2.scene.journal.count k ≤ 1) ∧
      Converged clusterSettings home infra (fun _ => True) (.initial state {}) drawn ended := by
  intro home infra site network state attempts last drawn w ended
  have hpasses : state.spec.Passes clusterSettings infra :=
    ⟨by decide, rfl, ⟨_, rfl⟩, Or.inl rfl, Or.inl rfl⟩
  have hplain : ({} : Inventory).Plain := ⟨rfl, nofun, nofun⟩
  have hhonest : ∀ a ∈ attempts, a.disturbance.Honest := by decide
  let named (f : Fresh) : InternalNetwork :=
    Isolation.nameEndpoint (state.spec.accountFor infra f) network
  have hmade : ∀ f ∈ drawn, ∃ address,
      (Inventory.addEndpoint {} (site.request (state.spec.completed infra f) (named f))).address? home
        (named f).endpoint = some address := by
    intro f hf
    refine ⟨Inventory.firstAddress, ?_⟩
    revert f
    decide +kernel
  have hleads : ∀ f ∈ drawn, site.Leads (state.spec.completed infra f) {} := by
    intro f hf
    have hnetwork : (state.spec.completed infra f).network = .internal (named f) := rfl
    refine ⟨fun network _ hthere => ?_, fun network hn _ => ?_⟩
    · cases hthere
    · obtain rfl := NetworkAccess.internal.inj (hnetwork.symm.trans hn)
      exact hmade f hf
  have hmatches : ∀ c, site.Matches c {} := by
    intro c network _ _ hthere
    cases hthere
  have hcount : w.scene.journal.count .endpoint = 1 := by decide +kernel
  have h := creating_converges clusterSettings_credentials home infra state hpasses {} hplain attempts
    hhonest last default (fun hne => absurd rfl hne) fun _ _ _ => rfl
  have hconverged : Converged clusterSettings home infra (fun _ => True) (.initial state {}) drawn
      ended := by
    refine (h.2 ?_).mono ?_
    · rintro _ ⟨⟩
      exact hleads
    · rintro c - _ ⟨⟩
      exact hmatches c
  refine ⟨hpasses, hhonest, hleads, hmatches, hcount, ?_, hconverged⟩
  -- the runs are put in place of their names, or Lean would run them to compare the two sides
  subst ended w
  exact h.1

/-- **An endpoint that was there before its account** is kept by an interrupted run, and would be
replaced by a single attempt. And one that leads to no address is in the way of every attempt. -/
theorem interrupted_run_keeps_endpoint :
    let home := clusterSettings.cluster.scope
    let infra : Infrastructure := ⟨"mycluster", none⟩
    let network (endpoint : String) : InternalNetwork :=
      { vnet := "vnet", subnet := "subnet", endpoint := endpoint }
    let state (endpoint : String) : StorageState :=
      { spec :=
          { account := "acct1", container := "images", network := .internal (network endpoint) } }
    let inventory : Inventory :=
      { endpoints :=
          .ofList [("pe1", { request := Isolation.endpointRequest home "acct0" {} (network "pe1") })] }
    let refused : Turn :=
      ⟨.create infra default, default, [none, none, none, some (.api "refused")]⟩
    let clean : Turn := ⟨.create infra default, default, []⟩
    let first := World.initial (state "pe1") inventory
    let interrupted := (first.after clusterSettings home [refused]).take clusterSettings home clean
    let single := first.take clusterSettings home clean
    let astray := (World.initial (state "pe/1") {}).take clusterSettings home clean
    (∀ endpoint, (state endpoint).spec.Passes clusterSettings infra) ∧ inventory.Plain ∧
      refused.Honest ∧ inventory.isTaken "acct1" = false ∧
      interrupted.1.isOk = true ∧ single.1.isOk = true ∧
      interrupted.2.state.spec = single.2.state.spec ∧
      interrupted.2.scene.provider ≠ single.2.scene.provider ∧ astray.1.isOk = false := by
  intro home infra network state inventory refused clean first interrupted single astray
  have hpasses : ∀ endpoint, (state endpoint).spec.Passes clusterSettings infra := by
    intro endpoint
    have haccount : Naming.isAccountName "acct1" = true := by decide
    have hcontainer : Naming.isContainerName "images" = true := by decide
    exact ⟨by decide, rfl, ⟨_, rfl⟩, Or.inr haccount, Or.inr hcontainer⟩
  have hplain : inventory.Plain := by
    refine ⟨rfl, nofun, fun n e he => ?_⟩
    obtain ⟨rfl, rfl⟩ | he := Dict.get?_insert_cases he
    · rfl
    · cases he
  have hends : inventory.isTaken "acct1" = false ∧ interrupted.1.isOk = true ∧
      single.1.isOk = true ∧ interrupted.2.state.spec = single.2.state.spec ∧
        interrupted.2.scene.provider ≠ single.2.scene.provider ∧ astray.1.isOk = false := by
    decide +kernel
  exact ⟨hpasses, hplain, by decide, hends⟩

end RegistryStorage
