import RegistryStorage.Proofs.Ownership
import RegistryStorage.Proofs.Seclusion

/-!
The account that an endpoint leads to.

An endpoint is created for one account and connects to it as long as it exists. The record names an
account and an endpoint, and nothing in it says that they belong together: an endpoint that is there
is looked up by its name alone, and DNS is then configured for the recorded account with the address
of that endpoint. So when the name of the account is edited the endpoint may be left behind.

What an endpoint connects to is a matter of history: it is the account for which the last endpoint
of the name was created (`Journal.target?`). An invocation that ends well creates the endpoint exactly
if it found the account or the endpoint missing, and otherwise leaves it connected to what it was
connected to before (`endpoint_connected_iff`). In particular an account that was there already gets
the endpoint of the one that the record named before (`renamed_account_keeps_endpoint`).
-/

set_option autoImplicit false

namespace RegistryStorage

open Isolation (zone)
open Storage (takeCloud accountNamed)

/-! ## What an endpoint connects to -/

/-- The identifier of the account that the endpoint of a name connects to. -/
def Inventory.target? (i : Inventory) (name : String) : Option String :=
  (i.endpoints.get? name).map (·.request.target)

/-- What the endpoint of a name connects to once a call is granted, if the call is about that:
an account, or nothing. -/
def Call.connects? (name : String) : Call → Option (Option String)
  | createEndpoint r => if name = r.name then some (some r.target) else none
  | deleteEndpoint n => if name = n then some none else none
  | _ => none

/-- What the endpoint of a name connects to as the calls of a run say, if any of them is about
that. The last one decides. -/
def Journal.target? (name : String) (j : Journal) : Option (Option String) :=
  j.findSome? fun e => if e.fault = none then e.call.connects? name else none

/-- A granted call changes what an endpoint connects to as the call says. -/
theorem Inventory.reply_target {home : Scope} {i t : Inventory} {c : Call} {x : c.Answer}
    (h : reply home c i = (.ok x, t)) (name : String) :
    t.target? name = (c.connects? name).getD (i.target? name) := by
  cases c <;> simp only [reply] at h <;> try split at h
  all_goals cases h
  all_goals try rfl
  case createEndpoint r =>
    unfold target? addEndpoint
    by_cases hname : name = r.name
    · simp [Call.connects?, hname, Dict.get?_insert_self, newEndpoint]
    · simp [Call.connects?, hname, Dict.get?_insert_of_ne]
  case deleteEndpoint.isTrue n _ =>
    unfold target?
    rw [Dict.get?_erase]
    by_cases hname : name = n
    · simp [Call.connects?, hname, Std.ReflCmp.compare_self]
    · have hne : compare name n ≠ .eq := fun h => hname (Std.LawfulEqCmp.eq_of_compare h)
      simp [Call.connects?, hname, hne]

/-- What endpoints connect to is what the calls since some contents say. -/
def Scene.Tracks (i : Inventory) (s : Scene Inventory) : Prop :=
  ∀ name, s.provider.target? name = (s.journal.target? name).getD (i.target? name)

/-- Every call, granted or refused, keeps it so. -/
theorem Scene.Tracks.kept {home : Scope} {i : Inventory} (c : Call) (s : Scene Inventory)
    (reply : Reply c) (t : Scene Inventory) (h : Inventory.honest home c s reply t)
    (hs : s.Tracks i) : t.Tracks i := by
  have hrefused : ∀ f, (s.after c (some f) s.provider).Tracks i := fun f name => hs name
  obtain ⟨u, hu | ⟨f, -, rfl, rfl⟩, rfl⟩ := h
  · cases reply with
    | error f =>
      obtain rfl := Inventory.reply_refused hu
      exact hrefused f
    | ok x =>
      intro name
      rw [Scene.after_provider, Inventory.reply_target hu, hs name, faultOf_ok,
        Scene.after_journal]
      -- the last call that is about the endpoint decides, and this call is the last
      cases hc : c.connects? name with
      | none => simp [Journal.target?, hc]
      | some target => simp [Journal.target?, hc]
  · exact hrefused f

/-! ## What an invocation finds and leaves -/

section Finding

variable {home scope : Scope} {s : Scene Inventory} {c : StorageConfig} {infra : Infrastructure}
variable {fresh : Fresh}

/-- The identifier by which endpoints know an account. -/
abbrev Scope.accountId (scope : Scope) (account : String) : String :=
  ResourceId.storageAccount scope.subscription scope.resourceGroup account

/-- The calls that leave accounts and endpoints as they are. -/
def Call.Aside : Call → Prop
  | createAccount _ | setAccess .. | deleteAccount _ => False
  | createEndpoint _ | deleteEndpoint _ => False
  | _ => True

/-- The accounts and the endpoints that there are. -/
structure Holding (accounts : Dict String StoredAccount) (endpoints : Dict String StoredEndpoint)
    (s : Scene Inventory) : Prop where
  accounts : s.provider.accounts = accounts
  endpoints : s.provider.endpoints = endpoints

variable {accounts : Dict String StoredAccount} {endpoints : Dict String StoredEndpoint}

theorem Holding.keeps {d : Call} (hd : d.Aside) :
    Action.Keeps (Inventory.honest home) (Holding accounts endpoints) (Action.perform d) := by
  intro s hs
  refine Inventory.ensures_perform (fun x t hreply => ?_) fun f _ => ⟨hs.accounts, hs.endpoints⟩
  cases d <;> simp only [Inventory.reply] at hreply <;> try split at hreply
  all_goals first
    | exact hd.elim
    | cases hreply
  all_goals exact ⟨hs.accounts, hs.endpoints⟩

/-- Calls about accounts and containers leave the endpoints as they are. -/
theorem Call.OfStorage.keeps_endpoints {d : Call} (hd : d.OfStorage) :
    Action.Keeps (Inventory.honest home) (fun s => s.provider.endpoints = endpoints)
      (Action.perform d) := by
  intro s hs
  refine Inventory.ensures_perform (fun x t hreply => ?_) fun f _ => hs
  cases d <;> simp only [Inventory.reply] at hreply <;> try split at hreply
  all_goals first
    | exact hd.elim
    | cases hreply
  all_goals exact hs

/-- **An account that is new was missing**, and one that is not was left as it is. -/
theorem Assure.account_finds {environment : CloudEnvironment} (hplain : s.provider.Plain) :
    (account scope environment c infra fresh).Ensures (Inventory.honest home) s
      (fun a t => t.provider.endpoints = s.provider.endpoints ∧
        if a.created then s.provider.has (.account a.name) = false
        else t.provider.accounts = s.provider.accounts)
      fun _ _ => True := by
  rw [account_ensures]
  refine ⟨fun _ _ => trivial, fun name generated _ => ?_⟩
  refine Inventory.ensures_perform (fun availability t hreply => ?_) fun _ _ => trivial
  obtain ⟨hanswer, rfl⟩ := Prod.mk.inj hreply
  obtain rfl := Except.ok.inj hanswer
  rw [hplain.available]
  split
  · rename_i hfree
    have hgone : s.provider.has (.account name) = false :=
      Inventory.contains_of_free (by simpa using hfree)
    refine Inventory.ensures_perform (fun account u hcreate => ?_) fun _ _ => trivial
    obtain ⟨-, rfl⟩ := Prod.mk.inj hcreate
    exact ⟨rfl, hgone⟩
  · split
    · trivial
    · exact ⟨rfl, rfl⟩

/-- Where the account of a step is there in the end, it was missing exactly if it was created. -/
theorem Assured.created_iff {a : Assured} {t u : Scene Inventory}
    (hfound : if a.created then s.provider.has (.account a.name) = false
      else t.provider.accounts = s.provider.accounts)
    (hkept : u.provider.accounts = t.provider.accounts)
    (hthere : u.provider.has (.account a.name) = true) :
    a.created = true ↔ s.provider.has (.account a.name) = false := by
  cases hc : a.created with
  | true =>
    rw [hc] at hfound
    simpa using hfound
  | false =>
    rw [hc] at hfound
    have hstill : u.provider.accounts = s.provider.accounts := hkept.trans hfound
    rw [Inventory.has, hstill] at hthere
    simp [Inventory.has, hthere]

section Opening

variable {network : InternalNetwork} {account : String} {tags : Tags}

theorem Isolation.configureDns_holds {endpoint : Endpoint} {vnet group : String} :
    Action.Keeps (Inventory.honest home) (Holding accounts endpoints)
      (configureDns scope endpoint vnet group account tags) :=
  configureDns_keeps_of (Holding.keeps trivial) (fun _ => Holding.keeps trivial)
    (fun _ => Holding.keeps trivial) (Holding.keeps trivial) (Holding.keeps trivial)

/-- An endpoint that is created connects to the account that it is created for. -/
theorem Isolation.configure_connects :
    (configure scope account tags network).Ensures (Inventory.honest home) s
      (fun _ t => t.provider.accounts = s.provider.accounts ∧
        t.provider.target? network.endpoint = some (scope.accountId account))
      fun _ _ => True := by
  refine (Action.ensures_bind _).2 ?_
  refine Inventory.ensures_perform (fun endpoint t hreply => ?_) fun _ _ => trivial
  have htarget : t.target? network.endpoint = some (scope.accountId account) := by
    rw [Inventory.reply_target hreply]
    simp [Call.connects?, endpointRequest]
  obtain ⟨-, rfl⟩ := Prod.mk.inj hreply
  refine (Action.ensures_bind _).2 ?_
  refine (configureDns_holds (s.after _ none _) ⟨rfl, rfl⟩).mono ?_ fun _ _ _ => trivial
  rintro - u ⟨haccounts, hendpoints⟩
  refine ⟨haccounts, ?_⟩
  unfold Inventory.target? at htarget ⊢
  rw [hendpoints]
  exact htarget

/-- **Private access connects the endpoint to the account if the account is new or the endpoint is
missing**, and leaves it connected to what it is connected to if both are there. -/
theorem Assure.privateNetwork_connects {a : Assured} :
    (privateNetwork scope infra a network).Ensures (Inventory.honest home) s
      (fun _ t => t.provider.accounts = s.provider.accounts ∧
        t.provider.target? network.endpoint =
          if a.created = true ∨ s.provider.has (.endpoint network.endpoint) = false
          then some (scope.accountId a.name) else s.provider.target? network.endpoint)
      fun _ _ => True := by
  rw [privateNetwork_ensures]
  split
  · rename_i hcreated
    rw [if_pos (Or.inl hcreated)]
    exact Isolation.configure_connects
  · rename_i hold
    refine Inventory.ensures_perform (fun endpoint t hreply => ?_) fun f hf => ?_
    · obtain ⟨stored, hstored, -, rfl⟩ := Inventory.reply_endpoint hreply
      have hthere : s.provider.has (.endpoint network.endpoint) = true :=
        Dict.contains_of_get? hstored
      refine (Isolation.configureDns_holds (s.after _ none s.provider) ⟨rfl, rfl⟩).mono ?_
        fun _ _ _ => trivial
      rintro - u ⟨haccounts, hendpoints⟩
      refine ⟨haccounts, ?_⟩
      rw [if_neg (by simp [hold, hthere])]
      unfold Inventory.target?
      rw [hendpoints]
      rfl
    · split
      · rename_i hnot
        obtain ⟨t, hreply⟩ := hf hnot
        have hgone : s.provider.has (.endpoint network.endpoint) = false :=
          Inventory.reply_missing rfl hreply
        rw [if_pos (Or.inr hgone)]
        exact Isolation.configure_connects
      · trivial

end Opening

end Finding

/-! ## An invocation that ends well -/

/-- What an invocation that ended well leaves of the endpoint that a configuration names, compared
with what it found. -/
structure Reconnected (scope : Scope) (found : Inventory) (c : StorageConfig) (left : Inventory) :
    Prop where
  endpoint : ∃ network, c.network = .internal network ∧
    c.network.endpoint? = some network.endpoint ∧
    left.target? network.endpoint =
      if found.has (.account c.account) = false ∨ found.has (.endpoint network.endpoint) = false
      then some (scope.accountId c.account) else found.target? network.endpoint

namespace Storage

variable {home : Scope} {s : Scene Inventory} {w : Work} {now : Moment} {settings : Settings}
variable {credentials : ClusterCredentials} {infra : Infrastructure} {fresh : Fresh}

theorem furnish_reconnects {scope : Scope} {environment : CloudEnvironment}
    (hplain : s.provider.Plain) (hinternal : w.config.network.isInternal = true) :
    (furnish scope environment infra fresh now).Ensures (Inventory.honest home) w s
      (fun _ v t => Reconnected scope s.provider v.state.spec t.provider) fun _ _ _ => True := by
  rw [furnish_ensures]
  refine (Assure.account_finds hplain).mono ?_ fun _ _ _ => trivial
  rintro account t ⟨hendpoints, hfound⟩
  let c := accountNamed account.name w.config
  have haccount : c.account = account.name := StorageConfig.accountNamed_account ..
  obtain ⟨network, hnetwork⟩ : ∃ network, c.network = .internal network := by
    refine NetworkAccess.exists_of_isInternal ?_
    rwa [StorageConfig.accountNamed_isInternal]
  have hopen : (openPrivately scope infra account c).Ensures (Inventory.honest home) t
      (fun _ u => u.provider.accounts = t.provider.accounts ∧
        u.provider.target? network.endpoint =
          if account.created = true ∨ t.provider.has (.endpoint network.endpoint) = false
          then some (scope.accountId account.name) else t.provider.target? network.endpoint)
      fun _ _ => True := by
    unfold openPrivately
    rw [hnetwork]
    exact Assure.privateNetwork_connects
  refine hopen.mono ?_ fun _ _ _ => trivial
  rintro - u ⟨haccounts, htarget⟩
  -- from here on the endpoints stay as they are
  have hkeeps : ∀ d : Call, d.OfStorage → Action.Keeps (Inventory.honest home)
      (fun s => s.provider.endpoints = u.provider.endpoints) (Action.perform d) :=
    fun _ hd => hd.keeps_endpoints
  have hcontainer : Action.Keeps (Inventory.honest home)
      (fun s => s.provider.endpoints = u.provider.endpoints) (Assure.container c infra fresh) :=
    Assure.container_keeps_of (hkeeps _ trivial) (fun _ _ => hkeeps _ trivial) fun _ _ =>
      hkeeps _ trivial
  refine ((hcontainer u rfl).and Assure.container_finds).mono ?_ fun _ _ _ => trivial
  rintro container v ⟨hv, hthere⟩
  refine (closePublicly_keeps_of (hkeeps _ trivial) (hkeeps _ trivial) v hv).mono ?_
    fun _ _ _ => trivial
  intro _ x hx
  refine ⟨network, hnetwork, StorageConfig.accountNamed_endpoint hnetwork, ?_⟩
  have hleft : x.provider.target? network.endpoint = u.provider.target? network.endpoint := by
    unfold Inventory.target?
    rw [hx]
  have hsame : t.provider.target? network.endpoint = s.provider.target? network.endpoint ∧
      t.provider.has (.endpoint network.endpoint) =
        s.provider.has (.endpoint network.endpoint) := by
    unfold Inventory.target? Inventory.has
    rw [hendpoints]
    exact ⟨rfl, rfl⟩
  have hcreated : account.created = true ↔ s.provider.has (.account c.account) = false := by
    rw [haccount] at hthere ⊢
    exact Assured.created_iff hfound haccounts hthere
  rw [hleft, htarget, hsame.1, hsame.2]
  have hid : scope.accountId account.name = scope.accountId c.account :=
    congrArg scope.accountId haccount.symm
  exact if_congr (or_congr_left hcreated) (congrArg some hid) rfl

theorem create_reconnects (hc : settings.credentials = .ok (.cluster credentials))
    (hplain : s.provider.Plain) (hinternal : w.config.network.isInternal = true) :
    (create settings infra fresh now).Ensures (Inventory.honest home) w s
      (fun _ v t => Reconnected credentials.scope s.provider v.state.spec t.provider)
      fun _ _ _ => True := by
  rw [create_ensures hc, provision_ensures]
  refine ⟨fun _ => trivial, fun _ => ⟨fun _ _ => trivial, fun _ => ⟨fun _ _ => trivial, ?_⟩⟩⟩
  intro environment _
  refine Inventory.ensures_perform (fun _ i hreply => ?_) fun _ _ => trivial
  obtain rfl := (Prod.mk.inj hreply).2
  exact furnish_reconnects (w := w.withConfig (takeCloud infra w.config)) hplain
    ((congrArg NetworkAccess.isInternal (StorageConfig.takeCloud_network infra w.config)).trans
      hinternal)

end Storage

/-- What a turn leaves of the endpoint if it ends well. -/
theorem World.take_reconnects {home : Scope} {w v : World} {settings : Settings}
    {credentials : ClusterCredentials} {infra : Infrastructure} {fresh : Fresh} {now : Moment}
    {d : Disturbance} (hc : settings.credentials = .ok (.cluster credentials)) (hd : d.Honest)
    (hplain : w.scene.provider.Plain) (hinternal : w.state.spec.network.isInternal = true)
    (hended : w.take settings home ⟨.create infra fresh, now, d⟩ = (.ok (), v)) :
    Reconnected credentials.scope w.scene.provider v.state.spec v.scene.provider := by
  have hcreate : (Storage.create settings infra fresh now).Ensures (Inventory.honest home)
      ⟨w.state.spec, w.state⟩ w.scene
      (fun _ v t => Reconnected credentials.scope w.scene.provider v.state.spec t.provider)
      fun _ _ _ => True := Storage.create_reconnects hc hplain hinternal
  exact take_ended (P := fun f => f.isNotFound = false)
    (Q := fun v => Reconnected credentials.scope w.scene.provider v.state.spec v.scene.provider)
    hended hd hcreate

/-! ## The theorem -/

/-- **What the recorded endpoint is connected to**, after every history with edits and refusals and
an invocation that ended well. The address record of the account leads to the endpoint, and the
endpoint is connected to the account for which the last endpoint of the name was created. That is
the recorded account exactly if the invocation found the account or the endpoint missing, or the
endpoint was connected to it already. -/
theorem endpoint_connected_iff {settings : Settings} {credentials : ClusterCredentials}
    (hc : settings.credentials = .ok (.cluster credentials)) (home : Scope) (state : StorageState)
    (inventory : Inventory) (hplain : inventory.Plain) (moves : List Move)
    (hhonest : ∀ m ∈ moves, m.Honest) (infra : Infrastructure) (fresh : Fresh) (now : Moment)
    (d : Disturbance) (hd : d.Honest) (v : World) :
    let w := (World.initial state inventory).moved settings home moves
    w.state.spec.network.isInternal = true →
    w.take settings home ⟨.create infra fresh, now, d⟩ = (.ok (), v) →
    let account := v.state.spec.account
    let target := some (credentials.scope.accountId account)
    ∃ endpoint, v.state.spec.network.endpoint? = some endpoint ∧
      (∃ address, v.scene.provider.address? home endpoint = some address ∧
        v.scene.provider.aRecords.get? (zone, account) = some address) ∧
      v.scene.provider.target? endpoint =
        (v.scene.journal.target? endpoint).getD (inventory.target? endpoint) ∧
      (v.scene.provider.target? endpoint = target ↔
        w.scene.provider.has (.account account) = false ∨
          w.scene.provider.has (.endpoint endpoint) = false ∨
          w.scene.provider.target? endpoint = target) := by
  intro w hinternal hended account target
  have hwplain : w.scene.provider.Plain := World.moved_plain hplain hhonest
  have hhistory : w.scene.Tracks inventory :=
    World.moved_keeps Scene.Tracks.kept (fun _ => rfl) hhonest
  have htracks : v.scene.Tracks inventory := by
    rw [← (Prod.mk.inj hended).2]
    exact World.take_keeps (P := fun v => v.scene.Tracks inventory)
      (t := ⟨.create infra fresh, now, d⟩) hd
        (Invocation.Ensures.of_kept Scene.Tracks.kept hhistory)
  have hsecluded := World.take_secludes hc hwplain hinternal hended
  have hreconnected := World.take_reconnects hc hd hwplain hinternal hended
  obtain ⟨network, hnetwork, hname, hreachable⟩ := hsecluded.reachable
  obtain ⟨network', hnetwork', -, htarget⟩ := hreconnected.endpoint
  obtain rfl : network = network' := NetworkAccess.internal.inj (hnetwork.symm.trans hnetwork')
  refine ⟨network.endpoint, hname, hreachable.address, htracks _, ?_⟩
  rw [htarget, ← or_assoc]
  split
  · rename_i hmissing
    exact ⟨fun _ => Or.inl hmissing, fun _ => rfl⟩
  · rename_i hthere
    exact ⟨Or.inr, fun h => h.resolve_left hthere⟩

/-- The record is renamed to an account that does not exist yet, and the endpoint goes along. -/
theorem fresh_account_takes_endpoint :
    let spec : StorageConfig :=
      { account := "acct1", container := "images",
        network := .internal { vnet := "vnet", subnet := "subnet" } }
    let renamed : StorageConfig :=
      { account := "acct2", container := "images",
        network := .internal { vnet := "vnet", subnet := "subnet", endpoint := "acct1-pe" } }
    let home := clusterSettings.cluster.scope
    let order : Turn := ⟨.create ⟨"mycluster", none⟩ ⟨⟨[], 0⟩, 0⟩, default, []⟩
    let moves : List Move := [.turn order, .edit renamed]
    let w := (World.initial { spec := spec } {}).moved clusterSettings home moves
    (∀ m ∈ moves, m.Honest) ∧ w.state.spec.network.isInternal = true ∧
      ∃ v, w.take clusterSettings home order = (.ok (), v) ∧
        ∃ endpoint, v.state.spec.network.endpoint? = some endpoint ∧
          v.scene.provider.target? endpoint = some (home.accountId v.state.spec.account) := by
  intro spec renamed home order moves w
  have hplain : Inventory.Plain {} :=
    ⟨rfl, fun _ _ h => (by cases h), fun _ _ h => by cases h⟩
  have hhonest : ∀ m ∈ moves, m.Honest := by
    rintro m hm
    obtain rfl | hm := List.mem_cons.1 hm
    · exact Disturbance.honest_nil
    · rw [List.mem_singleton.1 hm]
      trivial
  have hinternal : w.state.spec.network.isInternal = true := rfl
  obtain ⟨v, hended, haccount, hgone⟩ : ∃ v, w.take clusterSettings home order = (.ok (), v) ∧
      v.state.spec.account = "acct2" ∧ w.scene.provider.has (.account "acct2") = false :=
    ⟨_, Prod.ext (by decide +kernel) rfl, by decide +kernel, by decide +kernel⟩
  obtain ⟨endpoint, hname, -, -, hiff⟩ := endpoint_connected_iff clusterSettings_credentials home
    { spec := spec } {} hplain moves hhonest ⟨"mycluster", none⟩ ⟨⟨[], 0⟩, 0⟩ default []
    Disturbance.honest_nil v hinternal hended
  refine ⟨hhonest, hinternal, v, hended, endpoint, hname, hiff.2 (Or.inl ?_)⟩
  rw [haccount]
  exact hgone

/-- **The record is renamed to an account that is there, and the endpoint stays behind.** The
invocation ends well: the address record of the new account leads to the endpoint of the old one,
and the new account is closed to the public. -/
theorem renamed_account_keeps_endpoint :
    let inventory : Inventory := { accounts := .ofList [("acct2", .named "acct2")] }
    let spec : StorageConfig :=
      { account := "acct1", container := "images",
        network := .internal { vnet := "vnet", subnet := "subnet" } }
    let home := clusterSettings.cluster.scope
    let order : Turn := ⟨.create ⟨"mycluster", none⟩ ⟨⟨[], 0⟩, 0⟩, default, []⟩
    let start := World.initial { spec := spec } inventory
    let first := start.take clusterSettings home order
    let second := (start.moved clusterSettings home
      [.turn order, .edit { first.2.state.spec with account := "acct2" }]).take clusterSettings
        home order
    first.1 = .ok () ∧ second.1 = .ok () ∧
      second.2.state.spec.account = "acct2" ∧
      second.2.state.spec.network.endpoint? = some "acct1-pe" ∧
      second.2.scene.provider.target? "acct1-pe" = some (home.accountId "acct1") ∧
      home.accountId "acct1" ≠ home.accountId "acct2" ∧
      second.2.scene.provider.aRecords.get? (zone, "acct2") =
        second.2.scene.provider.address? home "acct1-pe" ∧
      (second.2.scene.provider.accounts.get? "acct2").map (·.access) = some (some .disabled) := by
  decide +kernel

end RegistryStorage
