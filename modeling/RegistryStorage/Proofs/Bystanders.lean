import RegistryStorage.Proofs.Footprint
import RegistryStorage.Proofs.Ownership
import RegistryStorage.Proofs.Seclusion

/-!
What an operation leaves alone.

A configuration has a footprint of its own: its account and its endpoint. Looking at storage changes
nothing. Creating storage deletes nothing (`Inventory.Grown`) and removing it puts nothing in place
(`Inventory.Shrunk`), and both leave alone whatever is not of the footprint: of the configuration
with all its names chosen in the one case, of the configuration as it was recorded in the other. It
does not matter what else there is, nor which calls are refused and with what fault
(`bystanders_are_left_alone`).

All names but one that a call bears are names of the configuration. The zone group is put on the
endpoint under the name that the provider gives it, so an endpoint has to give its own
(`Inventory.Candid`).
-/

set_option autoImplicit false

namespace RegistryStorage

open Isolation (zone zoneGroup)
open Storage (takeCloud accountNamed)

/-! ## What belongs to a configuration -/

/-- The names of what belongs to the storage of a configuration. -/
def StorageConfig.footprint (c : StorageConfig) : Footprint where
  accounts := if c.account = "" then [] else [c.account]
  endpoints := c.network.endpoint?.toList

/-- A call of putting in place the storage that a configuration names. -/
def Call.Furnishes (c : StorageConfig) : Call → Prop
  | clients .. | getInterface _ => True
  | checkName n | getAccount n | setAccess n _ | listKeys n => n = c.account
  | createAccount r => r.name = c.account
  | containerExists a _ _ | createContainer a _ _ => a = c.account
  | getEndpoint e | putZoneGroup e _ _ => c.network.endpoint? = some e
  | createEndpoint r => c.network.endpoint? = some r.name
  | putZone z _ _ => z = zone
  | putARecord _ n _ _ => n = c.account
  | putLink r => r.link = c.account
  | _ => False

namespace StorageConfig

variable {c : StorageConfig} {d : Call} {e : String}

theorem mem_footprint_accounts (h : c.account ≠ "") : c.account ∈ c.footprint.accounts := by
  simp [footprint, h]

theorem mem_footprint_endpoints (h : c.network.endpoint? = some e) :
    e ∈ c.footprint.endpoints := by
  simp [footprint, h]

end StorageConfig

namespace Call

variable {c : StorageConfig} {d : Call}

theorem Furnishes.inside (hd : d.Furnishes c) (hc : c.account ≠ "") : d.Inside c.footprint := by
  have haccount := StorageConfig.mem_footprint_accounts hc
  cases d
  all_goals refine ⟨?_, ?_⟩ <;> rintro n ⟨⟩
  all_goals first
    | exact hd ▸ haccount
    | exact StorageConfig.mem_footprint_endpoints hd
    | exact hd.elim

theorem Dismantles.inside (hd : d.Dismantles c) (hc : c.account ≠ "") : d.Inside c.footprint := by
  have haccount := StorageConfig.mem_footprint_accounts hc
  cases d with
  | deleteContainer a key n =>
    refine ⟨?_, ?_⟩ <;> rintro m ⟨⟩
    exact hd.1 ▸ haccount
  | _ =>
    refine ⟨?_, ?_⟩ <;> rintro n ⟨⟩
    all_goals first
      | exact hd ▸ haccount
      | exact StorageConfig.mem_footprint_endpoints hd
      | exact hd.elim

end Call

/-! ## Inventories that only grew, or only shrank -/

/-- All that one dictionary holds is held by the other one under the same key. -/
def Dict.Part {κ α : Type} [Ord κ] (d e : Dict κ α) : Prop :=
  ∀ k v, d.get? k = some v → e.get? k = some v

namespace Dict

variable {κ α : Type} [Ord κ] {d e : Dict κ α} {k : κ}

theorem Part.refl (d : Dict κ α) : d.Part d := fun _ _ h => h

variable [Std.LawfulEqOrd κ]

theorem Part.erase (h : d.Part e) : (d.erase k).Part e := fun a v ha => h a v (get?_of_erase ha)

theorem Part.filter (h : d.Part e) (p : κ → Bool) : (d.filter fun k _ => p k).Part e := by
  intro a v ha
  rw [get?_filter] at ha
  split at ha
  · exact h a v ha
  · cases ha

end Dict

namespace Inventory

/-- **Nothing was deleted, and what is not of a footprint is as it was.** The shared DNS zone may be
new. -/
structure Grown (f : Footprint) (i j : Inventory) : Prop where
  off : AgreesOff f j i
  kept : ∀ r, i.has r = true → j.has r = true
  zones : j.zones = i.zones ∨ j.zones = i.zones.insert zone ()

/-- What one inventory holds is held by the other one, and is the same there. They have the same
interfaces and DNS zones. -/
structure Part (j i : Inventory) : Prop where
  accounts : j.accounts.Part i.accounts
  containers : j.containers.Part i.containers
  endpoints : j.endpoints.Part i.endpoints
  aRecords : j.aRecords.Part i.aRecords
  zoneGroups : j.zoneGroups.Part i.zoneGroups
  links : j.links.Part i.links
  interfaces : j.interfaces = i.interfaces
  zones : j.zones = i.zones

/-- **Nothing was put in place, and what is not of a footprint is as it was.** -/
structure Shrunk (f : Footprint) (i j : Inventory) : Prop where
  off : AgreesOff f j i
  part : j.Part i

variable {home : Scope} {f : Footprint} {i j : Inventory} {c : StorageConfig} {d : Call}

theorem Grown.refl : Grown f i i := ⟨.refl, fun _ h => h, Or.inl rfl⟩

theorem Part.refl (i : Inventory) : i.Part i :=
  ⟨.refl _, .refl _, .refl _, .refl _, .refl _, .refl _, rfl, rfl⟩

theorem Shrunk.refl : Shrunk f i i := ⟨.refl, .refl i⟩

/-- A call of putting storage in place deletes nothing, and no DNS zone but the shared one is new
after it. -/
theorem Grown.step (h : Grown c.footprint i j) (hd : d.Furnishes c) (hc : c.account ≠ "") :
    Grown c.footprint i (reply home d j).2 := by
  refine ⟨h.off.skip (hd.inside hc), fun r hr => ?_, ?_⟩
  · have hkeeps : d.deletion? = none := by
      cases d <;> first | rfl | exact hd.elim
    rcases hreply : reply home d j with ⟨x | fault, t⟩
    · obtain rfl := reply_refused hreply
      exact h.kept r hr
    · exact reply_keeps hreply hkeeps r (h.kept r hr)
  · cases d with
    | putZone z location tags =>
      obtain rfl : z = zone := hd
      right
      rcases h.zones with hzones | hzones
      · exact congrArg (Dict.insert · zone ()) hzones
      · exact (congrArg (Dict.insert · zone ()) hzones).trans (Dict.insert_insert ..)
    | _ =>
      simp only [reply]
      try split
      all_goals exact h.zones

/-- A call of a removal puts nothing in place. -/
theorem Part.step (h : j.Part i) (hd : d.Dismantles c) : (reply home d j).2.Part i := by
  cases d with
  | clients => exact h
  | listKeys n =>
    simp only [reply]
    split <;> exact h
  | deleteAccount n =>
    simp only [reply]
    split
    · exact { h with
        accounts := h.accounts.erase
        containers := h.containers.filter fun key => key.1 != n }
    · exact h
  | deleteContainer a key n =>
    simp only [reply]
    split
    · exact { h with containers := h.containers.erase }
    · exact h
  | deleteEndpoint n =>
    simp only [reply]
    split
    · exact { h with endpoints := h.endpoints.erase }
    · exact h
  | deleteARecord z n =>
    simp only [reply]
    split
    · exact { h with aRecords := h.aRecords.erase }
    · exact h
  | deleteZoneGroup e group =>
    simp only [reply]
    split
    · exact { h with zoneGroups := h.zoneGroups.erase }
    · exact h
  | deleteLink z n =>
    simp only [reply]
    split
    · exact { h with links := h.links.erase }
    · exact h
  | _ => exact hd.elim

theorem Shrunk.step (h : Shrunk c.footprint i j) (hd : d.Dismantles c) (hc : c.account ≠ "") :
    Shrunk c.footprint i (reply home d j).2 := ⟨h.off.skip (hd.inside hc), h.part.step hd⟩

/-- Every endpoint gives its own name when it is asked for. -/
def Candid (i : Inventory) : Prop :=
  ∀ n e, i.endpoints.get? n = some e → e.reports.getD n = n

/-- A new endpoint gives its own name as well. -/
theorem Candid.step (hi : i.Candid) : (reply home d i).2.Candid := by
  cases d with
  | createEndpoint r =>
    intro n e he
    rcases Dict.get?_insert_cases he with ⟨rfl, rfl⟩ | he
    · rfl
    · exact hi n e he
  | deleteEndpoint n =>
    simp only [reply]
    split
    · exact fun m e he => hi m e (Dict.get?_of_erase he)
    · exact hi
  | _ =>
    simp only [reply]
    try split
    all_goals exact hi

/-- **What no call of some sort breaks is kept by each of them**, refused or not. -/
theorem keeps_unreliable {I : Inventory → Prop} (hI : ∀ j, I j → I (reply home d j).2) :
    Action.Keeps (unreliable home) (fun s => I s.provider) (Action.perform d) := by
  intro s hs
  refine ensures_unreliable (fun x t hreply => ?_) fun _ => hs
  have hstep := hI _ hs
  rw [hreply] at hstep
  exact hstep

end Inventory

/-! ## What each operation calls -/

section Calls

variable {σ : Type} {R : Conduct σ} {I : σ → Prop} {s : σ} {w : Work} {now : Moment}
variable {settings : Settings} {infra : Infrastructure} {fresh : Fresh} {c : StorageConfig}

/-- An endpoint is answered with the name it is asked for by, or created with. -/
structure Conduct.Names (R : Conduct σ) (I : σ → Prop) : Prop where
  found : ∀ n s, I s → (Action.perform (.getEndpoint n)).Ensures R s
    (fun e _ => e.name = n) fun _ _ => True
  made : ∀ r s, I s → (Action.perform (.createEndpoint r)).Ensures R s
    (fun e _ => e.name = r.name) fun _ _ => True

/-- **What each call about the endpoint of a configuration keeps is kept when private access is
opened.** -/
theorem Storage.openPrivately_within {scope : Scope} {a : Assured} (hnames : R.Names I)
    (haccount : a.name = c.account)
    (hendpoint : ∀ network, c.network = .internal network →
      c.network.endpoint? = some network.endpoint)
    (hI : ∀ d : Call, d.Furnishes c → Action.Keeps R I (Action.perform d)) :
    Action.Keeps R I (openPrivately scope infra a c) := by
  have hdns : ∀ {e : Endpoint} (vnet group : String), c.network.endpoint? = some e.name →
      Action.Keeps R I (Isolation.configureDns scope e vnet group a.name infra.tags) := by
    intro e vnet group he
    exact Isolation.configureDns_keeps_of (hI _ rfl) (fun _ => hI _ trivial)
      (fun _ => hI _ haccount) (hI _ he) (hI _ haccount)
  intro s hs
  unfold openPrivately
  split
  · rename_i network hnetwork
    have hname := hendpoint network hnetwork
    have hconfigure : Action.Keeps R I (Isolation.configure scope a.name infra.tags network) := by
      intro s hs
      let r := Isolation.endpointRequest scope a.name infra.tags network
      have hmade := (hI (.createEndpoint r) hname s hs).and (hnames.made r s hs)
      refine (Action.ensures_bind _).2 (hmade.mono ?_ fun _ _ ht => ht.1)
      rintro e t ⟨ht, he⟩
      have hdns := hdns (e := e) network.vnet (Isolation.networkGroup scope network) (he ▸ hname)
      exact (Action.ensures_bind _).2 ((hdns t ht).mono (fun _ _ hu => hu) fun _ _ hu => hu)
    rw [Assure.privateNetwork_ensures]
    split
    · exact hconfigure s hs
    · have hfound := (hI (.getEndpoint network.endpoint) hname s hs).and (hnames.found _ s hs)
      refine hfound.mono ?_ ?_
      · rintro e t ⟨ht, he⟩
        exact hdns _ _ (he ▸ hname) t ht
      · rintro f t ⟨ht, -⟩
        split
        · exact hconfigure t ht
        · exact ht
  · exact hs

/-- **What each call about a configuration keeps is kept when its storage is furnished.** -/
theorem Storage.furnish_within {scope : Scope} {environment : CloudEnvironment}
    (hnames : R.Names I)
    (hI : ∀ d : Call, d.Furnishes (accountNamed (w.config.accountFor infra fresh) w.config) →
      Action.Keeps R I (Action.perform d)) (hs : I s) :
    (furnish scope environment infra fresh now).Ensures R w s (fun _ _ t => I t)
      fun _ _ t => I t := by
  let c := accountNamed (w.config.accountFor infra fresh) w.config
  have hc : c.account = w.config.accountFor infra fresh := StorageConfig.accountNamed_account ..
  have haccount : (Assure.account scope environment w.config infra fresh).Ensures R s
      (fun a t => I t ∧ a.name = c.account) fun _ t => I t := by
    rw [Assure.account_ensures]
    refine ⟨fun _ _ => hs, fun name generated haccount => ?_⟩
    obtain ⟨rfl, -⟩ := Assure.accountName_eq haccount
    refine (hI (.checkName _) hc.symm s hs).mono (fun availability t ht => ?_) fun _ _ ht => ht
    split
    · let r := AccountRequest.forRegistry (w.config.accountFor infra fresh) scope.region infra.tags
        environment.isStack
      exact (hI (.createAccount r) hc.symm t ht).mono (fun _ _ hu => ⟨hu, hc.symm⟩) fun _ _ hu => hu
    · split
      · exact ht
      · exact ⟨ht, hc.symm⟩
  rw [furnish_ensures]
  refine haccount.mono ?_ fun _ _ ht => ht
  rintro a t ⟨ht, ha⟩
  have hsame : accountNamed a.name w.config = c := by rw [ha, hc]
  dsimp only
  rw [hsame]
  have hopen : Action.Keeps R I (openPrivately scope infra a c) :=
    openPrivately_within hnames ha (fun _ => StorageConfig.accountNamed_endpoint) hI
  have hcontainer : Action.Keeps R I (Assure.container c infra fresh) :=
    Assure.container_keeps_of (hI _ rfl) (fun _ _ => hI _ rfl) fun _ _ => hI _ rfl
  have hclose : Action.Keeps R I (closePublicly c) :=
    closePublicly_keeps_of (hI _ rfl) (hI _ rfl)
  refine (hopen t ht).mono (fun _ t ht => ?_) fun _ _ ht => ht
  refine (hcontainer t ht).mono (fun _ t ht => ?_) fun _ _ ht => ht
  exact (hclose t ht).mono (fun _ _ ht => ht) fun _ _ ht => ht

/-- **What each call about the completed configuration keeps is kept by creating.** -/
theorem Storage.create_within (hnames : R.Names I)
    (hI : ∀ d : Call, d.Furnishes (w.config.completed infra fresh) →
      Action.Keeps R I (Action.perform d)) (hs : I s) :
    (create settings infra fresh now).Ensures R w s (fun _ _ t => I t) fun _ _ t => I t := by
  refine create_of_furnish hs fun environment credentials => ?_
  refine (hI (.clients environment credentials) trivial s hs).mono (fun _ t ht => ?_)
    fun _ _ ht => ht
  refine furnish_within hnames (fun d hd => hI d ?_) ht
  -- which calls these are does not depend on the container
  simp only [Work.withConfig, StorageConfig.accountFor_takeCloud] at hd
  cases d <;> exact hd

end Calls

/-! ## What is left alone -/

/-- What a program leaves of an inventory, some of its calls refused. -/
def Program.leaves {α : Type} (p : Program α) (home : Scope) (d : Disturbance) (i : Inventory) :
    Inventory :=
  (p.attend (Inventory.reply home) d ⟨i, []⟩).2.provider

section Leaving

variable {α : Type} {home : Scope} {i : Inventory} {w : Work} {now : Moment} {settings : Settings}
variable {infra : Infrastructure} {fresh : Fresh} {P : Inventory → Prop} (d : Disturbance)

/-- What is ensured of an inventory is true of what an invocation leaves. -/
theorem Invocation.Ensures.leaves {x : Invocation α}
    (h : x.Ensures (Inventory.unreliable home) w ⟨i, []⟩ (fun _ _ t => P t.provider)
      fun _ _ t => P t.provider) : P ((x.start w).leaves home d i) := by
  have hends := Program.Ensures.attend_refused (d := d) h fun _ _ => trivial
  unfold Program.leaves
  split at hends <;> exact hends

/-- The cluster's credentials are used only if there is no key of the user's. -/
theorem Settings.credentials_of_accountKey (h : settings.accountKey.isSome = true)
    (credentials : ClusterCredentials) : settings.credentials ≠ .ok (.cluster credentials) := by
  obtain ⟨key, hkey⟩ := Option.isSome_iff_exists.1 h
  unfold Settings.credentials
  rw [hkey]
  dsimp only
  split <;> exact nofun

/-- A call of a look changes nothing. -/
theorem Call.OfLook.keeps {c : Call} (hc : c.OfLook) :
    Action.Keeps (Inventory.unreliable home) (fun s => s.provider = i) (Action.perform c) := by
  refine Inventory.keeps_unreliable (I := (· = i)) fun j hj => ?_
  subst hj
  cases c <;> first
    | rfl
    | exact hc.elim
    | (simp only [Inventory.reply]; split <;> rfl)

namespace Storage

theorem checkExists_leaves : ((checkExists settings now).start w).leaves home d i = i := by
  refine Invocation.Ensures.leaves (P := (· = i)) d ?_
  exact (checkExists_within (fun _ => Call.OfLook.keeps) rfl).mono (fun _ _ _ ht => ht.1)
    fun _ _ _ ht => ht.1

theorem environment_leaves (c : StorageConfig) :
    (environment settings c).run.leaves home d i = i := by
  have hlook : Action.Ensures (Inventory.unreliable home) (environment settings c) ⟨i, []⟩
      (fun _ t => t.provider = i) fun _ t => t.provider = i :=
    environment_within (fun _ => Call.OfLook.keeps) c _ rfl
  have hends := Program.Ensures.attend_refused (d := d) hlook fun _ _ => trivial
  unfold Program.leaves
  split at hends <;> exact hends

/-- Storage that the user manages is only taken over. -/
theorem create_leaves_all (hkey : settings.accountKey.isSome = true) :
    ((create settings infra fresh now).start w).leaves home d i = i := by
  refine Invocation.Ensures.leaves (P := (· = i)) d ?_
  refine (create_uncalled (Settings.credentials_of_accountKey hkey)).mono ?_ ?_ <;>
  · rintro _ _ t rfl
    rfl

theorem create_grows (hi : i.Candid) :
    Inventory.Grown (w.config.completed infra fresh).footprint i
      (((create settings infra fresh now).start w).leaves home d i) := by
  let c := w.config.completed infra fresh
  have hc : c.account ≠ "" := by
    rw [StorageConfig.completed_account]
    exact StorageConfig.accountFor_ne_empty
  let I (j : Inventory) : Prop := Inventory.Grown c.footprint i j ∧ j.Candid
  have hI : ∀ e : Call, e.Furnishes c →
      Action.Keeps (Inventory.unreliable home) (fun s => I s.provider) (Action.perform e) :=
    fun e he => Inventory.keeps_unreliable fun j hj => ⟨hj.1.step he hc, hj.2.step⟩
  have hnames : (Inventory.unreliable home).Names fun s => I s.provider := by
    refine ⟨fun n s hs => ?_, fun r s hs => ?_⟩
    · refine Inventory.ensures_unreliable (fun e t hreply => ?_) fun _ => trivial
      obtain ⟨stored, hstored, rfl, -⟩ := Inventory.reply_endpoint hreply
      exact hs.2 n stored hstored
    · refine Inventory.ensures_unreliable (fun e t hreply => ?_) fun _ => trivial
      obtain rfl := Except.ok.inj (Prod.mk.inj hreply).1
      rfl
  exact (Invocation.Ensures.leaves (P := I) d (create_within hnames hI ⟨.refl, hi⟩)).1

/-- Storage that the user manages is not removed, nor is any other that the program does not own. -/
theorem remove_leaves_all (h : settings.accountKey.isSome = true ∨ w.state.isManaged = false) :
    ((remove settings now).start w).leaves home d i = i := by
  refine Invocation.Ensures.leaves (P := (· = i)) d ?_
  by_cases hc : ∃ credentials, settings.credentials = .ok (.cluster credentials)
  · obtain ⟨credentials, hc⟩ := hc
    have hmanaged : w.state.isManaged = false :=
      h.resolve_left fun hkey => Settings.credentials_of_accountKey hkey credentials hc
    rw [remove_ensures hc, if_pos hmanaged]
  · refine (remove_uncalled fun credentials h => hc ⟨credentials, h⟩).mono ?_ ?_ <;>
    · rintro _ _ t rfl
      rfl

theorem remove_shrinks :
    Inventory.Shrunk w.config.footprint i
      (((remove settings now).start w).leaves home d i) := by
  refine Invocation.Ensures.leaves d ?_
  by_cases hc : ∃ credentials, settings.credentials = .ok (.cluster credentials)
  · obtain ⟨credentials, hc⟩ := hc
    by_cases haccount : w.config.account = ""
    · rw [remove_ensures hc]
      split <;> exact .refl
    · have hI : ∀ e : Call, e.Dismantles w.config → Action.Keeps (Inventory.unreliable home)
          (fun s => Inventory.Shrunk w.config.footprint i s.provider) (Action.perform e) :=
        fun e he => Inventory.keeps_unreliable fun j hj => hj.step he haccount
      exact (remove_keeps hc hI .refl).mono (fun _ _ _ ht => ht.1) fun _ _ _ ht => ht.1
  · refine (remove_uncalled fun credentials h => hc ⟨credentials, h⟩).mono ?_ ?_ <;>
    · rintro _ _ t rfl
      exact .refl

end Storage

end Leaving

/-- **What an operation leaves alone.** Looking at storage changes nothing, whatever there is and
whichever calls are refused. To create and to remove storage that the user manages changes nothing
either, nor to remove storage that the program does not own. Otherwise creating deletes nothing and
removing puts nothing in place, and what is not of the storage itself stays as it is: of the
configuration with the names that are chosen, or of the one that was recorded. -/
theorem bystanders_are_left_alone (settings : Settings) (home : Scope) (w : Work) (now : Moment)
    (inventory : Inventory) (hcandid : inventory.Candid) (d : Disturbance) :
    ((Storage.checkExists settings now).start w).leaves home d inventory = inventory ∧
    (Storage.environment settings w.config).run.leaves home d inventory = inventory ∧
    (∀ infra fresh,
      let after := ((Storage.create settings infra fresh now).start w).leaves home d inventory
      if settings.accountKey.isSome then after = inventory
      else Inventory.Grown (w.config.completed infra fresh).footprint inventory after) ∧
    let after := ((Storage.remove settings now).start w).leaves home d inventory
    if settings.accountKey.isSome ∨ w.state.isManaged = false then after = inventory
    else Inventory.Shrunk w.config.footprint inventory after := by
  refine ⟨Storage.checkExists_leaves d, Storage.environment_leaves d w.config, ?_, ?_⟩
  · intro infra fresh after
    split
    · exact Storage.create_leaves_all d ‹_›
    · exact Storage.create_grows d hcandid
  · intro after
    split
    · exact Storage.remove_leaves_all d ‹_›
    · exact Storage.remove_shrinks d

/-- Storage is put in place beside that of a neighbour, and the last calls are refused. The account
and the endpoint are there afterwards, and all that the neighbour has is as it was. -/
theorem neighbour_is_left_alone :
    let home := clusterSettings.cluster.scope
    let network (endpoint : String) : InternalNetwork :=
      { vnet := "vnet", subnet := "subnet", endpoint := endpoint }
    let endpoint : StoredEndpoint :=
      { request := Isolation.endpointRequest home "acct2" {} (network "acct2-pe") }
    let link : LinkRequest := Isolation.linkRequest home "acct2" "vnet" "network-rg" {}
    let inventory : Inventory :=
      { accounts := .ofList [("acct2", .named "acct2")]
        containers := .ofList [(("acct2", "images"), ())]
        endpoints := .ofList [("acct2-pe", endpoint)]
        aRecords := .ofList [((zone, "acct2"), "10.0.0.9")]
        zoneGroups := .ofList [(("acct2-pe", zoneGroup), "elsewhere")]
        links := .ofList [((zone, "acct2"), link)] }
    let spec : StorageConfig := { account := "acct1", network := .internal (network "acct1-pe") }
    let w : Work := ⟨spec, { spec := spec }⟩
    let d : Disturbance :=
      [none, none, none, none, none, none, none, some (.authentication ""), some (.authentication "")]
    let after := ((Storage.create clusterSettings ⟨"mycluster", none⟩ ⟨⟨[], 0⟩, 0⟩ default).start
      w).leaves home d inventory
    inventory.Candid ∧ after.has (.account "acct1") = true ∧
      after.has (.endpoint "acct1-pe") = true ∧
      after.accounts.get? "acct2" = some (.named "acct2") ∧
      after.has (.container "acct2" "images") = true ∧
      after.endpoints.get? "acct2-pe" = some endpoint ∧
      after.aRecords.get? (zone, "acct2") = some "10.0.0.9" ∧
      after.zoneGroups.get? ("acct2-pe", zoneGroup) = some "elsewhere" ∧
      after.links.get? (zone, "acct2") = some link := by
  intro home network endpoint link inventory spec w d after
  have hcandid : inventory.Candid := by
    intro n e he
    rcases Dict.get?_insert_cases he with ⟨rfl, rfl⟩ | he
    · rfl
    · cases he
  obtain ⟨-, -, hcreate, -⟩ :=
    bystanders_are_left_alone clusterSettings home w default inventory hcandid d
  have hgrown : Inventory.Grown (spec.completed ⟨"mycluster", none⟩ ⟨⟨[], 0⟩, 0⟩).footprint
      inventory after := hcreate ⟨"mycluster", none⟩ ⟨⟨[], 0⟩, 0⟩
  refine ⟨hcandid, by decide +kernel, by decide +kernel, ?_, hgrown.kept _ (by decide +kernel), ?_, ?_,
    ?_, ?_⟩
  · exact (hgrown.off.accounts _ (by decide +kernel)).trans (by decide +kernel)
  · exact (hgrown.off.endpoints _ (by decide +kernel)).trans (by decide +kernel)
  · exact (hgrown.off.aRecords _ (by decide +kernel)).trans (by decide +kernel)
  · exact (hgrown.off.zoneGroups _ (by decide +kernel)).trans (by decide +kernel)
  · exact (hgrown.off.links _ (by decide +kernel)).trans (by decide +kernel)

end RegistryStorage
