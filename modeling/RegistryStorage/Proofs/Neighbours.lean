import RegistryStorage.Proofs.Footprint
import RegistryStorage.Proofs.Ownership
import RegistryStorage.Proofs.Teardown

/-!
Two registries in one subscription.

Each driver works for a registry of its own, on its own record, but both use one resource group, and
the DNS zone is shared. What keeps them apart is names. A record and a link go by the name of the
account, which the same invocation uses in some other call too (`Order.owned`), and a zone group
goes by that of the endpoint. Only the interface is looked up by a name read off the provider: the
last part of the identifier that the endpoint gives. It is there as long as an endpoint that brings
it, and that can be a neighbour's, although the endpoints have different names
(`sliced_name_meets_neighbour`).

Main statement: drivers that use different accounts and endpoints, and look up no interface that only
the other one's endpoints bring, do not disturb each other, whatever the order of their calls
(`neighbours_do_not_disturb`).
-/

set_option autoImplicit false

namespace RegistryStorage

/-! ## What belongs to whose account -/

namespace Journal

/-- What is registered goes by certain names. -/
def Registers (names : String → Prop) (j : Journal) : Prop :=
  ∀ e ∈ j, ∀ n, e.call.registered? = some n → names n

/-- Some call is about an account. -/
def Uses (account : String) (j : Journal) : Prop := ∃ e ∈ j, e.call.account? = some account

/-- **What is registered goes by the name of an account in use.** -/
def Owned (j : Journal) : Prop := j.Registers fun n => j.Uses n

/-- An account is in use, and what is registered goes by its name. -/
structure Serves (account : String) (j : Journal) : Prop where
  used : j.Uses account
  only : j.Registers (· = account)

variable {names : String → Prop} {account : String} {j : Journal} {c : Call}

theorem Serves.owned (h : j.Serves account) : j.Owned := by
  intro e he n hn
  rw [h.only e he n hn]
  exact h.used

/-- Where nothing is registered, all that is goes by any names. -/
theorem Registers.none (h : j.Registers fun _ => False) : j.Registers names :=
  fun e he n hn => (h e he n hn).elim

theorem registers_nil : Registers names [] := List.forall_mem_nil _

theorem Registers.cons {fault : Option Fault} (h : j.Registers names)
    (hc : ∀ n, c.registered? = some n → names n) : Registers names (⟨c, fault⟩ :: j) :=
  List.forall_mem_cons.2 ⟨hc, h⟩

theorem Serves.cons {fault : Option Fault} (h : j.Serves account)
    (hc : ∀ n, c.registered? = some n → n = account) : Serves account (⟨c, fault⟩ :: j) := by
  obtain ⟨e, he, hused⟩ := h.used
  exact ⟨⟨e, List.mem_cons_of_mem _ he, hused⟩, h.only.cons hc⟩

end Journal

open Journal

section Owning

variable {σ : Type} {R : Conduct σ} {s : Scene σ} {j : Journal} {n : String} {d : Call}
variable {scope : Scope} {infra : Infrastructure} {fresh : Fresh} {w : Work} {now : Moment}
variable {settings : Settings}

theorem Scene.Since.owned (hs : s.Since j (Serves n)) : s.Since j Owned :=
  hs.mono fun _ h => h.owned

theorem Scene.Since.bare (hs : s.Since j (Registers fun _ => False)) : s.Since j Owned :=
  hs.mono fun _ h => h.none

theorem Journal.Serves.keeps (hc : ∀ m, d.registered? = some m → m = n) :
    Action.Keeps R.journaled (Scene.Since j (Serves n)) (Action.perform d) :=
  Scene.Since.keeps_perform fun _ _ h => h.cons hc

/-- A call about an account puts it in use, whatever comes of the call. -/
theorem Scene.Since.use (hs : s.Since j (Registers (· = n))) (hused : d.account? = some n)
    (hc : d.registered? = none) :
    (Action.perform d).Ensures R.journaled s (fun _ t => t.Since j (Serves n))
      fun _ t => t.Since j (Serves n) := by
  have hserves : ∀ fault new, Registers (· = n) new → Serves n (⟨d, fault⟩ :: new) := by
    intro fault new h
    refine ⟨⟨_, List.mem_cons_self, hused⟩, h.cons fun m hm => ?_⟩
    rw [hc] at hm
    cases hm
  exact hs.perform (hserves none) fun f => hserves (some f)

/-- Clients are not registered anywhere. -/
theorem Journal.Registers.keeps_clients {environment : CloudEnvironment}
    {credentials : ClusterCredentials} :
    Action.Keeps R.journaled (Scene.Since j (Registers fun _ => False))
      (Action.perform (.clients environment credentials)) :=
  Scene.Since.keeps_perform fun _ _ h => h.cons nofun

theorem Call.Opens.registered (hd : d.Opens n) {m : String} (hm : d.registered? = some m) :
    m = n := by
  cases d <;> cases hm
  all_goals first | exact hd | exact hd.elim

theorem Call.OfIsolation.registered (hd : d.OfIsolation n) {m : String}
    (hm : d.registered? = some m) : m = n := by
  cases d <;> cases hm
  all_goals first | exact hd | exact hd.elim

theorem Assure.account_owned {environment : CloudEnvironment} {c : StorageConfig}
    (hs : s.Since j (Registers fun _ => False)) :
    (account scope environment c infra fresh).Ensures R.journaled s
      (fun a t => t.Since j (Serves a.name)) fun _ t => t.Since j Owned := by
  rw [account_ensures]
  refine ⟨fun _ _ => hs.bare, fun name generated _ => ?_⟩
  have hnone : s.Since j (Registers (· = name)) := hs.mono fun _ h => h.none
  refine (hnone.use (d := .checkName name) rfl rfl).mono (fun availability t ht => ?_)
    fun _ _ ht => ht.owned
  split
  · exact (Serves.keeps (d := .createAccount _) nofun t ht).mono (fun _ _ hu => hu)
      fun _ _ hu => hu.owned
  · split
    · exact ht.owned
    · exact ht

namespace Storage

/-- **Creating registers only what it owns**, whatever the provider does: the account is asked for
before anything is registered for it. -/
theorem furnish_owned {environment : CloudEnvironment} (hs : s.Since j (Registers fun _ => False)) :
    (furnish scope environment infra fresh now).Ensures R.journaled w s
      (fun _ _ t => t.Since j Owned) fun _ _ t => t.Since j Owned := by
  rw [furnish_ensures]
  refine (Assure.account_owned hs).mono (fun account t ht => ?_) fun _ _ ht => ht
  have hopen : Action.Keeps R.journaled (Scene.Since j (Serves account.name))
      (openPrivately scope infra account (accountNamed account.name w.config)) :=
    openPrivately_keeps_of fun _ hd => Serves.keeps fun _ => hd.registered
  have hcontainer : Action.Keeps R.journaled (Scene.Since j (Serves account.name))
      (Assure.container (accountNamed account.name w.config) infra fresh) := by
    apply Assure.container_keeps_of
    · exact Serves.keeps nofun
    · exact fun _ _ => Serves.keeps nofun
    · exact fun _ _ => Serves.keeps nofun
  have hclose : Action.Keeps R.journaled (Scene.Since j (Serves account.name))
      (closePublicly (accountNamed account.name w.config)) :=
    closePublicly_keeps_of (Serves.keeps nofun) (Serves.keeps nofun)
  refine (hopen t ht).mono (fun _ u hu => ?_) fun _ _ hu => hu.owned
  refine (hcontainer u hu).mono (fun container v hv => ?_) fun _ _ hv => hv.owned
  exact (hclose v hv).mono (fun _ _ hx => hx.owned) fun _ _ hx => hx.owned

theorem create_owned :
    (create settings infra fresh now).Ensures R.journaled w s
      (fun _ _ t => t.Since s.journal Owned) fun _ _ t => t.Since s.journal Owned := by
  have hs : s.Since s.journal (Registers fun _ => False) := Scene.since_refl registers_nil
  refine create_of_furnish hs.bare fun environment credentials => ?_
  exact (Registers.keeps_clients s hs).mono (fun _ t ht => furnish_owned ht) fun _ _ ht => ht.bare

/-- An account in use stays the only one for which anything is taken out. -/
theorem removePrivateNetwork_serves (hs : s.Since j (Serves n)) :
    (removePrivateNetwork now n).Ensures R.journaled w s (fun _ _ t => t.Since j (Serves n))
      fun _ _ t => t.Since j (Serves n) := by
  have hkeeps : ∀ d : Call, d.OfIsolation n →
      Action.Keeps R.journaled (Scene.Since j (Serves n)) (Action.perform d) :=
    fun _ hd => Serves.keeps fun _ => hd.registered
  exact (removePrivateNetwork_within hkeeps hs).mono (fun _ _ _ h => h.1) fun _ _ _ h => h.1

/-- Deletions in private access go through or find nothing, so a removal gets to the account. -/
theorem removePrivateNetwork_reaches {home : Scope} {s : Scene Inventory}
    (hs : s.Since j (Registers (· = n))) :
    (removePrivateNetwork now n).Ensures (Inventory.undisturbed home) w s
      (fun _ _ t => t.Since j (Registers (· = n))) fun _ _ _ => False := by
  have hkeeps : ∀ d : Call, d.OfIsolation n → Action.Keeps (Inventory.undisturbed home)
      (Scene.Since j (Registers (· = n))) (Action.perform d) :=
    fun _ hd => Scene.Since.keeps_perform fun _ _ h => h.cons fun _ => hd.registered
  have hdeletes : Deletes (Inventory.undisturbed home) fun _ => True := by
    intro d x _ _ t _
    refine Inventory.ensures_undisturbed (fun _ _ _ => trivial) fun f hf => ?_
    rw [if_pos (Inventory.reply_error hf)]
    trivial
  exact ((removePrivateNetwork_within hkeeps hs).and
    (removePrivateNetwork_succeeds hdeletes trivial)).mono
      (fun _ _ _ h => h.1.1) fun _ _ _ h => h.2

/-- The last step of a removal puts the account in use, if it was not yet. -/
theorem removeAccount_owned (hs : s.Since j (Registers (· = n))) :
    (removeAccount now n).Ensures R.journaled w s
      (fun _ _ t => t.Since j Owned) fun _ _ t => t.Since j Owned := by
  rw [removeAccount_ensures, Action.ensures_tolerant]
  refine (hs.use (d := .deleteAccount n) rfl rfl).mono (fun _ _ ht => ht.owned) fun f t ht => ?_
  split <;> exact ht.owned

/-- **Removing takes out only what it owns.** Without a container to delete it asks for the account
only at the end, so it matters here that the inventory refuses nothing. -/
theorem dismantle_owned {home : Scope} {s : Scene Inventory}
    (hs : s.Since j (Registers fun _ => False)) :
    (dismantle now).Ensures (Inventory.undisturbed home) w s
      (fun _ _ t => t.Since j Owned) fun _ _ t => t.Since j Owned := by
  have hnone : s.Since j (Registers (· = w.config.account)) := hs.mono fun _ h => h.none
  rw [dismantle_ensures]
  dsimp only
  split
  · exact (removePrivateNetwork_reaches hnone).mono (fun _ _ _ ht => removeAccount_owned ht)
      fun _ _ _ => False.elim
  · rw [keyUnlessGone_ensures, Probe.primaryKey_ensures]
    -- the look at the keys puts the account in use, and so it stays
    have hgone : ∀ (f : Fault) t, t.Since j (Serves w.config.account) →
        if f.isNotFound = true then
          (removePrivateNetwork now w.config.account).Ensures (Inventory.undisturbed home) w t
            (fun _ _ u => u.Since j Owned) fun _ _ u => u.Since j Owned
        else t.Since j Owned := by
      intro f t ht
      split
      · exact (removePrivateNetwork_serves ht).mono (fun _ _ _ hu => hu.owned)
          fun _ _ _ hu => hu.owned
      · exact ht.owned
    refine (hnone.use (d := .listKeys w.config.account) rfl rfl).mono (fun keys t ht => ?_)
      fun f t ht => hgone _ t ht
    refine ⟨fun key _ => ?_, fun f _ => hgone f t ht⟩
    have hcontainer : Action.Keeps (Inventory.undisturbed home)
        (Scene.Since j (Serves w.config.account)) (Action.tolerant
          (Action.perform (.deleteContainer w.config.account key w.config.container))) :=
      (Serves.keeps (d := .deleteContainer ..) nofun).tolerant
    dsimp only
    rw [removeContainer_ensures]
    refine (hcontainer t ht).mono (fun _ u hu => ?_) fun _ _ hu => hu.owned
    refine (removePrivateNetwork_serves hu).mono (fun _ v r hr => ?_) fun _ _ _ hr => hr.owned
    exact removeAccount_owned (hr.mono fun _ h => h.only)

theorem remove_owned {home : Scope} {s : Scene Inventory} :
    (remove settings now).Ensures (Inventory.undisturbed home) w s
      (fun _ _ t => t.Since s.journal Owned) fun _ _ t => t.Since s.journal Owned := by
  have hs : s.Since s.journal (Registers fun _ => False) := Scene.since_refl registers_nil
  refine remove_of_dismantle hs.bare fun environment credentials => ?_
  exact (Registers.keeps_clients s hs).mono (fun _ t ht => dismantle_owned ht)
    fun _ _ ht => ht.bare

theorem checkExists_owned :
    (checkExists settings now).Ensures R.journaled w s
      (fun _ _ t => t.Since s.journal Owned) fun _ _ t => t.Since s.journal Owned := by
  have hs : s.Since s.journal (Registers fun _ => False) := Scene.since_refl registers_nil
  have hlook : ∀ d : Call, d.OfLook → Action.Keeps R.journaled
      (Scene.Since s.journal (Registers fun _ => False)) (Action.perform d) := by
    intro d hd
    refine Scene.Since.keeps_perform fun _ _ h => h.cons ?_
    cases d <;> rintro n ⟨⟩
    all_goals exact hd.elim
  exact (checkExists_within hlook hs).mono (fun _ _ _ ht => ht.1.bare) fun _ _ _ ht => ht.1.bare

end Storage

end Owning

/-- **Every invocation registers only what it owns.** -/
theorem Order.owned {home : Scope} {s : Scene Inventory} {w : Work} {now : Moment}
    {settings : Settings} (o : Order) :
    (o.invocation settings now).Ensures (Inventory.undisturbed home) w s
      (fun _ _ t => t.Since s.journal Owned) fun _ _ t => t.Since s.journal Owned := by
  cases o with
  | create infra fresh => exact Storage.create_owned
  | remove => exact Storage.remove_owned
  | checkExists =>
    exact (Invocation.ensures_bind _).2 (Storage.checkExists_owned.mono (fun _ _ _ ht => ht)
      fun _ _ _ ht => ht)

/-! ## Drivers -/

/-- A driver of one registry: what it is asked to do, when, and the record it keeps. -/
structure Driver where
  settings : Settings
  order : Order
  now : Moment
  state : StorageState

namespace Driver

/-- What the driver does: the invocation, on a copy of the record's `spec`. -/
def program (d : Driver) : Program (Except Fault Unit × Work) :=
  (d.order.invocation d.settings d.now).start ⟨d.state.spec, d.state⟩

/-- What comes of the driver when it is alone: its result and its record, and the inventory. -/
def alone (home : Scope) (i : Inventory) (d : Driver) : (Except Fault Unit × Work) × Inventory :=
  d.program.run (Inventory.reply home) i

/-- The calls that the driver makes when it is alone. -/
def calls (home : Scope) (i : Inventory) (d : Driver) : List Call :=
  d.program.calls (Inventory.reply home) i

/-- The same calls, each with what there is when it is made. -/
def visits (home : Scope) (i : Inventory) (d : Driver) : List (Call × Inventory) :=
  d.program.visits (Inventory.reply home) i

/-- The accounts and endpoints that the driver uses when it is alone. -/
def names (home : Scope) (i : Inventory) (d : Driver) : Footprint :=
  footprint (d.calls home i)

/-- The interfaces that the driver's endpoints bring: those that are there, and those that it
creates. -/
def interfaces (home : Scope) (i : Inventory) (d : Driver) : List String :=
  (d.names home i).endpoints.filterMap (fun n => (i.endpoints.get? n).bind (·.interface?)) ++
    (d.calls home i).filterMap Call.interface?

/-- What comes of two drivers that take turns as a schedule says. -/
def beside (home : Scope) (i : Inventory) (schedule : List Bool) (d e : Driver) :
    ((Except Fault Unit × Work) × (Except Fault Unit × Work)) × Inventory :=
  Program.weave (Inventory.reply home) schedule d.program e.program i

variable {home : Scope} {i : Inventory} {d : Driver} {c : Call}

/-- Whatever belongs to an account that a driver calls about, it uses that account. -/
theorem owner_used (hcall : c ∈ d.calls home i) {n : String} (hn : c.owner? = some n) :
    n ∈ (d.names home i).accounts := by
  -- what is known of the journal, in terms of the calls
  have hof : ∀ t : Scene Inventory, t.Since [] Owned →
      ∀ c ∈ (t.journal.map Entry.call).reverse, ∀ n, c.registered? = some n →
        ∃ b ∈ (t.journal.map Entry.call).reverse, b.account? = some n := by
    rintro t ⟨new, hnew, howned⟩ c hc n hn
    rw [hnew, List.append_nil] at hc ⊢
    obtain ⟨e, he, rfl⟩ := List.mem_map.1 (List.mem_reverse.1 hc)
    obtain ⟨b, hb, hused⟩ := howned e he n hn
    exact ⟨b.call, List.mem_reverse.2 (List.mem_map_of_mem hb), hused⟩
  have howned : ∀ c ∈ d.calls home i, ∀ n, c.registered? = some n →
      ∃ b ∈ d.calls home i, b.account? = some n := by
    refine Invocation.Ensures.of_calls (x := d.order.invocation d.settings d.now)
      (P := fun l => ∀ c ∈ l, ∀ n, c.registered? = some n → ∃ b ∈ l, b.account? = some n) ?_
    exact (Order.owned d.order).mono (fun _ _ t ht => hof t ht) fun _ _ t ht => hof t ht
  refine List.mem_filterMap.2 ?_
  rcases Option.or_eq_some_iff.1 hn with haccount | ⟨-, hregistered⟩
  · exact ⟨c, hcall, haccount⟩
  · exact howned c hcall n hregistered

end Driver

/-- A driver looks up no interface of another one's endpoints, unless it is found without them at that
time. -/
def Driver.LooksPast (home : Scope) (i : Inventory) (d e : Driver) : Prop :=
  ∀ v ∈ d.visits home i, ∀ n ∈ v.1.looked?, n ∈ e.interfaces home i →
    v.2.foundWithout (e.names home i).endpoints n = true

/-- **Two drivers keep out of each other's way** when each of them is alone: they use different
accounts and different endpoints, and neither looks up an interface that, of all endpoints, only the
other one's bring. -/
structure Driver.Apart (home : Scope) (i : Inventory) (d e : Driver) : Prop where
  accounts : ∀ n ∈ (d.names home i).accounts, n ∉ (e.names home i).accounts
  endpoints : ∀ n ∈ (d.names home i).endpoints, n ∉ (e.names home i).endpoints
  left : d.LooksPast home i e
  right : e.LooksPast home i d

namespace Driver

variable {home : Scope} {i : Inventory} {d e : Driver}

theorem Apart.symm (h : d.Apart home i e) : e.Apart home i d :=
  ⟨fun n he hd => h.accounts n hd he, fun n he hd => h.endpoints n hd he, h.right, h.left⟩

/-- Each call of a driver stays with its own names, and has the inventory to itself but for those of
the other one. -/
theorem Apart.keeps_out (h : d.Apart home i e) {v : Call × Inventory}
    (hv : v ∈ d.visits home i) :
    Inventory.Contained (d.names home i) (d.interfaces home i) v.1 ∧
      Inventory.Undisturbed (e.names home i) (e.interfaces home i) v.1 v.2 := by
  have hcall : v.1 ∈ d.calls home i := by
    unfold calls
    rw [← Program.map_fst_visits]
    exact List.mem_map_of_mem hv
  have hendpoint : ∀ n, v.1.endpoint? = some n → n ∈ (d.names home i).endpoints :=
    fun _ hn => List.mem_filterMap.2 ⟨v.1, hcall, hn⟩
  refine ⟨⟨⟨fun _ => owner_used hcall, hendpoint⟩, fun n hn => ?_⟩,
    ⟨⟨fun n hn => h.accounts n (owner_used hcall hn), fun n hn => h.endpoints n (hendpoint n hn)⟩,
      fun n hn => h.left v hv n hn⟩⟩
  exact List.mem_append_right _ (List.mem_filterMap.2 ⟨v.1, hcall, hn⟩)

/-- What a driver's endpoints bring that are there counts among its interfaces. -/
theorem confined_self : i.Confined (d.names home i) (d.interfaces home i) := by
  intro m hm stored hstored n hn
  refine List.mem_append_left _ (List.mem_filterMap.2 ⟨m, hm, ?_⟩)
  rw [hstored]
  exact hn

end Driver

/-! ## The theorem -/

/-- **Neighbours do not disturb each other.** Two drivers keep out of each other's way when alone.
Then whatever the order of their single calls, each of them ends with the result and the record that
it ends with alone, and it leaves everything alike but for what is about the names of the other: its
accounts with their containers, records and links, and its endpoints with their zone groups. -/
theorem neighbours_do_not_disturb {home : Scope} {i : Inventory} {d e : Driver}
    (hapart : d.Apart home i e) (schedule : List Bool) :
    let joint := Driver.beside home i schedule d e
    joint.1 = ((d.alone home i).1, (e.alone home i).1) ∧
      joint.2.AgreesOff (e.names home i) (d.alone home i).2 ∧
      joint.2.AgreesOff (d.names home i) (e.alone home i).2 := by
  have hframe := Inventory.frame home (d.names home i) (e.names home i) (d.interfaces home i)
    (e.interfaces home i)
  have hframe' := Inventory.frame home (e.names home i) (d.names home i) (e.interfaces home i)
    (d.interfaces home i)
  obtain ⟨hresults, hleft, hright⟩ := Program.weave_apart hframe hframe' schedule
    (fun _ hv => hapart.keeps_out hv) (fun _ hv => hapart.symm.keeps_out hv)
    ⟨.refl, Driver.confined_self, Driver.confined_self⟩
    ⟨.refl, Driver.confined_self, Driver.confined_self⟩
  exact ⟨hresults, hleft.1, hright.1⟩

/-- Storage is put in place for one registry while that of another one is removed. Whatever the
order of the calls, both end well, the one account is reached by its address and the other one is
gone. -/
theorem provisioning_beside_teardown :
    let home := clusterSettings.cluster.scope
    let network (endpoint : String) : InternalNetwork :=
      { vnet := "vnet", subnet := "subnet", endpoint := endpoint }
    let spec (account endpoint : String) : StorageConfig :=
      { account := account, container := "images", network := .internal (network endpoint) }
    let order : Order := .create ⟨"mycluster", none⟩ ⟨⟨[], 0⟩, 0⟩
    let creating : Driver := ⟨clusterSettings, order, .epoch, { spec := spec "acct1" "" }⟩
    let removing : Driver := ⟨clusterSettings, .remove, .epoch,
      { spec := spec "acct2" "acct2-pe", management := some .managed }⟩
    let inventory : Inventory :=
      { accounts := .ofList [("acct2", .named "acct2")]
        containers := .ofList [(("acct2", "images"), ())]
        endpoints := .ofList
          [("acct2-pe", { request := Isolation.endpointRequest home "acct2" {} (network "acct2-pe") })]
        aRecords := .ofList [((Isolation.zone, "acct2"), Inventory.firstAddress)] }
    creating.Apart home inventory removing ∧
      ∀ schedule, let joint := Driver.beside home inventory schedule creating removing
        joint.1.1.1 = .ok () ∧ joint.1.2.1 = .ok () ∧
          joint.2.aRecords.get? (Isolation.zone, "acct1") = some Inventory.firstAddress ∧
          joint.2.accounts.get? "acct2" = none := by
  intro home network spec order creating removing inventory
  have hleft : creating.LooksPast home inventory removing := by
    unfold Driver.LooksPast
    decide +kernel
  have hright : removing.LooksPast home inventory creating := by
    unfold Driver.LooksPast
    decide +kernel
  have hapart : creating.Apart home inventory removing :=
    ⟨by decide +kernel, by decide +kernel, hleft, hright⟩
  have hcreated : (creating.alone home inventory).1.1 = .ok () ∧
      (creating.alone home inventory).2.aRecords.get? (Isolation.zone, "acct1") =
        some Inventory.firstAddress := by decide +kernel
  have hremoved : (removing.alone home inventory).1.1 = .ok () ∧
      (removing.alone home inventory).2.accounts.get? "acct2" = none := by decide +kernel
  refine ⟨hapart, fun schedule => ?_⟩
  intro joint
  obtain ⟨hresults, hleft, hright⟩ := neighbours_do_not_disturb hapart schedule
  refine ⟨?_, ?_, ?_, ?_⟩
  · exact (congrArg (fun x => x.1.1) hresults).trans hcreated.1
  · exact (congrArg (fun x => x.2.1) hresults).trans hremoved.1
  · exact (hleft.aRecords _ (by decide +kernel)).trans hcreated.2
  · exact (hright.accounts _ (by decide +kernel)).trans hremoved.2

/-- **A name that holds a slash is looked up by its last part**, and that can be the interface of a
neighbour. Alone, the driver does not find the interface of its endpoint `x/a` and fails; beside a
driver whose endpoint is `a` it finds the other one's and ends well. Their accounts and their
endpoints have different names. -/
theorem sliced_name_meets_neighbour :
    let home := clusterSettings.cluster.scope
    let creating (account endpoint : String) : Driver :=
      { settings := clusterSettings
        order := .create ⟨"mycluster", none⟩ ⟨⟨[], 0⟩, 0⟩
        now := .epoch
        state := { spec :=
          { account := account, container := "images",
            network := .internal { vnet := "vnet", subnet := "subnet", endpoint := endpoint } } } }
    let d := creating "acct1" "x/a"
    let e := creating "acct2" "a"
    (∀ n ∈ (d.names home {}).accounts, n ∉ (e.names home {}).accounts) ∧
      (∀ n ∈ (d.names home {}).endpoints, n ∉ (e.names home {}).endpoints) ∧
      (d.alone home {}).1.1.isOk = false ∧
      (Driver.beside home {} (List.replicate 20 false) d e).1.1.1 = .ok () := by
  decide +kernel

end RegistryStorage
