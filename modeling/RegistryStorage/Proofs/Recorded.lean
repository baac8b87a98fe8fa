import RegistryStorage.Proofs.Bookkeeping
import RegistryStorage.Proofs.History
import RegistryStorage.Proofs.Holdings

/-!
Nothing is created without a record of it.

Whatever a run of invocations has created and not deleted since is named by the record's `spec`,
after every invocation and wherever the invocations failed (`held_is_recorded`). The record is
all that later invocations know, so this is what keeps a billed resource from being lost.

The invariant is `Accounted`: what the run holds exists, and the configuration names it. Creating
works on a configuration that only gains names (`Under`), and each name is in it before the call
that uses it. Taking down loses names, each only after the deletion that leaves nothing of that
name behind. The record follows the configuration at every point where an invocation can fail.
-/

set_option autoImplicit false

namespace RegistryStorage

/-! ## What a configuration names -/

namespace StorageConfig

/-- The resources that a configuration names. -/
def Names (c : StorageConfig) : Resource → Prop
  | .account n => n = c.account ∧ n ≠ ""
  | .container a n => a = c.account ∧ a ≠ "" ∧ n = c.container ∧ n ≠ ""
  | .endpoint n => c.network.endpoint? = some n
  | .aRecord z n => z = Isolation.zone ∧ n = c.account ∧ n ≠ "" ∧ c.network.endpoint? ≠ none
  | .zoneGroup e g => c.network.endpoint? = some e ∧ g = Isolation.zoneGroup
  | .link z n => z = Isolation.zone ∧ n = c.account ∧ n ≠ "" ∧ c.network.endpoint? ≠ none

variable {c c' : StorageConfig}

theorem Names.mono {r : Resource} (h : c.Names r) (hu : c.Under c') : c'.Names r := by
  -- names that are there stay, so what carries them is named as before
  have haccount : ∀ {n : String}, n = c.account → n ≠ "" → n = c'.account := by
    rintro n rfl hn
    exact hu.account.resolve_left hn
  have hendpoint : c.network.endpoint? ≠ none → c'.network.endpoint? ≠ none := by
    intro hsome
    obtain ⟨e, he⟩ := Option.ne_none_iff_exists'.1 hsome
    rw [hu.endpoint e he]
    exact Option.some_ne_none e
  cases r with
  | account n => exact ⟨haccount h.1 h.2, h.2⟩
  | container a n =>
    obtain ⟨ha, hane, rfl, hn⟩ := h
    exact ⟨haccount ha hane, hane, hu.container.resolve_left hn, hn⟩
  | endpoint n => exact hu.endpoint n h
  | aRecord z n =>
    obtain ⟨hz, hn, hne, he⟩ := h
    exact ⟨hz, haccount hn hne, hne, hendpoint he⟩
  | zoneGroup e g => exact ⟨hu.endpoint e h.1, h.2⟩
  | link z n =>
    obtain ⟨hz, hn, hne, he⟩ := h
    exact ⟨hz, haccount hn hne, hne, hendpoint he⟩

theorem Blank.not_names (h : c.Blank) {r : Resource} : ¬c.Names r := by
  intro hr
  cases r with
  | account n => exact hr.2 (hr.1.trans h.account)
  | container a n => exact hr.2.1 (hr.1.trans h.account)
  | endpoint n => exact absurd (h.endpoint.symm.trans hr) nofun
  | aRecord z n => exact hr.2.2.2 h.endpoint
  | zoneGroup e g => exact absurd (h.endpoint.symm.trans hr.1) nofun
  | link z n => exact hr.2.2.2 h.endpoint

theorem Names.forgetEndpoint {r : Resource} {e : String} (h : c.Names r)
    (he : c.network.endpoint? = some e) (hendpoint : r ≠ .endpoint e)
    (hgroup : r ≠ .zoneGroup e Isolation.zoneGroup)
    (hrecord : r ≠ .aRecord Isolation.zone c.account)
    (hlink : r ≠ .link Isolation.zone c.account) : (Storage.forgetEndpoint c).Names r := by
  cases r with
  | account n => exact h
  | container a n => exact h
  | endpoint n =>
    have hname : n = e := Option.some.inj (h.symm.trans he)
    exact absurd (congrArg Resource.endpoint hname) hendpoint
  | aRecord z n =>
    obtain ⟨rfl, rfl, -⟩ := h
    exact absurd rfl hrecord
  | zoneGroup d g =>
    obtain ⟨hd, rfl⟩ := h
    cases hd.symm.trans he
    exact absurd rfl hgroup
  | link z n =>
    obtain ⟨rfl, rfl, -⟩ := h
    exact absurd rfl hlink

theorem Names.forgetContainer {r : Resource} (h : c.Names r)
    (hcontainer : r ≠ .container c.account c.container) : (Storage.forgetContainer c).Names r := by
  cases r with
  | container a n =>
    obtain ⟨rfl, -, rfl, -⟩ := h
    exact absurd rfl hcontainer
  | account n => exact h
  | endpoint n => exact h
  | aRecord z n => exact h
  | zoneGroup d g => exact h
  | link z n => exact h

/-- The name of the account is forgotten last: by then nothing else may carry it. -/
theorem Names.forgetAccount {r : Resource} (h : c.Names r) (he : c.network.endpoint? = none)
    (haccount : r.within (.account c.account) = false) : (Storage.forgetAccount c).Names r := by
  cases r with
  | account n =>
    obtain ⟨rfl, -⟩ := h
    exact absurd rfl (Resource.ne_of_within haccount)
  | container a n =>
    obtain ⟨rfl, -⟩ := h
    simp [Resource.within] at haccount
  | endpoint n => exact h
  | aRecord z n => exact absurd he h.2.2.2
  | zoneGroup d g => exact h
  | link z n => exact absurd he h.2.2.2

end StorageConfig

/-! ## Keys of an account -/

section Keys

variable {home : Scope} {s : Scene Inventory}

/-- An account of which the key is not found is not there. -/
theorem Probe.primaryKey_honest {account : String} :
    (primaryKey account).Ensures (Inventory.honest home) s
      (fun _ t => t.provider = s.provider ∧ s.provider.has (.account account) = true)
      fun f t => t.provider = s.provider ∧
        (f.isNotFound = true → s.provider.has (.account account) = false) := by
  rw [primaryKey_ensures]
  refine Inventory.ensures_perform (fun keys i hreply => ?_) fun f hf => ⟨rfl, fun hnot => ?_⟩
  · obtain ⟨hthere, rfl⟩ := Inventory.reply_found rfl hreply
    refine ⟨fun _ _ => ⟨rfl, hthere⟩, fun f hf => ⟨rfl, fun hnot => ?_⟩⟩
    -- an account without keys is no account that is gone
    unfold firstKey at hf
    split at hf
    · cases hf
    · cases hf
      cases hnot
  · have hfault : f.isNotFound = true := by
      by_cases hf : f.isNotFound = true
      · exact hf
      · rwa [keyFault, if_neg hf] at hnot
    obtain ⟨t, hreply⟩ := hf hfault
    exact Inventory.reply_missing rfl hreply

end Keys

/-! ## The invariant -/

/-- What the run holds exists, and the configuration names it. -/
structure Accounted (c : StorageConfig) (s : Scene Inventory) : Prop where
  sound : Sound s
  plain : s.provider.Plain
  named : ∀ r, s.journal.Holds r → c.Names r

namespace Accounted

variable {home : Scope} {c c' : StorageConfig} {s : Scene Inventory} {d : Call}

theorem mono (hs : Accounted c s) (hu : c.Under c') : Accounted c' s :=
  ⟨hs.sound, hs.plain, fun r hr => (hs.named r hr).mono hu⟩

theorem refused {f : Fault} (hs : Accounted c s) : Accounted c (s.after d (some f) s.provider) :=
  ⟨hs.sound.refused, hs.plain, fun r hr => hs.named r (Journal.holds_refused.1 hr)⟩

/-- **One call.** If it creates something, the configuration it is made for names that, and a new
container has its account. The configuration before is still good if the call is refused. -/
theorem perform (hs : Accounted c s) (hu : c.Under c')
    (hnamed : ∀ r, d.creation? = some r → c'.Names r)
    (hplace : ∀ a n, d.creation? = some (.container a n) → s.provider.has (.account a) = true) :
    (Action.perform d).Ensures (Inventory.honest home) s
      (fun x t => Accounted c' t ∧ Inventory.reply home d s.provider = (.ok x, t.provider))
      fun f t => Accounted c t ∧
        (f.isNotFound = true → Inventory.reply home d t.provider = (.error f, t.provider)) := by
  refine Inventory.ensures_perform (fun x t hx => ⟨⟨?_, ?_, fun r hr => ?_⟩, hx⟩) fun f hf => ?_
  · exact hs.sound.granted hx hplace
  · exact hs.plain.reply hx
  · rw [Scene.after_journal, Journal.holds_granted] at hr
    -- new, so that the configuration names it now, or held before
    rcases hr with hr | ⟨-, hr⟩
    · exact hnamed r hr
    · exact (hs.named r hr).mono hu
  · refine ⟨hs.refused, fun hnot => ?_⟩
    obtain ⟨t, ht⟩ := hf hnot
    rw [Scene.after_provider, ht, Inventory.reply_refused ht]

theorem look (hs : Accounted c s) (hd : d.creation? = none) :
    (Action.perform d).Ensures (Inventory.honest home) s
      (fun x t => Accounted c t ∧ Inventory.reply home d s.provider = (.ok x, t.provider))
      fun f t => Accounted c t ∧
        (f.isNotFound = true → Inventory.reply home d t.provider = (.error f, t.provider)) := by
  refine hs.perform (.refl c) (fun r hr => ?_) fun a n hr => ?_
  · rw [hd] at hr
    cases hr
  · rw [hd] at hr
    cases hr

/-- A call that creates no container but something else that the configuration names. -/
theorem keeps_perform (hnamed : ∀ r, d.creation? = some r → c.Names r)
    (hplace : ∀ a n, d.creation? ≠ some (.container a n)) :
    Action.Keeps (Inventory.honest home) (Accounted c) (Action.perform d) :=
  fun _ hs =>
    (hs.perform (.refl c) hnamed fun a n hr => absurd hr (hplace a n)).mono
      (fun _ _ ht => ht.1) fun _ _ ht => ht.1

theorem keeps_look (hd : d.creation? = none) :
    Action.Keeps (Inventory.honest home) (Accounted c) (Action.perform d) :=
  fun _ hs => (hs.look hd).mono (fun _ _ ht => ht.1) fun _ _ ht => ht.1

end Accounted

/-! ## Private access -/

namespace Isolation

variable {home scope : Scope} {c : StorageConfig} {tags : Tags}

/-- Everything that DNS needs carries the name of the account or hangs on the endpoint. -/
theorem configureDns_keeps {endpoint : Endpoint} {vnet group : String} (hne : c.account ≠ "")
    (hendpoint : c.network.endpoint? = some endpoint.name) :
    Action.Keeps (Inventory.honest home) (Accounted c)
      (configureDns scope endpoint vnet group c.account tags) := by
  have hsome : c.network.endpoint? ≠ none := by
    rw [hendpoint]
    exact Option.some_ne_none _
  refine configureDns_keeps_of (Accounted.keeps_look rfl) (fun _ => Accounted.keeps_look rfl)
    (fun _ => Accounted.keeps_perform ?_ fun _ _ => nofun)
    (Accounted.keeps_perform ?_ fun _ _ => nofun) (Accounted.keeps_perform ?_ fun _ _ => nofun)
  · rintro r ⟨⟩
    exact ⟨rfl, rfl, hne, hsome⟩
  · rintro r ⟨⟩
    exact ⟨hendpoint, rfl⟩
  · rintro r ⟨⟩
    exact ⟨rfl, rfl, hne, hsome⟩

theorem configure_keeps {network : InternalNetwork} (hne : c.account ≠ "")
    (hendpoint : c.network.endpoint? = some network.endpoint) :
    Action.Keeps (Inventory.honest home) (Accounted c)
      (configure scope c.account tags network) := by
  intro s hs
  refine (Action.ensures_bind _).2 ((hs.perform (.refl c) ?_ ?_).mono ?_ fun _ _ ht => ht.1)
  · rintro r ⟨⟩
    exact hendpoint
  · rintro a n ⟨⟩
  · rintro endpoint t ⟨ht, hreply⟩
    have hname : endpoint.name = network.endpoint := by
      rw [← Except.ok.inj (Prod.mk.inj hreply).1]
      rfl
    refine Action.Keeps.bind (configureDns_keeps hne (hname ▸ hendpoint)) (fun _ => ?_) t ht
    exact Action.keeps_pure endpoint

end Isolation

/-! ## Creating -/

namespace Assure

variable {home scope : Scope} {c : StorageConfig} {infra : Infrastructure} {fresh : Fresh}
variable {s : Scene Inventory}

theorem account_accounted {environment : CloudEnvironment} (hs : Accounted c s) :
    (account scope environment c infra fresh).Ensures (Inventory.honest home) s
      (fun a t => Accounted (Storage.accountNamed a.name c) t ∧ a.name ≠ "")
      fun _ t => Accounted c t := by
  rw [account_ensures]
  refine ⟨fun _ _ => hs, fun name generated hname => ?_⟩
  -- the name is not in the record before the call, but it is there whatever comes of it
  obtain ⟨hne, hc⟩ := accountName_keeps hname
  have hu : c.Under (Storage.accountNamed name c) := StorageConfig.under_accountNamed hc
  refine (hs.look rfl).mono ?_ fun _ _ ht => ht.1
  rintro availability t ⟨ht, -⟩
  split
  · refine (ht.perform hu ?_ ?_).mono (fun _ _ hv => ⟨hv.1, hne⟩) fun _ _ hv => hv.1
    · rintro r ⟨⟩
      exact ⟨by simp [AccountRequest.forRegistry], hne⟩
    · rintro a n ⟨⟩
  · split
    · exact ht
    · exact ⟨ht.mono hu, hne⟩

theorem privateNetwork_keeps {network : InternalNetwork} {a : Assured} (ha : c.account = a.name)
    (hne : a.name ≠ "") (hendpoint : c.network.endpoint? = some network.endpoint) :
    Action.Keeps (Inventory.honest home) (Accounted c)
      (privateNetwork scope infra a network) := by
  have hconfigure : Action.Keeps (Inventory.honest home) (Accounted c)
      (Isolation.configure scope c.account infra.tags network) :=
    Isolation.configure_keeps (ha ▸ hne) hendpoint
  rw [ha] at hconfigure
  intro s hs
  rw [privateNetwork_ensures]
  split
  · exact hconfigure s hs
  · refine (hs.look rfl).mono ?_ fun f t ht => ?_
    · rintro endpoint t ⟨ht, hreply⟩
      -- an endpoint that is found gives the name it was asked for by
      have hname : endpoint.name = network.endpoint := by
        obtain ⟨stored, hstored, rfl, -⟩ := Inventory.reply_endpoint hreply
        exact hs.plain.named _ stored hstored
      have hdns : Action.Keeps (Inventory.honest home) (Accounted c)
          (Isolation.configureDns scope endpoint network.vnet
            (Isolation.networkGroup scope network) c.account infra.tags) :=
        Isolation.configureDns_keeps (ha ▸ hne) (hname ▸ hendpoint)
      rw [ha] at hdns
      exact hdns t ht
    · split
      · exact hconfigure t ht.1
      · exact ht.1

/-- The key of an account is had only if the account is there. -/
theorem primaryKey_accounted {account : String} (hs : Accounted c s) :
    (Probe.primaryKey account).Ensures (Inventory.honest home) s
      (fun _ t => Accounted c t ∧ t.provider.has (.account account) = true)
      fun f t => Accounted c t ∧
        (f.isNotFound = true → t.provider.has (.account account) = false) := by
  have hkept : Action.Keeps (Inventory.honest home) (Accounted c) (Probe.primaryKey account) :=
    Probe.primaryKey_keeps_of (Accounted.keeps_look rfl)
  refine ((hkept s hs).and Probe.primaryKey_honest).mono ?_ ?_
  · rintro key t ⟨ht, hsame, hthere⟩
    rw [← hsame] at hthere
    exact ⟨ht, hthere⟩
  · rintro f t ⟨ht, hsame, hgone⟩
    rw [← hsame] at hgone
    exact ⟨ht, hgone⟩

theorem containerExists_keeps {account key container : String} :
    Action.Keeps (Inventory.honest home) (Accounted c)
      (Probe.containerExists account key container) := by
  unfold Probe.containerExists
  split
  · exact Action.keeps_pure false
  · exact Accounted.keeps_look rfl

theorem container_accounted (hs : Accounted c s) (hne : c.account ≠ "") :
    (container c infra fresh).Ensures (Inventory.honest home) s
      (fun a t => Accounted { c with container := a.name } t) fun _ t => Accounted c t := by
  -- a container of that name is created once the account is known to be there
  have hcreate : ∀ {t : Scene Inventory} {key name : String}, Accounted c t →
      t.provider.has (.account c.account) = true → c.container = "" ∨ c.container = name →
      name ≠ "" →
      (Action.perform (.createContainer c.account key name)).Ensures
        (Inventory.honest home) t
        (fun _ u => Accounted { c with container := name } u) fun _ u => Accounted c u := by
    intro t key name ht hthere hname hnamene
    refine (ht.perform (StorageConfig.under_withContainer hname) ?_ ?_).mono
      (fun _ _ hu => hu.1) fun _ _ hu => hu.1
    · rintro r ⟨⟩
      exact ⟨rfl, hne, rfl, hnamene⟩
    · rintro a n ⟨⟩
      exact hthere
  rw [container_ensures]
  split
  · rename_i hempty
    refine (primaryKey_accounted hs).mono ?_ fun _ _ ht => ht.1
    rintro key t ⟨ht, hthere⟩
    have hgenerated := Naming.isContainerName_containerName infra.name fresh.serial
    exact hcreate ht hthere (Or.inl hempty) (Naming.ne_empty_of_isContainerName hgenerated)
  · rename_i hempty
    refine ⟨fun _ _ => hs, fun _ => ?_⟩
    refine (primaryKey_accounted hs).mono ?_ fun _ _ ht => ht.1
    rintro key t ⟨ht, hthere⟩
    unfold Probe.containerExists
    rw [if_neg (not_or.2 ⟨hne, hempty⟩)]
    refine (ht.look rfl).mono ?_ fun _ _ hu => hu.1
    rintro there u ⟨hu, hreply⟩
    have hsame : t.provider = u.provider := (Prod.mk.inj hreply).2
    split
    · exact hu
    · exact hcreate hu (hsame ▸ hthere) (Or.inr rfl) hempty

end Assure

namespace Storage

variable {home scope : Scope} {c : StorageConfig} {infra : Infrastructure} {fresh : Fresh}
variable {s : Scene Inventory} {w : Work} {now : Moment}

theorem openPrivately_keeps {a : Assured} (hne : a.name ≠ "") :
    Action.Keeps (Inventory.honest home) (Accounted (accountNamed a.name c))
      (openPrivately scope infra a (accountNamed a.name c)) := by
  unfold openPrivately
  split
  · rename_i network hnetwork
    exact Assure.privateNetwork_keeps (StorageConfig.accountNamed_account a.name c) hne
      (StorageConfig.accountNamed_endpoint hnetwork)
  · exact Action.keeps_pure ()

theorem closePublicly_keeps (config : StorageConfig) :
    Action.Keeps (Inventory.honest home) (Accounted c) (closePublicly config) :=
  closePublicly_keeps_of (Accounted.keeps_look rfl) (Accounted.keeps_look rfl)

/-- **Creating keeps the record true**, wherever it fails. -/
theorem furnish_accounted {environment : CloudEnvironment} (hs : Accounted w.config s) :
    (furnish scope environment infra fresh now).Ensures (Inventory.honest home) w s
      (fun _ v t => Accounted v.state.spec t) fun _ v t => Accounted v.state.spec t := by
  rw [furnish_ensures]
  refine (Assure.account_accounted hs).mono ?_ fun _ _ ht => ht
  rintro account t ⟨ht, hne⟩
  refine (openPrivately_keeps hne t ht).mono (fun _ u hu => ?_) fun _ _ hu => hu
  have haccount : (accountNamed account.name w.config).account ≠ "" := by
    rwa [StorageConfig.accountNamed_account]
  refine (Assure.container_accounted hu haccount).mono (fun container v hv => ?_) fun _ _ hv => hv
  exact (closePublicly_keeps _ v hv).mono (fun _ _ ht => ht) fun _ _ ht => ht

theorem create_accounted {settings : Settings} {credentials : ClusterCredentials}
    (hc : settings.credentials = .ok (.cluster credentials)) (hs : Accounted w.config s)
    (hw : w.state.spec = w.config) :
    (create settings infra fresh now).Ensures (Inventory.honest home) w s
      (fun _ v t => Accounted v.state.spec t) fun _ v t => Accounted v.state.spec t := by
  have hspec : Accounted w.state.spec s := hw ▸ hs
  rw [create_ensures hc, provision_ensures]
  refine ⟨fun _ => hspec, fun _ => ⟨fun _ _ => hspec, fun _ => ⟨fun _ _ => hspec, ?_⟩⟩⟩
  intro environment _
  refine ((hspec.look rfl).mono (fun _ t ht => ?_) fun _ _ ht => ht.1)
  have htaken : Accounted (takeCloud infra w.config) t :=
    (hw ▸ ht.1).mono (StorageConfig.under_takeCloud infra)
  exact furnish_accounted (w := w.withConfig (takeCloud infra w.config)) htaken

end Storage

/-! ## Taking down -/

/-- The configuration names what the run holds, and of some resources nothing is held. -/
structure Cleared (c : StorageConfig) (gone : List Resource) (s : Scene Inventory) : Prop where
  accounted : Accounted c s
  gone : ∀ x ∈ gone, ∀ r, s.journal.Holds r → r.within x = false

namespace Cleared

variable {home : Scope} {c : StorageConfig} {gone : List Resource} {s : Scene Inventory}

theorem of_accounted (hs : Accounted c s) : Cleared c [] s := ⟨hs, fun _ h => nomatch h⟩

/-- Once a deletion is through, or there was nothing to delete, the resource is gone. -/
theorem delete {d : Call} {x : Resource} (hs : Cleared c gone s) (hd : d.deletion? = some x) :
    (Action.perform d).Ensures (Inventory.honest home) s (fun _ t => Cleared c (x :: gone) t)
      fun f t => if f.isNotFound then Cleared c (x :: gone) t else Accounted c t := by
  have hcreation : d.creation? = none := by
    cases d <;> first | rfl | cases hd
  refine ((hs.accounted.look hcreation).and (hs.accounted.sound.ensures_delete hd)).mono ?_ ?_
  · rintro _ t ⟨⟨ht, -⟩, -, hholds⟩
    refine ⟨ht, fun y hy r hr => ?_⟩
    rcases List.mem_cons.1 hy with rfl | hy
    · exact (hholds r hr).2
    · exact hs.gone y hy r (hholds r hr).1
  · rintro f t ⟨⟨ht, -⟩, -, hholds⟩
    split
    · rename_i hnot
      refine ⟨ht, fun y hy r hr => ?_⟩
      rcases List.mem_cons.1 hy with rfl | hy
      · exact (hholds r hr).2 hnot
      · exact hs.gone y hy r (hholds r hr).1
    · exact ht

/-- A configuration that drops only names of what is gone still accounts for the rest. -/
theorem forget {c' : StorageConfig} (hs : Cleared c gone s)
    (h : ∀ r, c.Names r → (∀ x ∈ gone, r.within x = false) → c'.Names r) : Cleared c' gone s :=
  ⟨⟨hs.accounted.sound, hs.accounted.plain, fun r hr =>
    h r (hs.accounted.named r hr) fun x hx => hs.gone x hx r hr⟩, hs.gone⟩

end Cleared

namespace Storage

variable {home : Scope} {gone : List Resource} {s : Scene Inventory} {w : Work} {now : Moment}

theorem removeDns_cleared {c : StorageConfig} {endpoint account : String}
    (hs : Cleared c gone s) :
    (Isolation.removeDns endpoint account).Ensures (Inventory.honest home) s
      (fun _ t => Cleared c (.link Isolation.zone account ::
        .zoneGroup endpoint Isolation.zoneGroup :: .aRecord Isolation.zone account :: gone) t)
      fun _ t => Accounted c t := by
  have hrecord : (Action.tolerant (Action.perform (.deleteARecord Isolation.zone account))).Ensures
      (Inventory.honest home) s _ _ := (Action.ensures_tolerant _).2 (hs.delete rfl)
  refine (Action.ensures_bind _).2 (hrecord.mono (fun _ t ht => ?_) fun _ _ ht => ht)
  have hgroup : (Action.tolerant
      (Action.perform (.deleteZoneGroup endpoint Isolation.zoneGroup))).Ensures
      (Inventory.honest home) t _ _ := (Action.ensures_tolerant _).2 (ht.delete rfl)
  refine (Action.ensures_bind _).2 (hgroup.mono (fun _ u hu => ?_) fun _ _ hu => hu)
  exact (Action.ensures_tolerant _).2 (hu.delete rfl)

/-- Removing private access forgets the endpoint once all that hangs on it is gone. -/
theorem removePrivateNetwork_cleared (hs : Cleared w.config gone s)
    (hw : w.state.spec = w.config) :
    (removePrivateNetwork now w.config.account).Ensures (Inventory.honest home) w s
      (fun _ v t => Cleared v.config gone t ∧ v.state.spec = v.config ∧
        v.config = forgetEndpoint w.config)
      fun _ v t => Accounted v.state.spec t := by
  rw [removePrivateNetwork_ensures]
  split
  · rename_i hnone
    exact ⟨hs, hw, (StorageConfig.forgetEndpoint_of_none hnone).symm⟩
  · rename_i endpoint hendpoint
    refine (removeDns_cleared hs).mono (fun _ t ht => ?_) fun _ _ ht => hw ▸ ht
    have hdelete : (Action.tolerant (Action.perform (.deleteEndpoint endpoint))).Ensures
        (Inventory.honest home) t _ _ := (Action.ensures_tolerant _).2 (ht.delete rfl)
    refine hdelete.mono (fun _ u hu => ?_) fun _ _ hu => hw ▸ hu
    -- four kinds of resources depend on the name of the endpoint, and all four are gone
    have hforget : Cleared (forgetEndpoint w.config) _ u := hu.forget fun r hr hgone =>
      hr.forgetEndpoint hendpoint (Resource.ne_of_within (hgone _ (by simp)))
        (Resource.ne_of_within (hgone _ (by simp))) (Resource.ne_of_within (hgone _ (by simp)))
        (Resource.ne_of_within (hgone _ (by simp)))
    refine ⟨⟨hforget.accounted, fun x hx => hforget.gone x ?_⟩, congrArg forgetEndpoint hw, rfl⟩
    simp [hx]

theorem removeContainer_cleared {key : String} (hs : Cleared w.config gone s)
    (hw : w.state.spec = w.config) :
    (removeContainer now w.config.account key w.config.container).Ensures (Inventory.honest home) w s
      (fun _ v t => Cleared v.config gone t ∧ v.state.spec = v.config ∧
        v.config = forgetContainer w.config)
      fun _ v t => Accounted v.state.spec t := by
  rw [removeContainer_ensures]
  have hdelete : (Action.tolerant (Action.perform
      (.deleteContainer w.config.account key w.config.container))).Ensures
      (Inventory.honest home) s _ _ := (Action.ensures_tolerant _).2 (hs.delete rfl)
  refine hdelete.mono (fun _ t ht => ?_) fun _ _ ht => hw ▸ ht
  have hforget : Cleared (forgetContainer w.config) _ t := ht.forget fun r hr hgone =>
    hr.forgetContainer (Resource.ne_of_within (hgone _ List.mem_cons_self))
  refine ⟨⟨hforget.accounted, fun x hx => hforget.gone x ?_⟩, congrArg forgetContainer hw, rfl⟩
  exact List.mem_cons_of_mem _ hx

theorem removeAccount_cleared (hs : Cleared w.config gone s) (hw : w.state.spec = w.config)
    (hnone : w.config.network.endpoint? = none) :
    (removeAccount now w.config.account).Ensures (Inventory.honest home) w s
      (fun _ v t => Accounted v.state.spec t) fun _ v t => Accounted v.state.spec t := by
  rw [removeAccount_ensures]
  have hdelete : (Action.tolerant (Action.perform (.deleteAccount w.config.account))).Ensures
      (Inventory.honest home) s _ _ := (Action.ensures_tolerant _).2 (hs.delete rfl)
  refine hdelete.mono (fun _ t ht => ?_) fun _ _ ht => hw ▸ ht
  have hforget : Cleared (forgetAccount w.config) _ t := ht.forget fun r hr hgone =>
    hr.forgetAccount hnone (hgone _ List.mem_cons_self)
  show Accounted (forgetAccount w.state.spec) t
  rw [hw]
  exact hforget.accounted

/-- **Taking down keeps the record true**, wherever it fails. -/
theorem dismantle_accounted (hs : Accounted w.config s) (hw : w.state.spec = w.config) :
    (dismantle now).Ensures (Inventory.honest home) w s
      (fun _ v t => Accounted v.state.spec t) fun _ v t => Accounted v.state.spec t := by
  -- private access and then the account, once the container is out of the way
  have hrest : ∀ {v : Work} {t : Scene Inventory}, Cleared v.config [] t → v.state.spec = v.config →
      (removePrivateNetwork now v.config.account).Ensures (Inventory.honest home) v t
        (fun _ u r => (removeAccount now v.config.account).Ensures (Inventory.honest home) u r
          (fun _ u r => Accounted u.state.spec r) fun _ u r => Accounted u.state.spec r)
        fun _ u r => Accounted u.state.spec r := by
    intro v t ht hv
    refine (removePrivateNetwork_cleared ht hv).mono (fun _ u r hu => ?_) fun _ _ _ hu => hu
    obtain ⟨hr, hspec, hconfig⟩ := hu
    have haccount : u.config.account = v.config.account := by rw [hconfig]; rfl
    rw [← haccount]
    refine removeAccount_cleared hr hspec ?_
    rw [hconfig]
    exact StorageConfig.forgetEndpoint_endpoint? v.config
  rw [dismantle_ensures]
  dsimp only
  split
  · exact hrest (.of_accounted hs) hw
  · rw [keyUnlessGone_ensures]
    refine (Assure.primaryKey_accounted hs).mono (fun key t ht => ?_) fun f t ht => ?_
    · refine (removeContainer_cleared (.of_accounted ht.1) hw).mono (fun _ v u hu => ?_)
        fun _ _ _ hu => hu
      obtain ⟨hu, hspec, hconfig⟩ := hu
      have haccount : v.config.account = w.config.account := by rw [hconfig]; rfl
      rw [← haccount]
      exact hrest hu hspec
    · split
      · rename_i hnot
        -- with the account all its containers are gone, so both names can be forgotten
        have hcleared : Cleared w.config [.account w.config.account] t := by
          refine ⟨ht.1, fun x hx r hr => ?_⟩
          rw [List.mem_singleton.1 hx]
          exact Bool.eq_false_iff.2 fun hwithin => ht.1.sound.not_holds (ht.2 hnot) hwithin hr
        refine (removePrivateNetwork_cleared hcleared hw).mono (fun _ v u hu => ?_) fun _ _ _ hu => hu
        obtain ⟨hu, hspec, hconfig⟩ := hu
        have hnone : v.config.network.endpoint? = none := by
          rw [hconfig]
          exact StorageConfig.forgetEndpoint_endpoint? w.config
        have haccount : v.config.account = w.config.account := by rw [hconfig]; rfl
        show Accounted (forgetContainer (forgetAccount v.state.spec)) u
        rw [hspec]
        refine (hu.forget fun r hr hgone => ?_).accounted
        have hr' := hr.forgetAccount hnone (haccount ▸ hgone _ List.mem_cons_self)
        refine hr'.forgetContainer ?_
        rintro rfl
        exact hr'.2.1 rfl
      · exact hw ▸ ht.1

theorem remove_accounted {settings : Settings} {credentials : ClusterCredentials}
    (hc : settings.credentials = .ok (.cluster credentials)) (hs : Accounted w.config s)
    (hw : w.state.spec = w.config) :
    (remove settings now).Ensures (Inventory.honest home) w s
      (fun _ v t => Accounted v.state.spec t) fun _ v t => Accounted v.state.spec t := by
  have hspec : Accounted w.state.spec s := hw ▸ hs
  rw [remove_ensures hc]
  split
  · exact hspec
  · split
    · exact hspec
    · refine ⟨fun _ _ => hspec, fun environment _ => ?_⟩
      refine (hspec.look rfl).mono (fun _ t ht => ?_) fun _ _ ht => ht.1
      exact dismantle_accounted (hw ▸ ht.1) hw

theorem checkExists_accounted {settings : Settings} (hs : Accounted w.state.spec s) :
    (checkExists settings now).Ensures (Inventory.honest home) w s
      (fun _ v t => Accounted v.state.spec t) fun _ v t => Accounted v.state.spec t := by
  rw [checkExists_ensures]
  dsimp only
  split
  · exact hs
  · refine ⟨fun _ _ => hs, fun credentials _ => ⟨fun _ _ => hs, fun environment _ => ?_⟩⟩
    -- looking is two calls at most, and neither creates anything
    have hkey : Action.Keeps (Inventory.honest home) (Accounted w.state.spec)
        (accessKey environment w.config.account credentials) := by
      cases credentials with
      | userManaged key => exact (Accounted.keeps_look rfl).bind fun _ => Action.keeps_pure key
      | cluster credentials =>
        refine (Accounted.keeps_look rfl).bind fun _ => fun t ht => ?_
        exact (Assure.primaryKey_accounted ht).mono (fun _ _ hu => hu.1) fun _ _ hu => hu.1
    refine (hkey s hs).mono (fun key t ht => ?_) fun _ _ ht => ht
    refine (Assure.containerExists_keeps t ht).mono (fun there u hu => ?_) fun _ _ hu => hu
    unfold found
    split <;> exact hu

end Storage

/-! ## Whole runs -/

/-- What a world keeps from turn to turn: the record names all that is held. -/
def World.Accounted (w : World) : Prop := RegistryStorage.Accounted w.state.spec w.scene

theorem World.Accounted.initial {state : StorageState} {inventory : Inventory}
    (hplain : inventory.Plain) : (World.initial state inventory).Accounted :=
  ⟨Sound.of_no_journal, hplain, fun _ h => absurd h Journal.holds_nil⟩

/-- **One turn.** Whatever is asked for and wherever it fails. -/
theorem World.Accounted.take {settings : Settings} {credentials : ClusterCredentials} {home : Scope}
    (hc : settings.credentials = .ok (.cluster credentials)) {w : World} {t : Turn}
    (hw : w.Accounted) (ht : t.Honest) : (w.take settings home t).2.Accounted := by
  refine World.take_keeps ht ?_
  cases t.order with
  | create infra fresh => exact Storage.create_accounted hc hw rfl
  | remove => exact Storage.remove_accounted hc hw rfl
  | checkExists =>
    refine (Invocation.ensures_bind _).2 ?_
    have hlook : (Storage.checkExists settings t.now).Ensures (Inventory.honest home)
        ⟨w.state.spec, w.state⟩ w.scene (fun _ v s => World.Accounted ⟨v.state, s⟩)
        fun _ v s => World.Accounted ⟨v.state, s⟩ := Storage.checkExists_accounted hw
    exact hlook.mono (fun _ _ _ hv => hv) fun _ _ _ hv => hv

/-- **Nothing is created without a record of it.** After every run of invocations, each of which
may fail at any call, whatever the run has created and not deleted since is named by the record,
and exists. -/
theorem held_is_recorded {settings : Settings} {credentials : ClusterCredentials}
    (hc : settings.credentials = .ok (.cluster credentials)) (home : Scope) (state : StorageState)
    (inventory : Inventory) (hplain : inventory.Plain) (turns : List Turn)
    (hhonest : ∀ t ∈ turns, t.Honest) :
    let w := (World.initial state inventory).after settings home turns
    ∀ r, w.scene.journal.Holds r → w.state.spec.Names r ∧ w.scene.provider.has r = true := by
  intro w r hr
  have hw : w.Accounted := by
    exact World.after_keeps (fun v hv t ht => hv.take hc (hhonest t ht)) (.initial hplain)
  exact ⟨hw.named r hr, hw.sound r r hr (Resource.within_self r)⟩

/-- A run that creates an account and is refused the container is left with the account, and with
its generated name in the record. -/
theorem held_is_recorded_after_refusal :
    let turns : List Turn := [⟨.create ⟨"mycluster", none⟩ ⟨⟨[], 0⟩, 0⟩, default,
      [none, none, none, none, some (.api "refused")]⟩]
    let w := (World.initial {} {}).after clusterSettings clusterSettings.cluster.scope turns
    (∀ t ∈ turns, t.Honest) ∧ w.scene.journal.Holds (.account "imageregistrymyclusaaaaa") ∧
      w.state.spec.Names (.account "imageregistrymyclusaaaaa") := by
  intro turns w
  have hplain : ({} : Inventory).Plain := ⟨rfl, nofun, nofun⟩
  have hhonest : ∀ t ∈ turns, t.Honest := by decide
  have hheld : w.scene.journal.Holds (.account "imageregistrymyclusaaaaa") := by decide +kernel
  have hrecorded := held_is_recorded clusterSettings_credentials clusterSettings.cluster.scope {} {}
    hplain turns hhonest
  exact ⟨hhonest, hheld, (hrecorded _ hheld).1⟩

end RegistryStorage
