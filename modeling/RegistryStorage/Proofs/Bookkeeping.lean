import RegistryStorage.Proofs.GeneratedNames
import RegistryStorage.Proofs.Phases

/-!
What an invocation writes, whatever the provider does.

The facts here hold against any conduct: of honest providers, of broken ones, of such as lose
answers. Creating only adds names to the configuration (`StorageConfig.Under`), and the names that
it adds are names of their kind. A record that the program owns stays in order (`Orderly`): its
cloud is one that exists, what was put in place bears the names that are wanted, and an account is
forgotten only with everything else. So once a removal has gone through there is no name left
(`Storage.remove_blank`).
-/

set_option autoImplicit false

namespace RegistryStorage

/-! ## Names in a configuration -/

theorem NetworkAccess.exists_of_isInternal {access : NetworkAccess}
    (h : access.isInternal = true) : ∃ network, access = .internal network := by
  cases access with
  | internal network => exact ⟨network, rfl⟩
  | external => cases h

namespace StorageConfig

/-- Every name that the first configuration gives is given by the second as well. -/
structure Under (c c' : StorageConfig) : Prop where
  account : c.account = "" ∨ c.account = c'.account
  container : c.container = "" ∨ c.container = c'.container
  endpoint : ∀ e, c.network.endpoint? = some e → c'.network.endpoint? = some e

/-- The configuration names neither an account nor a container nor an endpoint. -/
structure Blank (c : StorageConfig) : Prop where
  account : c.account = ""
  container : c.container = ""
  endpoint : c.network.endpoint? = none

variable {c c' c'' : StorageConfig}

theorem Under.refl (c : StorageConfig) : c.Under c := ⟨.inr rfl, .inr rfl, fun _ h => h⟩

theorem Under.trans (h : c.Under c') (h' : c'.Under c'') : c.Under c'' := by
  refine ⟨?_, ?_, fun e he => h'.endpoint e (h.endpoint e he)⟩
  · rcases h.account with h | h
    · exact Or.inl h
    · rw [h]
      exact h'.account
  · rcases h.container with h | h
    · exact Or.inl h
    · rw [h]
      exact h'.container

theorem Under.blank (h : c.Under c') (hb : c'.Blank) : c.Blank := by
  refine ⟨?_, ?_, ?_⟩
  · exact h.account.elim id fun h => h.trans hb.account
  · exact h.container.elim id fun h => h.trans hb.container
  · match he : c.network.endpoint? with
    | none => rfl
    | some e => exact absurd (h.endpoint e he) (by rw [hb.endpoint]; exact nofun)

/-! ### Choosing names -/

theorem takeCloud_names (infra : Infrastructure) (c : StorageConfig) :
    (Storage.takeCloud infra c).account = c.account ∧
      (Storage.takeCloud infra c).container = c.container ∧
      (Storage.takeCloud infra c).network = c.network := by
  unfold Storage.takeCloud
  split
  · split <;> exact ⟨rfl, rfl, rfl⟩
  · exact ⟨rfl, rfl, rfl⟩

theorem takeCloud_account (infra : Infrastructure) (c : StorageConfig) :
    (Storage.takeCloud infra c).account = c.account :=
  (takeCloud_names infra c).1

theorem takeCloud_container (infra : Infrastructure) (c : StorageConfig) :
    (Storage.takeCloud infra c).container = c.container :=
  (takeCloud_names infra c).2.1

theorem takeCloud_network (infra : Infrastructure) (c : StorageConfig) :
    (Storage.takeCloud infra c).network = c.network :=
  (takeCloud_names infra c).2.2

theorem under_takeCloud (infra : Infrastructure) : c.Under (Storage.takeCloud infra c) := by
  obtain ⟨haccount, hcontainer, hnetwork⟩ := takeCloud_names infra c
  exact ⟨Or.inr haccount.symm, Or.inr hcontainer.symm, fun e he => by rwa [hnetwork]⟩

theorem Blank.takeCloud (h : c.Blank) (infra : Infrastructure) :
    (Storage.takeCloud infra c).Blank := by
  obtain ⟨haccount, hcontainer, hnetwork⟩ := takeCloud_names infra c
  exact ⟨haccount.trans h.account, hcontainer.trans h.container, hnetwork ▸ h.endpoint⟩

@[simp] theorem accountNamed_account (n : String) (c : StorageConfig) :
    (Storage.accountNamed n c).account = n := by
  unfold Storage.accountNamed nameEndpoint
  split <;> rfl

@[simp] theorem accountNamed_container (n : String) (c : StorageConfig) :
    (Storage.accountNamed n c).container = c.container := by
  unfold Storage.accountNamed nameEndpoint
  split <;> rfl

@[simp] theorem accountNamed_cloud (n : String) (c : StorageConfig) :
    (Storage.accountNamed n c).cloud = c.cloud := by
  unfold Storage.accountNamed nameEndpoint
  split <;> rfl

theorem endpointName_ne_empty (n : String) : Naming.endpointName n ≠ "" := by
  intro h
  have hlength := congrArg String.length h
  simp [Naming.endpointName] at hlength

/-- Once the account is named, private access has an endpoint of some name. -/
theorem accountNamed_endpoint {n : String} {network : InternalNetwork}
    (h : (Storage.accountNamed n c).network = .internal network) :
    (Storage.accountNamed n c).network.endpoint? = some network.endpoint := by
  rw [h]
  unfold Storage.accountNamed nameEndpoint at h
  split at h
  · rename_i old _
    cases h
    -- one that had no name was just given one, which is not empty
    have hne : (Isolation.nameEndpoint n old).endpoint ≠ "" := by
      unfold Isolation.nameEndpoint
      split
      · exact endpointName_ne_empty n
      · assumption
    rw [NetworkAccess.endpoint?, if_neg hne]
  · rename_i hexternal
    rw [h] at hexternal
    cases hexternal

@[simp] theorem accountNamed_isInternal (n : String) (c : StorageConfig) :
    (Storage.accountNamed n c).network.isInternal = c.network.isInternal := by
  unfold Storage.accountNamed nameEndpoint
  cases c.network <;> rfl

theorem under_accountNamed {n : String} (h : c.account = "" ∨ c.account = n) :
    c.Under (Storage.accountNamed n c) := by
  refine ⟨by simpa using h, by simp, fun e he => ?_⟩
  unfold Storage.accountNamed nameEndpoint
  cases hnetwork : c.network with
  | external =>
    rw [hnetwork] at he
    cases he
  | internal network =>
    rw [hnetwork] at he
    -- a name that is there is not replaced
    have hne : network.endpoint ≠ "" := fun h => by simp [NetworkAccess.endpoint?, h] at he
    simpa [Isolation.nameEndpoint, hne] using he

theorem under_withContainer {n : String} (h : c.container = "" ∨ c.container = n) :
    c.Under { c with container := n } := ⟨.inr rfl, h, fun _ he => he⟩

/-! ### Forgetting names -/

theorem forgetEndpoint_of_none (h : c.network.endpoint? = none) : Storage.forgetEndpoint c = c := by
  obtain ⟨account, container, cloud, network⟩ := c
  cases network with
  | external => rfl
  | internal network =>
    have hempty : network.endpoint = "" := by
      simpa [NetworkAccess.endpoint?] using h
    obtain ⟨vnet, subnet, group, endpoint⟩ := network
    cases hempty
    rfl

theorem forgetEndpoint_endpoint? (c : StorageConfig) :
    (Storage.forgetEndpoint c).network.endpoint? = none := by
  unfold Storage.forgetEndpoint
  cases c.network <;> rfl

theorem Under.forgetEndpoint (h : c.Under c') :
    (Storage.forgetEndpoint c).Under (Storage.forgetEndpoint c') :=
  ⟨h.account, h.container, fun e he => absurd he (by rw [forgetEndpoint_endpoint?]; exact nofun)⟩

theorem Under.forgetAccount (h : c.Under c') :
    (Storage.forgetAccount c).Under (Storage.forgetAccount c') :=
  ⟨Or.inl rfl, h.container, h.endpoint⟩

theorem Under.forgetContainer (h : c.Under c') :
    (Storage.forgetContainer c).Under (Storage.forgetContainer c') :=
  ⟨h.account, Or.inl rfl, h.endpoint⟩

end StorageConfig

/-! ## The names that creating chooses -/

namespace Assure

variable {σ : Type} {R : Conduct σ} {s : σ} {scope : Scope} {environment : CloudEnvironment}
variable {c : StorageConfig} {infra : Infrastructure} {fresh : Fresh}

/-- The name to use is drawn, or it is the configured one. -/
theorem accountName_cases {name : String} {generated : Bool}
    (h : accountName c infra fresh = .ok (name, generated)) :
    (c.account = "" ∧ name = (Naming.accountName infra.name fresh.draws).1 ∧ generated = true) ∨
      (c.account ≠ "" ∧ name = c.account ∧ generated = false) := by
  unfold accountName at h
  split at h
  · rename_i hempty
    cases h
    exact Or.inl ⟨hempty, rfl, rfl⟩
  · rename_i hne
    unfold Naming.validateAccountName at h
    split at h
    · cases h
      exact Or.inr ⟨hne, rfl, rfl⟩
    · cases h

/-- Either way it is a name, and it does not replace a configured one. -/
theorem accountName_keeps {name : String} {generated : Bool}
    (h : accountName c infra fresh = .ok (name, generated)) :
    name ≠ "" ∧ (c.account = "" ∨ c.account = name) := by
  rcases accountName_cases h with ⟨hempty, rfl, -⟩ | ⟨hne, rfl, -⟩
  · have hname := Naming.isAccountName_accountName infra.name fresh.draws
    exact ⟨Naming.ne_empty_of_isAccountName hname, Or.inl hempty⟩
  · exact ⟨hne, Or.inr rfl⟩

/-- The account that is there in the end is the configured one, if one is configured. -/
theorem account_named :
    (account scope environment c infra fresh).Ensures R s
      (fun a _ => a.name ≠ "" ∧ (c.account = "" ∨ c.account = a.name)) fun _ _ => True := by
  rw [account_ensures]
  refine ⟨fun _ _ => trivial, fun name generated hname => ?_⟩
  have hchosen := accountName_keeps hname
  refine .of_forall (fun availability t => ?_) fun _ _ => trivial
  split
  · exact .of_forall (fun _ _ => hchosen) fun _ _ => trivial
  · split
    · trivial
    · exact hchosen

/-- The container that is there in the end is the configured one, if one is configured. -/
theorem container_named :
    (container c infra fresh).Ensures R s
      (fun a _ => a.name ≠ "" ∧ (c.container = "" ∨ c.container = a.name)) fun _ _ => True := by
  rw [container_ensures]
  split
  · rename_i hempty
    have hname := Naming.isContainerName_containerName infra.name fresh.serial
    refine .of_forall (fun key t => ?_) fun _ _ => trivial
    refine .of_forall (fun _ _ => ⟨?_, Or.inl hempty⟩) fun _ _ => trivial
    exact Naming.ne_empty_of_isContainerName hname
  · rename_i hempty
    refine ⟨fun _ _ => trivial, fun _ => ?_⟩
    refine .of_forall (fun key t => .of_forall (fun there u => ?_) fun _ _ => trivial)
      fun _ _ => trivial
    split
    · exact ⟨hempty, Or.inr rfl⟩
    · exact .of_forall (fun _ _ => ⟨hempty, Or.inr rfl⟩) fun _ _ => trivial

end Assure

/-! ## Records in order -/

/-- A record that later invocations can work with. If the program owns the storage, its cloud is
one that exists and its account is not forgotten before the rest; and what was put in place bears
the names that are wanted, as far as it bears any. -/
structure Orderly (settings : Settings) (state : StorageState) : Prop where
  cloud : state.isManaged = true →
    ∃ environment, CloudEnvironment.ofName state.spec.cloud settings.customCloud = .ok environment
  emptied : state.isManaged = true → state.spec.account = "" → state.spec.Blank
  applied : ∀ c, state.status = some c → c.Under state.spec

namespace Orderly

variable {settings : Settings} {state : StorageState} {w : Work} {created : Bool}
variable {environment : CloudEnvironment}

theorem blame (ho : Orderly settings w.state) (now : Moment) (reason : StorageReason)
    (doing : String) (fault : Fault) : Orderly settings (w.blame now reason doing fault).state :=
  ⟨ho.cloud, ho.emptied, ho.applied⟩

theorem report (ho : Orderly settings w.state) (now : Moment) (status : ConditionStatus)
    (reason : StorageReason) (message : String) :
    Orderly settings (w.report now status reason message).state :=
  ⟨ho.cloud, ho.emptied, ho.applied⟩

/-- Progress that is saved leaves the record in order, once the cloud is known to exist. -/
theorem save (ho : Orderly settings w.state) (hu : w.state.spec.Under w.config)
    (hcloud : CloudEnvironment.ofName w.config.cloud settings.customCloud = .ok environment)
    (hempty : (w.save created).state.isManaged = true → w.config.account = "" → w.config.Blank) :
    Orderly settings (w.save created).state :=
  ⟨fun _ => ⟨environment, hcloud⟩, hempty, fun c hc => (ho.applied c hc).trans hu⟩

end Orderly

namespace Storage

variable {σ : Type} {R : Conduct σ} {s : σ} {w : Work} {now : Moment} {settings : Settings}
variable {credentials : ClusterCredentials} {infra : Infrastructure} {fresh : Fresh}

theorem furnish_orderly {scope : Scope} {environment : CloudEnvironment}
    (ho : Orderly settings w.state) (hw : w.config = takeCloud infra w.state.spec)
    (hcloud : CloudEnvironment.ofName w.config.cloud settings.customCloud = .ok environment) :
    (furnish scope environment infra fresh now).Ensures R w s
      (fun _ v _ => Orderly settings v.state) fun _ v _ => Orderly settings v.state := by
  have hu : w.state.spec.Under w.config := hw ▸ StorageConfig.under_takeCloud infra
  rw [furnish_ensures]
  refine Assure.account_named.mono ?_ ?_
  · rintro account t ⟨hne, hname⟩
    let c := accountNamed account.name w.config
    have hcu : w.state.spec.Under c := hu.trans (StorageConfig.under_accountNamed hname)
    have hcne : c.account ≠ "" := by
      rwa [StorageConfig.accountNamed_account]
    have hccloud : CloudEnvironment.ofName c.cloud settings.customCloud = .ok environment := by
      rwa [StorageConfig.accountNamed_cloud]
    -- from here on the account has a name, whatever fails
    have hsave : Orderly settings ((w.withConfig c).save account.created).state :=
      Orderly.save (w := w.withConfig c) ho hcu hccloud fun _ h => absurd h hcne
    refine .of_forall (fun _ t => ?_) fun _ _ => hsave.blame ..
    refine Assure.container_named.mono ?_ fun _ _ _ => hsave.blame ..
    rintro container t ⟨-, hcontainer⟩
    let v := w.withConfig { c with container := container.name }
    have hvu : w.state.spec.Under v.config :=
      hcu.trans (StorageConfig.under_withContainer hcontainer)
    refine .of_forall (fun _ _ => ?_) fun _ _ => ?_
    · refine ⟨fun _ => ⟨environment, hccloud⟩, fun _ h => absurd h hcne, fun d hd => ?_⟩
      rw [← Option.some.inj hd]
      exact .refl v.config
    · refine Orderly.blame ?_ ..
      exact Orderly.save (w := v) ho hvu hccloud fun _ h => absurd h hcne
  · intro f t _
    refine (ho.save hu hcloud fun hmanaged haccount => ?_).blame ..
    have hspec : w.state.spec.account = "" := by
      rw [← StorageConfig.takeCloud_account infra w.state.spec, ← hw]
      exact haccount
    rw [hw]
    exact (ho.emptied hmanaged hspec).takeCloud infra

theorem create_orderly (hc : settings.credentials = .ok (.cluster credentials))
    (ho : Orderly settings w.state) (hw : w.config = w.state.spec) :
    (create settings infra fresh now).Ensures R w s
      (fun _ v _ => Orderly settings v.state) fun _ v _ => Orderly settings v.state := by
  rw [create_ensures hc, provision_ensures]
  let v := w.withConfig (takeCloud infra w.config)
  have hv : Orderly settings v.state := ho
  refine ⟨fun _ => ho.blame .., fun _ => ⟨fun _ _ => hv.blame .., fun _ =>
    ⟨fun _ _ => hv.blame .., fun environment hcloud => ?_⟩⟩⟩
  refine .of_forall (fun _ t => ?_) fun _ _ => hv.blame ..
  have hconfig : takeCloud infra w.config = takeCloud infra w.state.spec := by rw [hw]
  exact furnish_orderly hv hconfig hcloud

/-! ## Removing -/

/-- A record whose account is named, and from which nothing is forgotten but by a removal. -/
structure Removable (settings : Settings) (w : Work) : Prop where
  orderly : Orderly settings w.state
  spec : w.state.spec = w.config
  account : w.config.account ≠ ""

theorem Removable.forgetEndpoint (h : Removable settings w) :
    Removable settings (w.change forgetEndpoint) := by
  have hne : (Storage.forgetEndpoint w.state.spec).account ≠ "" := by
    rw [h.spec]
    exact h.account
  refine ⟨⟨h.orderly.cloud, fun _ hempty => absurd hempty hne, fun c hc => ?_⟩,
    congrArg Storage.forgetEndpoint h.spec, h.account⟩
  obtain ⟨d, hd, rfl⟩ := Option.map_eq_some_iff.1 hc
  exact (h.orderly.applied d hd).forgetEndpoint

theorem Removable.forgetContainer (h : Removable settings w) :
    Removable settings (w.change forgetContainer) := by
  have hne : (Storage.forgetContainer w.state.spec).account ≠ "" := by
    rw [h.spec]
    exact h.account
  refine ⟨⟨h.orderly.cloud, fun _ hempty => absurd hempty hne, fun c hc => ?_⟩,
    congrArg Storage.forgetContainer h.spec, h.account⟩
  obtain ⟨d, hd, rfl⟩ := Option.map_eq_some_iff.1 hc
  exact (h.orderly.applied d hd).forgetContainer

/-- The account may be forgotten when nothing else is left to forget. -/
theorem Removable.forgetAccount (h : Removable settings w) (hcontainer : w.config.container = "")
    (hendpoint : w.config.network.endpoint? = none) :
    Orderly settings (w.change forgetAccount).state ∧
      (w.change forgetAccount).state.spec.Blank := by
  have hblank : (Storage.forgetAccount w.state.spec).Blank := by
    rw [h.spec]
    exact ⟨rfl, hcontainer, hendpoint⟩
  refine ⟨⟨h.orderly.cloud, fun _ _ => hblank, fun c hc => ?_⟩, hblank⟩
  obtain ⟨d, hd, rfl⟩ := Option.map_eq_some_iff.1 hc
  exact (h.orderly.applied d hd).forgetAccount

theorem removePrivateNetwork_removable {account : String} (h : Removable settings w) :
    (removePrivateNetwork now account).Ensures R w s
      (fun _ v _ => Removable settings v ∧ v.config = forgetEndpoint w.config)
      fun _ v _ => Orderly settings v.state := by
  rw [removePrivateNetwork_ensures]
  split
  · rename_i hnone
    exact ⟨h, (StorageConfig.forgetEndpoint_of_none hnone).symm⟩
  · refine .of_forall (fun _ t => ?_) fun _ _ => h.orderly.blame ..
    exact .of_forall (fun _ _ => ⟨h.forgetEndpoint, rfl⟩) fun _ _ => h.orderly.blame ..

/-- **A removal that goes through leaves no name**, and one that fails a record in order. -/
theorem dismantle_blank (h : Removable settings w) :
    (dismantle now).Ensures R w s
      (fun _ v _ => Orderly settings v.state ∧ v.state.spec.Blank)
      fun _ v _ => Orderly settings v.state := by
  -- private access and then the account, once there is no container
  have hrest : ∀ {v : Work} {t : σ} {account : String}, Removable settings v →
      v.config.container = "" →
      (removePrivateNetwork now account).Ensures R v t
        (fun _ u r => (removeAccount now account).Ensures R u r
          (fun _ u _ => Orderly settings u.state ∧ u.state.spec.Blank)
          fun _ u _ => Orderly settings u.state)
        fun _ u _ => Orderly settings u.state := by
    intro v t account hv hcontainer
    refine (removePrivateNetwork_removable hv).mono (fun _ u r hu => ?_) fun _ _ _ hu => hu
    obtain ⟨hu, hconfig⟩ := hu
    rw [removeAccount_ensures]
    refine .of_forall (fun _ _ => ?_) fun _ _ => hu.orderly.blame ..
    have hdone := hu.forgetAccount (by rw [hconfig]; exact hcontainer)
      (by rw [hconfig]; exact StorageConfig.forgetEndpoint_endpoint? v.config)
    exact ⟨hdone.1.report .., hdone.2⟩
  rw [dismantle_ensures]
  dsimp only
  split
  · rename_i hcontainer
    exact hrest h hcontainer
  · refine .of_forall (fun key t => ?_) fun _ _ => h.orderly.blame ..
    cases key with
    | ok key =>
      dsimp only
      rw [removeContainer_ensures]
      refine .of_forall (fun _ u => ?_) fun _ _ => h.orderly.blame ..
      refine hrest ?_ rfl
      have hv := h.forgetContainer
      exact ⟨hv.orderly.report .., hv.spec, hv.account⟩
    | error fault =>
      refine (removePrivateNetwork_removable h).mono (fun _ v u hv => ?_) fun _ _ _ hv => hv
      obtain ⟨hv, hconfig⟩ := hv
      have hnone : v.config.network.endpoint? = none := by
        rw [hconfig]
        exact StorageConfig.forgetEndpoint_endpoint? w.config
      have hdone := hv.forgetContainer.forgetAccount rfl hnone
      rw [Work.change_change] at hdone
      exact ⟨hdone.1.report .., hdone.2⟩

theorem remove_blank (hc : settings.credentials = .ok (.cluster credentials))
    (ho : Orderly settings w.state) (hw : w.state.spec = w.config) :
    (remove settings now).Ensures R w s
      (fun _ v _ => Orderly settings v.state ∧ (w.state.isManaged = true → v.state.spec.Blank))
      fun _ v _ => Orderly settings v.state := by
  rw [remove_ensures hc]
  split
  · rename_i hunmanaged
    exact ⟨ho, fun h => absurd h (by rw [hunmanaged]; exact Bool.false_ne_true)⟩
  · split
    · rename_i haccount
      exact ⟨ho.report .., fun h => ho.emptied h (hw ▸ haccount)⟩
    · rename_i haccount
      -- until the dismantling starts nothing is forgotten
      refine ⟨fun _ _ => ho.blame .., fun environment _ => ?_⟩
      refine .of_forall (fun _ t => ?_) fun _ _ => ho.blame ..
      exact (dismantle_blank ⟨ho, hw, haccount⟩).mono (fun _ v _ hv => ⟨hv.1, fun _ => hv.2⟩)
        fun _ _ _ hv => hv

theorem checkExists_orderly (ho : Orderly settings w.state) :
    (checkExists settings now).Ensures R w s
      (fun _ v _ => Orderly settings v.state) fun _ v _ => Orderly settings v.state := by
  rw [checkExists_ensures]
  dsimp only
  split
  · exact ho.report ..
  · refine ⟨fun _ _ => ho.blame .., fun _ _ => ⟨fun _ _ => ho.blame .., fun _ _ => ?_⟩⟩
    refine .of_forall (fun key t => ?_) fun _ _ => ho.blame ..
    refine .of_forall (fun there u => ?_) fun _ _ => ho.blame ..
    unfold found
    split <;> exact ho.report ..

end Storage

end RegistryStorage
