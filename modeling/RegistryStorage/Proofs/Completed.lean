import RegistryStorage.Proofs.Bookkeeping

/-!
The configuration that an invocation is on its way to.

An invocation that creates storage chooses names for what has none: an account, an endpoint, a
container. `StorageConfig.completed` is the configuration with all of them chosen, as a function of
what was drawn at random. An invocation that stops on its way keeps the names chosen so far, and
the next one goes on from there with draws of its own. So what matters is that keeping a name
fixes it: a configuration that was completed in part is completed as the first would have been
with the draws that were used (`completed_takeCloud`, `completed_accountNamed`,
`completed_withContainer`).
-/

set_option autoImplicit false

namespace RegistryStorage

open Storage (takeCloud accountNamed)

namespace StorageConfig

/-! ## Choosing all names -/

/-- The name of the account: the configured one, or one that is drawn. -/
def accountFor (infra : Infrastructure) (fresh : Fresh) (c : StorageConfig) : String :=
  if c.account = "" then (Naming.accountName infra.name fresh.draws).1 else c.account

/-- The name of the container: the configured one, or one that is drawn. -/
def containerFor (infra : Infrastructure) (fresh : Fresh) (c : StorageConfig) : String :=
  if c.container = "" then Naming.containerName infra.name fresh.serial else c.container

/-- The configuration with a cloud and all names. -/
def completed (infra : Infrastructure) (fresh : Fresh) (c : StorageConfig) : StorageConfig :=
  { accountNamed (c.accountFor infra fresh) (takeCloud infra c) with
    container := c.containerFor infra fresh }

/-- There is no name left to choose but the container's. -/
structure Named (c : StorageConfig) : Prop where
  account : c.account ≠ ""
  endpoint : accountNamed c.account c = c

variable {infra : Infrastructure} {fresh more : Fresh} {c : StorageConfig} {n : String}

theorem accountFor_ne_empty : c.accountFor infra fresh ≠ "" := by
  unfold accountFor
  split
  · exact Naming.ne_empty_of_isAccountName (Naming.isAccountName_accountName _ _)
  · assumption

theorem containerFor_ne_empty : c.containerFor infra fresh ≠ "" := by
  unfold containerFor
  split
  · exact Naming.ne_empty_of_isContainerName (Naming.isContainerName_containerName _ _)
  · assumption

theorem accountFor_of_ne (h : c.account ≠ "") : c.accountFor infra fresh = c.account := if_neg h

theorem containerFor_of_ne (h : c.container ≠ "") : c.containerFor infra fresh = c.container :=
  if_neg h

/-- A name that is configured is the name that is used. -/
theorem account_accountFor : c.account = "" ∨ c.account = c.accountFor infra fresh := by
  by_cases h : c.account = ""
  · exact Or.inl h
  · exact Or.inr (accountFor_of_ne h).symm

theorem container_containerFor : c.container = "" ∨ c.container = c.containerFor infra fresh := by
  by_cases h : c.container = ""
  · exact Or.inl h
  · exact Or.inr (containerFor_of_ne h).symm

@[simp] theorem completed_account :
    (c.completed infra fresh).account = c.accountFor infra fresh := accountNamed_account ..

@[simp] theorem completed_container :
    (c.completed infra fresh).container = c.containerFor infra fresh := rfl

theorem completed_congr (haccount : c.accountFor infra fresh = c.accountFor infra more)
    (hcontainer : c.containerFor infra fresh = c.containerFor infra more) :
    c.completed infra fresh = c.completed infra more := by
  unfold completed
  rw [haccount, hcontainer]

/-! ## Names that are kept -/

theorem takeCloud_of_account (h : c.account ≠ "") : takeCloud infra c = c :=
  if_neg fun hempty => h hempty.2

@[simp] theorem takeCloud_takeCloud : takeCloud infra (takeCloud infra c) = takeCloud infra c := by
  by_cases h : c.cloud = "" ∧ c.account = ""
  · cases hplatform : infra.platform with
    | none =>
      have hsame : takeCloud infra c = c := by
        unfold takeCloud
        rw [if_pos h, hplatform]
      rw [hsame, hsame]
    | some platform =>
      have htaken : ∀ d : StorageConfig, d.cloud = "" ∧ d.account = "" →
          takeCloud infra d = { d with cloud := platform.cloud } := by
        intro d hd
        unfold takeCloud
        rw [if_pos hd, hplatform]
      rw [htaken c h]
      -- taken from the platform, the cloud may be empty still, and is taken once more
      by_cases hcloud : platform.cloud = ""
      · exact htaken _ ⟨hcloud, h.2⟩
      · exact if_neg fun hempty => hcloud hempty.1
  · have hsame : takeCloud infra c = c := if_neg h
    rw [hsame, hsame]

@[simp] theorem accountFor_takeCloud :
    (takeCloud infra c).accountFor infra fresh = c.accountFor infra fresh := by
  unfold accountFor
  rw [takeCloud_account infra c]

@[simp] theorem containerFor_takeCloud :
    (takeCloud infra c).containerFor infra fresh = c.containerFor infra fresh := by
  unfold containerFor
  rw [takeCloud_container infra c]

theorem completed_takeCloud :
    (takeCloud infra c).completed infra fresh = c.completed infra fresh := by
  unfold completed
  rw [takeCloud_takeCloud, accountFor_takeCloud, containerFor_takeCloud]

theorem named_accountNamed (hn : n ≠ "") : (accountNamed n c).Named := by
  refine ⟨by rwa [accountNamed_account], ?_⟩
  rw [accountNamed_account]
  unfold accountNamed nameEndpoint
  cases c.network with
  | external => simp
  | internal network =>
    have hendpoint : (Isolation.nameEndpoint n network).endpoint ≠ "" := by
      unfold Isolation.nameEndpoint
      split
      · exact endpointName_ne_empty n
      · assumption
    have hsame : Isolation.nameEndpoint n (Isolation.nameEndpoint n network) =
        Isolation.nameEndpoint n network := if_neg hendpoint
    simp [hsame]

theorem Named.takeCloud (h : c.Named) : Storage.takeCloud infra c = c := takeCloud_of_account h.account

theorem Named.withContainer (h : c.Named) : ({ c with container := n } : StorageConfig).Named := by
  refine ⟨h.account, ?_⟩
  have hendpoint := h.endpoint
  unfold Storage.accountNamed nameEndpoint at hendpoint ⊢
  cases hnetwork : c.network with
  | external => simp
  | internal network =>
    simp only [hnetwork] at hendpoint ⊢
    have hsame := congrArg StorageConfig.network hendpoint
    simpa [hnetwork] using hsame

/-- Once the cloud is chosen, the account is, and then the container. -/
theorem completed_of_takeCloud (hcloud : Storage.takeCloud infra c = c) :
    c.completed infra fresh =
      { accountNamed (c.accountFor infra fresh) c with
        container := c.containerFor infra fresh } := by
  unfold StorageConfig.completed
  rw [hcloud]

/-- Only the container is left to choose. -/
theorem Named.completed (h : c.Named) :
    c.completed infra fresh = { c with container := c.containerFor infra fresh } := by
  rw [completed_of_takeCloud h.takeCloud, accountFor_of_ne h.account, h.endpoint]

/-- **An account that was named is kept**: whatever is drawn later, the account is that of the
draws that were used. -/
theorem completed_accountNamed :
    (accountNamed (c.accountFor infra fresh) (takeCloud infra c)).completed infra more =
      c.completed infra ⟨fresh.draws, more.serial⟩ := by
  rw [(named_accountNamed accountFor_ne_empty).completed]
  unfold completed containerFor accountFor
  rw [accountNamed_container, takeCloud_container infra c]

theorem Named.completed_withContainer (h : c.Named) :
    ({ c with container := c.containerFor infra fresh } : StorageConfig).completed infra more =
      c.completed infra fresh := by
  have hkept : ({ c with container := c.containerFor infra fresh } : StorageConfig).containerFor
      infra more = c.containerFor infra fresh := if_neg containerFor_ne_empty
  rw [h.withContainer.completed, h.completed, hkept]

end StorageConfig

/-! ## Configurations that pass -/

/-- **The checks that creating makes before it calls anybody**, and the checks it makes of names
that are configured. -/
structure StorageConfig.Passes (settings : Settings) (infra : Infrastructure) (c : StorageConfig) :
    Prop where
  infrastructure : infra.name ≠ ""
  network : Storage.checkNetwork c.network = .ok ()
  cloud : ∃ environment,
    CloudEnvironment.ofName (takeCloud infra c).cloud settings.customCloud = .ok environment
  account : c.account = "" ∨ Naming.isAccountName c.account = true
  container : c.container = "" ∨ Naming.isContainerName c.container = true

namespace StorageConfig.Passes

variable {settings : Settings} {infra : Infrastructure} {fresh : Fresh} {c : StorageConfig}

theorem takeCloud (h : c.Passes settings infra) : (takeCloud infra c).Passes settings infra := by
  obtain ⟨haccount, hcontainer, hnetwork⟩ := takeCloud_names infra c
  refine ⟨h.infrastructure, hnetwork ▸ h.network, ?_, haccount ▸ h.account,
    hcontainer ▸ h.container⟩
  rw [takeCloud_takeCloud]
  exact h.cloud

theorem accountFor (h : c.Passes settings infra) :
    Naming.isAccountName (c.accountFor infra fresh) = true := by
  unfold StorageConfig.accountFor
  split
  · exact Naming.isAccountName_accountName ..
  · rename_i hne
    exact h.account.resolve_left hne

theorem containerFor (h : c.Passes settings infra) :
    Naming.isContainerName (c.containerFor infra fresh) = true := by
  unfold StorageConfig.containerFor
  split
  · exact Naming.isContainerName_containerName ..
  · rename_i hne
    exact h.container.resolve_left hne

theorem checkNetwork_accountNamed {n : String} :
    Storage.checkNetwork (Storage.accountNamed n c).network = Storage.checkNetwork c.network := by
  unfold Storage.accountNamed nameEndpoint
  cases c.network with
  | external => rfl
  | internal network =>
    show Storage.checkNetwork (.internal (Isolation.nameEndpoint n network)) = _
    unfold Isolation.nameEndpoint
    split <;> rfl

theorem accountNamed (h : c.Passes settings infra) (hc : Storage.takeCloud infra c = c) :
    (Storage.accountNamed (c.accountFor infra fresh) c).Passes settings infra := by
  have hnamed : (Storage.accountNamed (c.accountFor infra fresh) c).Named :=
    named_accountNamed accountFor_ne_empty
  refine ⟨h.infrastructure, checkNetwork_accountNamed.trans h.network, ?_, Or.inr ?_, ?_⟩
  · rw [hnamed.takeCloud, accountNamed_cloud]
    obtain ⟨environment, hcloud⟩ := h.cloud
    rw [hc] at hcloud
    exact ⟨environment, hcloud⟩
  · rw [accountNamed_account]
    exact h.accountFor
  · rw [accountNamed_container]
    exact h.container

theorem withContainer (h : c.Passes settings infra) (hc : c.Named) :
    ({ c with container := c.containerFor infra fresh } : StorageConfig).Passes settings infra := by
  refine ⟨h.infrastructure, h.network, ?_, h.account, Or.inr h.containerFor⟩
  rw [hc.withContainer.takeCloud]
  have hcloud := h.cloud
  rwa [hc.takeCloud] at hcloud

end StorageConfig.Passes

end RegistryStorage
