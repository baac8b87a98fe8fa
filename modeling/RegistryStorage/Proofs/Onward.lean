import RegistryStorage.Proofs.Completed
import RegistryStorage.Proofs.Recorded
import RegistryStorage.Proofs.Settled

/-!
On the way to storage that is in place.

A `Completion` is what creating storage comes to if nothing is refused: what the provider holds, the
configuration, and who owns the storage. `Site.outcome` computes it from a record and an inventory.
Creating storage may stop anywhere, and what it leaves then is a record and an inventory of which
the same question can be asked. `Undertaking.Onward` is the invariant of a whole run of such
attempts: whatever is drawn next, the outcome is one of those that the run started out for, the
provider is one on which it can be reached, and nothing was created twice (`Scene.Once`). The
endpoint may come out otherwise, and its address with it, if one was there before its account
(`Undertaking.exact`).

Each lemma about `Onward` is one thing that creating does: a name is kept, or a call is granted.
Because the record is written only when an attempt ends, the invariant is stated throughout about
the record that the attempt would leave if it stopped now (`StorageState.progress`).
-/

set_option autoImplicit false

namespace RegistryStorage

open Storage (takeCloud accountNamed)

/-! ## Counting what is created -/

/-- The kinds of resources that are paid for. -/
inductive Kind
  | account
  | container
  | endpoint
deriving DecidableEq

/-- The kind of a resource, if it is paid for. -/
def Resource.kind? : Resource → Option Kind
  | account _ => some .account
  | container .. => some .container
  | endpoint _ => some .endpoint
  | _ => none

/-- The kind of what exists once a call is granted. -/
def Call.makes? (c : Call) : Option Kind := c.creation?.bind Resource.kind?

/-- How many resources of a kind were created. -/
def Journal.count (k : Kind) (j : Journal) : Nat :=
  j.countP fun e => e.fault.isNone && e.call.makes? == some k

namespace Journal

variable {k : Kind} {c : Call} {j : Journal}

@[simp] theorem count_refused {f : Fault} : count k (⟨c, some f⟩ :: j) = count k j := by
  simp [count]

theorem count_granted (h : c.makes? = some k) : count k (⟨c, none⟩ :: j) = count k j + 1 := by
  simp [count, h]

theorem count_granted_of_ne (h : c.makes? ≠ some k) : count k (⟨c, none⟩ :: j) = count k j := by
  simp [count, h]

theorem count_granted_of_none (h : c.makes? = none) : count k (⟨c, none⟩ :: j) = count k j := by
  refine count_granted_of_ne ?_
  rw [h]
  exact (Option.some_ne_none k).symm

end Journal

/-- At most one resource of a kind was created, and if there was one, then it exists and the
configuration names it. -/
def Scene.Once (k : Kind) (c : StorageConfig) (s : Scene Inventory) : Prop :=
  s.journal.count k = 0 ∨
    s.journal.count k = 1 ∧ ∃ r, r.kind? = some k ∧ c.Names r ∧ s.provider.has r = true

namespace Scene.Once

variable {k : Kind} {c c' : StorageConfig} {s t : Scene Inventory}

theorem mono (h : s.Once k c) (hu : c.Under c') (hcount : t.journal.count k = s.journal.count k)
    (hhas : ∀ r, s.provider.has r = true → t.provider.has r = true) : t.Once k c' := by
  rcases h with h | ⟨h, r, hr, hnames, hthere⟩
  · exact Or.inl (hcount.trans h)
  · exact Or.inr ⟨hcount.trans h, r, hr, hnames.mono hu, hhas r hthere⟩

/-- One of another kind. -/
theorem spare (h : s.Once k c) (hu : c.Under c') {home : Scope} {d : Call} {x : d.Answer}
    {i : Inventory} (hreply : Inventory.reply home d s.provider = (.ok x, i))
    (hdeletion : d.deletion? = none) {m : Kind} (hmakes : d.makes? = some m) (hm : m ≠ k) :
    (s.after d none i).Once k c' := by
  have hne : d.makes? ≠ some k := by
    rw [hmakes]
    exact fun hsame => hm (Option.some.inj hsame)
  exact h.mono hu (Journal.count_granted_of_ne hne) (Inventory.reply_keeps hreply hdeletion)

/-- The first one of its kind. -/
theorem spend (h : s.Once k c)
    (hfirst : ∀ r, r.kind? = some k → c.Names r → s.provider.has r = false)
    (hcount : t.journal.count k = s.journal.count k + 1) {r : Resource} (hr : r.kind? = some k)
    (hnames : c'.Names r) (hthere : t.provider.has r = true) : t.Once k c' := by
  rcases h with h | ⟨-, d, hd, hd', hthere'⟩
  · exact Or.inr ⟨by rw [hcount, h], r, hr, hnames, hthere⟩
  · rw [hfirst d hd hd'] at hthere'
    cases hthere'

theorem le_one (h : s.Once k c) : s.journal.count k ≤ 1 := by
  rcases h with h | ⟨h, -⟩ <;> omega

end Scene.Once

/-! ## Outcomes -/

/-- The record that is left if an attempt stops now. -/
def StorageState.progress (created : Bool) (c : StorageConfig) (state : StorageState) :
    StorageState :=
  { state with
    spec := c
    management :=
      if created && state.management.isNone then some .managed else state.management }

namespace StorageState

variable {state : StorageState} {b b' : Bool} {c c' : StorageConfig}

@[simp] theorem progress_spec : (state.progress b c).spec = c := rfl

@[simp] theorem progress_progress :
    (state.progress b c).progress b' c' = state.progress (b || b') c' := by
  unfold progress
  cases state.management <;> cases b <;> cases b' <;> rfl

/-- Who owns the storage in the end. -/
theorem progress_management (m : Management) :
    (state.progress b c).management.getD m =
      state.management.getD (if b then .managed else m) := by
  unfold progress
  cases state.management <;> cases b <;> rfl

end StorageState

/-- To get from a configuration to the one that completes it an account or a container has to be
created. -/
def StorageConfig.creates (c goal : StorageConfig) (i : Inventory) : Bool :=
  !i.has (.account goal.account) || c.container == "" ||
    !i.has (.container goal.account goal.container)

theorem StorageConfig.creates_completed {infra : Infrastructure} {fresh : Fresh} {c : StorageConfig}
    {i : Inventory} : c.creates (c.completed infra fresh) i =
      (!i.has (.account (c.accountFor infra fresh)) || (c.container == "" ||
        !i.has (.container (c.accountFor infra fresh) (c.containerFor infra fresh)))) := by
  unfold creates
  rw [completed_account, completed_container, Bool.or_assoc]

/-- What creating storage comes to. -/
structure Completion where
  provider : Inventory
  config : StorageConfig
  management : Management

/-- What creating storage comes to with a record and an inventory to start from, if nothing is
refused. -/
def Site.outcome (site : Site) (infra : Infrastructure) (fresh : Fresh) (state : StorageState)
    (i : Inventory) : Completion :=
  ⟨site.settled (state.spec.completed infra fresh) i, state.spec.completed infra fresh,
    state.management.getD
      (if state.spec.creates (state.spec.completed infra fresh) i then .managed else .unmanaged)⟩

/-- Two records come to the same if they are completed in the same way, to the same inventory, and
with the same owner. -/
theorem Site.outcome_congr {site : Site} {infra : Infrastructure} {g h : Fresh}
    {state state' : StorageState} {goal : StorageConfig} {i j : Inventory}
    (hg : state.spec.completed infra g = goal) (hh : state'.spec.completed infra h = goal)
    (hsettled : site.settled goal i = site.settled goal j)
    (howner : state.management.getD (if state.spec.creates goal i then .managed else .unmanaged) =
      state'.management.getD (if state'.spec.creates goal j then .managed else .unmanaged)) :
    site.outcome infra g state i = site.outcome infra h state' j := by
  unfold Site.outcome
  rw [hg, hh, hsettled, howner]

/-- **Two completions are alike** if they differ at most in the endpoint and its address, and not even
in these if they are to be the same. -/
structure Completion.Alike (exact : Prop) (o p : Completion) : Prop where
  provider : Inventory.Near exact o.config o.provider p.provider
  config : o.config = p.config
  management : o.management = p.management

theorem Completion.Alike.trans {exact : Prop} {o p q : Completion} (h : o.Alike exact p)
    (h' : p.Alike exact q) : o.Alike exact q :=
  ⟨h.provider.trans (h.config ▸ h'.provider), h.config.trans h'.config,
    h.management.trans h'.management⟩

theorem Completion.Alike.refl {exact : Prop} {o : Completion} : o.Alike exact o :=
  ⟨.of_eq rfl, rfl, rfl⟩

/-- Draws that were drawn, in whatever combination. -/
def Fresh.From (drawn : List Fresh) (g : Fresh) : Prop :=
  (∃ f ∈ drawn, g.draws = f.draws) ∧ ∃ f ∈ drawn, g.serial = f.serial

theorem Fresh.From.of_mem {drawn : List Fresh} {f : Fresh} (h : f ∈ drawn) : f.From drawn :=
  ⟨⟨f, h, rfl⟩, f, h, rfl⟩

theorem Fresh.From.mix {drawn : List Fresh} {f g : Fresh} (hf : f.From drawn) (hg : g.From drawn) :
    Fresh.From drawn ⟨f.draws, g.serial⟩ := ⟨hf.1, hg.2⟩

/-! ## The invariant -/

/-- What the attempts of a run have in common, and the record and the inventory that it started
from. -/
structure Undertaking where
  settings : Settings
  home : Scope
  scope : Scope
  infra : Infrastructure
  drawn : List Fresh
  record : StorageState
  inventory : Inventory

namespace Undertaking

/-- Where the storage is put. -/
def site (u : Undertaking) : Site := ⟨u.home, u.scope, u.infra.tags⟩

/-- What a single attempt with some draws would have come to at the start. -/
def single (u : Undertaking) (g : Fresh) : Completion :=
  u.site.outcome u.infra g u.record u.inventory

/-- The configurations whose endpoint comes out the same: at the start it was there only if the
account was, or it is the one that would be created. -/
def exact (u : Undertaking) (c : StorageConfig) : Prop := u.site.Matches c u.inventory

/-- At the start the endpoint leads to an address, whatever is drawn. -/
def reaches (u : Undertaking) : Prop :=
  ∀ g : Fresh, g.From u.drawn → u.site.Leads (u.record.spec.completed u.infra g) u.inventory

/-- What the run may come to. -/
def ends (u : Undertaking) (o : Completion) : Prop :=
  ∃ g, g.From u.drawn ∧ o.Alike (u.exact o.config) (u.single g)

theorem ends_of_alike {u : Undertaking} {o p : Completion} (hp : u.ends p)
    (h : o.Alike (u.exact o.config) p) : u.ends o := by
  obtain ⟨g, hg, halike⟩ := hp
  refine ⟨g, hg, h.trans ?_⟩
  rw [h.config]
  exact halike

theorem exact_congr {u : Undertaking} {c c' : StorageConfig} (haccount : c.account = c'.account)
    (hnetwork : c.network = c'.network) (h : u.exact c) : u.exact c' := h.congr haccount hnetwork

end Undertaking

/-- **On the way.** Whatever is drawn next, the run comes to what it set out for, and nothing was
created twice. -/
structure Undertaking.Onward (u : Undertaking) (state : StorageState) (s : Scene Inventory) :
    Prop where
  plain : s.provider.Plain
  passes : state.spec.Passes u.settings u.infra
  owned : ∀ g, g.From u.drawn → s.provider.isTaken (state.spec.accountFor u.infra g) = true →
    s.provider.has (.account (state.spec.accountFor u.infra g)) = true
  reach : u.reaches → ∀ g, g.From u.drawn →
    u.site.Leads (state.spec.completed u.infra g) s.provider
  same : ∀ g, g.From u.drawn → u.exact (state.spec.completed u.infra g) →
    u.site.Matches (state.spec.completed u.infra g) s.provider
  free : state.spec.account = "" → ∀ g, g.From u.drawn →
    s.provider.isTaken (state.spec.accountFor u.infra g) = false
  leads : ∀ g, g.From u.drawn → u.ends (u.site.outcome u.infra g state s.provider)
  account : s.Once .account state.spec
  container : s.Once .container state.spec
  endpoint : s.Once .endpoint state.spec
  lodged : s.journal.count .endpoint = 0 ∨
    state.spec.account ≠ "" ∧ s.provider.has (.account state.spec.account) = true

namespace Undertaking.Onward

variable {u : Undertaking} {state state' : StorageState} {s t : Scene Inventory} {f : Fresh}

/-- What a record says besides what it comes to does not matter. -/
theorem congr (h : u.Onward state s) (hspec : state'.spec = state.spec)
    (hsame : ∀ g, u.site.outcome u.infra g state' s.provider =
      u.site.outcome u.infra g state s.provider) : u.Onward state' s := by
  obtain ⟨plain, passes, owned, reach, same, free, leads, account, container, endpoint, lodged⟩ := h
  have hleads : ∀ g, g.From u.drawn → u.ends (u.site.outcome u.infra g state' s.provider) := by
    intro g hg
    rw [hsame]
    exact leads g hg
  rw [← hspec] at passes owned reach same free account container endpoint lodged
  exact ⟨plain, passes, owned, reach, same, free, hleads, account, container, endpoint, lodged⟩

/-- A call that creates nothing that is paid for, and leaves the provider as it is. -/
theorem unmoved (h : u.Onward state s) {j : Journal} (hcount : ∀ k, j.count k = s.journal.count k) :
    u.Onward state ⟨s.provider, j⟩ := by
  have honce : ∀ {k}, s.Once k state.spec → Scene.Once k state.spec ⟨s.provider, j⟩ :=
    fun hk => hk.mono (.refl _) (hcount _) fun _ hr => hr
  refine ⟨h.plain, h.passes, h.owned, h.reach, h.same, h.free, h.leads, honce h.account,
    honce h.container, honce h.endpoint, ?_⟩
  rw [hcount]
  exact h.lodged

theorem looked (h : u.Onward state s) {c : Call} (hc : c.makes? = none) :
    u.Onward state (s.after c none s.provider) := by
  refine h.unmoved fun k => ?_
  exact Journal.count_granted_of_none hc

theorem refused (h : u.Onward state s) {c : Call} {fault : Fault} :
    u.Onward state (s.after c (some fault) s.provider) := by
  refine h.unmoved fun k => ?_
  exact Journal.count_refused

/-- A cloud is chosen. -/
theorem cloudTaken (h : u.Onward state s) :
    u.Onward (state.progress false (takeCloud u.infra state.spec)) s := by
  have hnames := StorageConfig.takeCloud_names u.infra state.spec
  -- a cloud is no name of a resource
  have honce : ∀ {k}, s.Once k state.spec → s.Once k (Storage.takeCloud u.infra state.spec) :=
    fun hk => hk.mono (StorageConfig.under_takeCloud u.infra) rfl fun _ hr => hr
  refine ⟨h.plain, h.passes.takeCloud, fun g hg => ?_, fun hreach g hg => ?_, fun g hg => ?_,
    fun hempty g hg => ?_, fun g hg => ?_, honce h.account, honce h.container, honce h.endpoint, ?_⟩
  · rw [StorageState.progress_spec, StorageConfig.accountFor_takeCloud]
    exact h.owned g hg
  · rw [StorageState.progress_spec, StorageConfig.completed_takeCloud]
    exact h.reach hreach g hg
  · rw [StorageState.progress_spec, StorageConfig.completed_takeCloud]
    exact h.same g hg
  · rw [StorageState.progress_spec, StorageConfig.accountFor_takeCloud]
    exact h.free (hnames.1.symm.trans hempty) g hg
  · have hsame : u.site.outcome u.infra g
        (state.progress false (Storage.takeCloud u.infra state.spec)) s.provider =
        u.site.outcome u.infra g state s.provider := by
      refine Site.outcome_congr StorageConfig.completed_takeCloud rfl rfl ?_
      rw [StorageState.progress_management, StorageState.progress_spec]
      unfold StorageConfig.creates
      rw [hnames.2.1]
      rfl
    rw [hsame]
    exact h.leads g hg
  · rw [StorageState.progress_spec, hnames.1]
    exact h.lodged

/-! ### The account -/

/-- The account is there and its name is kept. -/
theorem housed (h : u.Onward state s) (hf : f.From u.drawn)
    (hcloud : Storage.takeCloud u.infra state.spec = state.spec) {c : StorageConfig}
    (hc : c = accountNamed (state.spec.accountFor u.infra f) state.spec) {created : Bool}
    (hcreated : s.provider.has (.account c.account) = !created)
    (hprovider : t.provider =
      { s.provider with accounts := u.site.housed c s.provider.accounts })
    (hplain : t.provider.Plain) (haccount : t.Once .account c) (hcontainer : t.Once .container c)
    (hendpoint : t.Once .endpoint c) :
    u.Onward (state.progress created c) t := by
  have hnamed : c.Named := hc ▸ StorageConfig.named_accountNamed StorageConfig.accountFor_ne_empty
  -- the draw that named the account is spent: what comes later draws the container only
  have hgoal : ∀ g : Fresh, c.completed u.infra g =
      state.spec.completed u.infra ⟨f.draws, g.serial⟩ := by
    intro g
    have hkept : (accountNamed (state.spec.accountFor u.infra f)
        (Storage.takeCloud u.infra state.spec)).completed u.infra g =
        state.spec.completed u.infra ⟨f.draws, g.serial⟩ := StorageConfig.completed_accountNamed
    rwa [hcloud, ← hc] at hkept
  have hname : ∀ g : Fresh, (c.completed u.infra g).account = c.account := by
    intro g
    rw [hnamed.completed]
  have hcloudName : ∀ g : Fresh, (c.completed u.infra g).cloud = c.cloud := by
    intro g
    rw [hnamed.completed]
  have hthere : t.provider.has (.account c.account) = true := by
    rw [hprovider]
    exact Site.contains_housed
  refine ⟨hplain, ?_, fun g _ _ => ?_, fun hreach g hg => ?_, fun g _ _ => ?_,
    fun hempty => absurd hempty hnamed.account, fun g hg => ?_, haccount, hcontainer, hendpoint,
    Or.inr ⟨hnamed.account, hthere⟩⟩
  · rw [StorageState.progress_spec, hc]
    exact h.passes.accountNamed hcloud
  · rw [StorageState.progress_spec, StorageConfig.accountFor_of_ne hnamed.account]
    exact hthere
  · rw [StorageState.progress_spec]
    have hleads := h.reach hreach ⟨f.draws, g.serial⟩ (hf.mix hg)
    rw [← hgoal g] at hleads
    refine hleads.step (by rw [hname, hthere]) ?_ ?_ ?_ <;> rw [hprovider]
  · exact .of_has (by rw [StorageState.progress_spec, hname, hthere])
  · -- the same end, and the same owner: who creates the account owns it
    have hsettled : u.site.settled (c.completed u.infra g) t.provider =
        u.site.settled (c.completed u.infra g) s.provider := by
      rw [hprovider]
      refine Site.settled_accounts ?_
      rw [Site.housed_congr (hname g).symm (hcloudName g).symm, Site.housed_housed]
    have hcontainers : c.container = state.spec.container := by
      rw [hc, StorageConfig.accountNamed_container]
    have hafter : c.creates (c.completed u.infra g) t.provider =
        (state.spec.container == "" || !s.provider.has
          (.container c.account (c.completed u.infra g).container)) := by
      unfold StorageConfig.creates
      rw [hname, hthere, hcontainers, hprovider]
      rfl
    have hbefore : state.spec.creates (c.completed u.infra g) s.provider =
        (created || (state.spec.container == "" || !s.provider.has
          (.container c.account (c.completed u.infra g).container))) := by
      unfold StorageConfig.creates
      rw [hname, hcreated, Bool.not_not, Bool.or_assoc]
    have hsame : u.site.outcome u.infra g (state.progress created c) t.provider =
        u.site.outcome u.infra ⟨f.draws, g.serial⟩ state s.provider := by
      refine Site.outcome_congr rfl (hgoal g).symm hsettled ?_
      rw [StorageState.progress_management, StorageState.progress_spec, hafter, hbefore]
      cases created <;> rfl
    rw [hsame]
    exact h.leads _ (hf.mix hg)

end Undertaking.Onward

/-! ## Once there is an account -/

/-- On the way, with an account. Only the container is left to choose. -/
structure Undertaking.Lodged (u : Undertaking) (state : StorageState) (s : Scene Inventory) :
    Prop where
  onward : u.Onward state s
  named : state.spec.Named
  there : s.provider.has (.account state.spec.account) = true

namespace Undertaking.Lodged

variable {u : Undertaking} {state : StorageState} {s t : Scene Inventory} {f : Fresh}
variable {network : InternalNetwork}

theorem refused (h : u.Lodged state s) {c : Call} {fault : Fault} :
    u.Lodged state (s.after c (some fault) s.provider) :=
  ⟨h.onward.refused, h.named, h.there⟩

theorem looked (h : u.Lodged state s) {c : Call} (hc : c.makes? = none) :
    u.Lodged state (s.after c none s.provider) :=
  ⟨h.onward.looked hc, h.named, h.there⟩

/-- The endpoint leads to an address, if it does so from the start. -/
theorem reach (h : u.Lodged state s) (hreach : u.reaches) (hf : f.From u.drawn) :
    u.site.Leads state.spec s.provider := by
  have hleads := h.onward.reach hreach f hf
  rw [h.named.completed] at hleads
  exact hleads.congr rfl rfl

/-- The endpoint that is wanted has a name. -/
theorem endpoint? (h : u.Lodged state s) (hn : state.spec.network = .internal network) :
    state.spec.network.endpoint? = some network.endpoint := by
  have hnamed := h.named.endpoint
  rw [← hnamed] at hn
  have hname := StorageConfig.accountNamed_endpoint hn
  rwa [hnamed] at hname

/-- A step that leaves the record alone, and does nothing that the end would not do, apart from the
endpoint. -/
theorem step (h : u.Lodged state s) (hplain : t.provider.Plain)
    (hthere : t.provider.has (.account state.spec.account) = true)
    (hcontainers : t.provider.containers = s.provider.containers)
    (hleads : u.reaches → ∀ g : Fresh, g.From u.drawn → u.site.Leads state.spec t.provider)
    (hsettled : ∀ c : StorageConfig, c.account = state.spec.account →
      c.network = state.spec.network → c.cloud = state.spec.cloud →
        Inventory.Near (u.exact c) c (u.site.settled c t.provider) (u.site.settled c s.provider))
    (haccount : t.Once .account state.spec) (hcontainer : t.Once .container state.spec)
    (hendpoint : t.Once .endpoint state.spec) : u.Lodged state t := by
  refine ⟨⟨hplain, h.onward.passes, fun g _ _ => ?_, fun hreach g hg => ?_, fun g _ _ => ?_,
    fun hempty => absurd hempty h.named.account, fun g hg => ?_, haccount, hcontainer, hendpoint,
    Or.inr ⟨h.named.account, hthere⟩⟩, h.named, hthere⟩
  · rw [StorageConfig.accountFor_of_ne h.named.account]
    exact hthere
  · rw [h.named.completed]
    exact (hleads hreach g hg).congr rfl rfl
  · rw [h.named.completed]
    exact .of_has hthere
  · have hcreates : state.spec.creates (state.spec.completed u.infra g) t.provider =
        state.spec.creates (state.spec.completed u.infra g) s.provider := by
      unfold StorageConfig.creates Inventory.has
      rw [hcontainers]
      have hname : (state.spec.completed u.infra g).account = state.spec.account := by
        rw [h.named.completed]
      have hold := h.there
      unfold Inventory.has at hold hthere
      dsimp only at hold hthere ⊢
      rw [hname, hold, hthere]
    refine Undertaking.ends_of_alike (h.onward.leads g hg) ⟨?_, rfl, ?_⟩
    · unfold Site.outcome
      dsimp only
      rw [h.named.completed]
      exact hsettled _ rfl rfl rfl
    · unfold Site.outcome
      rw [hcreates]

/-- Something is put where the private access that is wanted would put it. -/
theorem put (h : u.Lodged state s) (hn : state.spec.network = .internal network)
    (hopen : s.provider.endpoints.contains network.endpoint = true) {c : Call} {x : c.Answer}
    {i : Inventory} (hreply : Inventory.reply u.home c s.provider = (.ok x, i))
    (hmakes : c.makes? = none) (hdeletion : c.deletion? = none)
    (haccounts : i.accounts = s.provider.accounts)
    (hcontainers : i.containers = s.provider.containers)
    (hendpoints : i.endpoints = s.provider.endpoints)
    (hinterfaces : i.interfaces = s.provider.interfaces)
    (hshared : i.sharedInterfaces = s.provider.sharedInterfaces)
    (hjoined : u.site.joined state.spec network i = u.site.joined state.spec network s.provider) :
    u.Lodged state (s.after c none i) := by
  have hhas := Inventory.reply_keeps hreply hdeletion
  have honce : ∀ {k}, s.Once k state.spec → (s.after c none i).Once k state.spec := by
    intro k hk
    exact hk.mono (.refl _) (Journal.count_granted_of_none hmakes) hhas
  -- what is put in place is part of the private access that the end has anyway
  have hnetworked : u.site.networked state.spec i = u.site.networked state.spec s.provider := by
    rw [Site.networked_of_contains hn (by rw [hendpoints, hopen]),
      Site.networked_of_contains hn hopen, hjoined]
  have hplain := (Inventory.Plain.reply h.onward.plain hreply)
  refine h.step hplain (hhas _ h.there) hcontainers
    (fun hreach g hg => (h.reach hreach hg).step (hhas _ h.there) hendpoints hinterfaces hshared)
    (fun c hc hnetwork _ => .of_eq ?_)
    (honce h.onward.account) (honce h.onward.container) (honce h.onward.endpoint)
  refine Site.settled_network haccounts hcontainers ?_
  rw [Scene.after_provider, Site.networked_congr hc hnetwork, hnetworked,
    Site.networked_congr hc hnetwork]

/-- The first endpoint is created. If it is to lead to an address, it does, and if it is to come out
the same, there is none yet or creating it again changes nothing. -/
theorem openEndpoint (h : u.Lodged state s) (hn : state.spec.network = .internal network)
    (hfirst : s.journal.count .endpoint = 0)
    (hreach : u.reaches →
      ∃ address, (s.provider.addEndpoint (u.site.request state.spec network)).address?
        u.home network.endpoint = some address)
    (hsame : u.exact state.spec → s.provider.has (.endpoint network.endpoint) = true →
      s.provider.addEndpoint (u.site.request state.spec network) = s.provider) :
    u.Lodged state (s.after (.createEndpoint (u.site.request state.spec network)) none
      (s.provider.addEndpoint (u.site.request state.spec network))) := by
  have hreply : Inventory.reply u.home (.createEndpoint (u.site.request state.spec network))
      s.provider = (.ok _, s.provider.addEndpoint (u.site.request state.spec network)) := rfl
  have hthere := Inventory.reply_keeps hreply rfl _ h.there
  -- the endpoint is there from now on, as it will be in the end
  have hopen : (s.provider.addEndpoint (u.site.request state.spec network)).has
      (.endpoint network.endpoint) = true := (Dict.contains_insert ..).2 (Or.inl rfl)
  refine h.step (h.onward.plain.reply hreply) hthere rfl
    (fun hleads _ _ => .of_opened hthere hn hopen (hreach hleads)) (fun c hc hnetwork _ => ?_)
    (h.onward.account.spare (.refl _) hreply rfl rfl (by decide))
    (h.onward.container.spare (.refl _) hreply rfl rfl (by decide))
    (Or.inr ⟨?_, .endpoint network.endpoint, rfl, h.endpoint? hn, hopen⟩)
  · have hn' : c.network = .internal network := hnetwork.trans hn
    have hrequest : u.site.request c network = u.site.request state.spec network := by
      unfold Site.request
      rw [hc]
    have hnear : Inventory.Near (u.exact c) c
        (u.site.networked c (s.provider.addEndpoint (u.site.request state.spec network)))
        (u.site.networked c s.provider) := by
      rw [Site.networked_of_contains hn' hopen, ← hrequest]
      refine Site.joined_addEndpoint_near hn' fun hexact => ?_
      rw [hrequest]
      exact hsame (Undertaking.exact_congr hc hnetwork hexact)
    exact hnear.with _ _
  · rw [Scene.after_journal, Journal.count_granted rfl, hfirst]

/-- The account is closed to the public network. -/
theorem close (h : u.Lodged state s) (hinternal : state.spec.network.isInternal = true)
    {a : StoredAccount} (ha : s.provider.accounts.get? state.spec.account = some a) :
    u.Lodged state (s.after (.setAccess state.spec.account .disabled) none
      { s.provider with
        accounts := s.provider.accounts.insert state.spec.account
          { a with access := some .disabled } }) := by
  have hreply : Inventory.reply u.home (.setAccess state.spec.account .disabled) s.provider =
      (.ok (), { s.provider with
        accounts := s.provider.accounts.insert state.spec.account
          { a with access := some .disabled } }) := by
    simp only [Inventory.reply, ha]
  have hhas := Inventory.reply_keeps hreply rfl
  have honce : ∀ {k}, s.Once k state.spec → (s.after (.setAccess state.spec.account .disabled) none
      { s.provider with
        accounts := s.provider.accounts.insert state.spec.account
          { a with access := some .disabled } }).Once k state.spec :=
    fun hk => hk.mono (.refl _) (Journal.count_granted_of_none rfl) hhas
  refine h.step (Inventory.Plain.reply h.onward.plain hreply) (hhas _ h.there) rfl
    (fun hreach g hg => (h.reach hreach hg).step (hhas _ h.there) rfl rfl rfl)
    (fun c hc hnetwork hcloud => .of_eq (Site.settled_accounts ?_))
    (honce h.onward.account) (honce h.onward.container) (honce h.onward.endpoint)
  -- closing now is closing in the end
  rw [← Site.closed_of_get? hinternal ha, Site.closed_congr hc hnetwork,
    Site.closed_congr hc hnetwork, Site.housed_congr hc hcloud, Site.housed_congr hc hcloud]
  have hthere : s.provider.accounts.contains state.spec.account = true := h.there
  rw [Site.housed_of_contains (by rw [Site.contains_closed, hthere]),
    Site.housed_of_contains hthere]
  exact Site.closed_closed

/-- The container is there and its name is kept. -/
theorem furnished (h : u.Lodged state s) (hf : f.From u.drawn) {c : StorageConfig}
    (hc : c = { state.spec with container := state.spec.containerFor u.infra f }) {created : Bool}
    (hcreated : created = (state.spec.container == "" ||
      !s.provider.has (.container c.account c.container)))
    (hprovider : t.provider = { s.provider with
      containers := s.provider.containers.insert (c.account, c.container) () })
    (hplain : t.provider.Plain) (haccount : t.Once .account c) (hcontainer : t.Once .container c)
    (hendpoint : t.Once .endpoint c) : u.Lodged (state.progress created c) t := by
  -- all names are chosen, so the configuration is its own goal
  have hgoal : ∀ g : Fresh, c.completed u.infra g = c := by
    intro g
    rw [hc, h.named.completed_withContainer, h.named.completed]
  have hold : state.spec.completed u.infra f = c := by
    rw [hc, h.named.completed]
  have hnamed : c.Named := hc ▸ h.named.withContainer
  have haccountName : c.account = state.spec.account := by rw [hc]
  have hthere : t.provider.has (.account c.account) = true := by
    rw [hprovider, haccountName]
    exact h.there
  refine ⟨⟨hplain, ?_, fun g _ _ => ?_, fun hreach g _ => ?_, fun g _ _ => ?_,
    fun hempty => absurd hempty hnamed.account, fun g _ => ?_, haccount, hcontainer, hendpoint,
    Or.inr ⟨hnamed.account, hthere⟩⟩, hnamed, hthere⟩
  · rw [StorageState.progress_spec, hc]
    exact h.onward.passes.withContainer h.named
  · rw [StorageState.progress_spec, StorageConfig.accountFor_of_ne hnamed.account]
    exact hthere
  · have hleads := h.onward.reach hreach f hf
    rw [hold] at hleads
    rw [StorageState.progress_spec, hgoal]
    refine hleads.step hthere ?_ ?_ ?_ <;> rw [hprovider]
  · rw [StorageState.progress_spec, hgoal]
    exact .of_has hthere
  · have hbefore : state.spec.creates c s.provider = created := by
      unfold StorageConfig.creates
      rw [haccountName, h.there, ← haccountName, hcreated]
      rfl
    have hafter : c.creates c t.provider = false := by
      have hin : t.provider.has (.container c.account c.container) = true := by
        rw [hprovider]
        exact (Dict.contains_insert ..).2 (Or.inl rfl)
      have hne : c.container ≠ "" := by
        rw [hc]
        exact StorageConfig.containerFor_ne_empty
      unfold StorageConfig.creates
      rw [hthere, hin]
      simpa using hne
    have hsame : u.site.outcome u.infra g (state.progress created c) t.provider =
        u.site.outcome u.infra f state s.provider := by
      refine Site.outcome_congr (hgoal g) hold ?_ ?_
      · rw [hprovider]
        exact Site.settled_containers
      · rw [StorageState.progress_management, StorageState.progress_spec, hbefore, hafter]
        cases created <;> rfl
    rw [hsame]
    exact h.onward.leads f hf

end Undertaking.Lodged

end RegistryStorage
