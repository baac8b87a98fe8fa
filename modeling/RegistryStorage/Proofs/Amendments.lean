import RegistryStorage.Proofs.CallOrder
import RegistryStorage.Proofs.Truthfulness

/-!
What an invocation may change in the record.

The record holds what is wanted, what was put in place last, who owns the storage, and conditions.
Creating storage only adds names to what is wanted (`StorageConfig.Extends`), and an owner that is
set stays. If it fails, what was put in place last is left as it was; and if it fails before anybody
was called, all that changes is what the record says about the existence of the storage
(`StorageState.Reported`). Removing storage empties names of what is wanted, of what was put in
place and of its own configuration in the same way (`Work.Emptied`), each one after the provider has
said that the resource is gone (`Entry.Confirms`). Looking changes nothing but the condition.

Nothing is assumed about providers: each of these holds however the calls are answered
(`record_is_amended`).
-/

set_option autoImplicit false

namespace RegistryStorage

open Storage (takeCloud accountNamed forgetEndpoint forgetAccount forgetContainer)

/-! ## Configurations with more names -/

/-- Every name that the first configuration gives is given by the second as well, with the cloud,
and the network is the same but for the name of the endpoint. -/
structure StorageConfig.Extends (c c' : StorageConfig) : Prop extends c.Under c' where
  cloud : c.cloud = "" ∨ c.cloud = c'.cloud
  network : c'.network.clearEndpoint = c.network.clearEndpoint

namespace StorageConfig

variable {c c' c'' : StorageConfig} {n : String}

theorem Extends.refl (c : StorageConfig) : c.Extends c := ⟨.refl c, Or.inr rfl, rfl⟩

theorem Extends.trans (h : c.Extends c') (h' : c'.Extends c'') : c.Extends c'' := by
  refine ⟨h.toUnder.trans h'.toUnder, ?_, h'.network.trans h.network⟩
  rcases h.cloud with h | h
  · exact Or.inl h
  · rw [h]
    exact h'.cloud

theorem extends_takeCloud (infra : Infrastructure) : c.Extends (takeCloud infra c) := by
  refine ⟨under_takeCloud infra, ?_, congrArg _ (takeCloud_network infra c)⟩
  by_cases h : c.cloud = ""
  · exact Or.inl h
  · have hsame : takeCloud infra c = c := if_neg fun hempty => h hempty.1
    rw [hsame]
    exact Or.inr rfl

theorem extends_accountNamed (h : c.account = "" ∨ c.account = n) :
    c.Extends (accountNamed n c) := by
  refine ⟨under_accountNamed h, Or.inr (accountNamed_cloud n c).symm, ?_⟩
  unfold accountNamed nameEndpoint
  cases c.network with
  | external => rfl
  | internal network =>
    show NetworkAccess.clearEndpoint (.internal (Isolation.nameEndpoint n network)) = _
    unfold Isolation.nameEndpoint
    split <;> rfl

theorem extends_withContainer (h : c.container = "" ∨ c.container = n) :
    c.Extends { c with container := n } := ⟨under_withContainer h, Or.inr rfl, rfl⟩

end StorageConfig

/-! ## What creating changes -/

namespace StorageState

/-- Nothing but the existence of the storage is said anew. -/
structure Reported (before after : StorageState) : Prop where
  spec : after.spec = before.spec
  status : after.status = before.status
  management : after.management = before.management
  others : after.others = before.others

/-- **What is wanted has at most more names**, and an owner that was set is the same. -/
structure Amended (before after : StorageState) : Prop where
  spec : before.spec.Extends after.spec
  owner : ∀ m, before.management = some m → after.management = some m

/-- **What was put in place last is as it was**, and the program has at most claimed storage that
had no owner. -/
structure Stopped (before after : StorageState) : Prop extends before.Amended after where
  status : after.status = before.status
  claimed : after.management = before.management ∨
    (before.management = none ∧ after.management = some .managed)

variable {before after : StorageState}

theorem Reported.stopped (h : before.Reported after) : before.Stopped after :=
  ⟨⟨h.spec ▸ .refl _, fun _ hm => h.management.trans hm⟩, h.status, Or.inl h.management⟩

theorem reported_report (now : Moment) (status : ConditionStatus) (reason : StorageReason)
    (message : String) : before.Reported (before.report now status reason message) :=
  ⟨rfl, rfl, rfl, others_report⟩

end StorageState

/-- A call that only obtains clients. -/
def Call.obtains : Call → Bool
  | clients .. | containers _ => true
  | _ => false

/-- Somebody was called. -/
def Journal.Reached (j : Journal) : Prop := ∃ e ∈ j, e.call.obtains = false

theorem Journal.Reached.cons {j : Journal} (h : j.Reached) (e : Entry) :
    Journal.Reached (e :: j) := by
  obtain ⟨x, hx, hcall⟩ := h
  exact ⟨x, List.mem_cons_of_mem e hx, hcall⟩

section Creating

variable {σ : Type} {R : Conduct σ} {s : σ} {w : Work} {now : Moment} {settings : Settings}
variable {infra : Infrastructure} {fresh : Fresh} {before : StorageState} {created : Bool}

/-- Progress that is saved adds names, and claims at most what nobody owned. -/
theorem Work.save_stopped (hconfig : before.spec.Extends w.config)
    (hstate : w.state = before) (reason : StorageReason) (doing : String) (f : Fault) :
    before.Stopped ((w.save created).blame now reason doing f).state := by
  subst hstate
  have hclaimed : (w.save created).state.management = w.state.management ∨
      w.state.management = none ∧ (w.save created).state.management = some .managed := by
    unfold Work.save
    cases w.state.management with
    | some m => exact Or.inl (by simp)
    | none => cases created <;> simp
  refine ⟨⟨hconfig, fun m hm => ?_⟩, rfl, hclaimed⟩
  rcases hclaimed with h | ⟨hnone, -⟩
  · exact h.trans hm
  · rw [hnone] at hm
    cases hm

namespace Storage

theorem furnish_amends {scope : Scope} {environment : CloudEnvironment}
    (hw : w.state.spec.Extends w.config) :
    (furnish scope environment infra fresh now).Ensures R w s
      (fun _ v _ => w.state.Amended v.state) fun _ v _ => w.state.Stopped v.state := by
  rw [furnish_ensures]
  refine Assure.account_named.mono ?_ fun _ _ _ => Work.save_stopped hw rfl ..
  rintro account t ⟨-, hname⟩
  let c := accountNamed account.name w.config
  have hc : w.state.spec.Extends c := hw.trans (StorageConfig.extends_accountNamed hname)
  have hstopped : ∀ doing f, w.state.Stopped
      (((w.withConfig c).save account.created).blame now .azureError doing f).state := fun doing f =>
    Work.save_stopped (w := w.withConfig c) hc rfl ..
  refine .of_forall (fun _ t => ?_) fun _ _ => hstopped ..
  refine Assure.container_named.mono ?_ fun _ _ _ => hstopped ..
  rintro container t ⟨-, hcontainer⟩
  let v := w.withConfig { c with container := container.name }
  have hv : w.state.spec.Extends v.config :=
    hc.trans (StorageConfig.extends_withContainer hcontainer)
  refine .of_forall (fun _ _ => ⟨hv, fun m hm => ?_⟩) fun _ _ => Work.save_stopped hv rfl ..
  show some (w.state.management.getD _) = some m
  rw [hm]
  rfl

/-- **What creating changes in the record**, whatever the provider does. -/
theorem create_amends (hw : w.config = w.state.spec) :
    (create settings infra fresh now).Ensures R w s
      (fun _ v _ => w.state.Amended v.state) fun _ v _ => w.state.Stopped v.state := by
  have hblame : ∀ (v : Work) reason doing f, v.state = w.state →
      w.state.Stopped (v.blame now reason doing f).state := by
    intro v reason doing f hv
    rw [← hv]
    exact (StorageState.reported_report ..).stopped
  rw [create_begins]
  refine ⟨fun f _ => hblame w _ _ f rfl, fun key _ => ?_, fun credentials _ => ?_⟩
  · rw [adopt_ensures]
    split
    · exact (StorageState.reported_report ..).stopped.toAmended
    · split
      · exact (StorageState.reported_report ..).stopped.toAmended
      · refine ⟨.refl _, fun m hm => ?_⟩
        show some (w.state.management.getD _) = some m
        rw [hm]
        rfl
  · rw [provision_ensures]
    let v := w.withConfig (takeCloud infra w.config)
    refine ⟨fun _ => hblame w _ _ _ rfl, fun _ => ⟨fun f _ => hblame v _ _ f rfl,
      fun _ => ⟨fun f _ => hblame v _ _ f rfl, fun environment _ => ?_⟩⟩⟩
    refine .of_forall (fun _ t => ?_) fun f _ => hblame v _ _ f rfl
    have hv : v.state.spec.Extends v.config := hw ▸ StorageConfig.extends_takeCloud infra
    exact furnish_amends (w := v) hv

/-- Once somebody was called, this stays so. -/
theorem reached_kept {j : Journal} (c : Call) (t : Scene σ) (reply : Reply c) (u : Scene σ)
    (hu : R.journaled c t reply u) (ht : t.Since j Journal.Reached) :
    u.Since j Journal.Reached := by
  obtain ⟨new, hnew, hreached⟩ := ht
  obtain ⟨p, -, rfl⟩ := hu
  exact ⟨_ :: new, congrArg (_ :: ·) hnew, hreached.cons _⟩

/-- Unless the name of the account is refused, somebody is asked about it. -/
theorem account_reaches {scope : Scope} {environment : CloudEnvironment} {c : StorageConfig}
    {t : Scene σ} {j : Journal} (ht : t.Since j fun _ => True) :
    (Assure.account scope environment c infra fresh).Ensures R.journaled t
      (fun _ u => u.Since j Journal.Reached)
      fun _ u => u.Since j Journal.Reached ∨ c.account ≠ "" := by
  rw [Assure.account_ensures]
  refine ⟨fun f hf => ?_, fun name generated _ => ?_⟩
  · -- only a name that is configured is refused
    refine Or.inr fun hempty => ?_
    rw [Assure.accountName, if_pos hempty] at hf
    cases hf
  · have hreached : ∀ (fault : Option Fault) (new : Journal),
        Journal.Reached (⟨.checkName name, fault⟩ :: new) := fun _ _ =>
      ⟨_, List.mem_cons_self, rfl⟩
    refine (ht.perform (fun new _ => hreached none new) fun f new _ => hreached (some f) new).mono
      (fun availability u hu => ?_) fun _ _ hu => Or.inl hu
    split
    · exact (Action.Ensures.of_kept reached_kept hu).mono (fun _ _ hu => hu) fun _ _ hu => Or.inl hu
    · split
      · exact Or.inl hu
      · exact hu

theorem furnish_reaches {scope : Scope} {environment : CloudEnvironment} {t : Scene σ}
    {j : Journal} (ht : t.Since j fun _ => True)
    (hw : w.config = takeCloud infra w.state.spec) :
    (furnish scope environment infra fresh now).Ensures R.journaled w t (fun _ _ _ => True)
      fun _ v u => u.Since j Journal.Reached ∨ w.state.Reported v.state := by
  rw [furnish_ensures]
  refine (account_reaches ht).mono (fun account t ht => ?_) fun f t ht => ?_
  · refine (Action.Ensures.of_kept reached_kept ht).mono (fun _ t ht => ?_) fun _ _ ht => Or.inl ht
    refine (Action.Ensures.of_kept reached_kept ht).mono (fun _ t ht => ?_) fun _ _ ht => Or.inl ht
    exact (Action.Ensures.of_kept reached_kept ht).mono (fun _ _ _ => trivial)
      fun _ _ ht => Or.inl ht
  · refine ht.imp_right fun hne => ?_
    -- an account that has a name keeps its cloud, so there was nothing to save
    have hspec : w.config = w.state.spec := by
      rw [hw] at hne ⊢
      rw [StorageConfig.takeCloud_account infra _] at hne
      exact StorageConfig.takeCloud_of_account hne
    exact ⟨hspec, rfl, rfl, StorageState.others_report⟩

/-- **Creating that fails before anybody was called** changes nothing but the condition. -/
theorem create_reaches {t : Scene σ} (hw : w.config = w.state.spec) :
    (create settings infra fresh now).Ensures R.journaled w t (fun _ _ _ => True)
      fun _ v u => u.Since t.journal Journal.Reached ∨ w.state.Reported v.state := by
  have hblame : ∀ (u : Scene σ) (v : Work) reason doing f, v.state = w.state →
      u.Since t.journal Journal.Reached ∨ w.state.Reported (v.blame now reason doing f).state := by
    intro u v reason doing f hv
    rw [← hv]
    exact Or.inr (StorageState.reported_report ..)
  rw [create_begins]
  refine ⟨fun f _ => hblame t w _ _ f rfl, fun key _ => ?_, fun credentials _ => ?_⟩
  · rw [adopt_ensures]
    split
    · trivial
    · split <;> trivial
  · rw [provision_ensures]
    let v := w.withConfig (takeCloud infra w.config)
    refine ⟨fun _ => hblame t w _ _ _ rfl, fun _ => ⟨fun f _ => hblame t v _ _ f rfl,
      fun _ => ⟨fun f _ => hblame t v _ _ f rfl, fun environment _ => ?_⟩⟩⟩
    have hany : t.Since t.journal fun _ => True := Scene.since_refl trivial
    refine (Scene.Since.keeps_perform (fun _ _ _ => trivial) t hany).mono (fun _ u hu => ?_)
      fun f u _ => hblame u v _ _ f rfl
    exact furnish_reaches (w := v) hu (congrArg (takeCloud infra) hw)

end Storage

end Creating

/-! ## What removing changes -/

namespace StorageConfig

/-- The configuration without its names of some kinds. -/
def without (lost : Kind → Bool) (c : StorageConfig) : StorageConfig where
  account := if lost .account then "" else c.account
  container := if lost .container then "" else c.container
  cloud := c.cloud
  network := if lost .endpoint then c.network.clearEndpoint else c.network

variable {c : StorageConfig}

theorem without_without (lost more : Kind → Bool) :
    (c.without lost).without more = c.without fun k => lost k || more k := by
  have hcleared : ∀ access : NetworkAccess, access.clearEndpoint.clearEndpoint =
      access.clearEndpoint := by
    rintro (_ | network) <;> rfl
  unfold without
  congr 1
  · by_cases h : lost .account = true <;> simp [h]
  · by_cases h : lost .container = true <;> simp [h]
  · by_cases h : lost .endpoint = true <;> simp [h, hcleared]

/-- Forgetting the name of one kind. -/
def forget : Kind → StorageConfig → StorageConfig
  | .account => forgetAccount
  | .container => forgetContainer
  | .endpoint => forgetEndpoint

theorem forget_eq (k : Kind) (c : StorageConfig) : c.forget k = c.without (· == k) := by
  cases k <;> rfl

end StorageConfig

/-- The provider said that the resource of a kind is gone: it deleted it, or did not find it, or did
not find the account of which the keys were asked for. -/
def Entry.Confirms (c : StorageConfig) (k : Kind) (e : Entry) : Prop :=
  (∃ r, c.Names r ∧ r.kind? = some k ∧ e.call.deletion? = some r ∧
    e.fault.all Fault.isNotFound = true) ∨
  (k ≠ .endpoint ∧ e.call = .listKeys c.account ∧ e.fault.any Fault.isNotFound = true)

/-- The provider said of all kinds that are lost that they are gone. -/
def Journal.Confirms (c : StorageConfig) (lost : Kind → Bool) (j : Journal) : Prop :=
  ∀ k, lost k = true → ∃ e ∈ j, e.Confirms c k

/-- **The names of some kinds are emptied**, in the configuration and in both of the record. All
else that the record holds is the same, but for the existence of the storage. -/
structure Work.Emptied (lost : Kind → Bool) (w v : Work) : Prop where
  config : v.config = w.config.without lost
  spec : v.state.spec = w.state.spec.without lost
  status : v.state.status = w.state.status.map (·.without lost)
  management : v.state.management = w.state.management
  others : v.state.others = w.state.others

namespace Journal.Confirms

variable {c : StorageConfig} {lost : Kind → Bool} {j : Journal} {e : Entry} {k : Kind}

theorem nothing (c : StorageConfig) (j : Journal) : j.Confirms c fun _ => false := nofun

theorem cons (h : j.Confirms c lost) (e : Entry) : Journal.Confirms c lost (e :: j) := by
  intro i hi
  obtain ⟨x, hx, hconfirms⟩ := h i hi
  exact ⟨x, List.mem_cons_of_mem e hx, hconfirms⟩

/-- One more answer confirms one more loss. -/
theorem lose (h : j.Confirms c lost) (he : e.Confirms c k) :
    Journal.Confirms c (fun i => lost i || i == k) (e :: j) := by
  intro i hi
  rcases Bool.or_eq_true_iff.1 hi with hi | hi
  · exact h.cons e i hi
  · obtain rfl := beq_iff_eq.1 hi
    exact ⟨e, List.mem_cons_self, he⟩

end Journal.Confirms

namespace Work.Emptied

variable {lost : Kind → Bool} {w v : Work} {now : Moment}

theorem refl (w : Work) : w.Emptied (fun _ => false) w := by
  refine ⟨rfl, rfl, ?_, rfl, rfl⟩
  cases w.state.status <;> rfl

theorem report (h : w.Emptied lost v) (status : ConditionStatus) (reason : StorageReason)
    (message : String) : w.Emptied lost (v.report now status reason message) :=
  ⟨h.config, h.spec, h.status, h.management, StorageState.others_report.trans h.others⟩

theorem blame (h : w.Emptied lost v) (reason : StorageReason) (doing : String) (f : Fault) :
    w.Emptied lost (v.blame now reason doing f) := h.report ..

/-- To forget a name empties it everywhere. -/
theorem forget (h : w.Emptied lost v) (k : Kind) :
    w.Emptied (fun i => lost i || i == k) (v.change (StorageConfig.forget k)) := by
  have hforget : StorageConfig.forget k = (·.without (· == k)) :=
    funext (StorageConfig.forget_eq k)
  rw [hforget]
  refine ⟨?_, ?_, ?_, h.management, h.others⟩
  · exact (congrArg (·.without (· == k)) h.config).trans (StorageConfig.without_without ..)
  · exact (congrArg (·.without (· == k)) h.spec).trans (StorageConfig.without_without ..)
  · refine (congrArg (Option.map (·.without (· == k))) h.status).trans ?_
    rw [Option.map_map]
    refine congrArg (Option.map · _) (funext fun c => ?_)
    exact StorageConfig.without_without lost (· == k)

end Work.Emptied

section Removing

variable {σ : Type} {R : Conduct σ} {w v : Work} {now : Moment} {settings : Settings}
variable {lost : Kind → Bool} {j : Journal} {t : Scene σ} {P : Journal → Prop}

/-- An answer is written down on top of what was true before. -/
theorem Scene.Since.perform_cons {c : Call} (ht : t.Since j P) :
    (Action.perform c).Ensures R.journaled t
      (fun _ u => u.Since j fun new => ∃ rest, new = ⟨c, none⟩ :: rest ∧ P rest)
      fun f u => u.Since j fun new => ∃ rest, new = ⟨c, some f⟩ :: rest ∧ P rest := by
  obtain ⟨new, hnew, hP⟩ := ht
  refine (Action.ensures_perform c).2 ?_
  rintro reply u ⟨p, -, rfl⟩
  constructor
  · rintro x rfl
    exact ⟨⟨c, none⟩ :: new, congrArg (List.cons _) hnew, new, rfl, hP⟩
  · rintro f rfl
    exact ⟨⟨c, some f⟩ :: new, congrArg (List.cons _) hnew, new, rfl, hP⟩

theorem Scene.Since.and {Q : Journal → Prop} (h : t.Since j P) (h' : t.Since j Q) :
    t.Since j fun new => P new ∧ Q new := by
  obtain ⟨new, hnew, hP⟩ := h
  obtain ⟨_, hsame, hQ⟩ := h'
  obtain rfl := List.append_cancel_right (hnew.symm.trans hsame)
  exact ⟨new, hnew, hP, hQ⟩

/-- What is confirmed stays confirmed. -/
theorem Scene.Since.keeps_confirmed {c : StorageConfig} (a : Call) :
    Action.Keeps R.journaled (Scene.Since j (Journal.Confirms c lost)) (Action.perform a) :=
  keeps_perform fun _ _ h => h.cons _

/-- Names were emptied, and each of them after the provider had said that the resource is gone. -/
structure Work.Lost (w : Work) (j : Journal) (lost : Kind → Bool) (v : Work) (t : Scene σ) :
    Prop where
  emptied : w.Emptied lost v
  confirmed : t.Since j (Journal.Confirms w.config lost)

theorem Work.lost_nothing (w : Work) (ht : t.Since j fun _ => True) : w.Lost j (fun _ => false) w t :=
  ⟨.refl w, ht.mono fun new _ => .nothing w.config new⟩

/-- A name is emptied once it is known that the resource is gone. -/
theorem Work.Lost.forget (h : w.Lost j lost v t) {known : Kind → Bool}
    (hknown : t.Since j (Journal.Confirms w.config known)) {k : Kind} (hk : known k = true) :
    w.Lost j (fun i => lost i || i == k) (v.change (StorageConfig.forget k)) t := by
  refine ⟨h.emptied.forget k, (h.confirmed.and hknown).mono ?_⟩
  rintro new ⟨hlost, hknown⟩ i hi
  rcases Bool.or_eq_true_iff.1 hi with hi | hi
  · exact hlost i hi
  · obtain rfl := beq_iff_eq.1 hi
    exact hknown i hk

/-- **A deletion that is granted confirms that the resource is gone**, and so does one that is
answered with not-found. -/
theorem Scene.Since.delete {c : StorageConfig} {r : Resource} {k : Kind} {a : Call}
    (ht : t.Since j (Journal.Confirms c lost)) (hr : c.Names r) (hk : r.kind? = some k)
    (ha : a.deletion? = some r) :
    (Action.perform a).Ensures R.journaled t
      (fun _ u => u.Since j (Journal.Confirms c fun i => lost i || i == k))
      fun f u => if f.isNotFound then u.Since j (Journal.Confirms c fun i => lost i || i == k)
        else u.Since j (Journal.Confirms c lost) := by
  have hgone : ∀ {fault : Option Fault} {rest : Journal}, fault.all Fault.isNotFound = true →
      rest.Confirms c lost →
      Journal.Confirms c (fun i => lost i || i == k) (⟨a, fault⟩ :: rest) :=
    fun hfault hrest => hrest.lose (Or.inl ⟨r, hr, hk, ha, hfault⟩)
  refine ht.perform_cons.mono (fun _ u hu => hu.mono ?_) fun f u hu => ?_
  · rintro _ ⟨rest, rfl, hrest⟩
    exact hgone rfl hrest
  · split
    · rename_i hnot
      refine hu.mono ?_
      rintro _ ⟨rest, rfl, hrest⟩
      exact hgone hnot hrest
    · refine hu.mono ?_
      rintro _ ⟨rest, rfl, hrest⟩
      exact hrest.cons _

namespace Storage

/-- Some names were emptied, each of them once the provider had said that the resource is gone. -/
def Loses (w : Work) (j : Journal) (v : Work) (t : Scene σ) : Prop := ∃ lost, w.Lost j lost v t

/-- **What follows a deletion that is tolerated**: the resource is gone and its name can be emptied,
or there is a fault and nothing has changed. -/
theorem delete_loses {r : Resource} {k : Kind} {c : Call} (h : w.Lost j lost v t)
    (hr : w.config.Names r) (hk : r.kind? = some k) (hc : c.deletion? = some r)
    {Q : Scene σ → Prop} {E : Fault → Scene σ → Prop}
    (hQ : ∀ u, w.Lost j (fun i => lost i || i == k) (v.change (StorageConfig.forget k)) u → Q u)
    (hE : ∀ f u, w.Lost j lost v u → E f u) :
    (Action.perform c).Ensures R.journaled t (fun _ u => Q u)
      fun f u => if f.isNotFound then Q u else E f u := by
  refine (h.confirmed.delete hr hk hc).mono (fun _ u hu => ?_) fun f u hu => ?_
  · exact hQ u ⟨h.emptied.forget k, hu⟩
  · split at hu <;> rename_i hnot
    · rw [if_pos hnot]
      exact hQ u ⟨h.emptied.forget k, hu⟩
    · rw [if_neg hnot]
      exact hE f u ⟨h.emptied, hu⟩

theorem removePrivateNetwork_loses {account : String} (h : w.Lost j lost v t)
    (hnetwork : v.config.network = w.config.network) :
    (removePrivateNetwork now account).Ensures R.journaled v t
      (fun _ u t => Loses w j u t) fun _ u t => Loses w j u t := by
  rw [removePrivateNetwork_ensures, hnetwork]
  cases hendpoint : w.config.network.endpoint? with
  | none => exact ⟨lost, h⟩
  | some endpoint =>
    have hdns : Action.Keeps R.journaled (Scene.Since j (Journal.Confirms w.config lost))
        (Isolation.removeDns endpoint account) :=
      (Scene.Since.keeps_confirmed (.deleteARecord _ _)).tolerant.bind fun _ =>
        (Scene.Since.keeps_confirmed (.deleteZoneGroup _ _)).tolerant.bind fun _ =>
          (Scene.Since.keeps_confirmed (.deleteLink _ _)).tolerant
    have hnames : w.config.Names (.endpoint endpoint) := hendpoint
    refine (hdns t h.confirmed).mono (fun _ t ht => ?_) fun _ t ht => ⟨lost, h.emptied.blame .., ht⟩
    exact (Action.ensures_tolerant _).2 (delete_loses ⟨h.emptied, ht⟩ hnames rfl rfl
      (fun _ hu => ⟨_, hu⟩) fun _ _ hu => ⟨lost, hu.emptied.blame .., hu.confirmed⟩)

theorem removeAccount_loses (h : w.Lost j lost v t) (haccount : w.config.account ≠ "") :
    (removeAccount now w.config.account).Ensures R.journaled v t
      (fun _ u t => Loses w j u t) fun _ u t => Loses w j u t := by
  have hnames : w.config.Names (.account w.config.account) := ⟨rfl, haccount⟩
  rw [removeAccount_ensures]
  exact (Action.ensures_tolerant _).2 (delete_loses h hnames rfl rfl
    (fun _ hu => ⟨_, hu.emptied.report .., hu.confirmed⟩)
    fun _ _ hu => ⟨lost, hu.emptied.blame .., hu.confirmed⟩)

/-- **What dismantling empties**, whatever the provider does. -/
theorem dismantle_loses (ht : t.Since j fun _ => True) (haccount : w.config.account ≠ "") :
    (dismantle now).Ensures R.journaled w t
      (fun _ v u => Loses w j v u) fun _ v u => Loses w j v u := by
  have hrest : ∀ {lost v u}, w.Lost j lost v u → v.config.network = w.config.network →
      (removePrivateNetwork now w.config.account).Ensures R.journaled v u
        (fun _ v u => (removeAccount now w.config.account).Ensures R.journaled v u
          (fun _ v u => Loses w j v u) fun _ v u => Loses w j v u)
        fun _ v u => Loses w j v u := by
    intro lost v u h hnetwork
    refine (removePrivateNetwork_loses h hnetwork).mono ?_ fun _ _ _ hv => hv
    rintro _ v u ⟨more, hmore⟩
    exact removeAccount_loses hmore haccount
  rw [dismantle_ensures]
  dsimp only
  split
  · exact hrest (w.lost_nothing ht) rfl
  · rename_i hcontainer
    rw [keyUnlessGone_ensures, Probe.primaryKey_ensures]
    refine ht.perform_cons.mono (fun keys u hu => ⟨fun key _ => ?_, fun f hf => ?_⟩) fun f u hu => ?_
    · have hnames : w.config.Names (.container w.config.account w.config.container) :=
        ⟨rfl, haccount, rfl, hcontainer⟩
      dsimp only
      rw [removeContainer_ensures]
      refine (Action.ensures_tolerant _).2 (delete_loses
        (w.lost_nothing (hu.mono fun _ _ => trivial)) hnames rfl rfl (fun u hu => ?_) fun _ u hu => ?_)
      · exact hrest ⟨hu.emptied.report .., hu.confirmed⟩ rfl
      · exact ⟨_, hu.emptied.blame .., hu.confirmed⟩
    · -- an account without keys is there all the same
      rw [Probe.isNotFound_firstKey hf, if_neg Bool.false_ne_true]
      have hlost := w.lost_nothing (hu.mono fun _ _ => trivial)
      exact ⟨_, hlost.emptied.blame .., hlost.confirmed⟩
    · rw [Probe.isNotFound_keyFault]
      split
      · rename_i hnot
        -- the account is gone, and the container with it
        let gone (k : Kind) : Bool := k != .endpoint
        have hknown : u.Since j (Journal.Confirms w.config gone) := by
          refine hu.mono ?_
          rintro _ ⟨rest, rfl, -⟩ k hk
          exact ⟨_, List.mem_cons_self, Or.inr ⟨bne_iff_ne.1 hk, rfl, hnot⟩⟩
        have hkept : (removePrivateNetwork now w.config.account).Ensures R.journaled w u
            (fun _ v t => t.Since j (Journal.Confirms w.config gone) ∧
              v.state.management = w.state.management)
            fun _ v t => t.Since j (Journal.Confirms w.config gone) ∧
              v.state.management = w.state.management :=
          removePrivateNetwork_keeps (fun d _ => Scene.Since.keeps_confirmed d) hknown
        refine ((removePrivateNetwork_loses (w.lost_nothing (hu.mono fun _ _ => trivial)) rfl).and
          hkept).mono ?_ fun _ _ _ hv => hv.1
        rintro _ v u ⟨⟨lost, hlost⟩, hknown, -⟩
        have hboth := (hlost.forget hknown (k := .account) rfl).forget hknown (k := .container) rfl
        rw [Work.change_change] at hboth
        exact ⟨_, hboth.emptied.report .., hboth.confirmed⟩
      · have hlost := w.lost_nothing (hu.mono fun _ _ => trivial)
        exact ⟨_, hlost.emptied.blame .., hlost.confirmed⟩

/-- **What removing changes in the record**, whatever the provider does. -/
theorem remove_loses :
    (remove settings now).Ensures R.journaled w t
      (fun _ v u => Loses w t.journal v u) fun _ v u => Loses w t.journal v u := by
  have hblame : ∀ {u : Scene σ}, u.Since t.journal (fun _ => True) → ∀ reason doing f,
      Loses w t.journal (w.blame now reason doing f) u := fun hu _ _ _ =>
    ⟨_, (w.lost_nothing hu).emptied.blame .., (w.lost_nothing hu).confirmed⟩
  have hstart : t.Since t.journal fun _ => True := Scene.since_refl trivial
  rw [remove_begins]
  split
  · exact ⟨_, w.lost_nothing hstart⟩
  · split
    · exact ⟨_, (w.lost_nothing hstart).emptied.report .., (w.lost_nothing hstart).confirmed⟩
    · rename_i haccount
      refine ⟨fun f _ => hblame hstart .., fun _ _ => ⟨_, w.lost_nothing hstart⟩, fun credentials _ => ?_⟩
      rw [decommission_ensures]
      refine ⟨fun f _ => hblame hstart .., fun environment _ => ?_⟩
      refine (Scene.Since.keeps_perform (fun _ _ _ => trivial) t hstart).mono (fun _ u hu => ?_)
        fun f u hu => hblame hu ..
      exact dismantle_loses hu haccount

end Storage

end Removing

/-! ## What looking changes -/

/-- **Looking changes nothing but what the record says about the storage**, whatever the provider
does. -/
theorem Storage.checkExists_reports {σ : Type} {R : Conduct σ} {s : σ} {w : Work} {now : Moment}
    {settings : Settings} :
    (checkExists settings now).Ensures R w s
      (fun _ v _ => v.config = w.config ∧ w.state.Reported v.state)
      fun _ v _ => v.config = w.config ∧ w.state.Reported v.state := by
  have hreport : ∀ status reason message,
      w.state.Reported (w.report now status reason message).state :=
    StorageState.reported_report now
  rw [checkExists_ensures]
  dsimp only
  split
  · exact ⟨rfl, hreport ..⟩
  · refine ⟨fun _ _ => ⟨rfl, hreport ..⟩, fun _ _ => ⟨fun _ _ => ⟨rfl, hreport ..⟩, fun _ _ => ?_⟩⟩
    refine .of_forall (fun key t => ?_) fun _ _ => ⟨rfl, hreport ..⟩
    refine .of_forall (fun there u => ?_) fun _ _ => ⟨rfl, hreport ..⟩
    unfold found
    split <;> exact ⟨rfl, hreport ..⟩

/-! ## The record after an invocation -/

/-- How a run ended: with what, what was written by then, and the calls. -/
structure Ending (σ α : Type) where
  result : Except Fault α
  work : Work
  scene : Scene σ

/-- Runs an invocation on a copy of what is wanted, with a provider of which nothing is known. -/
def StorageState.invoke {σ α : Type} (state : StorageState) (x : Invocation α) (r : Replier σ)
    (p : σ) : Ending σ α :=
  let ended := (x.start ⟨state.spec, state⟩).run r.journaled ⟨p, []⟩
  ⟨ended.1.1, ended.1.2, ended.2⟩

/-- What is ensured of an invocation is true of how it ends. -/
theorem Invocation.Ensures.invoke {σ α : Type} {state : StorageState} {x : Invocation α}
    {r : Replier σ} {p : σ} {Q : α → Work → Scene σ → Prop} {E : Fault → Work → Scene σ → Prop}
    (h : x.Ensures r.conduct.journaled ⟨state.spec, state⟩ ⟨p, []⟩ Q E) :
    match (state.invoke x r p).result with
    | .ok a => Q a (state.invoke x r p).work (state.invoke x r p).scene
    | .error f => E f (state.invoke x r p).work (state.invoke x r p).scene :=
  Program.Ensures.run_journaled h

/-- **What an invocation may change in the record**, however the provider answers. Creating adds
names and keeps an owner that is set; if it fails, what was put in place last is as it was, the
program has at most claimed storage without an owner, and before anybody was called it changes
nothing but the condition on the storage. Removing empties names, and the same ones everywhere, so
that its configuration is still the one that is wanted and what was put in place still is what is
wanted if it was; each of them was confirmed to be gone. Looking changes nothing but the
condition. -/
theorem record_is_amended {σ : Type} (r : Replier σ) (p : σ) (settings : Settings)
    (state : StorageState) (now : Moment) :
    let created := fun infra fresh => state.invoke (Storage.create settings infra fresh now) r p
    let removed := state.invoke (Storage.remove settings now) r p
    let looked := state.invoke (Storage.checkExists settings now) r p
    (∀ infra fresh,
      state.Amended (created infra fresh).work.state ∧
        ∀ f, (created infra fresh).result = .error f →
          state.Stopped (created infra fresh).work.state ∧
            ((∀ e ∈ (created infra fresh).scene.journal, e.call.obtains = true) →
              state.Reported (created infra fresh).work.state)) ∧
    (removed.work.config = removed.work.state.spec ∧
      (state.status = some state.spec →
        removed.work.state.status = some removed.work.state.spec) ∧
      ∃ lost, Work.Emptied lost ⟨state.spec, state⟩ removed.work ∧
        removed.scene.journal.Confirms state.spec lost) ∧
    looked.work.config = state.spec ∧ state.Reported looked.work.state := by
  intro created removed looked
  refine ⟨fun infra fresh => ?_, ?_, ?_⟩
  · have hamends := (Storage.create_amends rfl :
      (Storage.create settings infra fresh now).Ensures r.conduct.journaled
        ⟨state.spec, state⟩ ⟨p, []⟩ _ _).invoke
    have hreaches := (Storage.create_reaches rfl :
      (Storage.create settings infra fresh now).Ensures r.conduct.journaled
        ⟨state.spec, state⟩ ⟨p, []⟩ _ _).invoke
    cases hresult : (created infra fresh).result with
    | ok x =>
      rw [hresult] at hamends
      exact ⟨hamends, nofun⟩
    | error f =>
      rw [hresult] at hamends hreaches
      refine ⟨hamends.toAmended, fun _ _ => ⟨hamends, fun hobtains => hreaches.resolve_left ?_⟩⟩
      -- whoever is called beyond the clients is in the journal
      rintro ⟨new, hnew, e, he, hcall⟩
      rw [List.append_nil] at hnew
      rw [hobtains e (hnew ▸ he)] at hcall
      cases hcall
  · have hloses : Storage.Loses ⟨state.spec, state⟩ [] removed.work removed.scene := by
      have hends := (Storage.remove_loses :
        (Storage.remove settings now).Ensures r.conduct.journaled
          ⟨state.spec, state⟩ ⟨p, []⟩ _ _).invoke
      split at hends <;> exact hends
    obtain ⟨lost, hemptied, new, hnew, hconfirms⟩ := hloses
    refine ⟨hemptied.config.trans hemptied.spec.symm, fun hstatus => ?_, lost, hemptied, ?_⟩
    · rw [hemptied.status, hstatus, hemptied.spec]
      rfl
    · rw [List.append_nil] at hnew
      exact hnew ▸ hconfirms
  · have hends := (Storage.checkExists_reports :
      (Storage.checkExists settings now).Ensures r.conduct.journaled
        ⟨state.spec, state⟩ ⟨p, []⟩ _ _).invoke
    split at hends <;> exact hends

/-- Storage is removed until the deletion of the endpoint is refused: the container's name is
emptied, for the container was deleted, and what was put in place is still what is wanted. And a
name that is refused stops an attempt to create storage with nothing but the condition changed. -/
theorem stopped_invocations_are_recorded :
    let r := (Inventory.reply clusterSettings.cluster.scope).disturbed
    let network : InternalNetwork := { vnet := "vnet", subnet := "subnet", endpoint := "acct1-pe" }
    let spec : StorageConfig :=
      { account := "acct1", container := "images", network := .internal network }
    let state : StorageState := { spec := spec, status := some spec, management := some .managed }
    let inventory : Inventory :=
      { accounts := .ofList [("acct1", .named "acct1")]
        containers := .ofList [(("acct1", "images"), ())] }
    let d : Disturbance := [none, none, none, none, none, none, some (.authentication "")]
    let removed := state.invoke (Storage.remove clusterSettings default) r (d, inventory)
    let named : StorageState := { spec := { account := "Storage 1" } }
    let created := named.invoke
      (Storage.create clusterSettings ⟨"mycluster", none⟩ ⟨⟨[], 0⟩, 0⟩ default) r ([], inventory)
    removed.work.state.spec = { spec with container := "" } ∧
      removed.work.state.status = some removed.work.state.spec ∧
      (∃ e ∈ removed.scene.journal, e.Confirms spec .container) ∧
      created.scene.journal.length = 1 ∧ (∃ f, created.result = .error f) ∧
      named.Reported created.work.state := by
  intro r network spec state inventory d removed named created
  have hspec : removed.work.state.spec = { spec with container := "" } := by decide +kernel
  obtain ⟨-, ⟨-, hstatus, lost, hemptied, hconfirms⟩, -⟩ :=
    record_is_amended r (d, inventory) clusterSettings state default
  obtain ⟨hcreated, -⟩ := record_is_amended r ([], inventory) clusterSettings named default
  have hfails : ∃ f, created.result = .error f := by
    have hnot : created.result ≠ .ok () := by decide +kernel
    cases hresult : created.result with
    | ok x => exact absurd hresult hnot
    | error f => exact ⟨f, rfl⟩
  refine ⟨hspec, hstatus rfl, ?_, by decide +kernel, hfails, ?_⟩
  · refine hconfirms .container ?_
    -- a name that was not lost would still be there
    by_contra hkept
    have hcontainer := congrArg StorageConfig.container (hspec.symm.trans hemptied.spec)
    simp [StorageConfig.without, hkept, state, spec] at hcontainer
  · obtain ⟨f, hf⟩ := hfails
    exact ((hcreated _ _).2 f hf).2 (by decide +kernel)

end RegistryStorage
