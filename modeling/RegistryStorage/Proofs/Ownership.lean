import Mathlib.Data.List.Induction
import RegistryStorage.Proofs.Teardown

/-!
Who owns the storage, and what a removal may delete.

One flag in the record says whether the program owns the storage, and it stands for the account
and the container together. It is set once: by the first invocation that is granted an account or
a container while nobody owns the storage, or, as not owned, by the first that ends well without
creating either (`managed_iff_claimed`). Nothing sets it back, and nothing asks which account it
was set for. So a removal deletes the account that the record names, whoever created it, as soon
as ownership was claimed for anything at all (`removal_deletes_iff`).

In particular an account of the user's in which the program once created a container is deleted
with all that the user keeps in it (`existing_account_is_deleted`).
-/

set_option autoImplicit false

namespace RegistryStorage

variable {σ α : Type} {R : Conduct σ}

/-! ## Claims to ownership -/

/-- The calls with which the program creates something of its own. -/
def Call.founds : Call → Bool
  | createAccount _ | createContainer .. => true
  | _ => false

/-- Whether an account or a container was granted. -/
def Journal.founded (j : Journal) : Bool := j.any fun e => e.fault.isNone && e.call.founds

namespace Journal

variable {j : Journal} {c : Call} {b : Bool}

theorem founded_of_not_founds {fault : Option Fault} (hc : c.founds = false)
    (h : founded j = b) : founded (⟨c, fault⟩ :: j) = b := by
  rw [← h, founded, List.any_cons, hc, Bool.and_false, Bool.false_or]
  rfl

theorem founded_refused {f : Fault} (h : founded j = b) : founded (⟨c, some f⟩ :: j) = b := by
  rw [← h]
  rfl

theorem founded_granted (hc : c.founds = true) : founded (⟨c, none⟩ :: j) = true := by
  rw [founded, List.any_cons, hc]
  rfl

end Journal

/-- Whether something was founded since a journal was written. -/
abbrev Scene.Founded (j : Journal) (b : Bool) (s : Scene σ) : Prop :=
  s.Since j fun new => new.founded = b

theorem Scene.Founded.keeps {j : Journal} {b : Bool} {c : Call} (hc : c.founds = false) :
    Action.Keeps R.journaled (Scene.Founded j b) (Action.perform c) :=
  Since.keeps_perform fun _ _ => Journal.founded_of_not_founds hc

/-! ### Creating -/

section Creating

variable {s : Scene σ} {j : Journal} {b : Bool} {scope : Scope} {environment : CloudEnvironment}
variable {c : StorageConfig} {infra : Infrastructure} {fresh : Fresh}

theorem Assure.account_founded (hs : s.Founded j false) :
    (account scope environment c infra fresh).Ensures R.journaled s
      (fun a t => t.Founded j a.created) fun _ t => t.Founded j false := by
  rw [account_ensures]
  refine ⟨fun _ _ => hs, fun name generated _ => ?_⟩
  refine (Scene.Founded.keeps rfl s hs).mono (fun availability t ht => ?_) fun _ _ ht => ht
  split
  · exact ht.perform (fun _ _ => Journal.founded_granted rfl) fun _ _ => Journal.founded_refused
  · split
    · exact ht
    · exact ht

theorem Storage.openPrivately_founded {a : Assured} :
    Action.Keeps R.journaled (Scene.Founded j b) (openPrivately scope infra a c) := by
  refine openPrivately_keeps_of fun d hd => Scene.Founded.keeps ?_
  cases d <;> first | rfl | exact hd.elim

theorem Probe.primaryKey_founded {account : String} :
    Action.Keeps R.journaled (Scene.Founded j b) (primaryKey account) :=
  primaryKey_keeps_of (Scene.Founded.keeps rfl)

theorem Probe.containerExists_founded {account key container : String} :
    Action.Keeps R.journaled (Scene.Founded j b) (containerExists account key container) :=
  containerExists_keeps_of (Scene.Founded.keeps rfl)

theorem Assure.container_founded (hs : s.Founded j b) :
    (container c infra fresh).Ensures R.journaled s
      (fun a t => t.Founded j (b || a.created)) fun _ t => t.Founded j b := by
  -- a container that is created founds something, whether the account did or not
  have hcreate : ∀ {t : Scene σ} {key name : String}, t.Founded j b →
      (Action.perform (.createContainer c.account key name)).Ensures R.journaled t
        (fun _ u => u.Founded j (b || true)) fun _ u => u.Founded j b := by
    intro t key name ht
    rw [Bool.or_true]
    exact ht.perform (fun _ _ => Journal.founded_granted rfl) fun _ _ => Journal.founded_refused
  rw [container_ensures]
  split
  · exact (Probe.primaryKey_founded s hs).mono (fun key t ht => hcreate ht) fun _ _ ht => ht
  · refine ⟨fun _ _ => hs, fun _ => ?_⟩
    refine (Probe.primaryKey_founded s hs).mono (fun key t ht => ?_) fun _ _ ht => ht
    refine (Probe.containerExists_founded t ht).mono (fun there u hu => ?_) fun _ _ hu => hu
    split
    · rwa [Bool.or_false]
    · exact hcreate hu

theorem Storage.closePublicly_founded :
    Action.Keeps R.journaled (Scene.Founded j b) (closePublicly c) :=
  closePublicly_keeps_of (Scene.Founded.keeps rfl) (Scene.Founded.keeps rfl)

end Creating

/-! ## When ownership is decided -/

/-- Who owns the storage after an invocation that founded something or not, and that ended well
or not. An owner that was decided before stays. -/
def StorageState.ownerAfter (founded ended : Bool) (s : StorageState) : Option Management :=
  match s.management with
  | some m => some m
  | none => if founded then some .managed else if ended then some .unmanaged else none

namespace Storage

variable {s : Scene σ} {w : Work} {now : Moment} {settings : Settings} {infra : Infrastructure}
variable {credentials : ClusterCredentials} {fresh : Fresh}

/-- The invocation decided on the owner as the calls since a journal say. -/
def Decided (j : Journal) (before : StorageState) (ended : Bool) (v : Work) (t : Scene σ) : Prop :=
  ∃ b, t.Founded j b ∧ v.state.management = before.ownerAfter b ended

theorem decided_of_unfounded {j : Journal} {v : Work} {t : Scene σ} (ht : t.Founded j false)
    (hv : v.state.management = w.state.management) : Decided j w.state false v t := by
  refine ⟨false, ht, hv.trans ?_⟩
  unfold StorageState.ownerAfter
  cases w.state.management <;> rfl

theorem furnish_decides {scope : Scope} {environment : CloudEnvironment} {j : Journal}
    (hs : s.Founded j false) :
    (furnish scope environment infra fresh now).Ensures R.journaled w s
      (fun _ v t => Decided j w.state true v t) fun _ v t => Decided j w.state false v t := by
  -- what is kept on the way out says what was created so far
  have hsave : ∀ {b : Bool} {t : Scene σ} {c : StorageConfig}, t.Founded j b →
      Decided j w.state false ((w.withConfig c).save b) t := by
    intro b t c ht
    refine ⟨b, ht, ?_⟩
    unfold Work.save Work.withConfig StorageState.ownerAfter
    cases w.state.management <;> cases b <;> rfl
  rw [furnish_ensures]
  refine (Assure.account_founded hs).mono (fun account t ht => ?_) fun _ t ht => hsave ht
  refine (openPrivately_founded t ht).mono (fun _ u hu => ?_) fun _ u hu => hsave hu
  refine (Assure.container_founded hu).mono (fun container v hv => ?_) fun _ v hv => hsave hv
  refine (closePublicly_founded v hv).mono (fun _ t ht => ?_) fun _ _ ht => hsave ht
  refine ⟨_, ht, ?_⟩
  unfold Work.settle Work.report Work.withConfig StorageState.ownerAfter
  cases w.state.management <;> cases account.created || container.created <;> rfl

/-- **Creating decides on the owner by what it was granted**, whatever the provider does. -/
theorem create_decides (hc : settings.credentials = .ok (.cluster credentials)) :
    (create settings infra fresh now).Ensures R.journaled w s
      (fun _ v t => Decided s.journal w.state true v t)
      fun _ v t => Decided s.journal w.state false v t := by
  have hs : s.Founded s.journal false := Scene.since_refl rfl
  rw [create_ensures hc, provision_ensures]
  refine ⟨fun _ => decided_of_unfounded hs rfl, fun _ => ⟨fun _ _ => decided_of_unfounded hs rfl,
    fun _ => ⟨fun _ _ => decided_of_unfounded hs rfl, fun environment _ => ?_⟩⟩⟩
  refine (Scene.Founded.keeps rfl s hs).mono (fun _ t ht => ?_) fun _ t ht =>
    decided_of_unfounded ht rfl
  exact furnish_decides (w := w.withConfig (takeCloud infra w.config)) ht

end Storage

/-! ### Looking -/

/-- A call of a look at storage. -/
def Call.OfLook : Call → Prop
  | clients .. | containers _ | listKeys _ | containerExists .. => True
  | _ => False

namespace Storage

variable {s : σ} {w : Work} {now : Moment} {settings : Settings} {I : σ → Prop}

theorem accessKey_within (hI : ∀ d : Call, d.OfLook → Action.Keeps R I (Action.perform d))
    (environment : CloudEnvironment) (account : String) (credentials : StorageCredentials) :
    Action.Keeps R I (accessKey environment account credentials) := by
  cases credentials with
  | userManaged key =>
    exact (hI (.containers environment) trivial).bind fun _ => Action.keeps_pure key
  | cluster credentials =>
    exact (hI (.clients environment credentials) trivial).bind fun _ =>
      Probe.primaryKey_keeps_of (hI (.listKeys account) trivial)

/-- **What each call of a look keeps is kept by the look**, which changes nothing about who owns the
storage. -/
theorem checkExists_within (hI : ∀ d : Call, d.OfLook → Action.Keeps R I (Action.perform d))
    (hs : I s) :
    (checkExists settings now).Ensures R w s
      (fun _ v t => I t ∧ v.state.management = w.state.management)
      fun _ v t => I t ∧ v.state.management = w.state.management := by
  rw [checkExists_ensures]
  dsimp only
  split
  · exact ⟨hs, rfl⟩
  · refine ⟨fun _ _ => ⟨hs, rfl⟩, fun credentials _ => ⟨fun _ _ => ⟨hs, rfl⟩, fun _ _ => ?_⟩⟩
    refine (accessKey_within hI _ _ _ s hs).mono (fun key t ht => ?_) fun _ _ ht => ⟨ht, rfl⟩
    have hlook := Probe.containerExists_keeps_of
      (hI (.containerExists w.config.account key w.config.container) trivial)
    refine (hlook t ht).mono (fun there u hu => ⟨hu, ?_⟩) fun _ _ hu => ⟨hu, rfl⟩
    unfold found
    split <;> rfl

end Storage

/-- What each call of a look keeps is kept when the registry is told where its storage is. -/
theorem Storage.environment_within {settings : Settings} {I : σ → Prop}
    (hI : ∀ d : Call, d.OfLook → Action.Keeps R I (Action.perform d)) (c : StorageConfig) :
    Action.Keeps R I (environment settings c) :=
  (Action.keeps_ofResult _).bind fun _ => (Action.keeps_ofResult _).bind fun _ =>
    (accessKey_within hI _ _ _).bind fun _ => Action.keeps_pure _

/-! ## What a removal calls -/

/-- A call that removes what private access to some account needs. -/
def Call.OfIsolation (account : String) : Call → Prop
  | deleteZoneGroup .. | deleteEndpoint _ => True
  | deleteARecord _ name | deleteLink _ name => name = account
  | _ => False

/-- A call of a removal of storage in some account. -/
def Call.OfRemoval (account : String) : Call → Prop
  | clients .. | deleteARecord .. | deleteZoneGroup .. | deleteLink .. | deleteEndpoint _ => True
  | listKeys a | deleteContainer a _ _ | deleteAccount a => a = account
  | _ => False

/-- A call that removes what an account needs to be reached as some network access says. -/
def Call.Withdraws (account : String) (access : NetworkAccess) : Call → Prop
  | deleteZoneGroup e _ | deleteEndpoint e => access.endpoint? = some e
  | deleteARecord _ name | deleteLink _ name => name = account
  | _ => False

/-- A call of a removal of the storage that a configuration names. -/
def Call.Dismantles (c : StorageConfig) : Call → Prop
  | clients .. => True
  | listKeys a | deleteAccount a => a = c.account
  | deleteContainer a _ n => a = c.account ∧ n = c.container
  | d => d.Withdraws c.account c.network

namespace Call

variable {d : Call} {account : String} {access : NetworkAccess} {c : StorageConfig}

theorem OfIsolation.ofRemoval (hd : d.OfIsolation account) : d.OfRemoval account := by
  cases d <;> trivial

theorem Withdraws.ofIsolation (hd : d.Withdraws account access) : d.OfIsolation account := by
  cases d <;> trivial

theorem Withdraws.dismantles (hd : d.Withdraws c.account c.network) : d.Dismantles c := by
  cases d <;> first | exact hd | exact hd.elim

theorem Dismantles.ofRemoval (hd : d.Dismantles c) : d.OfRemoval c.account := by
  cases d <;> first | trivial | exact hd | exact hd.1

end Call

namespace Storage

variable {s : σ} {w : Work} {now : Moment} {settings : Settings} {I : σ → Prop}
variable {credentials : ClusterCredentials} {account : String}

/-- **What each call of a withdrawal keeps is kept by the withdrawal**, which forgets at most the
endpoint and changes nothing about who owns the storage. -/
theorem removePrivateNetwork_keeps
    (hI : ∀ d : Call, d.Withdraws account w.config.network → Action.Keeps R I (Action.perform d))
    (hs : I s) :
    (removePrivateNetwork now account).Ensures R w s
      (fun _ v t => I t ∧ v.state.management = w.state.management)
      fun _ v t => I t ∧ v.state.management = w.state.management := by
  rw [removePrivateNetwork_ensures]
  split
  · exact ⟨hs, rfl⟩
  · rename_i endpoint hendpoint
    have hdns : Action.Keeps R I (Isolation.removeDns endpoint account) :=
      ((hI (.deleteARecord Isolation.zone account) rfl).tolerant).bind fun _ =>
        ((hI (.deleteZoneGroup endpoint Isolation.zoneGroup) hendpoint).tolerant).bind fun _ =>
          (hI (.deleteLink Isolation.zone account) rfl).tolerant
    have hdelete := (hI (.deleteEndpoint endpoint) hendpoint).tolerant
    refine (hdns s hs).mono (fun _ t ht => ?_) fun _ _ ht => ⟨ht, rfl⟩
    exact (hdelete t ht).mono (fun _ _ hu => ⟨hu, rfl⟩) fun _ _ hu => ⟨hu, rfl⟩

theorem removePrivateNetwork_within
    (hI : ∀ d : Call, d.OfIsolation account → Action.Keeps R I (Action.perform d)) (hs : I s) :
    (removePrivateNetwork now account).Ensures R w s
      (fun _ v t => I t ∧ v.state.management = w.state.management)
      fun _ v t => I t ∧ v.state.management = w.state.management :=
  removePrivateNetwork_keeps (fun d hd => hI d hd.ofIsolation) hs

theorem removeAccount_keeps (hI : Action.Keeps R I (Action.perform (.deleteAccount account)))
    (hs : I s) :
    (removeAccount now account).Ensures R w s
      (fun _ v t => I t ∧ v.state.management = w.state.management)
      fun _ v t => I t ∧ v.state.management = w.state.management := by
  rw [removeAccount_ensures]
  exact (hI.tolerant s hs).mono (fun _ _ ht => ⟨ht, rfl⟩) fun _ _ ht => ⟨ht, rfl⟩

theorem removeAccount_within
    (hI : ∀ d : Call, d.OfRemoval account → Action.Keeps R I (Action.perform d)) (hs : I s) :
    (removeAccount now account).Ensures R w s
      (fun _ v t => I t ∧ v.state.management = w.state.management)
      fun _ v t => I t ∧ v.state.management = w.state.management :=
  removeAccount_keeps (hI (.deleteAccount account) rfl) hs

/-- **What each call of a removal keeps is kept by the removal**, which changes nothing about who
owns the storage. -/
theorem dismantle_keeps
    (hI : ∀ d : Call, d.Dismantles w.config → Action.Keeps R I (Action.perform d)) (hs : I s) :
    (dismantle now).Ensures R w s
      (fun _ v t => I t ∧ v.state.management = w.state.management)
      fun _ v t => I t ∧ v.state.management = w.state.management := by
  have hwithdraws : ∀ d : Call, d.Withdraws w.config.account w.config.network →
      Action.Keeps R I (Action.perform d) := fun d hd => hI d hd.dismantles
  -- no step looks at the owner, so each leaves it as it was
  have hrest : ∀ {v : Work} {t : σ}, I t → v.state.management = w.state.management →
      v.config.network = w.config.network →
      (removePrivateNetwork now w.config.account).Ensures R v t
        (fun _ u r => (removeAccount now w.config.account).Ensures R u r
          (fun _ u r => I r ∧ u.state.management = w.state.management)
          fun _ u r => I r ∧ u.state.management = w.state.management)
        fun _ u r => I r ∧ u.state.management = w.state.management := by
    intro v t ht hv hnetwork
    refine (removePrivateNetwork_keeps (hnetwork ▸ hwithdraws) ht).mono (fun _ u r hu => ?_)
      fun _ _ _ hu => ⟨hu.1, hu.2.trans hv⟩
    exact (removeAccount_keeps (hI _ rfl) hu.1).mono
      (fun _ _ _ hx => ⟨hx.1, hx.2.trans (hu.2.trans hv)⟩)
      fun _ _ _ hx => ⟨hx.1, hx.2.trans (hu.2.trans hv)⟩
  have hkey : Action.Keeps R I (Probe.primaryKey w.config.account) :=
    Probe.primaryKey_keeps_of (hI (.listKeys w.config.account) rfl)
  rw [dismantle_ensures]
  dsimp only
  split
  · exact hrest hs rfl rfl
  · rw [keyUnlessGone_ensures]
    refine (hkey s hs).mono (fun key t ht => ?_) fun f t ht => ?_
    · dsimp only
      rw [removeContainer_ensures]
      have hdelete := (hI (.deleteContainer w.config.account key w.config.container)
        ⟨rfl, rfl⟩).tolerant
      exact (hdelete t ht).mono (fun _ u hu => hrest hu rfl rfl) fun _ _ hu => ⟨hu, rfl⟩
    · split
      · exact (removePrivateNetwork_keeps hwithdraws ht).mono (fun _ _ _ hu => hu)
          fun _ _ _ hu => hu
      · exact ⟨ht, rfl⟩

/-- The storage is the program's to remove: it is owned, its account has a name, and its cloud is
one that exists. -/
def Removes (settings : Settings) (state : StorageState) : Prop :=
  state.isManaged = true ∧ state.spec.account ≠ "" ∧
    ∃ environment, CloudEnvironment.ofName state.spec.cloud settings.customCloud = .ok environment

theorem remove_keeps (hc : settings.credentials = .ok (.cluster credentials))
    (hI : ∀ d : Call, d.Dismantles w.config → Action.Keeps R I (Action.perform d)) (hs : I s) :
    (remove settings now).Ensures R w s
      (fun _ v t => I t ∧ v.state.management = w.state.management)
      fun _ v t => I t ∧ v.state.management = w.state.management := by
  rw [remove_ensures hc]
  split
  · exact ⟨hs, rfl⟩
  · split
    · exact ⟨hs, rfl⟩
    · refine ⟨fun _ _ => ⟨hs, rfl⟩, fun environment _ => ?_⟩
      exact ((hI (.clients environment credentials) trivial) s hs).mono
        (fun _ t ht => dismantle_keeps hI ht) fun _ _ ht => ⟨ht, rfl⟩

theorem remove_within (hc : settings.credentials = .ok (.cluster credentials))
    (hI : ∀ d : Call, d.OfRemoval w.config.account → Action.Keeps R I (Action.perform d))
    (hs : I s) :
    (remove settings now).Ensures R w s
      (fun _ v t => I t ∧ v.state.management = w.state.management)
      fun _ v t => I t ∧ v.state.management = w.state.management :=
  remove_keeps hc (fun d hd => hI d hd.ofRemoval) hs

end Storage

/-- Whether an order is to put storage in place. -/
def Order.creates : Order → Bool
  | create .. => true
  | remove | checkExists => false

/-- **Every invocation decides on the owner by what it was granted**, whatever the provider does.
To remove and to look is granted nothing that would decide. -/
theorem Order.decides {s : Scene σ} {w : Work} {now : Moment} {settings : Settings}
    {credentials : ClusterCredentials} (hc : settings.credentials = .ok (.cluster credentials))
    (o : Order) :
    (o.invocation settings now).Ensures R.journaled w s
      (fun _ v t => Storage.Decided s.journal w.state o.creates v t)
      fun _ v t => Storage.Decided s.journal w.state false v t := by
  have hs : s.Founded s.journal false := Scene.since_refl rfl
  cases o with
  | create infra fresh => exact Storage.create_decides hc
  | remove =>
    have hremoval : ∀ d : Call, d.OfRemoval w.config.account →
        Action.Keeps R.journaled (Scene.Founded s.journal false) (Action.perform d) := by
      intro d hd
      refine Scene.Founded.keeps ?_
      cases d <;> first | rfl | exact hd.elim
    refine (Storage.remove_within hc hremoval hs).mono ?_ ?_
    · exact fun _ _ _ hv => Storage.decided_of_unfounded hv.1 hv.2
    · exact fun _ _ _ hv => Storage.decided_of_unfounded hv.1 hv.2
  | checkExists =>
    have hlook : ∀ d : Call, d.OfLook →
        Action.Keeps R.journaled (Scene.Founded s.journal false) (Action.perform d) := by
      intro d hd
      refine Scene.Founded.keeps ?_
      cases d <;> first | rfl | exact hd.elim
    refine (Invocation.ensures_bind _).2 ((Storage.checkExists_within hlook hs).mono ?_ ?_)
    · exact fun _ _ _ hv => Storage.decided_of_unfounded hv.1 hv.2
    · exact fun _ _ _ hv => Storage.decided_of_unfounded hv.1 hv.2

namespace Storage

variable {s : σ} {w : Work} {now : Moment} {settings : Settings}
variable {credentials : ClusterCredentials} {account : String}

/-- A removal of storage that is not the program's to remove calls nobody. -/
theorem remove_idle (hc : settings.credentials = .ok (.cluster credentials))
    (hw : w.state.spec = w.config) (h : ¬Removes settings w.state) :
    (remove settings now).Ensures R w s (fun _ _ t => t = s) fun _ _ t => t = s := by
  rw [remove_ensures hc]
  split
  · rfl
  · rename_i hmanaged
    split
    · rfl
    · rename_i haccount
      refine ⟨fun _ _ => rfl, fun environment hcloud => absurd ?_ h⟩
      exact ⟨by simpa using hmanaged, hw ▸ haccount, environment, hw ▸ hcloud⟩

/-- The account is there, and calls were made since a journal was written. -/
structure Standing (account : String) (j : Journal) (s : Scene Inventory) : Prop where
  plain : s.provider.Plain
  there : s.provider.has (.account account) = true
  since : s.Since j fun _ => True

namespace Standing

variable {home : Scope} {j : Journal} {s : Scene Inventory}

/-- Deleting anything else, or not finding it, leaves the account where it is. -/
theorem delete {d : Call} {x : Resource} (hs : Standing account j s) (hd : d.deletion? = some x)
    (hx : ∀ n, x ≠ .account n) :
    (Action.perform d).Ensures (Inventory.undisturbed home) s (fun _ t => Standing account j t)
      fun f t => if f.isNotFound then Standing account j t else False := by
  obtain ⟨new, hnew, -⟩ := hs.since
  refine Inventory.ensures_undisturbed (fun _ t ht => ⟨hs.plain.reply ht, ?_, ?_⟩) fun f hf => ?_
  · refine (Inventory.reply_has ht _).2 (Or.inr ⟨?_, hs.there⟩)
    rw [Call.deletes, hd]
    cases x with
    | account n => exact absurd rfl (hx n)
    | _ => rfl
  · exact ⟨_ :: new, congrArg _ hnew, trivial⟩
  · rw [if_pos (Inventory.reply_error hf)]
    exact ⟨hs.plain, hs.there, _ :: new, congrArg _ hnew, trivial⟩

theorem primaryKey (hs : Standing account j s) :
    (Probe.primaryKey account).Ensures (Inventory.undisturbed home) s
      (fun _ t => Standing account j t) fun f _ => f.isNotFound = true ∧ False := by
  obtain ⟨new, hnew, -⟩ := hs.since
  refine (Inventory.primaryKey_undisturbed hs.plain account).mono ?_ ?_
  · rintro key t ⟨-, -, rfl⟩
    exact ⟨hs.plain, hs.there, _ :: new, congrArg _ hnew, trivial⟩
  · rintro f t ⟨hgone, -⟩
    rw [hs.there] at hgone
    cases hgone

/-- The last step of a removal calls for the deletion of the account. -/
theorem removeAccount (hs : Standing account j s) :
    (Storage.removeAccount now account).Ensures (Inventory.undisturbed home) w s
      (fun _ _ t => t.Since j fun new => ∃ e ∈ new, e.call = .deleteAccount account)
      fun _ _ _ => False := by
  obtain ⟨new, hnew, -⟩ := hs.since
  rw [removeAccount_ensures]
  refine (Action.ensures_tolerant _).2 (Inventory.ensures_undisturbed (fun _ t ht => ?_) fun f hf => ?_)
  · exact ⟨_ :: new, congrArg _ hnew, _, List.mem_cons_self, rfl⟩
  · rw [if_pos (Inventory.reply_error hf)]
    exact ⟨_ :: new, congrArg _ hnew, _, List.mem_cons_self, rfl⟩

end Standing

/-- **A removal of storage that is the program's to remove gets as far as deleting its account**,
if no call is refused and the account is there. -/
theorem remove_deletes {home : Scope} {s : Scene Inventory}
    (hc : settings.credentials = .ok (.cluster credentials))
    (hw : w.state.spec = w.config) (h : Removes settings w.state) (hplain : s.provider.Plain)
    (hthere : s.provider.has (.account w.config.account) = true) :
    (remove settings now).Ensures (Inventory.undisturbed home) w s
      (fun _ _ t => t.Since s.journal fun new => ∃ e ∈ new, e.call = .deleteAccount w.config.account)
      fun _ _ _ => False := by
  obtain ⟨hmanaged, haccount, environment, hcloud⟩ := h
  rw [hw] at haccount hcloud
  have hdeletes : Deletes (Inventory.undisturbed home) (Standing w.config.account s.journal) :=
    fun _ _ hd hx _ ht => ht.delete hd hx
  rw [remove_ensures hc, if_neg (by simp [hmanaged]), if_neg haccount]
  refine ⟨fun f hf => ?_, fun environment _ => ?_⟩
  · rw [hcloud] at hf
    cases hf
  · refine Inventory.ensures_undisturbed (fun _ t ht => ?_) fun f hf => ?_
    · obtain rfl := (Prod.mk.inj ht).2
      have hstart : Standing w.config.account s.journal
          (s.after (.clients environment credentials) none s.provider) :=
        ⟨hplain, hthere, [_], rfl, trivial⟩
      -- the account is there, so its key is had and the removal does not stop before it
      exact dismantle_reaches hdeletes (fun _ _ _ _ _ => False.elim)
        (fun _ ht => ht.primaryKey) (fun _ _ ht => ht.removeAccount) (fun _ => False.elim) hstart
    · cases hf

end Storage

/-! ## Histories with edits -/

/-- What happens between looks at the world: an invocation, or the user edits the record. -/
inductive Move
  | turn (t : Turn)
  | edit (spec : StorageConfig)

/-- The refusals in a move are honest. -/
def Move.Honest : Move → Prop
  | turn t => t.Honest
  | edit _ => True

namespace World

variable {settings : Settings} {home : Scope} {w : World}

/-- Makes a move. -/
def move (settings : Settings) (home : Scope) (w : World) : Move → World
  | .turn t => (w.take settings home t).2
  | .edit spec => { w with state := { w.state with spec := spec } }

/-- The world after a history with edits. -/
def moved (settings : Settings) (home : Scope) (w : World) (moves : List Move) : World :=
  moves.foldl (fun w m => w.move settings home m) w

/-- The calls that a turn makes, the last one first. -/
def calls (settings : Settings) (home : Scope) (w : World) (t : Turn) : Journal :=
  let after := (w.take settings home t).2.scene.journal
  after.take (after.length - w.scene.journal.length)

/-- At some time, when nobody owned the storage yet, an invocation was granted an account or a
container. -/
def Claimed (settings : Settings) (home : Scope) (w : World) (moves : List Move) : Prop :=
  ∃ k t, moves[k]? = some (.turn t) ∧
    (w.moved settings home (moves.take k)).state.management = none ∧
    ((w.moved settings home (moves.take k)).calls settings home t).founded = true

variable {credentials : ClusterCredentials} {moves : List Move} {t : Turn} {m : Move}

theorem moved_append : w.moved settings home (moves ++ [m]) =
    (w.moved settings home moves).move settings home m := by
  rw [moved, List.foldl_append]
  rfl

theorem calls_eq {new : Journal}
    (h : (w.take settings home t).2.scene.journal = new ++ w.scene.journal) :
    w.calls settings home t = new := by
  rw [calls, h, List.length_append, Nat.add_sub_cancel, List.take_left]

/-- The calls of a history are those of its first part and those of its last move. -/
theorem claimed_append : w.Claimed settings home (moves ++ [m]) ↔
    w.Claimed settings home moves ∨ ∃ t, m = .turn t ∧
      (w.moved settings home moves).state.management = none ∧
      ((w.moved settings home moves).calls settings home t).founded = true := by
  constructor
  · rintro ⟨k, t, hk, hnone, hfounded⟩
    -- the claim was made in the first part, or it is the last move that makes it
    by_cases hlt : k < moves.length
    · rw [List.getElem?_append_left hlt] at hk
      rw [List.take_append_of_le_length hlt.le] at hnone hfounded
      exact Or.inl ⟨k, t, hk, hnone, hfounded⟩
    · have hlast : k = moves.length := by
        have hle := (List.getElem?_eq_some_iff.1 hk).1
        rw [List.length_append, List.length_singleton] at hle
        omega
      subst hlast
      rw [List.getElem?_concat_length] at hk
      rw [List.take_left] at hnone hfounded
      exact Or.inr ⟨t, Option.some.inj hk, hnone, hfounded⟩
  · rintro (⟨k, t, hk, hnone, hfounded⟩ | ⟨t, rfl, hnone, hfounded⟩)
    · have hlt := (List.getElem?_eq_some_iff.1 hk).1
      refine ⟨k, t, ?_, ?_, ?_⟩
      · rwa [List.getElem?_append_left hlt]
      · rwa [List.take_append_of_le_length hlt.le]
      · rwa [List.take_append_of_le_length hlt.le]
    · refine ⟨moves.length, t, List.getElem?_concat_length, ?_, ?_⟩
      · rwa [List.take_left]
      · rwa [List.take_left]

variable (home) in
/-- **One turn decides on the owner by what it was granted.** -/
theorem take_decides (hc : settings.credentials = .ok (.cluster credentials)) (ht : t.Honest) :
    ∃ b ended, (w.take settings home t).2.scene.Founded w.scene.journal b ∧
      (w.take settings home t).2.state.management = w.state.ownerAfter b ended := by
  refine take_keeps (P := fun v => ∃ b ended, v.scene.Founded w.scene.journal b ∧
    v.state.management = w.state.ownerAfter b ended) ht ((Order.decides hc t.order).mono ?_ ?_)
  · rintro _ v u ⟨b, hb, hv⟩
    exact ⟨b, _, hb, hv⟩
  · rintro _ v u ⟨b, hb, hv⟩
    exact ⟨b, false, hb, hv⟩

/-- **Who owns the storage.** The program does exactly if it once claimed it: at a time when nobody
owned the storage, an invocation was granted an account or a container. -/
theorem managed_iff_claimed (hc : settings.credentials = .ok (.cluster credentials))
    (hw : w.state.management = none) (hhonest : ∀ m ∈ moves, m.Honest) :
    (w.moved settings home moves).state.management = some .managed ↔
      w.Claimed settings home moves := by
  -- from the end: the last move is the one that sees all the others done
  induction moves using List.reverseRecOn with
  | nil =>
    constructor
    · intro h
      rw [moved, List.foldl_nil, hw] at h
      cases h
    · rintro ⟨k, t, hk, -⟩
      cases hk
  | append_singleton moves m ih =>
    have ih := ih fun m hm => hhonest m (List.mem_append_left _ hm)
    rw [moved_append, claimed_append, ← ih]
    cases m with
    | edit spec =>
      constructor
      · exact Or.inl
      · rintro (h | ⟨t, ht, -⟩)
        · exact h
        · cases ht
    | turn t =>
      have hturn : t.Honest := hhonest (.turn t) (by simp)
      obtain ⟨b, ended, ⟨new, hnew, hb⟩, hmanagement⟩ :=
        take_decides home hc hturn (w := w.moved settings home moves)
      have hcalls := calls_eq hnew
      have hlast : (∃ u, Move.turn t = .turn u ∧
          (w.moved settings home moves).state.management = none ∧
          ((w.moved settings home moves).calls settings home u).founded = true) ↔
          (w.moved settings home moves).state.management = none ∧ b = true := by
        constructor
        · rintro ⟨u, hu, hnone, hfounded⟩
          cases hu
          rw [hcalls, hb] at hfounded
          exact ⟨hnone, hfounded⟩
        · rintro ⟨hnone, rfl⟩
          exact ⟨t, rfl, hnone, by rw [hcalls, hb]⟩
      rw [hlast]
      show (World.take settings home _ t).2.state.management = some .managed ↔ _
      rw [hmanagement, StorageState.ownerAfter]
      -- an owner that was decided stays, and one that was not is decided by this turn
      cases (w.moved settings home moves).state.management with
      | some m => simp
      | none => cases b <;> cases ended <;> simp

/-- **What every call keeps is true after every history.** Edits do not reach the provider. -/
theorem moved_keeps {I : Scene Inventory → Prop}
    (hI : ∀ c s reply t, Inventory.honest home c s reply t → I s → I t) (hw : I w.scene)
    (hhonest : ∀ m ∈ moves, m.Honest) : I (w.moved settings home moves).scene := by
  induction moves using List.reverseRecOn with
  | nil => exact hw
  | append_singleton moves m ih =>
    have ih := ih fun m hm => hhonest m (List.mem_append_left _ hm)
    have hm : m.Honest := hhonest m (by simp)
    rw [moved_append]
    cases m with
    | edit spec => exact ih
    | turn t => exact take_keeps (P := fun v => I v.scene) hm (Invocation.Ensures.of_kept hI ih)

theorem moved_plain (hw : w.scene.provider.Plain) (hhonest : ∀ m ∈ moves, m.Honest) :
    (w.moved settings home moves).scene.provider.Plain := by
  refine moved_keeps (I := fun s : Scene Inventory => s.provider.Plain) ?_ hw hhonest
  rintro c s reply u ⟨i, hi | ⟨f, -, rfl, rfl⟩, rfl⟩ hs
  · exact hs.reply hi
  · exact hs

/-- What the calls of a turn are like, if all that the turn can call is like that. -/
theorem calls_of_ensures {P : Journal → Prop} (ht : t.Honest)
    (h : (t.order.invocation settings t.now).Ensures (Inventory.reply home).honest.journaled
      ⟨w.state.spec, w.state⟩ w.scene (fun _ _ s => s.Since w.scene.journal P)
      fun _ _ s => s.Since w.scene.journal P) :
    P (w.calls settings home t) := by
  obtain ⟨new, hnew, hP⟩ := take_keeps (P := fun v => v.scene.Since w.scene.journal P) ht h
  rwa [calls_eq hnew]

/-- A removal deletes no account but the one that the record names, and that one only if the
storage is the program's to remove. -/
theorem removes_of_deletes {now : Moment} {d : Disturbance} {account : String} {e : Entry}
    (hc : settings.credentials = .ok (.cluster credentials)) (hd : d.Honest)
    (he : e ∈ w.calls settings home ⟨.remove, now, d⟩) (hcall : e.call = .deleteAccount account) :
    Storage.Removes settings w.state ∧ w.state.spec.account = account := by
  constructor
  · by_contra hidle
    have hnone : w.calls settings home ⟨.remove, now, d⟩ = [] := by
      refine calls_of_ensures (P := fun new => new = []) hd ?_
      refine (Storage.remove_idle hc rfl hidle).mono ?_ ?_
      · rintro _ v s rfl
        exact Scene.since_refl rfl
      · rintro _ v s rfl
        exact Scene.since_refl rfl
    rw [hnone] at he
    cases he
  · have hown : ∀ e ∈ w.calls settings home ⟨.remove, now, d⟩,
        e.call.OfRemoval w.state.spec.account := by
      refine calls_of_ensures
        (P := fun new => ∀ e ∈ new, e.call.OfRemoval w.state.spec.account) hd ?_
      have hI : ∀ c : Call, c.OfRemoval w.state.spec.account →
          Action.Keeps (Inventory.honest home) (Scene.Since w.scene.journal
            fun new => ∀ e ∈ new, e.call.OfRemoval w.state.spec.account) (Action.perform c) := by
        intro c hc
        refine Scene.Since.keeps_perform fun fault new hnew => ?_
        exact List.forall_mem_cons.2 ⟨hc, hnew⟩
      exact (Storage.remove_within hc hI (Scene.since_refl (List.forall_mem_nil _))).mono
        (fun _ _ _ h => h.1) fun _ _ _ h => h.1
    have hdelete := hown e he
    rw [hcall] at hdelete
    exact hdelete.symm

/-- A removal that is refused nothing deletes the account that the record names, if the storage is
the program's to remove. -/
theorem deletes_of_removes (hc : settings.credentials = .ok (.cluster credentials))
    (hplain : w.scene.provider.Plain) (hremoves : Storage.Removes settings w.state)
    (hthere : w.scene.provider.has (.account w.state.spec.account) = true) (now : Moment) :
    ∃ e ∈ w.calls settings home ⟨.remove, now, []⟩,
      e.call = .deleteAccount w.state.spec.account := by
  have hdeletes : (Storage.remove settings now).Ensures (Inventory.undisturbed home)
      ⟨w.state.spec, w.state⟩ w.scene (fun _ _ s => s.Since w.scene.journal fun new =>
        ∃ e ∈ new, e.call = .deleteAccount w.state.spec.account) fun _ _ _ => False :=
    Storage.remove_deletes hc rfl hremoves hplain hthere
  have htake := take_undisturbed (t := ⟨.remove, now, []⟩)
    (Q := fun v => v.scene.Since w.scene.journal fun new =>
      ∃ e ∈ new, e.call = .deleteAccount w.state.spec.account)
    (E := fun _ _ => False) rfl hdeletes
  split at htake
  · obtain ⟨new, hnew, he⟩ := htake
    rwa [calls_eq hnew]
  · exact htake.elim

end World

/-- **What a removal may delete.** After every history, with edits and refusals, an account that
is there may be deleted by a removal exactly if the record names it, its cloud exists, and the
program once claimed ownership of anything. Whether the program created the account is not part
of it. -/
theorem removal_deletes_iff {settings : Settings} {credentials : ClusterCredentials}
    (hc : settings.credentials = .ok (.cluster credentials)) (home : Scope) (state : StorageState)
    (hmanagement : state.management = none) (inventory : Inventory) (hplain : inventory.Plain)
    (moves : List Move) (hhonest : ∀ m ∈ moves, m.Honest) (account : String) :
    let w := (World.initial state inventory).moved settings home moves
    w.scene.provider.has (.account account) = true →
      ((∃ now d, d.Honest ∧
          ∃ e ∈ w.calls settings home ⟨.remove, now, d⟩, e.call = .deleteAccount account) ↔
        (World.initial state inventory).Claimed settings home moves ∧
          w.state.spec.account = account ∧ account ≠ "" ∧
          ∃ environment,
            CloudEnvironment.ofName w.state.spec.cloud settings.customCloud = .ok environment) := by
  intro w hthere
  -- who owns the storage is a matter of history, and the rest of the record
  have howned : w.state.management = some .managed ↔
      (World.initial state inventory).Claimed settings home moves :=
    World.managed_iff_claimed hc hmanagement hhonest
  constructor
  · rintro ⟨now, d, hd, e, he, hcall⟩
    obtain ⟨⟨hmanaged, hname, hcloud⟩, rfl⟩ := World.removes_of_deletes hc hd he hcall
    exact ⟨howned.1 (beq_iff_eq.1 hmanaged), rfl, hname, hcloud⟩
  · rintro ⟨hclaimed, rfl, hname, hcloud⟩
    have hremoves : Storage.Removes settings w.state :=
      ⟨beq_iff_eq.2 (howned.2 hclaimed), hname, hcloud⟩
    have hw : w.scene.provider.Plain := World.moved_plain hplain hhonest
    exact ⟨default, [], Disturbance.honest_nil,
      World.deletes_of_removes hc hw hremoves hthere default⟩

/-- An account with one container of the user's, and a record that names the account and another
container: the run creates the container, and from then on the account may be deleted. -/
theorem removal_deletes_existing :
    let user : Inventory :=
      { accounts := .ofList [("acct1", .named "acct1")]
        containers := .ofList [(("acct1", "backups"), ())] }
    let state : StorageState := { spec := { account := "acct1", container := "images" } }
    let moves : List Move := [.turn ⟨.create ⟨"mycluster", none⟩ ⟨⟨[], 0⟩, 0⟩, default, []⟩]
    let home := clusterSettings.cluster.scope
    let w := (World.initial state user).moved clusterSettings home moves
    (∀ m ∈ moves, m.Honest) ∧ w.scene.provider.has (.account "acct1") = true ∧
      w.state.spec.account = "acct1" ∧
      ∃ now d, d.Honest ∧ ∃ e ∈ w.calls clusterSettings home ⟨.remove, now, d⟩,
        e.call = .deleteAccount "acct1" := by
  intro user state moves home w
  have hplain : user.Plain := by
    refine ⟨rfl, fun n a ha => ?_, fun _ _ h => by cases h⟩
    rcases Dict.get?_insert_cases ha with ⟨-, rfl⟩ | ha
    · rfl
    · cases ha
  have hhonest : ∀ m ∈ moves, m.Honest := by
    rintro m hm
    rw [List.mem_singleton.1 hm]
    exact Disturbance.honest_nil
  have hthere : w.scene.provider.has (.account "acct1") = true := by decide +kernel
  have hname : w.state.spec.account = "acct1" := by decide +kernel
  have hcloudname : w.state.spec.cloud = "" := by decide +kernel
  have hclaimed : (World.initial state user).Claimed clusterSettings home moves :=
    ⟨0, _, rfl, rfl, by decide +kernel⟩
  have hcloud : ∃ environment,
      CloudEnvironment.ofName w.state.spec.cloud clusterSettings.customCloud = .ok environment :=
    hcloudname ▸ ⟨_, rfl⟩
  have hdeletes := (removal_deletes_iff clusterSettings_credentials home state rfl user hplain moves
    hhonest "acct1" hthere).2 ⟨hclaimed, hname, by decide, hcloud⟩
  exact ⟨hhonest, hthere, hname, hdeletes⟩

/-- **An account of the user's is deleted.** It was there before the run, no call of the run
created it, and the user keeps something else in it. -/
theorem existing_account_is_deleted :
    let user : Inventory :=
      { accounts := .ofList [("acct1", .named "acct1")]
        containers := .ofList [(("acct1", "backups"), ())] }
    let state : StorageState := { spec := { account := "acct1", container := "images" } }
    let turns : List Turn := [⟨.create ⟨"mycluster", none⟩ ⟨⟨[], 0⟩, 0⟩, default, []⟩]
    let home := clusterSettings.cluster.scope
    let w := (World.initial state user).after clusterSettings home turns
    let ended := (w.take clusterSettings home ⟨.remove, default, []⟩).2
    state.management = none ∧ user.has (.account "acct1") = true ∧ (∀ t ∈ turns, t.Honest) ∧
      (∃ e ∈ w.calls clusterSettings home ⟨.remove, default, []⟩,
        e.call = .deleteAccount "acct1" ∧ e.fault = none) ∧
      ¬ended.scene.journal.Created (.account "acct1") ∧
      ended.scene.provider.has (.account "acct1") = false := by
  decide +kernel

end RegistryStorage
