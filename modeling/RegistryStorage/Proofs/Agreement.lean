import RegistryStorage.Lifecycle.Inspect
import RegistryStorage.Proofs.Reentry

/-!
The operations agree with each other.

Creating, looking, telling the registry where its storage is, and removing each work out for
themselves which cloud, which names and which key are meant, from a configuration that creating may
have filled in. When an invocation that creates has ended well they all come to the same
(`operations_agree`). The record holds what was put in place; looking finds it, and writes nothing
that was not written; and the registry is told the names of the record, the first key of the account
and the cloud in which the storage was provisioned.

`Placed` is what creating leaves, however many of its calls were refused on the way, and all that
looking and telling need to know. Removing needs to know less: it forgets the names in what is
wanted and in what was put in place alike (`Work.Level`), whoever answers. Once the account is
forgotten, looking and removing end before they call anybody.
-/

set_option autoImplicit false

namespace RegistryStorage

open Storage (takeCloud accountNamed)

/-! ## Keys that are there -/

/-- An account that exists and has a key. -/
def Inventory.Keyed (n : String) (i : Inventory) : Prop :=
  ∃ a key keys, i.accounts.get? n = some a ∧ Inventory.keys n a = key :: keys

section Keyed

variable {home : Scope} {P : Fault → Prop} {n : String} {i t : Inventory} {d : Call}
variable {s : Scene Inventory} {c : StorageConfig} {infra : Infrastructure} {fresh : Fresh}

/-- A key stays while the account does: a new account comes with keys, and one that is closed keeps
those that it has. -/
theorem Inventory.Keyed.reply {x : d.Answer} (h : Inventory.Keyed n i)
    (hreply : Inventory.reply home d i = (.ok x, t)) (hkept : d.deletion? = none) :
    Inventory.Keyed n t := by
  obtain ⟨a, key, keys, ha, hkeys⟩ := h
  have hinsert : ∀ {m : String} {b : StoredAccount},
      (m = n → ∃ key keys, Inventory.keys n b = key :: keys) →
      ∃ a key keys, (i.accounts.insert m b).get? n = some a ∧
        Inventory.keys n a = key :: keys := by
    intro m b hb
    by_cases hm : n = m
    · obtain ⟨key, keys, hkeys⟩ := hb hm.symm
      subst hm
      exact ⟨b, key, keys, Dict.get?_insert_self .., hkeys⟩
    · exact ⟨a, key, keys, (Dict.get?_insert_of_ne _ _ hm).trans ha, hkeys⟩
  cases d with
  | createAccount r =>
    obtain rfl := (Prod.mk.inj hreply).2
    exact hinsert fun _ => ⟨_, _, rfl⟩
  | setAccess m access =>
    obtain ⟨b, hb, rfl⟩ := Inventory.reply_setAccess hreply
    refine hinsert fun hm => ⟨key, keys, ?_⟩
    rw [hm, ha] at hb
    obtain rfl := Option.some.inj hb
    exact hkeys
  | deleteAccount m => cases hkept
  | _ =>
    -- the other calls are not about accounts
    have hsame : t.accounts = i.accounts := by
      simp only [Inventory.reply] at hreply
      try split at hreply
      all_goals cases hreply
      all_goals rfl
    exact ⟨a, key, keys, by rw [hsame]; exact ha, hkeys⟩

theorem Inventory.Keyed.keeps (hkept : d.deletion? = none) :
    Action.Keeps (Inventory.refusable P home) (fun s => Inventory.Keyed n s.provider)
      (Action.perform d) := fun _ hs =>
  Inventory.ensures_refusable (fun _ _ hreply => hs.reply hreply hkept) fun _ _ => hs

theorem Probe.firstKey_eq_ok {keys : List AccountKey} {value : String} :
    firstKey n keys = .ok value ↔ ∃ key rest, keys = key :: rest ∧ key.value = value := by
  unfold firstKey
  constructor
  · intro h
    split at h
    · rename_i key rest
      exact ⟨key, rest, rfl, Except.ok.inj h⟩
    · cases h
  · rintro ⟨key, rest, rfl, rfl⟩
    rfl

/-- A key that was had is there. -/
theorem Probe.primaryKey_keyed :
    (primaryKey n).Ensures (Inventory.refusable P home) s
      (fun _ t => Inventory.Keyed n t.provider) fun _ _ => True := by
  rw [primaryKey_ensures]
  refine Inventory.ensures_refusable (fun keys i hreply => ?_) fun _ _ => trivial
  refine ⟨fun value hvalue => ?_, fun _ _ => trivial⟩
  simp only [Inventory.reply] at hreply
  split at hreply
  · rename_i a ha
    obtain ⟨hanswer, rfl⟩ := Prod.mk.inj hreply
    obtain rfl := Except.ok.inj hanswer
    obtain ⟨key, rest, hkeys, -⟩ := firstKey_eq_ok.1 hvalue
    exact ⟨a, key, rest, ha, hkeys⟩
  · cases hreply

/-- **The container was had with a key of the account**, so the account has one. -/
theorem Assure.container_keyed :
    (container c infra fresh).Ensures (Inventory.refusable P home) s
      (fun _ t => Inventory.Keyed c.account t.provider) fun _ _ => True := by
  rw [container_ensures]
  split
  · refine Probe.primaryKey_keyed.mono (fun key t ht => ?_) fun _ _ _ => trivial
    exact (Inventory.Keyed.keeps rfl t ht).mono (fun _ _ hu => hu) fun _ _ _ => trivial
  · refine ⟨fun _ _ => trivial, fun _ => ?_⟩
    refine Probe.primaryKey_keyed.mono (fun key t ht => ?_) fun _ _ _ => trivial
    have hlook : Action.Keeps (Inventory.refusable P home)
        (fun s => Inventory.Keyed c.account s.provider)
        (Probe.containerExists c.account key c.container) :=
      Probe.containerExists_keeps_of (Inventory.Keyed.keeps rfl)
    refine (hlook t ht).mono (fun there u hu => ?_) fun _ _ _ => trivial
    split
    · exact hu
    · exact (Inventory.Keyed.keeps rfl u hu).mono (fun _ _ hv => hv) fun _ _ _ => trivial

end Keyed

/-! ## Storage that is in place -/

/-- The record describes the storage that is there: it has its names and its cloud, all of it was
put in place, and the condition says so. -/
structure Placed (settings : Settings) (environment : CloudEnvironment) (state : StorageState)
    (i : Inventory) : Prop where
  account : state.spec.account ≠ ""
  container : state.spec.container ≠ ""
  cloud : CloudEnvironment.ofName state.spec.cloud settings.customCloud = .ok environment
  applied : state.status = some state.spec
  told : ∀ later, state.report later .true .containerExists "Storage container exists" = state
  keyed : i.Keyed state.spec.account
  stored : Stored state.spec.account state.spec.container i

/-- What was just said of the storage would not be written again. -/
theorem Work.report_settle {now later : Moment} {created : Bool} (w : Work) :
    (w.settle now created).state.report later .true .containerExists "Storage container exists" =
      (w.settle now created).state := by
  unfold settle Work.report StorageState.report
  rw [Conditions.update_update]

namespace Storage

variable {home : Scope} {P : Fault → Prop} {s : Scene Inventory} {w : Work} {now : Moment}
variable {settings : Settings} {credentials : ClusterCredentials} {infra : Infrastructure}
variable {fresh : Fresh}

theorem furnish_places {scope : Scope} {environment : CloudEnvironment}
    (hcloud : CloudEnvironment.ofName w.config.cloud settings.customCloud = .ok environment) :
    (furnish scope environment infra fresh now).Ensures (Inventory.refusable P home) w s
      (fun _ v t => Placed settings environment v.state t.provider) fun _ _ _ => True := by
  rw [furnish_ensures]
  refine Assure.account_named.mono ?_ fun _ _ _ => trivial
  rintro account t ⟨hne, -⟩
  let c := accountNamed account.name w.config
  have haccount : c.account ≠ "" := by rwa [StorageConfig.accountNamed_account]
  have hcloud : CloudEnvironment.ofName c.cloud settings.customCloud = .ok environment := by
    rwa [StorageConfig.accountNamed_cloud]
  refine .of_forall (fun _ t => ?_) fun _ _ => trivial
  refine (Assure.container_named.and (Assure.container_stored.and Assure.container_keyed)).mono ?_
    fun _ _ _ => trivial
  rintro container t ⟨⟨hcontainer, -⟩, hstored, hkeyed⟩
  -- closing the account takes neither the container nor the key away
  have hkeeps : Action.Keeps (Inventory.refusable P home)
      (fun s => Inventory.Keyed c.account s.provider) (closePublicly c) :=
    closePublicly_keeps_of (Inventory.Keyed.keeps rfl) (Inventory.Keyed.keeps rfl)
  refine ((closePublicly_stored t hstored).and (hkeeps t hkeyed)).mono ?_ fun _ _ _ => trivial
  rintro _ u ⟨hstored, hkeyed⟩
  exact ⟨haccount, hcontainer, hcloud, rfl, fun _ => Work.report_settle _, hkeyed, hstored⟩

/-- **When creating ends well the storage is in place**, in the cloud of which the clients were
had first. -/
theorem create_places (hc : settings.credentials = .ok (.cluster credentials)) :
    (create settings infra fresh now).Ensures (Inventory.refusable P home) w s
      (fun _ v t => ∃ environment, Placed settings environment v.state t.provider ∧
        t.Since (⟨.clients environment credentials, none⟩ :: s.journal) fun _ => True)
      fun _ _ _ => True := by
  rw [create_ensures hc, provision_ensures]
  refine ⟨fun _ => trivial, fun _ => ⟨fun _ _ => trivial, fun _ => ⟨fun _ _ => trivial, ?_⟩⟩⟩
  intro environment hcloud
  refine Inventory.ensures_refusable (fun _ i _ => ?_) fun _ _ => trivial
  let first := s.after (.clients environment credentials) none i
  have hsince : first.Since first.journal fun _ => True := Scene.since_refl trivial
  -- every call is written down above the ones that were made before it
  have hkept : ∀ d (s : Scene Inventory) (reply : Reply d) t,
      Inventory.refusable P home d s reply t → (s.Since first.journal fun _ => True) →
        t.Since first.journal fun _ => True := by
    rintro d s reply t ⟨j, -, rfl⟩ ⟨new, hnew, -⟩
    exact ⟨_ :: new, congrArg (_ :: ·) hnew, trivial⟩
  exact ((furnish_places (w := w.withConfig (takeCloud infra w.config)) hcloud).and
    (Invocation.Ensures.of_kept hkept hsince)).mono (fun _ _ _ ht => ⟨environment, ht⟩)
    fun _ _ _ _ => trivial

end Storage

/-- What a turn leaves that ends well. -/
theorem World.take_places {home : Scope} {w v : World} {settings : Settings}
    {credentials : ClusterCredentials} {infra : Infrastructure} {fresh : Fresh} {now : Moment}
    {d : Disturbance} (hc : settings.credentials = .ok (.cluster credentials))
    (hended : w.take settings home ⟨.create infra fresh, now, d⟩ = (.ok (), v)) :
    ∃ environment, Placed settings environment v.state v.scene.provider ∧
      v.scene.Since (⟨.clients environment credentials, none⟩ :: w.scene.journal)
        fun _ => True := by
  have hcreate : (Storage.create settings infra fresh now).Ensures (Inventory.unreliable home)
      ⟨w.state.spec, w.state⟩ w.scene
      (fun _ v t => ∃ environment, Placed settings environment v.state t.provider ∧
        t.Since (⟨.clients environment credentials, none⟩ :: w.scene.journal) fun _ => True)
      fun _ _ _ => True := Storage.create_places hc
  exact take_ended (Q := fun v => ∃ environment,
      Placed settings environment v.state v.scene.provider ∧
        v.scene.Since (⟨.clients environment credentials, none⟩ :: w.scene.journal) fun _ => True)
    hended (fun _ _ => trivial) hcreate

/-! ## Looking at storage that is in place -/

section Runs

variable {σ α : Type} {r : Replier σ} {s t : σ} {w v : Work}

/-- A call to a replier has the one outcome that the replier gives it. -/
theorem Action.ensures_answer {d : Call} {x : d.Answer} {Q : d.Answer → σ → Prop}
    {E : Fault → σ → Prop} (hreply : r d s = (.ok x, t)) (hQ : Q x t) :
    (Action.perform d).Ensures r.conduct s Q E := by
  refine (Action.ensures_perform d).2 fun reply u hu => ?_
  obtain ⟨rfl, rfl⟩ := Prod.mk.inj (hreply.symm.trans hu)
  refine ⟨fun y hy => ?_, fun _ hf => nomatch hf⟩
  obtain rfl := Except.ok.inj hy
  exact hQ

/-- A program with one way to end ends in it. -/
theorem Program.Ensures.run_eq {p : Program α} {a : α}
    (h : p.Ensures r.conduct s fun b u => b = a ∧ u = t) : p.run r s = (a, t) :=
  Prod.ext h.run.1 h.run.2

theorem Action.Ensures.run_eq {a : Action α} {x : α}
    (h : a.Ensures r.conduct s (fun y u => y = x ∧ u = t) fun _ _ => False) :
    Program.run r a.run s = (.ok x, t) := by
  refine Program.Ensures.run_eq (Program.Ensures.mono h fun result u hu => ?_)
  cases result with
  | ok y => exact ⟨congrArg Except.ok hu.1, hu.2⟩
  | error fault => exact hu.elim

theorem Invocation.Ensures.run_eq {x : Invocation α} {a : α}
    (h : x.Ensures r.conduct w s (fun b u p => b = a ∧ u = v ∧ p = t) fun _ _ _ => False) :
    (x.start w).run r s = ((.ok a, v), t) := by
  refine Program.Ensures.run_eq (Program.Ensures.mono h fun result p hp => ?_)
  obtain ⟨result, u⟩ := result
  cases result with
  | ok b =>
    obtain ⟨rfl, rfl, rfl⟩ := hp
    exact ⟨rfl, rfl⟩
  | error fault => exact hp.elim

end Runs

/-- The variables that point the registry at storage: its names, the key as a secret, and the realm
of its cloud if the configuration names one. -/
def StorageConfig.variables (c : StorageConfig) (key : String) (environment : CloudEnvironment) :
    List RegistryVariable :=
  [⟨RegistryVariable.storageName, "azure", false⟩,
    ⟨RegistryVariable.containerName, c.container, false⟩,
    ⟨RegistryVariable.accountName, c.account, false⟩,
    ⟨RegistryVariable.accountKeyName, key, true⟩] ++
  if c.cloud = "" then []
  else [⟨RegistryVariable.realmName, environment.storageSuffix, false⟩]

section Looking

variable {settings : Settings} {credentials : ClusterCredentials} {environment : CloudEnvironment}
variable {home : Scope} {state : StorageState} {i : Inventory}

/-- The key that is had of an account is its first one. -/
theorem Storage.accessKey_first {n : String} {a : StoredAccount} {key : AccountKey}
    {keys : List AccountKey} (ha : i.accounts.get? n = some a)
    (hkeys : Inventory.keys n a = key :: keys) :
    (accessKey environment n (.cluster credentials)).Ensures (Inventory.reply home).conduct i
      (fun value t => value = key.value ∧ t = i) fun _ _ => False := by
  have hreply : Inventory.reply home (.listKeys n) i = (.ok (Inventory.keys n a), i) := by
    simp only [Inventory.reply, ha]
  refine (Action.ensures_bind _).2 (Action.ensures_answer (t := i) rfl ?_)
  rw [Probe.primaryKey_ensures]
  refine Action.ensures_answer hreply ?_
  rw [hkeys]
  refine ⟨fun value hvalue => ⟨(Except.ok.inj hvalue).symm, rfl⟩, fun _ hf => ?_⟩
  cases hf

/-- **Storage that is in place is found**, and there is nothing to write about it. -/
theorem Placed.found (h : Placed settings environment state i)
    (hc : settings.credentials = .ok (.cluster credentials)) (later : Moment) :
    ((Storage.checkExists settings later).start ⟨state.spec, state⟩).run (Inventory.reply home) i =
      ((.ok true, ⟨state.spec, state⟩), i) := by
  obtain ⟨a, key, keys, ha, hkeys⟩ := h.keyed
  have hnamed : ¬(state.spec.account = "" ∨ state.spec.container = "") :=
    not_or.2 ⟨h.account, h.container⟩
  have hthere : i.containers.contains (state.spec.account, state.spec.container) = true :=
    h.stored.container
  refine Invocation.Ensures.run_eq ?_
  rw [Storage.checkExists_ensures]
  simp only [hnamed, if_false, hc, h.cloud, Except.ok.injEq, reduceCtorEq, false_implies,
    implies_true, true_and, forall_eq']
  refine (Storage.accessKey_first ha hkeys).mono ?_ fun _ _ => False.elim
  rintro value t ⟨rfl, rfl⟩
  unfold Probe.containerExists
  rw [if_neg hnamed]
  refine Action.ensures_answer (t := t) rfl ⟨hthere, ?_, rfl⟩
  rw [hthere]
  exact congrArg (Work.mk state.spec) (h.told later)

/-- **What the registry is told of storage that is in place.** -/
theorem Placed.variables (h : Placed settings environment state i)
    (hc : settings.credentials = .ok (.cluster credentials)) {a : StoredAccount}
    {key : AccountKey} {keys : List AccountKey}
    (ha : i.accounts.get? state.spec.account = some a)
    (hkeys : Inventory.keys state.spec.account a = key :: keys) :
    Program.run (Inventory.reply home) (Storage.environment settings state.spec).run i =
      (.ok (state.spec.variables key.value environment), i) := by
  refine Action.Ensures.run_eq ?_
  simp only [Storage.environment, Action.ensures_bind, Action.ensures_ofResult, Action.ensures_pure,
    hc, h.cloud, Except.ok.injEq, reduceCtorEq, false_implies, implies_true, and_true, forall_eq']
  refine (Storage.accessKey_first ha hkeys).mono ?_ fun _ _ => False.elim
  rintro value t ⟨rfl, rfl⟩
  exact ⟨rfl, rfl⟩

end Looking

/-! ## Removing -/

/-- What is wanted, what was put in place and what is worked on are the same. -/
structure Work.Level (w : Work) : Prop where
  wanted : w.state.spec = w.config
  applied : w.state.status = some w.config

namespace Work.Level

variable {w : Work}

theorem change (h : w.Level) (f : StorageConfig → StorageConfig) : (w.change f).Level :=
  ⟨congrArg f h.wanted, congrArg (Option.map f) h.applied⟩

theorem report (h : w.Level) {now : Moment} {status : ConditionStatus} {reason : StorageReason}
    {message : String} : (w.report now status reason message).Level :=
  ⟨h.wanted, h.applied⟩

theorem isChanged (h : w.Level) : w.state.isChanged = false := by
  unfold StorageState.isChanged
  rw [h.applied, h.wanted]
  exact bne_self_eq_false _

end Work.Level

namespace Storage

variable {σ : Type} {R : Conduct σ} {s : σ} {w : Work} {now : Moment} {settings : Settings}
variable {credentials : ClusterCredentials}

theorem removePrivateNetwork_level (h : w.Level) {account : String} :
    (removePrivateNetwork now account).Ensures R w s (fun _ v _ => v.Level) fun _ _ _ => True := by
  rw [removePrivateNetwork_ensures]
  split
  · exact h
  · refine .of_forall (fun _ _ => ?_) fun _ _ => trivial
    exact .of_forall (fun _ _ => h.change forgetEndpoint) fun _ _ => trivial

theorem removeContainer_level (h : w.Level) {account key container : String} :
    (removeContainer now account key container).Ensures R w s (fun _ v _ => v.Level)
      fun _ _ _ => True := by
  rw [removeContainer_ensures]
  exact .of_forall (fun _ _ => (h.change forgetContainer).report) fun _ _ => trivial

theorem removeAccount_level (h : w.Level) {account : String} :
    (removeAccount now account).Ensures R w s (fun _ v _ => v.Level ∧ v.config.account = "")
      fun _ _ _ => True := by
  rw [removeAccount_ensures]
  exact .of_forall (fun _ _ => ⟨(h.change forgetAccount).report, rfl⟩) fun _ _ => trivial

/-- **A removal that goes through forgets the account**, and what it forgets it forgets in all
configurations alike. -/
theorem dismantle_level (h : w.Level) :
    (dismantle now).Ensures R w s (fun _ v _ => v.Level ∧ v.config.account = "")
      fun _ _ _ => True := by
  have hrest : ∀ {v : Work} {t : σ} {account : String}, v.Level →
      (removePrivateNetwork now account).Ensures R v t
        (fun _ u p => (removeAccount now account).Ensures R u p
          (fun _ u _ => u.Level ∧ u.config.account = "") fun _ _ _ => True)
        fun _ _ _ => True := fun hv =>
    (removePrivateNetwork_level hv).mono (fun _ _ _ hu => removeAccount_level hu)
      fun _ _ _ _ => trivial
  rw [dismantle_ensures]
  dsimp only
  split
  · exact hrest h
  · refine .of_forall (fun key t => ?_) fun _ _ => trivial
    cases key with
    | ok key =>
      refine (removeContainer_level h).mono (fun _ v t hv => ?_) fun _ _ _ _ => trivial
      exact hrest hv
    | error fault =>
      refine (removePrivateNetwork_level h).mono (fun _ v t hv => ?_) fun _ _ _ _ => trivial
      exact ⟨(hv.change fun c => forgetContainer (forgetAccount c)).report, rfl⟩

theorem remove_level (hc : settings.credentials = .ok (.cluster credentials)) (h : w.Level)
    (hmanaged : w.state.isManaged = true) :
    (remove settings now).Ensures R w s (fun _ v _ => v.Level ∧ v.config.account = "")
      fun _ _ _ => True := by
  rw [remove_ensures hc, hmanaged, if_neg Bool.false_ne_true.symm]
  split
  · rename_i haccount
    exact ⟨h.report, haccount⟩
  · refine ⟨fun _ _ => trivial, fun environment _ => ?_⟩
    exact .of_forall (fun _ _ => dismantle_level h) fun _ _ => trivial

/-- Without an account there is nothing to look at. -/
theorem checkExists_unnamed (h : w.config.account = "") :
    (checkExists settings now).start w =
      .done (.ok false, w.report now .false .notConfigured "Storage is not configured") := by
  obtain ⟨⟨account, container, cloud, network⟩, state⟩ := w
  obtain rfl : account = "" := h
  rfl

/-- Without an account there is nothing to remove. -/
theorem remove_unnamed (h : w.config.account = "") :
    ∃ v, (remove settings now).start w = .done (.ok (), v) := by
  show ∃ v, (if !w.state.isManaged then pure () else if w.config.account = "" then
    Invocation.report now .false .notConfigured "Storage is not configured" else _ :
      Invocation Unit) w = .done (.ok (), v)
  rw [if_pos h]
  split
  · exact ⟨w, rfl⟩
  · exact ⟨_, rfl⟩

end Storage

/-! ## The theorem -/

/-- **The operations agree with each other.** After an invocation that was to create storage and
ended well, whatever was there before and whichever of its calls were refused, nothing is left to
apply. If from then on no call is refused, looking finds the container and leaves the record and the
provider as they are, and the registry is told the names of the record, the first key of the
account, and a realm just if a cloud is recorded: that of the environment for which the clients of
the provider were had when the storage was provisioned. If the program owns the storage and a
removal ends well, whoever answers it, nothing is left to apply again; looking then finds nothing
and removing has nothing to do, and neither of them makes a call. -/
theorem operations_agree {settings : Settings} {credentials : ClusterCredentials}
    (hc : settings.credentials = .ok (.cluster credentials)) (home : Scope) (state : StorageState)
    (inventory : Inventory) (infra : Infrastructure) (fresh : Fresh) (now : Moment)
    (d : Disturbance) (v : World)
    (hended : (World.initial state inventory).take settings home ⟨.create infra fresh, now, d⟩ =
      (.ok (), v)) :
    v.state.isChanged = false ∧
    (∀ later, ((Storage.checkExists settings later).start ⟨v.state.spec, v.state⟩).run
        (Inventory.reply home) v.scene.provider =
      ((.ok true, ⟨v.state.spec, v.state⟩), v.scene.provider)) ∧
    (∃ environment calls account key keys,
      v.scene.journal = calls ++ [⟨.clients environment credentials, none⟩] ∧
      v.scene.provider.accounts.get? v.state.spec.account = some account ∧
      Inventory.keys v.state.spec.account account = key :: keys ∧
      (Storage.environment settings v.state.spec).run.run (Inventory.reply home)
          v.scene.provider =
        (.ok (v.state.spec.variables key.value environment), v.scene.provider)) ∧
    (v.state.isManaged = true → ∀ {σ : Type} (r : Replier σ) (p q : σ) (after : Moment) (x : Work),
      ((Storage.remove settings after).start ⟨v.state.spec, v.state⟩).run r p =
        ((.ok (), x), q) →
      x.state.isChanged = false ∧ ∀ later,
        (∃ y, (Storage.checkExists settings later).start ⟨x.state.spec, x.state⟩ =
          .done (.ok false, y)) ∧
        ∃ y, (Storage.remove settings later).start ⟨x.state.spec, x.state⟩ =
          .done (.ok (), y)) := by
  obtain ⟨environment, hplaced, calls, hcalls, -⟩ := World.take_places hc hended
  have hlevel : (Work.mk v.state.spec v.state).Level := ⟨rfl, hplaced.applied⟩
  refine ⟨hlevel.isChanged, hplaced.found hc, ?_, fun hmanaged σ r p q after x hremoved => ?_⟩
  · obtain ⟨account, key, keys, haccount, hkeys⟩ := hplaced.keyed
    exact ⟨environment, calls, account, key, keys, hcalls, haccount, hkeys,
      hplaced.variables hc haccount hkeys⟩
  · have hremove : (Storage.remove settings after).Ensures r.conduct ⟨v.state.spec, v.state⟩ p
        (fun _ u _ => u.Level ∧ u.config.account = "") fun _ _ _ => True :=
      Storage.remove_level hc hlevel hmanaged
    have hrun := Program.Ensures.run hremove
    rw [hremoved] at hrun
    obtain ⟨hx, haccount⟩ := hrun
    rw [← hx.wanted] at haccount
    exact ⟨hx.isChanged, fun later => ⟨⟨_, Storage.checkExists_unnamed haccount⟩,
      Storage.remove_unnamed haccount⟩⟩

/-- Storage with names that are drawn, in a cloud that only the platform names. It is removed a day
later. -/
theorem provisioned_storage_is_agreed_on :
    let home := clusterSettings.cluster.scope
    let infra : Infrastructure := ⟨"mycluster", some { cloud := "AzureUSGovernmentCloud" }⟩
    let turn : Turn := ⟨.create infra ⟨⟨[], 0⟩, 0⟩, .epoch, []⟩
    let later : Moment := { date := ⟨1970, 1, 2⟩, time := ⟨0, 0, 0, 0⟩ }
    ∃ v, (World.initial {} {}).take clusterSettings home turn = (.ok (), v) ∧
      v.state.isManaged = true ∧ v.state.spec.cloud = "AzureUSGovernmentCloud" ∧
      v.state.isChanged = false ∧
      ((Storage.checkExists clusterSettings later).start ⟨v.state.spec, v.state⟩).run
          (Inventory.reply home) v.scene.provider =
        ((.ok true, ⟨v.state.spec, v.state⟩), v.scene.provider) ∧
      ∃ x q, ((Storage.remove clusterSettings later).start ⟨v.state.spec, v.state⟩).run
          (Inventory.reply home) v.scene.provider = ((.ok (), x), q) ∧
        x.state.isChanged = false ∧
        ∃ y, (Storage.checkExists clusterSettings later).start ⟨x.state.spec, x.state⟩ =
          .done (.ok false, y) := by
  intro home infra turn later
  obtain ⟨v, hended, ⟨hmanaged, hcloud⟩, hok⟩ :
      ∃ v, (World.initial {} {}).take clusterSettings home turn = (.ok (), v) ∧
        (v.state.isManaged = true ∧ v.state.spec.cloud = "AzureUSGovernmentCloud") ∧
        (((Storage.remove clusterSettings later).start ⟨v.state.spec, v.state⟩).run
          (Inventory.reply home) v.scene.provider).1.1 = .ok () :=
    ⟨_, Prod.ext (by decide +kernel) rfl, by decide +kernel, by decide +kernel⟩
  obtain ⟨x, q, hremoved⟩ : ∃ x q,
      ((Storage.remove clusterSettings later).start ⟨v.state.spec, v.state⟩).run
        (Inventory.reply home) v.scene.provider = ((.ok (), x), q) :=
    ⟨_, _, Prod.ext (Prod.ext hok rfl) rfl⟩
  obtain ⟨happlied, hfound, -, hremoving⟩ := operations_agree clusterSettings_credentials home {} {}
    infra ⟨⟨[], 0⟩, 0⟩ .epoch [] v hended
  obtain ⟨hforgotten, hgone⟩ := hremoving hmanaged _ _ _ later _ hremoved
  exact ⟨v, hended, hmanaged, hcloud, happlied, hfound later, x, q, hremoved, hforgotten,
    (hgone later).1⟩

end RegistryStorage
