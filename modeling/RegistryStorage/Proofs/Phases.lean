import RegistryStorage.Lifecycle.Create
import RegistryStorage.Lifecycle.Inspect
import RegistryStorage.Lifecycle.Remove
import RegistryStorage.Proofs.Conduct

/-!
The operations, taken apart once.

For each operation on the storage one equation says what it takes for it to end as wished,
whatever the provider does: which steps it takes in which order, what it has written by then,
and what it leaves behind when a step fails. The theorems about whole operations start from
these equations, so that the text of an operation is read here and nowhere else.
-/

set_option autoImplicit false

namespace RegistryStorage

variable {σ : Type} {R : Conduct σ} {w : Work} {s : σ}
variable {Q : Unit → Work → σ → Prop} {E : Fault → Work → σ → Prop}

/-- The work with another configuration. -/
def Work.withConfig (w : Work) (c : StorageConfig) : Work := { w with config := c }

/-- The work with another condition on the existence of the storage. -/
def Work.report (now : Moment) (status : ConditionStatus) (reason : StorageReason)
    (message : String) (w : Work) : Work :=
  { w with state := w.state.report now status reason message }

/-- What is left of the work once the storage is in place. -/
def Work.settle (now : Moment) (created : Bool) (w : Work) : Work :=
  Work.report now .true .containerExists "Storage container exists"
    { w with state := { w.state with
      spec := w.config
      status := some w.config
      management :=
        some (w.state.management.getD (if created then .managed else .unmanaged)) } }

/-- What is left of the work once storage of the user's was taken over. -/
def Work.adopt (now : Moment) (w : Work) : Work :=
  Work.report now .true .userManaged "Storage is managed by the user"
    { w with state := { w.state with
      management := some (w.state.management.getD .unmanaged)
      status := some w.config } }

/-! ## Steps that look at a result -/

section Steps

variable {α : Type} {Q : α → σ → Prop} {E : Fault → σ → Prop}

/-- A link that is refused because there is one already will do. -/
theorem Isolation.link_ensures {request : LinkRequest} {Q : Unit → σ → Prop} :
    (Isolation.link request).Ensures R s Q E ↔
      (Action.perform (.putLink request)).Ensures R s (fun _ t => Q () t)
        fun f t => if f.isConflict then Q () t else E f t := by
  unfold Isolation.link
  rw [Action.ensures_mk, Action.ensures_run]
  refine Action.ensures_congr (fun x t => Iff.rfl) fun f t => ?_
  by_cases hf : f.isConflict = true
  · simp only [if_pos hf]
    exact Iff.rfl
  · simp only [if_neg hf]
    exact Iff.rfl

/-- **What each call of the DNS chain keeps is kept by the chain.** -/
theorem Isolation.configureDns_keeps_of {I : σ → Prop} {scope : Scope} {endpoint : Endpoint}
    {vnet group account : String} {tags : Tags}
    (hzone : Action.Keeps R I (Action.perform (.putZone zone zoneLocation tags)))
    (hlook : ∀ name, Action.Keeps R I (Action.perform (.getInterface name)))
    (hrecord : ∀ address,
      Action.Keeps R I (Action.perform (.putARecord zone account addressLifetime address)))
    (hgroup : Action.Keeps R I (Action.perform (.putZoneGroup endpoint.name zoneGroup
      (ResourceId.privateDnsZone scope.subscription scope.resourceGroup zone))))
    (hlink : Action.Keeps R I (Action.perform (.putLink (linkRequest scope account vnet group tags)))) :
    Action.Keeps R I (configureDns scope endpoint vnet group account tags) := by
  have haddress : Action.Keeps R I (endpointAddress endpoint) :=
    (Action.keeps_ofResult _).bind fun name => (hlook name).bind fun _ => Action.keeps_ofResult _
  refine hzone.bind fun _ => haddress.bind fun address => (hrecord address).bind fun _ => ?_
  refine hgroup.bind fun _ => fun s hs => ?_
  -- a link that is there already is a conflict, and no fault
  rw [link_ensures]
  refine (hlink s hs).mono (fun _ _ ht => ht) fun f t ht => ?_
  split <;> exact ht

/-- **What it takes to configure DNS**: the shared zone, the address of the endpoint, and then
everything that leads to it. -/
theorem Isolation.configureDns_ensures {scope : Scope} {endpoint : Endpoint}
    {vnet group account : String} {tags : Tags} {Q : Unit → σ → Prop} :
    (configureDns scope endpoint vnet group account tags).Ensures R s Q E ↔
      (Action.perform (.putZone zone zoneLocation tags)).Ensures R s
        (fun _ t =>
          (∀ name, firstInterface endpoint = .ok name →
            (Action.perform (.getInterface name)).Ensures R t
              (fun interface t =>
                (∀ address, firstAddress interface = .ok address →
                  (Action.perform (.putARecord zone account addressLifetime address)).Ensures R t
                    (fun _ t =>
                      (Action.perform (.putZoneGroup endpoint.name zoneGroup
                        (ResourceId.privateDnsZone scope.subscription scope.resourceGroup
                          zone))).Ensures R t
                        (fun _ t =>
                          (link (linkRequest scope account vnet group tags)).Ensures R t Q E)
                        E)
                    E) ∧
                ∀ f, firstAddress interface = .error f → E f t)
              E) ∧
          ∀ f, firstInterface endpoint = .error f → E f t)
        E := by
  simp only [configureDns, endpointAddress, Action.ensures_bind, Action.ensures_ofResult]

/-- An endpoint that is confirmed to be absent is an answer. -/
theorem Probe.endpoint?_ensures {name : String} {Q : Option Endpoint → σ → Prop} :
    (Probe.endpoint? name).Ensures R s Q E ↔
      (Action.perform (.getEndpoint name)).Ensures R s (fun e t => Q (some e) t)
        fun f t => if f.isNotFound then Q none t else E f t := by
  unfold Probe.endpoint?
  rw [Action.ensures_mk, Action.ensures_run]
  refine Action.ensures_congr (fun e t => Iff.rfl) fun f t => ?_
  by_cases hf : f.isNotFound = true
  · simp only [if_pos hf]
    exact Iff.rfl
  · simp only [if_neg hf]
    exact Iff.rfl

theorem Probe.primaryKey_ensures {account : String} {Q : String → σ → Prop} :
    (Probe.primaryKey account).Ensures R s Q E ↔
      (Action.perform (.listKeys account)).Ensures R s
        (fun keys t => (∀ key, Probe.firstKey account keys = .ok key → Q key t) ∧
          ∀ f, Probe.firstKey account keys = .error f → E f t)
        fun f t => E (Probe.keyFault account f) t := by
  unfold Probe.primaryKey
  rw [Action.ensures_mk, Action.ensures_run]
  refine Action.ensures_congr (fun keys t => ?_) fun f t => Iff.rfl
  exact Action.ensures_mk_pure _

/-- What looking at the keys keeps is kept when the first of them is asked for. -/
theorem Probe.primaryKey_keeps_of {I : σ → Prop} {account : String}
    (hkeys : Action.Keeps R I (Action.perform (.listKeys account))) :
    Action.Keeps R I (primaryKey account) := by
  intro s hs
  rw [primaryKey_ensures]
  exact (hkeys s hs).mono (fun _ _ ht => ⟨fun _ _ => ht, fun _ _ => ht⟩) fun _ _ ht => ht

/-- What looking for a container keeps is kept when it is asked for, if it is. -/
theorem Probe.containerExists_keeps_of {I : σ → Prop} {account key container : String}
    (hlook : Action.Keeps R I (Action.perform (.containerExists account key container))) :
    Action.Keeps R I (containerExists account key container) := by
  unfold containerExists
  split
  · exact Action.keeps_pure false
  · exact hlook

/-- An account that is confirmed to be gone is an answer. -/
theorem Storage.keyUnlessGone_ensures {account : String} {Q : Except Fault String → σ → Prop} :
    (Storage.keyUnlessGone account).Ensures R s Q E ↔
      (Probe.primaryKey account).Ensures R s (fun key t => Q (.ok key) t)
        fun f t => if f.isNotFound then Q (.error f) t else E f t := by
  unfold Storage.keyUnlessGone
  rw [Action.ensures_mk, Action.ensures_run]
  refine Action.ensures_congr (fun key t => Iff.rfl) fun f t => ?_
  by_cases hf : f.isNotFound = true
  · simp only [if_pos hf]
    exact Iff.rfl
  · simp only [if_neg hf]
    exact Iff.rfl

/-- An account that cannot be looked at counts as open. -/
theorem Storage.closeToPublic_ensures {account : String} {Q : Unit → σ → Prop} :
    (Storage.closeToPublic account).Ensures R s Q E ↔
      (Action.perform (.getAccount account)).Ensures R s
        (fun found t => if found.access = some .disabled then Q () t
          else (Action.perform (.setAccess account .disabled)).Ensures R t Q E)
        fun _ t => (Action.perform (.setAccess account .disabled)).Ensures R t Q E := by
  unfold Storage.closeToPublic Probe.isPrivate
  rw [Action.ensures_bind, Action.ensures_lift, Program.ensures_bind, Action.ensures_run]
  refine Action.ensures_congr (fun found t => ?_) fun f t => Iff.rfl
  by_cases hclosed : found.access = some .disabled
  · simp only [hclosed]
    exact Iff.rfl
  · have hopen : (found.access == some .disabled) = false := beq_eq_false_iff_ne.2 hclosed
    simp only [hopen, hclosed]
    exact Iff.rfl

/-- **What each call about public access keeps is kept when the account is closed**, whatever the
look at it says. -/
theorem Storage.closePublicly_keeps_of {I : σ → Prop} {c : StorageConfig}
    (hlook : Action.Keeps R I (Action.perform (.getAccount c.account)))
    (hset : Action.Keeps R I (Action.perform (.setAccess c.account .disabled))) :
    Action.Keeps R I (closePublicly c) := by
  unfold closePublicly
  split
  · intro s hs
    rw [closeToPublic_ensures]
    refine (hlook s hs).mono (fun found t ht => ?_) fun _ t ht => hset t ht
    split
    · exact ht
    · exact hset t ht
  · exact Action.keeps_pure ()

end Steps

/-! ## Making sure that resources exist -/

/-- A call that opens private access to some account. -/
def Call.Opens (account : String) : Call → Prop
  | getEndpoint _ | createEndpoint _ | putZone .. | getInterface _ | putZoneGroup .. => True
  | putARecord _ name _ _ => name = account
  | putLink r => r.link = account
  | _ => False

namespace Assure

variable {scope : Scope} {infra : Infrastructure} {config : StorageConfig} {fresh : Fresh}

/-- **What it takes to have an account**: a name, and the account if the name is free. -/
theorem account_ensures {environment : CloudEnvironment} {Q : Assured → σ → Prop}
    {E : Fault → σ → Prop} :
    (account scope environment config infra fresh).Ensures R s Q E ↔
      (∀ f, accountName config infra fresh = .error f → E f s) ∧
      ∀ name generated, accountName config infra fresh = .ok (name, generated) →
        (Action.perform (.checkName name)).Ensures R s
          (fun availability t =>
            if availability.available then
              (Action.perform (.createAccount (AccountRequest.forRegistry name scope.region infra.tags
                environment.isStack))).Ensures R t (fun _ t => Q ⟨name, true⟩ t) E
            else if generated then
              E (.nameNotAvailable name (availability.reason.getD "unknown")) t
            else Q ⟨name, false⟩ t)
          E := by
  unfold account
  rw [Action.ensures_bind, Action.ensures_ofResult]
  simp only [Prod.forall, Action.ensures_bind, Action.ensures_ite, Action.ensures_pure,
    Action.ensures_throw]
  exact And.comm

/-- **What each call about the account keeps is kept by the step of the account.** -/
theorem account_keeps_of {environment : CloudEnvironment} {I : σ → Prop}
    (hlook : ∀ name, Action.Keeps R I (Action.perform (.checkName name)))
    (hcreate : ∀ name, Action.Keeps R I (Action.perform (.createAccount
      (AccountRequest.forRegistry name scope.region infra.tags environment.isStack)))) :
    Action.Keeps R I (account scope environment config infra fresh) := by
  intro s hs
  rw [account_ensures]
  refine ⟨fun _ _ => hs, fun name generated _ => ?_⟩
  refine (hlook name s hs).mono (fun availability t ht => ?_) fun _ _ ht => ht
  split
  · exact hcreate name t ht
  · split <;> exact ht

/-- **What it takes to have private access**: the whole chain for a new account, and for one that
was there the endpoint if it is missing, and DNS. -/
theorem privateNetwork_ensures {a : Assured} {network : InternalNetwork} {Q : Unit → σ → Prop}
    {E : Fault → σ → Prop} :
    (privateNetwork scope infra a network).Ensures R s Q E ↔
      if a.created then
        (Isolation.configure scope a.name infra.tags network).Ensures R s (fun _ t => Q () t) E
      else
        (Action.perform (.getEndpoint network.endpoint)).Ensures R s
          (fun e t => (Isolation.refreshDns scope e a.name infra.tags network).Ensures R t Q E)
          fun f t => if f.isNotFound then
            (Isolation.configure scope a.name infra.tags network).Ensures R t (fun _ t => Q () t) E
            else E f t := by
  unfold privateNetwork
  cases a.created
  · simp only [Bool.false_eq_true, if_false, Action.ensures_bind, Probe.endpoint?_ensures,
      Action.ensures_pure]
  · simp only [if_true, Action.ensures_bind, Action.ensures_pure]

/-- **What it takes to have a container**: a key of the account, and the container if it is
missing. One without a name is new. -/
theorem container_ensures {Q : Assured → σ → Prop} {E : Fault → σ → Prop} :
    (container config infra fresh).Ensures R s Q E ↔
      if config.container = "" then
        (Probe.primaryKey config.account).Ensures R s
          (fun key t =>
            let name := Naming.containerName infra.name fresh.serial
            (Action.perform (.createContainer config.account key name)).Ensures R t
              (fun _ t => Q ⟨name, true⟩ t) E)
          E
      else
        (∀ f, Naming.validateContainerName config.container = .error f → E f s) ∧
        (Naming.validateContainerName config.container = .ok () →
          (Probe.primaryKey config.account).Ensures R s
            (fun key t => (Probe.containerExists config.account key config.container).Ensures R t
              (fun there t =>
                if there then Q ⟨config.container, false⟩ t
                else (Action.perform (.createContainer config.account key
                  config.container)).Ensures R t (fun _ t => Q ⟨config.container, true⟩ t) E)
              E)
            E) := by
  unfold container
  by_cases hempty : config.container = ""
  · simp only [hempty, ne_eq, not_true_eq_false, if_false, if_true, Action.ensures_bind,
      Action.ensures_pure]
  · simp only [hempty, ne_eq, not_false_eq_true, if_false, if_true, Action.ensures_bind,
      Action.ensures_ofResult, Action.ensures_ite, Action.ensures_pure]
    exact ⟨fun h => ⟨h.2, fun hvalid => h.1 () hvalid⟩, fun h => ⟨fun _ hvalid => h.2 hvalid, h.1⟩⟩

/-- **What each call about the container keeps is kept by the step of the container.** -/
theorem container_keeps_of {I : σ → Prop}
    (hkeys : Action.Keeps R I (Action.perform (.listKeys config.account)))
    (hlook : ∀ key name,
      Action.Keeps R I (Action.perform (.containerExists config.account key name)))
    (hcreate : ∀ key name,
      Action.Keeps R I (Action.perform (.createContainer config.account key name))) :
    Action.Keeps R I (container config infra fresh) := by
  have hkey : Action.Keeps R I (Probe.primaryKey config.account) := Probe.primaryKey_keeps_of hkeys
  intro s hs
  rw [container_ensures]
  split
  · exact (hkey s hs).mono (fun key t ht => hcreate _ _ t ht) fun _ _ ht => ht
  · refine ⟨fun _ _ => hs, fun _ => ?_⟩
    refine (hkey s hs).mono (fun key t ht => ?_) fun _ _ ht => ht
    refine (Probe.containerExists_keeps_of (hlook key _) t ht).mono (fun there u hu => ?_)
      fun _ _ hu => hu
    split
    · exact hu
    · exact hcreate _ _ u hu

end Assure

namespace Storage

open Invocation

/-! ## Putting storage in place -/

/-- **What each call that opens private access keeps is kept by the step as a whole.** -/
theorem openPrivately_keeps_of {I : σ → Prop} {scope : Scope} {infra : Infrastructure}
    {a : Assured} {c : StorageConfig}
    (hI : ∀ d : Call, d.Opens a.name → Action.Keeps R I (Action.perform d)) :
    Action.Keeps R I (openPrivately scope infra a c) := by
  have hdns : ∀ (endpoint : Endpoint) (vnet group : String), Action.Keeps R I
      (Isolation.configureDns scope endpoint vnet group a.name infra.tags) := fun _ _ _ =>
    Isolation.configureDns_keeps_of (hI _ trivial) (fun _ => hI _ trivial) (fun _ => hI _ rfl)
      (hI _ trivial) (hI _ rfl)
  have hconfigure : ∀ network : InternalNetwork, Action.Keeps R I
      (Isolation.configure scope a.name infra.tags network) := fun network =>
    (hI (.createEndpoint _) trivial).bind fun endpoint =>
      (hdns endpoint _ _).bind fun _ => Action.keeps_pure endpoint
  intro s hs
  unfold openPrivately
  split
  · rename_i network _
    rw [Assure.privateNetwork_ensures]
    split
    · exact hconfigure network s hs
    · refine (hI (.getEndpoint network.endpoint) trivial s hs).mono (fun endpoint t ht => ?_) ?_
      · exact hdns endpoint _ _ t ht
      · intro f t ht
        split
        · exact hconfigure network t ht
        · exact ht
  · exact hs

/-- The configuration once the account has a name, with a name for the endpoint if one is
needed. -/
def accountNamed (account : String) (c : StorageConfig) : StorageConfig :=
  StorageConfig.nameEndpoint account { c with account := account }

/-- **What it takes to furnish the storage**: account, private access, container, and the
account closed to the public network, in this order. Whatever fails, the names chosen before it
are kept. -/
theorem furnish_ensures {scope : Scope} {environment : CloudEnvironment} {infra : Infrastructure}
    {fresh : Fresh} {now : Moment} :
    (furnish scope environment infra fresh now).Ensures R w s Q E ↔
      (Assure.account scope environment w.config infra fresh).Ensures R s
        (fun account t =>
          let c := accountNamed account.name w.config
          (openPrivately scope infra account c).Ensures R t
            (fun _ t =>
              (Assure.container c infra fresh).Ensures R t
                (fun container t =>
                  let v := w.withConfig { c with container := container.name }
                  let created := account.created || container.created
                  (closePublicly c).Ensures R t
                    (fun _ t => Q () (v.settle now created) t)
                    fun f t => E f ((v.save created).blame now .azureError
                      "Unable to disable public network access: " f) t)
                fun f t => E f (((w.withConfig c).save account.created).blame now .azureError
                  "Unable to process storage container: " f) t)
            fun f t => E f (((w.withConfig c).save account.created).blame now .azureError
              "Unable to process storage account: " f) t)
        fun f t => E f ((w.save false).blame now .azureError
          "Unable to process storage account: " f) t := by
  simp only [furnish, ensures_bind, ensures_get, ensures_blaming, ensures_keeping, ensures_act,
    ensures_modifyConfig]
  exact Iff.rfl

/-- **What each step of furnishing keeps is kept when the storage is furnished.** -/
theorem furnish_keeps_of {I : σ → Prop} {scope : Scope} {environment : CloudEnvironment}
    {infra : Infrastructure} {fresh : Fresh} {now : Moment}
    (haccount : Action.Keeps R I (Assure.account scope environment w.config infra fresh))
    (hopen : ∀ account : Assured, Action.Keeps R I
      (openPrivately scope infra account (accountNamed account.name w.config)))
    (hcontainer : ∀ c, Action.Keeps R I (Assure.container c infra fresh))
    (hclose : ∀ c, Action.Keeps R I (closePublicly c)) (hs : I s) :
    (furnish scope environment infra fresh now).Ensures R w s (fun _ _ t => I t)
      fun _ _ t => I t := by
  rw [furnish_ensures]
  refine (haccount s hs).mono (fun account t ht => ?_) fun _ _ ht => ht
  refine (hopen account t ht).mono (fun _ t ht => ?_) fun _ _ ht => ht
  refine (hcontainer _ t ht).mono (fun container t ht => ?_) fun _ _ ht => ht
  exact (hclose _ t ht).mono (fun _ _ ht => ht) fun _ _ ht => ht

/-- **What it takes to provision storage**: the checks that need no provider, the clients, and
then the furnishing. -/
theorem provision_ensures {settings : Settings} {credentials : ClusterCredentials}
    {infra : Infrastructure} {fresh : Fresh} {now : Moment} :
    (provision settings credentials infra fresh now).Ensures R w s Q E ↔
      (infra.name = "" →
        let f := Fault.config "infrastructure name is not set"
        E f (w.blame now .configError "Unable to get infrastructure: " f) s) ∧
      (infra.name ≠ "" →
        let c := takeCloud infra w.config
        (∀ f, checkNetwork c.network = .error f →
          E f ((w.withConfig c).blame now .configError
            "Unable to configure private network access: " f) s) ∧
        (checkNetwork c.network = .ok () →
          (∀ f, CloudEnvironment.ofName c.cloud settings.customCloud = .error f →
            E f ((w.withConfig c).blame now .configError "Unable to get cloud environment: " f) s) ∧
          ∀ environment, CloudEnvironment.ofName c.cloud settings.customCloud = .ok environment →
            (Action.perform (.clients environment credentials)).Ensures R s
              (fun _ t => (furnish credentials.scope environment infra fresh now).Ensures R
                (w.withConfig c) t Q E)
              fun f t => E f ((w.withConfig c).blame now .azureError
                "Unable to get azure clients: " f) t)) := by
  simp only [provision, ensures_bind, ensures_get, ensures_blaming, ensures_act, ensures_ofResult,
    ensures_modifyConfig]
  by_cases hname : infra.name = ""
  · simp [hname]
  · simp only [hname, if_false, false_implies, true_and, not_false_eq_true, reduceCtorEq,
      implies_true, and_true, ne_eq, forall_const]
    exact ⟨fun h => ⟨h.2, fun hn => ⟨(h.1 () hn).2, (h.1 () hn).1⟩⟩,
      fun h => ⟨fun _ hn => ⟨(h.2 hn).2, (h.2 hn).1⟩, h.1⟩⟩

/-- **What it takes to take over storage**: an account and a container that are named. -/
theorem adopt_ensures {now : Moment} :
    (adopt now).Ensures R w s Q E ↔
      if w.config.account = "" then
        Q () (w.report now .false .notConfigured
          "Storage account key is provided, but account name is not specified") s
      else if w.config.container = "" then
        Q () (w.report now .false .notConfigured
          "Storage account is provided, but container is not specified") s
      else Q () (w.adopt now) s := by
  rw [adopt, ensures_bind, ensures_get]
  split
  · exact Iff.rfl
  · split <;> exact Iff.rfl

/-- **How creating begins**: the credentials decide whether storage is taken over or provisioned. -/
theorem create_begins {settings : Settings} {infra : Infrastructure} {fresh : Fresh}
    {now : Moment} :
    (create settings infra fresh now).Ensures R w s Q E ↔
      (∀ f, settings.credentials = .error f →
        E f (w.blame now .configError "Unable to get configuration: " f) s) ∧
      (∀ key, settings.credentials = .ok (.userManaged key) → (adopt now).Ensures R w s Q E) ∧
      ∀ credentials, settings.credentials = .ok (.cluster credentials) →
        (provision settings credentials infra fresh now).Ensures R w s Q E := by
  unfold create
  rw [ensures_bind, ensures_blaming, ensures_ofResult]
  refine ⟨fun h => ⟨h.2, fun key hc => h.1 _ hc, fun credentials hc => h.1 _ hc⟩, fun h => ⟨?_, h.1⟩⟩
  intro credentials hc
  cases credentials with
  | userManaged key => exact h.2.1 key hc
  | cluster credentials => exact h.2.2 credentials hc

/-- With the cluster's credentials, to create is to provision. -/
theorem create_ensures {settings : Settings} {credentials : ClusterCredentials}
    (hc : settings.credentials = .ok (.cluster credentials)) {infra : Infrastructure}
    {fresh : Fresh} {now : Moment} :
    (create settings infra fresh now).Ensures R w s Q E ↔
      (provision settings credentials infra fresh now).Ensures R w s Q E := by
  simp [create_begins, hc]

/-- With a key of the user's, to create is to take over storage that has all its names. -/
theorem create_adopts {settings : Settings} {key : String}
    (hc : settings.credentials = .ok (.userManaged key)) {infra : Infrastructure} {fresh : Fresh}
    {now : Moment} (haccount : w.config.account ≠ "") (hcontainer : w.config.container ≠ "") :
    (create settings infra fresh now).Ensures R w s Q E ↔ Q () (w.adopt now) s := by
  simp [create_begins, adopt_ensures, hc, haccount, hcontainer]

/-- Without the cluster's credentials nobody is called. -/
theorem create_uncalled {settings : Settings} {infra : Infrastructure} {fresh : Fresh}
    {now : Moment} (hc : ∀ credentials, settings.credentials ≠ .ok (.cluster credentials)) :
    (create settings infra fresh now).Ensures R w s (fun _ _ t => t = s) fun _ _ t => t = s := by
  rw [create_begins]
  refine ⟨fun _ _ => rfl, fun _ _ => ?_, fun credentials h => absurd h (hc credentials)⟩
  rw [adopt_ensures]
  split
  · rfl
  · split <;> rfl

/-- **What holds before anybody is called and once all is furnished in the cloud that was found
holds however creating ends.** -/
theorem create_of_resolved {settings : Settings} {infra : Infrastructure} {fresh : Fresh}
    {now : Moment} {P : σ → Prop} (hs : P s)
    (h : ∀ environment credentials,
      CloudEnvironment.ofName (takeCloud infra w.config).cloud settings.customCloud =
        .ok environment →
      (Action.perform (.clients environment credentials)).Ensures R s
        (fun _ t => (furnish credentials.scope environment infra fresh now).Ensures R
          (w.withConfig (takeCloud infra w.config)) t (fun _ _ u => P u) fun _ _ u => P u)
        fun _ t => P t) :
    (create settings infra fresh now).Ensures R w s (fun _ _ t => P t) fun _ _ t => P t := by
  by_cases hc : ∃ credentials, settings.credentials = .ok (.cluster credentials)
  · obtain ⟨credentials, hc⟩ := hc
    rw [create_ensures hc, provision_ensures]
    refine ⟨fun _ => hs, fun _ => ⟨fun _ _ => hs, fun _ => ⟨fun _ _ => hs, ?_⟩⟩⟩
    intro environment hfound
    exact h environment credentials hfound
  · refine (create_uncalled fun credentials h => hc ⟨credentials, h⟩).mono ?_ ?_
    · rintro _ _ t rfl
      exact hs
    · rintro _ _ t rfl
      exact hs

/-- The same for what is ensured of furnishing in any cloud. -/
theorem create_of_furnish {settings : Settings} {infra : Infrastructure} {fresh : Fresh}
    {now : Moment} {P : σ → Prop} (hs : P s)
    (h : ∀ environment credentials, (Action.perform (.clients environment credentials)).Ensures R s
      (fun _ t => (furnish credentials.scope environment infra fresh now).Ensures R
        (w.withConfig (takeCloud infra w.config)) t (fun _ _ u => P u) fun _ _ u => P u)
      fun _ t => P t) :
    (create settings infra fresh now).Ensures R w s (fun _ _ t => P t) fun _ _ t => P t :=
  create_of_resolved hs fun environment credentials _ => h environment credentials

/-! ## Taking storage down -/

/-- Forgets the name of the endpoint. -/
def forgetEndpoint (c : StorageConfig) : StorageConfig := { c with network := c.network.clearEndpoint }

/-- Forgets the name of the account. -/
def forgetAccount (c : StorageConfig) : StorageConfig := { c with account := "" }

/-- Forgets the name of the container. -/
def forgetContainer (c : StorageConfig) : StorageConfig := { c with container := "" }

theorem removePrivateNetwork_ensures {now : Moment} {account : String} :
    (removePrivateNetwork now account).Ensures R w s Q E ↔
      match w.config.network.endpoint? with
      | none => Q () w s
      | some endpoint =>
        (Isolation.removeDns endpoint account).Ensures R s
          (fun _ t =>
            (Action.tolerant (Action.perform (.deleteEndpoint endpoint))).Ensures R t
              (fun _ t => Q () (w.change forgetEndpoint) t)
              fun f t => E f (w.blame now .azureError "Unable to delete private endpoint: " f) t)
          fun f t => E f (w.blame now .azureError
            "Unable to remove private dns configuration: " f) t := by
  simp only [removePrivateNetwork, ensures_bind, ensures_get]
  cases w.config.network.endpoint? with
  | none => exact Iff.rfl
  | some endpoint =>
    simp only [ensures_bind, ensures_blaming, ensures_act, ensures_record]
    exact Iff.rfl

theorem removeAccount_ensures {now : Moment} {account : String} :
    (removeAccount now account).Ensures R w s Q E ↔
      (Action.tolerant (Action.perform (.deleteAccount account))).Ensures R s
        (fun _ t => Q () (Work.report now .false .accountDeleted "Storage account has been deleted"
          (w.change forgetAccount)) t)
        fun f t => E f (w.blame now .azureError "Unable to delete storage account: " f) t := by
  simp only [removeAccount, ensures_bind, ensures_blaming, ensures_act, ensures_record,
    ensures_report]
  exact Iff.rfl

theorem removeContainer_ensures {now : Moment} {account key container : String} :
    (removeContainer now account key container).Ensures R w s Q E ↔
      (Action.tolerant (Action.perform (.deleteContainer account key container))).Ensures R s
        (fun _ t => Q () (Work.report now .false .containerDeleted
          "Storage container has been deleted" (w.change forgetContainer)) t)
        fun f t => E f (w.blame now .azureError "Unable to delete storage container: " f) t := by
  simp only [removeContainer, ensures_bind, ensures_blaming, ensures_act, ensures_record,
    ensures_report]
  exact Iff.rfl

/-- **What it takes to dismantle the storage**: the container, what private access needs, and
the account, in this order. If the account turns out to be gone already, only what private
access needs is removed. -/
theorem dismantle_ensures {now : Moment} :
    (dismantle now).Ensures R w s Q E ↔
      let account := w.config.account
      if w.config.container = "" then
        (removePrivateNetwork now account).Ensures R w s
          (fun _ v t => (removeAccount now account).Ensures R v t Q E) E
      else
        (keyUnlessGone account).Ensures R s
          (fun key t =>
            match key with
            | .ok key =>
              (removeContainer now account key w.config.container).Ensures R w t
                (fun _ v t => (removePrivateNetwork now account).Ensures R v t
                  (fun _ v t => (removeAccount now account).Ensures R v t Q E) E) E
            | .error fault =>
              (removePrivateNetwork now account).Ensures R w t
                (fun _ v t => Q () (Work.report now .false .containerNotFound
                  ("Container has been already deleted: " ++ fault.message)
                  (v.change fun c => forgetContainer (forgetAccount c))) t) E)
          fun f t => E f (w.blame now .azureError "Unable to get account primary keys: " f) t := by
  -- the container decides: only one with a name needs a key
  simp only [dismantle, ensures_bind, ensures_get]
  by_cases hcontainer : w.config.container = ""
  · simp only [hcontainer, if_true, ensures_bind]
  · simp only [hcontainer, if_false, ensures_bind, ensures_blaming, ensures_act]
    constructor <;> intro h <;> refine h.mono (fun key t ht => ?_) fun _ _ hf => hf
    · cases key with
      | ok key => simpa only [ensures_bind] using ht
      | error fault =>
        simp only [ensures_bind, ensures_record, ensures_report] at ht
        exact ht
    · cases key with
      | ok key => simpa only [ensures_bind] using ht
      | error fault =>
        simp only [ensures_bind, ensures_record, ensures_report]
        exact ht

/-- **How removing begins**: storage that the program does not own is left alone, and so is storage
without an account. Then the credentials decide. -/
theorem remove_begins {settings : Settings} {now : Moment} :
    (remove settings now).Ensures R w s Q E ↔
      if w.state.isManaged = false then Q () w s
      else if w.config.account = "" then
        Q () (w.report now .false .notConfigured "Storage is not configured") s
      else
        (∀ f, settings.credentials = .error f →
          E f (w.blame now .configError "Unable to get configuration: " f) s) ∧
        (∀ key, settings.credentials = .ok (.userManaged key) → Q () w s) ∧
        ∀ credentials, settings.credentials = .ok (.cluster credentials) →
          (decommission settings credentials now).Ensures R w s Q E := by
  simp only [remove, ensures_bind, ensures_get]
  cases w.state.isManaged with
  | false => exact Iff.rfl
  | true =>
    by_cases haccount : w.config.account = ""
    · simp only [haccount, if_true]
      exact Iff.rfl
    · simp only [haccount, Bool.not_true, Bool.false_eq_true, Bool.true_eq_false, if_false,
        ensures_bind, ensures_blaming, ensures_ofResult]
      refine ⟨fun h => ⟨h.2, fun key hc => h.1 _ hc, fun credentials hc => h.1 _ hc⟩,
        fun h => ⟨?_, h.1⟩⟩
      intro credentials hc
      cases credentials with
      | userManaged key => exact h.2.1 key hc
      | cluster credentials => exact h.2.2 credentials hc

/-- **What it takes to remove storage with credentials**: a cloud, the clients, and then the
dismantling. -/
theorem decommission_ensures {settings : Settings} {credentials : ClusterCredentials}
    {now : Moment} :
    (decommission settings credentials now).Ensures R w s Q E ↔
      (∀ f, CloudEnvironment.ofName w.config.cloud settings.customCloud = .error f →
        E f (w.blame now .configError "Unable to get cloud environment: " f) s) ∧
      ∀ environment, CloudEnvironment.ofName w.config.cloud settings.customCloud = .ok environment →
        (Action.perform (.clients environment credentials)).Ensures R s
          (fun _ t => (dismantle now).Ensures R w t Q E)
          fun f t => E f (w.blame now .azureError "Unable to get accounts client: " f) t := by
  simp only [decommission, ensures_bind, ensures_get, ensures_blaming, ensures_ofResult,
    ensures_act]
  exact And.comm

/-- **What it takes to remove storage with the cluster's credentials.** Storage that the program
does not own is left alone, and so is storage without an account. -/
theorem remove_ensures {settings : Settings} {credentials : ClusterCredentials}
    (hc : settings.credentials = .ok (.cluster credentials)) {now : Moment} :
    (remove settings now).Ensures R w s Q E ↔
      if w.state.isManaged = false then Q () w s
      else if w.config.account = "" then
        Q () (w.report now .false .notConfigured "Storage is not configured") s
      else
        (∀ f, CloudEnvironment.ofName w.config.cloud settings.customCloud = .error f →
          E f (w.blame now .configError "Unable to get cloud environment: " f) s) ∧
        ∀ environment, CloudEnvironment.ofName w.config.cloud settings.customCloud = .ok environment →
          (Action.perform (.clients environment credentials)).Ensures R s
            (fun _ t => (dismantle now).Ensures R w t Q E)
            fun f t => E f (w.blame now .azureError "Unable to get accounts client: " f) t := by
  simp [remove_begins, decommission_ensures, hc]

/-- Without the cluster's credentials nobody is called. -/
theorem remove_uncalled {settings : Settings} {now : Moment}
    (hc : ∀ credentials, settings.credentials ≠ .ok (.cluster credentials)) :
    (remove settings now).Ensures R w s (fun _ _ t => t = s) fun _ _ t => t = s := by
  rw [remove_begins]
  split
  · rfl
  · split
    · rfl
    · exact ⟨fun _ _ => rfl, fun _ _ => rfl, fun credentials h => absurd h (hc credentials)⟩

/-- **What holds before anybody is called and once all is dismantled holds however removing
ends.** -/
theorem remove_of_dismantle {settings : Settings} {now : Moment} {P : σ → Prop} (hs : P s)
    (h : ∀ environment credentials, (Action.perform (.clients environment credentials)).Ensures R s
      (fun _ t => (dismantle now).Ensures R w t (fun _ _ u => P u) fun _ _ u => P u)
      fun _ t => P t) :
    (remove settings now).Ensures R w s (fun _ _ t => P t) fun _ _ t => P t := by
  by_cases hc : ∃ credentials, settings.credentials = .ok (.cluster credentials)
  · obtain ⟨credentials, hc⟩ := hc
    rw [remove_ensures hc]
    split
    · exact hs
    · split
      · exact hs
      · exact ⟨fun _ _ => hs, fun environment _ => h environment credentials⟩
  · refine (remove_uncalled fun credentials h => hc ⟨credentials, h⟩).mono ?_ ?_
    · rintro _ _ t rfl
      exact hs
    · rintro _ _ t rfl
      exact hs

/-! ## Looking at storage -/

/-- The work once a look at the container has ended. -/
def found (now : Moment) (container : String) (there : Bool) (w : Work) : Work :=
  if there then w.report now .true .containerExists "Storage container exists"
  else w.report now .false .containerNotFound ("Could not find storage container " ++ container)

/-- **What it takes to look at storage**: the credentials, the cloud, a key and the container. -/
theorem checkExists_ensures {settings : Settings} {now : Moment} {Q : Bool → Work → σ → Prop} :
    (checkExists settings now).Ensures R w s Q E ↔
      let account := w.config.account
      let container := w.config.container
      if account = "" ∨ container = "" then
        Q false (w.report now .false .notConfigured "Storage is not configured") s
      else
        (∀ f, settings.credentials = .error f →
          E f (w.blame now .configError "Unable to get configuration: " f) s) ∧
        ∀ credentials, settings.credentials = .ok credentials →
          (∀ f, CloudEnvironment.ofName w.config.cloud settings.customCloud = .error f →
            E f (w.blame now .configError "Unable to get cloud environment: " f) s) ∧
          ∀ environment,
            CloudEnvironment.ofName w.config.cloud settings.customCloud = .ok environment →
            (accessKey environment account credentials).Ensures R s
              (fun key t => (Probe.containerExists account key container).Ensures R t
                (fun there t => Q there (found now container there w) t)
                fun f t => E f (w.blame now .azureError "" f) t)
              fun f t => E f (w.blame now .azureError "Unable to get storage account key: " f) t := by
  simp only [checkExists, ensures_bind, ensures_get]
  by_cases hnames : w.config.account = "" ∨ w.config.container = ""
  · simp only [hnames, if_true, ensures_bind, ensures_report, ensures_pure]
    exact Iff.rfl
  · simp only [hnames, if_false, ensures_bind, ensures_blaming, ensures_ofResult, ensures_act]
    -- both outcomes of the look end in one way
    have hreport : ∀ (there : Bool) (t : σ), Ensures R (if there = true then do
          report now .true .containerExists "Storage container exists"
          pure there
        else do
          report now .false .containerNotFound
            ("Could not find storage container " ++ w.config.container)
          pure there) w t Q E ↔ Q there (found now w.config.container there w) t := by
      intro there t
      cases there <;> exact Iff.rfl
    simp only [hreport]
    exact ⟨fun h => ⟨h.2, fun c hc => (h.1 c hc).symm⟩,
      fun h => ⟨fun c hc => (h.2 c hc).symm, h.1⟩⟩

end Storage

end RegistryStorage
