import RegistryStorage.Proofs.Onward

/-!
Names that survive a lost answer.

A call can take effect and still be answered with a fault: the connection breaks, or a long
operation is not waited for to its end. What was created then is found again only by its name, and
the record is where the next attempt looks for names. So it matters which of the names that were
given to the provider are in the record when an attempt ends, whatever the provider did and
whatever it said. Nothing is assumed about providers here.

The name of an endpoint is written down before it is used, and is always kept. Names of accounts
and containers are kept if they were there before or if the call was granted; and names that are
kept are the ones that the next attempt uses (`chosen_names_are_kept`). What is left out is a
generated name whose call is answered with a fault. The account's is written down once the account
is known to exist, the container's with the result of the step, and so a lost answer loses them
(`lost_answer_forgets_names`).

The argument follows the calls of an attempt in order. `Entry.Kept` is what each of them leaves
behind, and it is stated of the configuration that the record would get if the attempt stopped
right after the call.
-/

set_option autoImplicit false

namespace RegistryStorage

open Storage (takeCloud accountNamed)

/-! ## Names by kind -/

/-- The name that a configuration gives to the resource of a kind. -/
def StorageConfig.name? (c : StorageConfig) : Kind → Option String
  | .account => if c.account = "" then none else some c.account
  | .container => if c.container = "" then none else some c.container
  | .endpoint => c.network.endpoint?

/-- The resource that a call is about: its kind, and the name by which the call refers to it. -/
def Call.subject? : Call → Option (Kind × String)
  | checkName n | getAccount n | setAccess n _ | listKeys n | deleteAccount n => some (.account, n)
  | createAccount r => some (.account, r.name)
  | containerExists _ _ n | createContainer _ _ n | deleteContainer _ _ n => some (.container, n)
  | getEndpoint n | deleteEndpoint n => some (.endpoint, n)
  | createEndpoint r => some (.endpoint, r.name)
  | _ => none

namespace StorageConfig

variable {c c' : StorageConfig} {k : Kind} {n : String}

theorem name?_account (h : c.account ≠ "") : c.name? .account = some c.account := if_neg h

theorem name?_container (h : c.container ≠ "") : c.name? .container = some c.container := if_neg h

theorem name?_account_eq_some (h : c.name? .account = some n) : c.account ≠ "" ∧ c.account = n := by
  by_cases hempty : c.account = ""
  · simp [name?, hempty] at h
  · rw [name?_account hempty] at h
    exact ⟨hempty, Option.some.inj h⟩

theorem name?_container_eq_some (h : c.name? .container = some n) :
    c.container ≠ "" ∧ c.container = n := by
  by_cases hempty : c.container = ""
  · simp [name?, hempty] at h
  · rw [name?_container hempty] at h
    exact ⟨hempty, Option.some.inj h⟩

theorem Under.name? (hu : c.Under c') (h : c.name? k = some n) : c'.name? k = some n := by
  cases k with
  | account =>
    obtain ⟨hne, rfl⟩ := name?_account_eq_some h
    have hsame := hu.account.resolve_left hne
    rw [hsame] at hne ⊢
    exact name?_account hne
  | container =>
    obtain ⟨hne, rfl⟩ := name?_container_eq_some h
    have hsame := hu.container.resolve_left hne
    rw [hsame] at hne ⊢
    exact name?_container hne
  | endpoint => exact hu.endpoint n h

theorem name?_takeCloud (infra : Infrastructure) : (takeCloud infra c).name? = c.name? := by
  obtain ⟨haccount, hcontainer, hnetwork⟩ := takeCloud_names infra c
  funext k
  unfold name?
  rw [haccount, hcontainer, hnetwork]

end StorageConfig

/-! ## What a call leaves behind -/

/-- A call of an attempt that started with the names of one configuration and has those of another
one now. It used the name that was there, if there was one. And if it was to create something, then
the name is there now, unless it was made up for an account or a container and the call failed. -/
structure Entry.Kept (before c : StorageConfig) (e : Entry) : Prop where
  reused : ∀ k n m, e.call.subject? = some (k, n) → before.name? k = some m → n = m
  recorded : ∀ k n, e.call.makes? = some k → e.call.subject? = some (k, n) →
    e.fault = none ∨ before.name? k ≠ none ∨ k = .endpoint → c.name? k = some n

namespace Entry.Kept

variable {before c c' : StorageConfig} {e : Entry} {d : Call} {fault : Option Fault} {k : Kind}
variable {n : String}

theorem mono (h : e.Kept before c) (hu : c.Under c') : e.Kept before c' :=
  ⟨h.reused, fun k n hk hn hkept => hu.name? (h.recorded k n hk hn hkept)⟩

theorem congr (h : e.Kept before c) (hsame : before.name? = c'.name?) : e.Kept c' c := by
  obtain ⟨reused, recorded⟩ := h
  rw [hsame] at reused recorded
  exact ⟨reused, recorded⟩

/-- A call about a resource of which the name may be new. -/
theorem of_subject (hd : d.subject? = some (k, n)) (hold : ∀ m, before.name? k = some m → n = m)
    (hnew : fault = none ∨ before.name? k ≠ none ∨ k = .endpoint → d.makes? = some k →
      c.name? k = some n) : Kept before c ⟨d, fault⟩ := by
  constructor
  · intro l x m hx hm
    rw [hd] at hx
    cases hx
    exact hold m hm
  · intro l x hl hx hkept
    rw [hd] at hx
    cases hx
    exact hnew hkept hl

/-- A call about a resource that has its name by now. -/
theorem of_named (hu : before.Under c)
    (h : ∀ k n, d.subject? = some (k, n) → c.name? k = some n) : Kept before c ⟨d, fault⟩ := by
  constructor
  · intro k n m hn hm
    have hnow := hu.name? hm
    rw [h k n hn] at hnow
    exact Option.some.inj hnow
  · intro k n _ hn _
    exact h k n hn

end Entry.Kept

/-- All calls since a journal was written left what they should. -/
abbrev Scene.Kept {σ : Type} (j : Journal) (before c : StorageConfig) (s : Scene σ) : Prop :=
  s.Since j fun new => ∀ e ∈ new, e.Kept before c

section Calls

variable {σ : Type} {R : Conduct σ} {s : Scene σ} {j : Journal} {before c c' : StorageConfig}
variable {d : Call}

theorem Scene.Kept.mono (h : s.Kept j before c) (hu : c.Under c') : s.Kept j before c' := by
  obtain ⟨new, hnew, hkept⟩ := h
  exact ⟨new, hnew, fun e he => (hkept e he).mono hu⟩

theorem Scene.Kept.keeps (h : ∀ fault, Entry.Kept before c ⟨d, fault⟩) :
    Action.Keeps R.journaled (Scene.Kept j before c) (Action.perform d) :=
  Since.keeps_perform fun fault _ hnew => List.forall_mem_cons.2 ⟨h fault, hnew⟩

theorem Scene.Kept.keeps_named (hu : before.Under c)
    (h : ∀ k n, d.subject? = some (k, n) → c.name? k = some n) :
    Action.Keeps R.journaled (Scene.Kept j before c) (Action.perform d) :=
  Scene.Kept.keeps fun _ => .of_named hu h

/-- Calls that create something whose name is in the configuration as soon as they are granted. -/
theorem Scene.Kept.create (hs : s.Kept j before c) (hu : c.Under c')
    (hgranted : Entry.Kept before c' ⟨d, none⟩)
    (hrefused : ∀ f, Entry.Kept before c ⟨d, some f⟩) :
    (Action.perform d).Ensures R.journaled s (fun _ t => t.Kept j before c')
      fun _ t => t.Kept j before c := by
  refine Since.perform hs (fun new hnew => ?_) fun f new hnew => ?_
  · exact List.forall_mem_cons.2 ⟨hgranted, fun e he => (hnew e he).mono hu⟩
  · exact List.forall_mem_cons.2 ⟨hrefused f, hnew⟩

end Calls

/-! ## The steps of an attempt -/

section Steps

variable {σ : Type} {R : Conduct σ} {s : Scene σ} {j : Journal} {before c : StorageConfig}
variable {scope : Scope} {infra : Infrastructure} {fresh : Fresh}

/-- An account that is generated gets its name with the call, and one that is configured has it. -/
theorem Assure.account_kept {environment : CloudEnvironment} (hb : before.name? = c.name?)
    (hs : s.Kept j before c) :
    (account scope environment c infra fresh).Ensures R.journaled s
      (fun a t => t.Kept j before (accountNamed a.name c)) fun _ t => t.Kept j before c := by
  rw [account_ensures]
  refine ⟨fun _ _ => hs, fun name generated hname => ?_⟩
  obtain ⟨hne, hchosen⟩ := accountName_keeps hname
  have hold : ∀ m, before.name? .account = some m → name = m := by
    intro m hm
    rw [hb] at hm
    obtain ⟨hconfigured, rfl⟩ := StorageConfig.name?_account_eq_some hm
    exact (hchosen.resolve_left hconfigured).symm
  have hu : c.Under (accountNamed name c) := StorageConfig.under_accountNamed hchosen
  have hlook : ∀ fault, Entry.Kept before c ⟨.checkName name, fault⟩ :=
    fun fault => .of_subject rfl hold fun _ hmakes => nomatch hmakes
  refine (Scene.Kept.keeps hlook s hs).mono (fun availability t ht => ?_) fun _ _ ht => ht
  split
  · refine ht.create hu (.of_subject rfl hold fun _ _ => ?_) fun f => .of_subject rfl hold ?_
    · have hnamed : (accountNamed name c).account ≠ "" := by
        rwa [StorageConfig.accountNamed_account]
      rw [StorageConfig.name?_account hnamed, StorageConfig.accountNamed_account]
      rfl
    · rintro (hgranted | hconfigured | hendpoint) _
      · cases hgranted
      · -- refused, the name is kept only because it was there
        obtain ⟨m, hm⟩ := Option.ne_none_iff_exists'.1 hconfigured
        obtain rfl := hold m hm
        rw [← hb]
        exact hm
      · cases hendpoint
  · split
    · exact ht
    · exact ht.mono hu

theorem Isolation.configureDns_kept {endpoint : Endpoint} {vnet group account : String}
    {tags : Tags} (hu : before.Under c) :
    Action.Keeps R.journaled (Scene.Kept j before c)
      (configureDns scope endpoint vnet group account tags) :=
  -- nothing that DNS needs has a name of its own
  configureDns_keeps_of (Scene.Kept.keeps_named hu nofun)
    (fun _ => Scene.Kept.keeps_named hu nofun) (fun _ => Scene.Kept.keeps_named hu nofun)
    (Scene.Kept.keeps_named hu nofun) (Scene.Kept.keeps_named hu nofun)

theorem Isolation.configure_kept {network : InternalNetwork} {account : String} {tags : Tags}
    (hu : before.Under c) (hendpoint : c.network.endpoint? = some network.endpoint) :
    Action.Keeps R.journaled (Scene.Kept j before c) (configure scope account tags network) := by
  have hnamed : ∀ k n, Call.subject? (.createEndpoint (endpointRequest scope account tags network)) =
      some (k, n) → c.name? k = some n := by
    rintro k n ⟨⟩
    exact hendpoint
  refine (Scene.Kept.keeps_named hu hnamed).bind fun endpoint => ?_
  exact (configureDns_kept hu).bind fun _ => Action.keeps_pure endpoint

/-- **The endpoint has its name before any call is made for it.** -/
theorem Storage.openPrivately_kept {a : Assured} (hu : before.Under (accountNamed a.name c)) :
    Action.Keeps R.journaled (Scene.Kept j before (accountNamed a.name c))
      (openPrivately scope infra a (accountNamed a.name c)) := by
  unfold openPrivately
  split
  · rename_i network hnetwork
    have hendpoint := StorageConfig.accountNamed_endpoint hnetwork
    have hnamed : ∀ k n, Call.subject? (.getEndpoint network.endpoint) = some (k, n) →
        (accountNamed a.name c).name? k = some n := by
      rintro k n ⟨⟩
      exact hendpoint
    intro s hs
    rw [Assure.privateNetwork_ensures]
    split
    · exact Isolation.configure_kept hu hendpoint s hs
    · refine (Scene.Kept.keeps_named hu hnamed s hs).mono (fun endpoint t ht => ?_) fun f t ht => ?_
      · exact Isolation.configureDns_kept hu t ht
      · split
        · exact Isolation.configure_kept hu hendpoint t ht
        · exact ht
  · exact Action.keeps_pure ()

theorem Probe.primaryKey_kept (hu : before.Under c) (hne : c.account ≠ "") :
    Action.Keeps R.journaled (Scene.Kept j before c) (primaryKey c.account) := by
  have hnamed : ∀ k n, Call.subject? (.listKeys c.account) = some (k, n) → c.name? k = some n := by
    rintro k n ⟨⟩
    exact StorageConfig.name?_account hne
  exact primaryKey_keeps_of (Scene.Kept.keeps_named hu hnamed)

theorem Assure.container_kept (hu : before.Under c) (hb : before.container = c.container)
    (hne : c.account ≠ "") (hs : s.Kept j before c) :
    (container c infra fresh).Ensures R.journaled s
      (fun a t => t.Kept j before { c with container := a.name })
      fun _ t => t.Kept j before c := by
  rw [container_ensures]
  split
  · rename_i hempty
    let name := Naming.containerName infra.name fresh.serial
    have hname : name ≠ "" :=
      Naming.ne_empty_of_isContainerName (Naming.isContainerName_containerName ..)
    have hnone : before.name? .container = none := if_pos (hb.trans hempty)
    have hold : ∀ m, before.name? .container = some m → name = m := by
      intro m hm
      rw [hnone] at hm
      cases hm
    have hgrows : c.Under { c with container := name } :=
      StorageConfig.under_withContainer (Or.inl hempty)
    refine (Probe.primaryKey_kept hu hne s hs).mono (fun key t ht => ?_) fun _ _ ht => ht
    refine ht.create hgrows (.of_subject rfl hold fun _ _ => ?_) fun f => .of_subject rfl hold ?_
    · exact StorageConfig.name?_container (c := { c with container := name }) hname
    · rintro (hgranted | hconfigured | hendpoint) _
      · cases hgranted
      · exact absurd hnone hconfigured
      · cases hendpoint
  · rename_i hconfigured
    have hkeeps : ∀ {d : Call}, d.subject? = some (.container, c.container) →
        Action.Keeps R.journaled (Scene.Kept j before c) (Action.perform d) := by
      intro d hd
      refine Scene.Kept.keeps_named hu fun k n hn => ?_
      rw [hd] at hn
      cases hn
      exact StorageConfig.name?_container hconfigured
    refine ⟨fun _ _ => hs, fun _ => ?_⟩
    refine (Probe.primaryKey_kept hu hne s hs).mono (fun key t ht => ?_) fun _ _ ht => ht
    unfold Probe.containerExists
    rw [if_neg (not_or.2 ⟨hne, hconfigured⟩)]
    refine (hkeeps rfl t ht).mono (fun there t ht => ?_) fun _ _ ht => ht
    -- the configuration names the container already, so it does not change
    split
    · exact ht
    · exact hkeeps rfl t ht

theorem Storage.closePublicly_kept {c' : StorageConfig} (hu : before.Under c)
    (hne : c.account ≠ "") (hsame : c'.account = c.account) :
    Action.Keeps R.journaled (Scene.Kept j before c) (closePublicly c') := by
  have hkeeps : ∀ {d : Call}, d.subject? = some (.account, c.account) →
      Action.Keeps R.journaled (Scene.Kept j before c) (Action.perform d) := by
    intro d hd
    refine Scene.Kept.keeps_named hu fun k n hn => ?_
    rw [hd] at hn
    cases hn
    exact StorageConfig.name?_account hne
  refine closePublicly_keeps_of (hkeeps ?_) (hkeeps ?_)
  · rw [← hsame]
    rfl
  · rw [← hsame]
    rfl

end Steps

/-! ## Attempts -/

namespace Storage

variable {σ : Type} {R : Conduct σ} {s : Scene σ} {j : Journal} {w : Work} {now : Moment}
variable {settings : Settings} {infra : Infrastructure} {fresh : Fresh}

theorem furnish_kept {scope : Scope} {environment : CloudEnvironment} {before : StorageConfig}
    (hb : before.name? = w.config.name?) (hu : before.Under w.config)
    (hcontainer : before.container = w.config.container) (hs : s.Kept j before w.config) :
    (furnish scope environment infra fresh now).Ensures R.journaled w s
      (fun _ v t => t.Kept j before v.state.spec) fun _ v t => t.Kept j before v.state.spec := by
  rw [furnish_ensures]
  refine ((Assure.account_kept hb hs).and Assure.account_named).mono ?_ fun _ _ ht => ht.1
  rintro account t ⟨ht, hne, hchosen⟩
  have hu : before.Under (accountNamed account.name w.config) :=
    hu.trans (StorageConfig.under_accountNamed hchosen)
  have hne : (accountNamed account.name w.config).account ≠ "" := by
    rwa [StorageConfig.accountNamed_account]
  have hcontainer : before.container = (accountNamed account.name w.config).container := by
    rw [hcontainer, StorageConfig.accountNamed_container]
  refine (openPrivately_kept hu t ht).mono (fun _ t ht => ?_) fun _ _ ht => ht
  refine ((Assure.container_kept hu hcontainer hne ht).and Assure.container_named).mono ?_
    fun _ _ ht => ht.1
  rintro container t ⟨ht, -, hchosen⟩
  have hu := hu.trans (StorageConfig.under_withContainer hchosen)
  exact (closePublicly_kept hu hne rfl t ht).mono (fun _ _ ht => ht) fun _ _ ht => ht

/-- **An attempt keeps the names of what it was granted, and works with those it found.** -/
theorem create_kept :
    (create settings infra fresh now).Ensures R.journaled w s
      (fun _ v t => t.Kept s.journal w.config v.state.spec)
      fun _ v t => t.Kept s.journal w.config v.state.spec := by
  -- as long as nobody was called, any record will do
  have hnone : ∀ c, s.Kept s.journal w.config c := fun c => Scene.since_refl (List.forall_mem_nil _)
  by_cases hc : ∃ credentials, settings.credentials = .ok (.cluster credentials)
  · obtain ⟨credentials, hc⟩ := hc
    rw [create_ensures hc, provision_ensures]
    refine ⟨fun _ => hnone _, fun _ => ⟨fun _ _ => hnone _, fun _ => ⟨fun _ _ => hnone _, ?_⟩⟩⟩
    intro environment _
    have hclients : ∀ c, Action.Keeps R.journaled (Scene.Kept s.journal w.config c)
        (Action.perform (.clients environment credentials)) := by
      intro c
      refine Scene.Kept.keeps fun fault => ⟨?_, ?_⟩
      · rintro k n m ⟨⟩
      · rintro k n ⟨⟩
    let v := w.withConfig (takeCloud infra w.config)
    have hsame : w.config.name? = v.config.name? := (StorageConfig.name?_takeCloud infra).symm
    have hu : w.config.Under v.config := StorageConfig.under_takeCloud infra
    have hcontainer : w.config.container = v.config.container :=
      (StorageConfig.takeCloud_container infra w.config).symm
    -- the record is changed only if the account is asked for
    refine ((hclients v.config s (hnone _)).and (hclients w.state.spec s (hnone _))).mono ?_ ?_
    · rintro _ t ⟨ht, -⟩
      exact furnish_kept (w := v) hsame hu hcontainer ht
    · rintro f t ⟨-, ht⟩
      exact ht
  · have hc : ∀ credentials, settings.credentials ≠ .ok (.cluster credentials) :=
      fun credentials h => hc ⟨credentials, h⟩
    refine (create_uncalled hc).mono ?_ ?_
    · rintro _ v t rfl
      exact hnone _
    · rintro _ v t rfl
      exact hnone _

/-- What an attempt kept is true of all its calls when it is run. -/
theorem run_kept {r : Replier σ} {p : σ} {v : Work} {t : Scene σ} {result : Except Fault Unit}
    (hrun : ((create settings infra fresh now).start w).run r.journaled ⟨p, []⟩ =
      ((result, v), t)) : ∀ e ∈ t.journal, e.Kept w.config v.state.spec := by
  obtain ⟨hok, hfailed⟩ := create_kept.run_journaled hrun
  obtain ⟨new, hnew, hall⟩ : t.Kept [] w.config v.state.spec := by
    cases result with
    | ok a => exact hok a rfl
    | error f => exact hfailed f rfl
  rw [List.append_nil] at hnew
  rwa [hnew]

end Storage

/-- A replier of which some calls take effect although they are answered with a fault. -/
def Replier.losing {σ : Type} (lost : Call → Bool) (f : Fault) (r : Replier σ) : Replier σ := fun c s =>
  if lost c then (.error f, (r c s).2) else r c s

/-- **Which names outlive an attempt.** Whatever the provider does and whatever it answers, of the
names that were given to it to create something the record has every endpoint's, and those of
accounts and containers if they were there before or the call was granted. The next attempt calls
nothing of these kinds by another name, whoever the provider is by then. -/
theorem chosen_names_are_kept {σ : Type} (r : Replier σ) (p : σ) (settings : Settings)
    (infra : Infrastructure) (fresh : Fresh) (now : Moment) (w v : Work) (t : Scene σ)
    (result : Except Fault Unit)
    (hrun : ((Storage.create settings infra fresh now).start w).run r.journaled ⟨p, []⟩ =
      ((result, v), t)) :
    (∀ e ∈ t.journal, ∀ k n, e.call.makes? = some k → e.call.subject? = some (k, n) →
      e.fault = none ∨ w.config.name? k ≠ none ∨ k = .endpoint →
        v.state.spec.name? k = some n) ∧
    ∀ (τ : Type) (q : Replier τ) (i : τ) (settings : Settings) (infra : Infrastructure)
      (fresh : Fresh) (now : Moment) (x : Work) (u : Scene τ) (result : Except Fault Unit),
      ((Storage.create settings infra fresh now).start ⟨v.state.spec, v.state⟩).run q.journaled
        ⟨i, []⟩ = ((result, x), u) →
      ∀ e ∈ u.journal, ∀ k n m, e.call.subject? = some (k, n) →
        v.state.spec.name? k = some m → n = m := by
  constructor
  · intro e he
    exact (Storage.run_kept hrun e he).recorded
  · intro τ q i settings infra fresh now x u result hnext e he
    exact (Storage.run_kept hnext e he).reused

/-- The endpoint's name outlives an answer that was lost. -/
theorem endpoint_name_is_kept :
    let network : InternalNetwork := { vnet := "vnet", subnet := "subnet" }
    let state : StorageState := { spec := { network := .internal network } }
    let provider := (Inventory.reply clusterSettings.cluster.scope).losing
      (fun c => c.makes? == some .endpoint) (.timeout "create_private_endpoint")
    let name := "imageregistrymyclusaaaaa-pe"
    ∃ result v t, ((Storage.create clusterSettings ⟨"mycluster", none⟩ ⟨⟨[], 0⟩, 0⟩ default).start
        ⟨state.spec, state⟩).run provider.journaled ⟨{}, []⟩ = ((result, v), t) ∧
      t.provider.has (.endpoint name) = true ∧ v.state.spec.name? .endpoint = some name := by
  intro network state provider name
  obtain ⟨outcome, hrun, hhas, e, he, hmakes, hsubject⟩ : ∃ outcome,
      ((Storage.create clusterSettings ⟨"mycluster", none⟩ ⟨⟨[], 0⟩, 0⟩ default).start
        ⟨state.spec, state⟩).run provider.journaled ⟨{}, []⟩ = outcome ∧
      outcome.2.provider.has (.endpoint name) = true ∧
      ∃ e ∈ outcome.2.journal,
        e.call.makes? = some .endpoint ∧ e.call.subject? = some (.endpoint, name) :=
    ⟨_, rfl, by decide +kernel, by decide +kernel⟩
  obtain ⟨⟨result, v⟩, t⟩ := outcome
  obtain ⟨hrecorded, -⟩ := chosen_names_are_kept provider {} clusterSettings ⟨"mycluster", none⟩
    ⟨⟨[], 0⟩, 0⟩ default ⟨state.spec, state⟩ v t result hrun
  exact ⟨result, v, t, hrun, hhas,
    hrecorded e he .endpoint name hmakes hsubject (Or.inr (Or.inr rfl))⟩

/-- **Generated names of an account and of a container do not.** The account exists afterwards, or
the container in it, and the record has no name for it. -/
theorem lost_answer_forgets_names :
    let home := clusterSettings.cluster.scope
    let provider := fun (k : Kind) => (Inventory.reply home).losing (fun c => c.makes? == some k)
      (.timeout "create")
    let outcome := fun (k : Kind) => ((Storage.create clusterSettings ⟨"mycluster", none⟩
      ⟨⟨[], 0⟩, 0⟩ default).start ⟨{}, {}⟩).run (provider k).journaled ⟨{}, []⟩
    let account := "imageregistrymyclusaaaaa"
    let container := Naming.containerName "mycluster" 0
    ((∃ e ∈ (outcome .account).2.journal, e.call.subject? = some (.account, account) ∧
        e.call.makes? = some .account) ∧
      (outcome .account).2.provider.has (.account account) = true ∧
      (outcome .account).1.2.state.spec.name? .account = none) ∧
    (∃ e ∈ (outcome .container).2.journal, e.call.subject? = some (.container, container) ∧
        e.call.makes? = some .container) ∧
      (outcome .container).2.provider.has (.container account container) = true ∧
      (outcome .container).1.2.state.spec.name? .container = none := by
  decide +kernel

end RegistryStorage
