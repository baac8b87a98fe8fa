import RegistryStorage.Command.Run
import RegistryStorage.Proofs.CallOrder

/-!
Account keys stay secret.

A `Pairing` puts two providers side by side. They are `Twins` if they answer alike but for the text
of an account's first key, and `Indifferent` if besides they do not tell apart what is done with one
key from what is done with the other. `Agree` compares two programs, each run against its own side,
by how they end. It has one rule for each way in which steps are put together, and steps that have
nothing to do with keys agree with themselves (`Program.agree_of_keyless`), so that only the few
steps that handle a key need a look.

`account_keys_stay_secret`: the environment with its secrets masked is the same whatever the key is,
and between providers that answer alike so is what putting storage in place, taking it down and
looking at it leave in the record and come to.
-/

set_option autoImplicit false

namespace RegistryStorage

variable {σ τ α β γ δ : Type}

/-! ## What differs in a key -/

/-- Two ends of a step: values that belong together, or the same fault. -/
inductive EndsAlike (V : α → β → Prop) : Except Fault α → Except Fault β → Prop
  | ok {a : α} {b : β} (h : V a b) : EndsAlike V (.ok a) (.ok b)
  | error (f : Fault) : EndsAlike V (.error f) (.error f)

namespace EndsAlike

theorem refl (e : Except Fault α) : EndsAlike Eq e e := by
  cases e with
  | ok a => exact .ok rfl
  | error f => exact .error f

theorem eq {e e' : Except Fault α} (h : EndsAlike Eq e e') : e = e' := by
  cases h with
  | ok h => rw [h]
  | error f => rfl

end EndsAlike

/-- Keys of an account that differ in the text of the first one alone. -/
inductive KeysAlike (K : String → String → Prop) : List AccountKey → List AccountKey → Prop
  | nil : KeysAlike K [] []
  | cons {k k' : String} (h : K k k') (name : String) (l : List AccountKey) :
      KeysAlike K (⟨name, k⟩ :: l) (⟨name, k'⟩ :: l)

/-- Credentials that differ in the user's key alone. -/
inductive StorageCredentials.Alike (K : String → String → Prop) :
    StorageCredentials → StorageCredentials → Prop
  | userManaged {k k' : String} (h : K k k') : Alike K (.userManaged k) (.userManaged k')
  | cluster (c : ClusterCredentials) : Alike K (.cluster c) (.cluster c)

/-- Settings that differ in the user's key alone, where there is one. -/
inductive Settings.Alike (K : String → String → Prop) : Settings → Settings → Prop
  | unkeyed {s : Settings} (h : hasSecret s.accountKey = false) : Alike K s s
  | keyed (s : Settings) {k k' : String} (hk : Text.isAllBlank k = false)
      (hk' : Text.isAllBlank k' = false) (h : K k k') :
      Alike K { s with accountKey := some k } { s with accountKey := some k' }

namespace Settings.Alike

variable {K : String → String → Prop} {s s' : Settings}

theorem customCloud (h : Settings.Alike K s s') : s.customCloud = s'.customCloud := by
  cases h <;> rfl

theorem credentials (h : Settings.Alike K s s') :
    EndsAlike (StorageCredentials.Alike K) s.credentials s'.credentials := by
  cases h with
  | unkeyed h =>
    unfold Settings.credentials
    cases hkey : s.accountKey with
    | none =>
      cases s.validate with
      | ok => exact .ok (.cluster _)
      | error f => exact .error f
    | some key =>
      have hblank : Text.isAllBlank key = true := by
        rw [hkey] at h
        simpa [hasSecret] using h
      simp only [hblank, if_true]
      exact .error _
  | keyed s hk hk' h =>
    have hcredentials : ∀ key, Text.isAllBlank key = false →
        { s with accountKey := some key : Settings }.credentials = .ok (.userManaged key) := by
      intro key hkey
      simp [Settings.credentials, hkey]
    rw [hcredentials _ hk, hcredentials _ hk']
    exact .ok (.userManaged h)

end Settings.Alike

/-! ## Two providers side by side -/

/-- Two providers, and which of their states belong together. -/
structure Pairing (σ τ : Type) where
  left : Replier σ
  right : Replier τ
  Related : σ → τ → Prop

/-- A call that neither asks for keys nor carries one. -/
def Call.Keyless : Call → Prop
  | listKeys _ | containerExists .. | createContainer .. | deleteContainer .. => False
  | _ => True

namespace Pairing

/-- The sides answer a call each as `V` says, and remain in states that belong together. -/
def Answers (P : Pairing σ τ) (c d : Call) (V : Reply c → Reply d → Prop) : Prop :=
  ∀ s t, P.Related s t →
    V (P.left c s).1 (P.right d t).1 ∧ P.Related (P.left c s).2 (P.right d t).2

/-- The sides answer alike, but that the first key of an account need not be the same. -/
structure Twins (P : Pairing σ τ) (K : String → String → Prop) : Prop where
  keyless : ∀ c : Call, c.Keyless → P.Answers c c Eq
  keys : ∀ account, P.Answers (.listKeys account) (.listKeys account) (EndsAlike (KeysAlike K))

/-- The sides answer alike to what is done with one key or the other. -/
structure Indifferent (P : Pairing σ τ) (K : String → String → Prop) : Prop where
  looks : ∀ account container {k k'}, K k k' →
    P.Answers (.containerExists account k container) (.containerExists account k' container) Eq
  creates : ∀ account container {k k'}, K k k' →
    P.Answers (.createContainer account k container) (.createContainer account k' container) Eq
  deletes : ∀ account container {k k'}, K k k' →
    P.Answers (.deleteContainer account k container) (.deleteContainer account k' container) Eq

/-- A provider beside itself. -/
def self (r : Replier σ) : Pairing σ σ := ⟨r, r, Eq⟩

/-- A provider is its own twin. -/
theorem self_twins (r : Replier σ) {K : String → String → Prop} (hK : ∀ k, K k k) :
    (self r).Twins K where
  keyless := by
    rintro c - s _ rfl
    exact ⟨rfl, rfl⟩
  keys := by
    rintro account s _ rfl
    refine ⟨?_, rfl⟩
    dsimp only [self]
    cases (r (.listKeys account) s).1 with
    | error f => exact .error f
    | ok keys =>
      cases keys with
      | nil => exact .ok .nil
      | cons key l => exact .ok (.cons (hK key.value) key.name l)

end Pairing

/-! ## Programs that agree -/

variable {P : Pairing σ τ} {K : String → String → Prop}

namespace Program

/-- Started in states that belong together, two programs end as `V` says, and again in states that
belong together. -/
def Agree (P : Pairing σ τ) (V : α → β → Prop) (p : Program α) (q : Program β) : Prop :=
  ∀ s t, P.Related s t →
    V (p.run P.left s).1 (q.run P.right t).1 ∧ P.Related (p.run P.left s).2 (q.run P.right t).2

variable {V V' : α → β → Prop} {W : γ → δ → Prop} {p : Program α} {q : Program β}

theorem agree_pure {a : α} {b : β} (h : V a b) : Agree P V (pure a) (pure b) := fun _ _ hst =>
  ⟨h, hst⟩

/-- **Two programs in a row**: whatever the first ones end with, the second ones agree. -/
theorem Agree.bind {f : α → Program γ} {g : β → Program δ} (h : Agree P V p q)
    (hf : ∀ a b, V a b → Agree P W (f a) (g b)) : Agree P W (p >>= f) (q >>= g) := by
  intro s t hst
  obtain ⟨hends, hst⟩ := h s t hst
  rw [run_bind, run_bind]
  exact hf _ _ hends _ _ hst

theorem Agree.mono (h : Agree P V p q) (hV : ∀ a b, V a b → V' a b) : Agree P V' p q :=
  fun s t hst => ⟨hV _ _ (h s t hst).1, (h s t hst).2⟩

/-- **As long as no call has to do with a key, twins cannot be told apart.** -/
theorem agree_of_keyless (hP : P.Twins K) {p : Program α}
    (hp : ∀ s, (p.transcript P.left s).All fun e => e.call.Keyless) : Agree P Eq p p := by
  intro s t hst
  have hs := hp s
  clear hp
  -- after the same reply both sides go on with the same program
  induction p generalizing s t with
  | done a => exact ⟨rfl, hst⟩
  | call c next ih =>
    rw [transcript, Transcript.All, List.forall_mem_cons] at hs
    obtain ⟨hreply, hst⟩ := hP.keyless c hs.1 s t hst
    have hnext := ih _ _ _ hst hs.2
    rw [run, run, ← hreply]
    exact hnext

end Program

/-! ## Steps that agree -/

namespace Action

/-- Two steps end with values that belong together, or with the same fault. -/
def Agree (P : Pairing σ τ) (V : α → β → Prop) (a : Action α) (b : Action β) : Prop :=
  Program.Agree P (EndsAlike V) a.run b.run

/-- No call of the step has to do with a key. -/
abbrev Keyless (a : Action α) : Prop :=
  Keeps unruly (Transcript.All fun e => e.call.Keyless) a

variable {V : α → β → Prop} {W : γ → δ → Prop} {a : Action α} {b : Action β}

theorem agree_pure {x : α} {y : β} (h : V x y) : Agree P V (pure x) (pure y) :=
  Program.agree_pure (.ok h)

theorem agree_ofResult {e : Except Fault α} {e' : Except Fault β} (h : EndsAlike V e e') :
    Agree P V (ofResult e) (ofResult e') :=
  Program.agree_pure h

theorem Agree.bind {f : α → Action γ} {g : β → Action δ} (h : Agree P V a b)
    (hf : ∀ x y, V x y → Agree P W (f x) (g y)) : Agree P W (a >>= f) (b >>= g) := by
  refine Program.Agree.bind h fun e e' hends => ?_
  cases hends with
  | ok hxy => exact hf _ _ hxy
  | error f => exact Program.agree_pure (.error f)

/-- Two steps in a row, of which the first ones end the same. -/
theorem Agree.next {x y : Action α} {f : α → Action γ} {g : α → Action δ} (h : Agree P Eq x y)
    (hf : ∀ a, Agree P W (f a) (g a)) : Agree P W (x >>= f) (y >>= g) :=
  h.bind fun a _ hab => hab ▸ hf a

/-- Two steps that come to the same end agree. -/
theorem agree_of_eq {a b : Action α} (h : Program.Agree P Eq a.run b.run) : Agree P Eq a b :=
  h.mono fun _ _ he => he ▸ .refl _

/-- **A step that has nothing to do with keys agrees with itself.** -/
theorem agree_of_keyless (hP : P.Twins K) (ha : a.Keyless) : Agree P Eq a a := by
  have hcalls : ∀ s, (a.run.transcript P.left s).All fun e => e.call.Keyless := by
    intro s
    have hends := Program.Ensures.of_transcript (r := P.left) (ha [] (List.forall_mem_nil _)) s
    rw [List.nil_append] at hends
    split at hends <;> exact hends
  exact agree_of_eq (Program.agree_of_keyless hP hcalls)

/-- A call that has nothing to do with keys. -/
theorem agree_call (hP : P.Twins K) {c : Call} (hc : c.Keyless) :
    Agree P Eq (perform c) (perform c) :=
  agree_of_eq (hP.keyless c hc)

theorem Agree.tolerant {a b : Action Unit} (h : Agree P Eq a b) :
    Agree P Eq (tolerant a) (tolerant b) :=
  Program.Agree.bind h fun _ _ he => Program.agree_pure (he.eq ▸ .refl _)

end Action

/-! ## Invocations that agree -/

namespace Invocation

/-- Two invocations of the same work end with values that belong together or with the same fault,
and leave the same work. -/
def Agree (P : Pairing σ τ) (V : α → β → Prop) (x : Invocation α) (y : Invocation β) : Prop :=
  ∀ w, Program.Agree P (fun a b => EndsAlike V a.1 b.1 ∧ a.2 = b.2) (x.start w) (y.start w)

variable {V : α → β → Prop} {W : γ → δ → Prop} {x : Invocation α} {y : Invocation β}

theorem Agree.same {y : Invocation α} (h : Agree P Eq x y) (w : Work) :
    Program.Agree P Eq (x.start w) (y.start w) :=
  (h w).mono fun _ _ hends => Prod.ext hends.1.eq hends.2

theorem agree_pure {a : α} {b : β} (h : V a b) : Agree P V (pure a) (pure b) := fun _ =>
  Program.agree_pure ⟨.ok h, rfl⟩

theorem agree_ofResult {e : Except Fault α} {e' : Except Fault β} (h : EndsAlike V e e') :
    Agree P V (ofResult e) (ofResult e') := fun _ =>
  Program.agree_pure ⟨h, rfl⟩

theorem Agree.bind {f : α → Invocation γ} {g : β → Invocation δ} (h : Agree P V x y)
    (hf : ∀ a b, V a b → Agree P W (f a) (g b)) : Agree P W (x >>= f) (y >>= g) := by
  intro w
  refine Program.Agree.bind (h w) ?_
  rintro ⟨e, v⟩ ⟨e', _⟩ ⟨hends, rfl⟩
  cases hends with
  | ok hab => exact hf _ _ hab v
  | error f => exact Program.agree_pure ⟨.error f, rfl⟩

/-- Two invocations in a row, of which the first ones end the same. -/
theorem Agree.next {x y : Invocation α} {f : α → Invocation γ} {g : α → Invocation δ}
    (h : Agree P Eq x y) (hf : ∀ a, Agree P W (f a) (g a)) : Agree P W (x >>= f) (y >>= g) :=
  h.bind fun a _ hab => hab ▸ hf a

theorem agree_act {a : Action α} {b : Action β} (h : Action.Agree P V a b) :
    Agree P V (act a) (act b) := fun _ =>
  Program.Agree.bind h fun _ _ he => Program.agree_pure ⟨he, rfl⟩

theorem agree_throw (fault : Fault) : Agree P V (throw fault) (throw fault) := fun _ =>
  Program.agree_pure ⟨.error fault, rfl⟩

theorem agree_get : Agree P Eq (get : Invocation Work) get := fun _ =>
  Program.agree_pure ⟨.ok rfl, rfl⟩

theorem agree_modify (f : Work → Work) : Agree P Eq (modify f : Invocation PUnit) (modify f) :=
  fun _ => Program.agree_pure ⟨.ok rfl, rfl⟩

/-- What is done about a fault is the same, as the fault is. -/
theorem Agree.onFault {f : Fault → Invocation Unit} (h : Agree P V x y)
    (hf : ∀ fault, Agree P Eq (f fault) (f fault)) : Agree P V (x.onFault f) (y.onFault f) := by
  intro w
  refine Program.Agree.bind (h w) ?_
  rintro ⟨e, v⟩ ⟨e', _⟩ ⟨hends, rfl⟩
  cases hends with
  | ok hab => exact Program.agree_pure ⟨.ok hab, rfl⟩
  | error fault => exact (hf fault).bind (fun _ _ _ => agree_throw fault) v

theorem Agree.blaming (now : Moment) (reason : StorageReason) (doing : String)
    (h : Agree P V x y) : Agree P V (x.blaming now reason doing) (y.blaming now reason doing) :=
  h.onFault fun _ => agree_modify _

theorem Agree.keeping (created : Bool) (h : Agree P V x y) :
    Agree P V (x.keeping created) (y.keeping created) :=
  h.onFault fun _ => agree_modify _

end Invocation

/-! ## Steps without keys -/

theorem Call.Keyless.keeps {c : Call} (hc : c.Keyless) : (Action.perform c).Keyless :=
  Transcript.All.keeps fun _ => hc

section Steps

variable {scope : Scope} {infra : Infrastructure} {config : StorageConfig} {fresh : Fresh}

theorem Assure.account_keyless (environment : CloudEnvironment) :
    (account scope environment config infra fresh).Keyless :=
  account_keeps_of (fun _ => Call.Keyless.keeps trivial) fun _ => Call.Keyless.keeps trivial

theorem Storage.openPrivately_keyless (a : Assured) :
    (openPrivately scope infra a config).Keyless := by
  refine openPrivately_keeps_of fun d hd => Call.Keyless.keeps ?_
  cases d <;> first | exact hd.elim | trivial

theorem Storage.closePublicly_keyless : (closePublicly config).Keyless :=
  closePublicly_keeps_of (Call.Keyless.keeps (by trivial)) (Call.Keyless.keeps (by trivial))

theorem Isolation.removeDns_keyless (endpoint account : String) :
    (removeDns endpoint account).Keyless :=
  (Action.Keeps.tolerant (Call.Keyless.keeps (by trivial))).bind fun _ =>
    (Action.Keeps.tolerant (Call.Keyless.keeps (by trivial))).bind fun _ =>
      Action.Keeps.tolerant (Call.Keyless.keeps (by trivial))

/-! ## Steps with a key -/

/-- The key that is looked up. -/
theorem Probe.primaryKey_agrees (hP : P.Twins K) (account : String) :
    Action.Agree P K (primaryKey account) (primaryKey account) := by
  refine Program.Agree.bind (hP.keys account) fun e e' hends => ?_
  cases hends with
  | error f => exact Program.agree_pure (.error _)
  | ok hkeys =>
    cases hkeys with
    | nil => exact Program.agree_pure (.error _)
    | cons hk => exact Program.agree_pure (.ok hk)

theorem Probe.containerExists_agrees (hI : P.Indifferent K) {k k' : String} (hk : K k k')
    (account container : String) :
    Action.Agree P Eq (containerExists account k container)
      (containerExists account k' container) := by
  unfold containerExists
  split
  · exact Action.agree_pure rfl
  · exact Action.agree_of_eq (hI.looks account container hk)

theorem Assure.container_agrees (hP : P.Twins K) (hI : P.Indifferent K) :
    Action.Agree P Eq (container config infra fresh) (container config infra fresh) := by
  have hcreate : ∀ name {k k'}, K k k' → Action.Agree P Eq
      (Action.perform (.createContainer config.account k name))
      (Action.perform (.createContainer config.account k' name)) := fun name _ _ hk =>
    Action.agree_of_eq (hI.creates config.account name hk)
  unfold container
  by_cases hempty : config.container = ""
  · simp only [hempty, ne_eq, not_true_eq_false, if_false, if_true]
    refine (Probe.primaryKey_agrees hP _).bind fun k k' hk => ?_
    exact (hcreate _ hk).next fun _ => Action.agree_pure rfl
  · simp only [hempty, ne_eq, not_false_eq_true, if_false, if_true]
    refine (Action.agree_ofResult (.refl _)).next fun _ => ?_
    refine (Probe.primaryKey_agrees hP _).bind fun k k' hk => ?_
    refine (Probe.containerExists_agrees hI hk _ _).next fun there => ?_
    split
    · exact Action.agree_pure rfl
    · exact (hcreate _ hk).next fun _ => Action.agree_pure rfl

/-- The key that is deleted with, unless the account is gone. -/
theorem Storage.keyUnlessGone_agrees (hP : P.Twins K) (account : String) :
    Action.Agree P (EndsAlike K) (keyUnlessGone account) (keyUnlessGone account) := by
  refine Program.Agree.bind (Probe.primaryKey_agrees hP account) fun e e' hends => ?_
  cases hends with
  | ok hk => exact Program.agree_pure (.ok (.ok hk))
  | error f =>
    refine Program.agree_pure ?_
    split
    · exact .ok (.error f)
    · exact .error f

/-- The key that containers are reached with. -/
theorem Storage.accessKey_agrees (hP : P.Twins K) {c c' : StorageCredentials}
    (hc : StorageCredentials.Alike K c c') (environment : CloudEnvironment) (account : String) :
    Action.Agree P K (accessKey environment account c) (accessKey environment account c') := by
  cases hc with
  | userManaged hk =>
    exact (Action.agree_call hP (by trivial)).next fun _ => Action.agree_pure hk
  | cluster credentials =>
    exact (Action.agree_call hP (by trivial)).next fun _ =>
      Probe.primaryKey_agrees hP account

end Steps

/-! ## The operations -/

namespace Storage

open Invocation

variable {scope : Scope} {infra : Infrastructure} {fresh : Fresh} {now : Moment}
variable {settings settings' : Settings}

theorem adopt_agrees : Invocation.Agree P Eq (adopt now) (adopt now) := by
  refine agree_get.next fun w => ?_
  split
  · exact agree_modify _
  · split
    · exact agree_modify _
    · exact (agree_modify _).next fun _ => agree_modify _

theorem furnish_agrees (hP : P.Twins K) (hI : P.Indifferent K) (environment : CloudEnvironment) :
    Invocation.Agree P Eq (furnish scope environment infra fresh now)
      (furnish scope environment infra fresh now) := by
  refine agree_get.next fun w => ?_
  have haccount := Action.agree_of_keyless hP
    (Assure.account_keyless environment :
      (Assure.account scope environment w.config infra fresh).Keyless)
  refine (((agree_act haccount).keeping false).blaming _ _ _).next fun account => ?_
  refine (agree_modify _).next fun _ => (agree_modify _).next fun _ => agree_get.next fun v => ?_
  have hopen := Action.agree_of_keyless hP
    (openPrivately_keyless account : (openPrivately scope infra account v.config).Keyless)
  refine (((agree_act hopen).keeping _).blaming _ _ _).next fun _ => ?_
  refine (((agree_act (Assure.container_agrees hP hI)).keeping _).blaming _ _ _).next
    fun container => ?_
  refine (agree_modify _).next fun _ => ?_
  have hclose := Action.agree_of_keyless hP
    (closePublicly_keyless : (closePublicly v.config).Keyless)
  refine (((agree_act hclose).keeping _).blaming _ _ _).next fun _ => ?_
  exact (agree_modify _).next fun _ => agree_modify _

theorem provision_agrees (hP : P.Twins K) (hI : P.Indifferent K)
    (hcloud : settings.customCloud = settings'.customCloud) (credentials : ClusterCredentials) :
    Invocation.Agree P Eq (provision settings credentials infra fresh now)
      (provision settings' credentials infra fresh now) := by
  unfold provision
  rw [hcloud]
  refine ((agree_ofResult (.refl _)).blaming _ _ _).next fun _ => ?_
  refine (agree_modify _).next fun _ => agree_get.next fun w => ?_
  refine ((agree_ofResult (.refl _)).blaming _ _ _).next fun _ => ?_
  refine ((agree_ofResult (.refl _)).blaming _ _ _).next fun environment => ?_
  exact ((agree_act (Action.agree_call hP (by trivial))).blaming _ _ _).next fun _ =>
    furnish_agrees hP hI environment

/-- **Putting storage in place does not depend on the key.** -/
theorem create_agrees (hP : P.Twins K) (hI : P.Indifferent K)
    (hsettings : Settings.Alike K settings settings') :
    Invocation.Agree P Eq (create settings infra fresh now) (create settings' infra fresh now) := by
  refine ((agree_ofResult hsettings.credentials).blaming _ _ _).bind fun c c' hc => ?_
  cases hc with
  | userManaged => exact adopt_agrees
  | cluster credentials => exact provision_agrees hP hI hsettings.customCloud credentials

theorem removePrivateNetwork_agrees (hP : P.Twins K) (account : String) :
    Invocation.Agree P Eq (removePrivateNetwork now account)
      (removePrivateNetwork now account) := by
  refine agree_get.next fun w => ?_
  split
  · exact agree_pure rfl
  · rename_i endpoint _
    have hdns := Action.agree_of_keyless hP (Isolation.removeDns_keyless endpoint account)
    refine ((agree_act hdns).blaming _ _ _).next fun _ => ?_
    have hdelete : Action.Agree P Eq (Action.perform (.deleteEndpoint endpoint)) _ :=
      Action.agree_call hP trivial
    exact ((agree_act hdelete.tolerant).blaming _ _ _).next fun _ => agree_modify _

theorem removeAccount_agrees (hP : P.Twins K) (account : String) :
    Invocation.Agree P Eq (removeAccount now account) (removeAccount now account) := by
  have hdelete : Action.Agree P Eq (Action.perform (.deleteAccount account)) _ :=
    Action.agree_call hP trivial
  refine ((agree_act hdelete.tolerant).blaming _ _ _).next fun _ => ?_
  exact (agree_modify _).next fun _ => agree_modify _

theorem removeContainer_agrees (hI : P.Indifferent K) {k k' : String} (hk : K k k')
    (account container : String) :
    Invocation.Agree P Eq (removeContainer now account k container)
      (removeContainer now account k' container) := by
  have hdelete : Action.Agree P Eq (Action.perform (.deleteContainer account k container))
      (Action.perform (.deleteContainer account k' container)) :=
    Action.agree_of_eq (hI.deletes account container hk)
  refine ((agree_act hdelete.tolerant).blaming _ _ _).next fun _ => ?_
  exact (agree_modify _).next fun _ => agree_modify _

theorem dismantle_agrees (hP : P.Twins K) (hI : P.Indifferent K) :
    Invocation.Agree P Eq (dismantle now) (dismantle now) := by
  have hrest : ∀ account, Invocation.Agree P Eq
      (do removePrivateNetwork now account; removeAccount now account)
      (do removePrivateNetwork now account; removeAccount now account) := fun account =>
    (removePrivateNetwork_agrees hP account).next fun _ => removeAccount_agrees hP account
  refine agree_get.next fun w => ?_
  dsimp only
  split
  · exact hrest _
  · refine ((agree_act (keyUnlessGone_agrees hP _)).blaming _ _ _).bind fun e e' hends => ?_
    cases hends with
    | ok hk => exact (removeContainer_agrees hI hk _ _).next fun _ => hrest _
    | error fault =>
      refine (removePrivateNetwork_agrees hP _).next fun _ => ?_
      exact (agree_modify _).next fun _ => agree_modify _

theorem decommission_agrees (hP : P.Twins K) (hI : P.Indifferent K)
    (hcloud : settings.customCloud = settings'.customCloud) (credentials : ClusterCredentials) :
    Invocation.Agree P Eq (decommission settings credentials now)
      (decommission settings' credentials now) := by
  unfold decommission
  rw [hcloud]
  refine agree_get.next fun w => ?_
  refine ((agree_ofResult (.refl _)).blaming _ _ _).next fun environment => ?_
  exact ((agree_act (Action.agree_call hP (by trivial))).blaming _ _ _).next fun _ =>
    dismantle_agrees hP hI

/-- **Taking storage down does not depend on the key.** -/
theorem remove_agrees (hP : P.Twins K) (hI : P.Indifferent K)
    (hsettings : Settings.Alike K settings settings') :
    Invocation.Agree P Eq (remove settings now) (remove settings' now) := by
  refine agree_get.next fun w => ?_
  split
  · exact agree_pure rfl
  · split
    · exact agree_modify _
    · refine ((agree_ofResult hsettings.credentials).blaming _ _ _).bind fun c c' hc => ?_
      cases hc with
      | userManaged => exact agree_pure rfl
      | cluster credentials => exact decommission_agrees hP hI hsettings.customCloud credentials

/-- **Looking at storage does not depend on the key.** -/
theorem checkExists_agrees (hP : P.Twins K) (hI : P.Indifferent K)
    (hsettings : Settings.Alike K settings settings') :
    Invocation.Agree P Eq (checkExists settings now) (checkExists settings' now) := by
  unfold checkExists
  rw [hsettings.customCloud]
  refine agree_get.next fun w => ?_
  dsimp only
  split
  · exact (agree_modify _).next fun _ => agree_pure rfl
  · refine ((agree_ofResult hsettings.credentials).blaming _ _ _).bind fun c c' hc => ?_
    refine ((agree_ofResult (.refl _)).blaming _ _ _).next fun environment => ?_
    refine ((agree_act (accessKey_agrees hP hc _ _)).blaming _ _ _).bind fun k k' hk => ?_
    refine ((agree_act (Probe.containerExists_agrees hI hk _ _)).blaming _ _ _).next fun there => ?_
    split
    · exact (agree_modify _).next fun _ => agree_pure rfl
    · exact (agree_modify _).next fun _ => agree_pure rfl

/-! ## The masked environment -/

/-- **The registry's variables differ in the key alone**, which is a secret. -/
theorem environment_agrees (hP : P.Twins K) (hsettings : Settings.Alike K settings settings')
    (c : StorageConfig) :
    Action.Agree P (fun l l' => l.map RegistryVariable.masked = l'.map RegistryVariable.masked)
      (environment settings c) (environment settings' c) := by
  unfold environment
  rw [hsettings.customCloud]
  refine (Action.agree_ofResult hsettings.credentials).bind fun _ _ hc => ?_
  refine (Action.agree_ofResult (.refl _)).next fun environment => ?_
  -- the key is the only value that is not the same, and masking hides it
  exact (accessKey_agrees hP hc _ _).bind fun _ _ _ => Action.agree_pure rfl

end Storage

/-- A masked listing shows what is left when the secrets are masked. -/
theorem RegistryVariable.listing_masked (l : List RegistryVariable) :
    listing false l = listing true (l.map masked) := by
  simp only [listing, List.map_map]
  rfl

namespace Command

/-- **The masked environment does not depend on the key.** -/
theorem environment_agrees (hP : P.Twins K) {settings settings' : Settings}
    (hsettings : Settings.Alike K settings settings') (format : Format) (fresh : Fresh)
    (now : Moment) (record : Content) (infra : Option Content) :
    Program.Agree P Eq ((environment false).outcome format settings fresh now record infra)
      ((environment false).outcome format settings' fresh now record infra) := by
  unfold outcome withResult
  dsimp only
  split
  · refine Program.Agree.bind (Storage.environment_agrees hP hsettings _) fun e e' hends => ?_
    cases hends with
    | ok h =>
      refine Program.agree_pure ?_
      rw [RegistryVariable.listing_masked, RegistryVariable.listing_masked, h]
    | error f => exact Program.agree_pure rfl
  · exact Program.agree_pure rfl

end Command

/-! ## What a key has no part in -/

namespace Pairing

/-- With settings each, the sides come to the same outcome when the environment is shown without its
secrets: the same text and the same result. -/
def ShowsAlike (P : Pairing σ τ) (s s' : Settings) : Prop :=
  ∀ format fresh now record infra,
    Program.Agree P Eq
      ((Command.environment false).outcome format s fresh now record infra)
      ((Command.environment false).outcome format s' fresh now record infra)

/-- With settings each, the operations on the same work come to the same on both sides: the same
record, and the same value or fault. -/
structure OperatesAlike (P : Pairing σ τ) (s s' : Settings) : Prop where
  create : ∀ infra fresh now w, Program.Agree P Eq
    ((Storage.create s infra fresh now).start w) ((Storage.create s' infra fresh now).start w)
  remove : ∀ now w, Program.Agree P Eq
    ((Storage.remove s now).start w) ((Storage.remove s' now).start w)
  checkExists : ∀ now w, Program.Agree P Eq
    ((Storage.checkExists s now).start w) ((Storage.checkExists s' now).start w)

theorem Twins.showsAlike (hP : P.Twins K) {s s' : Settings} (h : Settings.Alike K s s') :
    P.ShowsAlike s s' := fun format fresh now record infra =>
  Command.environment_agrees hP h format fresh now record infra

theorem Twins.operatesAlike (hP : P.Twins K) (hI : P.Indifferent K) {s s' : Settings}
    (h : Settings.Alike K s s') : P.OperatesAlike s s' where
  create _ _ _ w := (Storage.create_agrees hP hI h).same w
  remove _ w := (Storage.remove_agrees hP hI h).same w
  checkExists _ w := (Storage.checkExists_agrees hP hI h).same w

end Pairing

/-- **Account keys stay secret.** Two keys of the user's make no difference to what is shown of the
environment, whatever the provider does, nor to any operation if the provider answers alike to them;
and the same is true of two keys that are looked up with the cluster's credentials. -/
theorem account_keys_stay_secret :
    (∀ {σ : Type} (r : Replier σ) (settings : Settings) (k k' : String),
      Text.isAllBlank k = false → Text.isAllBlank k' = false →
      let s := { settings with accountKey := some k }
      let s' := { settings with accountKey := some k' }
      (Pairing.self r).ShowsAlike s s' ∧
      ((Pairing.self r).Indifferent (fun a b => a = b ∨ a = k ∧ b = k') →
        (Pairing.self r).OperatesAlike s s')) ∧
    ∀ {σ τ : Type} (P : Pairing σ τ) (K : String → String → Prop), P.Twins K →
      ∀ settings : Settings, hasSecret settings.accountKey = false →
        P.ShowsAlike settings settings ∧
        (P.Indifferent K → P.OperatesAlike settings settings) := by
  refine ⟨fun r settings k k' hk hk' => ?_, fun P K hP settings hkey => ?_⟩
  · let K : String → String → Prop := fun a b => a = b ∨ a = k ∧ b = k'
    have hP : (Pairing.self r).Twins K := Pairing.self_twins r fun _ => Or.inl rfl
    have halike : Settings.Alike K _ _ := .keyed settings hk hk' (Or.inr ⟨rfl, rfl⟩)
    exact ⟨hP.showsAlike halike, fun hI => hP.operatesAlike hI halike⟩
  · have halike : Settings.Alike K settings settings := .unkeyed hkey
    exact ⟨hP.showsAlike halike, fun hI => hP.operatesAlike hI halike⟩

/-- A provider with one container, and with one first key for all accounts, to try things on. -/
def vault (key : String) : Replier Unit
  | .listKeys _, s => (.ok [⟨"key1", key⟩, ⟨"key2", "c3BhcmU="⟩], s)
  | .clients .., s | .containers _, s => (.ok (), s)
  | .containerExists .., s => (.ok true, s)
  | _, s => (.error (.api "not available"), s)

/-- A vault does not look at the key that comes with a call. -/
theorem vault_indifferent (key key' : String) (Related : Unit → Unit → Prop) :
    (Pairing.mk (vault key) (vault key') Related).Indifferent K where
  looks _ _ _ _ _ _ _ h := ⟨rfl, h⟩
  creates _ _ _ _ _ _ _ h := ⟨rfl, h⟩
  deletes _ _ _ _ _ _ _ h := ⟨rfl, h⟩

/-- Two vaults give the registry different keys, and nothing else tells them apart. -/
theorem vaults_show_no_key :
    let P : Pairing Unit Unit := ⟨vault "Zmlyc3Q=", vault "c2Vjb25k", fun _ _ => True⟩
    let config : StorageConfig := { account := "myaccount", container := "images" }
    let keyed (key : String) : Settings := { accountKey := some key }
    (Storage.environment clusterSettings config).run.run P.left () ≠
        (Storage.environment clusterSettings config).run.run P.right () ∧
      P.ShowsAlike clusterSettings clusterSettings ∧
      P.OperatesAlike clusterSettings clusterSettings ∧
      (Pairing.self P.left).ShowsAlike (keyed "Zmlyc3Q=") (keyed "c2Vjb25k") ∧
      (Pairing.self P.left).OperatesAlike (keyed "Zmlyc3Q=") (keyed "c2Vjb25k") := by
  intro P config keyed
  let K : String → String → Prop := fun a b => a = "Zmlyc3Q=" ∧ b = "c2Vjb25k"
  have hP : P.Twins K := {
    keyless := by
      intro c hc s t hst
      cases c <;> first | exact hc.elim | exact ⟨rfl, hst⟩
    keys := fun account s t hst => ⟨.ok (.cons ⟨rfl, rfl⟩ "key1" _), hst⟩ }
  obtain ⟨hshows, hoperates⟩ := account_keys_stay_secret.2 P K hP clusterSettings rfl
  obtain ⟨hshown, hoperated⟩ :=
    account_keys_stay_secret.1 P.left {} "Zmlyc3Q=" "c2Vjb25k" (by decide) (by decide)
  refine ⟨by decide, hshows, hoperates (vault_indifferent _ _ _), hshown, ?_⟩
  exact hoperated (vault_indifferent _ _ _)

end RegistryStorage
